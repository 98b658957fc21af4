import Entitlement.Settings.Basic
import Entitlement.Settings.Options

/-!
# `Entitlement.Settings.Source` — where the value of a setting is taken from

A setting is given by a keyword or by a variable of the environment, and a keyword wins.  The
variable of a field is its name behind `PRINCIPALS_`, in any case; of several spellings the last one
in the environment counts.  A keyword is the name of its field in any case; of several spellings the
first one in the call counts, and the others are passed over in silence.  Options of the call may
change how the environment is read, and are no settings themselves.

Variables that belong to no field are nobody's business and are ignored.  A keyword that belongs to
no field is a mistake of the caller and is reported, after everything that is wrong with the fields.
-/
namespace Entitlement.Settings

/-- Whether a variable of a name belongs to a field. -/
def Options.names (options : Options) (given : String) (name : Name) : Bool :=
  if options.exactCase then given == options.before ++ name.key
  else Text.lowerName given == Text.lowerName (options.before ++ name.key)

/-- Whether a value of a variable counts as given. -/
def Options.counts (options : Options) (value : String) : Bool :=
  !(options.ignoreEmpty && value.isEmpty)

/-- What a value of a variable stands for. -/
def Options.meaning (options : Options) (value : String) : Value :=
  if options.nullWord = some value then .null else .text value

/-- The value an environment gives to a field. -/
def Environment.value? (environment : Environment) (options : Options) (name : Name) :
    Option Value :=
  (environment.findRev? fun var => options.counts var.2 && options.names var.1 name).map
    fun var => options.meaning var.2

/-- Whether a keyword is the name of a field. -/
def isNameOf (keyword : String) (name : Name) : Bool := Text.lowerName keyword == name.key

/-- The value the keywords give to a field. -/
def Keywords.value? (keywords : Keywords) (name : Name) : Option Value :=
  (keywords.find? fun kw => isNameOf kw.1 name).map Prod.snd

/-- The keywords that belong to no field, as issues. -/
def Keywords.issues (keywords : Keywords) : List Issue :=
  (keywords.settings.filter fun kw => !Name.all.any (isNameOf kw.1)).map
    fun kw => ⟨kw.1, .unknownName⟩

/-- The value taken for a field: the keyword's, else the environment's. -/
def taken (environment : Environment) (options : Options) (keywords : Keywords) (name : Name) :
    Option Value :=
  (keywords.value? name).or (environment.value? options name)

/-- The settings made of an environment and keywords. -/
def build (environment : Environment) (keywords : Keywords) : Except Fault Settings :=
  if keywords.any (·.1 == "__pydantic_self__") then
    .error (.reservedField "BaseSettings.__init__" "__pydantic_self__")
  else
    match keywords.options with
    | .error fault => .error fault
    | .ok options =>
      match ofTaken (taken environment options keywords) keywords.issues with
      | .ok s => .ok s
      | .error issues => .error (.invalidSettings issues)

end Entitlement.Settings

import Entitlement.Settings.Environment

/-!
# `Entitlement.Settings.Options` — how a call wants the environment to be read

Besides the settings themselves a call may give options, which are told from settings by the low
line in front of their names and are recognised by the exact name alone.  Four of them change which
variable belongs to a setting and what its value stands for:

* the text in front of a setting's name in the name of its variable;
* whether the names of variables are compared in their exact case;
* whether a variable with an empty value counts as not given;
* a word that stands for null.

The others concern sources of settings that are not in use here, such as a command line, and have no
effect.
-/
namespace Entitlement.Settings

/-- The keywords of a call, in order. -/
abbrev Keywords := List (String × Value)

/-- How the environment is read. -/
structure Options where
  /-- What stands in front of the name of a setting in the name of its variable. -/
  before : String := "PRINCIPALS_"
  exactCase : Bool := false
  ignoreEmpty : Bool := false
  nullWord : Option String := none
deriving DecidableEq, Repr

/-- The names of the options that have an effect. -/
def readingOptions : List String :=
  ["_case_sensitive", "_env_prefix", "_env_ignore_empty", "_env_parse_none_str"]

/-- The names of the options that concern other sources of settings. -/
def idleOptions : List String :=
  ["_nested_model_default_partial_update", "_env_prefix_target", "_env_file",
    "_env_file_encoding", "_env_nested_delimiter", "_env_nested_max_split", "_env_parse_enums",
    "_cli_prog_name", "_cli_parse_args", "_cli_settings_source", "_cli_parse_none_str",
    "_cli_hide_none_type", "_cli_avoid_json", "_cli_enforce_required",
    "_cli_use_class_docs_for_groups", "_cli_exit_on_error", "_cli_prefix",
    "_cli_flag_prefix_char", "_cli_implicit_flags", "_cli_ignore_unknown_args",
    "_cli_kebab_case", "_cli_shortcuts", "_secrets_dir"]

/-- Whether a keyword is an option and no setting. -/
def isOption (keyword : String) : Bool :=
  readingOptions.contains keyword || idleOptions.contains keyword

/-- The keywords that are no options. -/
def Keywords.settings (keywords : Keywords) : Keywords :=
  keywords.filter fun kw => !isOption kw.1

/-- The value of an option; null is as good as nothing. -/
def Keywords.option? (keywords : Keywords) (name : String) : Option Value :=
  match keywords.lookup name with
  | some .null => none
  | found => found

/-- Whether an option is switched on. -/
def Keywords.isOn (keywords : Keywords) (name : String) : Bool :=
  ((keywords.option? name).map Value.truthy).getD false

/-- The text an option gives for what stands in front of names; only a text goes there. -/
def prefixOption : Option Value → Except Fault String
  | none => .ok ({} : Options).before
  | some (.text s) => .ok s
  | some v =>
    match v with
    | .bool _ | .int _ | .float _ => .error (.noLength v)
    | v => .error (.notConcatenable v)

/-- The options of a call. -/
def Keywords.options (keywords : Keywords) : Except Fault Options :=
  (prefixOption (keywords.option? "_env_prefix")).map fun before =>
    { before
      exactCase := keywords.isOn "_case_sensitive"
      ignoreEmpty := keywords.isOn "_env_ignore_empty"
      nullWord := match keywords.option? "_env_parse_none_str" with
        | some (.text s) => some s
        | _ => none }

end Entitlement.Settings

import Entitlement.Text.Template.Whole
import Entitlement.Text.Template.Reach

/-!
# `Entitlement.Text.Template` — message templates with replacement fields

A template is a text in which a brace written twice stands for one brace, and a single opening
brace begins a replacement field, which ends at its closing brace.  A field is a name, a path of
steps into the value, a conversion behind `!`, and a layout behind `:`.  The one name that has a
value is given by the caller; there are no positional values, so a field without a name, or with a
number for a name, finds nothing.  A path leads from the text to its members and theirs; what it
reaches is converted and laid out as its class allows.

The layout of a field is itself a template when it contains a brace, and it is expanded one level
deeper; there are two levels.

`expand` works from left to right and a field is worked out before anything behind it is looked at.
So of two faults the one further left is reported, even when the one further right is a fault of
shape.  The text of a value is put in place as it is: it is never looked at as a template.
-/
namespace Entitlement.Text

/-! ## The shape of a field -/

/-- A replacement field, in its four parts. -/
structure Field where
  path : List Char
  conversion : Option Char
  layout : List Char
deriving DecidableEq, Repr

/-- The path of a field up to the brace, colon or exclamation mark that ends it: the path, that
mark, and what follows.  Inside square brackets nothing but the closing bracket is looked at. -/
def spanPath (inBrackets : Bool) : List Char → Except TemplateError (List Char × Char × List Char)
  | [] => .error .unclosedField
  | c :: rest =>
    if !inBrackets && c == '\x7b' then .error .braceInName
    else if !inBrackets && (c == '\x7d' || c == ':' || c == '!') then .ok ([], c, rest)
    else
      match spanPath (if inBrackets then c != ']' else c == '[') rest with
      | .error e => .error e
      | .ok (path, mark, rest) => .ok (c :: path, mark, rest)

/-- The layout of a field up to its closing brace, `depth` being the braces open inside it. -/
def spanLayout (depth : Nat) : List Char → Except TemplateError (List Char × List Char)
  | [] => .error .unclosedLayout
  | c :: rest =>
    if depth = 0 ∧ c = '\x7d' then .ok ([], rest)
    else
      match spanLayout (if c = '\x7d' then depth - 1 else if c = '\x7b' then depth + 1 else depth)
        rest with
      | .error e => .error e
      | .ok (layout, rest) => .ok (c :: layout, rest)

/-- What follows the path of a field: its conversion and its layout. -/
def spanTail (path : List Char) (mark : Char) (rest : List Char) :
    Except TemplateError (Field × List Char) :=
  let withLayout (conversion : Option Char) (rest : List Char) :=
    match spanLayout 0 rest with
    | .error e => .error e
    | .ok (layout, rest) => .ok (⟨path, conversion, layout⟩, rest)
  if mark = '\x7d' then .ok (⟨path, none, []⟩, rest)
  else if mark = ':' then withLayout none rest
  else
    match rest with
    | [] => .error .missingConversion
    | [_] => .error .unclosedLayout
    | conversion :: c :: rest =>
      if c = '\x7d' then .ok (⟨path, some conversion, []⟩, rest)
      else if c = ':' then withLayout (some conversion) rest
      else .error .colonExpected

/-- A field whose opening brace was just read, and what follows its closing brace. -/
def spanField (cs : List Char) : Except TemplateError (Field × List Char) :=
  match spanPath false cs with
  | .error e => .error e
  | .ok (path, mark, rest) => spanTail path mark rest

/-! ## A field uses up the text it is read from -/

theorem length_spanPath {b : Bool} {cs path rest : List Char} {mark : Char}
    (h : spanPath b cs = .ok (path, mark, rest)) : rest.length < cs.length := by
  induction cs generalizing b path with
  | nil => simp [spanPath] at h
  | cons c cs ih => grind [spanPath]

theorem length_spanLayout {n : Nat} {cs layout rest : List Char}
    (h : spanLayout n cs = .ok (layout, rest)) : rest.length < cs.length := by
  induction cs generalizing n layout with
  | nil => simp [spanLayout] at h
  | cons c cs ih => grind [spanLayout]

theorem length_spanTail {cs path rest : List Char} {mark : Char} {field : Field}
    (h : spanTail path mark cs = .ok (field, rest)) : rest.length ≤ cs.length := by
  unfold spanTail at h
  grind [→ length_spanLayout]

theorem length_spanField {cs rest : List Char} {field : Field}
    (h : spanField cs = .ok (field, rest)) : rest.length < cs.length := by
  unfold spanField at h
  grind [→ length_spanTail, → length_spanPath]

/-! ## The value of a field -/

/-- The position or the name a part of a path stands for. -/
def position? (part : List Char) : Except TemplateError (Option Nat) :=
  match spanNumber part with
  | .error e => .error e
  | .ok (n, rest) => .ok (if rest.isEmpty then n else none)

/-- The character that ends a step of a path. -/
def beginsStep (c : Char) : Bool := c == '.' || c == '['

/-- What stands in the brackets of a step: a position if it is written in digits, else a key. -/
def index? (part : List Char) : Except TemplateError Index :=
  match position? part with
  | .error e => .error e
  | .ok at? =>
    if part.isEmpty then .error .emptyStep
    else .ok (at?.elim (.key (String.ofList part)) .position)

/-- What the rest of a path leads to from an item. -/
def Item.follow (item : Item) : List Char → Except TemplateError Item
  | [] => .ok item
  | c :: rest =>
    if c = '.' then
      let name := rest.takeWhile (!beginsStep ·)
      if name.isEmpty then .error .emptyStep
      else
        match item.member (String.ofList name) with
        | .error e => .error e
        | .ok found => found.follow (rest.dropWhile (!beginsStep ·))
    else if c = '[' then
      match _h : rest.dropWhile (· != ']') with
      | [] => .error .unclosedIndex
      | _ :: rest' =>
        match index? (rest.takeWhile (· != ']')) with
        | .error e => .error e
        | .ok i =>
          match item.at i with
          | .error e => .error e
          | .ok found => found.follow rest'
    else .error .strayAfterIndex
termination_by path => path.length
decreasing_by
  · have := (List.dropWhile_suffix (l := rest) (!beginsStep ·)).length_le
    simp only [List.length_cons]
    omega
  · have := (List.dropWhile_suffix (l := rest) (· != ']')).length_le
    rw [_h] at this
    simp only [List.length_cons] at this ⊢
    omega

/-- What a path leads to, `name` being the one name that has a value. -/
def lookUp (name value path : List Char) : Except TemplateError Item :=
  let first := path.takeWhile (!beginsStep ·)
  match position? first with
  | .error e => .error e
  | .ok (some n) => .error (.positionOutOfRange n)
  | .ok none =>
    if first.isEmpty then .error (.positionOutOfRange 0)
    else if first = name then (Item.text value).follow (path.dropWhile (!beginsStep ·))
    else .error (.unknownName (String.ofList first))

/-- An item after a conversion: as it is, or its display or its literal as a text. -/
def convert (item : Item) : Option Char → Except TemplateError Item
  | none => .ok item
  | some c =>
    if c = '\x00' then .ok item
    else if c = 's' then .ok (.text item.display)
    else if c = 'r' then .ok (.text (item.literal isPrintable))
    else if c = 'a' then .ok (.text (item.literal fun c => c.toNat < 128 && isPrintable c))
    else .error (.unknownConversion c)

/-- An item, set as the notation of a layout says.  Only texts and numbers have layouts. -/
def Item.layOut (spec : List Char) : Item → Except TemplateError (List Char)
  | .text cs => Text.layOut spec cs
  | item@(.whole n) => layOutWhole item.class.name item.display spec n
  | item@(.flag b) => layOutWhole item.class.name item.display spec b.toNat
  | item => if spec.isEmpty then .ok item.display else .error (.noLayout item.class.fullName)

/-! ## Expansion -/

/-- The text of a field, `expandLayout` being used on a layout that contains a brace. -/
def Field.expand (expandLayout : List Char → Except TemplateError (List Char))
    (name value : List Char) (field : Field) : Except TemplateError (List Char) := do
  let found ← lookUp name value field.path
  let item ← convert found field.conversion
  let layout ← if '\x7b' ∈ field.layout then expandLayout field.layout else .ok field.layout
  item.layOut layout

/-- A template with its fields replaced by what `expandField` makes of them. -/
def expandWith (expandField : Field → Except TemplateError (List Char)) :
    List Char → Except TemplateError (List Char)
  | [] => .ok []
  | c :: rest =>
    if c = '\x7d' then
      match rest with
      | [] => .error .loneClosingBrace
      | d :: rest =>
        if d = '\x7d' then (expandWith expandField rest).map (c :: ·) else .error .loneClosingBrace
    else if c = '\x7b' then
      match rest with
      | [] => .error .loneOpeningBrace
      | d :: rest' =>
        if d = '\x7b' then (expandWith expandField rest').map (c :: ·)
        else
          match _h : spanField (d :: rest') with
          | .error e => .error e
          | .ok (field, rest'') =>
            match expandField field with
            | .error e => .error e
            | .ok text => (expandWith expandField rest'').map (text ++ ·)
    else (expandWith expandField rest).map (c :: ·)
termination_by cs => cs.length
decreasing_by
  · simp only [List.length_cons]; omega
  · simp only [List.length_cons]; omega
  · have shorter := length_spanField _h
    simp only [List.length_cons] at shorter ⊢
    omega
  · simp only [List.length_cons]; omega

/-- A template, expanded with `levels` levels of templates inside templates. -/
def expandLevels (name value : List Char) : Nat → List Char → Except TemplateError (List Char)
  | 0, _ => .error .tooDeep
  | levels + 1, cs => expandWith (Field.expand (expandLevels name value levels) name value) cs

/-- A template with the value put in place of every field of that name. -/
def expand (name value template : String) : Except TemplateError String :=
  (expandLevels name.toList value.toList 2 template.toList).map String.ofList

end Entitlement.Text

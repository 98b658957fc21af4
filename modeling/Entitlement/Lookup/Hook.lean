import Entitlement.Principal

/-!
# `Entitlement.Lookup.Hook` — authorities from outside the store

A hook is called with the username as the store spells it and the authorities found so far.  Its
call fails, or leaves a list and gives something back.  What it gives back is either a value, and
then the hook is done, or something to be waited for, which goes on with the list and may still
fail.  What is left in the end is granted: nothing a hook adds is prefixed, and repetitions stay.
Values that are given back, at once or later, are dropped.

A script is a hook made of edits that are carried out in order.  Positions count from the front, and
a negative one from the end; inserting clamps the position to the list, popping does not, and both
refuse a position that no machine word holds before they look at the list.  A script carries its
edits out when it is called, or, when it is awaited, only once it is waited for.
-/
namespace Entitlement.Lookup

/-- What a call of a hook gives back. -/
inductive Reply where
  | value (returned : Value)
  /-- To be waited for; `rest` is what happens to the list meanwhile. -/
  | pending (rest : List Authority → Except Fault (List Authority × Value))

/-- A hook, by what its call does to the list and gives back. -/
abbrev Hook := String → List Authority → Except Fault (List Authority × Reply)

/-- What is left of the authorities found when the hook is over: at once if its call gave back a
value, and otherwise when what it gave back was waited for. -/
def Hook.outcome (hook : Hook) (username : String) (found : List Authority) :
    Except Fault (List Authority) :=
  match hook username found with
  | .error fault => .error fault
  | .ok (left, .value _) => .ok left
  | .ok (left, .pending rest) => (rest left).map Prod.fst

/-- One edit of a script. -/
inductive Edit where
  | append (name : String)
  /-- Appends the username behind a given text. -/
  | appendUser (before : String)
  | insert (position : Int) (name : String)
  | pop (position : Int)
  | clear
  | reverse
  | fail (fault : Fault)

/-- A position counted from the front; a negative one counts from the end of `n` members. -/
def fromFront (n : Nat) (position : Int) : Int :=
  if position < 0 then position + n else position

/-- A list after one edit. -/
def Edit.apply (username : String) (found : List Authority) : Edit → Except Fault (List Authority)
  | .append name => .ok (found ++ [⟨name⟩])
  | .appendUser before => .ok (found ++ [⟨before ++ username⟩])
  | .insert position name =>
    let i := (fromFront found.length position).toNat
    if !fitsWord position then .error .positionTooLarge
    else .ok (found.take i ++ ⟨name⟩ :: found.drop i)
  | .pop position =>
    let i := fromFront found.length position
    if !fitsWord position then .error .positionTooLarge
    else if found.isEmpty then .error .popFromEmpty
    else if i < 0 ∨ (found.length : Int) ≤ i then .error .popOutOfRange
    else .ok (found.eraseIdx i.toNat)
  | .clear => .ok []
  | .reverse => .ok found.reverse
  | .fail fault => .error fault

/-- A hook made of edits. -/
structure Script where
  awaited : Bool := false
  edits : List Edit
  returned : Value := .null

namespace Script

/-- A list after the edits, in their order. -/
def run (script : Script) (username : String) (found : List Authority) :
    Except Fault (List Authority) :=
  script.edits.foldlM (Edit.apply username) found

def hook (script : Script) : Hook := fun username found =>
  if script.awaited then
    .ok (found, .pending fun found => (script.run username found).map (·, script.returned))
  else (script.run username found).map (·, .value script.returned)

/-- A script comes to its edits, whether it carries them out at once or later. -/
@[simp] theorem outcome_hook (script : Script) (username : String) (found : List Authority) :
    script.hook.outcome username found = script.run username found := by
  unfold Hook.outcome hook
  cases script.awaited with
  | false => cases script.run username found <;> rfl
  | true =>
      show ((script.run username found).map (·, script.returned)).map Prod.fst = _
      cases script.run username found <;> rfl

end Script

end Entitlement.Lookup

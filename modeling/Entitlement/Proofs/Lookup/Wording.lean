import Entitlement.Lookup.Failure
import Entitlement.Proofs.Text.Template

/-!
# `Entitlement.Proofs.Lookup.Wording` — a failure is worded with its username as it is

A failure is worded by a template with a field for the username.  Whoever wants other words than the
default ones writes such a template piece by piece: the fields, and between them texts, whose braces
are written twice so that they are no fields.  Three things are said of the wording, for every kind
of failure and every username:

| | |
| :-- | :-- |
| a template of pieces | becomes the texts with the username in between (`expand_templateOf`) |
| what stands behind the pieces | is expanded as it would be alone (`expand_templateOf_append`) |
| no template, or the empty one | is the default one of the kind, and makes `text` (`render_none`) |

The username may hold anything, braces, exclamation marks and colons included.  That it is put in
and never looked at again is the second row: the template behind it, right or wrong, does not meet
it.

Nothing is said here of a field with a path, a conversion or a layout.
-/
namespace Entitlement

open Text

/-! ## The templates of the kinds -/

theorem isName_username : IsName "username".toList where
  nonempty := by decide
  parts := forall_mem_of_all rfl
  noNumber := by rfl

theorem FailureKind.phrase_isPlain (kind : FailureKind) :
    (∀ c ∈ kind.phrase.1.toList, isPlain c) ∧ ∀ c ∈ kind.phrase.2.toList, isPlain c := by
  cases kind with
  | lookupFailed => exact ⟨forall_mem_of_all rfl, forall_mem_of_all rfl⟩
  | userNotFound => exact ⟨forall_mem_of_all rfl, forall_mem_of_all rfl⟩
  | noAuthority => exact ⟨forall_mem_of_all rfl, forall_mem_of_all rfl⟩

namespace LookupFailure

/-- The template made of pieces, with the username for its field. -/
def templateOf (pieces : List Piece) : String :=
  String.ofList (pieces.flatMap (Piece.written "username".toList))

def filled (username : String) (pieces : List Piece) : String :=
  String.ofList (pieces.flatMap (Piece.shown username.toList))

theorem expand_templateOf_append (username : String) (pieces : List Piece) (rest : String) :
    expand "username" username (templateOf pieces ++ rest) =
      (expand "username" username rest).map (filled username pieces ++ ·) :=
  expand_append_pieces isName_username username pieces rest

theorem expand_templateOf (username : String) (pieces : List Piece) :
    expand "username" username (templateOf pieces) = .ok (filled username pieces) := by
  have hnone : expand "username" username "" = .ok "" := by
    simp only [expand, String.toList_empty, expandLevels, expandWith_nil]
    rfl
  have hfront := expand_templateOf_append username pieces ""
  simpa only [String.append_empty, hnone, Except.map] using hfront

def defaultPieces (kind : FailureKind) : List Piece :=
  [.literal kind.phrase.1.toList, .field, .literal kind.phrase.2.toList]

theorem templateOf_defaultPieces (kind : FailureKind) :
    templateOf (defaultPieces kind) = kind.defaultTemplate := by
  obtain ⟨hbefore, hbehind⟩ := kind.phrase_isPlain
  rw [← String.toList_inj]
  simp [templateOf, defaultPieces, Piece.written, doubled_of_isPlain hbefore,
    doubled_of_isPlain hbehind, FailureKind.defaultTemplate]

theorem filled_defaultPieces (failure : LookupFailure) :
    filled failure.username (defaultPieces failure.kind) = failure.text := by
  simp [filled, defaultPieces, Piece.shown, text, String.ofList_append, String.append_assoc]

/-! ## The wording -/

theorem defaultTemplate_ne_empty (kind : FailureKind) : kind.defaultTemplate.isEmpty = false := by
  cases kind with
  | lookupFailed => decide
  | userNotFound => decide
  | noAuthority => decide

theorem render_some (failure : LookupFailure) {template : String} (h : template.isEmpty = false) :
    failure.render (some template) = expand "username" failure.username template := by
  simp [render, h]

/-- Without a template a failure is worded by its default one, and that always succeeds. -/
theorem render_none (failure : LookupFailure) : failure.render none = .ok failure.text := by
  have hchosen : failure.render none =
      expand "username" failure.username failure.kind.defaultTemplate := rfl
  rw [hchosen, ← templateOf_defaultPieces, expand_templateOf, filled_defaultPieces]

/-- How a failure is worded. -/
structure RendersVerbatim (failure : LookupFailure) : Prop where
  /-- A template made of pieces is worded: each text as it is meant, the username in each field. -/
  pieces : ∀ pieces : List Piece, templateOf pieces ≠ "" →
    failure.render (some (templateOf pieces)) = .ok (filled failure.username pieces)
  /-- What was put in is not looked at again: whatever stands behind it comes out, or fails, as it
  would alone. -/
  behind : ∀ (pieces : List Piece) (template : String), template ≠ "" →
    failure.render (some (templateOf pieces ++ template)) =
      (failure.render (some template)).map (filled failure.username pieces ++ ·)
  /-- The empty template is the default one of the kind. -/
  empty : failure.render (some "") = failure.render (some failure.kind.defaultTemplate)
  /-- So is a want of a template. -/
  absent : failure.render none = failure.render (some failure.kind.defaultTemplate)
  /-- Its wording is the text of the failure. -/
  default : failure.render none = .ok failure.text
  /-- So a failure can always be made, and the wording it is made with is that text. -/
  made : make failure.kind failure.username = .ok (failure, failure.text)

/-- Every failure is worded that way. -/
theorem render_verbatim (failure : LookupFailure) : RendersVerbatim failure where
  pieces := by
    intro pieces hne
    rw [render_some failure (by simpa using hne), expand_templateOf]
  behind := by
    intro pieces template hne
    have hrest : template.isEmpty = false := by simpa using hne
    have hall : (templateOf pieces ++ template).isEmpty = false := by
      simp [hne]
    rw [render_some failure hall, render_some failure hrest, expand_templateOf_append]
  empty := (render_some failure (defaultTemplate_ne_empty failure.kind)).symm
  absent := (render_some failure (defaultTemplate_ne_empty failure.kind)).symm
  default := render_none failure
  made := by
    rw [make, render_none]
    rfl

/-- The braces of a text next to a field, and a username that looks like fields of its own. -/
example :
    templateOf [.literal ['\x7b'], .field, .literal ['\x7d']] =
        "\x7b\x7b\x7busername\x7d\x7d\x7d" ∧
      (LookupFailure.mk .userNotFound "\x7b0!r:\x7d\x7d").render
          (some "\x7b\x7b\x7busername\x7d\x7d\x7d") = .ok "\x7b\x7b0!r:\x7d\x7d\x7d" :=
  ⟨by decide, by cbv⟩

end LookupFailure
end Entitlement

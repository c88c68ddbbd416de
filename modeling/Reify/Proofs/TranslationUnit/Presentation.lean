import Reify.Proofs.Decl.Presentation
import Reify.Proofs.TranslationUnit.Dump

/-!
# Presentations of units

A text presents a unit if it spells a JSON value that does.  Loading is reading a value off the text
and the unit off the value, and each stage accepts exactly what its relation says; so the texts that
load are those that present a unit, and they load as that unit.
-/

namespace Reify.TranslationUnit

open Json (Presentation)

/-- The values that present a unit. -/
def presentation (u : TranslationUnit) : Presentation :=
  .record [.required "filename" (.text u.filename),
    .optional "decls" (.list (u.decls.map Decl.presentation)) (u.decls = [])]

/-- The texts that present a unit, with no more than a hundred and twenty-seven brackets open at any
place that is read. -/
def PresentedBy (u : TranslationUnit) (source : String) : Prop :=
  ∃ j, Json.Spells source j ∧ u.presentation 127 j

theorem presentation_iff {u : TranslationUnit} {n : Nat} {j : Json} :
    u.presentation n j ↔ ofJson? n j = some u := by
  cases n with
  | zero => simp [ofJson?, presentation]
  | succ n =>
    have decls (j : Json) : Presentation.list (u.decls.map Decl.presentation) n j ↔
        Decl.listOfJson? n j = some u.decls := by
      rw [← Decl.presentations_eq_map]
      exact Decl.list_presentations_iff (Decl.bodyPresentation_iff_of_mem u.decls)
    refine Presentation.record_two_iff fun _ _ ↦ ?_
    cases u
    simp [decls, Option.bind_eq_some_iff, ← and_assoc]

theorem ofDump_eq_ok_iff {u : TranslationUnit} {source : String} :
    ofDump source = .ok u ↔ u.PresentedBy source := by
  have read : Json.read? ofJson? source = some u ↔ u.PresentedBy source := by
    rw [Json.read?, Option.bind_eq_bind, Option.bind_eq_some_iff]
    simp only [Json.parse?_eq_some_iff, ← presentation_iff]
    rfl
  rw [← read, ofDump]
  cases Json.read? ofJson? source with
  | none => simp
  | some v => simp

/-- Loading accepts exactly the presentations of units.  A text loads as a unit if and only if it
presents the unit, and a text that presents no unit is invalid input. -/
theorem load_iff_presentedBy (source : String) :
    (∀ u, (load source).result = .ok u ↔ u.PresentedBy source) ∧
    ((∃ message, (load source).result = .error (.invalidInput message)) ↔
      ∀ u : TranslationUnit, ¬u.PresentedBy source) := by
  rw [result_load]
  constructor
  · intro u
    exact ofDump_eq_ok_iff
  · simp only [← ofDump_eq_ok_iff]
    constructor
    · rintro ⟨message, failed⟩ u read
      rw [read] at failed
      cases failed
    · intro unread
      unfold ofDump at unread ⊢
      cases h : Json.read? ofJson? source with
      | none => exact ⟨_, rfl⟩
      | some u =>
        rw [h] at unread
        exact absurd rfl (unread u)

end Reify.TranslationUnit

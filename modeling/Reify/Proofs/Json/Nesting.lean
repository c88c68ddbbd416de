import Reify.Proofs.Json.Presentation
import Reify.Proofs.Json.Reader

/-!
# How deep the written form of a presented value nests

A dump spells out what a presentation may leave out, and so it may nest deeper.  But what is left
out is an empty list or a structure without parts, and these open one bracket.  So a value that is
presented where so many more brackets may be opened is written with one bracket more at most, a
bound that each way to build presentations keeps.
-/

namespace Reify.Json.Presentation

/-- Whatever is presented under a limit is written with one level more than that at most. -/
def Bounds (p : Presentation) (v : Json) : Prop := ∀ n j, p n j → v.depth ≤ n + 1

/-- What is written without a bracket is below every bound. -/
theorem bounds_of_depth_eq_zero {p : Presentation} {v : Json} (h : v.depth = 0) : p.Bounds v :=
  fun n _ _ ↦ h.trans_le (Nat.zero_le (n + 1))

theorem Bounds.nullable {α : Type} {p : α → Presentation} {v : α → Json} {o : Option α}
    (h : ∀ a ∈ o, (p a).Bounds (v a)) : (nullable (o.map p)).Bounds (.nullable (o.map v)) := by
  cases o with
  | none => exact bounds_of_depth_eq_zero rfl
  | some a => exact h a rfl

theorem Bounds.list {ps : List Presentation} {vs : List Json} (h : List.Forall₂ Bounds ps vs) :
    (list ps).Bounds (.array vs) := by
  intro n j presents
  unfold Presentation.list at presents
  split at presents
  · rename_i n js
    rw [depth_array_le]
    induction h generalizing js with
    | nil => nofun
    | cons first others ih =>
      cases presents with
      | cons here there => exact List.forall_mem_cons.mpr ⟨first _ _ here, ih _ there⟩
  · exact presents.elim

theorem Bounds.tagged {p : Presentation} {v : Json} (h : p.Bounds v) (tag name : String) :
    (tagged tag p).Bounds (.tagged name v) := by
  intro n j presents
  obtain ⟨m, _, payload, rfl, -, -, inner⟩ := tagged_iff.mp presents
  rw [tagged_eq, depth_object_singleton_le]
  exact h m payload inner

/-- The value of a field is bounded if it is given, and opens one bracket at most if it is left
out. -/
structure Field.Bounds (f : Field) (v : Json) : Prop where
  given : f.value.Bounds v
  left : f.omissible → v.depth ≤ 1

theorem Field.Bounds.required {p : Presentation} {v : Json} (h : p.Bounds v) (name : String) :
    (Field.required name p).Bounds v :=
  ⟨h, False.elim⟩

theorem Field.Bounds.optional {p : Presentation} {v : Json} {isDefault : Prop} (h : p.Bounds v)
    (name : String) (default : isDefault → v.depth ≤ 1) :
    (Field.optional name p isDefault).Bounds v :=
  ⟨h, default⟩

/-- A field without brackets is bounded, whether it may be left out or not. -/
theorem Field.bounds_of_depth_eq_zero {f : Field} {v : Json} (h : v.depth = 0) : f.Bounds v :=
  ⟨Presentation.bounds_of_depth_eq_zero h, fun _ ↦ h.trans_le (Nat.zero_le 1)⟩

/-- Whatever stands in the slot of a field, or nothing, keeps the bound. -/
theorem Field.Bounds.depth_le {f : Field} {v : Json} {n : Nat} {slot : Option Json}
    (h : f.Bounds v) (fits : f.Fits n slot) : v.depth ≤ n + 1 := by
  cases slot with
  | none => exact (h.left fits).trans (Nat.le_add_left 1 n)
  | some j => exact h.given n j fits

/-- A structure is bounded if its fields are. -/
theorem Bounds.record {fields : List Field} {written : List (String × Json)}
    (h : List.Forall₂ (fun f w ↦ f.Bounds w.2) fields written) :
    (record fields).Bounds (.record written) := by
  intro n j presents
  cases n with
  | zero => exact absurd presents not_record_zero
  | succ n =>
    obtain ⟨slots, -, fits⟩ := record_succ_iff.mp presents
    rw [depth_record_le]
    clear presents
    induction h generalizing slots with
    | nil => nofun
    | cons first others ih =>
      cases fits with
      | cons here there => exact List.forall_mem_cons.mpr ⟨first.depth_le here, ih _ there⟩

end Reify.Json.Presentation

import Reify.Json.Reader
import Reify.Proofs.Json.Scanner

/-!
# Readers and nesting

A reader may open only so many brackets.  What it reads back from a dump it therefore reads back
exactly when the dump nests no deeper, so the statements about readers have the form
`reader n j = if j.depth ≤ n then some a else none`.  The lemmas here take such statements from the
fields of a structure to the structure, and from the items of a list to the list.
-/

namespace Reify.Json

/-! ## Depth -/

mutual

/-- How deep arrays and objects nest in a value. -/
def depth : Json → Nat
  | .scalar _ => 0
  | .array items => itemsDepth items + 1
  | .object members => membersDepth members + 1

/-- How deep the deepest of the items nests. -/
def itemsDepth : List Json → Nat
  | [] => 0
  | v :: vs => max v.depth (itemsDepth vs)

/-- How deep the value of the deepest of the members nests. -/
def membersDepth : List (List Piece × Json) → Nat
  | [] => 0
  | (_, v) :: ms => max v.depth (membersDepth ms)

end

variable {n : Nat}

@[simp] theorem depth_scalar (s : Scalar) : (scalar s).depth = 0 := rfl

@[simp] theorem depth_text (s : String) : (text s).depth = 0 := rfl

@[simp] theorem depth_nat (k : Nat) : (nat k).depth = 0 := rfl

@[simp] theorem depth_bool (b : Bool) : (bool b).depth = 0 := rfl

theorem itemsDepth_le {vs : List Json} : itemsDepth vs ≤ n ↔ ∀ v ∈ vs, v.depth ≤ n := by
  induction vs with
  | nil => simp [itemsDepth]
  | cons v vs ih => rw [itemsDepth, Nat.max_le, ih, List.forall_mem_cons]

theorem membersDepth_le {fields : List (String × Json)} :
    membersDepth (fields.map fun (name, value) ↦ (Piece.ofString name, value)) ≤ n ↔
      ∀ f ∈ fields, f.2.depth ≤ n := by
  induction fields with
  | nil => simp [membersDepth]
  | cons f fields ih => rw [List.map_cons, membersDepth, Nat.max_le, ih, List.forall_mem_cons]

@[simp] theorem depth_array_le {items : List Json} :
    (array items).depth ≤ n + 1 ↔ ∀ v ∈ items, v.depth ≤ n := by
  rw [depth, Nat.add_le_add_iff_right, itemsDepth_le]

@[simp] theorem depth_record_le {fields : List (String × Json)} :
    (record fields).depth ≤ n + 1 ↔ ∀ f ∈ fields, f.2.depth ≤ n := by
  rw [record, depth, Nat.add_le_add_iff_right, membersDepth_le]

@[simp] theorem tagged_eq (tag : String) (payload : Json) :
    tagged tag payload = .object [(Piece.ofString tag, payload)] := rfl

@[simp] theorem depth_object_singleton_le {k : List Piece} {v : Json} :
    (object [(k, v)]).depth ≤ n + 1 ↔ v.depth ≤ n := by
  rw [depth, Nat.add_le_add_iff_right, membersDepth, membersDepth, Nat.max_zero]

@[simp] theorem depth_nullable_le {o : Option Json} :
    (nullable o).depth ≤ n ↔ ∀ j ∈ o, j.depth ≤ n := by
  cases o with
  | none => simp [nullable]
  | some j => simp [nullable]

@[simp] theorem depth_array_ne_zero (items : List Json) : (array items).depth ≠ 0 :=
  Nat.succ_ne_zero _

@[simp] theorem depth_record_ne_zero (fields : List (String × Json)) : (record fields).depth ≠ 0 :=
  Nat.succ_ne_zero _

@[simp] theorem depth_object_ne_zero (members : List (List Piece × Json)) :
    (object members).depth ≠ 0 :=
  Nat.succ_ne_zero _

/-! ## Validity -/

theorem itemsValid_iff {vs : List Json} : ItemsValid vs ↔ ∀ v ∈ vs, v.Valid := by
  induction vs with
  | nil => simp [ItemsValid]
  | cons v vs ih => rw [ItemsValid, ih, List.forall_mem_cons]

theorem membersValid_iff {fields : List (String × Json)} :
    MembersValid (fields.map fun (name, value) ↦ (Piece.ofString name, value)) ↔
      ∀ f ∈ fields, f.2.Valid := by
  induction fields with
  | nil => simp [MembersValid]
  | cons f fields ih => rw [List.map_cons, MembersValid, ih, List.forall_mem_cons]

@[simp] theorem valid_null : (scalar .null).Valid := trivial

@[simp] theorem valid_text (s : String) : (text s).Valid := trivial

@[simp] theorem valid_nat (k : Nat) : (nat k).Valid := trivial

@[simp] theorem valid_bool (b : Bool) : (bool b).Valid := trivial

@[simp] theorem valid_array {items : List Json} : (array items).Valid ↔ ∀ v ∈ items, v.Valid := by
  rw [Valid, itemsValid_iff]

@[simp] theorem valid_record {fields : List (String × Json)} :
    (record fields).Valid ↔ ∀ f ∈ fields, f.2.Valid := by
  rw [record, Valid, membersValid_iff]

@[simp] theorem valid_object_singleton {k : List Piece} {v : Json} :
    (object [(k, v)]).Valid ↔ v.Valid :=
  and_iff_left trivial

@[simp] theorem valid_nullable {o : Option Json} : (nullable o).Valid ↔ ∀ j ∈ o, j.Valid := by
  cases o with
  | none => simp [nullable]
  | some j => simp [nullable]

/-! ## Values that a reader gives up to a depth -/

section

variable {α β : Type} {p q : Prop} [Decidable p] [Decidable q]

@[simp] theorem bind_ite_none (o : Option α) (f : α → Option β) :
    (if p then o else none).bind f = if p then o.bind f else none := by
  split
  · rfl
  · rfl

/-- A condition in two parts may be met one part after the other. -/
theorem ite_and_none (o : Option α) :
    (if p ∧ q then o else none) = if p then (if q then o else none) else none := by
  by_cases hp : p
  · simp [hp]
  · simp [hp]

@[simp] theorem map_ite_none (o : Option α) (f : α → β) :
    (if p then o else none).map f = if p then o.map f else none := by
  split
  · rfl
  · rfl

end

/-! ## Structures -/

theorem members?_record (fields : List (String × Json)) :
    members? (fields.map fun (name, value) ↦ (Piece.ofString name, value)) = some fields := by
  induction fields with
  | nil => rfl
  | cons f fields ih =>
    rw [members?] at ih ⊢
    obtain ⟨k, v⟩ := f
    simp only [List.map_cons, List.mapM_cons, ih, Piece.text?_ofString]
    rfl

theorem slot?_of_mem {fields : List (String × Json)} (nodup : (fields.map Prod.fst).Nodup)
    {f : String × Json} (hf : f ∈ fields) : slot? fields f.1 = some (some f.2) := by
  have only : fields.filter (·.1 == f.1) = [f] := by
    induction fields with
    | nil => cases hf
    | cons g fields ih =>
      obtain ⟨fresh, nodup⟩ := List.nodup_cons.mp nodup
      rcases List.mem_cons.mp hf with rfl | hf
      · have others : ∀ g ∈ fields, ¬(g.1 == f.1) := by
          intro g hg heq
          exact fresh (eq_of_beq heq ▸ List.mem_map_of_mem hg)
        rw [List.filter_cons, if_pos (beq_self_eq_true f.1), List.filter_eq_nil_iff.mpr others]
      · have other : ¬(g.1 == f.1) := fun heq ↦ fresh (eq_of_beq heq ▸ List.mem_map_of_mem hf)
        rw [List.filter_cons, if_neg other, ih nodup hf]
  rw [slot?, only]

/-- The fields of a structure are found under their names, each with the value written for it. -/
@[simp] theorem slots?_record {names : List String} {fields : List (String × Json)}
    (keys : fields.map Prod.fst = names) (nodup : names.Nodup) :
    slots? names (record fields) = some (fields.map fun f ↦ some f.2) := by
  have found (part : List (String × Json)) (h : ∀ f ∈ part, f ∈ fields) :
      (part.map Prod.fst).mapM (slot? fields) = some (part.map fun f ↦ some f.2) := by
    induction part with
    | nil => rfl
    | cons f part ih =>
      have here := slot?_of_mem (keys ▸ nodup) (h f List.mem_cons_self)
      have there := ih fun g hg ↦ h g (List.mem_cons_of_mem f hg)
      rw [List.map_cons, List.mapM_cons, here, there]
      rfl
  rw [← keys, record, slots?, members?_record]
  exact found fields fun f hf ↦ hf

@[simp] theorem orElse_some {α : Type} (default : α) (reader : Json → Option α) (j : Json) :
    orElse default reader (some j) = reader j := rfl

@[simp] theorem nullable?_nullable_text (o : Option String) :
    nullable? text? (nullable (o.map text)) = some o := by
  cases o with
  | none => rfl
  | some s => exact congrArg (Option.map some) (text?_text s)

/-- A missing value is read back from null, and another one as it is read on its own. -/
theorem nullable?_nullable {α : Type} {reader : Json → Option α} {write : α → Json}
    (back : ∀ a, reader (write a) = if (write a).depth ≤ n then some a else none)
    (notNull : ∀ a, write a ≠ .scalar .null) (o : Option α) :
    nullable? reader (nullable (o.map write)) =
      if (nullable (o.map write)).depth ≤ n then some o else none := by
  cases o with
  | none => simp [nullable, nullable?]
  | some a =>
    have present : nullable? reader (write a) = some <$> reader (write a) := by
      unfold nullable?
      split
      · rename_i h
        exact absurd h (notNull a)
      · rfl
    rw [Option.map_some, nullable, present, back]
    split
    · rfl
    · rfl

/-! ## Choices -/

/-- The name of a choice is known before any of the choices is looked at. -/
@[simp ↓] theorem bind_text?_ofString {α : Type} (s : String) (f : String → Option α) :
    (Piece.text? (Piece.ofString s) >>= f) = f s := by
  rw [Piece.text?_ofString]
  rfl

@[simp] theorem bareName?_text (s : String) : bareName? n (text s) = some s := by
  cases n with
  | zero => exact text?_text s
  | succ n => exact text?_text s

/-- A choice is found by its name, if no other one before it has that name. -/
theorem choice?_text {α : Type} {all : List α} {name : α → String} {a : α}
    (h : all.find? (name · == name a) = some a) : choice? all name n (text (name a)) = some a := by
  rw [choice?, bareName?_text]
  exact h

end Reify.Json

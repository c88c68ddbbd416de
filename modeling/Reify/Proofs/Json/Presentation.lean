import Mathlib.Data.List.Forall2
import Reify.Json.Reader
import Reify.Proofs.Json.Spelling

/-!
# Presentations

Which JSON values stand for a value of a model, said without a reader.  A presentation is built from
its parts the way the model is: a structure from presentations of its fields, a choice from its name
and the presentation of its payload.  Each reader of the model accepts exactly one presentation, and
the laws here take that from the slots of a structure to the structure.
-/

namespace Reify.Json

/-- The characters that pieces stand for: each by itself, or as both halves of a surrogate pair. -/
inductive Piece.Spell : List Piece → List Char → Prop where
  | nil : Spell [] []
  | char (c : Char) {ps : List Piece} {cs : List Char} :
    Spell ps cs → Spell (.char c :: ps) (c :: cs)
  | pair (h l : Fin 1024) {ps : List Piece} {cs : List Char} :
    Spell ps cs → Spell (.lead h :: .trail l :: ps) (Piece.join h l :: cs)

/-- The members of an object with their names as texts. -/
def Named (members : List (List Piece × Json)) (named : List (String × Json)) : Prop :=
  List.Forall₂ (fun m f ↦ Piece.Spell m.1 f.1.toList ∧ m.2 = f.2) members named

/-- No member has this name. -/
def Lacks (members : List (String × Json)) (name : String) : Prop := ∀ m ∈ members, m.1 ≠ name

/-- One member has this name, and this is its value. -/
def Gives (members : List (String × Json)) (name : String) (j : Json) : Prop :=
  ∃ before after, members = before ++ (name, j) :: after ∧ Lacks before name ∧ Lacks after name

/-- The JSON values that stand for something, when so many more brackets may be opened. -/
def Presentation := Nat → Json → Prop

namespace Presentation

/-- Null. -/
def null : Presentation := fun _ j ↦ j = .scalar .null

/-- A truth value. -/
def bool (b : Bool) : Presentation := fun _ j ↦ j = .bool b

/-- A natural number, in digits only. -/
def nat (n : Nat) : Presentation := fun _ j ↦ j = .nat n

/-- A text. -/
def text (s : String) : Presentation := fun _ j ↦
  ∃ ps, j = .scalar (.str ps) ∧ Piece.Spell ps s.toList

/-- Null in the place of a missing value. -/
def nullable : Option Presentation → Presentation
  | none => null
  | some p => p

/-- An array of items. -/
def list (items : List Presentation) : Presentation
  | n + 1, .array js => List.Forall₂ (fun p j ↦ p n j) items js
  | _, _ => False

/-- A choice with a payload: an object whose one key is the name of the choice. -/
def tagged (tag : String) (payload : Presentation) : Presentation
  | n + 1, .object [(key, j)] => Piece.Spell key tag.toList ∧ payload n j
  | _, _ => False

/-- A choice without payload: its name, bare or over null. -/
def named (tag : String) : Presentation := fun n j ↦ text tag n j ∨ tagged tag null n j

/-- A field of a structure with a value. -/
structure Field where
  name : String
  value : Presentation
  /-- The field has the value that it gets when it is left out. -/
  omissible : Prop

namespace Field

/-- A field that is always there. -/
def required (name : String) (value : Presentation) : Field := ⟨name, value, False⟩

/-- A field that may be left out when it has its default value. -/
def optional (name : String) (value : Presentation) (isDefault : Prop) : Field :=
  ⟨name, value, isDefault⟩

end Field

/-- A structure.  In an object the members may have any order, and members of other names may stand
among them; a field is there once, or it is left out.  In an array the fields have their own order,
and only the last ones are left out. -/
inductive Record (fields : List Field) : Nat → Json → Prop where
  | object {n : Nat} {members : List (List Piece × Json)} {named : List (String × Json)} :
    Named members named →
    (∀ f ∈ fields, (∃ j, Gives named f.name j ∧ f.value n j) ∨ Lacks named f.name ∧ f.omissible) →
      Record fields (n + 1) (.object members)
  | array {n : Nat} {items : List Json} (given left : List Field) :
    fields = given ++ left → List.Forall₂ (fun f j ↦ f.value n j) given items →
    (∀ f ∈ left, f.omissible) → Record fields (n + 1) (.array items)

/-- The presentation of a structure with these fields. -/
def record (fields : List Field) : Presentation := Record fields

end Presentation

/-! ## Texts and names -/

theorem Piece.chars?_eq_some_iff {ps : List Piece} {cs : List Char} :
    Piece.chars? ps = some cs ↔ Spell ps cs := by
  constructor
  · intro h
    induction ps using Piece.chars?.induct generalizing cs with
    | case1 =>
      cases h
      exact .nil
    | case2 c ps ih =>
      obtain ⟨ds, hd, rfl⟩ := Option.map_eq_some_iff.mp h
      exact .char c (ih hd)
    | case3 lead trail ps ih =>
      obtain ⟨ds, hd, rfl⟩ := Option.map_eq_some_iff.mp h
      exact .pair lead trail (ih hd)
    | case4 | case5 => simp [Piece.chars?] at h
  · intro h
    induction h with
    | nil => rfl
    | char c _ ih => exact congrArg (Option.map (c :: ·)) ih
    | pair lead trail _ ih => exact congrArg (Option.map (Piece.join lead trail :: ·)) ih

theorem Piece.text?_eq_some_iff {ps : List Piece} {s : String} :
    Piece.text? ps = some s ↔ Spell ps s.toList := by
  rw [← chars?_eq_some_iff, text?]
  constructor
  · intro h
    obtain ⟨cs, hc, rfl⟩ := Option.map_eq_some_iff.mp h
    rw [hc, String.toList_ofList]
  · intro h
    rw [h]
    exact congrArg some String.ofList_toList

theorem forall_bind {α β : Type} {o : Option α} {f : α → Option β} {p : β → Prop}
    (h : ∀ a ∈ o, ∀ b ∈ f a, p b) : ∀ b ∈ o >>= f, p b := by
  intro b hb
  obtain ⟨a, ha, hb⟩ := Option.bind_eq_some_iff.mp hb
  exact h a ha b hb

theorem mapM_eq_some_iff {α β : Type} {f : α → Option β} {as : List α} {bs : List β} :
    as.mapM f = some bs ↔ List.Forall₂ (fun a b ↦ f a = some b) as bs := by
  induction as generalizing bs with
  | nil => simp [eq_comm]
  | cons a as ih =>
    rw [List.mapM_cons, List.forall₂_cons_left_iff]
    constructor
    · intro h
      obtain ⟨b, hb, h⟩ := Option.bind_eq_some_iff.mp h
      obtain ⟨bs', hbs, h⟩ := Option.bind_eq_some_iff.mp h
      cases h
      exact ⟨b, bs', hb, ih.mp hbs, rfl⟩
    · rintro ⟨b, bs', hb, hbs, rfl⟩
      rw [hb, ih.mpr hbs]
      rfl

theorem members?_eq_some_iff {members : List (List Piece × Json)} {named : List (String × Json)} :
    members? members = some named ↔ Named members named := by
  rw [members?, mapM_eq_some_iff]
  have member (m : List Piece × Json) (f : String × Json) :
      (·, m.2) <$> Piece.text? m.1 = some f ↔ Piece.Spell m.1 f.1.toList ∧ m.2 = f.2 := by
    rw [← Piece.text?_eq_some_iff]
    constructor
    · intro h
      obtain ⟨name, hn, rfl⟩ := Option.map_eq_some_iff.mp h
      exact ⟨hn, rfl⟩
    · rintro ⟨hn, hv⟩
      rw [hn, hv]
      rfl
  constructor
  · exact fun h ↦ h.imp fun m f ↦ (member m f).mp
  · exact fun h ↦ h.imp fun m f ↦ (member m f).mpr

theorem filter_eq_nil_iff {members : List (String × Json)} {name : String} :
    members.filter (·.1 == name) = [] ↔ Lacks members name := by
  simp only [List.filter_eq_nil_iff, beq_iff_eq, Lacks, ne_eq]

theorem slot?_eq_some_none_iff {members : List (String × Json)} {name : String} :
    slot? members name = some none ↔ Lacks members name := by
  rw [← filter_eq_nil_iff, slot?]
  constructor
  · intro h
    split at h
    · assumption
    · cases h
    · cases h
  · intro h
    rw [h]

theorem slot?_eq_some_some_iff {members : List (String × Json)} {name : String} {j : Json} :
    slot? members name = some (some j) ↔ Gives members name j := by
  constructor
  · intro h
    unfold slot? at h
    split at h
    · cases h
    · rename_i other v only
      cases h
      obtain ⟨before, after, rfl, hb, here, ha⟩ := List.filter_eq_cons_iff.mp only
      have lacks : Lacks before name := fun m hm heq ↦ hb m hm (beq_iff_eq.mpr heq)
      obtain rfl : other = name := eq_of_beq here
      exact ⟨before, after, rfl, lacks, filter_eq_nil_iff.mp ha⟩
    · cases h
  · rintro ⟨before, after, rfl, hb, ha⟩
    rw [slot?, List.filter_append, filter_eq_nil_iff.mpr hb,
      List.filter_cons, if_pos (beq_self_eq_true name), filter_eq_nil_iff.mpr ha]
    rfl

/-! ## Structures -/

namespace Presentation

/-- What may stand in the slot of a field: its value, or nothing if it may be left out. -/
def Field.Fits (f : Field) (n : Nat) : Option Json → Prop
  | none => f.omissible
  | some j => f.value n j

/-- The slots of an object fit the fields if each field is there once or left out. -/
theorem exists_slots_object {fields : List Field} {named : List (String × Json)} {n : Nat} :
    (∃ slots, (fields.map Field.name).mapM (slot? named) = some slots ∧
      List.Forall₂ (fun f s ↦ f.Fits n s) fields slots) ↔
    ∀ f ∈ fields, (∃ j, Gives named f.name j ∧ f.value n j) ∨ Lacks named f.name ∧ f.omissible := by
  have one (f : Field) : (∃ s, slot? named f.name = some s ∧ f.Fits n s) ↔
      (∃ j, Gives named f.name j ∧ f.value n j) ∨ Lacks named f.name ∧ f.omissible := by
    constructor
    · rintro ⟨_ | j, hs, fits⟩
      · exact .inr ⟨slot?_eq_some_none_iff.mp hs, fits⟩
      · exact .inl ⟨j, slot?_eq_some_some_iff.mp hs, fits⟩
    · rintro (⟨j, gives, hv⟩ | ⟨lacks, omissible⟩)
      · exact ⟨some j, slot?_eq_some_some_iff.mpr gives, hv⟩
      · exact ⟨none, slot?_eq_some_none_iff.mpr lacks, omissible⟩
  simp only [mapM_eq_some_iff, List.forall₂_map_left_iff, ← one]
  induction fields with
  | nil => simp
  | cons f fields ih =>
    rw [List.forall_mem_cons]
    constructor
    · rintro ⟨slots, hs, fits⟩
      cases hs with
      | cons first others =>
        obtain ⟨fit, fits⟩ := List.forall₂_cons.mp fits
        exact ⟨⟨_, first, fit⟩, ih.mp ⟨_, others, fits⟩⟩
    · rintro ⟨⟨s, first, fit⟩, others⟩
      obtain ⟨slots, others, fits⟩ := ih.mpr others
      exact ⟨s :: slots, .cons first others, .cons fit fits⟩

/-- Slots that are all empty fit fields that may all be left out. -/
theorem fits_replicate {left : List Field} {k n : Nat} :
    List.Forall₂ (fun f s ↦ f.Fits n s) left (List.replicate k none) ↔
      left.length = k ∧ ∀ f ∈ left, f.omissible := by
  induction left generalizing k with
  | nil =>
    rw [List.forall₂_nil_left_iff, List.replicate_eq_nil_iff]
    exact ⟨fun h ↦ ⟨h.symm, nofun⟩, fun h ↦ h.1.symm⟩
  | cons f left ih =>
    cases k with
    | zero => simp
    | succ k =>
      rw [List.replicate_succ, List.forall₂_cons, ih, List.forall_mem_cons, List.length_cons,
        Nat.add_right_cancel_iff]
      exact and_left_comm

/-- The slots of an array fit the fields if its items are the first of them and the others may be
left out. -/
theorem exists_slots_array {fields : List Field} {items : List Json} {n : Nat} :
    (∃ slots, slots? (fields.map Field.name) (.array items) = some slots ∧
      List.Forall₂ (fun f s ↦ f.Fits n s) fields slots) ↔
    ∃ given left, fields = given ++ left ∧ List.Forall₂ (fun f j ↦ f.value n j) given items ∧
      ∀ f ∈ left, f.omissible := by
  constructor
  · rintro ⟨slots, hs, fits⟩
    rw [slots?] at hs
    split at hs
    · cases hs
      have parts := List.forall₂_take_append fields (items.map some) _ fits
      have rest := List.forall₂_drop_append fields (items.map some) _ fits
      rw [List.length_map] at parts rest
      refine ⟨_, _, (List.take_append_drop items.length fields).symm, ?_, ?_⟩
      · exact (List.forall₂_map_right_iff (f := some)).mp parts
      · exact (fits_replicate.mp rest).2
    · cases hs
  · rintro ⟨given, left, rfl, fits, omissible⟩
    have length := fits.length_eq
    have here : List.Forall₂ (fun f s ↦ f.Fits n s) given (items.map some) :=
      List.forall₂_map_right_iff.mpr fits
    have there : List.Forall₂ (fun f s ↦ f.Fits n s) left (List.replicate left.length none) :=
      fits_replicate.mpr ⟨rfl, omissible⟩
    refine ⟨_, ?_, List.rel_append here there⟩
    rw [slots?, if_pos (by simp [length])]
    simp [length]

/-- A value presents a structure if its slots fit the fields. -/
theorem record_succ_iff {fields : List Field} {n : Nat} {j : Json} :
    record fields (n + 1) j ↔ ∃ slots, slots? (fields.map Field.name) j = some slots ∧
      List.Forall₂ (fun f s ↦ f.Fits n s) fields slots := by
  cases j with
  | scalar s =>
    constructor
    · intro h
      cases h
    · rintro ⟨slots, hs, -⟩
      cases hs
  | array items =>
    rw [exists_slots_array]
    constructor
    · intro h
      cases h with
      | array given left parts fits omissible => exact ⟨given, left, parts, fits, omissible⟩
    · rintro ⟨given, left, parts, fits, omissible⟩
      exact .array given left parts fits omissible
  | object members =>
    constructor
    · intro h
      cases h with
      | object names fits =>
        obtain ⟨slots, hs, fits⟩ := exists_slots_object.mpr fits
        refine ⟨slots, ?_, fits⟩
        rw [slots?, members?_eq_some_iff.mpr names]
        exact hs
    · rintro ⟨slots, hs, fits⟩
      obtain ⟨named, names, hs⟩ := Option.bind_eq_some_iff.mp hs
      exact .object (members?_eq_some_iff.mp names) (exists_slots_object.mp ⟨slots, hs, fits⟩)

@[simp] theorem not_record_zero {fields : List Field} {j : Json} : ¬record fields 0 j := nofun

/-! ## Laws of the readers

Where a reader of a part is known to accept a presentation, the simplifier turns the presentation
into the reader.  What is left of a structure then says of each slot what its reader says. -/

variable {α : Type} {n : Nat} {j : Json}

/-- A reader of slots that accepts those that fit some fields makes a reader of the structure. -/
theorem record_iff_of_slots {fields : List Field} {names : List String}
    {reader : List (Option Json) → Option α} {a : α} (keys : fields.map Field.name = names)
    (h : ∀ slots, List.Forall₂ (fun f s ↦ f.Fits n s) fields slots ↔ reader slots = some a) :
    record fields (n + 1) j ↔ (slots? names j).bind reader = some a := by
  rw [record_succ_iff, keys, Option.bind_eq_some_iff]
  simp only [h]

theorem record_one_iff {f : Field} {read : Option Json → Option α} {a : α}
    (h : ∀ s, f.Fits n s ↔ read s = some a) :
    record [f] (n + 1) j ↔ (slots? [f.name] j).bind (fun slots ↦ match slots with
      | [s] => read s
      | _ => none) = some a := by
  refine record_iff_of_slots rfl fun slots ↦ ?_
  match slots with
  | [s] => simp [h]
  | [] | _ :: _ :: _ => simp

theorem record_two_iff {f g : Field} {read : Option Json → Option Json → Option α} {a : α}
    (h : ∀ s t, f.Fits n s ∧ g.Fits n t ↔ read s t = some a) :
    record [f, g] (n + 1) j ↔ (slots? [f.name, g.name] j).bind (fun slots ↦ match slots with
      | [s, t] => read s t
      | _ => none) = some a := by
  refine record_iff_of_slots rfl fun slots ↦ ?_
  match slots with
  | [s, t] => simp [h]
  | [] | [_] | _ :: _ :: _ :: _ => simp

theorem record_three_iff {f g k : Field} {a : α}
    {read : Option Json → Option Json → Option Json → Option α}
    (h : ∀ s t u, f.Fits n s ∧ g.Fits n t ∧ k.Fits n u ↔ read s t u = some a) :
    record [f, g, k] (n + 1) j ↔
      (slots? [f.name, g.name, k.name] j).bind (fun slots ↦ match slots with
        | [s, t, u] => read s t u
        | _ => none) = some a := by
  refine record_iff_of_slots rfl fun slots ↦ ?_
  match slots with
  | [s, t, u] => simp [h]
  | [] | [_] | [_, _] | _ :: _ :: _ :: _ :: _ => simp

@[simp] theorem Field.fits_required {name : String} {p : Presentation} {slot : Option Json} :
    (required name p).Fits n slot ↔ ∃ j, slot = some j ∧ p n j := by
  cases slot with
  | none => simp [required, Fits]
  | some j => simp [required, Fits]

@[simp] theorem Field.fits_optional {name : String} {p : Presentation} {isDefault : Prop}
    {slot : Option Json} : (optional name p isDefault).Fits n slot ↔
      slot = none ∧ isDefault ∨ ∃ j, slot = some j ∧ p n j := by
  cases slot with
  | none => simp [optional, Fits]
  | some j => simp [optional, Fits]

@[simp] theorem orElse_eq_some_iff {default a : α} {reader : Json → Option α}
    {slot : Option Json} : orElse default reader slot = some a ↔
      slot = none ∧ a = default ∨ ∃ j, slot = some j ∧ reader j = some a := by
  cases slot with
  | none => simp [orElse, eq_comm]
  | some j => simp [orElse]

@[simp] theorem null_iff : null n j ↔ j = .scalar .null := Iff.rfl

@[simp] theorem bool_iff {b : Bool} : bool b n j ↔ bool? j = some b := by
  unfold bool bool?
  split
  · simp [Json.bool]
  · rename_i notBool
    simpa [Json.bool] using notBool b

@[simp] theorem text_iff {s : String} : text s n j ↔ text? j = some s := by
  unfold text text?
  split
  · rw [Piece.text?_eq_some_iff]
    simp
  · rename_i notText
    simpa using fun ps hj ↦ absurd hj (notText ps)

@[simp] theorem nat_iff_uint32? {u : UInt32} : nat u.toNat n j ↔ uint32? j = some u := by
  constructor
  · rintro rfl
    exact uint32?_nat u
  · intro h
    unfold uint32? at h
    split at h
    · split at h
      · rename_i k small
        cases h
        rw [nat, UInt32.toNat_ofNat_of_lt' small]
        rfl
      · cases h
    · cases h

@[simp] theorem nat_iff_bits128? {b : BitVec 128} : nat b.toNat n j ↔ bits128? j = some b := by
  constructor
  · rintro rfl
    exact bits128?_nat b
  · intro h
    unfold bits128? at h
    split at h
    · dsimp only at h
      split at h
      · rename_i k same
        cases h
        rw [nat, same]
        rfl
      · cases h
    · cases h

/-- Null stands for a missing value, and for nothing else. -/
theorem nullable_iff {reader : Json → Option α} {p : α → Presentation}
    (h : ∀ a, p a n j ↔ reader j = some a) (notNull : reader (.scalar .null) = none)
    {o : Option α} : nullable (o.map p) n j ↔ nullable? reader j = some o := by
  cases o with
  | none =>
    change null n j ↔ _
    unfold nullable?
    split
    · simp
    · rename_i hj
      simpa using hj
  | some a =>
    change p a n j ↔ _
    rw [h]
    unfold nullable?
    split
    · simp [notNull]
    · simp

@[simp] theorem nullable_text_iff {o : Option String} :
    nullable (o.map text) n j ↔ nullable? text? j = some o :=
  nullable_iff (fun _ ↦ text_iff) rfl

theorem tagged_iff {tag : String} {p : Presentation} : tagged tag p n j ↔
    ∃ m key v, n = m + 1 ∧ j = .object [(key, v)] ∧ Piece.text? key = some tag ∧ p m v := by
  constructor
  · intro h
    unfold tagged at h
    split at h
    · exact ⟨_, _, _, rfl, rfl, Piece.text?_eq_some_iff.mpr h.1, h.2⟩
    · cases h
  · rintro ⟨m, key, v, rfl, rfl, hk, hv⟩
    exact ⟨Piece.text?_eq_some_iff.mp hk, hv⟩

/-- A choice whose payload is a structure is read from its name, over the fields. -/
theorem tagged_record_iff {tag : String} {fields : List Field} {reader : Nat → Json → Option α}
    {a : α}
    (shape : ∀ n j, reader n j = some a → ∃ m key payload,
      n = m + 2 ∧ j = .object [(key, payload)] ∧ Piece.text? key = some tag)
    (h : ∀ n key payload, Piece.text? key = some tag →
      (record fields (n + 1) payload ↔ reader (n + 2) (.object [(key, payload)]) = some a)) :
    tagged tag (record fields) n j ↔ reader n j = some a := by
  constructor
  · intro presents
    obtain ⟨m, key, payload, rfl, rfl, hk, hp⟩ := tagged_iff.mp presents
    cases m with
    | zero => exact absurd hp not_record_zero
    | succ m => exact (h m key payload hk).mp hp
  · intro read
    obtain ⟨m, key, payload, rfl, rfl, hk⟩ := shape n j read
    exact tagged_iff.mpr ⟨_, _, _, rfl, rfl, hk, (h m key payload hk).mpr read⟩

/-- An object that presents a choice without payload has the name of the choice as its key. -/
theorem text?_of_named_object {tag : String} {key : List Piece} {v : Json}
    (h : named tag n (.object [(key, v)])) : Piece.text? key = some tag := by
  rcases h with ⟨ps, hj, -⟩ | h
  · cases hj
  · obtain ⟨m, key', v', rfl, hj, hk, -⟩ := tagged_iff.mp h
    cases hj
    exact hk

@[simp] theorem named_iff {tag : String} : named tag n j ↔ bareName? n j = some tag := by
  constructor
  · rintro (h | h)
    · obtain ⟨ps, rfl, spell⟩ := h
      have name := Piece.text?_eq_some_iff.mpr spell
      cases n with
      | zero => exact name
      | succ n => exact name
    · obtain ⟨m, key, v, rfl, rfl, hk, rfl⟩ := tagged_iff.mp h
      exact hk
  · intro h
    unfold bareName? at h
    split at h
    · exact .inl ⟨_, rfl, Piece.text?_eq_some_iff.mp h⟩
    · exact .inr (tagged_iff.mpr ⟨_, _, _, rfl, rfl, h, rfl⟩)
    · cases h

/-- A choice is read as the one of its name. -/
theorem named_iff_choice? {all : List α} {name : α → String} {a : α}
    (h : all.find? (name · == name a) = some a) :
    named (name a) n j ↔ choice? all name n j = some a := by
  rw [named_iff]
  constructor
  · intro named
    rw [choice?, named]
    exact h
  · intro read
    obtain ⟨tag, named, found⟩ := Option.bind_eq_some_iff.mp read
    have same : name a = tag := by simpa using List.find?_some found
    rw [named, same]

/-- A list is read item by item. -/
theorem list_iff {reader : Nat → Json → Option α} {p : α → Presentation} {as : List α}
    (h : ∀ a ∈ as, ∀ n j, p a n j ↔ reader n j = some a) :
    list (as.map p) n j ↔ list? reader n j = some as := by
  have items (n : Nat) (js : List Json) :
      List.Forall₂ (fun q j ↦ q n j) (as.map p) js ↔ js.mapM (reader n) = some as := by
    rw [mapM_eq_some_iff, List.forall₂_map_left_iff]
    induction as generalizing js with
    | nil => rw [List.forall₂_nil_left_iff, List.forall₂_nil_right_iff]
    | cons a as ih =>
      obtain ⟨ha, has⟩ := List.forall_mem_cons.mp h
      rw [List.forall₂_cons_left_iff, List.forall₂_cons_right_iff]
      simp only [ha, ih has]
  unfold list list?
  split
  · exact items _ _
  · simp

end Presentation

end Reify.Json

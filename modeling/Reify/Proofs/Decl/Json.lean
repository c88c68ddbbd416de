import Reify.Decl.Json
import Reify.Proofs.TypeRef.Json

/-!
# Declarations read back from a dump

The head of a declaration is read before its kind, and all that may nest in it is its location.  So
a declaration is read back exactly when the location and the body under the name of its kind fit
under the limit.
-/

namespace Reify

variable {n : Nat}

/-! ## Locations, tags and assertions -/

namespace Location

@[simp] theorem ofJson?_toJson (l : Location) :
    ofJson? n l.toJson = if l.toJson.depth ≤ n then some l else none := by
  cases n with
  | zero => simp [ofJson?, toJson]
  | succ n => simp [ofJson?, toJson]

@[simp] theorem nullable?_toJson (o : Option Location) :
    Json.nullable? (ofJson? n) (.nullable (o.map toJson)) =
      if (Json.nullable (o.map toJson)).depth ≤ n then some o else none :=
  Json.nullable?_nullable ofJson?_toJson (fun _ ↦ nofun) o

@[simp] theorem valid_toJson (l : Location) : l.toJson.Valid := by
  simp [toJson]

end Location

@[simp] theorem Tag.ofJson?_toJson (t : Tag) : ofJson? n t.toJson = some t := by
  refine Json.choice?_text ?_
  cases t <;> rfl

@[simp] theorem Tag.depth_toJson (t : Tag) : t.toJson.depth = 0 := rfl

@[simp] theorem Tag.valid_toJson (t : Tag) : t.toJson.Valid := trivial

@[simp] theorem StaticAssert.ofJson?_toJson (a : StaticAssert) :
    ofJson? n a.toJson = if a.toJson.depth ≤ n then some a else none := by
  cases n with
  | zero => simp [ofJson?, toJson]
  | succ n => simp [ofJson?, toJson]

@[simp] theorem StaticAssert.valid_toJson (a : StaticAssert) : a.toJson.Valid := by
  simp [toJson]

/-! ## Declarations -/

namespace Decl

theorem Head.depth_toJson_le {h : Head} {body : Json} :
    (h.toJson body).depth ≤ n + 1 ↔
      (Json.nullable (h.location.map Location.toJson)).depth ≤ n ∧ body.depth ≤ n := by
  simp [Head.toJson]

theorem Head.valid_toJson {h : Head} {body : Json} : (h.toJson body).Valid ↔ body.Valid := by
  simp [Head.toJson]

/-- A declaration is read by reading its head and then, with the head at hand, its body. -/
theorem ofJson?_head (h : Head) (body : Json) :
    ofJson? (n + 1) (h.toJson body) =
      if (Json.nullable (h.location.map Location.toJson)).depth ≤ n then ofBody? h n body
      else none := by
  simp [Head.toJson, Decl.ofJson?]

/-- A body is written as the name of its kind over a structure, so it opens two brackets at
least. -/
theorem toJson_eq_head (d : Decl) :
    ∃ key fields, d.toJson = d.head.toJson (.object [(key, .record fields)]) := by
  cases d with
  | typed h entity type => cases entity <;> exact ⟨_, _, rfl⟩
  | _ => exact ⟨_, _, rfl⟩

end Decl

attribute [local simp] TypeRef.ofJson?_toJson TypeRef.valid_toJson Decl.Head.depth_toJson_le
  Decl.Head.valid_toJson Decl.ofJson?_head Decl.toJson Decl.ofBody? Entity.toJson Group.className
  Template.className Json.ite_and_none

mutual

/-- A declaration is read back exactly when it nests no deeper than it may be read. -/
theorem Decl.ofJson?_toJson (d : Decl) (n : Nat) :
    Decl.ofJson? n d.toJson = if d.toJson.depth ≤ n then some d else none := by
  obtain ⟨key, fields, h⟩ := d.toJson_eq_head
  -- Below three brackets no declaration fits, and the reader gives none.
  obtain _ | _ | _ | n := n
  · rw [h]
    simp [Decl.ofJson?, Decl.Head.toJson]
  · rw [h]
    simp
  · rw [h]
    simp
  · cases d with
    | group h kind decls =>
      have ih := Decl.listOfJson?_toJsonAll decls n
      cases kind <;> simp [ih]
    | record h tag isDefinition members =>
      have ih := Decl.listOfJson?_toJsonAll members n
      simp [ih]
    | typed h entity type => cases entity <;> simp
    | template h kind pattern specializations =>
      have pattern := Decl.ofJson?_toJson pattern n
      have specializations := Decl.listOfJson?_toJsonAll specializations n
      cases kind <;> simp [pattern, specializations]
    | staticAssert h assertion => simp

theorem Decl.listOfJson?_toJsonAll (ds : List Decl) (n : Nat) :
    Decl.listOfJson? n (.array (Decl.toJsonAll ds)) =
      if (Json.array (Decl.toJsonAll ds)).depth ≤ n then some ds else none := by
  cases n with
  | zero => simp [Decl.listOfJson?]
  | succ n =>
    cases ds with
    | nil => simp [Decl.listOfJson?, Decl.toJsonAll]
    | cons d ds =>
      have head := Decl.ofJson?_toJson d n
      have tail := Decl.listOfJson?_toJsonAll ds (n + 1)
      simp only [Decl.listOfJson?] at tail ⊢
      simp [Decl.toJsonAll, head, tail]

end

mutual

theorem Decl.valid_toJson (d : Decl) : d.toJson.Valid := by
  cases d with
  | group h kind decls => simpa using Decl.valid_of_mem_toJsonAll decls
  | record h tag isDefinition members => simpa using Decl.valid_of_mem_toJsonAll members
  | typed h entity type => cases entity <;> simp
  | template h kind pattern specializations =>
    simpa [Decl.valid_toJson pattern] using Decl.valid_of_mem_toJsonAll specializations
  | staticAssert h assertion => simp

theorem Decl.valid_of_mem_toJsonAll (ds : List Decl) : ∀ v ∈ Decl.toJsonAll ds, v.Valid := by
  cases ds with
  | nil => simp [Decl.toJsonAll]
  | cons d ds =>
    rw [Decl.toJsonAll, List.forall_mem_cons]
    exact ⟨Decl.valid_toJson d, Decl.valid_of_mem_toJsonAll ds⟩

end

end Reify

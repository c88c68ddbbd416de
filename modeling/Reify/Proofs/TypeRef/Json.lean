import Reify.Proofs.Json.Reader
import Reify.TypeRef.Json

/-!
# Types read back from a dump

Each type is read back from what it is written as, exactly when the reader may open as many
brackets as that nests.  The names of the kinds of node are pairwise different, so the reader tries
no other kind.
-/

namespace Reify

variable {n : Nat}

/-! ## Scalars and flat structures -/

@[simp] theorem Signedness.ofJson?_toJson (s : Signedness) : ofJson? n s.toJson = some s := by
  refine Json.choice?_text ?_
  cases s with
  | signed => rfl
  | unsigned => rfl

@[simp] theorem Signedness.depth_toJson (s : Signedness) : s.toJson.depth = 0 := rfl

@[simp] theorem Signedness.valid_toJson (s : Signedness) : s.toJson.Valid := trivial

@[simp] theorem CallingConv.ofJson?_toJson (cc : CallingConv) : ofJson? n cc.toJson = some cc := by
  refine Json.choice?_text ?_
  cases cc <;> rfl

@[simp] theorem CallingConv.depth_toJson (cc : CallingConv) : cc.toJson.depth = 0 := rfl

@[simp] theorem CallingConv.valid_toJson (cc : CallingConv) : cc.toJson.Valid := trivial

namespace BuiltinKind

/-- A kind without signedness is found by its name. -/
theorem ofJson?_name {k : BuiltinKind} (h : plain.find? (·.name == k.name) = some k) :
    ofJson? n (.text k.name) = some k := by
  cases n with
  | zero => exact Json.choice?_text h
  | succ n => exact Json.choice?_text h

@[simp] theorem ofJson?_toJson (k : BuiltinKind) :
    ofJson? n k.toJson = if k.toJson.depth ≤ n then some k else none := by
  cases k with
  | integer sign | character sign =>
    cases n with
    | zero => rfl
    | succ n => simp [toJson, ofJson?, name]
  | placeholder p =>
    refine (ofJson?_name ?_).trans (if_pos (Nat.zero_le n)).symm
    cases p <;> rfl
  | void | bool | nullPtr | floating | sizeless =>
    exact (ofJson?_name rfl).trans (if_pos (Nat.zero_le n)).symm

@[simp] theorem valid_toJson (k : BuiltinKind) : k.toJson.Valid := by
  cases k <;> simp [toJson]

end BuiltinKind

@[simp] theorem Builtin.ofJson?_toJson (b : Builtin) :
    ofJson? n b.toJson = if b.toJson.depth ≤ n then some b else none := by
  cases n with
  | zero => simp [ofJson?, toJson]
  | succ n => simp [ofJson?, toJson]

@[simp] theorem Builtin.valid_toJson (b : Builtin) : b.toJson.Valid := by
  simp [toJson]

namespace DeclRef

@[simp] theorem ofJson?_toJson (r : DeclRef) :
    ofJson? n r.toJson = if r.toJson.depth ≤ n then some r else none := by
  cases n with
  | zero => simp [ofJson?, toJson]
  | succ n => simp [ofJson?, toJson]

@[simp] theorem nullable?_toJson (o : Option DeclRef) :
    Json.nullable? (ofJson? n) (.nullable (o.map toJson)) =
      if (Json.nullable (o.map toJson)).depth ≤ n then some o else none :=
  Json.nullable?_nullable ofJson?_toJson (fun _ ↦ nofun) o

@[simp] theorem valid_toJson (r : DeclRef) : r.toJson.Valid := by
  simp [toJson]

end DeclRef

/-! ## References and nodes -/

/-- A node is written as the name of its kind over a structure, so it opens two brackets at least
and is never null. -/
theorem TypeNode.toJson_eq_object (type : TypeNode) :
    ∃ key fields, type.toJson = .object [(key, .record fields)] := by
  cases type <;> exact ⟨_, _, rfl⟩

theorem TypeRef.toJson_eq_object (t : TypeRef) : ∃ members, t.toJson = .object members := by
  cases t <;> exact ⟨_, rfl⟩

@[simp] theorem Indirection.find?_className (kind : Indirection) :
    all.find? (·.className == kind.className) = some kind := by
  cases kind <;> rfl

@[simp] theorem Sugar.find?_className (kind : Sugar) :
    all.find? (·.className == kind.className) = some kind := by
  cases kind <;> rfl

@[simp] theorem Indirection.find?_sugar (kind : Sugar) :
    all.find? (·.className == kind.className) = none := by
  cases kind <;> rfl

/-- The names of the kinds of node that are neither indirections nor sugar. -/
abbrev TypeNode.otherNames : List String :=
  ["Builtin", "MemberPointer", "Record", "Enum", "Typedef", "InjectedClassName", "Deduced",
    "ConstantArray", "IncompleteArray", "Decayed", "FunctionProto", "TemplateTypeParm",
    "TemplateSpecialization", "Unsupported"]

@[simp] theorem Indirection.find?_otherNames {name : String} (h : name ∈ TypeNode.otherNames) :
    all.find? (·.className == name) = none := by
  have missing : ∀ name ∈ TypeNode.otherNames, all.find? (·.className == name) = none := by decide
  exact missing name h

@[simp] theorem Sugar.find?_otherNames {name : String} (h : name ∈ TypeNode.otherNames) :
    all.find? (·.className == name) = none := by
  have missing : ∀ name ∈ TypeNode.otherNames, all.find? (·.className == name) = none := by decide
  exact missing name h

attribute [local simp] TypeRef.toJson TypeRef.ofJson? TypeNode.toJson TypeNode.ofJson?
  Alias.className Alias.field Json.ite_and_none

mutual

theorem TypeRef.ofJson?_toJson (t : TypeRef) (n : Nat) :
    TypeRef.ofJson? n t.toJson = if t.toJson.depth ≤ n then some t else none := by
  cases n with
  | zero =>
    cases t with
    | null q => simp
    | node q type => simp
  | succ n =>
    cases t with
    | null q => simp
    | node q type =>
      have ih := TypeNode.ofJson?_toJson type n
      obtain ⟨key, fields, h⟩ := type.toJson_eq_object
      rw [h] at ih
      simp [h, ih]

theorem TypeNode.ofJson?_toJson (type : TypeNode) (n : Nat) :
    TypeNode.ofJson? n type.toJson = if type.toJson.depth ≤ n then some type else none := by
  obtain _ | _ | n := n
  · obtain ⟨key, fields, h⟩ := type.toJson_eq_object
    rw [h]
    simp
  · obtain ⟨key, fields, h⟩ := type.toJson_eq_object
    rw [h]
    simp
  · cases type with
    | builtin b => simp
    | indirect kind pointee =>
      have ih := TypeRef.ofJson?_toJson pointee n
      simp [ih]
    | memberPointer owner pointee =>
      have ih := TypeRef.ofJson?_toJson pointee n
      simp [ih]
    | record decl => simp
    | «alias» kind decl target =>
      have ih := TypeRef.ofJson?_toJson target n
      cases kind <;> simp [ih]
    | injectedClassName decl specialization =>
      have ih := TypeRef.ofJson?_toJson specialization n
      simp [ih]
    | sugar kind inner =>
      have ih := TypeRef.ofJson?_toJson inner n
      simp [ih]
    | deduced type =>
      have ih := TypeRef.ofJson?_toJson type n
      simp [ih]
    | constantArray element size =>
      have ih := TypeRef.ofJson?_toJson element n
      simp [ih]
    | incompleteArray element =>
      have ih := TypeRef.ofJson?_toJson element n
      simp [ih]
    | decayed original pointee =>
      have original := TypeRef.ofJson?_toJson original n
      have pointee := TypeRef.ofJson?_toJson pointee n
      simp [original, pointee]
    | function cc result params =>
      have result := TypeRef.ofJson?_toJson result n
      have params := TypeRef.listOfJson?_toJsonAll params n
      simp [result, params]
    | templateParam name => simp
    | opaqueSpecialization template => simp
    | aliasSpecialization template target =>
      have ih := TypeRef.ofJson?_toJson target n
      obtain ⟨members, h⟩ := target.toJson_eq_object
      rw [h] at ih
      simp [h, ih]
    | unsupported className => simp

theorem TypeRef.listOfJson?_toJsonAll (ts : List TypeRef) (n : Nat) :
    TypeRef.listOfJson? n (.array (TypeRef.toJsonAll ts)) =
      if (Json.array (TypeRef.toJsonAll ts)).depth ≤ n then some ts else none := by
  cases n with
  | zero => simp [TypeRef.listOfJson?]
  | succ n =>
    cases ts with
    | nil => simp [TypeRef.listOfJson?, TypeRef.toJsonAll]
    | cons t ts =>
      have head := TypeRef.ofJson?_toJson t n
      have tail := TypeRef.listOfJson?_toJsonAll ts (n + 1)
      simp only [TypeRef.listOfJson?] at tail ⊢
      simp [TypeRef.toJsonAll, head, tail]

end

mutual

theorem TypeRef.valid_toJson (t : TypeRef) : t.toJson.Valid := by
  cases t with
  | null q => simp
  | node q type => simp [TypeNode.valid_toJson type]

theorem TypeNode.valid_toJson (type : TypeNode) : type.toJson.Valid := by
  cases type with
  | indirect kind t => simp [TypeRef.valid_toJson t]
  | memberPointer owner t => simp [TypeRef.valid_toJson t]
  | «alias» kind decl t => simp [TypeRef.valid_toJson t]
  | injectedClassName decl t => simp [TypeRef.valid_toJson t]
  | sugar kind t => simp [TypeRef.valid_toJson t]
  | deduced t => simp [TypeRef.valid_toJson t]
  | constantArray t size => simp [TypeRef.valid_toJson t]
  | incompleteArray t => simp [TypeRef.valid_toJson t]
  | decayed original pointee =>
    simp [TypeRef.valid_toJson original, TypeRef.valid_toJson pointee]
  | function cc result params =>
    simpa [TypeRef.valid_toJson result] using TypeRef.valid_of_mem_toJsonAll params
  | aliasSpecialization template t => simp [TypeRef.valid_toJson t]
  | builtin _ | record _ | templateParam _ | opaqueSpecialization _ | unsupported _ => simp

theorem TypeRef.valid_of_mem_toJsonAll (ts : List TypeRef) :
    ∀ v ∈ TypeRef.toJsonAll ts, v.Valid := by
  cases ts with
  | nil => simp [TypeRef.toJsonAll]
  | cons t ts =>
    rw [TypeRef.toJsonAll, List.forall_mem_cons]
    exact ⟨TypeRef.valid_toJson t, TypeRef.valid_of_mem_toJsonAll ts⟩

end

end Reify

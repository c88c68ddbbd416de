import Reify.Proofs.Json.Presentation
import Reify.Proofs.TypeRef.Json

/-!
# Presentations of types

The values that stand for a type in a dump, field by field, and the law that the reader of types
accepts these and no others.  A node is read by the name of its kind first, and no two kinds share
their names, so that what comes out of the reader tells which name went in.
-/

namespace Reify

open Json (Presentation)

/-! ## Scalars and flat structures -/

/-- The values that present a signedness. -/
def Signedness.presentation (s : Signedness) : Presentation := .named s.name

/-- The values that present a calling convention. -/
def CallingConv.presentation (cc : CallingConv) : Presentation := .named cc.name

/-- The values that present a kind of builtin type: its name, over the signedness if it has one. -/
def BuiltinKind.presentation : BuiltinKind → Presentation
  | .integer sign => .tagged "Integer" sign.presentation
  | .character sign => .tagged "Character" sign.presentation
  | k => .named k.name

/-- The fields of a builtin type. -/
def Builtin.fields (b : Builtin) : List Presentation.Field :=
  [.required "kind" b.kind.presentation, .optional "bits" (.nat b.bits.toNat) (b.bits = 0),
    .required "spelling" (.text b.spelling)]

/-- The values that present a reference to a declaration. -/
def DeclRef.presentation (r : DeclRef) : Presentation :=
  .record [.required "id" (.nat r.id.toNat), .required "qualified_name" (.text r.qualifiedName),
    .optional "mangled" (.nullable (r.mangled.map .text)) (r.mangled = none)]

/-! ## References and nodes -/

/-- The name of the kind of a node in a dump. -/
def TypeNode.tag : TypeNode → String
  | .unsupported _ => "Unsupported"
  | type => type.className

mutual

/-- The fields of a reference. -/
def TypeRef.fields : TypeRef → List Presentation.Field
  | .null q =>
    [.optional "ty" .null True, .optional "is_const" (.bool q.isConst) (q.isConst = false),
      .optional "is_volatile" (.bool q.isVolatile) (q.isVolatile = false)]
  | .node q type =>
    [.required "ty" (.tagged type.tag (.record type.fields)),
      .optional "is_const" (.bool q.isConst) (q.isConst = false),
      .optional "is_volatile" (.bool q.isVolatile) (q.isVolatile = false)]

/-- The fields of a node. -/
def TypeNode.fields : TypeNode → List Presentation.Field
  | .builtin b => b.fields
  | .indirect _ pointee => [.required "pointee" (.record pointee.fields)]
  | .memberPointer owner pointee =>
    [.required "class" owner.presentation, .required "pointee" (.record pointee.fields)]
  | .record decl => [.required "decl" decl.presentation]
  | .alias kind decl target =>
    [.required "decl" decl.presentation, .required kind.field (.record target.fields)]
  | .injectedClassName decl specialization =>
    [.optional "decl" (.nullable (decl.map DeclRef.presentation)) (decl = none),
      .required "specialization" (.record specialization.fields)]
  | .sugar kind inner => [.required kind.field (.record inner.fields)]
  | .deduced type => [.optional "deduced" (.record type.fields) (type = .null .none)]
  | .constantArray element size =>
    [.required "element" (.record element.fields), .required "size" (.nat size.toNat)]
  | .incompleteArray element => [.required "element" (.record element.fields)]
  | .decayed original pointee =>
    [.required "original" (.record original.fields), .required "pointee" (.record pointee.fields)]
  | .function cc result params =>
    [.optional "calling_conv" cc.presentation (cc = .c), .required "ret" (.record result.fields),
      .optional "params" (.list (TypeRef.presentations params)) (params = [])]
  | .templateParam name => [.required "name" (.text name)]
  | .opaqueSpecialization template =>
    [.required "template_name" (.text template), .optional "aliased" .null True]
  | .aliasSpecialization template target =>
    [.required "template_name" (.text template), .required "aliased" (.record target.fields)]
  | .unsupported className => [.required "class_name" (.text className)]

/-- The presentations of some references, one by one. -/
def TypeRef.presentations : List TypeRef → List Presentation
  | [] => []
  | t :: ts => .record t.fields :: TypeRef.presentations ts

end

/-- The values that present a reference. -/
def TypeRef.presentation (t : TypeRef) : Presentation := .record t.fields

theorem TypeRef.presentations_eq_map (ts : List TypeRef) :
    TypeRef.presentations ts = ts.map TypeRef.presentation := by
  induction ts with
  | nil => rfl
  | cons t ts ih => rw [TypeRef.presentations, ih, List.map_cons, TypeRef.presentation]

/-! ## What the readers accept -/

variable {n : Nat} {j : Json}

@[simp] theorem Signedness.presentation_iff {s : Signedness} :
    s.presentation n j ↔ ofJson? n j = some s := by
  refine Presentation.named_iff_choice? ?_
  cases s with
  | signed => rfl
  | unsigned => rfl

@[simp] theorem CallingConv.presentation_iff {cc : CallingConv} :
    cc.presentation n j ↔ ofJson? n j = some cc := by
  refine Presentation.named_iff_choice? ?_
  cases cc <;> rfl

namespace BuiltinKind

theorem find?_plain {k : BuiltinKind} (h : k ∈ plain) :
    plain.find? (·.name == k.name) = some k := by
  have found : ∀ k ∈ plain, plain.find? (·.name == k.name) = some k := by decide
  exact found k h

theorem presentation_eq_named {k : BuiltinKind} (h : k ∈ plain) :
    k.presentation = .named k.name := by
  cases k with
  | integer sign | character sign => cases sign <;> exact absurd h (by decide)
  | void | bool | nullPtr | floating | sizeless | placeholder _ => rfl

/-- A kind without signedness has another name than those that have one. -/
theorem name_ne {k : BuiltinKind} (h : k ∈ plain) : k.name ≠ "Integer" ∧ k.name ≠ "Character" := by
  have other : ∀ k ∈ plain, k.name ≠ "Integer" ∧ k.name ≠ "Character" := by decide
  exact other k h

/-- A kind without signedness is read by its name, for no kind with one has that name. -/
theorem ofJson?_of_named {k : BuiltinKind} (hk : k ∈ plain) (h : Presentation.named k.name n j) :
    ofJson? n j = some k := by
  have read := (Presentation.named_iff_choice? (find?_plain hk)).mp h
  unfold ofJson?
  split
  · have key := Presentation.text?_of_named_object h
    split
    · rename_i integer
      exact absurd (Option.some.inj (key.symm.trans integer)) (name_ne hk).1
    · rename_i character
      exact absurd (Option.some.inj (key.symm.trans character)) (name_ne hk).2
    · exact read
  · exact read

theorem ofJson?_of_presentation {k : BuiltinKind} (h : k.presentation n j) :
    ofJson? n j = some k := by
  cases k with
  | integer sign | character sign =>
    obtain ⟨m, key, payload, rfl, rfl, hk, hp⟩ := Presentation.tagged_iff.mp h
    simp [ofJson?, hk, Signedness.presentation_iff.mp hp]
  | void | bool | nullPtr | floating | sizeless => exact ofJson?_of_named (by decide) h
  | placeholder p => exact ofJson?_of_named (by cases p <;> decide) h

theorem presentation_of_ofJson? {k : BuiltinKind} (h : ofJson? n j = some k) :
    k.presentation n j := by
  have plainKind {n : Nat} {j : Json} (h : Json.choice? plain name n j = some k) :
      k.presentation n j := by
    obtain ⟨tag, -, found⟩ := Option.bind_eq_some_iff.mp h
    have mem := List.mem_of_find?_eq_some found
    rw [presentation_eq_named mem]
    exact (Presentation.named_iff_choice? (find?_plain mem)).mpr h
  unfold ofJson? at h
  split at h
  · split at h
    · rename_i hk
      obtain ⟨sign, hs, rfl⟩ := Option.map_eq_some_iff.mp h
      exact Presentation.tagged_iff.mpr ⟨_, _, _, rfl, rfl, hk, Signedness.presentation_iff.mpr hs⟩
    · rename_i hk
      obtain ⟨sign, hs, rfl⟩ := Option.map_eq_some_iff.mp h
      exact Presentation.tagged_iff.mpr ⟨_, _, _, rfl, rfl, hk, Signedness.presentation_iff.mpr hs⟩
    · exact plainKind h
  · exact plainKind h

@[simp] theorem presentation_iff {k : BuiltinKind} :
    k.presentation n j ↔ ofJson? n j = some k :=
  ⟨ofJson?_of_presentation, presentation_of_ofJson?⟩

end BuiltinKind

theorem Builtin.record_fields_iff {b : Builtin} :
    Presentation.record b.fields n j ↔ ofJson? n j = some b := by
  cases n with
  | zero => simp [ofJson?]
  | succ n =>
    refine Presentation.record_three_iff fun kind bits spelling ↦ ?_
    cases b
    simp [Option.bind_eq_some_iff, ← and_assoc]

@[simp] theorem DeclRef.presentation_iff {r : DeclRef} :
    r.presentation n j ↔ ofJson? n j = some r := by
  cases n with
  | zero => simp [ofJson?, presentation]
  | succ n =>
    refine Presentation.record_three_iff fun id qualifiedName mangled ↦ ?_
    cases r
    simp [Option.bind_eq_some_iff, ← and_assoc]

@[simp] theorem DeclRef.nullable_presentation_iff {o : Option DeclRef} :
    Presentation.nullable (o.map DeclRef.presentation) n j ↔
      Json.nullable? (ofJson? n) j = some o := by
  refine Presentation.nullable_iff (fun _ ↦ presentation_iff) ?_
  cases n <;> rfl

/-! ## Nodes -/

namespace TypeNode

/-- A node is read from an object with one key. -/
theorem exists_of_ofJson? {type : TypeNode} (h : ofJson? n j = some type) :
    ∃ m key payload, n = m + 2 ∧ j = .object [(key, payload)] := by
  unfold ofJson? at h
  split at h
  · exact ⟨_, _, _, rfl, rfl⟩
  · cases h

@[simp] theorem ofJson?_scalar (s : Json.Scalar) : ofJson? n (.scalar s) = none := by
  cases h : ofJson? n (.scalar s) with
  | none => rfl
  | some type =>
    obtain ⟨_, _, _, -, hj⟩ := exists_of_ofJson? h
    cases hj

/-- The key is the name of the kind that was read. -/
theorem text?_of_ofJson? {key : List Json.Piece} {payload : Json} :
    ∀ type ∈ ofJson? (n + 2) (.object [(key, payload)]), Json.Piece.text? key = some type.tag := by
  rw [ofJson?]
  refine Json.forall_bind fun name hk ↦ ?_
  rw [Option.mem_def.mp hk]
  split
  · rename_i kind found
    refine Json.forall_bind fun slots _ ↦ ?_
    have same : kind.className = name := by simpa using List.find?_some found
    split
    · repeat refine Json.forall_bind fun _ _ ↦ ?_
      rintro _ ⟨⟩
      exact congrArg some same.symm
    · rintro _ ⟨⟩
  · rename_i kind _ found
    refine Json.forall_bind fun slots _ ↦ ?_
    have same : kind.className = name := by simpa using List.find?_some found
    split
    · repeat refine Json.forall_bind fun _ _ ↦ ?_
      rintro _ ⟨⟩
      exact congrArg some same.symm
    · rintro _ ⟨⟩
  · split
    case h_1 =>
      intro type h
      obtain ⟨b, -, rfl⟩ := Option.map_eq_some_iff.mp h
      rfl
    case h_13 =>
      refine Json.forall_bind fun slots _ ↦ ?_
      split
      · repeat refine Json.forall_bind fun _ _ ↦ ?_
        split
        · rintro _ ⟨⟩
          rfl
        · rintro _ ⟨⟩
          rfl
        · refine Json.forall_bind fun _ _ ↦ ?_
          rintro _ ⟨⟩
          rfl
      · rintro _ ⟨⟩
    case h_15 => rintro _ ⟨⟩
    all_goals
      refine Json.forall_bind fun slots _ ↦ ?_
      split
      · repeat refine Json.forall_bind fun _ _ ↦ ?_
        rintro _ ⟨⟩
        rfl
      · rintro _ ⟨⟩

/-- A node is read from the name of its kind, over a payload. -/
theorem shape_of_ofJson? (type : TypeNode) (n : Nat) (j : Json) (h : ofJson? n j = some type) :
    ∃ m key payload, n = m + 2 ∧ j = .object [(key, payload)] ∧
      Json.Piece.text? key = some type.tag := by
  obtain ⟨m, key, payload, rfl, rfl⟩ := exists_of_ofJson? h
  exact ⟨m, key, payload, rfl, rfl, text?_of_ofJson? type h⟩

end TypeNode

/-- A list of references is read item by item. -/
theorem TypeRef.list_presentations_iff {ts : List TypeRef}
    (h : ∀ t ∈ ts, ∀ n j, Presentation.record t.fields n j ↔ TypeRef.ofJson? n j = some t) :
    Presentation.list (TypeRef.presentations ts) n j ↔ TypeRef.listOfJson? n j = some ts := by
  have reader : TypeRef.listOfJson? n j = Json.list? TypeRef.ofJson? n j := by
    unfold TypeRef.listOfJson? Json.list?
    rfl
  rw [TypeRef.presentations_eq_map, reader]
  exact Presentation.list_iff h

@[simp] theorem TypeRef.ofJson?_scalar (s : Json.Scalar) :
    TypeRef.ofJson? n (.scalar s) = none := by
  cases n with
  | zero => rw [TypeRef.ofJson?]
  | succ n =>
    rw [TypeRef.ofJson?]
    rfl

mutual

theorem TypeRef.record_fields_iff (t : TypeRef) (n : Nat) (j : Json) :
    Presentation.record t.fields n j ↔ TypeRef.ofJson? n j = some t := by
  cases n with
  | zero => simp [TypeRef.ofJson?]
  | succ n =>
    -- The slot of the node is empty, holds null, or holds a node.
    cases t with
    | null q =>
      cases q
      rw [TypeRef.fields, TypeRef.ofJson?]
      refine Presentation.record_three_iff fun type isConst isVolatile ↦ ?_
      cases type with
      | none => simp [Option.bind_eq_some_iff, -Bool.exists_bool]
      | some type =>
        by_cases isNull : type = .scalar .null
        · subst isNull
          simp [Option.bind_eq_some_iff, -Bool.exists_bool]
        · simp [Option.bind_eq_some_iff, isNull]
    | node q type =>
      have ih := TypeNode.tagged_iff type n
      cases q
      rw [TypeRef.fields, TypeRef.ofJson?]
      refine Presentation.record_three_iff fun type isConst isVolatile ↦ ?_
      cases type with
      | none => simp [Option.bind_eq_some_iff, -Bool.exists_bool]
      | some type =>
        by_cases isNull : type = .scalar .null
        · subst isNull
          simp [ih, Option.bind_eq_some_iff, -Bool.exists_bool]
        · simp [ih, Option.bind_eq_some_iff, -Bool.exists_bool, and_left_comm, and_comm]

theorem TypeNode.tagged_iff (type : TypeNode) (n : Nat) (j : Json) :
    Presentation.tagged type.tag (.record type.fields) n j ↔ TypeNode.ofJson? n j = some type := by
  refine Presentation.tagged_record_iff type.shape_of_ofJson? fun n key payload hk ↦ ?_
  rw [TypeNode.ofJson?, hk, Option.bind_eq_bind, Option.bind_some]
  cases type
  all_goals
    simp only [TypeNode.fields, TypeNode.tag, TypeNode.className, List.mem_cons, String.reduceEq,
      List.not_mem_nil, or_self, or_false, or_true, Indirection.find?_className,
      Indirection.find?_sugar, Indirection.find?_otherNames, Sugar.find?_className,
      Sugar.find?_otherNames, Option.pure_def, Option.bind_eq_bind]
  case builtin b => simp [Builtin.record_fields_iff]
  case indirect kind pointee =>
    have ih := TypeRef.record_fields_iff pointee n
    refine Presentation.record_one_iff fun pointee ↦ ?_
    simp [ih, Option.bind_eq_some_iff]
  case memberPointer owner pointee =>
    have ih := TypeRef.record_fields_iff pointee n
    refine Presentation.record_two_iff fun owner pointee ↦ ?_
    simp [ih, Option.bind_eq_some_iff, ← and_assoc]
  case record decl =>
    refine Presentation.record_one_iff fun decl ↦ ?_
    simp [Option.bind_eq_some_iff]
  case «alias» kind decl target =>
    have ih := TypeRef.record_fields_iff target n
    cases kind with
    | enumeration | definition =>
      simp only [Alias.className, Alias.field, List.mem_cons, String.reduceEq, List.not_mem_nil,
        or_self, or_false, or_true, Indirection.find?_otherNames, Sugar.find?_otherNames]
      refine Presentation.record_two_iff fun decl target ↦ ?_
      simp [ih, Option.bind_eq_some_iff, ← and_assoc]
  case injectedClassName decl specialization =>
    have ih := TypeRef.record_fields_iff specialization n
    refine Presentation.record_two_iff fun decl specialization ↦ ?_
    simp [ih, Option.bind_eq_some_iff, ← and_assoc]
  case sugar kind inner =>
    have ih := TypeRef.record_fields_iff inner n
    refine Presentation.record_one_iff fun inner ↦ ?_
    simp [ih, Option.bind_eq_some_iff]
  case deduced type =>
    have ih := TypeRef.record_fields_iff type n
    refine Presentation.record_one_iff fun type ↦ ?_
    simp [ih, Option.bind_eq_some_iff]
  case constantArray element size =>
    have ih := TypeRef.record_fields_iff element n
    refine Presentation.record_two_iff fun element size ↦ ?_
    simp [ih, Option.bind_eq_some_iff, ← and_assoc]
  case incompleteArray element =>
    have ih := TypeRef.record_fields_iff element n
    refine Presentation.record_one_iff fun element ↦ ?_
    simp [ih, Option.bind_eq_some_iff]
  case decayed original pointee =>
    have original := TypeRef.record_fields_iff original n
    have pointee := TypeRef.record_fields_iff pointee n
    refine Presentation.record_two_iff fun _ _ ↦ ?_
    simp [original, pointee, Option.bind_eq_some_iff, ← and_assoc]
  case function cc result params =>
    have result := TypeRef.record_fields_iff result n
    have params (j : Json) : Presentation.list (TypeRef.presentations params) n j ↔ _ :=
      TypeRef.list_presentations_iff (TypeRef.record_fields_iff_of_mem params)
    refine Presentation.record_three_iff fun _ _ _ ↦ ?_
    simp [result, params, Option.bind_eq_some_iff, ← and_assoc]
  case templateParam name =>
    refine Presentation.record_one_iff fun name ↦ ?_
    simp [Option.bind_eq_some_iff]
  case opaqueSpecialization template =>
    refine Presentation.record_two_iff fun template aliased ↦ ?_
    cases aliased with
    | none => simp [Option.bind_eq_some_iff]
    | some aliased =>
      by_cases isNull : aliased = .scalar .null
      · subst isNull
        simp [Option.bind_eq_some_iff]
      · simp [Option.bind_eq_some_iff, isNull]
  case aliasSpecialization template target =>
    have ih := TypeRef.record_fields_iff target n
    refine Presentation.record_two_iff fun template aliased ↦ ?_
    cases aliased with
    | none => simp [Option.bind_eq_some_iff]
    | some aliased =>
      by_cases isNull : aliased = .scalar .null
      · subst isNull
        simp [ih, Option.bind_eq_some_iff]
      · simp [ih, Option.bind_eq_some_iff, ← and_assoc]
  case unsupported className =>
    refine Presentation.record_one_iff fun className ↦ ?_
    simp [Option.bind_eq_some_iff]

theorem TypeRef.record_fields_iff_of_mem (ts : List TypeRef) :
    ∀ t ∈ ts, ∀ n j, Presentation.record t.fields n j ↔ TypeRef.ofJson? n j = some t := by
  cases ts with
  | nil => nofun
  | cons t ts =>
    rw [List.forall_mem_cons]
    exact ⟨TypeRef.record_fields_iff t, TypeRef.record_fields_iff_of_mem ts⟩

end

end Reify

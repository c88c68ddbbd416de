import Reify.Proofs.Decl.Json
import Reify.Proofs.TypeRef.Presentation

/-!
# Presentations of declarations

The values that stand for a declaration in a dump.  A declaration is a structure whose last field is
its body, under the name of its kind, and the reader has read the head when it comes to the body.
So the law for bodies says which head comes out as well.
-/

namespace Reify

open Json (Presentation)

/-! ## Locations, tags and assertions -/

/-- The values that present a location. -/
def Location.presentation (l : Location) : Presentation :=
  .record [.required "filename" (.text l.filename), .required "line" (.nat l.line.toNat),
    .required "column" (.nat l.column.toNat)]

/-- The values that present the keyword of a record. -/
def Tag.presentation (t : Tag) : Presentation := .named t.name

/-- The fields of an assertion. -/
def StaticAssert.fields (a : StaticAssert) : List Presentation.Field :=
  [.optional "message" (.nullable (a.message.map .text)) (a.message = none),
    .optional "location" (.nullable (a.location.map Location.presentation)) (a.location = none)]

/-! ## Declarations -/

/-- The fields of a declaration with this head, whose body is presented in a given way. -/
def Decl.Head.fields (h : Decl.Head) (body : Presentation) : List Presentation.Field :=
  [.required "id" (.nat h.id.toNat), .required "name" (.text h.name),
    .optional "qualified_name" (.text h.qualifiedName) (h.qualifiedName = ""),
    .optional "mangled" (.nullable (h.mangled.map .text)) (h.mangled = none),
    .optional "location" (.nullable (h.location.map Location.presentation)) (h.location = none),
    .optional "annotation" (.nullable (h.annotation.map .text)) (h.annotation = none),
    .required "kind" body]

/-- The name of a typed declaration in a dump. -/
def Entity.className : Entity → String
  | .enumeration _ => "Enum"
  | .typeDefinition => "Typedef"
  | .function _ => "Function"
  | .object _ => "Var"

/-- The fields of a typed declaration, whose type is presented in a given way. -/
def Entity.fields (type : Presentation) : Entity → List Presentation.Field
  | .enumeration b => [.required "promotion" type, .required "is_definition" (.bool b)]
  | .typeDefinition => [.required "underlying" type]
  | .function b => [.required "ty" type, .required "is_definition" (.bool b)]
  | .object b => [.required "ty" type, .required "is_definition" (.bool b)]

namespace Decl

/-- The name of the kind of a declaration in a dump. -/
def className : Decl → String
  | .group _ kind _ => kind.className
  | .record _ _ _ _ => "Record"
  | .typed _ entity _ => entity.className
  | .template _ kind _ _ => kind.className
  | .staticAssert _ _ => "StaticAssert"

mutual

/-- The fields of the body of a declaration. -/
def fields : Decl → List Presentation.Field
  | .group _ _ decls => [.optional "decls" (.list (presentations decls)) (decls = [])]
  | .record _ tag isDefinition members =>
    [.required "tag" tag.presentation, .required "is_definition" (.bool isDefinition),
      .optional "members" (.list (presentations members)) (members = [])]
  | .typed _ entity type => entity.fields type.presentation
  | .template _ _ pattern specializations =>
    [.required "pattern"
        (.record (pattern.head.fields (.tagged pattern.className (.record pattern.fields)))),
      .optional "specializations" (.list (presentations specializations)) (specializations = [])]
  | .staticAssert _ assertion => assertion.fields

/-- The presentations of some declarations, one by one. -/
def presentations : List Decl → List Presentation
  | [] => []
  | d :: ds =>
    .record (d.head.fields (.tagged d.className (.record d.fields))) :: presentations ds

end

/-- The values that present the body of a declaration. -/
def bodyPresentation (d : Decl) : Presentation := .tagged d.className (.record d.fields)

/-- The values that present a declaration. -/
def presentation (d : Decl) : Presentation := .record (d.head.fields d.bodyPresentation)

theorem fields_template (h : Head) (kind : Template) (pattern : Decl)
    (specializations : List Decl) : (template h kind pattern specializations).fields =
      [.required "pattern" pattern.presentation,
        .optional "specializations" (.list (presentations specializations))
          (specializations = [])] :=
  rfl

theorem presentations_eq_map (ds : List Decl) : presentations ds = ds.map presentation := by
  induction ds with
  | nil => rfl
  | cons d ds ih => rw [presentations, ih, List.map_cons, presentation, bodyPresentation]

end Decl

/-! ## What the readers accept -/

variable {n : Nat} {j : Json}

@[simp] theorem Location.presentation_iff {l : Location} :
    l.presentation n j ↔ ofJson? n j = some l := by
  cases n with
  | zero => simp [ofJson?, presentation]
  | succ n =>
    refine Presentation.record_three_iff fun filename line column ↦ ?_
    cases l
    simp [Option.bind_eq_some_iff, ← and_assoc]

@[simp] theorem Location.nullable_presentation_iff {o : Option Location} :
    Presentation.nullable (o.map Location.presentation) n j ↔
      Json.nullable? (ofJson? n) j = some o := by
  refine Presentation.nullable_iff (fun _ ↦ presentation_iff) ?_
  cases n <;> rfl

@[simp] theorem Tag.presentation_iff {t : Tag} : t.presentation n j ↔ ofJson? n j = some t := by
  refine Presentation.named_iff_choice? ?_
  cases t <;> rfl

theorem StaticAssert.record_fields_iff {a : StaticAssert} :
    Presentation.record a.fields n j ↔ ofJson? n j = some a := by
  cases n with
  | zero => simp [ofJson?]
  | succ n =>
    refine Presentation.record_two_iff fun message location ↦ ?_
    cases a
    simp [Option.bind_eq_some_iff]

namespace Decl

/-- A body is read from an object with one key. -/
theorem exists_of_ofBody? {h : Head} {d : Decl} (read : ofBody? h n j = some d) :
    ∃ m key payload, n = m + 2 ∧ j = .object [(key, payload)] := by
  unfold ofBody? at read
  split at read
  · exact ⟨_, _, _, rfl, rfl⟩
  · cases read

/-- The key is the name of the kind that was read, and the head is the one that was given. -/
theorem head_of_ofBody? {h : Head} {key : List Json.Piece} {payload : Json} :
    ∀ d ∈ ofBody? h (n + 2) (.object [(key, payload)]),
      Json.Piece.text? key = some d.className ∧ d.head = h := by
  rw [ofBody?]
  refine Json.forall_bind fun name hk ↦ ?_
  rw [Option.mem_def.mp hk]
  split
  case h_10 =>
    refine Json.forall_bind fun assertion _ ↦ ?_
    rintro _ ⟨⟩
    exact ⟨rfl, rfl⟩
  case h_11 => rintro _ ⟨⟩
  all_goals
    refine Json.forall_bind fun slots _ ↦ ?_
    split
    · repeat refine Json.forall_bind fun _ _ ↦ ?_
      rintro _ ⟨⟩
      exact ⟨rfl, rfl⟩
    · rintro _ ⟨⟩

/-- Whatever head is at hand, only that of the declaration gives the declaration. -/
theorem ofBody?_eq_some_iff {d : Decl}
    (body : ∀ n j, d.bodyPresentation n j ↔ ofBody? d.head n j = some d) (h : Head) (n : Nat)
    (j : Json) : ofBody? h n j = some d ↔ d.head = h ∧ d.bodyPresentation n j := by
  constructor
  · intro read
    obtain ⟨m, key, payload, rfl, rfl⟩ := exists_of_ofBody? read
    obtain rfl := (head_of_ofBody? d read).2
    exact ⟨rfl, (body _ _).mpr read⟩
  · rintro ⟨rfl, presents⟩
    exact (body n j).mp presents

/-- A declaration is read by its head and then, with the head at hand, its body. -/
theorem presentation_iff_of_body {d : Decl}
    (body : ∀ n j, d.bodyPresentation n j ↔ ofBody? d.head n j = some d) :
    d.presentation n j ↔ ofJson? n j = some d := by
  have any := ofBody?_eq_some_iff body
  cases n with
  | zero => exact iff_of_false Presentation.not_record_zero (Option.some_ne_none d).symm
  | succ n =>
    rw [presentation, ofJson?]
    generalize d.head = h at any
    cases h
    refine Presentation.record_iff_of_slots rfl fun slots ↦ ?_
    match slots with
    | [id, name, qualifiedName, mangled, location, annotation, kind] =>
      simp only [Head.fields, List.forall₂_cons, Presentation.Field.fits_required,
        Presentation.nat_iff_uint32?, Presentation.text_iff, Presentation.Field.fits_optional,
        Presentation.nullable_text_iff, Location.nullable_presentation_iff,
        List.forall₂_nil_right_iff, and_true, Option.bind_eq_bind, Option.bind_eq_some_iff,
        Presentation.orElse_eq_some_iff, any, Head.mk.injEq, ↓existsAndEq, exists_and_left,
        true_and]
      simp only [← and_assoc, exists_and_right]
    | [] | [_] | [_, _] | [_, _, _] | [_, _, _, _] | [_, _, _, _, _] | [_, _, _, _, _, _]
    | _ :: _ :: _ :: _ :: _ :: _ :: _ :: _ :: _ => simp [Head.fields]

/-- A body is read from the name of its kind, over a payload. -/
theorem shape_of_ofBody? (d : Decl) (n : Nat) (j : Json) (h : ofBody? d.head n j = some d) :
    ∃ m key payload, n = m + 2 ∧ j = .object [(key, payload)] ∧
      Json.Piece.text? key = some d.className := by
  obtain ⟨m, key, payload, rfl, rfl⟩ := exists_of_ofBody? h
  exact ⟨m, key, payload, rfl, rfl, (head_of_ofBody? d h).1⟩

/-- A list of declarations is read item by item. -/
theorem list_presentations_iff {ds : List Decl}
    (h : ∀ d ∈ ds, ∀ n j, d.bodyPresentation n j ↔ ofBody? d.head n j = some d) :
    Presentation.list (presentations ds) n j ↔ listOfJson? n j = some ds := by
  have reader : listOfJson? n j = Json.list? ofJson? n j := by
    unfold listOfJson? Json.list?
    rfl
  rw [presentations_eq_map, reader]
  exact Presentation.list_iff fun d hd n j ↦ presentation_iff_of_body (h d hd)

end Decl

mutual

theorem Decl.bodyPresentation_iff (d : Decl) (n : Nat) (j : Json) :
    d.bodyPresentation n j ↔ Decl.ofBody? d.head n j = some d := by
  refine Presentation.tagged_record_iff d.shape_of_ofBody? fun n key payload hk ↦ ?_
  rw [Decl.ofBody?, hk, Option.bind_eq_bind, Option.bind_some]
  cases d with
  | group h kind decls =>
    have decls (j : Json) : Presentation.list (Decl.presentations decls) n j ↔ _ :=
      Decl.list_presentations_iff (Decl.bodyPresentation_iff_of_mem decls)
    cases kind with
    | named | linkage =>
      simp only [Decl.fields, Decl.className, Group.className, Decl.head, Option.pure_def,
        Option.bind_eq_bind]
      refine Presentation.record_one_iff fun _ ↦ ?_
      simp [decls, Option.bind_eq_some_iff]
  | record h tag isDefinition members =>
    have members (j : Json) : Presentation.list (Decl.presentations members) n j ↔ _ :=
      Decl.list_presentations_iff (Decl.bodyPresentation_iff_of_mem members)
    simp only [Decl.fields, Decl.className, Decl.head, Option.pure_def, Option.bind_eq_bind]
    refine Presentation.record_three_iff fun _ _ _ ↦ ?_
    simp only [Presentation.Field.fits_required, Tag.presentation_iff, Presentation.bool_iff,
      Presentation.Field.fits_optional, members, Option.bind_eq_some_iff,
      Presentation.orElse_eq_some_iff, Option.some.injEq, Decl.record.injEq, true_and,
      ↓existsAndEq, and_true, exists_and_left]
    simp only [← and_assoc, exists_and_right]
  | typed h entity type =>
    have type (j : Json) : type.presentation n j ↔ _ := TypeRef.record_fields_iff type n j
    cases entity with
    | typeDefinition =>
      simp only [Decl.fields, Entity.fields, Decl.className, Entity.className, Decl.head,
        Option.pure_def, Option.bind_eq_bind]
      refine Presentation.record_one_iff fun _ ↦ ?_
      simp [type, Option.bind_eq_some_iff]
    | enumeration isDefinition | function isDefinition | object isDefinition =>
      simp only [Decl.fields, Entity.fields, Decl.className, Entity.className, Decl.head,
        Option.pure_def, Option.bind_eq_bind]
      refine Presentation.record_two_iff fun _ _ ↦ ?_
      simp [type, Option.bind_eq_some_iff, ← and_assoc, -Bool.exists_bool]
  | template h kind pattern specializations =>
    have pattern (j : Json) : pattern.presentation n j ↔ _ :=
      Decl.presentation_iff_of_body (Decl.bodyPresentation_iff pattern)
    have specializations (j : Json) :
        Presentation.list (Decl.presentations specializations) n j ↔ _ :=
      Decl.list_presentations_iff (Decl.bodyPresentation_iff_of_mem specializations)
    rw [Decl.fields_template]
    cases kind with
    | ofClass | ofFunction =>
      simp only [Decl.className, Template.className, Decl.head, Option.pure_def,
        Option.bind_eq_bind]
      refine Presentation.record_two_iff fun _ _ ↦ ?_
      simp [pattern, specializations, Option.bind_eq_some_iff, ← and_assoc]
  | staticAssert h assertion =>
    simp [Decl.fields, Decl.className, Decl.head, StaticAssert.record_fields_iff,
      Option.bind_eq_some_iff]

theorem Decl.bodyPresentation_iff_of_mem (ds : List Decl) :
    ∀ d ∈ ds, ∀ n j, d.bodyPresentation n j ↔ Decl.ofBody? d.head n j = some d := by
  cases ds with
  | nil => nofun
  | cons d ds =>
    rw [List.forall_mem_cons]
    exact ⟨Decl.bodyPresentation_iff d, Decl.bodyPresentation_iff_of_mem ds⟩

end

/-- The reader of declarations accepts what presents the declaration, and nothing else. -/
theorem Decl.presentation_iff (d : Decl) : d.presentation n j ↔ Decl.ofJson? n j = some d :=
  Decl.presentation_iff_of_body (Decl.bodyPresentation_iff d)

end Reify

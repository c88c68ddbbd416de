import Reify.Proofs.Decl.Presentation
import Reify.Proofs.Json.Nesting

/-!
# How deep dumps of types and declarations nest

Wherever a type or a declaration is presented, its dump nests one level deeper at most than brackets
may be opened there.  What a presentation leaves out and a dump spells out is a list without items
or the type of a placeholder that was not deduced, and nothing ever nests in these.
-/

namespace Reify

open Json (Presentation)
open Json.Presentation (Field)

/-! ## Flat structures -/

/-- A text or null opens no bracket. -/
theorem Json.depth_nullable_text (o : Option String) : (nullable (o.map text)).depth = 0 := by
  cases o with
  | none => rfl
  | some s => rfl

theorem BuiltinKind.bounds_toJson (k : BuiltinKind) : k.presentation.Bounds k.toJson := by
  cases k with
  | integer sign | character sign => exact (Presentation.bounds_of_depth_eq_zero rfl).tagged _ _
  | void | bool | nullPtr | floating | sizeless | placeholder _ =>
    exact Presentation.bounds_of_depth_eq_zero rfl

theorem Builtin.bounds_toJson (b : Builtin) : (Presentation.record b.fields).Bounds b.toJson :=
  .record <|
    .cons (.required b.kind.bounds_toJson _) <|
    .cons (Field.bounds_of_depth_eq_zero rfl) <|
    .cons (Field.bounds_of_depth_eq_zero rfl) .nil

theorem DeclRef.bounds_toJson (r : DeclRef) : r.presentation.Bounds r.toJson :=
  .record <|
    .cons (Field.bounds_of_depth_eq_zero rfl) <|
    .cons (Field.bounds_of_depth_eq_zero rfl) <|
    .cons (Field.bounds_of_depth_eq_zero (Json.depth_nullable_text r.mangled)) .nil

theorem Location.bounds_toJson (l : Location) : l.presentation.Bounds l.toJson :=
  .record <|
    .cons (Field.bounds_of_depth_eq_zero rfl) <|
    .cons (Field.bounds_of_depth_eq_zero rfl) <|
    .cons (Field.bounds_of_depth_eq_zero rfl) .nil

/-- A location that may be missing is null when it is. -/
theorem Location.bounds_nullable (o : Option Location) (name : String) :
    (Field.optional name (.nullable (o.map presentation)) (o = none)).Bounds
      (.nullable (o.map toJson)) := by
  refine .optional (.nullable fun l _ ↦ l.bounds_toJson) name ?_
  rintro rfl
  exact Nat.zero_le 1

theorem StaticAssert.bounds_toJson (a : StaticAssert) :
    (Presentation.record a.fields).Bounds a.toJson :=
  .record <|
    .cons (Field.bounds_of_depth_eq_zero (Json.depth_nullable_text a.message)) <|
    .cons (Location.bounds_nullable a.location _) .nil

/-! ## Types -/

mutual

theorem TypeRef.bounds_toJson (t : TypeRef) : t.presentation.Bounds t.toJson := by
  cases t with
  | null q =>
    exact .record <|
      .cons (Field.bounds_of_depth_eq_zero rfl) <|
      .cons (Field.bounds_of_depth_eq_zero rfl) <|
      .cons (Field.bounds_of_depth_eq_zero rfl) .nil
  | node q type =>
    exact .record <|
      .cons (.required (TypeNode.bounds_toJson type) _) <|
      .cons (Field.bounds_of_depth_eq_zero rfl) <|
      .cons (Field.bounds_of_depth_eq_zero rfl) .nil

theorem TypeNode.bounds_toJson (type : TypeNode) :
    (Presentation.tagged type.tag (.record type.fields)).Bounds type.toJson := by
  cases type with
  | builtin b => exact b.bounds_toJson.tagged _ _
  | indirect kind t | sugar kind t | incompleteArray t =>
    exact .tagged (.record <| .cons (.required (TypeRef.bounds_toJson t) _) .nil) _ _
  | memberPointer owner t =>
    refine .tagged (.record <| .cons (.required owner.bounds_toJson _) ?_) _ _
    exact .cons (.required (TypeRef.bounds_toJson t) _) .nil
  | record decl => exact .tagged (.record <| .cons (.required decl.bounds_toJson _) .nil) _ _
  | «alias» kind decl t =>
    refine .tagged (.record <| .cons (.required decl.bounds_toJson _) ?_) _ _
    exact .cons (.required (TypeRef.bounds_toJson t) _) .nil
  | injectedClassName decl t =>
    refine .tagged (.record <| .cons (.optional (.nullable fun r _ ↦ r.bounds_toJson) _ ?_) ?_) _ _
    · rintro rfl
      exact Nat.zero_le 1
    · exact .cons (.required (TypeRef.bounds_toJson t) _) .nil
  | deduced t =>
    refine .tagged (.record <| .cons (.optional (TypeRef.bounds_toJson t) _ ?_) .nil) _ _
    -- The default is a structure with nothing in it but scalars.
    rintro rfl
    exact Nat.le_refl 1
  | constantArray t size =>
    refine .tagged (.record <| .cons (.required (TypeRef.bounds_toJson t) _) ?_) _ _
    exact .cons (Field.bounds_of_depth_eq_zero rfl) .nil
  | decayed original pointee =>
    refine .tagged (.record <| .cons (.required (TypeRef.bounds_toJson original) _) ?_) _ _
    exact .cons (.required (TypeRef.bounds_toJson pointee) _) .nil
  | function cc result params =>
    refine .tagged (.record <| .cons (Field.bounds_of_depth_eq_zero rfl) <|
      .cons (.required (TypeRef.bounds_toJson result) _) <|
      .cons (.optional (.list (TypeRef.bounds_toJsonAll params)) _ ?_) .nil) _ _
    rintro rfl
    exact Nat.le_refl 1
  | templateParam _ | unsupported _ =>
    exact .tagged (.record <| .cons (Field.bounds_of_depth_eq_zero rfl) .nil) _ _
  | opaqueSpecialization template =>
    refine .tagged (.record <| .cons (Field.bounds_of_depth_eq_zero rfl) ?_) _ _
    exact .cons (Field.bounds_of_depth_eq_zero rfl) .nil
  | aliasSpecialization template t =>
    refine .tagged (.record <| .cons (Field.bounds_of_depth_eq_zero rfl) ?_) _ _
    exact .cons (.required (TypeRef.bounds_toJson t) _) .nil

theorem TypeRef.bounds_toJsonAll (ts : List TypeRef) :
    List.Forall₂ Presentation.Bounds (TypeRef.presentations ts) (TypeRef.toJsonAll ts) := by
  cases ts with
  | nil => exact .nil
  | cons t ts => exact .cons (TypeRef.bounds_toJson t) (TypeRef.bounds_toJsonAll ts)

end

/-! ## Declarations -/

/-- All that may nest in a head beside the body is the location. -/
theorem Decl.Head.bounds_toJson (h : Decl.Head) {body : Presentation} {v : Json}
    (inner : body.Bounds v) : (Presentation.record (h.fields body)).Bounds (h.toJson v) :=
  .record <|
    .cons (Field.bounds_of_depth_eq_zero rfl) <|
    .cons (Field.bounds_of_depth_eq_zero rfl) <|
    .cons (Field.bounds_of_depth_eq_zero rfl) <|
    .cons (Field.bounds_of_depth_eq_zero (Json.depth_nullable_text h.mangled)) <|
    .cons (Location.bounds_nullable h.location _) <|
    .cons (Field.bounds_of_depth_eq_zero (Json.depth_nullable_text h.annotation)) <|
    .cons (.required inner _) .nil

theorem Entity.bounds_toJson (entity : Entity) (type : TypeRef) :
    (Presentation.tagged entity.className (.record (entity.fields type.presentation))).Bounds
      (entity.toJson type.toJson) := by
  cases entity with
  | typeDefinition => exact .tagged (.record <| .cons (.required type.bounds_toJson _) .nil) _ _
  | enumeration b | function b | object b =>
    refine .tagged (.record <| .cons (.required type.bounds_toJson _) ?_) _ _
    exact .cons (Field.bounds_of_depth_eq_zero rfl) .nil

mutual

theorem Decl.bounds_toJson (d : Decl) : d.presentation.Bounds d.toJson := by
  have list {name : String} (ds : List Decl)
      (h : List.Forall₂ Presentation.Bounds (Decl.presentations ds) (Decl.toJsonAll ds)) :
      (Field.optional name (.list (Decl.presentations ds)) (ds = [])).Bounds
        (.array (Decl.toJsonAll ds)) := by
    refine .optional (.list h) name ?_
    rintro rfl
    exact Nat.le_refl 1
  cases d with
  | group h kind decls =>
    refine h.bounds_toJson (.tagged (.record ?_) _ _)
    exact .cons (list decls (Decl.bounds_toJsonAll decls)) .nil
  | record h tag isDefinition members =>
    refine h.bounds_toJson (.tagged (.record ?_) _ _)
    exact .cons (Field.bounds_of_depth_eq_zero rfl) <|
      .cons (Field.bounds_of_depth_eq_zero rfl) <|
      .cons (list members (Decl.bounds_toJsonAll members)) .nil
  | typed h entity type => exact h.bounds_toJson (entity.bounds_toJson type)
  | template h kind pattern specializations =>
    refine h.bounds_toJson (.tagged (.record ?_) _ _)
    exact .cons (.required (Decl.bounds_toJson pattern) _) <|
      .cons (list specializations (Decl.bounds_toJsonAll specializations)) .nil
  | staticAssert h assertion => exact h.bounds_toJson (assertion.bounds_toJson.tagged _ _)

theorem Decl.bounds_toJsonAll (ds : List Decl) :
    List.Forall₂ Presentation.Bounds (Decl.presentations ds) (Decl.toJsonAll ds) := by
  cases ds with
  | nil => exact .nil
  | cons d ds => exact .cons (Decl.bounds_toJson d) (Decl.bounds_toJsonAll ds)

end

end Reify

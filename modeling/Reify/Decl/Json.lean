import Reify.Decl.Basic
import Reify.TypeRef.Json

/-!
# Declarations in a dump
-/

namespace Reify

namespace StaticAssert

/-- The assertion as it stands in a dump. -/
def toJson (a : StaticAssert) : Json :=
  .record [("message", .nullable (a.message.map .text)),
    ("location", .nullable (a.location.map Location.toJson))]

/-- The assertion that a value of a dump gives. -/
def ofJson? : Nat → Json → Option StaticAssert
  | n + 1, j => do
    match ← Json.slots? ["message", "location"] j with
    | [message, location] =>
      return ⟨← Json.orElse none (Json.nullable? Json.text?) message,
        ← Json.orElse none (Json.nullable? (Location.ofJson? n)) location⟩
    | _ => none
  | 0, _ => none

end StaticAssert

/-- The members of a dump for a head and a body that has already been written. -/
def Decl.Head.toJson (h : Decl.Head) (body : Json) : Json :=
  .record [("id", .nat h.id.toNat), ("name", .text h.name),
    ("qualified_name", .text h.qualifiedName), ("mangled", .nullable (h.mangled.map .text)),
    ("location", .nullable (h.location.map Location.toJson)),
    ("annotation", .nullable (h.annotation.map .text)), ("kind", body)]

/-- The name in a dump of a container. -/
def Group.className : Group → String
  | .named => "Namespace"
  | .linkage => "LinkageSpec"

/-- The name in a dump of a template. -/
def Template.className : Template → String
  | .ofClass => "ClassTemplate"
  | .ofFunction => "FunctionTemplate"

/-- A typed declaration as it stands in a dump: its type, and whether it is a definition where that
is not certain. -/
def Entity.toJson (type : Json) : Entity → Json
  | .enumeration b => .tagged "Enum" (.record [("promotion", type), ("is_definition", .bool b)])
  | .typeDefinition => .tagged "Typedef" (.record [("underlying", type)])
  | .function b => .tagged "Function" (.record [("ty", type), ("is_definition", .bool b)])
  | .object b => .tagged "Var" (.record [("ty", type), ("is_definition", .bool b)])

mutual

/-- A declaration as it stands in a dump. -/
def Decl.toJson : Decl → Json
  | .group h kind decls =>
    h.toJson (.tagged kind.className (.record [("decls", .array (Decl.toJsonAll decls))]))
  | .record h tag isDefinition members =>
    h.toJson (.tagged "Record" (.record [("tag", tag.toJson),
      ("is_definition", .bool isDefinition), ("members", .array (Decl.toJsonAll members))]))
  | .typed h entity type => h.toJson (entity.toJson type.toJson)
  | .template h kind pattern specializations =>
    h.toJson (.tagged kind.className (.record [("pattern", pattern.toJson),
      ("specializations", .array (Decl.toJsonAll specializations))]))
  | .staticAssert h assertion => h.toJson (.tagged "StaticAssert" assertion.toJson)

/-- Declarations as they stand in a dump, one by one. -/
def Decl.toJsonAll : List Decl → List Json
  | [] => []
  | d :: ds => d.toJson :: Decl.toJsonAll ds

end

mutual

/-- The declaration that a value of a dump gives. -/
def Decl.ofJson? : Nat → Json → Option Decl
  | n + 1, j => do
    match ← Json.slots? ["id", "name", "qualified_name", "mangled", "location", "annotation",
      "kind"] j with
    | [id, name, qualifiedName, mangled, location, annotation, kind] =>
      let head : Decl.Head :=
        ⟨← Json.uint32? (← id), ← Json.text? (← name),
          ← Json.orElse "" Json.text? qualifiedName,
          ← Json.orElse none (Json.nullable? Json.text?) mangled,
          ← Json.orElse none (Json.nullable? (Location.ofJson? n)) location,
          ← Json.orElse none (Json.nullable? Json.text?) annotation⟩
      Decl.ofBody? head n (← kind)
    | _ => none
  | 0, _ => none

/-- The declaration with this head that a value of a dump gives as its kind. -/
def Decl.ofBody? (head : Decl.Head) : Nat → Json → Option Decl
  | n + 2, .object [(key, payload)] => do
    match ← Json.Piece.text? key with
    | "Namespace" =>
      match ← Json.slots? ["decls"] payload with
      | [decls] =>
        return .group head .named (← Json.orElse [] (fun j ↦ Decl.listOfJson? n j) decls)
      | _ => none
    | "LinkageSpec" =>
      match ← Json.slots? ["decls"] payload with
      | [decls] =>
        return .group head .linkage (← Json.orElse [] (fun j ↦ Decl.listOfJson? n j) decls)
      | _ => none
    | "Record" =>
      match ← Json.slots? ["tag", "is_definition", "members"] payload with
      | [tag, isDefinition, members] =>
        return .record head (← Tag.ofJson? n (← tag)) (← Json.bool? (← isDefinition))
          (← Json.orElse [] (fun j ↦ Decl.listOfJson? n j) members)
      | _ => none
    | "Enum" =>
      match ← Json.slots? ["promotion", "is_definition"] payload with
      | [type, isDefinition] =>
        let type ← TypeRef.ofJson? n (← type)
        return .typed head (.enumeration (← Json.bool? (← isDefinition))) type
      | _ => none
    | "Typedef" =>
      match ← Json.slots? ["underlying"] payload with
      | [type] => return .typed head .typeDefinition (← TypeRef.ofJson? n (← type))
      | _ => none
    | "Function" =>
      match ← Json.slots? ["ty", "is_definition"] payload with
      | [type, isDefinition] =>
        let type ← TypeRef.ofJson? n (← type)
        return .typed head (.function (← Json.bool? (← isDefinition))) type
      | _ => none
    | "Var" =>
      match ← Json.slots? ["ty", "is_definition"] payload with
      | [type, isDefinition] =>
        let type ← TypeRef.ofJson? n (← type)
        return .typed head (.object (← Json.bool? (← isDefinition))) type
      | _ => none
    | "ClassTemplate" =>
      match ← Json.slots? ["pattern", "specializations"] payload with
      | [pattern, specializations] =>
        return .template head .ofClass (← Decl.ofJson? n (← pattern))
          (← Json.orElse [] (fun j ↦ Decl.listOfJson? n j) specializations)
      | _ => none
    | "FunctionTemplate" =>
      match ← Json.slots? ["pattern", "specializations"] payload with
      | [pattern, specializations] =>
        return .template head .ofFunction (← Decl.ofJson? n (← pattern))
          (← Json.orElse [] (fun j ↦ Decl.listOfJson? n j) specializations)
      | _ => none
    | "StaticAssert" => return .staticAssert head (← StaticAssert.ofJson? (n + 1) payload)
    | _ => none
  | _, _ => none

/-- The list of declarations that a value of a dump gives. -/
def Decl.listOfJson? : Nat → Json → Option (List Decl)
  | n + 1, .array items => items.mapM fun j ↦ Decl.ofJson? n j
  | _, _ => none

end

end Reify

import Reify.TypeRef.Basic

/-!
# Types in a dump
-/

namespace Reify

mutual

/-- A reference as it stands in a dump. -/
def TypeRef.toJson : TypeRef → Json
  | .null q =>
    .record [("ty", .scalar .null), ("is_const", .bool q.isConst),
      ("is_volatile", .bool q.isVolatile)]
  | .node q type =>
    .record [("ty", type.toJson), ("is_const", .bool q.isConst),
      ("is_volatile", .bool q.isVolatile)]

/-- A node as it stands in a dump: its fields under the name of its kind. -/
def TypeNode.toJson : TypeNode → Json
  | .builtin b => .tagged "Builtin" b.toJson
  | .indirect kind pointee =>
    .tagged kind.className (.record [("pointee", pointee.toJson)])
  | .memberPointer owner pointee =>
    .tagged "MemberPointer" (.record [("class", owner.toJson), ("pointee", pointee.toJson)])
  | .record decl => .tagged "Record" (.record [("decl", decl.toJson)])
  | .alias kind decl target =>
    .tagged kind.className (.record [("decl", decl.toJson), (kind.field, target.toJson)])
  | .injectedClassName decl specialization =>
    .tagged "InjectedClassName" (.record [("decl", .nullable (decl.map DeclRef.toJson)),
      ("specialization", specialization.toJson)])
  | .sugar kind inner => .tagged kind.className (.record [(kind.field, inner.toJson)])
  | .deduced type => .tagged "Deduced" (.record [("deduced", type.toJson)])
  | .constantArray element size =>
    .tagged "ConstantArray" (.record [("element", element.toJson), ("size", .nat size.toNat)])
  | .incompleteArray element =>
    .tagged "IncompleteArray" (.record [("element", element.toJson)])
  | .decayed original pointee =>
    .tagged "Decayed" (.record [("original", original.toJson), ("pointee", pointee.toJson)])
  | .function cc result params =>
    .tagged "FunctionProto" (.record [("calling_conv", cc.toJson), ("ret", result.toJson),
      ("params", .array (TypeRef.toJsonAll params))])
  | .templateParam name => .tagged "TemplateTypeParm" (.record [("name", .text name)])
  | .opaqueSpecialization template =>
    .tagged "TemplateSpecialization" (.record [("template_name", .text template),
      ("aliased", .scalar .null)])
  | .aliasSpecialization template target =>
    .tagged "TemplateSpecialization" (.record [("template_name", .text template),
      ("aliased", target.toJson)])
  | .unsupported className =>
    .tagged "Unsupported" (.record [("class_name", .text className)])

/-- References as they stand in a dump, one by one. -/
def TypeRef.toJsonAll : List TypeRef → List Json
  | [] => []
  | t :: ts => t.toJson :: TypeRef.toJsonAll ts

end

mutual

/-- The reference that a value of a dump gives. Every field may be left out. -/
def TypeRef.ofJson? : Nat → Json → Option TypeRef
  | n + 1, j => do
    match ← Json.slots? ["ty", "is_const", "is_volatile"] j with
    | [type, isConst, isVolatile] =>
      let q : Qualifiers :=
        ⟨← Json.orElse false Json.bool? isConst, ← Json.orElse false Json.bool? isVolatile⟩
      match type with
      | none => return .null q
      | some (.scalar .null) => return .null q
      | some type => return .node q (← TypeNode.ofJson? n type)
    | _ => none
  | 0, _ => none

/-- The node that a value of a dump gives: an object with the name of a kind as its one key. -/
def TypeNode.ofJson? : Nat → Json → Option TypeNode
  | n + 2, .object [(key, payload)] => do
    let tag ← Json.Piece.text? key
    match Indirection.all.find? (·.className == tag), Sugar.all.find? (·.className == tag) with
    | some kind, _ =>
      match ← Json.slots? ["pointee"] payload with
      | [pointee] => return .indirect kind (← TypeRef.ofJson? n (← pointee))
      | _ => none
    | none, some kind =>
      match ← Json.slots? [kind.field] payload with
      | [inner] => return .sugar kind (← TypeRef.ofJson? n (← inner))
      | _ => none
    | none, none =>
      match tag with
      | "Builtin" => .builtin <$> Builtin.ofJson? (n + 1) payload
      | "MemberPointer" =>
        match ← Json.slots? ["class", "pointee"] payload with
        | [owner, pointee] =>
          return .memberPointer (← DeclRef.ofJson? n (← owner)) (← TypeRef.ofJson? n (← pointee))
        | _ => none
      | "Record" =>
        match ← Json.slots? ["decl"] payload with
        | [decl] => return .record (← DeclRef.ofJson? n (← decl))
        | _ => none
      | "Enum" =>
        match ← Json.slots? ["decl", Alias.enumeration.field] payload with
        | [decl, target] =>
          return .alias .enumeration (← DeclRef.ofJson? n (← decl))
            (← TypeRef.ofJson? n (← target))
        | _ => none
      | "Typedef" =>
        match ← Json.slots? ["decl", Alias.definition.field] payload with
        | [decl, target] =>
          return .alias .definition (← DeclRef.ofJson? n (← decl))
            (← TypeRef.ofJson? n (← target))
        | _ => none
      | "InjectedClassName" =>
        match ← Json.slots? ["decl", "specialization"] payload with
        | [decl, specialization] =>
          return .injectedClassName
            (← Json.orElse none (Json.nullable? (DeclRef.ofJson? n)) decl)
            (← TypeRef.ofJson? n (← specialization))
        | _ => none
      | "Deduced" =>
        match ← Json.slots? ["deduced"] payload with
        | [type] =>
          return .deduced (← Json.orElse (.null .none) (fun j ↦ TypeRef.ofJson? n j) type)
        | _ => none
      | "ConstantArray" =>
        match ← Json.slots? ["element", "size"] payload with
        | [element, size] =>
          return .constantArray (← TypeRef.ofJson? n (← element)) (← Json.bits128? (← size))
        | _ => none
      | "IncompleteArray" =>
        match ← Json.slots? ["element"] payload with
        | [element] => return .incompleteArray (← TypeRef.ofJson? n (← element))
        | _ => none
      | "Decayed" =>
        match ← Json.slots? ["original", "pointee"] payload with
        | [original, pointee] =>
          return .decayed (← TypeRef.ofJson? n (← original)) (← TypeRef.ofJson? n (← pointee))
        | _ => none
      | "FunctionProto" =>
        match ← Json.slots? ["calling_conv", "ret", "params"] payload with
        | [cc, result, params] =>
          return .function (← Json.orElse .c (CallingConv.ofJson? n) cc)
            (← TypeRef.ofJson? n (← result))
            (← Json.orElse [] (fun j ↦ TypeRef.listOfJson? n j) params)
        | _ => none
      | "TemplateTypeParm" =>
        match ← Json.slots? ["name"] payload with
        | [name] => return .templateParam (← Json.text? (← name))
        | _ => none
      | "TemplateSpecialization" =>
        match ← Json.slots? ["template_name", "aliased"] payload with
        | [template, aliased] =>
          let template ← Json.text? (← template)
          match aliased with
          | none => return .opaqueSpecialization template
          | some (.scalar .null) => return .opaqueSpecialization template
          | some target => return .aliasSpecialization template (← TypeRef.ofJson? n target)
        | _ => none
      | "Unsupported" =>
        match ← Json.slots? ["class_name"] payload with
        | [className] => return .unsupported (← Json.text? (← className))
        | _ => none
      | _ => none
  | _, _ => none

/-- The list of references that a value of a dump gives. -/
def TypeRef.listOfJson? : Nat → Json → Option (List TypeRef)
  | n + 1, .array items => items.mapM fun j ↦ TypeRef.ofJson? n j
  | _, _ => none

end

end Reify

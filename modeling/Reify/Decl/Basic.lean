import Reify.Location
import Reify.TypeRef.Display

/-!
# Declarations

A declaration has a head, which is the same for all kinds, and a body of its kind. Containers and
templates hold further declarations.
-/

namespace Reify

/-- What every declaration carries, whatever it declares. -/
@[ext]
structure Decl.Head where
  id : UInt32
  name : String
  qualifiedName : String
  mangled : Option String
  location : Option Location
  /-- Specification text attached to the declaration. -/
  annotation : Option String
deriving DecidableEq

/-- The containers that only group declarations. -/
inductive Group where
  /-- A namespace. -/
  | named
  /-- A linkage specification. -/
  | linkage
deriving DecidableEq, Repr

/-- The keyword of a record. -/
inductive Tag where
  | ofStruct
  | ofClass
  | ofUnion
deriving DecidableEq, Repr

namespace Tag

/-- The keyword itself. -/
def keyword : Tag → String
  | .ofStruct => "struct"
  | .ofClass => "class"
  | .ofUnion => "union"

/-- The name in a dump. -/
def name : Tag → String
  | .ofStruct => "Struct"
  | .ofClass => "Class"
  | .ofUnion => "Union"

/-- The tag as it stands in a dump. -/
def toJson (t : Tag) : Json := .text t.name

/-- The tag that a value of a dump gives. -/
def ofJson? : Nat → Json → Option Tag := Json.choice? [.ofStruct, .ofClass, .ofUnion] name

end Tag

/-- The declarations that give a name to a type or to a thing of a type. A type definition always
counts as a definition; the others say whether they are one. -/
inductive Entity where
  | enumeration (isDefinition : Bool)
  | typeDefinition
  | function (isDefinition : Bool)
  | object (isDefinition : Bool)
deriving DecidableEq, Repr

/-- Whether the declaration is a definition. -/
def Entity.isDefinition : Entity → Bool
  | .enumeration b => b
  | .typeDefinition => true
  | .function b => b
  | .object b => b

/-- What a template makes. -/
inductive Template where
  | ofClass
  | ofFunction
deriving DecidableEq, Repr

/-- A static assertion. -/
@[ext]
structure StaticAssert where
  message : Option String
  location : Option Location
deriving DecidableEq

/-- A named declaration. -/
inductive Decl where
  | group (head : Decl.Head) (kind : Group) (decls : List Decl)
  | record (head : Decl.Head) (tag : Tag) (isDefinition : Bool) (members : List Decl)
  | typed (head : Decl.Head) (entity : Entity) (type : TypeRef)
  | template (head : Decl.Head) (kind : Template) (pattern : Decl) (specializations : List Decl)
  | staticAssert (head : Decl.Head) (assertion : StaticAssert)

namespace Decl

/-- The head of a declaration. -/
def head : Decl → Head
  | .group h _ _ => h
  | .record h _ _ _ => h
  | .typed h _ _ => h
  | .template h _ _ _ => h
  | .staticAssert h _ => h

/-- The same declaration with another head. -/
def mapHead (f : Head → Head) : Decl → Decl
  | .group h kind decls => .group (f h) kind decls
  | .record h tag isDefinition members => .record (f h) tag isDefinition members
  | .typed h entity type => .typed (f h) entity type
  | .template h kind pattern specializations => .template (f h) kind pattern specializations
  | .staticAssert h assertion => .staticAssert (f h) assertion

@[simp] theorem head_mapHead (f : Head → Head) (d : Decl) : (d.mapHead f).head = f d.head := by
  cases d <;> rfl

/-- How types refer to the declaration. -/
def ref (d : Decl) : DeclRef := ⟨d.head.id, d.head.qualifiedName, d.head.mangled⟩

/-- Whether the declaration is a definition. Containers, templates and assertions are none. -/
def isDefinition : Decl → Bool
  | .record _ _ b _ => b
  | .typed _ entity _ => entity.isDefinition
  | .group _ _ _ | .template _ _ _ _ | .staticAssert _ _ => false

/-- The kind of declaration in words. -/
def kindName : Decl → String
  | .group _ .named _ => "namespace"
  | .group _ .linkage _ => "linkage specification"
  | .record _ _ _ _ => "record"
  | .typed _ (.enumeration _) _ => "enum"
  | .typed _ .typeDefinition _ => "typedef"
  | .typed _ (.function _) _ => "function"
  | .typed _ (.object _) _ => "variable"
  | .template _ .ofClass _ _ => "class template"
  | .template _ .ofFunction _ _ => "function template"
  | .staticAssert _ _ => "static assertion"

/-- The declaration as messages show it: kind, qualified name and, if known, location. -/
def display (d : Decl) : String :=
  d.kindName ++ " " ++ d.head.qualifiedName ++
    match d.head.location with
    | none => ""
    | some l => " at " ++ l.display

/-- What stands behind the last pair of colons in a reversed name, turned round in front of
`passed`. -/
def lastComponent : List Char → List Char → List Char
  | ':' :: ':' :: _, passed => passed
  | c :: rest, passed => lastComponent rest (c :: passed)
  | [], passed => passed

/-- The part of a qualified name behind its last pair of colons. -/
def unqualified (qualifiedName : String) : String :=
  String.ofList (lastComponent qualifiedName.toList.reverse [])

end Decl

/-- The head of a new declaration, known by its qualified name only. -/
def Decl.Head.new (id : UInt32) (qualifiedName : String) : Decl.Head :=
  ⟨id, Decl.unqualified qualifiedName, qualifiedName, none, none, none⟩

mutual

/-- The number of declarations in a declaration, itself included. -/
def Decl.count : Decl → Nat
  | .group _ _ decls => 1 + Decl.countAll decls
  | .record _ _ _ members => 1 + Decl.countAll members
  | .typed _ _ _ => 1
  | .template _ _ pattern specializations => 1 + pattern.count + Decl.countAll specializations
  | .staticAssert _ _ => 1

/-- The number of declarations in a list of them. -/
def Decl.countAll : List Decl → Nat
  | [] => 0
  | d :: ds => d.count + Decl.countAll ds

end

end Reify

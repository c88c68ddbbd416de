import Reify.Builtin
import Reify.CallingConv
import Reify.DeclRef

/-!
# Types

A type reference carries the qualifiers of the place where a type is named; a type node is what is
named there. A reference may be null, and then only its qualifiers are known.
-/

namespace Reify

/-- The qualifiers of one reference. -/
@[ext]
structure Qualifiers where
  isConst : Bool
  isVolatile : Bool
deriving DecidableEq, Repr

namespace Qualifiers

/-- No qualifier. -/
def none : Qualifiers := ⟨false, false⟩

/-- Whether there is no qualifier. -/
def isNone (q : Qualifiers) : Bool := !q.isConst && !q.isVolatile

/-- The qualifiers in front of a type, each followed by a space. -/
def display (q : Qualifiers) : String :=
  (if q.isConst then "const " else "") ++ (if q.isVolatile then "volatile " else "")

end Qualifiers

/-- The ways to refer to a value of another type. -/
inductive Indirection where
  | pointer
  | lvalueReference
  | rvalueReference
deriving DecidableEq, Repr

namespace Indirection

/-- The name of the node in a dump. -/
def className : Indirection → String
  | .pointer => "Pointer"
  | .lvalueReference => "LValueReference"
  | .rvalueReference => "RValueReference"

/-- What is written behind the type referred to. -/
def mark : Indirection → String
  | .pointer => "*"
  | .lvalueReference => "&"
  | .rvalueReference => "&&"

/-- Every indirection. -/
def all : List Indirection := [.pointer, .lvalueReference, .rvalueReference]

end Indirection

/-- The nodes that only say how a type was written. -/
inductive Sugar where
  | paren
  | elaborated
  | substituted
  | decltype
  | typeOfExpr
  | attributed
deriving DecidableEq, Repr

namespace Sugar

/-- The name of the node in a dump. -/
def className : Sugar → String
  | .paren => "Paren"
  | .elaborated => "Elaborated"
  | .substituted => "SubstTemplateTypeParm"
  | .decltype => "Decltype"
  | .typeOfExpr => "TypeOfExpr"
  | .attributed => "Attributed"

/-- The name in a dump of the field with the type that was written. -/
def field : Sugar → String
  | .paren => "inner"
  | .elaborated => "named"
  | .substituted => "replacement"
  | .decltype => "underlying"
  | .typeOfExpr => "underlying"
  | .attributed => "modified"

/-- The written form around that of the inner type. -/
def display (inner : String) : Sugar → String
  | .paren => "(" ++ inner ++ ")"
  | .elaborated => inner
  | .substituted => inner
  | .decltype => "decltype(" ++ inner ++ ")"
  | .typeOfExpr => "typeof(" ++ inner ++ ")"
  | .attributed => inner ++ " [[attr]]"

/-- Every kind of sugar. -/
def all : List Sugar :=
  [.paren, .elaborated, .substituted, .decltype, .typeOfExpr, .attributed]

end Sugar

/-- The named types that stand for another one. -/
inductive Alias where
  /-- An enumeration stands for its integer promotion type. -/
  | enumeration
  /-- A type definition stands for its underlying type. -/
  | definition
deriving DecidableEq, Repr

namespace Alias

/-- The name of the node in a dump. -/
def className : Alias → String
  | .enumeration => "Enum"
  | .definition => "Typedef"

/-- The name in a dump of the field with the type it stands for. -/
def field : Alias → String
  | .enumeration => "promotion"
  | .definition => "underlying"

end Alias

mutual

/-- A reference to a type. -/
inductive TypeRef where
  | null (q : Qualifiers)
  | node (q : Qualifiers) (type : TypeNode)

/-- A fully elaborated type. -/
inductive TypeNode where
  | builtin (b : Builtin)
  | indirect (kind : Indirection) (pointee : TypeRef)
  | memberPointer (owner : DeclRef) (pointee : TypeRef)
  /-- A struct, class or union; its members stand at its declaration only. -/
  | record (decl : DeclRef)
  | alias (kind : Alias) (decl : DeclRef) (target : TypeRef)
  /-- The name of a class template inside itself, perhaps without a declaration of its own. -/
  | injectedClassName (decl : Option DeclRef) (specialization : TypeRef)
  | sugar (kind : Sugar) (inner : TypeRef)
  /-- A placeholder such as `auto`; a null reference when its type was not deduced. -/
  | deduced (type : TypeRef)
  | constantArray (element : TypeRef) (size : BitVec 128)
  | incompleteArray (element : TypeRef)
  /-- A parameter of array type, as written and as the pointer it becomes. -/
  | decayed (original pointee : TypeRef)
  | function (cc : CallingConv) (result : TypeRef) (params : List TypeRef)
  | templateParam (name : String)
  /-- A specialization that is no other name of a concrete type. -/
  | opaqueSpecialization (template : String)
  | aliasSpecialization (template : String) (target : TypeRef)
  /-- Any other type that the front end reports. -/
  | unsupported (className : String)

end

namespace TypeRef

/-- An unqualified reference to a node. -/
def of (type : TypeNode) : TypeRef := .node .none type

/-- The qualifiers of a reference. -/
def qualifiers : TypeRef → Qualifiers
  | .null q => q
  | .node q _ => q

/-- The node of a reference. -/
def node? : TypeRef → Option TypeNode
  | .null _ => Option.none
  | .node _ type => some type

/-- Whether the reference names no type. -/
def isNull : TypeRef → Bool
  | .null _ => true
  | .node _ _ => false

/-- The same reference with other qualifiers. -/
def mapQualifiers (f : Qualifiers → Qualifiers) : TypeRef → TypeRef
  | .null q => .null (f q)
  | .node q type => .node (f q) type

end TypeRef

/-- The name of the kind of node, as messages and dumps show it. -/
def TypeNode.className : TypeNode → String
  | .builtin _ => "Builtin"
  | .indirect kind _ => kind.className
  | .memberPointer _ _ => "MemberPointer"
  | .record _ => "Record"
  | .alias kind _ _ => kind.className
  | .injectedClassName _ _ => "InjectedClassName"
  | .sugar kind _ => kind.className
  | .deduced _ => "Deduced"
  | .constantArray _ _ => "ConstantArray"
  | .incompleteArray _ => "IncompleteArray"
  | .decayed _ _ => "Decayed"
  | .function _ _ _ => "FunctionProto"
  | .templateParam _ => "TemplateTypeParm"
  | .opaqueSpecialization _ => "TemplateSpecialization"
  | .aliasSpecialization _ _ => "TemplateSpecialization"
  | .unsupported className => className

end Reify

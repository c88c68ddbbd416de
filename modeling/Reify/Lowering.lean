import Reify.Error
import Reify.Log
import Reify.Term
import Reify.TypeRef.Display
import Reify.Width

/-!
# From types to terms

Every type has a term, or a first fault that says why it has none. Records are named and never
opened, so recursive types do no harm; sugar leaves no trace but the qualifiers it collects.
-/

namespace Reify

/-- Why a type has no term. -/
inductive Fault where
  /-- A reference that names no type. -/
  | nullReference
  /-- A placeholder such as `auto` whose type was not deduced. -/
  | notDeduced
  /-- A node that the term language has no word for. -/
  | noTerm (type : TypeNode)
  /-- A builtin type that no elaborated program holds. -/
  | placeholder (kind : Placeholder) (spelling : String)
  /-- A declaration without any name. -/
  | nameless (id : UInt32)
  | callingConv (cc : CallingConv)

/-- The failure that a fault leads to. -/
def Fault.error : Fault → Error
  | .nullReference => .unsupported "type" "unexpected null type reference"
  | .notDeduced => .unsupported "type" "undeduced placeholder type"
  | .noTerm type => .unsupported "type" ("(" ++ type.className ++ "): " ++ type.display)
  | .placeholder kind spelling =>
    .unsupported "builtin type" ("(" ++ kind.name ++ "): \"" ++ spelling ++ "\"")
  | .nameless id => .unsupported "declaration" ("declaration #" ++ toString id ++ " has no name")
  | .callingConv cc => .unsupported "calling convention" cc.name

/-- A term, or the first fault met on the way to it. -/
abbrev Lowered (α : Type) := Logged Fault α

/-! ## Names and builtin types -/

/-- The token of a number of bits; one that is no width has a token that says so. -/
def bitsize (bits : UInt32) : String :=
  match Width.ofBits? bits with
  | some w => w.token
  | none => "unknown_bit_size"

/-- An integer type: a token of its own for each width, and otherwise size and sign. -/
def integerTerm (bits : UInt32) (sign : Signedness) : Term :=
  match Width.ofBits? bits with
  | some w => .token (w.integerToken sign)
  | none => .ctor "Tint" [.token (bitsize bits), .token sign.name]

/-- The global name of a declaration as a string literal. -/
def DeclRef.lower (r : DeclRef) : Lowered Term :=
  match r.globalName? with
  | some name => pure (.str name)
  | none => .fail (.nameless r.id)

/-- The token of a calling convention. -/
def CallingConv.lower (cc : CallingConv) : Lowered Term :=
  match cc.token? with
  | some token => pure (.token token)
  | none => .fail (.callingConv cc)

/-- The term of a builtin type. A type known to the target alone keeps its spelling. -/
def Builtin.lower (b : Builtin) : Lowered Term :=
  match b.kind with
  | .void => pure (.token "Tvoid")
  | .bool => pure (.token "Tbool")
  | .nullPtr => pure (.token "Tnullptr")
  | .integer sign => pure (integerTerm b.bits sign)
  | .character sign => pure (.ctor "Tchar" [.token (bitsize b.bits), .token sign.name])
  | .floating => pure (.ctor "Tfloat" [.token (bitsize b.bits)])
  | .sizeless => pure (.ctor "Tarch" [.token "None", .str b.spelling])
  | .placeholder kind => .fail (.placeholder kind b.spelling)

/-! ## Qualifiers -/

namespace Qualifiers

/-- A term under the qualifiers of the reference to it. -/
def wrap (q : Qualifiers) (t : Term) : Term :=
  match q with
  | ⟨false, false⟩ => t
  | ⟨true, false⟩ => .ctor "Qconst" [t]
  | ⟨true, true⟩ => .ctor "Qconst_volatile" [t]
  | ⟨false, true⟩ => .ctor "Qmut_volatile" [t]

/-- Qualifiers as one of four tokens. -/
def token (q : Qualifiers) : Term :=
  match q with
  | ⟨false, false⟩ => .token "QM"
  | ⟨true, false⟩ => .token "QC"
  | ⟨false, true⟩ => .token "QV"
  | ⟨true, true⟩ => .token "QCV"

/-- Qualifiers as a record of two truth values. -/
def recordTerm (q : Qualifiers) : Term :=
  .record [("q_const", .bool q.isConst), ("q_volatile", .bool q.isVolatile)]

end Qualifiers

/-! ## Types -/

/-- The constructor of an indirection. -/
def Indirection.ctor : Indirection → String
  | .pointer => "Tptr"
  | .lvalueReference => "Tref"
  | .rvalueReference => "Trv_ref"

/-- The length of an array as far as the term language counts. -/
def arrayLength (size : BitVec 128) : UInt64 :=
  if size.toNat < UInt64.size then UInt64.ofNat size.toNat else UInt64.ofNat (UInt64.size - 1)

/-- The pointer that arrays without a bound, and arrays passed as parameters, turn into. -/
def constPointer (pointee : Term) : Term := .ctor "Qconst" [.ctor "Tptr" [pointee]]

mutual

/-- The term of a reference: that of its node under its qualifiers. -/
def TypeRef.lower : TypeRef → Lowered Term
  | .null _ => .fail .nullReference
  | .node q type => do
    let t ← type.lower
    return q.wrap t

/-- The term of a node. -/
def TypeNode.lower : TypeNode → Lowered Term
  | .builtin b => b.lower
  | .indirect kind pointee => do
    let t ← pointee.lower
    return .ctor kind.ctor [t]
  | .memberPointer owner pointee => do
    let name ← owner.lower
    let t ← pointee.lower
    return .ctor "Tmember_pointer" [name, t]
  | .record decl => do
    let name ← decl.lower
    return .ctor "Tnamed" [name]
  | .alias _ decl target => do
    let name ← decl.lower
    let t ← target.lower
    return .ctor "@Talias" [name, t]
  | .injectedClassName (some decl) _ => do
    let name ← decl.lower
    return .ctor "Tnamed" [name]
  | .injectedClassName none specialization => do
    Logged.record .warn
      ("no underlying declaration for injected class name " ++ specialization.display)
    specialization.lower
  | .sugar _ inner => inner.lower
  | .deduced (.null _) => .fail .notDeduced
  | .deduced type => type.lower
  | .constantArray element size => do
    let t ← element.lower
    return .ctor "Tarray" [t, .int (arrayLength size)]
  | .incompleteArray element => do
    let t ← element.lower
    return constPointer t
  | .decayed _ pointee => do
    let t ← pointee.lower
    return constPointer t
  | .function cc result params => do
    let token ← cc.lower
    let ts ← TypeRef.lowerAll params
    let t ← result.lower
    return .ctor "@Tfunction" [token, t, .list ts]
  | .templateParam name => pure (.ctor "Ttemplate" [.str name])
  | .opaqueSpecialization template => .fail (.noTerm (.opaqueSpecialization template))
  | .aliasSpecialization _ target => target.lower
  | .unsupported className => .fail (.noTerm (.unsupported className))

/-- The terms of some references, up to the first fault. -/
def TypeRef.lowerAll : List TypeRef → Lowered (List Term)
  | [] => pure []
  | type :: types => do
    let t ← type.lower
    let ts ← TypeRef.lowerAll types
    return t :: ts

end

/-! ## Printing -/

/-- Writes the term of a reference in argument position. Nothing is written if there is none. -/
def TypeRef.print (type : TypeRef) (p : Printer) : Lowered Printer :=
  (fun t ↦ t.emit true p) <$> type.lower

/-- Writes the term of a node in argument position. Nothing is written if there is none. -/
def TypeNode.print (type : TypeNode) (p : Printer) : Lowered Printer :=
  (fun t ↦ t.emit true p) <$> type.lower

end Reify

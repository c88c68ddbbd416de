import Reify.Json.Reader

/-!
# Builtin types
-/

namespace Reify

/-- Whether an integer or character type holds negative values. -/
inductive Signedness where
  | signed
  | unsigned
deriving DecidableEq, Repr

namespace Signedness

/-- The name in a dump and in a term. -/
def name : Signedness → String
  | .signed => "Signed"
  | .unsigned => "Unsigned"

/-- The signedness as it stands in a dump. -/
def toJson (s : Signedness) : Json := .text s.name

/-- The signedness that a value of a dump gives. -/
def ofJson? : Nat → Json → Option Signedness := Json.choice? [.signed, .unsigned] name

end Signedness

/-- The kinds that stand for a type not yet known; no elaborated program holds them. -/
inductive Placeholder where
  | dependent
  | overload
  | boundMember
  | pseudoObject
  | unknownAny
  | builtinFn
deriving DecidableEq, Repr

/-- The name in a dump and in messages. -/
def Placeholder.name : Placeholder → String
  | .dependent => "Dependent"
  | .overload => "Overload"
  | .boundMember => "BoundMember"
  | .pseudoObject => "PseudoObject"
  | .unknownAny => "UnknownAny"
  | .builtinFn => "BuiltinFn"

/-- What a builtin type is. -/
inductive BuiltinKind where
  | void
  | bool
  | nullPtr
  | integer (sign : Signedness)
  | character (sign : Signedness)
  | floating
  /-- A type whose size the target alone knows, such as a scalable vector. -/
  | sizeless
  | placeholder (p : Placeholder)
deriving DecidableEq, Repr

namespace BuiltinKind

/-- The name of a kind in a dump. -/
def name : BuiltinKind → String
  | .void => "Void"
  | .bool => "Bool"
  | .nullPtr => "NullPtr"
  | .integer _ => "Integer"
  | .character _ => "Character"
  | .floating => "Floating"
  | .sizeless => "Sizeless"
  | .placeholder p => p.name

/-- The kinds that have no signedness. -/
def plain : List BuiltinKind :=
  [.void, .bool, .nullPtr, .floating, .sizeless, .placeholder .dependent, .placeholder .overload,
    .placeholder .boundMember, .placeholder .pseudoObject, .placeholder .unknownAny,
    .placeholder .builtinFn]

/-- The kind as it stands in a dump: its name, with the signedness as payload if it has one. -/
def toJson (k : BuiltinKind) : Json :=
  match k with
  | .integer sign | .character sign => .tagged k.name sign.toJson
  | _ => .text k.name

/-- The kind that a value of a dump gives. -/
def ofJson? (n : Nat) (j : Json) : Option BuiltinKind :=
  match n, j with
  | m + 1, .object [(key, payload)] =>
    match Json.Piece.text? key with
    | some "Integer" => .integer <$> Signedness.ofJson? m payload
    | some "Character" => .character <$> Signedness.ofJson? m payload
    | _ => Json.choice? plain name n j
  | _, _ => Json.choice? plain name n j

end BuiltinKind

/-- A builtin type with its size on the target and its spelling in the source language. -/
@[ext]
structure Builtin where
  kind : BuiltinKind
  bits : UInt32
  spelling : String
deriving DecidableEq

namespace Builtin

/-- The type without values. -/
def void : Builtin := ⟨.void, 0, "void"⟩

/-- The truth values. -/
def bool : Builtin := ⟨.bool, 8, "bool"⟩

/-- The type of the null pointer. -/
def nullPtr : Builtin := ⟨.nullPtr, 64, "std::nullptr_t"⟩

/-- The usual spelling of an integer type. -/
def integerSpelling : UInt32 → Signedness → String
  | 8, .signed => "signed char"
  | 8, .unsigned => "unsigned char"
  | 16, .signed => "short"
  | 16, .unsigned => "unsigned short"
  | 32, .signed => "int"
  | 32, .unsigned => "unsigned int"
  | 64, .signed => "long"
  | 64, .unsigned => "unsigned long"
  | 128, .signed => "__int128"
  | 128, .unsigned => "unsigned __int128"
  | _, .signed => "_BitInt"
  | _, .unsigned => "unsigned _BitInt"

/-- The integer type of a width. -/
def integer (bits : UInt32) (sign : Signedness) : Builtin :=
  ⟨.integer sign, bits, integerSpelling bits sign⟩

/-- The character type of a width; every width but 8 and 16 counts as the widest. -/
def character (bits : UInt32) (sign : Signedness) : Builtin :=
  ⟨.character sign, bits,
    if bits = 8 then "char" else if bits = 16 then "char16_t" else "char32_t"⟩

/-- The floating type of a width; every width but 32 and 64 counts as the widest. -/
def floating (bits : UInt32) : Builtin :=
  ⟨.floating, bits,
    if bits = 32 then "float" else if bits = 64 then "double" else "long double"⟩

/-- The type as it stands in a dump. -/
def toJson (b : Builtin) : Json :=
  .record [("kind", b.kind.toJson), ("bits", .nat b.bits.toNat), ("spelling", .text b.spelling)]

/-- The type that a value of a dump gives. -/
def ofJson? : Nat → Json → Option Builtin
  | n + 1, j => do
    match ← Json.slots? ["kind", "bits", "spelling"] j with
    | [kind, bits, spelling] =>
      return ⟨← BuiltinKind.ofJson? n (← kind), ← Json.orElse 0 Json.uint32? bits,
        ← Json.text? (← spelling)⟩
    | _ => none
  | 0, _ => none

end Builtin

end Reify

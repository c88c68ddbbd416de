import Reify.Builtin

/-!
# Widths

The widths that the term language has a word for.
-/

namespace Reify

/-- A width with a word of its own. -/
inductive Width where
  | w8
  | w16
  | w32
  | w64
  | w128
deriving DecidableEq, Repr

namespace Width

/-- The number of bits. -/
def bits : Width → UInt32
  | .w8 => 8
  | .w16 => 16
  | .w32 => 32
  | .w64 => 64
  | .w128 => 128

/-- The width of that many bits. -/
def ofBits? (n : UInt32) : Option Width := [w8, w16, w32, w64, w128].find? (·.bits == n)

/-- The token of a width. -/
def token : Width → String
  | .w8 => "W8"
  | .w16 => "W16"
  | .w32 => "W32"
  | .w64 => "W64"
  | .w128 => "W128"

/-- The token of an integer type of a width. -/
def integerToken : Width → Signedness → String
  | .w8, .signed => "T_int8"
  | .w16, .signed => "T_int16"
  | .w32, .signed => "T_int32"
  | .w64, .signed => "T_int64"
  | .w128, .signed => "T_int128"
  | .w8, .unsigned => "T_uint8"
  | .w16, .unsigned => "T_uint16"
  | .w32, .unsigned => "T_uint32"
  | .w64, .unsigned => "T_uint64"
  | .w128, .unsigned => "T_uint128"

/-- A width is found by its number of bits. -/
@[simp] theorem ofBits?_bits (w : Width) : ofBits? w.bits = some w := by cases w <;> rfl

end Width

end Reify

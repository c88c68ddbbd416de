import Reify.Json.Parser

/-!
# Reading model values from JSON

A reader is given how many more brackets may be opened. A structure is an object with its fields in
any order, or an array of them in the order of declaration; a choice is a one-key object, or for a
choice without payload its bare name.
-/

namespace Reify.Json

/-- How deep the arrays and objects of an input may nest, as far as they are read. -/
def nestingLimit : Nat := 127

/-- The value of a text under a reader. -/
def read? {α : Type} (reader : Nat → Json → Option α) (s : String) : Option α :=
  parse? s >>= reader nestingLimit

/-! ## Scalars -/

/-- A text. -/
def text? : Json → Option String
  | .scalar (.str pieces) => Piece.text? pieces
  | _ => none

/-- A truth value. -/
def bool? : Json → Option Bool
  | .scalar (.bool b) => some b
  | _ => none

/-- A number of at most thirty-two bits. -/
def uint32? : Json → Option UInt32
  | .scalar (.nat n) => if n < UInt32.size then some (UInt32.ofNat n) else none
  | _ => none

/-- A number of at most a hundred and twenty-eight bits. -/
def bits128? : Json → Option (BitVec 128)
  | .scalar (.nat n) =>
    let bits := BitVec.ofNat 128 n
    if bits.toNat = n then some bits else none
  | _ => none

/-- Null, or a value. -/
def nullable? {α : Type} (reader : Json → Option α) : Json → Option (Option α)
  | .scalar .null => some none
  | j => some <$> reader j

@[simp] theorem text?_text (s : String) : text? (.text s) = some s := Piece.text?_ofString s

@[simp] theorem bool?_bool (b : Bool) : bool? (.bool b) = some b := rfl

@[simp] theorem uint32?_nat (n : UInt32) : uint32? (.nat n.toNat) = some n := by
  simp [uint32?, nat, n.toNat_lt]

@[simp] theorem bits128?_nat (n : BitVec 128) : bits128? (.nat n.toNat) = some n := by
  simp [bits128?, nat]

/-! ## Structures -/

/-- The value of the one member with this name; no value if there is none. -/
def slot? (members : List (String × Json)) (name : String) : Option (Option Json) :=
  match members.filter (·.1 == name) with
  | [] => some none
  | [(_, v)] => some (some v)
  | _ => none

/-- The members of an object with their names as texts. -/
def members? (members : List (List Piece × Json)) : Option (List (String × Json)) :=
  members.mapM fun (k, v) ↦ (·, v) <$> Piece.text? k

/-- The values given to the fields of a structure, in the order of `names`. Members of other names
are passed over; an array may stop early but not run over. -/
def slots? (names : List String) : Json → Option (List (Option Json))
  | .array items =>
    if items.length ≤ names.length then
      some (items.map some ++ List.replicate (names.length - items.length) none)
    else none
  | .object members => do
    let named ← members? members
    names.mapM (slot? named)
  | .scalar _ => none

/-- The value of a field that may be left out. -/
def orElse {α : Type} (default : α) (reader : Json → Option α) : Option Json → Option α
  | none => some default
  | some j => reader j

/-! ## Lists and choices -/

/-- A list of values. -/
def list? {α : Type} (reader : Nat → Json → Option α) : Nat → Json → Option (List α)
  | n + 1, .array items => items.mapM (reader n)
  | _, _ => none

/-- A choice without payload: its name, or the object that maps its name to null. -/
def bareName? : Nat → Json → Option String
  | _, .scalar (.str pieces) => Piece.text? pieces
  | _ + 1, .object [(k, .scalar .null)] => Piece.text? k
  | _, _ => none

/-- One of the choices in `all`, none of which has a payload. -/
def choice? {α : Type} (all : List α) (name : α → String) (n : Nat) (j : Json) : Option α := do
  let tag ← bareName? n j
  all.find? (name · == tag)

end Reify.Json

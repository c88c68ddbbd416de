/-!
# JSON values

A value as it stands in a text: the order of members, members of one name, and halves of surrogate
pairs are all kept, and what they mean is left to the reader of the value.
-/

namespace Reify

/-- One unit of a JSON string: a character, or half of a surrogate pair that an escape wrote. -/
inductive Json.Piece where
  | char (c : Char)
  | lead (bits : Fin 1024)
  | trail (bits : Fin 1024)
deriving DecidableEq, Repr

/-- A value without parts. A number is natural when it is written in digits only. -/
inductive Json.Scalar where
  | null
  | bool (b : Bool)
  | nat (n : Nat)
  | real (lexeme : List Char)
  | str (pieces : List Json.Piece)
deriving DecidableEq, Repr

/-- A JSON value, its members in the order of the text. -/
inductive Json where
  | scalar (s : Json.Scalar)
  | array (items : List Json)
  | object (members : List (List Json.Piece × Json))

namespace Json

/-- The character of a surrogate pair. -/
def Piece.join (lead trail : Fin 1024) : Char :=
  Char.ofNat (0x10000 + 1024 * lead.val + trail.val)

/-- The characters of a string: a lead must be followed by its trail, and a trail must follow. -/
def Piece.chars? : List Piece → Option (List Char)
  | [] => some []
  | .char c :: rest => (c :: ·) <$> chars? rest
  | .lead h :: .trail l :: rest => (Piece.join h l :: ·) <$> chars? rest
  | .lead _ :: _ => none
  | .trail _ :: _ => none

/-- The pieces of a text, one for each character. -/
def Piece.ofString (s : String) : List Piece := s.toList.map .char

/-- The text of a string, if its surrogates are paired. -/
def Piece.text? (pieces : List Piece) : Option String := String.ofList <$> Piece.chars? pieces

/-- The JSON string of a text. -/
def text (s : String) : Json := .scalar (.str (Piece.ofString s))

/-- The JSON number of a natural number. -/
def nat (n : Nat) : Json := .scalar (.nat n)

/-- The JSON truth value. -/
def bool (b : Bool) : Json := .scalar (.bool b)

/-- A value, or null in the place of a missing one. -/
def nullable : Option Json → Json
  | none => .scalar .null
  | some j => j

/-- An object with the given members. -/
def record (fields : List (String × Json)) : Json :=
  .object (fields.map fun (name, value) ↦ (Piece.ofString name, value))

/-- A choice with a payload: an object whose one key is the name of the choice. -/
def tagged (tag : String) (payload : Json) : Json := record [(tag, payload)]

/-- A text reads back from its pieces. -/
@[simp] theorem Piece.text?_ofString (s : String) : Piece.text? (Piece.ofString s) = some s := by
  have chars (cs : List Char) : Piece.chars? (cs.map .char) = some cs := by
    induction cs with
    | nil => rfl
    | cons c cs ih => simp [Piece.chars?, ih]
  simp [Piece.text?, Piece.ofString, chars]

end Json

end Reify

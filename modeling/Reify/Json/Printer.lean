import Reify.Json.Basic

/-!
# Writing JSON

One writer for the compact and the indented form: a layout says what stands where a line may end,
and what stands after a key.
-/

namespace Reify.Json

/-- The spaces of a written value. -/
structure Layout where
  /-- What stands before an item or closing bracket, given how many brackets are open. -/
  newline : Nat → List Char
  /-- What stands between the colon and the value of a member. -/
  gap : List Char

/-- No space at all. -/
def Layout.compact : Layout := ⟨fun _ ↦ [], []⟩

/-- One item to a line, each bracket indenting by two spaces. -/
def Layout.pretty : Layout := ⟨fun depth ↦ '\n' :: List.replicate (2 * depth) ' ', [' ']⟩

/-- The escape of a sixteen-bit unit. -/
def writeUnit (n : Nat) : List Char :=
  ['\\', 'u', Nat.digitChar (n / 4096 % 16), Nat.digitChar (n / 256 % 16),
    Nat.digitChar (n / 16 % 16), Nat.digitChar (n % 16)]

/-- A character in a string: quote, backslash and controls are escaped, all else stands as it is. -/
def writeChar (c : Char) : List Char :=
  match c with
  | '"' => ['\\', '"']
  | '\\' => ['\\', '\\']
  | '\x08' => ['\\', 'b']
  | '\x0c' => ['\\', 'f']
  | '\n' => ['\\', 'n']
  | '\r' => ['\\', 'r']
  | '\t' => ['\\', 't']
  | c => if c.toNat < 0x20 then writeUnit c.toNat else [c]

/-- A piece of a string. -/
def Piece.write : Piece → List Char
  | .char c => writeChar c
  | .lead bits => writeUnit (0xD800 + bits.val)
  | .trail bits => writeUnit (0xDC00 + bits.val)

/-- A string between its quotes. -/
def writeString (pieces : List Piece) : List Char :=
  '"' :: (pieces.flatMap Piece.write ++ ['"'])

/-- A value without parts. -/
def Scalar.write : Scalar → List Char
  | .null => ['n', 'u', 'l', 'l']
  | .bool true => ['t', 'r', 'u', 'e']
  | .bool false => ['f', 'a', 'l', 's', 'e']
  | .nat n => Nat.toDigits 10 n
  | .real lexeme => lexeme
  | .str pieces => writeString pieces

mutual

/-- A value inside `depth` open brackets. -/
def write (l : Layout) (depth : Nat) : Json → List Char
  | .scalar s => s.write
  | .array [] => ['[', ']']
  | .array (v :: vs) =>
    '[' :: (l.newline (depth + 1) ++ (write l (depth + 1) v ++ (writeItems l (depth + 1) vs ++
      (l.newline depth ++ [']']))))
  | .object [] => ['\x7b', '\x7d']
  | .object ((k, v) :: ms) =>
    '\x7b' :: (l.newline (depth + 1) ++ (writeString k ++ (':' :: (l.gap ++
      (write l (depth + 1) v ++
        (writeMembers l (depth + 1) ms ++ (l.newline depth ++ ['\x7d'])))))))

/-- The items after the first, each behind a comma. -/
def writeItems (l : Layout) (depth : Nat) : List Json → List Char
  | [] => []
  | v :: vs => ',' :: (l.newline depth ++ (write l depth v ++ writeItems l depth vs))

/-- The members after the first, each behind a comma. -/
def writeMembers (l : Layout) (depth : Nat) : List (List Piece × Json) → List Char
  | [] => []
  | (k, v) :: ms =>
    ',' :: (l.newline depth ++ (writeString k ++ (':' :: (l.gap ++ (write l depth v ++
      writeMembers l depth ms)))))

end

/-- The text of a value without any space. -/
def compact (j : Json) : String := String.ofList (write .compact 0 j)

/-- The text of a value, one item to a line. -/
def pretty (j : Json) : String := String.ofList (write .pretty 0 j)

end Reify.Json

import Reify.Json.Basic

/-!
# From a JSON text to its tokens

A text is read one character at a time. Between tokens the reader is in the mode of an empty word;
white space, quotes and the six marks end a word, and everything else belongs to one.
-/

namespace Reify.Json

/-- Punctuation. -/
inductive Mark where
  | openArray
  | closeArray
  | openObject
  | closeObject
  | comma
  | colon
deriving DecidableEq, Repr

/-- A token of a JSON text. -/
inductive Token where
  | mark (m : Mark)
  | scalar (s : Scalar)
deriving DecidableEq, Repr

/-- The mark that a character writes. -/
def Mark.ofChar? : Char → Option Mark
  | '[' => some .openArray
  | ']' => some .closeArray
  | '\x7b' => some .openObject
  | '\x7d' => some .closeObject
  | ',' => some .comma
  | ':' => some .colon
  | _ => none

/-- White space between tokens. -/
def isSpace (c : Char) : Bool := c == ' ' || c == '\t' || c == '\n' || c == '\r'

/-! ## Words: literals and numbers -/

/-- A natural number in digits: a lone zero, or digits that start with another. -/
def isNatural : List Char → Bool
  | [] => false
  | ['0'] => true
  | c :: cs => c != '0' && (c :: cs).all Char.isDigit

/-- One or more digits. -/
def isDigits (cs : List Char) : Bool := !cs.isEmpty && cs.all Char.isDigit

/-- Nothing, or an exponent: a letter `e`, perhaps a sign, and digits. -/
def isExponent : List Char → Bool
  | [] => true
  | c :: cs => (c == 'e' || c == 'E') && match cs with
    | '+' :: digits => isDigits digits
    | '-' :: digits => isDigits digits
    | digits => isDigits digits

/-- What may follow the whole part of a number: perhaps a fraction, then perhaps an exponent. -/
def isFraction : List Char → Bool
  | '.' :: cs => isDigits (cs.takeWhile Char.isDigit) && isExponent (cs.dropWhile Char.isDigit)
  | cs => isExponent cs

/-- A number without its sign. -/
def isUnsigned (cs : List Char) : Bool :=
  isNatural (cs.takeWhile Char.isDigit) && isFraction (cs.dropWhile Char.isDigit)

/-- A number: perhaps a minus, then a whole part, a fraction and an exponent. -/
def isNumber : List Char → Bool
  | '-' :: cs => isUnsigned cs
  | cs => isUnsigned cs

/-- The literal or number that a word writes. -/
def Scalar.ofWord? (w : List Char) : Option Scalar :=
  match w with
  | ['n', 'u', 'l', 'l'] => some .null
  | ['t', 'r', 'u', 'e'] => some (.bool true)
  | ['f', 'a', 'l', 's', 'e'] => some (.bool false)
  | w =>
    if isNatural w then some (.nat (Nat.ofDigitChars 10 w 0))
    else if isNumber w then some (.real w)
    else none

/-! ## Strings -/

/-- The value of a hexadecimal digit of either case. -/
def hexValue? (c : Char) : Option Nat :=
  if '0' ≤ c ∧ c ≤ '9' then some (c.toNat - 0x30)
  else if 'a' ≤ c ∧ c ≤ 'f' then some (c.toNat - 0x57)
  else if 'A' ≤ c ∧ c ≤ 'F' then some (c.toNat - 0x37)
  else none

/-- The piece that the escape of a sixteen-bit unit writes. -/
def Piece.ofUnit (n : Nat) : Piece :=
  if 0xD800 ≤ n ∧ n < 0xDC00 then .lead (Fin.ofNat 1024 n)
  else if 0xDC00 ≤ n ∧ n < 0xE000 then .trail (Fin.ofNat 1024 n)
  else .char (Char.ofNat n)

/-- The character of a one-letter escape. -/
def escaped? : Char → Option Char
  | '"' => some '"'
  | '\\' => some '\\'
  | '/' => some '/'
  | 'b' => some '\x08'
  | 'f' => some '\x0c'
  | 'n' => some '\n'
  | 'r' => some '\r'
  | 't' => some '\t'
  | _ => none

/-! ## The reader -/

/-- Where the reader stands; what it has collected is newest first. -/
inductive Mode where
  | word (collected : List Char)
  | string (collected : List Piece)
  | escape (collected : List Piece)
  | hex (collected : List Piece) (digits : List Nat)
deriving DecidableEq, Repr

/-- The reader: its mode, and the tokens so far, newest first. -/
structure Scanner where
  mode : Mode
  tokens : List Token
deriving DecidableEq, Repr

namespace Scanner

/-- The reader before the first character. -/
def start : Scanner := ⟨.word [], []⟩

/-- The tokens after the word at hand has ended. -/
def endWord (w : List Char) (tokens : List Token) : Option (List Token) :=
  if w.isEmpty then some tokens
  else (fun s ↦ .scalar s :: tokens) <$> Scalar.ofWord? w.reverse

/-- One character. Control characters may not stand in a string. -/
def step (s : Scanner) (c : Char) : Option Scanner :=
  match s.mode with
  | .word w =>
    if isSpace c then Scanner.mk (.word []) <$> endWord w s.tokens
    else if c = '"' then Scanner.mk (.string []) <$> endWord w s.tokens
    else match Mark.ofChar? c with
      | some m => (fun tokens ↦ ⟨.word [], .mark m :: tokens⟩) <$> endWord w s.tokens
      | none => some ⟨.word (c :: w), s.tokens⟩
  | .string ps =>
    if c = '"' then some ⟨.word [], .scalar (.str ps.reverse) :: s.tokens⟩
    else if c = '\\' then some ⟨.escape ps, s.tokens⟩
    else if c.toNat < 0x20 then none
    else some ⟨.string (.char c :: ps), s.tokens⟩
  | .escape ps =>
    if c = 'u' then some ⟨.hex ps [], s.tokens⟩
    else (fun d ↦ ⟨.string (.char d :: ps), s.tokens⟩) <$> escaped? c
  | .hex ps ds => (hexValue? c).map fun d ↦
    match ds with
    | [d₂, d₁, d₀] =>
      ⟨.string (Piece.ofUnit (4096 * d₀ + 256 * d₁ + 16 * d₂ + d) :: ps), s.tokens⟩
    | ds => ⟨.hex ps (d :: ds), s.tokens⟩

/-- The tokens at the end of the text, which must not lie in a string. -/
def finish (s : Scanner) : Option (List Token) :=
  match s.mode with
  | .word w => List.reverse <$> endWord w s.tokens
  | _ => none

end Scanner

/-- The tokens of a text, if each of them is one. -/
def tokens? (cs : List Char) : Option (List Token) :=
  cs.foldlM Scanner.step Scanner.start >>= Scanner.finish

end Reify.Json

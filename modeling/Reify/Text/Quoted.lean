import Reify.Text.Extender
import Reify.Text.Invisible

/-!
# Quoted text in messages

Log messages show an optional text as `None`, or as `Some("…")` with the text between quotes.
-/

namespace Reify.Text

/-- One character between quotes: quote and backslash get a backslash in front, and a character
without a shape or place of its own gives way to its number. -/
def quotedChar (c : Char) : List Char :=
  match c with
  | '"' => ['\\', '"']
  | '\\' => ['\\', '\\']
  | '\n' => ['\\', 'n']
  | '\t' => ['\\', 't']
  | '\r' => ['\\', 'r']
  | '\x00' => ['\\', '0']
  | c =>
    if isExtender c || isInvisible c then
      '\\' :: 'u' :: '\x7b' :: (Nat.toDigits 16 c.toNat ++ ['\x7d'])
    else [c]

/-- A text between quotes. -/
def quoted (s : String) : String :=
  String.ofList ('"' :: (s.toList.flatMap quotedChar ++ ['"']))

/-- An optional text: `None`, or the quoted text in `Some(…)`. -/
def quotedOption : Option String → String
  | none => "None"
  | some s => "Some(" ++ quoted s ++ ")"

end Reify.Text

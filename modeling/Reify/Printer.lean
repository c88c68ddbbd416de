/-!
# The term printer

Terms are written by commands to a printer, which appends text and counts the brackets that are
open. Every command that opens a bracket has one that closes it.
-/

namespace Reify

/-- One command to a printer. -/
inductive Printer.Command where
  /-- The name of a constructor, behind an open bracket if `paren`. -/
  | ctor (name : String) (paren : Bool)
  | endCtor
  | beginList
  | cons
  | endList
  | beginRecord
  | field (name : String)
  | separator
  | endRecord
  /-- A string literal. -/
  | str (s : String)
  | int (n : UInt64)
  | bool (b : Bool)
  /-- Text that is written as it stands. -/
  | text (s : String)
  | space
  | newline
deriving DecidableEq, Repr

/-- A printer: the text so far, and the number of open brackets. -/
@[ext]
structure Printer where
  text : String
  depth : Nat
deriving DecidableEq, Repr

namespace Printer

/-- The characters of a string literal: a quote is written twice. -/
def literalChars (cs : List Char) : List Char :=
  cs.flatMap fun c ↦ if c = '"' then ['"', '"'] else [c]

/-- A string literal. -/
def literal (s : String) : String := String.ofList ('"' :: (literalChars s.toList ++ ['"']))

/-- What a command appends. -/
def Command.output : Command → String
  | .ctor name paren => (if paren then "(" else "") ++ name
  | .endCtor => ")"
  | .beginList => "("
  | .cons => " :: "
  | .endList => "nil)"
  | .beginRecord => "\x7b| "
  | .field name => name ++ " := "
  | .separator => "; "
  | .endRecord => " |\x7d"
  | .str s => literal s
  | .int n => toString n
  | .bool b => if b then "true" else "false"
  | .text s => s
  | .space => " "
  | .newline => "\n"

/-- The number of open brackets after a command, given the number before it. -/
def Command.depth (before : Nat) : Command → Nat
  | .ctor _ paren => if paren then before + 1 else before
  | .beginList | .beginRecord => before + 1
  | .endCtor | .endList | .endRecord => before - 1
  | _ => before

/-- A printer that has written nothing. -/
def empty : Printer := ⟨"", 0⟩

/-- The printer after a command. -/
def perform (p : Printer) (c : Command) : Printer := ⟨p.text ++ c.output, c.depth p.depth⟩

/-- The printer after some commands. -/
def performAll (p : Printer) (cs : List Command) : Printer := cs.foldl perform p

/-- Commands in a row act one after the other. -/
@[simp] theorem performAll_append (p : Printer) (cs ds : List Command) :
    p.performAll (cs ++ ds) = (p.performAll cs).performAll ds :=
  List.foldl_append

end Printer

end Reify

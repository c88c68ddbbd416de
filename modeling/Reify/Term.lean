import Reify.Printer

/-!
# Terms

The language that a unit is translated to. Nothing is written until a term is emitted to a printer.
-/

namespace Reify

/-- A term. -/
inductive Term where
  /-- A constructor applied to arguments. -/
  | ctor (name : String) (args : List Term)
  | list (items : List Term)
  | record (fields : List (String × Term))
  | str (s : String)
  | int (n : UInt64)
  | bool (b : Bool)
  /-- A fixed word, such as a constructor without arguments. -/
  | token (name : String)

namespace Term

mutual

/-- The commands that write a term. A constructor with arguments has brackets around it if it is
itself an argument. -/
def commands (isArg : Bool) : Term → List Printer.Command
  | .ctor name args =>
    if args.isEmpty then [.text name]
    else .ctor name isArg :: (argCommands args ++ if isArg then [.endCtor] else [])
  | .list items => .beginList :: (itemCommands items ++ [.endList])
  | .record fields => .beginRecord :: (fieldCommands true fields ++ [.endRecord])
  | .str s => [.str s]
  | .int n => [.int n]
  | .bool b => [.bool b]
  | .token name => [.text name]

/-- The arguments of a constructor, each behind a space. -/
def argCommands : List Term → List Printer.Command
  | [] => []
  | t :: ts => .space :: (commands true t ++ argCommands ts)

/-- The items of a list, each in front of a `::`. -/
def itemCommands : List Term → List Printer.Command
  | [] => []
  | t :: ts => commands false t ++ .cons :: itemCommands ts

/-- The fields of a record, all but the first behind a separator. -/
def fieldCommands (isFirst : Bool) : List (String × Term) → List Printer.Command
  | [] => []
  | (name, t) :: fields =>
    (if isFirst then [] else [.separator]) ++ .field name :: (commands false t ++
      fieldCommands false fields)

end

/-- Writes a term, in argument position if `isArg`. -/
def emit (isArg : Bool) (t : Term) (p : Printer) : Printer := p.performAll (t.commands isArg)

/-- The text of a term that stands on its own. -/
def text (t : Term) : String := (t.emit false .empty).text

end Term

end Reify

import Reify.Log

/-!
# What a run asks of its surroundings
-/

namespace Reify

/-- What came of removing a file. -/
inductive Removal where
  | removed
  | absent
  | refused (reason : String)
deriving DecidableEq, Repr

/-- Surroundings with files, a standard output and a log. Failures come with a reason. -/
class Host (m : Type → Type) where
  /-- The contents of a file, which must be text. -/
  readText : String → m (Except String String)
  /-- Replaces the contents of a file, or makes it. -/
  writeText : String → String → m (Except String Unit)
  remove : String → m Removal
  print : String → m Unit
  log : Record → m Unit

/-- A computation that may fail has the surroundings of one that may not. -/
instance {ε : Type} {m : Type → Type} [Monad m] [Host m] : Host (ExceptT ε m) where
  readText path := ExceptT.lift (Host.readText path)
  writeText path text := ExceptT.lift (Host.writeText path text)
  remove path := ExceptT.lift (Host.remove path)
  print text := ExceptT.lift (Host.print text)
  log r := ExceptT.lift (Host.log r)

end Reify

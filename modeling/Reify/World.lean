import Reify.FileSystem
import Reify.Host

/-!
# A host as a value
-/

namespace Reify

/-- What goes to the error stream. -/
inductive Notice where
  | record (r : Record)
  /-- A text that was written to the stream as to a file. -/
  | text (s : String)
deriving DecidableEq, Repr

namespace Notice

/-- The log record, if it is one. -/
def record? : Notice → Option Record
  | record r => some r
  | text _ => none

/-- How a notice is shown to one who wants to see records from some level on. -/
def shown (threshold : Level) : Notice → String
  | record r => if r.reaches threshold then r.line else ""
  | text s => s

end Notice

/-- Surroundings as a value: the files, what was printed, and what went to the error stream. -/
structure World where
  fileSystem : FileSystem
  stdout : String
  notices : List Notice

namespace World

/-- What was logged. -/
def log (w : World) : List Record := w.notices.filterMap Notice.record?

/-- The error stream. -/
def stderr (w : World) (threshold : Level) : String :=
  String.join (w.notices.map (Notice.shown threshold))

/-- The world after a text has gone to a stream, if there is one to go to. -/
def send (w : World) (text : String) : Option Stream → World
  | none => w
  | some .output => { w with stdout := w.stdout ++ text }
  | some .errors => { w with notices := w.notices ++ [.text text] }

end World

/-- A world is a host: it answers from its own state and keeps what it is told. -/
instance : Host (StateM World) where
  readText path := do
    match (← get).fileSystem.read? path with
    | none => return .error "no such file"
    | some bytes => match String.fromUTF8? bytes with
      | none => return .error "not a text"
      | some s => return .ok s
  writeText path text := do
    let w ← get
    match w.fileSystem.write? path text.toUTF8 with
    | none => return .error "no such place"
    | some fs => do
      set ({ w with fileSystem := fs }.send text (w.fileSystem.stream? path))
      return .ok ()
  remove path := do
    let w ← get
    match w.fileSystem.remove? path with
    | none => return .absent
    | some fs => do
      set { w with fileSystem := fs }
      return .removed
  print text := modify (·.send text (some .output))
  log r := modify fun w ↦ { w with notices := w.notices ++ [.record r] }

end Reify

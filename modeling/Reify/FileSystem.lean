/-!
# A file system as a value

Directories, links, devices and files below a root. A path is followed one component at a time, from
the root or from the working directory; all but its last component must lead to directories.
-/

namespace Reify

/-- A place: the names that lead to it from the root. -/
abbrev Place := List String

/-- Where a program may write without a file. -/
inductive Stream where
  | output
  | errors
deriving DecidableEq, Repr

/-- What stands behind a name that is no file. -/
inductive Device where
  /-- Holds nothing, and swallows what is written to it. -/
  | null
  /-- Never ends, so that it cannot be read as a whole, and swallows what is written to it. -/
  | endless
  /-- Never ends, and has no room for anything. -/
  | full
  /-- Passes on what is written to it, and cannot be read. -/
  | stream (s : Stream)
deriving DecidableEq, Repr

namespace Device

/-- Everything that a device holds. -/
def contents? : Device → Option ByteArray
  | null => some .empty
  | endless | full | stream _ => none

/-- Whether a device has room for some bytes. -/
def takes : Device → ByteArray → Bool
  | null, _ | endless, _ | stream _, _ => true
  | full, bytes => bytes.isEmpty

end Device

/-- What a system holds below its root. -/
structure FileSystem where
  /-- Where a path starts that does not start at the root. -/
  workingDirectory : Place
  /-- The directories beside the root. -/
  dirs : List Place
  /-- The directories that take no new files. -/
  locked : List Place
  /-- Places that stand for others. -/
  links : List (Place × Place)
  devices : List (Place × Device)
  files : List (Place × ByteArray)

namespace FileSystem

/-- Whether a place is a directory. -/
def isDir (fs : FileSystem) (p : Place) : Bool := p.isEmpty || fs.dirs.contains p

/-- The place that a place stands for. -/
def follow (fs : FileSystem) (p : Place) : Place := (fs.links.lookup p).getD p

/-- Whether a component may name a file: not too long, and without the null character. -/
def isName (component : String) : Bool :=
  component.utf8ByteSize ≤ 255 && !component.toList.contains '\x00'

/-- The directory that a component leads to. The root is its own parent. -/
def enter? (fs : FileSystem) (p : Place) (component : String) : Option Place :=
  if component = "" ∨ component = "." then some p
  else if component = ".." then some p.dropLast
  else
    let q := fs.follow (p ++ [component])
    if isName component && fs.isDir q then some q else none

/-- The components of a path. -/
def components : List Char → List String
  | [] => [""]
  | c :: cs => match components cs with
    | [] => [""]
    | part :: parts => if c = '/' then "" :: part :: parts else (c.toString ++ part) :: parts

/-- The longest path that is followed, in bytes. -/
def pathLimit : Nat := 4095

/-- The place that a path names, whether there is something or not. A path whose end can be no
file's name has none. -/
def locate? (fs : FileSystem) (path : String) : Option Place := do
  let parts := components path.toList
  let last ← parts.getLast?
  if path.utf8ByteSize > pathLimit ∨ last = "" ∨ last = "." ∨ last = ".." ∨ !isName last then none
  else
    let start := if path.toList.head? = some '/' then [] else fs.workingDirectory
    let dir ← parts.dropLast.foldlM fs.enter? start
    some (dir ++ [last])

/-- The place that a path leads to in the end. -/
def target? (fs : FileSystem) (path : String) : Option Place := (fs.locate? path).map fs.follow

/-- The contents of the file at a place. -/
def contents? (fs : FileSystem) (p : Place) : Option ByteArray := fs.files.lookup p

/-- The contents of what a path names. -/
def read? (fs : FileSystem) (path : String) : Option ByteArray := do
  let p ← fs.target? path
  match fs.devices.lookup p with
  | some d => d.contents?
  | none => fs.contents? p

/-- The stream that a path names. -/
def stream? (fs : FileSystem) (path : String) : Option Stream := do
  match ← fs.devices.lookup (← fs.target? path) with
  | .stream s => some s
  | .null | .endless | .full => none

/-- The file system without the file at a place. -/
def erase (fs : FileSystem) (p : Place) : FileSystem :=
  { fs with files := fs.files.filter fun f ↦ f.1 != p }

/-- The file system with these contents at a place. -/
def put (fs : FileSystem) (p : Place) (bytes : ByteArray) : FileSystem :=
  { fs with files := (p, bytes) :: (fs.erase p).files }

/-- Whether a place takes a file: it has one already, or its directory takes new ones. -/
def hasRoom (fs : FileSystem) (p : Place) : Bool :=
  !fs.isDir p && ((fs.contents? p).isSome || !fs.locked.contains p.dropLast)

/-- The file system after writing to what a path names. -/
def write? (fs : FileSystem) (path : String) (bytes : ByteArray) : Option FileSystem := do
  let p ← fs.target? path
  match fs.devices.lookup p with
  | some d => if d.takes bytes then some fs else none
  | none => if fs.hasRoom p then some (fs.put p bytes) else none

/-- The file system without what a path names, if there is such a thing. A link goes and leaves what
it stands for. -/
def remove? (fs : FileSystem) (path : String) : Option FileSystem := do
  let p ← fs.locate? path
  if (fs.links.lookup p).isSome then some { fs with links := fs.links.filter fun l ↦ l.1 != p }
  else if (fs.devices.lookup p).isSome then
    some { fs with devices := fs.devices.filter fun d ↦ d.1 != p }
  else if (fs.contents? p).isSome then some (fs.erase p)
  else none

/-- The files below the working directory, by their places below it. -/
def workingFiles (fs : FileSystem) : List (Place × ByteArray) :=
  fs.files.filterMap fun f ↦
    if fs.workingDirectory.isPrefixOf f.1 then some (f.1.drop fs.workingDirectory.length, f.2)
    else none

end FileSystem

end Reify

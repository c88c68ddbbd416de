import Reify.FileSystem

/-!
# The usual layout of a file system

A system has its devices below `dev`, with links to the open streams of the running program below
`proc`, and a place for temporary files, where the working directory lies.
-/

namespace Reify

namespace FileSystem

/-- The directories of the system itself. -/
def systemDirs : List Place :=
  [["dev"], ["dev", "pts"], ["dev", "shm"], ["proc"], ["proc", "self"], ["proc", "self", "fd"],
    ["boot"], ["etc"], ["home"], ["media"], ["mnt"], ["opt"], ["root"], ["run"], ["srv"], ["sys"],
    ["usr"], ["var"]]

/-- The devices of a system. Nothing comes in where the running program would read. -/
def systemDevices : List (Place × Device) :=
  [(["dev", "null"], .null), (["dev", "zero"], .endless), (["dev", "random"], .endless),
    (["dev", "urandom"], .endless), (["dev", "full"], .full),
    (["proc", "self", "fd", "0"], .null), (["proc", "self", "fd", "1"], .stream .output),
    (["proc", "self", "fd", "2"], .stream .errors)]

/-- The links of a system to a working directory and to what the running program has open. -/
def systemLinks (workingDirectory : Place) : List (Place × Place) :=
  [(["dev", "fd"], ["proc", "self", "fd"]), (["dev", "stdin"], ["proc", "self", "fd", "0"]),
    (["dev", "stdout"], ["proc", "self", "fd", "1"]),
    (["dev", "stderr"], ["proc", "self", "fd", "2"]),
    (["proc", "self", "cwd"], workingDirectory), (["proc", "self", "root"], [])]

/-- A directory for temporary files. Its name is empty, which no path can spell. -/
def scratch : Place := ["tmp", ""]

/-- A system that works in a scratch directory, with these directories and files below it. -/
def usual (dirs : List Place) (files : List (Place × ByteArray)) : FileSystem where
  workingDirectory := scratch
  dirs := systemDirs ++ ["tmp"] :: scratch :: dirs.map (scratch ++ ·)
  locked := [] :: systemDirs
  links := systemLinks scratch
  devices := systemDevices
  files := files.map fun f ↦ (scratch ++ f.1, f.2)

end FileSystem

end Reify

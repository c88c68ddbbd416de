import Reify.Decl.Basic

/-!
# Filters

A filter decides which declarations a translation looks at.
-/

namespace Reify

/-- A choice of declarations. -/
abbrev Filter := Decl → Bool

namespace Filter

/-- Every declaration. -/
def all : Filter := fun _ ↦ true

/-- The declarations that lie in one of the files. Containers are always let through, because what
they hold may lie anywhere; what has no location lies in no file. -/
def inFiles (files : List String) : Filter
  | .group _ _ _ => true
  | d => match d.head.location with
    | some l => files.any l.isInFile
    | none => false

/-- The filter for a list of files, if one was given. -/
def ofFiles? : Option (List String) → Filter
  | none => all
  | some files => inFiles files

end Filter

end Reify

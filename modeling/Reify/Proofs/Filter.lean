import Reify.Filter

/-!
# What filters keep

A filter by files keeps a declaration for one of two reasons: it lies in one of the files, or it is
a container and holds things that may lie anywhere.  Filters are compared by what they keep.
-/

namespace Reify

/-- The head of a new declaration, known by its qualified name, at the start of a file. -/
def Decl.Head.newIn (file : String) (id : UInt32) (qualifiedName : String) : Decl.Head :=
  { Decl.Head.new id qualifiedName with location := some ⟨file, 1, 1⟩ }

/-- Whether a declaration is a container, which only groups what it holds. -/
def Decl.isGroup : Decl → Bool
  | .group _ _ _ => true
  | .record _ _ _ _ | .typed _ _ _ | .template _ _ _ _ | .staticAssert _ _ => false

/-- Whether a declaration lies in one of the files. Without a location it lies in none. -/
def Decl.liesIn (files : List String) (d : Decl) : Bool :=
  d.head.location.any fun l ↦ files.any l.isInFile

theorem Decl.liesIn_iff {files : List String} {d : Decl} :
    d.liesIn files ↔ ∃ l ∈ d.head.location, l.filename ∈ files := by
  rw [liesIn]
  cases d.head.location with
  | none => simp
  | some l => simp [Location.isInFile]

namespace Filter

/-- The two reasons for which a filter by files keeps a declaration. -/
theorem inFiles_eq (files : List String) (d : Decl) :
    inFiles files d = (d.isGroup || d.liesIn files) := by
  rw [Decl.liesIn]
  cases d
  case group => rfl
  -- Every other kind is judged by the location in its head.
  all_goals
    simp only [inFiles, Decl.isGroup, Decl.head, Bool.false_or]
    split <;> rename_i located <;> rw [located] <;> rfl

/-- A filter by files, or none, looks at the location, and at whether there is a container. -/
theorem ofFiles?_congr (only : Option (List String)) {d d' : Decl} (group : d.isGroup = d'.isGroup)
    (location : d.head.location = d'.head.location) : ofFiles? only d = ofFiles? only d' := by
  cases only with
  | none => rfl
  | some files =>
    rw [ofFiles?, inFiles_eq, inFiles_eq, Decl.liesIn, Decl.liesIn, group, location]

/-- Every declaration that is kept by the first filter is kept by the second. -/
def Within (keep keep' : Filter) : Prop := ∀ d, keep d → keep' d

/-- No filter keeps more than the one that keeps all. -/
theorem within_all (keep : Filter) : keep.Within .all := fun _ _ ↦ rfl

/-- A filter by files keeps more if there are more files, wherever and however often they are
listed. -/
theorem inFiles_within {files files' : List String} (h : files ⊆ files') :
    (inFiles files).Within (.inFiles files') := by
  intro d hd
  rw [inFiles_eq, Bool.or_eq_true] at hd ⊢
  refine hd.imp_right fun lies ↦ ?_
  obtain ⟨l, located, listed⟩ := Decl.liesIn_iff.mp lies
  exact Decl.liesIn_iff.mpr ⟨l, located, h listed⟩

end Filter

end Reify

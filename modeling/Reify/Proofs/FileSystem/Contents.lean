import Reify.FileSystem

/-!
# Contents after writing and removing

A file system is looked at place by place.  Writing to a path changes the contents of one place at
most, and never where a path leads to or what can be written.  Where a path is plain, so that its
end is neither a link nor a device, that one place is the very one that removing the path empties
again.
-/

namespace Reify

namespace FileSystem

variable {fs fs' : FileSystem} {path : String} {bytes : ByteArray} {p q : Place}

/-! ## One place at a time -/

theorem contents?_erase (fs : FileSystem) (p q : Place) :
    (fs.erase p).contents? q = if q = p then none else fs.contents? q := by
  show (fs.files.filter fun f ↦ f.1 != p).lookup q = if q = p then none else fs.files.lookup q
  induction fs.files with
  | nil => simp
  | cons f files ih =>
    obtain ⟨place, bytes⟩ := f
    by_cases hp : place = p
    · subst hp
      rw [List.filter_cons_of_neg (by simp), ih, List.lookup_cons]
      by_cases hq : q = place
      · rw [if_pos hq, if_pos hq]
      · rw [if_neg hq, if_neg hq, beq_false_of_ne hq]
    · rw [List.filter_cons_of_pos (by simpa using hp), List.lookup_cons, List.lookup_cons, ih]
      by_cases hq : q = place
      · subst hq
        rw [beq_self_eq_true, if_neg hp, if_neg hp]
      · rw [beq_false_of_ne hq]

theorem contents?_put (fs : FileSystem) (p q : Place) (bytes : ByteArray) :
    (fs.put p bytes).contents? q = if q = p then some bytes else fs.contents? q := by
  have later := contents?_erase fs p q
  show ((p, bytes) :: (fs.erase p).files).lookup q = _
  rw [List.lookup_cons]
  by_cases hq : q = p
  · subst hq
    rw [beq_self_eq_true, if_pos rfl]
  · rw [if_neg hq] at later ⊢
    rw [beq_false_of_ne hq]
    exact later

/-! ## Where paths lead to -/

/-- The same directories, links and devices, perhaps with other files. -/
def SameLayout (fs fs' : FileSystem) : Prop := ∃ files, fs' = { fs with files := files }

theorem SameLayout.refl (fs : FileSystem) : SameLayout fs fs := ⟨fs.files, rfl⟩

theorem SameLayout.trans {fs₁ fs₂ fs₃ : FileSystem} (h : SameLayout fs₁ fs₂)
    (h' : SameLayout fs₂ fs₃) : SameLayout fs₁ fs₃ := by
  rcases h with ⟨files, rfl⟩
  rcases h' with ⟨files', rfl⟩
  exact ⟨files', rfl⟩

/-- Files have nothing to do with where a path leads to. -/
theorem SameLayout.locate? (h : SameLayout fs fs') (path : String) :
    fs'.locate? path = fs.locate? path := by
  rcases h with ⟨files, rfl⟩
  rfl

/-- A path whose end is neither a link nor a device. -/
def IsPlain (fs : FileSystem) (path : String) : Prop :=
  ∀ p ∈ fs.locate? path, fs.links.lookup p = none ∧ fs.devices.lookup p = none

theorem SameLayout.isPlain (h : SameLayout fs fs') (plain : fs.IsPlain path) :
    fs'.IsPlain path := by
  rcases h with ⟨files, rfl⟩
  exact plain

/-- A plain path leads to where its end is. -/
theorem IsPlain.target? (plain : fs.IsPlain path) : fs.target? path = fs.locate? path := by
  rw [FileSystem.target?]
  cases h : fs.locate? path with
  | none => rfl
  | some p =>
    obtain ⟨link, _⟩ := plain p h
    rw [Option.map_some, follow, link]
    rfl

/-- A plain path with contents names a file. -/
theorem IsPlain.read? (plain : fs.IsPlain path) :
    fs.read? path = (fs.locate? path).bind fs.contents? := by
  rw [FileSystem.read?, plain.target?]
  cases h : fs.locate? path with
  | none => rfl
  | some p =>
    obtain ⟨_, device⟩ := plain p h
    simp [device]

theorem IsPlain.stream? (plain : fs.IsPlain path) : fs.stream? path = none := by
  rw [FileSystem.stream?, plain.target?]
  cases h : fs.locate? path with
  | none => rfl
  | some p =>
    obtain ⟨_, device⟩ := plain p h
    simp [device]

/-- The place whose contents a path leads to.  A path to a device has none. -/
def place? (fs : FileSystem) (path : String) : Option Place :=
  (fs.target? path).filter fun p ↦ (fs.devices.lookup p).isNone

theorem place?_eq_some_iff :
    fs.place? path = some p ↔ fs.target? path = some p ∧ fs.devices.lookup p = none := by
  rw [place?, Option.filter_eq_some_iff, Option.isNone_iff_eq_none]

theorem SameLayout.place? (h : SameLayout fs fs') (path : String) :
    fs'.place? path = fs.place? path := by
  rcases h with ⟨files, rfl⟩
  rfl

theorem SameLayout.stream? (h : SameLayout fs fs') (path : String) :
    fs'.stream? path = fs.stream? path := by
  rcases h with ⟨files, rfl⟩
  rfl

/-- A plain path leads to the place of a file. -/
theorem IsPlain.place? (plain : fs.IsPlain path) : fs.place? path = fs.locate? path := by
  rw [FileSystem.place?, plain.target?]
  cases h : fs.locate? path with
  | none => rfl
  | some p =>
    obtain ⟨_, device⟩ := plain p h
    rw [Option.filter_some, device]
    rfl

/-- What a path holds is what its place holds. -/
theorem read?_of_place? (h : fs.place? path = some p) : fs.read? path = fs.contents? p := by
  obtain ⟨target, device⟩ := place?_eq_some_iff.mp h
  rw [FileSystem.read?, target]
  simp [device]

/-! ## Writing -/

/-- All that writing can come to: a device takes the bytes and leaves no trace of them, or they are
put where the path leads to, if there is room. -/
theorem write?_eq_some_iff :
    fs.write? path bytes = some fs' ↔ ∃ p, fs.target? path = some p ∧
      ((∃ d, fs.devices.lookup p = some d ∧ d.takes bytes ∧ fs' = fs) ∨
        (fs.devices.lookup p = none ∧ fs.hasRoom p ∧ fs' = fs.put p bytes)) := by
  constructor
  · intro h
    obtain ⟨p, target, h⟩ := Option.bind_eq_some_iff.mp h
    refine ⟨p, target, ?_⟩
    split at h
    · rename_i d device
      split at h
      · rename_i takes
        cases h
        exact .inl ⟨d, device, takes, rfl⟩
      · cases h
    · rename_i device
      split at h
      · rename_i room
        cases h
        exact .inr ⟨device, room, rfl⟩
      · cases h
  · rintro ⟨p, target, ⟨d, device, takes, rfl⟩ | ⟨device, room, rfl⟩⟩
    · refine Option.bind_eq_some_iff.mpr ⟨p, target, ?_⟩
      rw [device]
      exact if_pos takes
    · refine Option.bind_eq_some_iff.mpr ⟨p, target, ?_⟩
      rw [device]
      exact if_pos room

/-- Writing leaves all but files as it was. -/
theorem sameLayout_of_write? (h : fs.write? path bytes = some fs') : SameLayout fs fs' := by
  obtain ⟨p, _, ⟨d, _, _, rfl⟩ | ⟨_, _, rfl⟩⟩ := write?_eq_some_iff.mp h
  · exact .refl fs'
  · exact ⟨_, rfl⟩

/-- Writing to a path changes the place that it leads to, and no other. -/
theorem contents?_of_write? (h : fs.write? path bytes = some fs') (q : Place) :
    fs'.contents? q = if fs.place? path = some q then some bytes else fs.contents? q := by
  obtain ⟨p, target, ⟨d, device, _, rfl⟩ | ⟨device, _, rfl⟩⟩ := write?_eq_some_iff.mp h
  · rw [if_neg]
    intro there
    obtain ⟨target', none_there⟩ := place?_eq_some_iff.mp there
    cases target.symm.trans target'
    rw [device] at none_there
    cases none_there
  · have there : fs.place? path = some p := place?_eq_some_iff.mpr ⟨target, device⟩
    rw [contents?_put, there]
    by_cases hq : q = p
    · rw [if_pos hq, if_pos (congrArg some hq.symm)]
    · rw [if_neg hq, if_neg fun same ↦ hq (Option.some.inj same).symm]

/-- What is put somewhere had room there, so nothing else gains or loses room by it. -/
theorem hasRoom_of_write? (h : fs.write? path bytes = some fs') (q : Place) :
    fs'.hasRoom q = fs.hasRoom q := by
  obtain ⟨p, _, ⟨d, _, _, rfl⟩ | ⟨_, room, rfl⟩⟩ := write?_eq_some_iff.mp h
  · rfl
  · show (!fs.isDir q && (((fs.put p bytes).contents? q).isSome || _)) = _
    rw [contents?_put]
    by_cases hq : q = p
    · subst hq
      rw [if_pos rfl, room]
      rw [hasRoom, Bool.and_eq_true] at room
      rw [room.1]
      rfl
    · rw [if_neg hq]
      rfl

/-- A path can be written to if its device takes the bytes, or if there is room where it leads
to. -/
theorem isSome_write? (fs : FileSystem) (path : String) (bytes : ByteArray) :
    (fs.write? path bytes).isSome = (fs.target? path).any fun p ↦
      (fs.devices.lookup p).elim (fs.hasRoom p) (·.takes bytes) := by
  rw [write?]
  cases fs.target? path with
  | none => rfl
  | some p =>
    cases device : fs.devices.lookup p with
    | none => cases room : fs.hasRoom p <;> simp [device, room]
    | some d => cases takes : d.takes bytes <;> simp [device, takes]

/-- Whether a path can be written to does not depend on what was written before. -/
theorem isSome_write?_of_write? (h : fs.write? path bytes = some fs') (path' : String)
    (bytes' : ByteArray) : (fs'.write? path' bytes').isSome = (fs.write? path' bytes').isSome := by
  have room := funext (hasRoom_of_write? h)
  obtain ⟨files, rfl⟩ := sameLayout_of_write? h
  rw [isSome_write?, isSome_write?, room]
  rfl

/-- Writing to a plain path puts the bytes where it leads to, if there is room. -/
theorem IsPlain.write?_eq_some_iff (plain : fs.IsPlain path) :
    fs.write? path bytes = some fs' ↔
      ∃ p, fs.locate? path = some p ∧ fs.hasRoom p ∧ fs' = fs.put p bytes := by
  rw [FileSystem.write?_eq_some_iff, plain.target?]
  constructor
  · rintro ⟨p, located, ⟨d, device, _, _⟩ | ⟨_, room, rfl⟩⟩
    · rw [(plain p located).2] at device
      cases device
    · exact ⟨p, located, room, rfl⟩
  · rintro ⟨p, located, room, rfl⟩
    exact ⟨p, located, .inr ⟨(plain p located).2, room, rfl⟩⟩

/-- A path to a device that has no room for anything. -/
def IsFull (fs : FileSystem) (path : String) : Prop :=
  ∃ p, fs.target? path = some p ∧ fs.devices.lookup p = some .full

theorem IsFull.place? (full : fs.IsFull path) : fs.place? path = none := by
  obtain ⟨p, target, device⟩ := full
  rw [FileSystem.place?, target, Option.filter_some, device]
  rfl

theorem IsFull.stream? (full : fs.IsFull path) : fs.stream? path = none := by
  obtain ⟨p, target, device⟩ := full
  simp [FileSystem.stream?, target, device]

/-- What was written once can be written again, unless nothing was written to a full device. -/
theorem isFull_of_write? {bytes' : ByteArray} (h : fs.write? path bytes = some fs')
    (stuck : fs'.write? path bytes' = none) : fs.IsFull path := by
  have before := isSome_write?_of_write? h path bytes'
  rw [stuck, isSome_write?] at before
  obtain ⟨p, target, ⟨d, device, takes, rfl⟩ | ⟨device, room, rfl⟩⟩ := write?_eq_some_iff.mp h
  · rw [target, Option.any_some, device] at before
    cases d with
    | full => exact ⟨p, target, device⟩
    | null => cases before
    | endless => cases before
    | stream s => cases before
  · rw [target, Option.any_some, device, Option.elim_none, room] at before
    cases before

/-! ## Removing -/

/-- Removing a plain path takes away the file that it names, if there is one. -/
theorem IsPlain.remove? (plain : fs.IsPlain path) :
    fs.remove? path = (fs.locate? path).bind fun p ↦
      if (fs.contents? p).isSome then some (fs.erase p) else none := by
  rw [FileSystem.remove?]
  cases h : fs.locate? path with
  | none => rfl
  | some p =>
    obtain ⟨link, device⟩ := plain p h
    simp [link, device]

/-- The file system without what a path names, whether there was something or not. -/
def clear (fs : FileSystem) (path : String) : FileSystem := (fs.remove? path).getD fs

theorem IsPlain.sameLayout_clear (plain : fs.IsPlain path) : fs.SameLayout (fs.clear path) := by
  rw [clear, plain.remove?]
  cases fs.locate? path with
  | none => exact .refl fs
  | some p =>
    rw [Option.bind_some]
    split
    · exact ⟨_, rfl⟩
    · exact .refl fs

/-- Clearing a plain path empties the place that it leads to, and no other. -/
theorem IsPlain.contents?_clear (plain : fs.IsPlain path) (q : Place) :
    (fs.clear path).contents? q = if fs.locate? path = some q then none else fs.contents? q := by
  rw [clear, plain.remove?]
  cases fs.locate? path with
  | none => rfl
  | some p =>
    rw [Option.bind_some]
    by_cases there : (fs.contents? p).isSome
    · rw [if_pos there, Option.getD_some, contents?_erase]
      by_cases hq : q = p
      · rw [if_pos hq, if_pos (hq ▸ rfl)]
      · rw [if_neg hq, if_neg]
        intro same
        exact hq (Option.some.inj same).symm
    · rw [if_neg there, Option.getD_none]
      split
      · rename_i same
        cases same
        exact Option.not_isSome_iff_eq_none.mp there
      · rfl

/-- Clearing a path that does not lead to the place of a file may take a link or a device away, but
no contents. -/
theorem contents?_clear_of_place? (h : fs.place? path = none) (q : Place) :
    (fs.clear path).contents? q = fs.contents? q := by
  rw [clear, FileSystem.remove?]
  cases located : fs.locate? path with
  | none => rfl
  | some p =>
    rw [Option.bind_eq_bind, Option.bind_some]
    cases link : fs.links.lookup p with
    | some target => rfl
    | none =>
      cases device : fs.devices.lookup p with
      | some d => rfl
      | none =>
        have target : fs.target? path = some p := by
          rw [FileSystem.target?, located, Option.map_some, follow, link]
          rfl
        rw [place?_eq_some_iff.mpr ⟨target, device⟩] at h
        cases h

/-- Paths that are all plain are cleared one by one, each wherever the others lead to. -/
theorem contents?_foldl_clear {fs : FileSystem} {paths : List String}
    (plain : ∀ path ∈ paths, fs.IsPlain path) (q : Place) :
    (paths.foldl clear fs).contents? q =
      if q ∈ paths.filterMap fs.locate? then none else fs.contents? q := by
  induction paths generalizing fs with
  | nil => rfl
  | cons path paths ih =>
    obtain ⟨first, others⟩ := List.forall_mem_cons.mp plain
    have layout := first.sameLayout_clear
    have places : paths.filterMap (fs.clear path).locate? = paths.filterMap fs.locate? :=
      congrArg (paths.filterMap ·) (funext layout.locate?)
    rw [List.foldl_cons, ih fun path' h ↦ layout.isPlain (others path' h), places,
      first.contents?_clear, List.filterMap_cons]
    cases fs.locate? path with
    | none => rfl
    | some p =>
      by_cases hq : q = p
      · subst hq
        simp
      · have apart : ¬(some p = some q) := fun same ↦ hq (Option.some.inj same).symm
        simp [hq, apart]

end FileSystem

end Reify

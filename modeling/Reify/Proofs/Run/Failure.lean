import Reify.Proofs.Run.Outcome
import Reify.Proofs.TranslationUnit.Dump

/-!
# What a failing run leaves behind

A run that fails has written nothing, or has written its specifications and then removed them.  So
it leaves nothing behind: no output, and no file that was not there before.  It may take something
away, though.  Removing is not undoing, and specifications that are written over an earlier file are
removed as a whole, so that file is lost; no other file ever is.

A link outlives what is written through it, and a device does not give back what it was sent.  So
where specifications are taken back, their path has to be plain.  Nothing else is asked of any path:
a run that fails earlier has not written anything, wherever its paths would have led to.
-/

namespace Reify

namespace World

/-! ## Writing and removing again -/

theorem fileSystem_written (w : World) (path text : String) (fs : FileSystem) :
    (w.written path text fs).fileSystem = fs := by
  rw [written, fileSystem_note, fileSystem_send]

/-- A text is printed only if it is written to standard output. -/
theorem stdout_written (w : World) (path text : String) (fs : FileSystem) :
    (w.written path text fs).stdout =
      if w.fileSystem.stream? path = some .output then w.stdout ++ text else w.stdout := by
  rw [written, stdout_note, stdout_send]

theorem fileSystem_discarded (w : World) (path : String) :
    (w.discarded path).fileSystem = w.fileSystem.clear path := by
  rw [discarded, FileSystem.clear]
  cases w.fileSystem.remove? path with
  | none => rfl
  | some fs => rfl

theorem stdout_discarded (w : World) (path : String) :
    (w.discarded path).stdout = w.stdout := by
  rw [discarded]
  cases w.fileSystem.remove? path with
  | none => rfl
  | some fs => rfl

theorem fileSystem_foldl_discarded (w : World) (paths : List String) :
    (paths.foldl discarded w).fileSystem = paths.foldl FileSystem.clear w.fileSystem := by
  induction paths generalizing w with
  | nil => rfl
  | cons path paths ih => rw [List.foldl_cons, ih, fileSystem_discarded, List.foldl_cons]

theorem stdout_foldl_discarded (w : World) (paths : List String) :
    (paths.foldl discarded w).stdout = w.stdout := by
  induction paths generalizing w with
  | nil => rfl
  | cons path paths ih => rw [List.foldl_cons, ih, stdout_discarded]

/-- Writing outputs changes nothing but files, whatever their paths lead to. -/
theorem Wrote.sameLayout {w w' : World} {outputs : List (String × String)}
    (h : w.Wrote outputs w') : w.fileSystem.SameLayout w'.fileSystem := by
  induction h with
  | nil w => exact .refl w.fileSystem
  | @cons w w' path text fs outputs first others ih =>
    rw [fileSystem_written] at ih
    exact (FileSystem.sameLayout_of_write? first).trans ih

/-- Nothing is printed unless something is written to standard output. -/
theorem Wrote.stdout {w w' : World} {outputs : List (String × String)} (h : w.Wrote outputs w')
    (apart : ∀ o ∈ outputs, w.fileSystem.stream? o.1 ≠ some .output) : w'.stdout = w.stdout := by
  induction h with
  | nil w => rfl
  | @cons w w' path text fs outputs first others ih =>
    obtain ⟨here, there⟩ := List.forall_mem_cons.mp apart
    have layout := FileSystem.sameLayout_of_write? first
    have streams : fs.stream? = w.fileSystem.stream? := funext layout.stream?
    rw [fileSystem_written, streams, stdout_written, if_neg here] at ih
    exact ih there

/-- Each place holds the last of the texts that were written there, or what it held before. -/
theorem Wrote.contents? {w w' : World} {outputs : List (String × String)}
    (h : w.Wrote outputs w') (q : Place) :
    w'.fileSystem.contents? q = outputs.foldl (fun held o ↦
      if w.fileSystem.place? o.1 = some q then some o.2.toUTF8 else held)
      (w.fileSystem.contents? q) := by
  induction h with
  | nil w => rfl
  | @cons w w' path text fs outputs first others ih =>
    have layout := FileSystem.sameLayout_of_write? first
    have places : fs.place? = w.fileSystem.place? := funext layout.place?
    rw [fileSystem_written, places, FileSystem.contents?_of_write? first] at ih
    rw [ih, List.foldl_cons]

/-- A place that no output leads to is left as it was. -/
theorem Wrote.contents?_of_ne {w w' : World} {outputs : List (String × String)}
    (h : w.Wrote outputs w') {q : Place}
    (apart : ∀ o ∈ outputs, w.fileSystem.place? o.1 ≠ some q) :
    w'.fileSystem.contents? q = w.fileSystem.contents? q := by
  rw [h.contents?]
  generalize w.fileSystem.contents? q = held
  clear h
  induction outputs with
  | nil => rfl
  | cons o outputs ih =>
    obtain ⟨here, there⟩ := List.forall_mem_cons.mp apart
    rw [List.foldl_cons, if_neg here]
    exact ih there

/-- Outputs that are removed again leave no trace but that their places are empty. -/
theorem Wrote.discarded {w w' : World} {outputs : List (String × String)}
    (h : w.Wrote outputs w') (plain : ∀ o ∈ outputs, w.fileSystem.IsPlain o.1) :
    ((outputs.map Prod.fst).foldl World.discarded w').stdout = w.stdout ∧
      ∀ q, ((outputs.map Prod.fst).foldl World.discarded w').fileSystem.contents? q =
        if q ∈ (outputs.map Prod.fst).filterMap w.fileSystem.locate? then none
        else w.fileSystem.contents? q := by
  have streams (o : String × String) (ho : o ∈ outputs) :
      w.fileSystem.stream? o.1 ≠ some .output := by
    rw [(plain o ho).stream?]
    exact nofun
  have layout := h.sameLayout
  have places : w'.fileSystem.locate? = w.fileSystem.locate? := funext layout.locate?
  refine ⟨(stdout_foldl_discarded w' _).trans (h.stdout streams), ?_⟩
  intro q
  rw [fileSystem_foldl_discarded, FileSystem.contents?_foldl_clear, places]
  · split
    · rfl
    · rename_i elsewhere
      apply h.contents?_of_ne
      intro o ho there
      rw [(plain o ho).place?] at there
      exact elsewhere (List.mem_filterMap.mpr ⟨o.1, List.mem_map_of_mem ho, there⟩)
  · intro path hpath
    obtain ⟨o, ho, rfl⟩ := List.mem_map.mp hpath
    exact layout.isPlain (plain o ho)

/-- A full device keeps nothing of what it takes, and nothing is lost when it is removed. -/
theorem Wrote.discarded_of_isFull {w w' : World} {path text : String}
    (h : w.Wrote [(path, text)] w') (full : w.fileSystem.IsFull path) :
    (w'.discarded path).stdout = w.stdout ∧
      ∀ q, (w'.discarded path).fileSystem.contents? q = w.fileSystem.contents? q := by
  have nowhere : w'.fileSystem.place? path = none :=
    (h.sameLayout.place? path).trans full.place?
  constructor
  · rw [stdout_discarded]
    exact h.stdout (by simp [full.stream?])
  · intro q
    rw [fileSystem_discarded, FileSystem.contents?_clear_of_place? nowhere]
    exact h.contents?_of_ne (by simp [full.place?])

end World

/-! ## Runs that fail -/

/-- The output that a failing run has written and then removed: the specifications, if it was the
module's own file that could not be written.  One path for both takes the module where it has taken
specifications, unless it leads to a full device, which holds nothing to take back. -/
def Config.takenBack (c : Config) : Failure → Option String
  | .translation _ => none
  | .write path _ => c.spec.filter fun spec ↦ c.output = some path ∧ spec ≠ path

/-- At most one element leaves nothing before or after it. -/
theorem toList_eq_append_cons {α : Type} {o : Option α} {a : α} {done rest : List α}
    (h : o.toList = done ++ a :: rest) : done = [] ∧ o = some a := by
  cases o with
  | none => exact absurd h.symm (List.append_ne_nil_of_right_ne_nil _ (List.cons_ne_nil a rest))
  | some b =>
    rcases List.cons_eq_append_iff.mp h with ⟨rfl, first⟩ | ⟨done', _, others⟩
    · cases first
      exact ⟨rfl, rfl⟩
    · exact absurd others.symm (List.append_ne_nil_of_right_ne_nil _ (List.cons_ne_nil a rest))

/-- There are two outputs at most, so either the first of them is the one that comes next, or the
specifications are done and the module is next. -/
theorem Config.outputs_eq_append {c : Config} {specs ir path text : String}
    {done rest : List (String × String)}
    (h : c.outputs specs ir = done ++ (path, text) :: rest) :
    (done = [] ∧ (c.spec = some path ∨ c.spec = none)) ∨
      ∃ spec, c.spec = some spec ∧ c.output = some path ∧ done = [(spec, specs)] := by
  rw [outputs] at h
  cases hs : c.spec with
  | none =>
    rw [hs] at h
    obtain ⟨none_done, _⟩ := toList_eq_append_cons h
    exact .inl ⟨none_done, .inr rfl⟩
  | some spec =>
    rw [hs] at h
    rcases List.cons_eq_append_iff.mp h with ⟨none_done, first⟩ | ⟨done', rfl, others⟩
    · cases first
      exact .inl ⟨none_done, .inl rfl⟩
    · obtain ⟨rfl, next⟩ := toList_eq_append_cons others
      obtain ⟨output, ho, ⟨⟩⟩ := Option.map_eq_some_iff.mp next
      exact .inr ⟨spec, rfl, ho, rfl⟩

namespace World

/-- All that a failing run can have done.  Either it has only logged something, or it has written
specifications and removed them: those that it has taken back, or empty ones on a full device, which
then had no room for the module. -/
theorem run_error_cases {w w' : World} {c : Config} {f : Failure}
    (failed : w.outcome (run c) = (.error f, w')) :
    (∃ rs, c.takenBack f = none ∧ w' = w.note rs) ∨
      ∃ rs spec text w₁, (w.note rs).Wrote [(spec, text)] w₁ ∧ w' = w₁.discarded spec ∧
        (c.takenBack f = some spec ∨ c.takenBack f = none ∧ w.fileSystem.IsFull spec) := by
  obtain ⟨rs, outcome⟩ := w.outcome_run c
  rw [failed] at outcome
  cases hp : c.product w.fileSystem with
  | error e =>
    rw [hp] at outcome
    cases outcome
    exact .inl ⟨rs, rfl, rfl⟩
  | ok product =>
    obtain ⟨specs, ir⟩ := product
    rw [hp] at outcome
    dsimp only at outcome
    rcases (w.note rs).outcome_writeOutputs [] (c.outputs (Spec.renderAll specs) ir) with
      ⟨w₁, _, written⟩ | ⟨done, path, text, rest, w₁, outputs, wrote, stuck, rolledBack⟩
    · obtain ⟨rs', concluded⟩ := w₁.outcome_conclude c specs ir
      rw [outcome_bind_of_ok written, concluded] at outcome
      cases outcome
    · rw [outcome_bind_of_error rolledBack] at outcome
      cases outcome
      rcases Config.outputs_eq_append outputs with ⟨rfl, first⟩ | ⟨spec, hs, ho, rfl⟩
      · have kept : c.takenBack (.write path "no such place") = none := by
          rcases first with hs | hs <;> simp [Config.takenBack, hs]
        cases wrote
        exact .inl ⟨rs, kept, rfl⟩
      · refine .inr ⟨rs, spec, _, w₁, wrote, rfl, ?_⟩
        by_cases same : spec = path
        · -- What the path took once, it does not take again.
          subst same
          cases wrote with
          | cons first others =>
            cases others
            rw [fileSystem_written] at stuck
            exact .inr ⟨by simp [Config.takenBack, hs], FileSystem.isFull_of_write? first stuck⟩
        · exact .inl (by simp [Config.takenBack, hs, ho, same])

/-- What a failing run leaves behind: nothing is printed, and nothing has changed except that the
place of what it has taken back is empty. -/
theorem contents?_of_run_error {w w' : World} {c : Config} {f : Failure}
    (plain : ∀ spec ∈ c.takenBack f, w.fileSystem.IsPlain spec)
    (failed : w.outcome (run c) = (.error f, w')) :
    w'.stdout = w.stdout ∧ ∀ q, w'.fileSystem.contents? q =
      if (c.takenBack f).bind w.fileSystem.locate? = some q then none
      else w.fileSystem.contents? q := by
  rcases run_error_cases failed with
    ⟨rs, none_taken, rfl⟩ | ⟨rs, spec, text, w₁, wrote, rfl, taken | ⟨none_taken, full⟩⟩
  · rw [none_taken]
    exact ⟨rfl, fun _ ↦ rfl⟩
  · obtain ⟨stdout, contents⟩ := wrote.discarded (by simpa using plain spec taken)
    refine ⟨stdout, ?_⟩
    intro q
    rw [taken]
    refine (contents q).trans ?_
    cases hl : w.fileSystem.locate? spec with
    | none => simp [hl]
    | some p => simp [hl, eq_comm]
  · rw [none_taken]
    exact wrote.discarded_of_isFull full

/-- A run whose module cannot be written where its specifications could be fails. -/
theorem outcome_run_of_unwritable {w : World} {c : Config} {specs : List Spec}
    {ir spec output : String} {fs : FileSystem} (product : c.product w.fileSystem = .ok (specs, ir))
    (hs : c.spec = some spec) (ho : c.output = some output)
    (first : w.fileSystem.write? spec (Spec.renderAll specs).toUTF8 = some fs)
    (stuck : fs.write? output ir.toUTF8 = none) :
    ∃ w', w.outcome (run c) = (.error (.write output "no such place"), w') := by
  obtain ⟨rs, outcome⟩ := w.outcome_run c
  have outputs : c.outputs (Spec.renderAll specs) ir =
      [(spec, Spec.renderAll specs), (output, ir)] := by
    rw [Config.outputs, hs, ho]
    rfl
  rw [product] at outcome
  dsimp only at outcome
  rw [outputs] at outcome
  rw [← fileSystem_written (w.note rs) spec (Spec.renderAll specs) fs] at stuck
  have writing : (w.note rs).outcome
      (writeOutputs [] [(spec, Spec.renderAll specs), (output, ir)]) = _ :=
    (outcome_writeOutputs_of_write? (w := w.note rs) [] [(output, ir)] first).trans
      (outcome_writeOutputs_of_stuck [spec] [] stuck)
  exact ⟨_, outcome.trans (outcome_bind_of_error writing)⟩

/-- A world with the dump of an empty unit and some files beside it, but no directory below its
root. -/
def flat (files : List (Place × ByteArray)) : World :=
  let dump := (TranslationUnit.empty "a.cpp").toJson.compact
  ⟨⟨[], [], [], [], [], (["a.json"], dump.toUTF8) :: files⟩, "", []⟩

/-- Where there are no links and no devices, every path is plain. -/
theorem isPlain_flat (files : List (Place × ByteArray)) (path : String) :
    (flat files).fileSystem.IsPlain path := fun _ _ ↦ ⟨rfl, rfl⟩

end World

/-- A command line for both outputs, the text of the module in a directory of its own. -/
def Config.nested : Config :=
  { input := "a.json", output := some "out/a.v", spec := some "a.spec", only := []
    noElaborate := false, templates := false, verbose := false, traceModule := false }

namespace World

/-- The empty unit has a module, but there is no directory for it. -/
theorem outcome_run_nested (files : List (Place × ByteArray)) :
    ∃ w', (flat files).outcome (run .nested) =
      (.error (.write "out/a.v" "no such place"), w') := by
  have read : (flat files).fileSystem.readText "a.json" =
      .ok (TranslationUnit.empty "a.cpp").toJson.compact := FileSystem.readText_of_read? rfl
  have loaded := TranslationUnit.result_load_of_parse?
    (Json.parse?_compact (TranslationUnit.empty "a.cpp").valid_toJson)
  have product := Config.product_eq_ok (c := .nested) read loaded rfl
  have room : (flat files).fileSystem.hasRoom ["a.spec"] := by
    show (_ || true) = true
    exact Bool.or_true _
  exact outcome_run_of_unwritable product rfl rfl
    ((isPlain_flat files "a.spec").write?_eq_some_iff.mpr ⟨["a.spec"], rfl, room, rfl⟩) rfl

section

variable {w w' : World} {c : Config} {f : Failure}

/-- A failing run leaves nothing behind: it has printed nothing, and every file that is there
afterwards was there before, with the same contents. -/
theorem run_error_leaves_nothing (plain : ∀ spec ∈ c.takenBack f, w.fileSystem.IsPlain spec)
    (failed : w.outcome (run c) = (.error f, w')) :
    w'.stdout = w.stdout ∧ ∀ p bytes, w'.fileSystem.contents? p = some bytes →
      w.fileSystem.contents? p = some bytes := by
  obtain ⟨stdout, contents⟩ := contents?_of_run_error plain failed
  refine ⟨stdout, ?_⟩
  intro p bytes there
  rw [contents p] at there
  split at there
  · cases there
  · exact there

theorem run_error_leaves_nothing_nested : ∃ f w',
    (flat [(["a.spec"], "old".toUTF8)]).outcome (run .nested) = (.error f, w') ∧
      w'.stdout = "" ∧ ∀ p bytes, w'.fileSystem.contents? p = some bytes →
        (flat [(["a.spec"], "old".toUTF8)]).fileSystem.contents? p = some bytes := by
  obtain ⟨w', failed⟩ := outcome_run_nested [(["a.spec"], "old".toUTF8)]
  exact ⟨_, w', failed, run_error_leaves_nothing (fun path _ ↦ isPlain_flat _ path) failed⟩

/-- A failing run destroys nothing but what it has taken back.  So every file is kept exactly if
there was none where the specifications that it has taken back were written, and in any case every
other place holds what it held. -/
theorem run_error_keeps_files_iff (plain : ∀ spec ∈ c.takenBack f, w.fileSystem.IsPlain spec)
    (failed : w.outcome (run c) = (.error f, w')) :
    ((∀ p bytes, w.fileSystem.contents? p = some bytes → w'.fileSystem.contents? p = some bytes) ↔
      ∀ spec ∈ c.takenBack f, w.fileSystem.read? spec = none) ∧
    ∀ p, (c.takenBack f).bind w.fileSystem.locate? ≠ some p →
      w'.fileSystem.contents? p = w.fileSystem.contents? p := by
  obtain ⟨_, contents⟩ := contents?_of_run_error plain failed
  have others (p : Place) (apart : (c.takenBack f).bind w.fileSystem.locate? ≠ some p) :
      w'.fileSystem.contents? p = w.fileSystem.contents? p := by
    rw [contents p, if_neg apart]
  refine ⟨⟨?_, ?_⟩, others⟩
  · intro kept spec taken
    rw [(plain spec taken).read?]
    cases located : w.fileSystem.locate? spec with
    | none => rfl
    | some p =>
      have emptied : w'.fileSystem.contents? p = none := by
        rw [contents p, if_pos]
        rw [show c.takenBack f = some spec from taken, Option.bind_some, located]
      cases there : w.fileSystem.contents? p with
      | none => exact there
      | some bytes =>
        have remains := kept p bytes there
        rw [emptied] at remains
        cases remains
  · intro absent p bytes there
    rw [others p, there]
    intro taken
    obtain ⟨spec, taken, located⟩ := Option.bind_eq_some_iff.mp taken
    have missing := absent spec taken
    rw [(plain spec taken).read?, located, Option.bind_some,
      there] at missing
    cases missing

theorem run_error_keeps_files_iff_nested : ∃ f w',
    (flat []).outcome (run .nested) = (.error f, w') ∧ ∀ p bytes,
      (flat []).fileSystem.contents? p = some bytes → w'.fileSystem.contents? p = some bytes := by
  obtain ⟨w', failed⟩ := outcome_run_nested []
  have kept := run_error_keeps_files_iff (fun path _ ↦ isPlain_flat [] path) failed
  refine ⟨_, w', failed, kept.1.mpr ?_⟩
  rintro spec ⟨⟩
  rfl

/-- Specifications that are written over an earlier file take that file along when they are
removed. -/
theorem run_loses_earlier_specs : ∃ f w',
    (flat [(["a.spec"], "old".toUTF8)]).outcome (run .nested) = (.error f, w') ∧
      (∀ path, (flat [(["a.spec"], "old".toUTF8)]).fileSystem.IsPlain path) ∧
      (flat [(["a.spec"], "old".toUTF8)]).fileSystem.contents? ["a.spec"] = some "old".toUTF8 ∧
      w'.fileSystem.contents? ["a.spec"] = none := by
  have plain := isPlain_flat [(["a.spec"], "old".toUTF8)]
  obtain ⟨w', failed⟩ := outcome_run_nested [(["a.spec"], "old".toUTF8)]
  obtain ⟨_, contents⟩ := contents?_of_run_error (fun path _ ↦ plain path) failed
  exact ⟨_, w', failed, plain, rfl, (contents ["a.spec"]).trans (if_pos rfl)⟩

end

end World

end Reify

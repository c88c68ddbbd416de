import Reify.Proofs.Module.Reader
import Reify.Proofs.Printer.Balance
import Reify.Proofs.Run.Failure

/-!
# What a successful run leaves behind

A run succeeds exactly if there is a translation and every output could be written on its own.  Then
each place holds the last of the texts that were written there, or what it held before.  Since the
module is written after the specifications, it always arrives; the specifications arrive unless both
paths lead to the same place, for then they are overwritten, and the two texts are never the same.

A path may lead through links, and it may lead to a device, which holds nothing that was sent to it.
So the results about contents are for paths that lead to the place of a file.
-/

namespace Reify

/-! ## The two texts -/

/-- Specifications end in an empty line, if there are any. -/
theorem Spec.suffix_renderAll (specs : List Spec) :
    (renderAll specs).toList = [] ∨ ['\n', '\n'] <:+ (renderAll specs).toList := by
  induction specs with
  | nil => exact .inl rfl
  | cons s specs ih =>
    right
    have first : (renderAll (s :: specs)).toList = s.render.toList ++ (renderAll specs).toList := by
      rw [renderAll, List.map_cons, String.join_cons, String.toList_append, renderAll]
    rw [first]
    rcases ih with none_left | last
    · rw [none_left, List.append_nil, render, String.toList_append]
      exact List.suffix_append _ _
    · exact last.trans (List.suffix_append _ _)

/-- A section ends in a full stop. -/
theorem Section.suffix_commands (s : Section) : ['.', '\n'] <:+ Printer.chars s.commands := by
  rw [commands, Printer.chars_append]
  exact List.suffix_append _ _

/-- A module ends in the full stop of its assertions. -/
theorem Module.suffix_print {m : Module} {unit text : String}
    (h : (m.print unit).result = .ok text) : ['.', '\n'] <:+ text.toList := by
  rw [print_eq_bind, Logged.result_bind_eq_ok_iff] at h
  obtain ⟨sections, hs, written⟩ := h
  cases written
  obtain ⟨_, _, _, _, _, _, _, _, rfl⟩ := sections_eq_ok_iff.mp hs
  rw [Printer.text_performAll, String.toList_append, String.toList_ofList]
  refine List.IsSuffix.trans ?_ (List.suffix_append _ _)
  simp only [commands, List.flatMap_cons, List.flatMap_nil, Printer.chars_cons,
    Printer.chars_append, List.append_nil, ← List.append_assoc]
  exact (Section.suffix_commands _).trans (List.suffix_append _ _)

/-- The file of a module is never that of its specifications. -/
theorem Config.toUTF8_ne_of_product {c : Config} {fs : FileSystem} {specs : List Spec}
    {ir : String} (product : c.product fs = .ok (specs, ir)) :
    ir.toUTF8 ≠ (Spec.renderAll specs).toUTF8 := by
  obtain ⟨_, u, _, _, printed, rfl⟩ := exists_of_product_eq_ok product
  have stop : ['.', '\n'] <:+ ir.toList := Module.suffix_print printed
  intro same
  rw [String.toByteArray_inj.mp same] at stop
  rcases Spec.suffix_renderAll (u.translate c.filter c.options []).specs with none_left | line
  · rw [none_left] at stop
    cases List.suffix_nil.mp stop
  · cases (List.suffix_of_suffix_length_le stop line le_rfl).eq_of_length rfl

namespace World

/-! ## Outputs that are all written -/

section

variable {w w' : World} {outputs : List (String × String)}

/-- What can be written afterwards could be written before. -/
theorem Wrote.isSome_write? (h : w.Wrote outputs w') (path : String) (bytes : ByteArray) :
    (w'.fileSystem.write? path bytes).isSome = (w.fileSystem.write? path bytes).isSome := by
  induction h with
  | nil w => rfl
  | @cons w w' path' text fs outputs first others ih =>
    rw [fileSystem_written, FileSystem.isSome_write?_of_write? first] at ih
    exact ih

/-- What was written in a row could be written on its own. -/
theorem Wrote.writable (h : w.Wrote outputs w') :
    ∀ o ∈ outputs, (w.fileSystem.write? o.1 o.2.toUTF8).isSome := by
  induction h with
  | nil w => exact List.forall_mem_nil _
  | @cons w w' path text fs outputs first others ih =>
    refine List.forall_mem_cons.mpr ⟨?_, ?_⟩
    · rw [first]
      rfl
    · intro o ho
      rw [← FileSystem.isSome_write?_of_write? first, ← fileSystem_written w path text fs]
      exact ih o ho

/-- Outputs that could each be written on its own are all written. -/
theorem outcome_writeOutputs_of_writable
    (writable : ∀ o ∈ outputs, (w.fileSystem.write? o.1 o.2.toUTF8).isSome) :
    ∃ w', w.Wrote outputs w' ∧ w.outcome (writeOutputs [] outputs) = (.ok (), w') := by
  rcases w.outcome_writeOutputs [] outputs with
    written | ⟨done, path, text, rest, w₁, rfl, wrote, stuck, _⟩
  · exact written
  · have room := writable (path, text) (List.mem_append_right done List.mem_cons_self)
    rw [← wrote.isSome_write?, stuck] at room
    cases room

end

end World

/-! ## Runs that succeed -/

/-- The paths that a command line asks to write to. -/
def Config.paths (c : Config) : List String := c.spec.toList ++ c.output.toList

theorem Config.map_fst_outputs (c : Config) (specs ir : String) :
    (c.outputs specs ir).map Prod.fst = c.paths := by
  rw [outputs, paths]
  cases c.spec <;> cases c.output <;> rfl

namespace World

variable {w w' : World} {c : Config} {specs : List Spec} {ir : String}

/-- All that a successful run has done: it has written its outputs, and printed the module if there
is no file for it. -/
theorem run_ok_cases (done : w.outcome (run c) = (.ok (), w')) :
    ∃ specs ir rs rs' w₁, c.product w.fileSystem = .ok (specs, ir) ∧
      (w.note rs).Wrote (c.outputs (Spec.renderAll specs) ir) w₁ ∧
      w' = (w₁.note rs').send ir (if c.output.isNone then some .output else none) := by
  obtain ⟨rs, outcome⟩ := w.outcome_run c
  rw [done] at outcome
  cases product : c.product w.fileSystem with
  | error e =>
    rw [product] at outcome
    cases outcome
  | ok both =>
    obtain ⟨specs, ir⟩ := both
    rw [product] at outcome
    dsimp only at outcome
    rcases (w.note rs).outcome_writeOutputs [] (c.outputs (Spec.renderAll specs) ir) with
      ⟨w₁, wrote, written⟩ | ⟨_, _, _, _, _, _, _, _, failed⟩
    · obtain ⟨rs', concluded⟩ := w₁.outcome_conclude c specs ir
      rw [outcome_bind_of_ok written, concluded] at outcome
      cases outcome
      exact ⟨specs, ir, rs, rs', w₁, rfl, wrote, rfl⟩
    · rw [outcome_bind_of_error failed] at outcome
      cases outcome

/-- A run succeeds exactly if there is a translation, and each output could be written on its
own. -/
theorem run_ok_iff : (∃ w', w.outcome (run c) = (.ok (), w')) ↔
    ∃ specs ir, c.product w.fileSystem = .ok (specs, ir) ∧
      ∀ o ∈ c.outputs (Spec.renderAll specs) ir,
        (w.fileSystem.write? o.1 o.2.toUTF8).isSome := by
  constructor
  · rintro ⟨w', done⟩
    obtain ⟨specs, ir, rs, _, w₁, product, wrote, _⟩ := run_ok_cases done
    exact ⟨specs, ir, product, wrote.writable⟩
  · rintro ⟨specs, ir, product, writable⟩
    obtain ⟨rs, outcome⟩ := w.outcome_run c
    rw [product] at outcome
    dsimp only at outcome
    obtain ⟨w₁, _, written⟩ := outcome_writeOutputs_of_writable (w := w.note rs) writable
    obtain ⟨rs', concluded⟩ := w₁.outcome_conclude c specs ir
    rw [outcome_bind_of_ok written, concluded] at outcome
    exact ⟨_, outcome⟩

/-- What a successful run leaves at each place: the module where its path leads to, the
specifications where theirs does unless the module is there, and everywhere else what was there. -/
theorem contents?_of_run_ok (product : c.product w.fileSystem = .ok (specs, ir))
    (done : w.outcome (run c) = (.ok (), w')) (q : Place) :
    w'.fileSystem.contents? q =
      if c.output.bind w.fileSystem.place? = some q then some ir.toUTF8
      else if c.spec.bind w.fileSystem.place? = some q then some (Spec.renderAll specs).toUTF8
      else w.fileSystem.contents? q := by
  obtain ⟨specs', ir', rs, rs', w₁, product', wrote, rfl⟩ := run_ok_cases done
  cases product.symm.trans product'
  rw [fileSystem_send, fileSystem_note, wrote.contents?, Config.outputs]
  cases c.spec <;> cases c.output <;> rfl

/-- Files are all that a successful run changes. -/
theorem sameLayout_of_run_ok (done : w.outcome (run c) = (.ok (), w')) :
    w.fileSystem.SameLayout w'.fileSystem := by
  obtain ⟨_, _, rs, rs', w₁, _, wrote, rfl⟩ := run_ok_cases done
  rw [fileSystem_send]
  exact wrote.sameLayout

/-- What a path to the place of a file holds after a successful run. -/
theorem read?_of_run_ok (product : c.product w.fileSystem = .ok (specs, ir))
    (done : w.outcome (run c) = (.ok (), w')) {path : String} {p : Place}
    (h : w.fileSystem.place? path = some p) :
    w'.fileSystem.read? path =
      if c.output.bind w.fileSystem.place? = some p then some ir.toUTF8
      else if c.spec.bind w.fileSystem.place? = some p then some (Spec.renderAll specs).toUTF8
      else w.fileSystem.read? path := by
  have there := ((sameLayout_of_run_ok done).place? path).trans h
  rw [FileSystem.read?_of_place? there, contents?_of_run_ok product done,
    FileSystem.read?_of_place? h]

/-- What a successful run prints, if it does not write to standard output: the module, if there is
no path for it. -/
theorem stdout_of_run_ok (product : c.product w.fileSystem = .ok (specs, ir))
    (done : w.outcome (run c) = (.ok (), w'))
    (apart : ∀ path ∈ c.paths, w.fileSystem.stream? path ≠ some .output) :
    w'.stdout = w.stdout ++ if c.output.isNone then ir else "" := by
  obtain ⟨specs', ir', rs, rs', w₁, product', wrote, rfl⟩ := run_ok_cases done
  cases product.symm.trans product'
  have printed : w₁.stdout = w.stdout := by
    refine wrote.stdout ?_
    intro o ho
    apply apart o.1
    rw [← Config.map_fst_outputs c (Spec.renderAll specs) ir]
    exact List.mem_map_of_mem ho
  rw [stdout_send, stdout_note, printed]
  cases c.output with
  | none => rfl
  | some output => exact String.append_empty.symm

end World

/-- A unit with one annotated variable. -/
def TranslationUnit.annotated : TranslationUnit :=
  ⟨"a.cpp", [.typed ⟨1, "x", "x", none, none, some "inv"⟩ (.object true) (.of (.builtin .bool))]⟩

/-- A command line for both outputs, and nothing else. -/
def Config.toFiles (spec output : String) : Config :=
  { input := "a.json", output := some output, spec := some spec, only := []
    noElaborate := false, templates := false, verbose := false, traceModule := false }

namespace World

/-- A world with nothing but the dump of a unit that has a specification. -/
def annotated : World :=
  let dump := TranslationUnit.annotated.toJson.compact
  ⟨⟨[], [], [], [], [], [(["a.json"], dump.toUTF8)]⟩, "", []⟩

theorem product_annotated (spec output : String) : ∃ ir,
    (Config.toFiles spec output).product annotated.fileSystem = .ok ([⟨1, "x", "inv"⟩], ir) := by
  have read : annotated.fileSystem.readText "a.json" =
      .ok TranslationUnit.annotated.toJson.compact := FileSystem.readText_of_read? rfl
  have shallow : TranslationUnit.annotated.toJson.depth ≤ 127 := by decide
  have loaded := (TranslationUnit.result_load_of_parse?
    (Json.parse?_compact TranslationUnit.annotated.valid_toJson)).trans (if_pos shallow)
  exact ⟨_, Config.product_eq_ok (c := .toFiles spec output) read loaded rfl⟩

/-- In that world a run succeeds wherever there is room for both outputs. -/
theorem outcome_run_annotated (spec output : String)
    (first : (annotated.fileSystem.target? spec).any annotated.fileSystem.hasRoom)
    (second : (annotated.fileSystem.target? output).any annotated.fileSystem.hasRoom) :
    ∃ ir w', (Config.toFiles spec output).product annotated.fileSystem =
        .ok ([⟨1, "x", "inv"⟩], ir) ∧
      annotated.outcome (run (.toFiles spec output)) = (.ok (), w') := by
  have writable {path : String}
      (room : (annotated.fileSystem.target? path).any annotated.fileSystem.hasRoom)
      (bytes : ByteArray) : (annotated.fileSystem.write? path bytes).isSome :=
    (FileSystem.isSome_write? annotated.fileSystem path bytes).trans room
  obtain ⟨ir, product⟩ := product_annotated spec output
  obtain ⟨w', done⟩ := run_ok_iff.mpr ⟨_, ir, product, List.forall_mem_cons.mpr
    ⟨writable first _, List.forall_mem_singleton.mpr (writable second _)⟩⟩
  exact ⟨ir, w', product, done⟩

variable {w w' : World} {c : Config}

/-- A successful run delivers all outputs, except that the module overwrites the specifications
where both paths lead to the same place.  Nothing is printed if there is a path for the module, and
no file is touched but at the places of the outputs. -/
theorem run_ok_delivers (done : w.outcome (run c) = (.ok (), w')) :
    ∃ specs ir, c.product w.fileSystem = .ok (specs, ir) ∧
      (∀ output ∈ c.output, (w.fileSystem.place? output).isSome →
        w'.fileSystem.read? output = some ir.toUTF8) ∧
      (∀ spec ∈ c.spec, (w.fileSystem.place? spec).isSome →
        (w'.fileSystem.read? spec = some (Spec.renderAll specs).toUTF8 ↔
          c.output.bind w.fileSystem.place? ≠ w.fileSystem.place? spec)) ∧
      ((∀ path ∈ c.paths, w.fileSystem.stream? path ≠ some .output) →
        w'.stdout = w.stdout ++ if c.output.isNone then ir else "") ∧
      w.fileSystem.SameLayout w'.fileSystem ∧
      ∀ q, (∀ path ∈ c.paths, w.fileSystem.place? path ≠ some q) →
        w'.fileSystem.contents? q = w.fileSystem.contents? q := by
  obtain ⟨specs, ir, _, _, _, product, _, _⟩ := run_ok_cases done
  refine ⟨specs, ir, product, ?_, ?_, stdout_of_run_ok product done, sameLayout_of_run_ok done, ?_⟩
  · intro output ho file
    obtain ⟨p, hp⟩ := Option.isSome_iff_exists.mp file
    rw [read?_of_run_ok product done hp, if_pos]
    rw [show c.output = some output from ho, Option.bind_some, hp]
  · intro spec hs file
    obtain ⟨p, hp⟩ := Option.isSome_iff_exists.mp file
    have there : c.spec.bind w.fileSystem.place? = some p := by
      rw [show c.spec = some spec from hs, Option.bind_some, hp]
    rw [read?_of_run_ok product done hp, if_pos there, hp]
    constructor
    · intro arrived same
      rw [if_pos same] at arrived
      exact Config.toUTF8_ne_of_product product (Option.some.inj arrived)
    · intro apart
      rw [if_neg apart]
  · intro q apart
    rw [contents?_of_run_ok product done, if_neg, if_neg]
    · intro there
      obtain ⟨spec, hs, hq⟩ := Option.bind_eq_some_iff.mp there
      exact apart spec (List.mem_append_left _ (Option.mem_toList.mpr hs)) hq
    · intro there
      obtain ⟨output, ho, hq⟩ := Option.bind_eq_some_iff.mp there
      exact apart output (List.mem_append_right _ (Option.mem_toList.mpr ho)) hq

theorem run_ok_delivers_annotated : ∃ (ir : String) (w' : World),
    annotated.outcome (run (.toFiles "a.spec" "a.v")) = (.ok (), w') ∧
      w'.fileSystem.read? "a.v" = some ir.toUTF8 ∧
      w'.fileSystem.read? "a.spec" = some (Spec.renderAll [⟨1, "x", "inv"⟩]).toUTF8 ∧
      w'.stdout = "" ∧
      w'.fileSystem.contents? ["a.json"] = annotated.fileSystem.contents? ["a.json"] := by
  obtain ⟨ir, w', product, done⟩ := outcome_run_annotated "a.spec" "a.v" rfl rfl
  obtain ⟨specs, ir', product', delivered, arrived, printed, _, others⟩ := run_ok_delivers done
  cases product.symm.trans product'
  refine ⟨ir, w', done, delivered "a.v" rfl rfl, ?_, ?_, ?_⟩
  · exact (arrived "a.spec" rfl rfl).mpr (by decide)
  · exact printed (by decide)
  · exact others ["a.json"] (by decide)

/-- Where both paths are the same, a run succeeds, and yet the specifications are nowhere. -/
theorem run_overwrites_specs : ∃ ir w',
    (Config.toFiles "a.v" "a.v").product annotated.fileSystem = .ok ([⟨1, "x", "inv"⟩], ir) ∧
      annotated.outcome (run (.toFiles "a.v" "a.v")) = (.ok (), w') ∧
      w'.fileSystem.read? "a.v" ≠ some (Spec.renderAll [⟨1, "x", "inv"⟩]).toUTF8 := by
  obtain ⟨ir, w', product, done⟩ := outcome_run_annotated "a.v" "a.v" rfl rfl
  refine ⟨ir, w', product, done, ?_⟩
  have there : annotated.fileSystem.place? "a.v" = some ["a.v"] := rfl
  have overwritten := (read?_of_run_ok product done there).trans (if_pos there)
  rw [overwritten]
  intro same
  exact Config.toUTF8_ne_of_product product (Option.some.inj same)

end World

end Reify

import Reify.Proofs.FileSystem.Contents
import Reify.Run
import Reify.World

/-!
# What a run comes to

A run in a world ends in one way and leaves one world behind.  That outcome is computed step by
step: what is logged only adds notices, outputs are written one after the other, and if one of them
cannot be written, those before it are removed.  `World.Wrote` is the relation between the worlds
before and after some outputs, and `outcome_writeOutputs` says everything that writing them can come
to.
-/

namespace Reify

namespace World

/-! ## Single steps -/

/-- How a computation ends in a world, and the world that it leaves. -/
def outcome {α : Type} (w : World) (x : ExceptT Failure (StateM World) α) :
    Except Failure α × World :=
  x.run.run w

/-- The world after some records. -/
def note (w : World) (rs : List Record) : World :=
  { w with notices := w.notices ++ rs.map .record }

@[simp] theorem fileSystem_note (w : World) (rs : List Record) :
    (w.note rs).fileSystem = w.fileSystem := rfl

@[simp] theorem stdout_note (w : World) (rs : List Record) : (w.note rs).stdout = w.stdout := rfl

theorem note_nil (w : World) : w.note [] = w := by
  rw [note, List.map_nil, List.append_nil]

theorem note_note (w : World) (rs rs' : List Record) :
    (w.note rs).note rs' = w.note (rs ++ rs') := by
  rw [note, note, note, List.map_append, List.append_assoc]

section Steps

variable {α β : Type} {w w' : World} {x : ExceptT Failure (StateM World) α}
  {k : α → ExceptT Failure (StateM World) β}

/-- A bind goes on in the world that its first stage leaves. -/
theorem outcome_bind_of_ok {a : α} (h : w.outcome x = (.ok a, w')) :
    w.outcome (x >>= k) = w'.outcome (k a) := by
  show (ExceptT.bindCont k ((x.run.run w).1)).run ((x.run.run w).2) = _
  rw [show x.run.run w = (.ok a, w') from h]
  rfl

/-- A bind after a failure leaves the world of the failure. -/
theorem outcome_bind_of_error {f : Failure} (h : w.outcome x = (.error f, w')) :
    w.outcome (x >>= k) = (.error f, w') := by
  show (ExceptT.bindCont k ((x.run.run w).1)).run ((x.run.run w).2) = _
  rw [show x.run.run w = (.error f, w') from h]
  rfl

end Steps

theorem outcome_log (w : World) (r : Record) :
    w.outcome (Host.log r) = (.ok (), w.note [r]) := rfl

end World

/-- The text of the file that a path names, or the reason why there is none. -/
def FileSystem.readText (fs : FileSystem) (path : String) : Except String String :=
  match fs.read? path with
  | none => .error "no such file"
  | some bytes => match String.fromUTF8? bytes with
    | none => .error "not a text"
    | some s => .ok s

/-- What was written as a text is read as that text. -/
theorem FileSystem.readText_of_read? {fs : FileSystem} {path s : String}
    (h : fs.read? path = some s.toUTF8) : fs.readText path = .ok s := by
  have decoded : String.fromUTF8? s.toUTF8 = some s := dif_pos s.isValidUTF8
  rw [readText, h]
  simp only [decoded]

namespace World

theorem outcome_readText (w : World) (path : String) :
    w.outcome (Host.readText path) = (.ok (w.fileSystem.readText path), w) := by
  rw [FileSystem.readText]
  show (match w.fileSystem.read? path with
    | none => (pure (Except.error "no such file") : StateM World (Except String String))
    | some bytes => match String.fromUTF8? bytes with
      | none => pure (Except.error "not a text")
      | some s => pure (Except.ok s)).map Except.ok w = _
  cases w.fileSystem.read? path with
  | none => rfl
  | some bytes =>
    dsimp only
    cases String.fromUTF8? bytes with
    | none => rfl
    | some s => rfl

theorem outcome_logAll (w : World) (rs : List Record) :
    w.outcome (logAll rs) = (.ok (), w.note rs) := by
  induction rs generalizing w with
  | nil => rw [note_nil]; rfl
  | cons r rs ih =>
    rw [logAll, outcome_bind_of_ok (w.outcome_log r), ih, note_note]
    rfl

/-- Replaying what was logged leaves its records, whatever the result. -/
theorem outcome_replay {α : Type} (w : World) (x : Logged Error α) :
    w.outcome (replay x) = (x.result.mapError Failure.translation, w.note x.log) := by
  rw [replay, outcome_bind_of_ok (w.outcome_logAll x.log)]
  cases x.result with
  | ok a => rfl
  | error e => rfl

/-! ## Writing outputs -/

theorem fileSystem_send (w : World) (text : String) (s : Option Stream) :
    (w.send text s).fileSystem = w.fileSystem := by
  rcases s with _ | _ | _ <;> rfl

/-- Only what goes to standard output is printed. -/
theorem stdout_send (w : World) (text : String) (s : Option Stream) :
    (w.send text s).stdout = if s = some .output then w.stdout ++ text else w.stdout := by
  rcases s with _ | _ | _ <;> rfl

/-- The world after a text was written to a path, which left these files. -/
def written (w : World) (path text : String) (fs : FileSystem) : World :=
  (({ w with fileSystem := fs }).send text (w.fileSystem.stream? path)).note
    [⟨.info, "Wrote " ++ path⟩]

/-- The world after an output was removed again. -/
def discarded (w : World) (path : String) : World :=
  match w.fileSystem.remove? path with
  | none => w
  | some fs => ({ w with fileSystem := fs }).note [⟨.debug, "Removed " ++ path⟩]

theorem outcome_discard (w : World) (path : String) :
    w.outcome (discard path) = (.ok (), w.discarded path) := by
  have removal : w.outcome (Host.remove path) = match w.fileSystem.remove? path with
      | none => (.ok .absent, w)
      | some fs => (.ok .removed, { w with fileSystem := fs }) := by
    show (match w.fileSystem.remove? path with
      | none => (pure Removal.absent : StateM World Removal)
      | some fs => do
        set { w with fileSystem := fs }
        return Removal.removed).map Except.ok w = _
    cases w.fileSystem.remove? path with
    | none => rfl
    | some fs => rfl
  rw [discard, discarded]
  cases h : w.fileSystem.remove? path with
  | none =>
    rw [h] at removal
    rw [outcome_bind_of_ok removal]
    rfl
  | some fs =>
    rw [h] at removal
    rw [outcome_bind_of_ok removal]
    rfl

theorem outcome_discardAll (w : World) (paths : List String) :
    w.outcome (discardAll paths) = (.ok (), paths.foldl discarded w) := by
  induction paths generalizing w with
  | nil => rfl
  | cons path paths ih =>
    rw [discardAll, outcome_bind_of_ok (w.outcome_discard path), ih]
    rfl

/-- Each of some outputs in a row could be written, which led from one world to the other. -/
inductive Wrote : World → List (String × String) → World → Prop
  | nil (w : World) : Wrote w [] w
  | cons {w w' : World} {path text : String} {fs : FileSystem} {outputs : List (String × String)}
    (first : w.fileSystem.write? path text.toUTF8 = some fs)
    (others : Wrote (w.written path text fs) outputs w') : Wrote w ((path, text) :: outputs) w'

theorem outcome_writeText (w : World) (path text : String) :
    w.outcome (Host.writeText path text) = match w.fileSystem.write? path text.toUTF8 with
      | none => (.ok (.error "no such place"), w)
      | some fs =>
        (.ok (.ok ()), ({ w with fileSystem := fs }).send text (w.fileSystem.stream? path)) := by
  show (match w.fileSystem.write? path text.toUTF8 with
    | none => (pure (Except.error "no such place") : StateM World (Except String Unit))
    | some fs => do
      set (({ w with fileSystem := fs }).send text (w.fileSystem.stream? path))
      return Except.ok ()).map Except.ok w = _
  cases w.fileSystem.write? path text.toUTF8 with
  | none => rfl
  | some fs => rfl

section

variable {w : World} {path text : String}

/-- An output that can be written is written, and is to be removed if a later one cannot be. -/
theorem outcome_writeOutputs_of_write? {fs : FileSystem} (before : List String)
    (outputs : List (String × String)) (h : w.fileSystem.write? path text.toUTF8 = some fs) :
    w.outcome (writeOutputs before ((path, text) :: outputs)) =
      (w.written path text fs).outcome (writeOutputs (before ++ [path]) outputs) := by
  have writing := w.outcome_writeText path text
  rw [h] at writing
  rw [writeOutputs, outcome_bind_of_ok writing]
  exact outcome_bind_of_ok (outcome_log _ _)

/-- An output that cannot be written is the end, and those written before it are removed. -/
theorem outcome_writeOutputs_of_stuck (before : List String) (outputs : List (String × String))
    (h : w.fileSystem.write? path text.toUTF8 = none) :
    w.outcome (writeOutputs before ((path, text) :: outputs)) =
      (.error (.write path "no such place"), before.foldl discarded w) := by
  have writing := w.outcome_writeText path text
  rw [h] at writing
  rw [writeOutputs, outcome_bind_of_ok writing]
  exact outcome_bind_of_ok (w.outcome_discardAll before)

end

/-- All that writing outputs can come to.  Either every output is written; or one cannot be written
where those before it were, and then these are removed, together with what was written before. -/
theorem outcome_writeOutputs (w : World) (before : List String)
    (outputs : List (String × String)) :
    (∃ w', w.Wrote outputs w' ∧ w.outcome (writeOutputs before outputs) = (.ok (), w')) ∨
      ∃ done path text rest w', outputs = done ++ (path, text) :: rest ∧ w.Wrote done w' ∧
        w'.fileSystem.write? path text.toUTF8 = none ∧
        w.outcome (writeOutputs before outputs) =
          (.error (.write path "no such place"),
            (before ++ done.map Prod.fst).foldl discarded w') := by
  induction outputs generalizing w before with
  | nil => exact .inl ⟨w, .nil w, rfl⟩
  | cons output outputs ih =>
    obtain ⟨path, text⟩ := output
    cases h : w.fileSystem.write? path text.toUTF8 with
    | none =>
      refine .inr ⟨[], path, text, outputs, w, rfl, .nil w, h, ?_⟩
      rw [outcome_writeOutputs_of_stuck before outputs h, List.map_nil, List.append_nil]
    | some fs =>
      rw [outcome_writeOutputs_of_write? before outputs h]
      rcases ih (w.written path text fs) (before ++ [path]) with
        ⟨w', wrote, written⟩ | ⟨done, path', text', rest, w', rfl, wrote, stuck, failed⟩
      · exact .inl ⟨w', .cons h wrote, written⟩
      · refine .inr ⟨(path, text) :: done, path', text', rest, w', rfl, .cons h wrote, stuck, ?_⟩
        rw [failed, List.append_assoc]
        rfl

end World

/-! ## The whole run -/

/-- What the input of a command line translates to: the specifications of its unit, and the text of
its module. -/
def Config.product (c : Config) (fs : FileSystem) : Except Error (List Spec × String) := do
  let source ← (fs.readText c.input).mapError .io
  let u ← (TranslationUnit.load source).result
  let ir ← (u.translate c.filter c.options []).output.result
  return ((u.translate c.filter c.options []).specs, ir)

/-- A unit that can be read and translated makes the product. -/
theorem Config.product_eq_ok {c : Config} {fs : FileSystem} {source ir : String}
    {u : TranslationUnit} (read : fs.readText c.input = .ok source)
    (loaded : (TranslationUnit.load source).result = .ok u)
    (translated : (u.translate c.filter c.options []).output.result = .ok ir) :
    c.product fs = .ok ((u.translate c.filter c.options []).specs, ir) := by
  rw [product, read]
  show (TranslationUnit.load source).result.bind _ = _
  rw [loaded]
  show (u.translate c.filter c.options []).output.result.bind _ = _
  rw [translated]
  rfl

/-- A bind that succeeds has gone through both of its stages. -/
theorem exists_of_bind_eq_ok {ε α β : Type} {x : Except ε α} {f : α → Except ε β} {b : β}
    (h : x >>= f = .ok b) : ∃ a, x = .ok a ∧ f a = .ok b := by
  cases x with
  | error e => cases h
  | ok a => exact ⟨a, rfl, h⟩

/-- A product comes from a unit that can be read and translated. -/
theorem Config.exists_of_product_eq_ok {c : Config} {fs : FileSystem} {specs : List Spec}
    {ir : String} (product : c.product fs = .ok (specs, ir)) :
    ∃ source u, fs.readText c.input = .ok source ∧
      (TranslationUnit.load source).result = .ok u ∧
      (u.translate c.filter c.options []).output.result = .ok ir ∧
      (u.translate c.filter c.options []).specs = specs := by
  obtain ⟨source, read, product⟩ := exists_of_bind_eq_ok product
  obtain ⟨u, loaded, product⟩ := exists_of_bind_eq_ok product
  obtain ⟨_, translated, made⟩ := exists_of_bind_eq_ok product
  cases made
  refine ⟨source, u, ?_, loaded, translated, rfl⟩
  cases text : fs.readText c.input with
  | error reason =>
    rw [text] at read
    cases read
  | ok source' =>
    rw [text] at read
    cases read
    rfl

/-- What is left to do once the outputs are written. -/
def Config.conclude (c : Config) (specs : List Spec) (ir : String) :
    ExceptT Failure (StateM World) Unit := do
  if !specs.isEmpty then
    Host.log ⟨.info, "Collected " ++ toString specs.length ++ " specifications"⟩
  if c.output.isNone then Host.print ir

namespace World

/-- Once the outputs are written, a run cannot fail any more.  It only prints the module, unless
there is a file that it was written to. -/
theorem outcome_conclude (w : World) (c : Config) (specs : List Spec) (ir : String) :
    ∃ rs, w.outcome (c.conclude specs ir) =
      (.ok (), (w.note rs).send ir (if c.output.isNone then some .output else none)) := by
  rw [Config.conclude]
  cases specs.isEmpty <;> cases c.output
  · exact ⟨[_], rfl⟩
  · exact ⟨[_], rfl⟩
  · exact ⟨[], by rw [note_nil]; rfl⟩
  · exact ⟨[], by rw [note_nil]; rfl⟩

/-- A run first translates its input, which adds notices only.  If there is no translation, it fails
and has done nothing else; otherwise it writes the outputs and concludes. -/
theorem outcome_run (w : World) (c : Config) :
    ∃ rs, w.outcome (run c) = match c.product w.fileSystem with
      | .error e => (.error (.translation e), w.note rs)
      | .ok (specs, ir) => (w.note rs).outcome
        (writeOutputs [] (c.outputs (Spec.renderAll specs) ir) >>= fun _ ↦
          c.conclude specs ir) := by
  rw [run, outcome_bind_of_ok (outcome_log _ _), outcome_bind_of_ok (outcome_readText _ _),
    fileSystem_note]
  cases hs : w.fileSystem.readText c.input with
  | error reason =>
    have product : c.product w.fileSystem = .error (.io reason) := by
      rw [Config.product, hs]
      rfl
    rw [product]
    exact ⟨_, rfl⟩
  | ok source =>
    have read : c.product w.fileSystem = (TranslationUnit.load source).result.bind fun u ↦
        (u.translate c.filter c.options []).output.result.map fun ir ↦
          ((u.translate c.filter c.options []).specs, ir) := by
      rw [Config.product, hs]
      rfl
    have loading := (w.note [⟨.debug, "Options: " ++ c.options.toJson.compact⟩]).outcome_replay
      (TranslationUnit.load source)
    rw [note_note] at loading
    cases hu : (TranslationUnit.load source).result with
    | error e =>
      rw [hu] at loading read
      rw [read]
      exact ⟨_, outcome_bind_of_error loading⟩
    | ok u =>
      rw [hu] at loading read
      have translating := outcome_replay (w.note ([⟨.debug, "Options: " ++
        c.options.toJson.compact⟩] ++ (TranslationUnit.load source).log))
        (u.translate c.filter c.options []).output
      rw [note_note] at translating
      dsimp only
      rw [outcome_bind_of_ok loading, read]
      dsimp only [Except.bind]
      cases hir : (u.translate c.filter c.options []).output.result with
      | error e =>
        rw [hir] at translating
        exact ⟨_, outcome_bind_of_error translating⟩
      | ok ir =>
        rw [hir] at translating
        exact ⟨_, outcome_bind_of_ok translating⟩

end World

end Reify

import Reify.Proofs.Module.Reader
import Reify.Proofs.Translation.Success

/-!
# What comes of writing a module

A module is filled by calls, and nothing keeps these from putting a namespace or a template where
only entries belong.  So a declaration of a module may fail for three reasons, looked for in this
order: it has no name, it is out of place, or its type has no term.  The module is written exactly
if none of its declarations fails, and otherwise fails with the first of them that does; that a
bracket is left open is no reason ever.

A module that is written is laid out section by section, each term on a line of its own
(`text_performAll_commands`).
-/

namespace Reify

/-! ## The first of several runs that fails -/

namespace Logged

variable {ε α β γ : Type}

theorem StopsAt.exists_cons_of_error {x : Logged ε α} {es : List ε} (hx : x.StopsAt es) {e : ε}
    (h : x.result = .error e) : ∃ es', es = e :: es' := by
  cases es with
  | nil =>
    obtain ⟨a, ha⟩ := hx
    rw [ha] at h
    cases h
  | cons e' es =>
    have stopped : x.result = .error e' := hx
    rw [stopped] at h
    cases h
    exact ⟨es, rfl⟩

variable {x : Logged ε γ} {f : β → Logged ε α} {g : β → List ε} {bs : List β}

/-- A run that stops at the first failure of some others has a result exactly if they all have. -/
theorem StopsAt.exists_ok_iff_forall (hx : x.StopsAt (bs.flatMap g))
    (hf : ∀ b, (f b).StopsAt (g b)) :
    (∃ c, x.result = .ok c) ↔ ∀ b ∈ bs, ∃ a, (f b).result = .ok a := by
  rw [hx.exists_ok_iff, List.flatMap_eq_nil_iff]
  exact forall₂_congr fun b _ ↦ (hf b).exists_ok_iff.symm

/-- A run that stops at the first failure of some others fails as the first of them that fails. -/
theorem StopsAt.result_eq_error_iff (hx : x.StopsAt (bs.flatMap g))
    (hf : ∀ b, (f b).StopsAt (g b)) {e : ε} :
    x.result = .error e ↔ ∃ before b after, bs = before ++ b :: after ∧
      (∀ b' ∈ before, ∃ a, (f b').result = .ok a) ∧ (f b).result = .error e := by
  constructor
  · intro h
    obtain ⟨es, found⟩ := hx.exists_cons_of_error h
    cases first : bs.find? fun b ↦ !(g b).isEmpty with
    | none =>
      have nothing : bs.flatMap g = [] :=
        List.flatMap_eq_nil_iff.mpr fun b hb ↦ by simpa using List.find?_eq_none.mp first b hb
      rw [nothing] at found
      cases found
    | some b =>
      obtain ⟨failing, before, after, rfl, fine⟩ := List.find?_eq_some_iff_append.mp first
      have nothing (b' : β) (hb' : b' ∈ before) : g b' = [] := by simpa using fine b' hb'
      rw [List.flatMap_append, List.flatMap_eq_nil_iff.mpr nothing, List.flatMap_cons] at found
      refine ⟨before, b, after, rfl, fun b' hb' ↦ (hf b').exists_ok_iff.mpr (nothing b' hb'), ?_⟩
      have stopped := hf b
      cases hb : g b with
      | nil => simp [hb] at failing
      | cons e' es' =>
        rw [hb] at found stopped
        obtain ⟨rfl, -⟩ := List.cons.inj found
        exact stopped
  · rintro ⟨before, b, after, rfl, fine, failed⟩
    have nothing : before.flatMap g = [] :=
      List.flatMap_eq_nil_iff.mpr fun b' hb' ↦ (hf b').exists_ok_iff.mp (fine b' hb')
    obtain ⟨es, stopped⟩ := (hf b).exists_cons_of_error failed
    rw [List.flatMap_append, nothing, List.flatMap_cons, stopped] at hx
    exact hx

end Logged

/-! ## Failures of a declaration -/

/-- The failures of a declaration in a module: those of its name and type, and that of being out of
place if it is no entry. -/
def Decl.failures (d : Decl) : List Error :=
  d.faults.map Fault.error ++ if d.isEntry then [] else [d.misplaced]

/-- Every declaration stops at its first failure, be it an entry or not. -/
theorem Decl.stopsAt_failures (d : Decl) : d.term.StopsAt d.failures := by
  have name := d.ref.stopsAt_lower.mapError Fault.error
  -- What has no type has no faults but that of its name.
  have misplaced {d : Decl} (untyped : d.type? = none) :
      d.faults.map Fault.error = d.ref.faults.map Fault.error := by
    rw [faults, untyped, Option.toList_none, List.flatMap_nil, List.append_nil]
  cases hd : d.isEntry with
  | true =>
    rw [failures, hd, if_pos rfl, List.append_nil]
    exact stopsAt_term hd
  | false =>
    rw [failures, hd, if_neg Bool.false_ne_true]
    cases d with
    | record head tag isDefinition members => cases hd
    | typed head entity type => cases hd
    | group head kind decls =>
      rw [misplaced rfl]
      exact name.bind fun _ _ ↦ Logged.stopsAt_fail _
    | template head kind pattern specializations =>
      rw [misplaced rfl]
      exact name.bind fun _ _ ↦ Logged.stopsAt_fail _
    | staticAssert head a =>
      rw [misplaced rfl]
      exact name.bind fun _ _ ↦ Logged.stopsAt_fail _

/-- A declaration fails for what it is, never through a slip of the translator. -/
theorem Decl.isUnsupported_of_term {d : Decl} {e : Error} (h : d.term.result = .error e) :
    e.isUnsupported := by
  rcases List.mem_append.mp (d.stopsAt_failures.mem_of_error h) with found | misplaced
  · obtain ⟨fault, -, rfl⟩ := List.mem_map.mp found
    exact fault.isUnsupported_error
  · split at misplaced
    · cases misplaced
    · cases List.mem_singleton.mp misplaced
      rfl

/-- The terms of some declarations are the terms of each of them, in order. -/
theorem Decl.terms_eq_ok_iff {ds : List Decl} {ts : List Term} :
    (Decl.terms ds).result = .ok ts ↔ ds.map (·.term.result) = ts.map .ok := by
  induction ds generalizing ts with
  | nil => simp [Decl.terms, eq_comm]
  | cons d ds ih =>
    simp only [Decl.terms, Logged.result_bind_eq_ok_iff, Logged.result_pure, Except.ok.injEq,
      List.map_cons]
    constructor
    · rintro ⟨t, first, ts, others, rfl⟩
      rw [first, ih.mp others, List.map_cons]
    · intro same
      obtain ⟨t, ts, rfl, first, others⟩ := List.map_eq_cons_iff.mp same.symm
      exact ⟨t, first.symm, ts, ih.mpr others.symm, rfl⟩

/-! ## The layout of a module -/

/-- The text of a section: a heading, then a line for each term, and the end of the list. -/
def Section.text (s : Section) : String :=
  "\nDefinition " ++ s.name ++ " : list Decl :=\n  (" ++
    String.join (s.terms.map fun t ↦ t.text ++ " ::\n   ") ++ "nil).\n"

/-- A term that stands on its own is written by its commands, wherever it stands. -/
theorem Term.toList_text (t : Term) : t.text.toList = Printer.chars (t.commands false) := by
  rw [text, emit, Printer.text_performAll]
  simp [Printer.empty]

theorem Section.chars_lineCommands (ts : List Term) :
    Printer.chars (lineCommands ts) =
      (String.join (ts.map fun t ↦ t.text ++ " ::\n   ")).toList := by
  induction ts with
  | nil => rfl
  | cons t ts ih =>
    have line : lineCommands (t :: ts) =
        t.commands false ++ [.text " ::", .newline, .text "   "] ++ lineCommands ts := rfl
    rw [line, Printer.chars_append, Printer.chars_append, ih, ← t.toList_text, List.map_cons,
      String.join_cons, String.toList_append, String.toList_append]
    rfl

theorem Section.chars_commands (s : Section) : Printer.chars s.commands = s.text.toList := by
  have list : Printer.chars (listCommands s.terms) =
      "  (".toList ++ (Printer.chars (lineCommands s.terms) ++ "nil)".toList) := by
    rw [listCommands, Printer.chars_cons, Printer.chars_cons, Printer.chars_append]
    rfl
  rw [commands, Printer.chars_append, Printer.chars_append, list, chars_lineCommands]
  delta text
  simp [Printer.Command.output]

namespace Module

/-- A module is its heading and then the texts of its sections. -/
theorem text_performAll_commands (unit : String) (sections : List Section) :
    (Printer.empty.performAll (commands unit sections)).text =
      heading unit ++ String.join (sections.map Section.text) := by
  have body : Printer.chars (sections.flatMap Section.commands) =
      (String.join (sections.map Section.text)).toList := by
    induction sections with
    | nil => rfl
    | cons s sections ih =>
      rw [List.flatMap_cons, Printer.chars_append, ih, s.chars_commands, List.map_cons,
        String.join_cons, String.toList_append]
  apply String.toList_inj.mp
  rw [Printer.text_performAll, commands, Printer.chars_cons, Printer.chars_cons, body]
  simp [Printer.empty, Printer.Command.output, heading]

theorem print_eq_ok_iff {m : Module} {unit text : String} :
    (m.print unit).result = .ok text ↔ ∃ sections, m.sections.result = .ok sections ∧
      text = heading unit ++ String.join (sections.map Section.text) := by
  simp only [print_eq_bind, text_performAll_commands, Logged.result_bind_eq_ok_iff,
    Logged.result_pure, Except.ok.injEq]
  exact exists_congr fun _ ↦ and_congr_right fun _ ↦ eq_comm

/-- A module is written exactly if each of its declarations has a term. -/
theorem exists_print_iff (m : Module) (unit : String) :
    (∃ text, (m.print unit).result = .ok text) ↔ ∀ d ∈ m.entries, ∃ t, d.term.result = .ok t :=
  (stopsAt_print_of_terms (fun d _ ↦ d.stopsAt_failures) unit).exists_ok_iff_forall
    Decl.stopsAt_failures

/-! ## Modules that are filled by calls -/

/-- A call that adds to a module. -/
inductive Call where
  /-- A declaration is added, as a definition or not, with the flags that it was met under. -/
  | decl (isDefinition : Bool) (d : Decl) (flags : Flags)
  | assertion (a : StaticAssert)

namespace Call

/-- What a call inserts. -/
def insertion : Call → Insertion
  | .decl isDefinition d flags => .ofDecl isDefinition d flags
  | .assertion a => .assertion a

/-- The declarations that some calls add as definitions or not, inside of patterns or not. -/
def entries (isDefinition inTemplate : Bool) (calls : List Call) : List Decl :=
  calls.filterMap fun
    | .decl b d flags => if b = isDefinition ∧ flags.inTemplate = inTemplate then some d else none
    | .assertion _ => none

/-- The assertions that some calls add. -/
def assertions (calls : List Call) : List StaticAssert :=
  calls.filterMap fun
    | .decl _ _ _ => none
    | .assertion a => some a

end Call

/-- The module that some calls fill. -/
def ofCalls (calls : List Call) : Module := (calls.map Call.insertion).foldl insert .empty

theorem bucket_ofCalls (calls : List Call) (isDefinition inTemplate : Bool) :
    (ofCalls calls).bucket (.of isDefinition ⟨inTemplate, false⟩) =
      Call.entries isDefinition inTemplate calls := by
  have none_before : empty.bucket (.of isDefinition ⟨inTemplate, false⟩) = [] := by
    cases isDefinition <;> cases inTemplate <;> rfl
  rw [ofCalls, bucket_foldl_insert, none_before, List.nil_append, List.filterMap_map, Call.entries]
  congr 1
  funext call
  cases call with
  | decl b d flags =>
    simp [Call.insertion, Insertion.ofDecl, Insertion.decl?, Visit.bucket_of_eq_iff]
  | assertion a => rfl

theorem asserts_ofCalls (calls : List Call) : (ofCalls calls).asserts = Call.assertions calls := by
  rw [ofCalls, asserts_foldl_insert, List.filterMap_map]
  show [] ++ _ = _
  rw [List.nil_append, Call.assertions]
  congr 1
  funext call
  cases call <;> rfl

/-- What comes of writing a module that calls have filled with anything.  It is written exactly if
each of the declarations added has a term, and otherwise fails as the first that has none, looking
through declarations, definitions, and the two sequences for templates, each in the order of the
calls; that is never a failure of the translator itself.  The text is the heading with the name of
the unit and then the five sections, the assertions last, with the term of each entry in the order
of the calls. -/
theorem print_ofCalls (calls : List Call) (unit : String) :
    let outcome := ((ofCalls calls).print unit).result
    let written := Call.entries false false calls ++ Call.entries true false calls ++
      Call.entries false true calls ++ Call.entries true true calls
    ((∃ text, outcome = .ok text) ↔ ∀ d ∈ written, ∃ t, d.term.result = .ok t) ∧
    (∀ e, outcome = .error e ↔ ∃ before d after, written = before ++ d :: after ∧
      (∀ d' ∈ before, ∃ t, d'.term.result = .ok t) ∧ d.term.result = .error e) ∧
    (∀ message, outcome ≠ .error (.internal message)) ∧
    ∀ text, outcome = .ok text ↔
      ∃ declarations definitions templateDeclarations templateDefinitions,
        (Call.entries false false calls).map (·.term.result) = declarations.map .ok ∧
        (Call.entries true false calls).map (·.term.result) = definitions.map .ok ∧
        (Call.entries false true calls).map (·.term.result) = templateDeclarations.map .ok ∧
        (Call.entries true true calls).map (·.term.result) = templateDefinitions.map .ok ∧
        text = heading unit ++ String.join (List.map Section.text [
          ⟨"declarations", declarations⟩, ⟨"definitions", definitions⟩,
          ⟨"template_declarations", templateDeclarations⟩,
          ⟨"template_definitions", templateDefinitions⟩,
          ⟨"static_asserts", (Call.assertions calls).map StaticAssert.term⟩]) := by
  intro outcome written
  have declarations : (ofCalls calls).declarations = _ := bucket_ofCalls calls false false
  have definitions : (ofCalls calls).definitions = _ := bucket_ofCalls calls true false
  have templateDeclarations : (ofCalls calls).templateDeclarations = _ :=
    bucket_ofCalls calls false true
  have templateDefinitions : (ofCalls calls).templateDefinitions = _ :=
    bucket_ofCalls calls true true
  have stops : ((ofCalls calls).print unit).StopsAt (written.flatMap Decl.failures) := by
    have printed := stopsAt_print_of_terms (m := ofCalls calls) (fun d _ ↦ d.stopsAt_failures) unit
    rwa [entries, declarations, definitions, templateDeclarations, templateDefinitions] at printed
  have fails (e : Error) := stops.result_eq_error_iff Decl.stopsAt_failures (e := e)
  refine ⟨stops.exists_ok_iff_forall Decl.stopsAt_failures, fails, fun message failed ↦ ?_,
    fun text ↦ ?_⟩
  · obtain ⟨_, d, _, _, _, failed⟩ := (fails _).mp failed
    cases Decl.isUnsupported_of_term failed
  · rw [print_eq_ok_iff]
    simp only [sections_eq_ok_iff, Decl.terms_eq_ok_iff, declarations, definitions,
      templateDeclarations, templateDefinitions, asserts_ofCalls]
    constructor
    · rintro ⟨sections, ⟨ds, es, tds, tes, hd, he, htd, hte, rfl⟩, rfl⟩
      exact ⟨ds, es, tds, tes, hd, he, htd, hte, rfl⟩
    · rintro ⟨ds, es, tds, tes, hd, he, htd, hte, rfl⟩
      exact ⟨_, ⟨ds, es, tds, tes, hd, he, htd, hte, rfl⟩, rfl⟩

end Module

end Reify

import Reify.Proofs.Term.Proper

/-!
# Reading modules back

The written form of a module determines its five lists of terms.  The lists are laid out by hand,
one entry to a line, but they fall into the lexemes of a list term; and since all that stands
between them are words, the sections of a module can be read as one row of terms, some of which are
lists.  Nothing in a literal can end a list, or start a section, for the row is read from lexemes
and a literal is one of them.

The heading of a section ends in `:=`, which the reader of terms knows only from records.  Outside
of all brackets it is passed over here.
-/

namespace Reify

open Printer Lexeme

/-! ## Lexemes of a section -/

namespace Section

/-- The lexemes of a section: those of its heading, of the list of its terms, and a full stop. -/
def lexemes (s : Section) : List Lexeme :=
  [.leaf (.token "Definition"), .leaf (.token s.name), .leaf (.token ":"), .leaf (.token "list"),
    .leaf (.token "Decl"), .mark .assign] ++
    (((Term.list s.terms).commands false).flatMap Command.lexemes ++ [.leaf (.token ".")])

/-- A section that can be read back. -/
structure Proper (s : Section) : Prop where
  name : IsName s.name
  terms : ∀ t ∈ s.terms, t.Proper

/-- The first of some lines, and what follows it. -/
theorem chars_lineCommands_cons (t : Term) (ts : List Term) (rest : List Char) :
    chars (lineCommands (t :: ts)) ++ rest =
      chars (t.commands false) ++ (" ::\n   ".toList ++ (chars (lineCommands ts) ++ rest)) := by
  simp [lineCommands, chars, Command.output]

/-- The lines of a list fall into the lexemes of its items. -/
theorem lexemes_lineCommands {ts : List Term} (h : ∀ t ∈ ts, t.Proper) (rest : List Char) :
    Lexeme.lexemes (chars (lineCommands ts) ++ rest) =
      (Term.itemCommands ts).flatMap Command.lexemes ++ Lexeme.lexemes rest := by
  induction ts with
  | nil => rfl
  | cons t ts ih =>
    obtain ⟨ht, hts⟩ := List.forall_mem_cons.mp h
    have mark (cs : List Char) :
        Lexeme.lexemes (" ::\n   ".toList ++ cs) = Command.cons.lexemes ++ Lexeme.lexemes cs := rfl
    have ends (cs : List Char) : EndsWord (" ::\n   ".toList ++ cs) := .cons (by decide) _
    rw [chars_lineCommands_cons, Term.lexemes_commands t false ht.wellNamed (ends _), mark, ih hts,
      Term.itemCommands, List.flatMap_append, List.flatMap_cons, List.append_assoc,
      List.append_assoc]

/-- A section falls into its lexemes, whatever follows. -/
theorem lexemes_commands {s : Section} (h : s.Proper) (rest : List Char) :
    Lexeme.lexemes (chars s.commands ++ rest) = s.lexemes ++ Lexeme.lexemes rest := by
  have layout : chars s.commands ++ rest =
      "\nDefinition ".toList ++ (s.name.toList ++ (" : list Decl :=\n  (".toList ++
        (chars (lineCommands s.terms) ++ ("nil).\n".toList ++ rest)))) := by
    simp [commands, listCommands, chars, Command.output]
  have definition (cs : List Char) : Lexeme.lexemes ("\nDefinition ".toList ++ cs) =
      [.leaf (.token "Definition")] ++ Lexeme.lexemes cs := rfl
  have type (cs : List Char) : Lexeme.lexemes (" : list Decl :=\n  (".toList ++ cs) =
      [.leaf (.token ":"), .leaf (.token "list"), .leaf (.token "Decl"), .mark .assign,
        .mark .openBracket] ++ Lexeme.lexemes cs := rfl
  have close (cs : List Char) : Lexeme.lexemes ("nil).\n".toList ++ cs) =
      [.mark .nil, .mark .closeBracket, .leaf (.token ".")] ++ Lexeme.lexemes cs := rfl
  have ends (cs : List Char) : EndsWord (" : list Decl :=\n  (".toList ++ cs) := .cons (by decide) _
  rw [layout, definition, lexemes_name h.name (ends _), type, lexemes_lineCommands h.terms, close]
  simp [lexemes, Term.commands, Command.lexemes]

end Section

/-! ## Reading a row of sections -/

/-- The items of a list. -/
def Term.items? : Term → Option (List Term)
  | .list items => some items
  | _ => none

namespace Reader

/-- One lexeme of a module. Outside of all brackets an assignment only ends a heading. -/
def stepModule (r : Reader) (l : Lexeme) : Option Reader :=
  match l, r.frames with
  | .mark .assign, [] => some r
  | l, _ => r.step l

/-- The lists in a row, in the order of the text. -/
def lists (row : List Term) : List (List Term) := (row.filterMap Term.items?).reverse

/-- The reader of terms refuses the one lexeme that the two readers take differently. -/
theorem stepModule_of_step {r q : Reader} {l : Lexeme} (h : r.step l = some q) :
    r.stepModule l = some q := by
  unfold stepModule
  split
  · rename_i outside
    rw [step, outside] at h
    cases h
  · exact h

theorem foldlM_stepModule {ls : List Lexeme} {r q : Reader} (h : ls.foldlM step r = some q) :
    ls.foldlM stepModule r = some q := by
  induction ls generalizing r with
  | nil => exact h
  | cons l ls ih =>
    rw [List.foldlM_cons] at h ⊢
    obtain ⟨next, first, others⟩ := Option.bind_eq_some_iff.mp h
    exact Option.bind_eq_some_iff.mpr ⟨next, stepModule_of_step first, ih others⟩

/-- A section adds its list to the row, between words. -/
theorem foldlM_section {s : Section} (h : s.Proper) (row : List Term) :
    s.lexemes.foldlM stepModule ⟨row, []⟩ =
      some ⟨.token "." :: .list s.terms :: .token "Decl" :: .token "list" :: .token ":" ::
        .token s.name :: .token "Definition" :: row, []⟩ := by
  have list (outer : List Term) :
      (((Term.list s.terms).commands false).flatMap Command.lexemes).foldlM stepModule
        ⟨outer, []⟩ = some ⟨.list s.terms :: outer, []⟩ := by
    have row : (Term.list s.terms).row false = [.list s.terms] :=
      congrArg (fun ts ↦ [Term.list ts]) (Term.canonicalAll_eq_self h.terms)
    have read := Term.follow_commands (.list s.terms) false outer []
    rw [row] at read
    exact foldlM_stepModule read
  rw [Section.lexemes, List.foldlM_append]
  change List.foldlM stepModule ⟨.token "Decl" :: .token "list" :: .token ":" :: .token s.name ::
    .token "Definition" :: row, []⟩ _ = _
  rw [List.foldlM_append, list]
  rfl

/-- The lists of some sections are found in the row that they leave. -/
theorem lists_foldlM_sections {sections : List Section} (h : ∀ s ∈ sections, s.Proper)
    (row : List Term) :
    ((sections.flatMap Section.lexemes).foldlM stepModule ⟨row, []⟩).map (fun r ↦ lists r.row) =
      some (lists row ++ sections.map Section.terms) := by
  induction sections generalizing row with
  | nil => simp
  | cons s sections ih =>
    obtain ⟨hs, hss⟩ := List.forall_mem_cons.mp h
    have found (ts : List Term) : lists (.token "." :: .list ts :: .token "Decl" ::
        .token "list" :: .token ":" :: .token s.name :: .token "Definition" :: row) =
          lists row ++ [ts] := List.reverse_cons
    rw [List.flatMap_cons, List.foldlM_append, foldlM_section hs]
    refine (ih hss _).trans ?_
    rw [found, List.append_assoc, List.singleton_append, List.map_cons]

end Reader

namespace Module

/-- The first line of a module. -/
def heading (unit : String) : String := "(* cpp2v: " ++ unit ++ " *)\n"

/-- The lists of terms that a text writes, as the text of a module for the given unit. -/
def read? (unit text : String) : Option (List (List Term)) :=
  ((Lexeme.lexemes (text.toList.drop (heading unit).toList.length)).foldlM
    Reader.stepModule .start).map fun r ↦ Reader.lists r.row

theorem lexemes_sections {sections : List Section} (h : ∀ s ∈ sections, s.Proper) :
    Lexeme.lexemes (chars (sections.flatMap Section.commands)) =
      sections.flatMap Section.lexemes := by
  induction sections with
  | nil => rfl
  | cons s sections ih =>
    obtain ⟨hs, hss⟩ := List.forall_mem_cons.mp h
    rw [List.flatMap_cons, List.flatMap_cons, chars_append, Section.lexemes_commands hs, ih hss]

/-- The lists of a module are read back from its text. -/
theorem read?_performAll {sections : List Section} (h : ∀ s ∈ sections, s.Proper) (unit : String) :
    read? unit (Printer.empty.performAll (commands unit sections)).text =
      some (sections.map Section.terms) := by
  have text : (Printer.empty.performAll (commands unit sections)).text.toList =
      (heading unit).toList ++ chars (sections.flatMap Section.commands) := by
    rw [text_performAll, Printer.empty]
    simp [commands, heading, Command.output]
  rw [read?, text, List.drop_left, lexemes_sections h]
  exact Reader.lists_foldlM_sections h []

/-! ## What a module is written from -/

/-- A module has sections exactly if all of its declarations have terms. -/
theorem sections_eq_ok_iff {m : Module} {sections : List Section} :
    m.sections.result = .ok sections ↔
      ∃ declarations definitions templateDeclarations templateDefinitions,
        (Decl.terms m.declarations).result = .ok declarations ∧
        (Decl.terms m.definitions).result = .ok definitions ∧
        (Decl.terms m.templateDeclarations).result = .ok templateDeclarations ∧
        (Decl.terms m.templateDefinitions).result = .ok templateDefinitions ∧
        sections = [⟨"declarations", declarations⟩, ⟨"definitions", definitions⟩,
          ⟨"template_declarations", templateDeclarations⟩,
          ⟨"template_definitions", templateDefinitions⟩,
          ⟨"static_asserts", m.asserts.map StaticAssert.term⟩] := by
  simp only [Module.sections, Logged.result_bind_eq_ok_iff, Logged.result_pure, Except.ok.injEq]
  constructor
  · rintro ⟨ds, hd, es, he, tds, htd, tes, hte, same⟩
    exact ⟨ds, es, tds, tes, hd, he, htd, hte, same.symm⟩
  · rintro ⟨ds, es, tds, tes, hd, he, htd, hte, same⟩
    exact ⟨ds, hd, es, he, tds, htd, tes, hte, same.symm⟩

/-- All sections of a module are proper. -/
theorem proper_of_sections {m : Module} {sections : List Section}
    (h : m.sections.result = .ok sections) : ∀ s ∈ sections, s.Proper := by
  obtain ⟨declarations, definitions, templateDeclarations, templateDefinitions, hd, he, htd, hte,
    rfl⟩ := sections_eq_ok_iff.mp h
  have asserts : ∀ t ∈ m.asserts.map StaticAssert.term, t.Proper :=
    List.forall_mem_map.mpr fun a _ ↦ a.proper_term
  have names : IsName "declarations" ∧ IsName "definitions" ∧ IsName "template_declarations" ∧
      IsName "template_definitions" ∧ IsName "static_asserts" := by decide
  simp only [List.forall_mem_cons]
  exact ⟨⟨names.1, Decl.proper_terms _ _ hd⟩, ⟨names.2.1, Decl.proper_terms _ _ he⟩,
    ⟨names.2.2.1, Decl.proper_terms _ _ htd⟩, ⟨names.2.2.2.1, Decl.proper_terms _ _ hte⟩,
    ⟨names.2.2.2.2, asserts⟩, fun _ none ↦ absurd none List.not_mem_nil⟩

/-- The text of a module is that of its sections. -/
theorem exists_sections_of_print {m : Module} {unit text : String}
    (h : (m.print unit).result = .ok text) :
    ∃ sections, m.sections.result = .ok sections ∧
      text = (Printer.empty.performAll (commands unit sections)).text := by
  obtain ⟨sections, hs, h⟩ := Logged.result_bind_eq_ok_iff.mp h
  refine ⟨sections, hs, ?_⟩
  dsimp only at h
  split at h
  · cases h
    rfl
  · cases h

/-- The written form of a module determines it.  Under one name of a unit, two modules have the same
text exactly if, section by section, they have the same terms: no name, message or spelling can make
one module look like another, move an entry to another section, or add or hide one. -/
theorem print_eq_print_iff {m m' : Module} {unit text text' : String}
    (h : (m.print unit).result = .ok text) (h' : (m'.print unit).result = .ok text') :
    text = text' ↔
      (Decl.terms m.declarations).result = (Decl.terms m'.declarations).result ∧
      (Decl.terms m.definitions).result = (Decl.terms m'.definitions).result ∧
      (Decl.terms m.templateDeclarations).result = (Decl.terms m'.templateDeclarations).result ∧
      (Decl.terms m.templateDefinitions).result = (Decl.terms m'.templateDefinitions).result ∧
      m.asserts.map StaticAssert.term = m'.asserts.map StaticAssert.term := by
  obtain ⟨sections, hs, rfl⟩ := exists_sections_of_print h
  obtain ⟨sections', hs', rfl⟩ := exists_sections_of_print h'
  have read := read?_performAll (proper_of_sections hs) unit
  have read' := read?_performAll (proper_of_sections hs') unit
  obtain ⟨ds, es, tds, tes, hd, he, htd, hte, rfl⟩ := sections_eq_ok_iff.mp hs
  obtain ⟨ds', es', tds', tes', hd', he', htd', hte', rfl⟩ := sections_eq_ok_iff.mp hs'
  rw [hd, he, htd, hte, hd', he', htd', hte']
  constructor
  · intro same
    rw [same, read'] at read
    simpa [eq_comm] using read
  · rintro ⟨hds, hes, htds, htes, has⟩
    cases hds
    cases hes
    cases htds
    cases htes
    rw [has]

/-- A name may spell the end of its own entry and the start of another; it stays one name. -/
theorem print_eq_print_iff_quotes :
    let forged : Module :=
      ⟨[.record ⟨1, "", "", some "A\" ::\n   Dstruct \"B", none, none⟩ .ofStruct false []],
        [], [], [], []⟩
    let plain : Module :=
      ⟨[.record ⟨1, "", "", some "A", none, none⟩ .ofStruct false [],
        .record ⟨2, "", "", some "B", none, none⟩ .ofStruct false []], [], [], [], []⟩
    ∃ text text', (forged.print "u.cpp").result = .ok text ∧
      (plain.print "u.cpp").result = .ok text' ∧ text ≠ text' := by
  intro forged plain
  refine ⟨_, _, rfl, rfl, ?_⟩
  intro same
  obtain ⟨declarations, -⟩ := (@print_eq_print_iff forged plain "u.cpp" _ _ rfl rfl).mp same
  injection declarations with declarations
  injection declarations with _ rest
  cases rest

end Module

end Reify

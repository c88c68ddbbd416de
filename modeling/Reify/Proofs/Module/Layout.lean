import Reify.Proofs.Module.Outcome
import Reify.Proofs.Text.Spacing

/-!
# The layout of a section

A section lays its list out by hand, one entry to a line, where a list term has all of its items on
one line.  The two differ in nothing but white space between words: their string literals are the
same, whatever these hold, and collapsed to single spaces the two texts are equal.

That no literal with quotes, blanks or a `::` in it upsets this is due to the commands that write
terms.  Those that write no literal write no quote, and a literal is never followed by another, so
that each literal is one part of the text (`Command.parts_output`).
-/

namespace Reify

/-! ## The strings of a term -/

namespace Term

mutual

/-- The strings in a term, from left to right. -/
def strings : Term → List String
  | .ctor _ args => stringsAll args
  | .list items => stringsAll items
  | .record fields => stringsFields fields
  | .str s => [s]
  | .int _ | .bool _ | .token _ => []

/-- The strings in a list of terms. -/
def stringsAll : List Term → List String
  | [] => []
  | t :: ts => t.strings ++ stringsAll ts

/-- The strings in the fields of a record. -/
def stringsFields : List (String × Term) → List String
  | [] => []
  | (_, t) :: fields => t.strings ++ stringsFields fields

end

end Term

/-! ## The parts of what is written -/

open Lexeme Printer Text

/-- A name holds no quote. -/
theorem IsName.quote_not_mem {s : String} (h : IsName s) : '"' ∉ s.toList :=
  fun quote ↦ absurd (h.chars _ quote) (by decide)

namespace Printer

/-- What is written for a string between the quotes of its literal. -/
def written (s : String) : String := String.ofList (literalChars s.toList)

/-- A literal is one part of the text: it ends at the first quote that is not written twice. -/
theorem literalParts_literalChars (cs rest : List Char) (hr : rest.head? ≠ some '"')
    (before : List Char) :
    literalParts before (literalChars cs ++ '"' :: rest) =
      .literal (before.reverse ++ literalChars cs) :: parts rest := by
  induction cs generalizing before with
  | nil =>
    cases rest with
    | nil => simp [literalChars, literalParts]
    | cons d rest =>
      have hd : d ≠ '"' := by simpa using hr
      simp [literalChars, literalParts, hd]
  | cons c cs ih =>
    rw [literalChars_cons]
    by_cases hc : c = '"'
    · subst hc
      simpa [literalParts] using ih ('"' :: '"' :: before)
    · simpa [literalParts, hc] using ih (c :: before)

namespace Command

/-- The string that a command writes as a literal. -/
def string? : Command → Option String
  | .str s => some s
  | .ctor _ _ | .endCtor | .beginList | .cons | .endList | .beginRecord | .field _ | .separator
  | .endRecord | .int _ | .bool _ | .text _ | .space | .newline => none

/-- The parts that a command writes: a literal, or single characters. -/
def parts (c : Command) : List Part :=
  match c.string? with
  | some s => [.literal (literalChars s.toList)]
  | none => c.output.toList.map .plain

/-- A command that writes no literal writes no quote. -/
theorem quote_not_mem_output {c : Command} (h : c.WellNamed) (hc : c.string? = none) :
    '"' ∉ c.output.toList := by
  cases c with
  | ctor name paren =>
    have named := IsName.quote_not_mem h
    cases paren <;> simpa [output] using named
  | field name => simpa [output] using IsName.quote_not_mem h
  | text name => exact IsName.quote_not_mem h
  | str s => cases hc
  | int n =>
    intro quote
    have digits : (toString n).toList = Nat.toDigits 10 n.toNat := Nat.toList_repr
    rw [output, digits] at quote
    exact absurd (Nat.isDigit_of_mem_toDigits (by decide) (by decide) quote) (by decide)
  | bool b => cases b <;> decide
  | endCtor | beginList | cons | endList | beginRecord | separator | endRecord | space | newline =>
    decide

/-- A command writes its parts. -/
theorem parts_output : Reads Text.parts parts := by
  intro c h rest hr
  have plain (hc : c.string? = none) :
      Text.parts (c.output.toList ++ rest) = c.parts ++ Text.parts rest := by
    rw [parts, hc]
    exact parts_append (quote_not_mem_output h hc) rest
  cases c with
  | str s =>
    have literal := literalParts_literalChars s.toList rest (hr rfl).head?_ne_quote []
    simpa [parts, string?, output, Printer.literal, Text.parts] using literal
  | _ => exact plain rfl

/-- The literals that commands write are those of their strings. -/
theorem literals_parts (cs : List Command) :
    (cs.flatMap parts).filterMap Part.literal? = (cs.filterMap string?).map written := by
  have plain (cs : List Char) : (cs.map Part.plain).filterMap Part.literal? = [] :=
    List.filterMap_eq_nil_iff.mpr fun p hp ↦ by
      obtain ⟨c, -, rfl⟩ := List.mem_map.mp hp
      rfl
  induction cs with
  | nil => rfl
  | cons c cs ih =>
    rw [List.flatMap_cons, List.filterMap_append, ih, parts, List.filterMap_cons]
    cases c.string? with
    | none => rw [plain, List.nil_append]
    | some s => rfl

end Command

end Printer

namespace Term

mutual

/-- The literals of a term are its strings, in their order. -/
theorem strings_commands (t : Term) (isArg : Bool) :
    (t.commands isArg).filterMap Command.string? = t.strings := by
  cases t with
  | ctor name args =>
    cases args with
    | nil => rfl
    | cons t ts =>
      have args := strings_argCommands (t :: ts)
      rw [commands, List.isEmpty_cons, if_neg Bool.false_ne_true, strings, ← args]
      cases isArg <;> simp [List.filterMap_cons, Command.string?]
  | list items =>
    have items := strings_itemCommands items
    simpa [commands, strings, List.filterMap_cons, Command.string?] using items
  | record fields =>
    have fields := strings_fieldCommands fields true
    simpa [commands, strings, List.filterMap_cons, Command.string?] using fields
  | str s => rfl
  | int n => rfl
  | bool b => rfl
  | token name => rfl

theorem strings_argCommands (ts : List Term) :
    (argCommands ts).filterMap Command.string? = stringsAll ts := by
  cases ts with
  | nil => rfl
  | cons t ts =>
    simp [argCommands, stringsAll, List.filterMap_cons, Command.string?, strings_commands t,
      strings_argCommands ts]

theorem strings_itemCommands (ts : List Term) :
    (itemCommands ts).filterMap Command.string? = stringsAll ts := by
  cases ts with
  | nil => rfl
  | cons t ts =>
    simp [itemCommands, stringsAll, List.filterMap_cons, Command.string?, strings_commands t,
      strings_itemCommands ts]

theorem strings_fieldCommands (fields : List (String × Term)) (isFirst : Bool) :
    (fieldCommands isFirst fields).filterMap Command.string? = stringsFields fields := by
  match fields with
  | [] => rfl
  | (name, t) :: fields =>
    cases isFirst <;> simp [fieldCommands, stringsFields, List.filterMap_cons, Command.string?,
      strings_commands t, strings_fieldCommands fields]

end

/-- The literals in the text of a term are those of its strings. -/
theorem literals_text {t : Term} (h : t.WellNamed) : literals t.text = t.strings.map written := by
  have read := read_commands Command.parts_output t false h .nil
  rw [List.append_nil] at read
  rw [literals, toList_text, read]
  simpa [parts, strings_commands t] using Command.literals_parts (t.commands false)

/-- Texts that are spaced alike still are so behind a term. -/
theorem squeeze_commands_congr {t : Term} (h : t.WellNamed) {cs ds : List Char} (hcs : EndsWord cs)
    (hds : EndsWord ds)
    (same : ∀ afterBlank, squeeze afterBlank (parts cs) = squeeze afterBlank (parts ds))
    (afterBlank : Bool) :
    squeeze afterBlank (parts (chars (t.commands false) ++ cs)) =
      squeeze afterBlank (parts (chars (t.commands false) ++ ds)) := by
  rw [read_commands Command.parts_output t false h hcs,
    read_commands Command.parts_output t false h hds]
  exact squeeze_append_congr same _ afterBlank

/-- The text of a list. -/
theorem toList_text_list (ts : List Term) :
    (Term.list ts).text.toList = '(' :: (chars (itemCommands ts) ++ "nil)".toList) := by
  rw [toList_text, commands, chars_cons, chars_append]
  rfl

end Term

/-! ## Two layouts of one list -/

namespace Section

/-- What a section writes for its list. -/
def body (s : Section) : String := (Printer.empty.performAll (listCommands s.terms)).text

theorem toList_body (s : Section) :
    s.body.toList = "  (".toList ++ (chars (lineCommands s.terms) ++ "nil)".toList) := by
  rw [body, text_performAll, listCommands, chars_cons, chars_cons, chars_append,
    String.toList_append, String.toList_ofList]
  rfl

/-- The line that opens a section. -/
def title (s : Section) : String := "\nDefinition " ++ s.name ++ " : list Decl :=\n"

/-- A section is its title, its body and a full stop. -/
theorem text_eq_body (s : Section) : s.text = s.title ++ s.body ++ ".\n" := by
  have opening :
      " : list Decl :=\n  (".toList = " : list Decl :=\n".toList ++ "  (".toList := rfl
  have closing : "nil).\n".toList = "nil)".toList ++ ".\n".toList := rfl
  apply String.toList_inj.mp
  delta text title
  simp only [String.toList_append, toList_body, chars_lineCommands, opening, closing,
    List.append_assoc]

/-- The mark behind a line is, but for white space, the mark behind an item: one space stands for
all blanks on either side of it. -/
theorem squeeze_mark {cs ds : List Char} (same : squeeze true (parts cs) = squeeze true (parts ds))
    (afterBlank : Bool) :
    squeeze afterBlank (parts (" ::\n   ".toList ++ cs)) =
      squeeze afterBlank (parts (" :: ".toList ++ ds)) := by
  have line : squeeze afterBlank (parts (" ::\n   ".toList ++ cs)) =
      squeeze afterBlank ([' ', ':', ':', ' '].map .plain) ++ squeeze true (parts cs) := by
    cases afterBlank <;> rfl
  have item : squeeze afterBlank (parts (" :: ".toList ++ ds)) =
      squeeze afterBlank ([' ', ':', ':', ' '].map .plain) ++ squeeze true (parts ds) := by
    cases afterBlank <;> rfl
  rw [line, item, same]

/-- But for white space, lines are written as items are. -/
theorem squeeze_lineCommands {ts : List Term} (h : ∀ t ∈ ts, t.Proper) (rest : List Char)
    (afterBlank : Bool) :
    squeeze afterBlank (parts (chars (lineCommands ts) ++ rest)) =
      squeeze afterBlank (parts (chars (Term.itemCommands ts) ++ rest)) := by
  induction ts generalizing afterBlank with
  | nil => rfl
  | cons t ts ih =>
    obtain ⟨ht, hts⟩ := List.forall_mem_cons.mp h
    have item : chars (Term.itemCommands (t :: ts)) ++ rest =
        chars (t.commands false) ++ (" :: ".toList ++ (chars (Term.itemCommands ts) ++ rest)) := by
      simp [Term.itemCommands, chars, Command.output]
    have lineEnds (cs : List Char) : EndsWord (" ::\n   ".toList ++ cs) := .cons (by decide) _
    have itemEnds (cs : List Char) : EndsWord (" :: ".toList ++ cs) := .cons (by decide) _
    rw [chars_lineCommands_cons, item]
    refine Term.squeeze_commands_congr ht.wellNamed (lineEnds _) (itemEnds _) ?_ afterBlank
    exact squeeze_mark (ih hts true)

/-- But for white space, a section writes its list as the list term of the same terms is written. -/
theorem squeeze_body {s : Section} (h : ∀ t ∈ s.terms, t.Proper) :
    squeeze true (parts s.body.toList) =
      squeeze true (parts (Term.list s.terms).text.toList) := by
  have indented (cs : List Char) :
      squeeze true (parts ("  (".toList ++ cs)) = .plain '(' :: squeeze false (parts cs) := rfl
  have flat (cs : List Char) :
      squeeze true (parts ('(' :: cs)) = .plain '(' :: squeeze false (parts cs) := rfl
  rw [toList_body, Term.toList_text_list, indented, flat, squeeze_lineCommands h]

/-- A section writes its list in the lexemes of the list term. -/
theorem lexemes_body {s : Section} (h : ∀ t ∈ s.terms, t.Proper) :
    Lexeme.lexemes s.body.toList = Lexeme.lexemes (Term.list s.terms).text.toList := by
  have items := Term.read_itemCommands Command.lexemes_output s.terms (Term.namesAll_wellNamed h)
  have indented (cs : List Char) :
      Lexeme.lexemes ("  (".toList ++ cs) = .mark .openBracket :: Lexeme.lexemes cs := rfl
  have flat (cs : List Char) :
      Lexeme.lexemes ('(' :: cs) = .mark .openBracket :: Lexeme.lexemes cs := rfl
  rw [toList_body, Term.toList_text_list, indented, flat, lexemes_lineCommands h, items]

end Section

namespace Module

/-- How a module lays out its lists.  Its text is the heading and then, for each section, a title, a
body and a full stop.  The body says what the list term of the same terms says: with one space for
each run of white space outside of string literals, and none at the start, the two texts are equal;
their literals hold the strings of the terms, with nothing changed but quotes that are doubled; and
the body is read as that list. -/
theorem print_lays_out_lists {m : Module} {unit text : String}
    (printed : (m.print unit).result = .ok text) :
    ∃ sections, m.sections.result = .ok sections ∧
      text = heading unit ++ String.join (sections.map fun s ↦ s.title ++ s.body ++ ".\n") ∧
      ∀ s ∈ sections,
        let list := Term.list s.terms
        collapse s.body = collapse list.text ∧
          literals s.body = list.strings.map written ∧
          literals list.text = list.strings.map written ∧
          Term.read? s.body = some list := by
  obtain ⟨sections, hs, rfl⟩ := print_eq_ok_iff.mp printed
  refine ⟨sections, hs, ?_, fun s mem ↦ ?_⟩
  · have texts : Section.text = fun s ↦ s.title ++ s.body ++ ".\n" := funext Section.text_eq_body
    rw [texts]
  · intro list
    have terms := (proper_of_sections hs s mem).terms
    have proper : list.Proper := .list terms
    have spaced := Section.squeeze_body terms
    have contents := Term.literals_text proper.wellNamed
    refine ⟨?_, ?_, contents, ?_⟩
    · rw [collapse, collapse, spaced]
    · rw [← contents, literals, literals, ← literals_squeeze true, spaced, literals_squeeze]
    · have read := Term.read?_emit proper.wellNamed false
      rw [proper.canonical] at read
      rw [Term.read?, Section.lexemes_body terms]
      exact read

/-- Line ends, runs of blanks, quotes and marks in a name and in a message are part of literals. -/
theorem print_lays_out_lists_quotes :
    let name := "A  \"\" ::\n   nil)"
    let m : Module := ⟨[.record ⟨1, "", "", some name, none, none⟩ .ofStruct false [],
      .record ⟨2, "", "", some "B", none, none⟩ .ofUnion false []], [], [], [],
      [⟨some "\t \"", none⟩]⟩
    let s : Section := ⟨"declarations", [.ctor "Dstruct" [.str name], .ctor "Dunion" [.str "B"]]⟩
    ∃ text, (m.print "u.cpp").result = .ok text ∧
      s.body = "  (Dstruct \"A  \"\"\"\" ::\n   nil)\" ::\n   Dunion \"B\" ::\n   nil)" ∧
      collapse s.body = collapse (Term.list s.terms).text ∧
      literals s.body = ["A  \"\"\"\" ::\n   nil)", "B"] := by
  intro name m s
  have printed : (m.print "u.cpp").result = .ok _ := rfl
  obtain ⟨sections, hs, -, same⟩ := print_lays_out_lists printed
  have first : s ∈ sections := by
    have known : m.sections.result = .ok (s :: _) := rfl
    cases known.symm.trans hs
    exact List.mem_cons_self
  obtain ⟨collapsed, contents, -, -⟩ := same s first
  have body :
      s.body = "  (Dstruct \"A  \"\"\"\" ::\n   nil)\" ::\n   Dunion \"B\" ::\n   nil)" := by
    decide
  have strings : (Term.list s.terms).strings.map written = ["A  \"\"\"\" ::\n   nil)", "B"] := by
    decide
  exact ⟨_, printed, body, collapsed, contents.trans strings⟩

end Module

end Reify

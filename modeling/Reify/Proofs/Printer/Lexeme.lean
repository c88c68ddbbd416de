import Reify.Term

/-!
# Lexemes of printed text

A printed text falls into lexemes.  A string literal is one lexeme, and so are each bracket and each
semicolon; between these, a word is a maximal run of characters other than blanks.  What a word
stands for is decided where it ends, so the braces of a record and the `::` of a list are words too.

The main statement is `lexemes_output`: a command writes its lexemes whatever follows, as long as
what follows ends the word that the command may have left open.
-/

namespace Reify

/-- What a row of commands writes. -/
def Printer.chars (cs : List Printer.Command) : List Char := cs.flatMap (·.output.toList)

namespace Printer

@[simp] theorem chars_nil : chars [] = [] := rfl

@[simp] theorem chars_cons (c : Command) (cs : List Command) :
    chars (c :: cs) = c.output.toList ++ chars cs := rfl

@[simp] theorem chars_append (cs ds : List Command) : chars (cs ++ ds) = chars cs ++ chars ds :=
  List.flatMap_append

theorem literalChars_cons (c : Char) (cs : List Char) :
    literalChars (c :: cs) = (if c = '"' then ['"', '"'] else [c]) ++ literalChars cs :=
  List.flatMap_cons

/-- A printer only ever appends: what it writes does not depend on its state. -/
theorem text_performAll (p : Printer) (cs : List Command) :
    (p.performAll cs).text = p.text ++ String.ofList (chars cs) := by
  induction cs generalizing p with
  | nil => simp [performAll]
  | cons c cs ih =>
    have step : p.performAll (c :: cs) = (p.perform c).performAll cs := rfl
    rw [step, ih, perform, chars_cons, String.ofList_append, String.ofList_toList,
      String.append_assoc]

end Printer

/-! ## Names -/

/-- A character of a name: a letter of any script, a digit, `_` or `@`.  Every character beyond
ASCII is let in, so no letter is missing. -/
def isNameChar (c : Char) : Bool := c.isAlphanum || c == '_' || c == '@' || 128 ≤ c.toNat

/-- A name of a constructor, of a token or of a field. -/
structure IsName (s : String) : Prop where
  chars : ∀ c ∈ s.toList, isNameChar c
  /-- A name is not empty, and its first character is no digit. -/
  start : ∃ c ∈ s.toList.head?, ¬c.isDigit
  notReserved : s ∉ ["nil", "true", "false"]

/-- A name is recognized by going through its characters. -/
theorem isName_iff {s : String} :
    IsName s ↔ s.toList.all isNameChar ∧ s.toList.head?.any (!·.isDigit) ∧
      s ∉ ["nil", "true", "false"] := by
  have start : s.toList.head?.any (!·.isDigit) ↔ ∃ c ∈ s.toList.head?, ¬c.isDigit := by
    cases s.toList.head? with
    | none => simp
    | some c => simp
  rw [start, List.all_eq_true]
  constructor
  · rintro ⟨chars, start, notReserved⟩
    exact ⟨chars, start, notReserved⟩
  · rintro ⟨chars, start, notReserved⟩
    exact ⟨chars, start, notReserved⟩

instance (s : String) : Decidable (IsName s) := decidable_of_iff' _ isName_iff

/-! ## The lexer -/

/-- Punctuation of the term language. -/
inductive Lexeme.Mark where
  | openBracket
  | closeBracket
  | cons
  | nil
  | openRecord
  | closeRecord
  | assign
  | semicolon
deriving DecidableEq, Repr

/-- A lexeme: a mark, or a term that is written in one piece. -/
inductive Lexeme where
  | mark (m : Lexeme.Mark)
  | leaf (t : Term)
  /-- A string literal that the text ends in. -/
  | unclosed

namespace Lexeme

/-- The blanks between lexemes. -/
def isBlank (c : Char) : Bool := c == ' ' || c == '\n'

/-- The mark that a character writes on its own. -/
def mark? : Char → Option Mark
  | '(' => some .openBracket
  | ')' => some .closeBracket
  | ';' => some .semicolon
  | _ => none

/-- The words with a meaning of their own. -/
def fixedWords : List (String × Lexeme) :=
  [("::", .mark .cons), ("nil", .mark .nil), ("\x7b|", .mark .openRecord),
    ("|\x7d", .mark .closeRecord), (":=", .mark .assign), ("true", .leaf (.bool true)),
    ("false", .leaf (.bool false))]

/-- What a word stands for: itself, unless it is fixed or a number. -/
def ofWord (w : List Char) : Lexeme :=
  (fixedWords.lookup (String.ofList w)).getD
    (.leaf (if w.all Char.isDigit then .int (UInt64.ofNat (Nat.ofDigitChars 10 w 0))
      else .token (String.ofList w)))

/-- The lexeme of a word that has ended, its last character first. Between lexemes there is none. -/
def endWord (w : List Char) : List Lexeme := if w.isEmpty then [] else [ofWord w.reverse]

mutual

/-- The lexemes of a text behind the characters `w` of a word, its last one first. -/
def lexemesFrom (w : List Char) : List Char → List Lexeme
  | [] => endWord w
  | c :: cs =>
    if isBlank c then endWord w ++ lexemesFrom [] cs
    else if c = '"' then endWord w ++ literalFrom [] cs
    else match mark? c with
      | some m => endWord w ++ .mark m :: lexemesFrom [] cs
      | none => lexemesFrom (c :: w) cs

/-- The lexemes of a text behind the characters `s` of a string literal, its last one first. -/
def literalFrom (s : List Char) : List Char → List Lexeme
  | [] => [.unclosed]
  | '"' :: '"' :: cs => literalFrom ('"' :: s) cs
  | '"' :: cs => .leaf (.str (String.ofList s.reverse)) :: lexemesFrom [] cs
  | c :: cs => literalFrom (c :: s) cs

end

/-- The lexemes of a text. -/
def lexemes (cs : List Char) : List Lexeme := lexemesFrom [] cs

end Lexeme


/-! ## Reading what was written

One lemma for each command, under the condition that the text behind it ends a word where the
command does not do so itself. -/

namespace Lexeme

/-- A character that belongs to the word it is found in. -/
def isWordChar (c : Char) : Bool := !isBlank c && c != '"' && (mark? c).isNone

/-- A text that starts by ending the word in front of it. -/
def EndsWord (rest : List Char) : Prop := ∀ c ∈ rest.head?, isBlank c ∨ (mark? c).isSome

theorem EndsWord.nil : EndsWord [] := by
  intro c hc
  cases hc

theorem EndsWord.cons {c : Char} (h : isBlank c ∨ (mark? c).isSome) (rest : List Char) :
    EndsWord (c :: rest) := by
  intro d hd
  cases hd
  exact h

/-- A quote ends no word, so a literal is not prolonged by what ends it. -/
theorem EndsWord.head?_ne_quote {rest : List Char} (h : EndsWord rest) : rest.head? ≠ some '"' :=
  fun quote ↦ absurd (h '"' quote) (by decide)

/-- A blank is no mark, so a word in front of either has ended. -/
theorem lexemesFrom_of_endsWord {rest : List Char} (h : EndsWord rest) (w : List Char) :
    lexemesFrom w rest = endWord w ++ lexemes rest := by
  cases rest with
  | nil => simp [lexemes, lexemesFrom, endWord]
  | cons c cs =>
    rcases h c rfl with hb | hm
    · simp [lexemes, lexemesFrom, hb, endWord]
    · obtain ⟨m, hm⟩ := Option.isSome_iff_exists.mp hm
      have hq : c ≠ '"' := by
        rintro rfl
        cases hm
      by_cases hb : isBlank c
      · simp [lexemes, lexemesFrom, hb, endWord]
      · simp [lexemes, lexemesFrom, hb, hq, hm, endWord]

/-- The characters of a word are collected until something ends it. -/
theorem lexemesFrom_append {w rest : List Char} (hw : ∀ c ∈ w, isWordChar c)
    (hr : EndsWord rest) (before : List Char) :
    lexemesFrom before (w ++ rest) = endWord (w.reverse ++ before) ++ lexemes rest := by
  induction w generalizing before with
  | nil => exact lexemesFrom_of_endsWord hr before
  | cons c w ih =>
    obtain ⟨⟨hb, hq⟩, hm⟩ : (isBlank c = false ∧ c ≠ '"') ∧ mark? c = none := by
      simpa [isWordChar] using hw c List.mem_cons_self
    have step : lexemesFrom before (c :: (w ++ rest)) = lexemesFrom (c :: before) (w ++ rest) := by
      simp [lexemesFrom, hb, hq, hm]
    rw [List.cons_append, step, ih (fun d hd ↦ hw d (List.mem_cons_of_mem c hd))]
    simp

theorem lexemes_word {w rest : List Char} (hne : w ≠ []) (hw : ∀ c ∈ w, isWordChar c)
    (hr : EndsWord rest) : lexemes (w ++ rest) = ofWord w :: lexemes rest := by
  rw [lexemes, lexemesFrom_append hw hr]
  simp [endWord, hne]

/-- A literal ends at the first quote that is not written twice. -/
theorem literalFrom_literalChars (cs rest : List Char) (hr : rest.head? ≠ some '"')
    (before : List Char) :
    literalFrom before (Printer.literalChars cs ++ '"' :: rest) =
      .leaf (.str (String.ofList (before.reverse ++ cs))) :: lexemes rest := by
  induction cs generalizing before with
  | nil =>
    cases rest with
    | nil => simp [Printer.literalChars, literalFrom, lexemes]
    | cons d rest =>
      have hd : d ≠ '"' := by simpa using hr
      simp [Printer.literalChars, literalFrom, lexemes, hd]
  | cons c cs ih =>
    rw [Printer.literalChars_cons]
    by_cases hc : c = '"'
    · subst hc
      simpa [literalFrom] using ih ('"' :: before)
    · simpa [literalFrom, hc] using ih (c :: before)

theorem lexemes_literal (s : String) {rest : List Char} (hr : EndsWord rest) :
    lexemes ((Printer.literal s).toList ++ rest) = .leaf (.str s) :: lexemes rest := by
  have h := literalFrom_literalChars s.toList rest hr.head?_ne_quote []
  rw [List.reverse_nil, List.nil_append, String.ofList_toList] at h
  simpa [Printer.literal, lexemes, lexemesFrom, isBlank, endWord] using h

end Lexeme


namespace Lexeme

theorem isWordChar_of_isNameChar {c : Char} (h : isNameChar c) : isWordChar c := by
  have hb : isBlank c = false := by
    rw [Bool.eq_false_iff]
    intro hc
    rcases (by simpa [isBlank] using hc : c = ' ' ∨ c = '\n') with rfl | rfl
    · exact absurd h (by decide)
    · exact absurd h (by decide)
  have hq : c ≠ '"' := by
    rintro rfl
    exact absurd h (by decide)
  have hm : mark? c = none := by
    unfold mark?
    split
    · exact absurd h (by decide)
    · exact absurd h (by decide)
    · exact absurd h (by decide)
    · rfl
  simp [isWordChar, hb, hq, hm]

theorem ofWord_of_not_fixed {w : List Char} (h : ∀ p ∈ fixedWords, p.1 ≠ String.ofList w) :
    ofWord w =
      .leaf (if w.all Char.isDigit then .int (UInt64.ofNat (Nat.ofDigitChars 10 w 0))
        else .token (String.ofList w)) := by
  have none : fixedWords.lookup (String.ofList w) = none :=
    List.lookup_eq_none_iff.mpr fun p hp ↦ bne_iff_ne.mpr (h p hp).symm
  rw [ofWord, none, Option.getD_none]

/-- A name stands for itself: it is none of the fixed words, and no number. -/
theorem ofWord_name {s : String} (h : IsName s) : ofWord s.toList = .leaf (.token s) := by
  have notNames : ∀ p ∈ fixedWords, ¬IsName p.1 := by decide
  have digits : s.toList.all Char.isDigit = false := by
    obtain ⟨c, hc, hd⟩ := h.start
    exact List.all_eq_false.mpr ⟨c, List.mem_of_mem_head? hc, by simpa using hd⟩
  rw [ofWord_of_not_fixed, digits, String.ofList_toList]
  · rfl
  · intro p hp heq
    rw [String.ofList_toList] at heq
    exact notNames p hp (heq ▸ h)

theorem lexemes_name {s : String} (h : IsName s) {rest : List Char} (hr : EndsWord rest) :
    lexemes (s.toList ++ rest) = .leaf (.token s) :: lexemes rest := by
  obtain ⟨c, hc, -⟩ := h.start
  have hne : s.toList ≠ [] := List.ne_nil_of_mem (List.mem_of_mem_head? hc)
  rw [lexemes_word hne (fun c hc ↦ isWordChar_of_isNameChar (h.chars c hc)) hr, ofWord_name h]

/-- The digits of a number stand for it. -/
theorem ofWord_digits (n : Nat) :
    ofWord (Nat.toDigits 10 n) = .leaf (.int (UInt64.ofNat n)) := by
  have notDigits : ∀ p ∈ fixedWords, ¬p.1.toList.all Char.isDigit := by decide
  have digits : (Nat.toDigits 10 n).all Char.isDigit :=
    List.all_eq_true.mpr fun c hc ↦ Nat.isDigit_of_mem_toDigits (by decide) (by decide) hc
  rw [ofWord_of_not_fixed, if_pos digits, Nat.ofDigitChars_ten_toDigits]
  intro p hp heq
  exact notDigits p hp (by rw [heq, String.toList_ofList, digits])

theorem lexemes_int (n : UInt64) {rest : List Char} (hr : EndsWord rest) :
    lexemes ((toString n).toList ++ rest) = .leaf (.int n) :: lexemes rest := by
  have chars : (toString n).toList = Nat.toDigits 10 n.toNat := Nat.toList_repr
  have word : ∀ c ∈ Nat.toDigits 10 n.toNat, isWordChar c := by
    intro c hc
    have hd : c.isDigit := Nat.isDigit_of_mem_toDigits (by decide) (by decide) hc
    exact isWordChar_of_isNameChar (by simp [isNameChar, Char.isAlphanum, hd])
  rw [chars, lexemes_word Nat.toDigits_ne_nil word hr, ofWord_digits, UInt64.ofNat_toNat]

theorem lexemes_bool (b : Bool) {rest : List Char} (hr : EndsWord rest) :
    lexemes ((if b then "true" else "false").toList ++ rest) =
      .leaf (.bool b) :: lexemes rest := by
  cases b with
  | false => exact lexemes_word (by decide) (List.all_eq_true.mp (by decide)) hr
  | true => exact lexemes_word (by decide) (List.all_eq_true.mp (by decide)) hr

end Lexeme

/-- The lexemes that a command writes. -/
def Printer.Command.lexemes : Command → List Lexeme
  | .ctor name paren => (if paren then [.mark .openBracket] else []) ++ [.leaf (.token name)]
  | .endCtor => [.mark .closeBracket]
  | .beginList => [.mark .openBracket]
  | .cons => [.mark .cons]
  | .endList => [.mark .nil, .mark .closeBracket]
  | .beginRecord => [.mark .openRecord]
  | .field name => [.leaf (.token name), .mark .assign]
  | .separator => [.mark .semicolon]
  | .endRecord => [.mark .closeRecord]
  | .str s => [.leaf (.str s)]
  | .int n => [.leaf (.int n)]
  | .bool b => [.leaf (.bool b)]
  | .text s => [.leaf (.token s)]
  | .space | .newline => []

namespace Printer.Command

/-- Whether the text of a command ends inside a word or behind a quote, so that what follows has to
end it. -/
def isOpenEnded : Command → Bool
  | .ctor _ _ | .endRecord | .str _ | .int _ | .bool _ | .text _ => true
  | _ => false

/-- Whether the names that a command writes are names. -/
def WellNamed : Command → Prop
  | .ctor name _ | .field name | .text name => IsName name
  | _ => True

open Lexeme

/-- What is read of a text is, command by command, what each of them stands for: whatever follows a
command, as long as it ends the word that the command may have left open. -/
def Reads {β : Type} (read : List Char → List β) (meaning : Command → List β) : Prop :=
  ∀ c : Command, c.WellNamed → ∀ {rest : List Char}, (c.isOpenEnded → EndsWord rest) →
    read (c.output.toList ++ rest) = meaning c ++ read rest

/-- A command writes its lexemes. -/
theorem lexemes_output : Reads Lexeme.lexemes lexemes := by
  intro c h rest hr
  cases c with
  | ctor name paren =>
    have word := lexemes_name h (hr rfl)
    cases paren with
    | false => simpa [output, lexemes] using word
    | true =>
      have bracket (cs : List Char) :
          Lexeme.lexemes ('(' :: cs) = .mark .openBracket :: Lexeme.lexemes cs := rfl
      simpa [output, lexemes, bracket] using word
  | field name =>
    have ends : EndsWord (' ' :: ':' :: '=' :: ' ' :: rest) := .cons (by decide) _
    have word := lexemes_name h ends
    have assign : Lexeme.lexemes (' ' :: ':' :: '=' :: ' ' :: rest) =
        .mark .assign :: Lexeme.lexemes rest := rfl
    rw [assign] at word
    simpa [output, lexemes] using word
  | endRecord =>
    exact lexemes_word (w := ['|', '\x7d']) (by decide) (List.all_eq_true.mp (by decide)) (hr rfl)
  | str s => exact lexemes_literal s (hr rfl)
  | int n => exact lexemes_int n (hr rfl)
  | bool b => exact lexemes_bool b (hr rfl)
  | text name => exact lexemes_name h (hr rfl)
  | endCtor | beginList | cons | endList | beginRecord | separator | space | newline => rfl

end Printer.Command

end Reify

import Reify.Text.Blank

/-!
# White space outside of string literals

How a text is spaced matters inside of its string literals and nowhere else.  So a text is taken
apart from left to right into whole literals and the single characters between them, without a loss
(`chars_parts`).  A quote outside of all literals opens one, and the next quote that is not written
twice closes it.

Outside of literals, each run of blanks counts as one space, and none at the start.  `collapse`
writes a text in this way.  It leaves every literal as it is written, blanks, line ends and doubled
quotes included (`literals_squeeze`).
-/

namespace Reify.Text

/-! ## The parts of a text -/

/-- A part of a text. -/
inductive Part where
  /-- A character outside of all string literals. -/
  | plain (c : Char)
  /-- A string literal, with what is written between the quotes at its two ends. -/
  | literal (written : List Char)
  /-- A string literal that the text ends in. -/
  | unclosed (written : List Char)
deriving DecidableEq, Repr

namespace Part

/-- What a part is written as. -/
def chars : Part → List Char
  | .plain c => [c]
  | .literal cs => '"' :: (cs ++ ['"'])
  | .unclosed cs => '"' :: cs

/-- What is written in a part that is a string literal. -/
def literal? : Part → Option String
  | .literal cs => some (String.ofList cs)
  | .plain _ | .unclosed _ => none

end Part

mutual

/-- The parts of a text. -/
def parts : List Char → List Part
  | [] => []
  | c :: cs => if c = '"' then literalParts [] cs else .plain c :: parts cs

/-- The parts of a text behind the characters `before` of a string literal, its last one first. -/
def literalParts (before : List Char) : List Char → List Part
  | [] => [.unclosed before.reverse]
  | '"' :: '"' :: cs => literalParts ('"' :: '"' :: before) cs
  | '"' :: cs => .literal before.reverse :: parts cs
  | c :: cs => literalParts (c :: before) cs

end

mutual

/-- The parts of a text make up the text. -/
theorem chars_parts (cs : List Char) : (parts cs).flatMap Part.chars = cs := by
  match cs with
  | [] => rfl
  | c :: cs =>
    by_cases hc : c = '"'
    · subst hc
      exact chars_literalParts [] cs
    · rw [parts, if_neg hc, List.flatMap_cons, chars_parts cs]
      rfl

theorem chars_literalParts (before cs : List Char) :
    (literalParts before cs).flatMap Part.chars = '"' :: (before.reverse ++ cs) := by
  unfold literalParts
  split
  · simp [Part.chars]
  · rename_i cs
    simp [chars_literalParts ('"' :: '"' :: before) cs]
  · rename_i cs _
    simp [Part.chars, chars_parts cs]
  · rename_i c cs _ _
    simp [chars_literalParts (c :: before) cs]

end

theorem parts_append {cs : List Char} (h : '"' ∉ cs) (rest : List Char) :
    parts (cs ++ rest) = cs.map .plain ++ parts rest := by
  induction cs with
  | nil => rfl
  | cons c cs ih =>
    obtain ⟨hc, hcs⟩ := List.ne_and_not_mem_of_not_mem_cons h
    rw [List.cons_append, parts, if_neg (Ne.symm hc), ih hcs, List.map_cons, List.cons_append]

/-! ## One space for each run of blanks -/

/-- The parts of a text with one space in the place of each run of blanks; with none for the first
run if it comes behind a blank. -/
def squeeze (afterBlank : Bool) : List Part → List Part
  | [] => []
  | .plain c :: ps =>
    if isBlank c then (if afterBlank then [] else [.plain ' ']) ++ squeeze true ps
    else .plain c :: squeeze false ps
  | p :: ps => p :: squeeze false ps

/-- A text with one space in the place of each run of blanks outside of string literals, and none at
the start. -/
def collapse (text : String) : String :=
  String.ofList ((squeeze true (parts text.toList)).flatMap Part.chars)

/-- What is written in the string literals of a text, from left to right. -/
def literals (text : String) : List String := (parts text.toList).filterMap Part.literal?

/-- Literals are no blanks, so they are left alone. -/
theorem literals_squeeze (afterBlank : Bool) (ps : List Part) :
    (squeeze afterBlank ps).filterMap Part.literal? = ps.filterMap Part.literal? := by
  induction ps generalizing afterBlank with
  | nil => rfl
  | cons p ps ih =>
    cases p with
    | plain c =>
      have passed : (Part.plain c :: ps).filterMap Part.literal? = ps.filterMap Part.literal? := rfl
      rw [passed, squeeze]
      split
      · rw [List.filterMap_append, ih]
        cases afterBlank <;> rfl
      · exact ih false
    | literal cs => exact congrArg (String.ofList cs :: ·) (ih false)
    | unclosed cs => exact ih false

example : let text := "  a\n \"b  \"\"\n c\" \t d"
    collapse text = "a \"b  \"\"\n c\" d" ∧ literals text = ["b  \"\"\n c"] := by decide

/-- Two ways to go on that are spaced alike behind any text are so behind more of it. -/
theorem squeeze_append_congr {xs ys : List Part}
    (h : ∀ afterBlank, squeeze afterBlank xs = squeeze afterBlank ys) (ps : List Part)
    (afterBlank : Bool) :
    squeeze afterBlank (ps ++ xs) = squeeze afterBlank (ps ++ ys) := by
  induction ps generalizing afterBlank with
  | nil => exact h afterBlank
  | cons p ps ih =>
    cases p with
    | plain c => simp only [List.cons_append, squeeze, ih]
    | literal cs => exact congrArg (Part.literal cs :: ·) (ih false)
    | unclosed cs => exact congrArg (Part.unclosed cs :: ·) (ih false)

end Reify.Text

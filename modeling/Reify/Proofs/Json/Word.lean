import Reify.Json.Printer
import Reify.Json.Token

/-!
# Words in written JSON

A literal and a number are written as one word: none of their characters ends a word, and the word
stands for them.  That holds of natural numbers because their digits start with a zero only if that
is all of them.
-/

namespace Reify.Json

/-! ## Words -/

/-- The characters that end a word. -/
def delimiters : List Char :=
  [' ', '\t', '\n', '\r', '"', '[', ']', '\x7b', '\x7d', ',', ':']

/-- A text in front of which a word has ended: nothing, or a delimiter and more. -/
def EndsWord (rest : List Char) : Prop := ∀ c ∈ rest.head?, c ∈ delimiters

theorem EndsWord.nil : EndsWord [] := by
  intro c hc
  cases hc

theorem EndsWord.cons {c : Char} (h : c ∈ delimiters) (rest : List Char) :
    EndsWord (c :: rest) := by
  intro d hd
  cases hd
  exact h

theorem mem_delimiters_of_isSpace {c : Char} (h : isSpace c) : c ∈ delimiters := by
  obtain ((rfl | rfl) | rfl) | rfl :
      ((c = ' ' ∨ c = '\t') ∨ c = '\n') ∨ c = '\r' := by simpa [isSpace] using h
  all_goals decide

/-- The characters of a number. -/
def isNumberChar (c : Char) : Bool := c.isDigit || ['+', '-', '.', 'e', 'E'].contains c

/-- A character of a class that holds no delimiter is none. -/
theorem not_mem_delimiters {p : Char → Bool} (apart : delimiters.all fun d ↦ !p d) {c : Char}
    (h : p c) : c ∉ delimiters := by
  intro hc
  have hn := List.all_eq_true.mp apart c hc
  rw [h] at hn
  cases hn

theorem not_mem_delimiters_of_isNumberChar {c : Char} (h : isNumberChar c) : c ∉ delimiters :=
  not_mem_delimiters (by decide) h

theorem not_mem_delimiters_of_isAlpha {c : Char} (h : c.isAlpha) : c ∉ delimiters :=
  not_mem_delimiters (by decide) h

theorem isNumberChar_of_isDigit {c : Char} (h : c.isDigit) : isNumberChar c := by
  rw [isNumberChar, h, Bool.true_or]

theorem isNumberChar_of_isNatural {w : List Char} (h : isNatural w) :
    ∀ c ∈ w, isNumberChar c := by
  unfold isNatural at h
  split at h
  · cases h
  · exact List.forall_mem_singleton.mpr (by decide)
  · rw [Bool.and_eq_true, List.all_eq_true] at h
    exact fun c hc ↦ isNumberChar_of_isDigit (h.2 c hc)

theorem isNumberChar_of_isDigits {w : List Char} (h : isDigits w) : ∀ c ∈ w, isNumberChar c := by
  rw [isDigits, Bool.and_eq_true, List.all_eq_true] at h
  exact fun c hc ↦ isNumberChar_of_isDigit (h.2 c hc)

theorem isNumberChar_of_isExponent {w : List Char} (h : isExponent w) :
    ∀ c ∈ w, isNumberChar c := by
  cases w with
  | nil => intro c hc; cases hc
  | cons c cs =>
    simp only [isExponent, Bool.and_eq_true, Bool.or_eq_true, beq_iff_eq] at h
    obtain ⟨hc, h⟩ := h
    have letter : isNumberChar c := by
      rcases hc with rfl | rfl
      · decide
      · decide
    have digits : ∀ d ∈ cs, isNumberChar d := by
      split at h
      · exact List.forall_mem_cons.mpr ⟨by decide, isNumberChar_of_isDigits h⟩
      · exact List.forall_mem_cons.mpr ⟨by decide, isNumberChar_of_isDigits h⟩
      · exact isNumberChar_of_isDigits h
    exact List.forall_mem_cons.mpr ⟨letter, digits⟩

theorem isNumberChar_of_isFraction {w : List Char} (h : isFraction w) :
    ∀ c ∈ w, isNumberChar c := by
  unfold isFraction at h
  split at h
  · rename_i cs
    rw [Bool.and_eq_true] at h
    rw [← List.takeWhile_append_dropWhile (p := Char.isDigit) (l := cs)]
    refine List.forall_mem_cons.mpr ⟨by decide, List.forall_mem_append.mpr ⟨?_, ?_⟩⟩
    · exact isNumberChar_of_isDigits h.1
    · exact isNumberChar_of_isExponent h.2
  · exact isNumberChar_of_isExponent h

theorem isNumberChar_of_isUnsigned {w : List Char} (h : isUnsigned w) :
    ∀ c ∈ w, isNumberChar c := by
  rw [isUnsigned, Bool.and_eq_true] at h
  rw [← List.takeWhile_append_dropWhile (p := Char.isDigit) (l := w)]
  exact List.forall_mem_append.mpr
    ⟨isNumberChar_of_isNatural h.1, isNumberChar_of_isFraction h.2⟩

theorem isNumberChar_of_isNumber {w : List Char} (h : isNumber w) : ∀ c ∈ w, isNumberChar c := by
  unfold isNumber at h
  split at h
  · exact List.forall_mem_cons.mpr ⟨by decide, isNumberChar_of_isUnsigned h⟩
  · exact isNumberChar_of_isUnsigned h

/-- The first digit of a positive number is no zero. -/
theorem toDigits_eq_cons {n : Nat} (h : 0 < n) :
    ∃ c cs, Nat.toDigits 10 n = c :: cs ∧ c ≠ '0' := by
  induction n using Nat.strongRecOn with
  | ind n ih =>
    by_cases hn : n < 10
    · refine ⟨n.digitChar, [], Nat.toDigits_of_lt_base hn, ?_⟩
      rw [ne_eq, Nat.digitChar_eq_zero]
      omega
    · obtain ⟨c, cs, heq, hc⟩ := ih (n / 10) (by omega) (by omega)
      refine ⟨c, cs ++ [Nat.digitChar (n % 10)], ?_, hc⟩
      rw [Nat.toDigits_of_base_le (by decide) (by omega), heq, List.cons_append]

theorem isNatural_of_head_ne_zero {c : Char} {cs : List Char} (hc : c ≠ '0')
    (h : ∀ d ∈ c :: cs, d.isDigit) : isNatural (c :: cs) := by
  unfold isNatural
  split
  · rename_i heq
    cases heq
  · rename_i heq
    cases heq
    exact absurd rfl hc
  · rename_i heq
    cases heq
    rw [Bool.and_eq_true, bne_iff_ne, List.all_eq_true]
    exact ⟨hc, h⟩

/-- The digits of a number are a natural number as JSON has it. -/
theorem isNatural_toDigits (n : Nat) : isNatural (Nat.toDigits 10 n) := by
  rcases Nat.eq_zero_or_pos n with rfl | hn
  · rfl
  · have digits : ∀ c ∈ Nat.toDigits 10 n, c.isDigit :=
      fun c hc ↦ Nat.isDigit_of_mem_toDigits (by decide) (by decide) hc
    obtain ⟨c, cs, heq, hc⟩ := toDigits_eq_cons hn
    rw [heq] at digits ⊢
    exact isNatural_of_head_ne_zero hc digits

/-! ## Scalars as words -/

/-- A scalar that can be written: a number that is not natural is kept as its digits, and they must
be those of such a number. -/
def Scalar.Valid : Scalar → Prop
  | .real w => isNumber w ∧ ¬isNatural w
  | _ => True

theorem Scalar.ofWord?_of_isNatural {w : List Char} (h : isNatural w) :
    Scalar.ofWord? w = some (.nat (Nat.ofDigitChars 10 w 0)) := by
  unfold Scalar.ofWord?
  split
  · exact absurd h (by decide)
  · exact absurd h (by decide)
  · exact absurd h (by decide)
  · rw [if_pos h]

theorem Scalar.ofWord?_of_isNumber {w : List Char} (h : isNumber w) (hn : ¬isNatural w) :
    Scalar.ofWord? w = some (.real w) := by
  unfold Scalar.ofWord?
  split
  · exact absurd h (by decide)
  · exact absurd h (by decide)
  · exact absurd h (by decide)
  · rw [if_neg hn, if_pos h]

/-- A scalar other than a string is written as the one word that stands for it. -/
theorem Scalar.write_isWord {s : Scalar} (h : s.Valid) (hs : ∀ ps, s ≠ .str ps) :
    s.write ≠ [] ∧ (∀ c ∈ s.write, c ∉ delimiters) ∧ Scalar.ofWord? s.write = some s := by
  have letters {w : List Char} (h : w.all Char.isAlpha) : ∀ c ∈ w, c ∉ delimiters :=
    fun c hc ↦ not_mem_delimiters_of_isAlpha (List.all_eq_true.mp h c hc)
  cases s with
  | null => exact ⟨by decide, letters (by decide), rfl⟩
  | bool b =>
    cases b with
    | false => exact ⟨by decide, letters (by decide), rfl⟩
    | true => exact ⟨by decide, letters (by decide), rfl⟩
  | nat n =>
    have natural := isNatural_toDigits n
    refine ⟨Nat.toDigits_ne_nil, ?_, ?_⟩
    · exact fun c hc ↦
        not_mem_delimiters_of_isNumberChar (isNumberChar_of_isNatural natural c hc)
    · rw [write, ofWord?_of_isNatural natural, Nat.ofDigitChars_ten_toDigits]
  | real w =>
    refine ⟨?_, ?_, ofWord?_of_isNumber h.1 h.2⟩
    · rintro rfl
      exact absurd h.1 (by decide)
    · exact fun c hc ↦
        not_mem_delimiters_of_isNumberChar (isNumberChar_of_isNumber h.1 c hc)
  | str ps => exact absurd rfl (hs ps)

end Reify.Json

import Reify.Proofs.Json.Word

/-!
# Literals and numbers

The grammar of the words in a JSON text.  A natural number has one spelling, its decimal digits; all
other numbers have a sign, a fraction or an exponent.  The scanner takes a word for a scalar exactly
if the grammar does.
-/

namespace Reify.Json

/-! ## The grammar -/

/-- Digits, and at least one of them. -/
def Digits (cs : List Char) : Prop := cs ≠ [] ∧ ∀ c ∈ cs, c.isDigit

/-- What may stand behind the whole part of a number. -/
inductive Fraction : List Char → Prop where
  | none : Fraction []
  | point {digits : List Char} : Digits digits → Fraction ('.' :: digits)

/-- What may end a number. -/
inductive Exponent : List Char → Prop where
  | none : Exponent []
  | plain {letter : Char} {digits : List Char} :
    letter = 'e' ∨ letter = 'E' → Digits digits → Exponent (letter :: digits)
  | signed {letter sign : Char} {digits : List Char} :
    letter = 'e' ∨ letter = 'E' → sign = '+' ∨ sign = '-' → Digits digits →
      Exponent (letter :: sign :: digits)

/-- A number without its sign.  Its whole part has no zero in front, for it is written as the
digits of a natural number. -/
inductive Unsigned : List Char → Prop where
  | intro (whole : Nat) {fraction exponent : List Char} :
    Fraction fraction → Exponent exponent →
      Unsigned (Nat.toDigits 10 whole ++ (fraction ++ exponent))

/-- A number. -/
inductive Numeral : List Char → Prop where
  | positive {cs : List Char} : Unsigned cs → Numeral cs
  | negative {cs : List Char} : Unsigned cs → Numeral ('-' :: cs)

/-- The words that write a literal or a number. -/
inductive Scalar.Word : Scalar → List Char → Prop where
  | null : Word .null ['n', 'u', 'l', 'l']
  | true : Word (.bool true) ['t', 'r', 'u', 'e']
  | false : Word (.bool false) ['f', 'a', 'l', 's', 'e']
  | nat (n : Nat) : Word (.nat n) (Nat.toDigits 10 n)
  | real {w : List Char} : Numeral w → (∀ n, w ≠ Nat.toDigits 10 n) → Word (.real w) w

/-! ## Natural numbers -/

theorem toNat_of_isDigit {c : Char} (h : c.isDigit) : 48 ≤ c.toNat ∧ c.toNat < 58 := by
  obtain ⟨low, high⟩ := Char.isDigit_iff_toNat.mp h
  exact ⟨low, Nat.lt_succ_of_le high⟩

theorem digitChar_of_isDigit {c : Char} (h : c.isDigit) : Nat.digitChar (c.toNat - 48) = c := by
  obtain ⟨low, high⟩ := toNat_of_isDigit h
  apply Char.toNat_inj.mp
  rw [Nat.toNat_digitChar_of_lt_ten (by omega)]
  omega

theorem ofDigitChars_cons {c : Char} {cs : List Char} {n : Nat} :
    Nat.ofDigitChars 10 (c :: cs) n = Nat.ofDigitChars 10 cs (10 * n + (c.toNat - 48)) :=
  Nat.ofDigitChars_cons

/-- Digits behind those of a positive number are its last digits. -/
theorem toDigits_ofDigitChars {cs : List Char} (h : ∀ c ∈ cs, c.isDigit) {n : Nat} (hn : 0 < n) :
    Nat.toDigits 10 (Nat.ofDigitChars 10 cs n) = Nat.toDigits 10 n ++ cs := by
  induction cs generalizing n with
  | nil => rw [Nat.ofDigitChars_nil, List.append_nil]
  | cons c cs ih =>
    obtain ⟨hc, hcs⟩ := List.forall_mem_cons.mp h
    have digit : c.toNat - 48 < 10 := by
      have high := (toNat_of_isDigit hc).2
      omega
    have last : Nat.toDigits 10 (10 * n + (c.toNat - 48)) = Nat.toDigits 10 n ++ [c] := by
      rw [← Nat.toDigits_append_toDigits (by decide) hn digit, Nat.toDigits_of_lt_base digit,
        digitChar_of_isDigit hc]
    rw [ofDigitChars_cons, ih hcs (by omega), last, List.append_assoc, List.singleton_append]

/-- A natural number is written in one way. -/
theorem toDigits_of_isNatural {w : List Char} (h : isNatural w) :
    Nat.toDigits 10 (Nat.ofDigitChars 10 w 0) = w := by
  unfold isNatural at h
  split at h
  · cases h
  · rfl
  · rename_i c cs _
    rw [Bool.and_eq_true, bne_iff_ne, List.all_eq_true] at h
    obtain ⟨hc, hcs⟩ := List.forall_mem_cons.mp h.2
    obtain ⟨low, high⟩ := toNat_of_isDigit hc
    have notZero : c.toNat ≠ 48 := fun heq ↦ h.1 (Char.toNat_inj.mp heq)
    rw [ofDigitChars_cons, toDigits_ofDigitChars hcs (by omega),
      Nat.toDigits_of_lt_base (by omega), Nat.mul_zero, Nat.zero_add, digitChar_of_isDigit hc,
      List.singleton_append]

theorem isNatural_iff {w : List Char} : isNatural w ↔ ∃ n, w = Nat.toDigits 10 n := by
  constructor
  · exact fun h ↦ ⟨_, (toDigits_of_isNatural h).symm⟩
  · rintro ⟨n, rfl⟩
    exact isNatural_toDigits n

/-! ## Other numbers -/

theorem isDigits_iff {cs : List Char} : isDigits cs ↔ Digits cs := by
  simp [isDigits, Digits]

theorem isExponent_iff {cs : List Char} : isExponent cs ↔ Exponent cs := by
  constructor
  · intro h
    cases cs with
    | nil => exact .none
    | cons c cs =>
      simp only [isExponent, Bool.and_eq_true, Bool.or_eq_true, beq_iff_eq] at h
      obtain ⟨letter, h⟩ := h
      split at h
      · exact .signed letter (.inl rfl) (isDigits_iff.mp h)
      · exact .signed letter (.inr rfl) (isDigits_iff.mp h)
      · exact .plain letter (isDigits_iff.mp h)
  · intro h
    cases h with
    | none => rfl
    | @plain letter digits hl hd =>
      simp only [isExponent, Bool.and_eq_true, Bool.or_eq_true, beq_iff_eq]
      refine ⟨hl, ?_⟩
      split
      · exact absurd (hd.2 '+' List.mem_cons_self) (by decide)
      · exact absurd (hd.2 '-' List.mem_cons_self) (by decide)
      · exact isDigits_iff.mpr hd
    | @signed letter sign digits hl hs hd =>
      simp only [isExponent, Bool.and_eq_true, Bool.or_eq_true, beq_iff_eq]
      refine ⟨hl, ?_⟩
      rcases hs with rfl | rfl
      · exact isDigits_iff.mpr hd
      · exact isDigits_iff.mpr hd

/-- Digits end where something other than a digit follows. -/
theorem span_digits {digits rest : List Char} (h : ∀ c ∈ digits, c.isDigit)
    (hr : ∀ c ∈ rest.head?, c.isDigit = false) :
    (digits ++ rest).takeWhile Char.isDigit = digits ∧
      (digits ++ rest).dropWhile Char.isDigit = rest := by
  have ends : rest.takeWhile Char.isDigit = [] ∧ rest.dropWhile Char.isDigit = rest := by
    cases rest with
    | nil => exact ⟨rfl, rfl⟩
    | cons c rest => simp [hr c rfl]
  rw [List.takeWhile_append_of_pos h, List.dropWhile_append_of_pos h, ends.1, ends.2,
    List.append_nil]
  exact ⟨rfl, rfl⟩

theorem Exponent.head {exponent : List Char} (h : Exponent exponent) :
    ∀ c ∈ exponent.head?, c.isDigit = false ∧ c ≠ '.' := by
  cases h with
  | none => exact nofun
  | plain hl _ | signed hl _ _ =>
    intro c hc
    cases hc
    rcases hl with rfl | rfl
    · decide
    · decide

theorem Fraction.head {fraction exponent : List Char} (hf : Fraction fraction)
    (he : Exponent exponent) : ∀ c ∈ (fraction ++ exponent).head?, c.isDigit = false := by
  cases hf with
  | none => exact fun c hc ↦ (he.head c hc).1
  | point _ =>
    intro c hc
    cases hc
    decide

theorem isFraction_iff {cs : List Char} : isFraction cs ↔
    ∃ fraction exponent, cs = fraction ++ exponent ∧ Fraction fraction ∧ Exponent exponent := by
  constructor
  · intro h
    unfold isFraction at h
    split at h
    · rename_i cs
      rw [Bool.and_eq_true] at h
      refine ⟨_, _, ?_, .point (isDigits_iff.mp h.1), isExponent_iff.mp h.2⟩
      rw [List.cons_append, List.takeWhile_append_dropWhile]
    · exact ⟨[], cs, rfl, .none, isExponent_iff.mp h⟩
  · rintro ⟨fraction, exponent, rfl, hf, he⟩
    cases hf with
    | none =>
      unfold isFraction
      split
      · rename_i heq
        rw [List.nil_append] at heq
        exact absurd rfl (he.head '.' (heq ▸ rfl)).2
      · exact isExponent_iff.mpr he
    | @point digits hd =>
      obtain ⟨taken, left⟩ := span_digits hd.2 fun c hc ↦ (he.head c hc).1
      rw [List.cons_append, isFraction, taken, left, Bool.and_eq_true]
      exact ⟨isDigits_iff.mpr hd, isExponent_iff.mpr he⟩

theorem isUnsigned_iff {cs : List Char} : isUnsigned cs ↔ Unsigned cs := by
  rw [isUnsigned, Bool.and_eq_true]
  constructor
  · rintro ⟨natural, fraction⟩
    obtain ⟨whole, hw⟩ := isNatural_iff.mp natural
    obtain ⟨fraction, exponent, heq, hf, he⟩ := isFraction_iff.mp fraction
    rw [← List.takeWhile_append_dropWhile (p := Char.isDigit) (l := cs), hw, heq]
    exact .intro whole hf he
  · rintro ⟨whole, hf, he⟩
    have digits : ∀ c ∈ Nat.toDigits 10 whole, c.isDigit :=
      fun c hc ↦ Nat.isDigit_of_mem_toDigits (by decide) (by decide) hc
    obtain ⟨taken, left⟩ := span_digits digits (hf.head he)
    rw [taken, left]
    exact ⟨isNatural_toDigits whole, isFraction_iff.mpr ⟨_, _, rfl, hf, he⟩⟩

theorem isNumber_iff {cs : List Char} : isNumber cs ↔ Numeral cs := by
  constructor
  · intro h
    unfold isNumber at h
    split at h
    · exact .negative (isUnsigned_iff.mp h)
    · exact .positive (isUnsigned_iff.mp h)
  · intro h
    cases h with
    | positive h =>
      unfold isNumber
      split
      · -- No unsigned number starts with a minus, for its whole part has a digit.
        rename_i cs
        have first := isUnsigned_iff.mpr h
        rw [isUnsigned, List.takeWhile_cons_of_neg (by decide), Bool.and_eq_true] at first
        exact absurd first.1 (by decide)
      · exact isUnsigned_iff.mpr h
    | negative h => exact isUnsigned_iff.mpr h

/-! ## Words -/

theorem Scalar.valid_real {w : List Char} :
    (Scalar.real w).Valid ↔ Numeral w ∧ ∀ n, w ≠ Nat.toDigits 10 n := by
  rw [Valid, isNumber_iff, isNatural_iff, not_exists]

/-- A scalar that is no string has one spelling. -/
theorem Scalar.word_iff {w : List Char} {s : Scalar} :
    s.Word w ↔ w = s.write ∧ s.Valid ∧ ∀ ps, s ≠ .str ps := by
  constructor
  · intro h
    cases h with
    | null | true | false | nat n => exact ⟨rfl, trivial, nofun⟩
    | real number notNatural => exact ⟨rfl, valid_real.mpr ⟨number, notNatural⟩, nofun⟩
  · rintro ⟨rfl, valid, notString⟩
    cases s with
    | null => exact .null
    | bool b =>
      cases b with
      | false => exact .false
      | true => exact .true
    | nat n => exact .nat n
    | real w =>
      obtain ⟨number, notNatural⟩ := valid_real.mp valid
      exact .real number notNatural
    | str ps => exact absurd rfl (notString ps)

/-- A word stands for the scalar that the grammar lets it write, and for nothing else. -/
theorem Scalar.ofWord?_eq_some_iff {w : List Char} {s : Scalar} :
    Scalar.ofWord? w = some s ↔ s.Word w := by
  constructor
  · intro h
    unfold Scalar.ofWord? at h
    split at h
    · cases h
      exact .null
    · cases h
      exact .true
    · cases h
      exact .false
    · split at h
      · rename_i natural
        cases h
        have word := Word.nat (Nat.ofDigitChars 10 w 0)
        rwa [toDigits_of_isNatural natural] at word
      · rename_i notNatural
        split at h
        · rename_i number
          cases h
          exact .real (isNumber_iff.mp number) fun n hn ↦ notNatural (isNatural_iff.mpr ⟨n, hn⟩)
        · cases h
  · intro h
    obtain ⟨rfl, valid, notString⟩ := word_iff.mp h
    exact (write_isWord valid notString).2.2

end Reify.Json

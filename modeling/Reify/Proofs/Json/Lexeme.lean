import Mathlib.Data.List.Chain
import Reify.Proofs.Json.Numeral
import Reify.Proofs.Json.Scanner

/-!
# Tokens of a text

How tokens may be written, and how a text is made of them: each token in one of its spellings, and
blanks wherever they may stand.  The scanner finds the tokens of exactly these texts.  What it has
read is always the text of its tokens followed by that of its mode, and one character leaves it that
way.
-/

namespace Reify.Json

/-! ## How tokens are written -/

/-- The sixteen-bit unit of a piece, if the piece has one. -/
inductive Piece.Unit : Piece → Nat → Prop where
  | char {c : Char} : c.toNat < 0x10000 → Unit (.char c) c.toNat
  | lead (bits : Fin 1024) : Unit (.lead bits) (0xD800 + bits.val)
  | trail (bits : Fin 1024) : Unit (.trail bits) (0xDC00 + bits.val)

/-- The escapes of one letter, and what they stand for. -/
def letterEscapes : List (Char × Char) :=
  [('"', '"'), ('\\', '\\'), ('/', '/'), ('b', '\x08'), ('f', '\x0c'), ('n', '\n'), ('r', '\r'),
    ('t', '\t')]

/-- The four hexadecimal digits of a sixteen-bit unit. -/
def hexDigits (n : Nat) : List Char :=
  [Nat.digitChar (n / 4096 % 16), Nat.digitChar (n / 256 % 16), Nat.digitChar (n / 16 % 16),
    Nat.digitChar (n % 16)]

/-- The spellings of a piece: most characters stand for themselves, some have an escape of one
letter, and a sixteen-bit unit has the escape of its digits, in either case. -/
inductive Piece.Writes : Piece → List Char → Prop where
  | plain {c : Char} : 0x20 ≤ c.toNat → c ≠ '"' → c ≠ '\\' → Writes (.char c) [c]
  | letter {e c : Char} : (e, c) ∈ letterEscapes → Writes (.char c) ['\\', e]
  | unit {p : Piece} {n : Nat} {digits : List Char} :
    p.Unit n → digits.map Char.toLower = hexDigits n → Writes p ('\\' :: 'u' :: digits)

/-- The spellings of the inside of a string. -/
inductive PiecesWrite : List Piece → List Char → Prop where
  | nil : PiecesWrite [] []
  | cons {p : Piece} {ps : List Piece} {w cs : List Char} :
    p.Writes w → PiecesWrite ps cs → PiecesWrite (p :: ps) (w ++ cs)

/-- The character of a mark. -/
def Mark.char : Mark → Char
  | .openArray => '['
  | .closeArray => ']'
  | .openObject => '\x7b'
  | .closeObject => '\x7d'
  | .comma => ','
  | .colon => ':'

/-- The spellings of a token. -/
inductive Token.Writes : Token → List Char → Prop where
  | mark (m : Mark) : Writes (.mark m) [m.char]
  | word {s : Scalar} {w : List Char} : s.Word w → Writes (.scalar s) w
  | string {ps : List Piece} {cs : List Char} :
    PiecesWrite ps cs → Writes (.scalar (.str ps)) ('"' :: (cs ++ ['"']))

/-- The texts that write some tokens, with any blanks between and around them. -/
inductive Written : List Token → List Char → Prop where
  | nil : Written [] []
  | blank {c : Char} {ts : List Token} {cs : List Char} :
    isSpace c → Written ts cs → Written ts (c :: cs)
  | token {t : Token} {ts : List Token} {w cs : List Char} :
    t.Writes w → Written ts cs → Written (t :: ts) (w ++ cs)

theorem PiecesWrite.append {ps qs : List Piece} {cs ds : List Char} (h : PiecesWrite ps cs)
    (h' : PiecesWrite qs ds) : PiecesWrite (ps ++ qs) (cs ++ ds) := by
  induction h with
  | nil => exact h'
  | cons hp _ ih =>
    rw [List.cons_append, List.append_assoc]
    exact .cons hp ih

theorem PiecesWrite.snoc {ps : List Piece} {cs : List Char} (h : PiecesWrite ps cs) {p : Piece}
    {w : List Char} (hp : p.Writes w) : PiecesWrite (ps ++ [p]) (cs ++ w) := by
  have last : PiecesWrite [p] (w ++ []) := .cons hp .nil
  rw [List.append_nil] at last
  exact h.append last

theorem Written.append {ts us : List Token} {cs ds : List Char} (h : Written ts cs)
    (h' : Written us ds) : Written (ts ++ us) (cs ++ ds) := by
  induction h with
  | nil => exact h'
  | blank hc _ ih => exact .blank hc ih
  | token ht _ ih =>
    rw [List.cons_append, List.append_assoc]
    exact .token ht ih

theorem Written.snoc_blank {ts : List Token} {cs : List Char} (h : Written ts cs) {c : Char}
    (hc : isSpace c) : Written ts (cs ++ [c]) := by
  have longer := h.append (.blank hc .nil)
  rwa [List.append_nil] at longer

theorem Written.snoc {ts : List Token} {cs : List Char} (h : Written ts cs) {t : Token}
    {w : List Char} (ht : t.Writes w) : Written (ts ++ [t]) (cs ++ w) := by
  have last : Written [t] (w ++ []) := .token ht .nil
  rw [List.append_nil] at last
  exact h.append last

/-! ## Escapes and marks -/

theorem Mark.ofChar?_eq_some_iff {c : Char} {m : Mark} : Mark.ofChar? c = some m ↔ c = m.char := by
  constructor
  · intro h
    unfold Mark.ofChar? at h
    split at h <;> cases h <;> rfl
  · rintro rfl
    cases m <;> rfl

theorem escaped?_eq_some_iff {e c : Char} : escaped? e = some c ↔ (e, c) ∈ letterEscapes := by
  constructor
  · intro h
    unfold escaped? at h
    split at h <;> cases h <;> decide
  · intro h
    have table : letterEscapes.all fun p ↦ escaped? p.1 = some p.2 := by decide
    exact of_decide_eq_true (List.all_eq_true.mp table (e, c) h)

/-- The hexadecimal digits among the first characters. -/
theorem hexValue?_table : ∀ n : Fin 128, ∀ x : Fin 16,
    hexValue? (Char.ofNat n) = some x.val ↔ (Char.ofNat n).toLower = Nat.digitChar x := by
  decide +kernel

theorem hexValue?_bounds {c : Char} {x : Nat} (h : hexValue? c = some x) :
    c.toNat < 128 ∧ x < 16 := by
  unfold hexValue? at h
  split at h
  · rename_i range
    obtain ⟨low, high⟩ : 48 ≤ c.toNat ∧ c.toNat ≤ 57 := range
    cases h
    omega
  · split at h
    · rename_i range
      obtain ⟨low, high⟩ : 97 ≤ c.toNat ∧ c.toNat ≤ 102 := range
      cases h
      omega
    · split at h
      · rename_i range
        obtain ⟨low, high⟩ : 65 ≤ c.toNat ∧ c.toNat ≤ 70 := range
        cases h
        omega
      · cases h

theorem toNat_lt_of_toLower {c : Char} {x : Nat} (hx : x < 16) (h : c.toLower = Nat.digitChar x) :
    c.toNat < 128 := by
  have digit : ∀ x : Fin 16, (Nat.digitChar x).toNat < 128 := by decide
  unfold Char.toLower at h
  split at h
  · rename_i upper
    have high : c.toNat ≤ 90 := upper.2
    omega
  · rw [h]
    exact digit ⟨x, hx⟩

/-- The value of a hexadecimal digit is that of the digit in lower case. -/
theorem hexValue?_eq_some_iff {c : Char} {x : Nat} :
    hexValue? c = some x ↔ x < 16 ∧ c.toLower = Nat.digitChar x := by
  constructor
  · intro h
    obtain ⟨hc, hx⟩ := hexValue?_bounds h
    have entry := hexValue?_table ⟨c.toNat, hc⟩ ⟨x, hx⟩
    rw [Char.ofNat_toNat] at entry
    exact ⟨hx, entry.mp h⟩
  · rintro ⟨hx, h⟩
    have entry := hexValue?_table ⟨c.toNat, toNat_lt_of_toLower hx h⟩ ⟨x, hx⟩
    rw [Char.ofNat_toNat] at entry
    exact entry.mpr h

theorem toNat_ofNat {n : Nat} (h : n.isValidChar) : (Char.ofNat n).toNat = n := by
  rw [Char.ofNat, dif_pos h]
  rfl

/-- Every sixteen-bit number is the unit of a piece. -/
theorem Piece.unit_ofUnit {n : Nat} (h : n < 0x10000) : (Piece.ofUnit n).Unit n := by
  unfold Piece.ofUnit
  split
  · have unit := Unit.lead (Fin.ofNat 1024 n)
    have same : 0xD800 + (Fin.ofNat 1024 n).val = n := by
      simp only [Fin.ofNat]
      omega
    rwa [same] at unit
  · split
    · have unit := Unit.trail (Fin.ofNat 1024 n)
      have same : 0xDC00 + (Fin.ofNat 1024 n).val = n := by
        simp only [Fin.ofNat]
        omega
      rwa [same] at unit
    · have valid : n.isValidChar := by
        unfold Nat.isValidChar
        omega
      have same := toNat_ofNat valid
      have unit := @Unit.char (Char.ofNat n) (by omega)
      rwa [same] at unit

theorem Piece.Unit.ofUnit_eq {p : Piece} {n : Nat} (h : p.Unit n) : Piece.ofUnit n = p := by
  cases h with
  | @char c hc =>
    have valid : c.toNat < 0xD800 ∨ 0xDFFF < c.toNat ∧ c.toNat < 0x110000 := c.valid
    rw [Piece.ofUnit, if_neg (by omega), if_neg (by omega), Char.ofNat_toNat]
  | lead bits =>
    have same : Fin.ofNat 1024 (0xD800 + bits.val) = bits := by
      apply Fin.ext
      simp only [Fin.ofNat]
      omega
    rw [Piece.ofUnit, if_pos (by omega), same]
  | trail bits =>
    have same : Fin.ofNat 1024 (0xDC00 + bits.val) = bits := by
      apply Fin.ext
      simp only [Fin.ofNat]
      omega
    rw [Piece.ofUnit, if_neg (by omega), if_pos (by omega), same]

theorem Piece.Unit.lt {p : Piece} {n : Nat} (h : p.Unit n) : n < 0x10000 := by
  cases h with
  | char hc => exact hc
  | lead bits => omega
  | trail bits => omega

/-! ## What the scanner has read -/

/-- The texts that leave the scanner in a mode, from the end of the last token on. -/
inductive Mode.Read : Mode → List Char → Prop where
  | word (w : List Char) : Read (.word w) w.reverse
  | string {ps : List Piece} {cs : List Char} :
    PiecesWrite ps.reverse cs → Read (.string ps) ('"' :: cs)
  | escape {ps : List Piece} {cs : List Char} :
    PiecesWrite ps.reverse cs → Read (.escape ps) ('"' :: (cs ++ ['\\']))
  | hex {ps : List Piece} {cs : List Char} {ds : List Nat} {digits : List Char} :
    PiecesWrite ps.reverse cs → ds.length < 4 → (∀ d ∈ ds, d < 16) →
      digits.map Char.toLower = ds.reverse.map Nat.digitChar →
      Read (.hex ps ds) ('"' :: (cs ++ '\\' :: 'u' :: digits))

/-- The texts that leave the scanner where it is. -/
def Scanner.Read (s : Scanner) (cs : List Char) : Prop :=
  ∃ done now, cs = done ++ now ∧ Written s.tokens.reverse done ∧ s.mode.Read now

namespace Scanner

theorem read_start : start.Read [] := ⟨[], [], rfl, .nil, .word []⟩

/-- The end of a word adds its token, if there is a word. -/
theorem written_endWord {w done : List Char} {ts us : List Token} (h : endWord w ts = some us)
    (hd : Written ts.reverse done) : Written us.reverse (done ++ w.reverse) := by
  unfold endWord at h
  split at h
  · rename_i empty
    cases h
    rw [List.isEmpty_iff.mp empty, List.reverse_nil, List.append_nil]
    exact hd
  · obtain ⟨s, hs, rfl⟩ := Option.map_eq_some_iff.mp h
    rw [List.reverse_cons]
    exact hd.snoc (.word (Scalar.ofWord?_eq_some_iff.mp hs))

theorem read_step_word {w cs : List Char} {ts : List Token} {t : Scanner} {c : Char}
    (hr : Read ⟨.word w, ts⟩ cs) (h : step ⟨.word w, ts⟩ c = some t) : t.Read (cs ++ [c]) := by
  obtain ⟨done, now, rfl, hd, hn⟩ := hr
  cases hn
  simp only [step] at h
  split at h
  · rename_i space
    obtain ⟨us, hu, rfl⟩ := Option.map_eq_some_iff.mp h
    exact ⟨_, [], (List.append_nil _).symm, (written_endWord hu hd).snoc_blank space, .word []⟩
  · split at h
    · rename_i quote
      obtain ⟨us, hu, rfl⟩ := Option.map_eq_some_iff.mp h
      subst quote
      exact ⟨_, _, rfl, written_endWord hu hd, .string .nil⟩
    · split at h
      · rename_i m hm
        obtain ⟨us, hu, rfl⟩ := Option.map_eq_some_iff.mp h
        rw [Mark.ofChar?_eq_some_iff.mp hm]
        refine ⟨_, [], (List.append_nil _).symm, ?_, .word []⟩
        rw [List.reverse_cons]
        exact (written_endWord hu hd).snoc (.mark m)
      · cases h
        refine ⟨done, _, ?_, hd, .word (c :: w)⟩
        rw [List.reverse_cons, List.append_assoc]

theorem read_step_string {ps : List Piece} {cs : List Char} {ts : List Token} {t : Scanner}
    {c : Char} (hr : Read ⟨.string ps, ts⟩ cs) (h : step ⟨.string ps, ts⟩ c = some t) :
    t.Read (cs ++ [c]) := by
  obtain ⟨done, now, rfl, hd, hn⟩ := hr
  obtain _ | @⟨_, body, hb⟩ := hn
  simp only [step] at h
  rw [List.append_assoc]
  split at h
  · rename_i quote
    cases h
    subst quote
    refine ⟨_, [], (List.append_nil _).symm, ?_, .word []⟩
    rw [List.reverse_cons]
    exact hd.snoc (.string hb)
  · split at h
    · rename_i backslash
      cases h
      subst backslash
      exact ⟨done, _, rfl, hd, .escape hb⟩
    · split at h
      · cases h
      · rename_i quote backslash control
        cases h
        refine ⟨done, _, rfl, hd, .string ?_⟩
        rw [List.reverse_cons]
        exact hb.snoc (.plain (Nat.le_of_not_lt control) quote backslash)

theorem read_step_escape {ps : List Piece} {cs : List Char} {ts : List Token} {t : Scanner}
    {c : Char} (hr : Read ⟨.escape ps, ts⟩ cs) (h : step ⟨.escape ps, ts⟩ c = some t) :
    t.Read (cs ++ [c]) := by
  obtain ⟨done, now, rfl, hd, hn⟩ := hr
  obtain _ | _ | @⟨_, body, hb⟩ := hn
  simp only [step] at h
  rw [List.append_assoc, List.cons_append, List.append_assoc]
  split at h
  · rename_i u
    cases h
    subst u
    exact ⟨done, _, rfl, hd, .hex hb (by simp) (by simp) rfl⟩
  · obtain ⟨d, hd', rfl⟩ := Option.map_eq_some_iff.mp h
    refine ⟨done, _, rfl, hd, .string ?_⟩
    rw [List.reverse_cons]
    exact hb.snoc (.letter (escaped?_eq_some_iff.mp hd'))

theorem hexDigits_eq {d₀ d₁ d₂ d : Nat} (h₀ : d₀ < 16) (h₁ : d₁ < 16) (h₂ : d₂ < 16) (h : d < 16) :
    hexDigits (4096 * d₀ + 256 * d₁ + 16 * d₂ + d) = [d₀, d₁, d₂, d].map Nat.digitChar := by
  have digits (n : Nat) (hn : n = 4096 * d₀ + 256 * d₁ + 16 * d₂ + d) :
      n / 4096 % 16 = d₀ ∧ n / 256 % 16 = d₁ ∧ n / 16 % 16 = d₂ ∧ n % 16 = d := by
    omega
  obtain ⟨first, second, third, fourth⟩ := digits _ rfl
  rw [hexDigits, first, second, third, fourth]
  rfl

theorem read_step_hex {ps : List Piece} {ds : List Nat} {cs : List Char} {ts : List Token}
    {t : Scanner} {c : Char} (hr : Read ⟨.hex ps ds, ts⟩ cs)
    (h : step ⟨.hex ps ds, ts⟩ c = some t) : t.Read (cs ++ [c]) := by
  obtain ⟨done, now, rfl, hd, hn⟩ := hr
  obtain _ | _ | _ | @⟨_, body, _, digits, hb, length, bounds, same⟩ := hn
  obtain ⟨d, hv, rfl⟩ := Option.map_eq_some_iff.mp h
  obtain ⟨bound, lower⟩ := hexValue?_eq_some_iff.mp hv
  have longer : (digits ++ [c]).map Char.toLower = (d :: ds).reverse.map Nat.digitChar := by
    rw [List.map_append, same, List.reverse_cons, List.map_append, List.map_singleton, lower]
    rfl
  have text : done ++ '"' :: (body ++ '\\' :: 'u' :: digits) ++ [c] =
      done ++ '"' :: (body ++ '\\' :: 'u' :: (digits ++ [c])) := by
    simp
  rw [text]
  split
  · -- The fourth digit ends the escape.
    rename_i d₂ d₁ d₀
    have units : d₀ < 16 ∧ d₁ < 16 ∧ d₂ < 16 := by
      simp only [List.forall_mem_cons] at bounds
      exact ⟨bounds.2.2.1, bounds.2.1, bounds.1⟩
    have unit := Piece.unit_ofUnit (n := 4096 * d₀ + 256 * d₁ + 16 * d₂ + d) (by omega)
    refine ⟨done, _, rfl, hd, .string ?_⟩
    rw [List.reverse_cons]
    refine hb.snoc (.unit unit ?_)
    rw [hexDigits_eq units.1 units.2.1 units.2.2 bound]
    exact longer
  · rename_i three
    refine ⟨done, _, rfl, hd, .hex hb ?_ (List.forall_mem_cons.mpr ⟨bound, bounds⟩) longer⟩
    have notThree : ds.length ≠ 3 := by
      intro h
      match ds, h with
      | [d₂, d₁, d₀], _ => exact three d₂ d₁ d₀ rfl
    rw [List.length_cons]
    omega

/-- One more character has been read. -/
theorem read_step {s t : Scanner} {c : Char} {cs : List Char} (hr : s.Read cs)
    (h : s.step c = some t) : t.Read (cs ++ [c]) := by
  obtain ⟨mode, ts⟩ := s
  cases mode with
  | word w => exact read_step_word hr h
  | string ps => exact read_step_string hr h
  | escape ps => exact read_step_escape hr h
  | hex ps ds => exact read_step_hex hr h

theorem read_foldlM {cs ds : List Char} {s t : Scanner} (hr : s.Read ds)
    (h : cs.foldlM step s = some t) : t.Read (ds ++ cs) := by
  induction cs generalizing s ds with
  | nil =>
    cases h
    rwa [List.append_nil]
  | cons c cs ih =>
    rw [List.foldlM_cons] at h
    obtain ⟨next, first, others⟩ := Option.bind_eq_some_iff.mp h
    have all := ih (read_step hr first) others
    rwa [List.append_assoc, List.singleton_append] at all

end Scanner

/-- What falls into tokens is the text of these tokens. -/
theorem written_of_tokens? {cs : List Char} {ts : List Token} (h : tokens? cs = some ts) :
    Written ts cs := by
  obtain ⟨⟨mode, us⟩, run, finish⟩ := Option.bind_eq_some_iff.mp h
  obtain ⟨done, now, heq, hd, hn⟩ := Scanner.read_foldlM Scanner.read_start run
  cases hn with
  | word w =>
    obtain ⟨vs, hv, rfl⟩ := Option.map_eq_some_iff.mp finish
    rw [← List.nil_append cs, heq]
    exact Scanner.written_endWord hv hd
  | string _ | escape _ | hex _ _ _ _ => cases finish

/-! ## What the scanner reads -/

namespace Scanner

variable {ts : List Token} {rest : List Char}

theorem run_letter {e c : Char} (h : (e, c) ∈ letterEscapes) (ps : List Piece) :
    run ⟨.string ps, ts⟩ ('\\' :: e :: rest) = run ⟨.string (.char c :: ps), ts⟩ rest := by
  have notUnit : letterEscapes.all fun p ↦ p.1 ≠ 'u' := by decide
  have letter : e ≠ 'u' := of_decide_eq_true (List.all_eq_true.mp notUnit (e, c) h)
  rw [run_cons (t := ⟨.escape ps, ts⟩) rfl, run_cons]
  simp only [step, if_neg letter, escaped?_eq_some_iff.mpr h]
  rfl

theorem step_hex {ps : List Piece} {ds : List Nat} (h : ds.length < 3) {c : Char} {x : Nat}
    (hc : hexValue? c = some x) : step ⟨.hex ps ds, ts⟩ c = some ⟨.hex ps (x :: ds), ts⟩ := by
  match ds, h with
  | [], _ | [_], _ | [_, _], _ => simp [step, hc]

/-- An escape of four digits is read as the piece of its unit. -/
theorem run_unit {p : Piece} {n : Nat} (hp : p.Unit n) {digits : List Char}
    (h : digits.map Char.toLower = hexDigits n) (ps : List Piece) :
    run ⟨.string ps, ts⟩ ('\\' :: 'u' :: (digits ++ rest)) =
      run ⟨.string (p :: ps), ts⟩ rest := by
  have value {c : Char} {x : Nat} (h : c.toLower = Nat.digitChar (x % 16)) :
      hexValue? c = some (x % 16) :=
    hexValue?_eq_some_iff.mpr ⟨Nat.mod_lt x (by decide), h⟩
  have sum : 4096 * (n / 4096 % 16) + 256 * (n / 256 % 16) + 16 * (n / 16 % 16) + n % 16 = n := by
    have bound := hp.lt
    omega
  have four : digits.length = 4 := by
    rw [← List.length_map (f := Char.toLower), h]
    rfl
  match digits, four, h with
  | [a, b, c, d], _, h =>
    simp only [hexDigits, List.map_cons, List.map_nil, List.cons.injEq, and_true] at h
    have last : step ⟨.hex ps [n / 16 % 16, n / 256 % 16, n / 4096 % 16], ts⟩ d =
        some ⟨.string (p :: ps), ts⟩ := by
      simp only [step, value h.2.2.2, Option.map_some, sum, hp.ofUnit_eq]
    simp only [List.cons_append, List.nil_append]
    rw [run_cons (t := ⟨.escape ps, ts⟩) rfl, run_cons (t := ⟨.hex ps [], ts⟩) rfl,
      run_cons (step_hex (by simp) (value h.1)), run_cons (step_hex (by simp) (value h.2.1)),
      run_cons (step_hex (by simp) (value h.2.2.1)), run_cons last]

theorem run_piece {p : Piece} {w : List Char} (h : p.Writes w) (ps : List Piece) :
    run ⟨.string ps, ts⟩ (w ++ rest) = run ⟨.string (p :: ps), ts⟩ rest := by
  cases h with
  | @plain c control quote backslash =>
    have stay : step ⟨.string ps, ts⟩ c = some ⟨.string (.char c :: ps), ts⟩ := by
      simp only [step]
      rw [if_neg quote, if_neg backslash, if_neg (Nat.not_lt_of_le control)]
    exact run_cons stay rest
  | letter h => exact run_letter h ps
  | unit hp hd => exact run_unit hp hd ps

theorem run_pieces {new : List Piece} {cs : List Char} (h : PiecesWrite new cs) (ps : List Piece) :
    run ⟨.string ps, ts⟩ (cs ++ rest) = run ⟨.string (new.reverse ++ ps), ts⟩ rest := by
  induction h generalizing ps with
  | nil => rfl
  | cons hp _ ih =>
    rw [List.append_assoc, run_piece hp, ih, List.reverse_cons, List.append_assoc,
      List.singleton_append]

/-- A string is one token, however it is written and whatever follows. -/
theorem run_string {ps : List Piece} {cs : List Char} (h : PiecesWrite ps cs) :
    run ⟨.word [], ts⟩ ('"' :: (cs ++ '"' :: rest)) =
      run ⟨.word [], .scalar (.str ps) :: ts⟩ rest := by
  rw [run_cons (t := ⟨.string [], ts⟩) rfl, run_pieces h, List.append_nil, run_cons rfl,
    List.reverse_reverse]

theorem run_scalar {s : Scalar} {w : List Char} (h : s.Word w) (hr : EndsWord rest) :
    run ⟨.word [], ts⟩ (w ++ rest) = run ⟨.word [], .scalar s :: ts⟩ rest := by
  obtain ⟨rfl, valid, notString⟩ := Scalar.word_iff.mp h
  obtain ⟨notEmpty, chars, stands⟩ := Scalar.write_isWord valid notString
  refine run_word chars ?_ hr
  simp [endWord, notEmpty, stands]

end Scanner

/-! ## Texts of tokens -/

/-- Tokens that may stand side by side.  Two scalars may not: written next to each other, they could
be one word. -/
def Token.Apart : Token → Token → Prop
  | .scalar _, .scalar _ => False
  | _, _ => True

theorem Written.endsWord {ts : List Token} {cs : List Char} (h : Written ts cs)
    (noScalar : ∀ s, .scalar s ∉ ts.head?) : EndsWord cs := by
  cases h with
  | nil => exact .nil
  | blank hc _ => exact .cons (mem_delimiters_of_isSpace hc) _
  | token hw _ =>
    cases hw with
    | mark m =>
      have delimiter : m.char ∈ delimiters := by cases m <;> decide
      exact .cons delimiter _
    | word _ | string _ => exact absurd rfl (noScalar _)

/-- The text of tokens that are apart falls into these tokens. -/
theorem Scanner.run_written {ts : List Token} {cs : List Char} (h : Written ts cs)
    (apart : ts.IsChain Token.Apart) (us : List Token) :
    run ⟨.word [], us⟩ cs = some (us.reverse ++ ts) := by
  induction h generalizing us with
  | nil =>
    rw [List.append_nil]
    rfl
  | @blank c ts cs hc _ ih =>
    rw [run_blank hc, ih apart]
  | @token t ts w cs hw hts ih =>
    have rest := ih apart.tail
    cases hw with
    | mark m =>
      have step : Scanner.step ⟨.word [], us⟩ m.char = some ⟨.word [], .mark m :: us⟩ := by
        cases m <;> rfl
      rw [List.singleton_append, run_cons step, rest, List.reverse_cons, List.append_assoc,
        List.singleton_append]
    | @word s _ hs =>
      have ends : EndsWord cs := by
        refine hts.endsWord fun s' hs' ↦ ?_
        exact apart.rel_head? hs'
      rw [run_scalar hs ends, rest, List.reverse_cons, List.append_assoc, List.singleton_append]
    | string hp =>
      rw [List.cons_append, List.append_assoc, List.singleton_append, run_string hp, rest,
        List.reverse_cons, List.append_assoc, List.singleton_append]

theorem tokens?_of_written {ts : List Token} {cs : List Char} (h : Written ts cs)
    (apart : ts.IsChain Token.Apart) : tokens? cs = some ts :=
  Scanner.run_written h apart []

end Reify.Json

import Reify.Proofs.Json.Word

/-!
# Tokens of values

The tokens that a value is written as, and what the scanner does with blanks and with words.  A mark
and a string end by themselves; a word goes on until something ends it, so the statement about a
word asks that the rest of the text does.
-/

namespace Reify.Json

mutual

/-- The tokens that write a value. -/
def tokens : Json → List Token
  | .scalar s => [.scalar s]
  | .array [] => [.mark .openArray, .mark .closeArray]
  | .array (v :: vs) =>
    .mark .openArray :: (v.tokens ++ (itemTokens vs ++ [.mark .closeArray]))
  | .object [] => [.mark .openObject, .mark .closeObject]
  | .object ((k, v) :: ms) =>
    .mark .openObject :: .scalar (.str k) :: .mark .colon ::
      (v.tokens ++ (memberTokens ms ++ [.mark .closeObject]))

/-- The tokens of the items after the first, each behind a comma. -/
def itemTokens : List Json → List Token
  | [] => []
  | v :: vs => .mark .comma :: (v.tokens ++ itemTokens vs)

/-- The tokens of the members after the first, each behind a comma. -/
def memberTokens : List (List Piece × Json) → List Token
  | [] => []
  | (k, v) :: ms =>
    .mark .comma :: .scalar (.str k) :: .mark .colon :: (v.tokens ++ memberTokens ms)

end

mutual

/-- A value that can be written: all of its scalars can. -/
def Valid : Json → Prop
  | .scalar s => s.Valid
  | .array items => ItemsValid items
  | .object members => MembersValid members

/-- Items that can be written. -/
def ItemsValid : List Json → Prop
  | [] => True
  | v :: vs => v.Valid ∧ ItemsValid vs

/-- Members that can be written. Their keys always can. -/
def MembersValid : List (List Piece × Json) → Prop
  | [] => True
  | (_, v) :: ms => v.Valid ∧ MembersValid ms

end

/-- A layout that puts only blanks between tokens. -/
structure Layout.Blank (l : Layout) : Prop where
  newline : ∀ depth, ∀ c ∈ l.newline depth, isSpace c
  gap : ∀ c ∈ l.gap, isSpace c

theorem Layout.blank_compact : Layout.compact.Blank := by
  constructor
  · intro depth c hc
    cases hc
  · intro c hc
    cases hc

theorem Layout.blank_pretty : Layout.pretty.Blank := by
  constructor
  · intro depth c hc
    rcases List.mem_cons.mp hc with rfl | hc
    · rfl
    · rw [List.eq_of_mem_replicate hc]
      rfl
  · intro c hc
    rw [List.mem_singleton.mp hc]
    rfl

/-! ## One step after another -/

namespace Scanner

/-- The tokens of a text whose rest is still to be read. -/
def run (s : Scanner) (rest : List Char) : Option (List Token) := rest.foldlM step s >>= finish

theorem run_cons {s t : Scanner} {c : Char} (h : s.step c = some t) (rest : List Char) :
    s.run (c :: rest) = t.run rest := by
  rw [run, List.foldlM_cons, h]
  rfl

variable {ts : List Token} {rest : List Char}

theorem run_blank {c : Char} (h : isSpace c) :
    run ⟨.word [], ts⟩ (c :: rest) = run ⟨.word [], ts⟩ rest := by
  have stay : step ⟨.word [], ts⟩ c = some ⟨.word [], ts⟩ := by
    simp [step, h, endWord]
  exact run_cons stay rest

/-! ## Words -/

theorem step_word {w : List Char} {c : Char} (h : c ∉ delimiters) :
    step ⟨.word w, ts⟩ c = some ⟨.word (c :: w), ts⟩ := by
  have hs : isSpace c = false := by
    rw [Bool.eq_false_iff]
    exact fun hc ↦ h (mem_delimiters_of_isSpace hc)
  have hq : c ≠ '"' := by
    rintro rfl
    exact h (by decide)
  have hm : Mark.ofChar? c = none := by
    unfold Mark.ofChar?
    split
    case h_7 => rfl
    all_goals exact absurd (by decide) h
  simp [step, hs, hq, hm]

/-- What a delimiter does depends on the word in front of it only through the tokens so far. -/
theorem step_delimiter {w v : List Char} {us : List Token} {c : Char} (hc : c ∈ delimiters)
    (h : endWord w ts = endWord v us) : step ⟨.word w, ts⟩ c = step ⟨.word v, us⟩ c := by
  have kind : ∀ c ∈ delimiters, isSpace c ∨ c = '"' ∨ ∃ m, Mark.ofChar? c = some m := by
    simp [delimiters, isSpace, Mark.ofChar?]
  rcases kind c hc with hs | rfl | ⟨m, hm⟩
  · simp [step, hs, h]
  · simp [step, h]
  · simp [step, hm, h]

theorem run_word {w v : List Char} {s : Scalar} (hw : ∀ c ∈ w, c ∉ delimiters)
    (hs : endWord (w.reverse ++ v) ts = some (.scalar s :: ts)) (hr : EndsWord rest) :
    run ⟨.word v, ts⟩ (w ++ rest) = run ⟨.word [], .scalar s :: ts⟩ rest := by
  induction w generalizing v with
  | nil =>
    have ended : endWord v ts = endWord [] (.scalar s :: ts) := hs
    cases rest with
    | nil => simp [run, finish, ended]
    | cons c rest =>
      rw [List.nil_append, run, run, List.foldlM_cons, List.foldlM_cons,
        step_delimiter (hr c rfl) ended]
  | cons c w ih =>
    rw [List.cons_append, run_cons (step_word (hw c List.mem_cons_self))]
    refine ih (fun d hd ↦ hw d (List.mem_cons_of_mem c hd)) ?_
    simpa using hs

end Scanner

end Reify.Json

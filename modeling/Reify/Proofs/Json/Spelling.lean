import Reify.Proofs.Json.Parser
import Reify.Proofs.Json.Writing

/-!
# Texts of values

A text spells a value if it writes the tokens of the value.  The parser gives a text exactly the
value that it spells.  In one direction written tokens are read back; in the other, what the parser
has been given is at every step what its open brackets and the value at hand are written as.
-/

namespace Reify.Json

/-- A text spells a value if it writes the tokens of that value. -/
def Spells (s : String) (j : Json) : Prop := Written j.tokens s.toList

/-! ## Values with one more part -/

/-- Items that a comma follows. -/
def itemsBefore (vs : List Json) : List Token := vs.flatMap fun v ↦ v.tokens ++ [.mark .comma]

/-- Members that a comma follows. -/
def membersBefore (ms : List (List Piece × Json)) : List Token :=
  ms.flatMap fun m ↦ .scalar (.str m.1) :: .mark .colon :: (m.2.tokens ++ [.mark .comma])

theorem tokens_itemTokens (v : Json) (vs : List Json) (w : Json) :
    v.tokens ++ itemTokens (vs ++ [w]) = itemsBefore (v :: vs) ++ w.tokens := by
  induction vs generalizing v with
  | nil => simp [itemTokens, itemsBefore]
  | cons u vs ih =>
    have rest := ih u
    simp only [itemsBefore, List.flatMap_cons, List.append_assoc] at rest ⊢
    rw [List.cons_append, itemTokens, rest]
    rfl

/-- An array is written as its items but the last, each before a comma, and the last. -/
theorem tokens_array_snoc (vs : List Json) (v : Json) :
    (array (vs ++ [v])).tokens =
      .mark .openArray :: (itemsBefore vs ++ (v.tokens ++ [.mark .closeArray])) := by
  cases vs with
  | nil => simp [tokens, itemTokens, itemsBefore]
  | cons u vs =>
    rw [List.cons_append, tokens, ← List.append_assoc, tokens_itemTokens, List.append_assoc]

theorem tokens_memberTokens (m : List Piece × Json) (ms : List (List Piece × Json))
    (k : List Piece) (w : Json) :
    .scalar (.str m.1) :: .mark .colon :: (m.2.tokens ++ memberTokens (ms ++ [(k, w)])) =
      membersBefore (m :: ms) ++ .scalar (.str k) :: .mark .colon :: w.tokens := by
  induction ms generalizing m with
  | nil => simp [memberTokens, membersBefore]
  | cons u ms ih =>
    have rest := ih u
    simp only [membersBefore, List.flatMap_cons, List.append_assoc, List.cons_append] at rest ⊢
    rw [memberTokens, rest]
    rfl

theorem tokens_object_snoc (ms : List (List Piece × Json)) (k : List Piece) (v : Json) :
    (object (ms ++ [(k, v)])).tokens =
      .mark .openObject :: (membersBefore ms ++ (.scalar (.str k) :: .mark .colon ::
        (v.tokens ++ [.mark .closeObject]))) := by
  cases ms with
  | nil => simp [tokens, memberTokens, membersBefore]
  | cons m ms =>
    have all := congrArg (· ++ [Token.mark .closeObject]) (tokens_memberTokens m ms k v)
    simp only [List.append_assoc, List.cons_append] at all
    rw [List.cons_append, tokens, all]

/-! ## What the parser has been given -/

/-- The tokens that left a bracket open, from the bracket on. -/
def Frame.consumed : Frame → List Token
  | .items done => .mark .openArray :: itemsBefore done.reverse
  | .members done k =>
    .mark .openObject :: (membersBefore done.reverse ++ [.scalar (.str k), .mark .colon])

/-- The tokens since the innermost bracket or value began. -/
def Expect.consumed : Expect → List Token
  | .value => []
  | .firstItem => [.mark .openArray]
  | .firstKey => [.mark .openObject]
  | .key done => .mark .openObject :: membersBefore done.reverse
  | .colon done k => .mark .openObject :: (membersBefore done.reverse ++ [.scalar (.str k)])
  | .after v => v.tokens

/-- The tokens that brought the parser where it is. -/
def Parser.consumed (p : Parser) : List Token :=
  p.frames.reverse.flatMap Frame.consumed ++ p.expect.consumed

namespace Parser

theorem consumed_beginValue {frames : List Frame} {t : Token} {q : Parser}
    (h : beginValue frames t = some q) :
    q.consumed = frames.reverse.flatMap Frame.consumed ++ [t] := by
  unfold beginValue at h
  split at h <;> cases h <;> rfl

theorem consumed_endValue {v : Json} {frame : Frame} {frames : List Frame} {t : Token} {q : Parser}
    (h : endValue v frame frames t = some q) :
    q.consumed = consumed ⟨.after v, frame :: frames⟩ ++ [t] := by
  unfold endValue at h
  split at h <;> cases h
  · simp [consumed, Frame.consumed, Expect.consumed, itemsBefore]
  · simp [consumed, Frame.consumed, Expect.consumed, tokens_array_snoc]
  · simp [consumed, Frame.consumed, Expect.consumed, membersBefore]
  · simp [consumed, Frame.consumed, Expect.consumed, tokens_object_snoc]

theorem consumed_step {p q : Parser} {t : Token} (h : p.step t = some q) :
    q.consumed = p.consumed ++ [t] := by
  obtain ⟨expect, frames⟩ := p
  cases expect with
  | value =>
    rw [consumed_beginValue h]
    simp [consumed, Expect.consumed]
  | firstItem =>
    simp only [step] at h
    split at h
    · cases h
      simp [consumed, Expect.consumed, tokens]
    · rw [consumed_beginValue h]
      simp [consumed, Expect.consumed, Frame.consumed, itemsBefore]
  | firstKey =>
    simp only [step] at h
    split at h <;> cases h <;> simp [consumed, Expect.consumed, tokens, membersBefore]
  | key done =>
    simp only [step] at h
    split at h <;> cases h
    simp [consumed, Expect.consumed]
  | colon done k =>
    simp only [step] at h
    split at h <;> cases h
    simp [consumed, Expect.consumed, Frame.consumed]
  | after v =>
    simp only [step] at h
    split at h
    · cases h
    · exact consumed_endValue h

theorem consumed_foldlM {ts : List Token} {p q : Parser} (h : ts.foldlM step p = some q) :
    q.consumed = p.consumed ++ ts := by
  induction ts generalizing p with
  | nil =>
    cases h
    rw [List.append_nil]
  | cons t ts ih =>
    rw [List.foldlM_cons] at h
    obtain ⟨next, first, others⟩ := Option.bind_eq_some_iff.mp h
    rw [ih others, consumed_step first, List.append_assoc, List.singleton_append]

/-- No scalar follows a value. -/
theorem step_after_scalar (v : Json) (frames : List Frame) (s : Scalar) :
    step ⟨.after v, frames⟩ (.scalar s) = none := by
  cases frames with
  | nil => rfl
  | cons frame frames =>
    cases frame with
    | items done => rfl
    | members done k => rfl

/-- Behind a scalar the parser takes no other one. -/
theorem step_scalar_step {p q : Parser} {s : Scalar} (h : p.step (.scalar s) = some q)
    (s' : Scalar) : q.step (.scalar s') = none := by
  obtain ⟨expect, frames⟩ := p
  cases expect with
  | value | firstItem =>
    cases h
    exact step_after_scalar _ _ s'
  | firstKey | key done =>
    cases s with
    | str k =>
      cases h
      rfl
    | null | bool _ | nat _ | real _ => cases h
  | colon done k => cases h
  | after v =>
    rw [step_after_scalar] at h
    cases h

theorem isChain_of_foldlM {ts : List Token} {p q : Parser} (h : ts.foldlM step p = some q) :
    ts.IsChain Token.Apart := by
  induction ts generalizing p with
  | nil => exact .nil
  | cons t ts ih =>
    rw [List.foldlM_cons] at h
    obtain ⟨next, first, others⟩ := Option.bind_eq_some_iff.mp h
    refine (ih others).cons ?_
    intro u hu
    cases ts with
    | nil => cases hu
    | cons _ ts =>
      cases hu
      rw [List.foldlM_cons] at others
      obtain ⟨_, second, _⟩ := Option.bind_eq_some_iff.mp others
      cases t with
      | mark m => trivial
      | scalar s =>
        cases u with
        | mark m => trivial
        | scalar s' =>
          rw [step_scalar_step first s'] at second
          cases second

end Parser

/-- Tokens give the value whose tokens they are. -/
theorem ofTokens?_eq_some_iff {ts : List Token} {j : Json} :
    ofTokens? ts = some j ↔ ts = j.tokens := by
  constructor
  · intro h
    obtain ⟨p, run, finish⟩ := Option.bind_eq_some_iff.mp h
    have all := Parser.consumed_foldlM run
    match p, finish with
    | ⟨.after v, []⟩, finish =>
      cases finish
      exact all.symm
  · rintro rfl
    exact ofTokens?_tokens j

theorem isChain_tokens (j : Json) : j.tokens.IsChain Token.Apart := by
  obtain ⟨p, run, -⟩ := Option.bind_eq_some_iff.mp (ofTokens?_tokens j)
  exact Parser.isChain_of_foldlM run

/-- The parser gives a text the value that it spells, and only texts that spell one have a value. -/
theorem parse?_eq_some_iff {s : String} {j : Json} : parse? s = some j ↔ Spells s j := by
  constructor
  · intro h
    obtain ⟨ts, scanned, parsed⟩ := Option.bind_eq_some_iff.mp h
    obtain rfl := ofTokens?_eq_some_iff.mp parsed
    exact written_of_tokens? scanned
  · intro h
    rw [parse?, tokens?_of_written h (isChain_tokens j)]
    exact ofTokens?_tokens j

/-- A written value is read back from its text, whatever blanks the layout puts into it. -/
theorem parse?_write {l : Layout} (hl : l.Blank) {j : Json} (hj : j.Valid) :
    parse? (String.ofList (write l 0 j)) = some j := by
  rw [parse?_eq_some_iff, Spells, String.toList_ofList]
  exact written_write hl j hj 0

theorem parse?_compact {j : Json} (hj : j.Valid) : parse? j.compact = some j :=
  parse?_write Layout.blank_compact hj

theorem parse?_pretty {j : Json} (hj : j.Valid) : parse? j.pretty = some j :=
  parse?_write Layout.blank_pretty hj

end Reify.Json

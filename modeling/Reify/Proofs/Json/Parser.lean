import Reify.Json.Parser
import Reify.Proofs.Json.Scanner

/-!
# Reading tokens

What the parser does with a value depends neither on the brackets around it nor on what follows it.
So each value is read back from its tokens.
-/

namespace Reify.Json

namespace Parser

/-- The value of tokens whose rest is still to be read. -/
def run (p : Parser) (rest : List Token) : Option Json := rest.foldlM step p >>= finish

theorem run_cons {p q : Parser} {t : Token} (h : p.step t = some q) (rest : List Token) :
    p.run (t :: rest) = q.run rest := by
  rw [run, List.foldlM_cons, h]
  rfl

/-- No value starts with the end of an array, so one may stand where the first item is expected. -/
theorem run_firstItem (v : Json) (frames : List Frame) (rest : List Token) :
    run ⟨.firstItem, frames⟩ (v.tokens ++ rest) =
      run ⟨.value, .items [] :: frames⟩ (v.tokens ++ rest) := by
  cases v with
  | scalar s => rfl
  | array items =>
    cases items with
    | nil => rfl
    | cons v vs => rfl
  | object members =>
    cases members with
    | nil => rfl
    | cons m ms => rfl

mutual

/-- The tokens of a value leave the parser behind that value, in the brackets it was in. -/
theorem run_tokens (j : Json) (frames : List Frame) (rest : List Token) :
    run ⟨.value, frames⟩ (j.tokens ++ rest) = run ⟨.after j, frames⟩ rest := by
  cases j with
  | scalar s => rfl
  | array items =>
    cases items with
    | nil => rfl
    | cons v vs =>
      simp only [tokens, List.cons_append, List.append_assoc, List.nil_append]
      rw [run_cons (q := ⟨.firstItem, frames⟩) rfl, run_firstItem,
        run_tokens v (.items [] :: frames), run_itemTokens vs v [] frames]
      rfl
  | object members =>
    cases members with
    | nil => rfl
    | cons m ms =>
      obtain ⟨k, v⟩ := m
      simp only [tokens, List.cons_append, List.append_assoc, List.nil_append]
      rw [run_cons (q := ⟨.firstKey, frames⟩) rfl, run_cons (q := ⟨.colon [] k, frames⟩) rfl,
        run_cons (q := ⟨.value, .members [] k :: frames⟩) rfl, run_tokens v,
        run_memberTokens ms k v [] frames]
      rfl

/-- The items after the first and the end of the array leave the parser behind the array. -/
theorem run_itemTokens (vs : List Json) (v : Json) (done : List Json) (frames : List Frame)
    (rest : List Token) :
    run ⟨.after v, .items done :: frames⟩ (itemTokens vs ++ .mark .closeArray :: rest) =
      run ⟨.after (.array (done.reverse ++ v :: vs)), frames⟩ rest := by
  cases vs with
  | nil =>
    rw [itemTokens, List.nil_append, run_cons rfl, List.reverse_cons]
  | cons w vs =>
    rw [itemTokens, List.cons_append, List.append_assoc, run_cons rfl, run_tokens w,
      run_itemTokens vs w (v :: done) frames, List.reverse_cons, List.append_assoc]
    rfl

/-- The members after the first and the end of the object leave the parser behind the object. -/
theorem run_memberTokens (ms : List (List Piece × Json)) (k : List Piece) (v : Json)
    (done : List (List Piece × Json)) (frames : List Frame) (rest : List Token) :
    run ⟨.after v, .members done k :: frames⟩ (memberTokens ms ++ .mark .closeObject :: rest) =
      run ⟨.after (.object (done.reverse ++ (k, v) :: ms)), frames⟩ rest := by
  cases ms with
  | nil =>
    rw [memberTokens, List.nil_append, run_cons rfl, List.reverse_cons]
  | cons m ms =>
    obtain ⟨k', w⟩ := m
    simp only [memberTokens, List.cons_append, List.append_assoc]
    rw [run_cons (q := ⟨.key ((k, v) :: done), frames⟩) rfl,
      run_cons (q := ⟨.colon ((k, v) :: done) k', frames⟩) rfl,
      run_cons (q := ⟨.value, .members ((k, v) :: done) k' :: frames⟩) rfl, run_tokens w,
      run_memberTokens ms k' w ((k, v) :: done) frames, List.reverse_cons, List.append_assoc]
    rfl

end

end Parser

/-- Every value is read back from its tokens. -/
theorem ofTokens?_tokens (j : Json) : ofTokens? j.tokens = some j := by
  have h := Parser.run_tokens j [] []
  rw [List.append_nil] at h
  exact h

end Reify.Json

import Reify.Proofs.Module.Outcome
import Reify.Spec
import Mathlib.Data.List.Infix

/-!
# Names in comments

The name of a unit is written in a comment at the head of its module, and each specification stands
below a comment with the name of its declaration.  The proof assistant reads `(*` and `*)` from left
to right, without overlap, as the two ends of a comment, and comments nest.  Names are written as
they are, so they take part in this.

The comment around a name ends where it is meant to end exactly if the ends of comments in the name
match each other (`Comment.rest?_name_iff`).  Most names hold none.  But the type `void (*)(int)`
opens a comment and does not close it, so that a name with it swallows the specification below.
-/

namespace Reify

namespace Comment

/-- The mark at one end of a comment. -/
inductive Delimiter where
  | opening
  | closing
deriving DecidableEq, Repr

/-- The marks at the ends of comments in a text. -/
def delimiters : List Char → List Delimiter
  | '(' :: '*' :: cs => .opening :: delimiters cs
  | '*' :: ')' :: cs => .closing :: delimiters cs
  | _ :: cs => delimiters cs
  | [] => []

/-- What follows the place where all comments are closed, if some are open at the start. -/
def rest? : Nat → List Char → Option (List Char)
  | 0, cs => some cs
  | n + 1, '(' :: '*' :: cs => rest? (n + 2) cs
  | n + 1, '*' :: ')' :: cs => rest? n cs
  | n + 1, _ :: cs => rest? (n + 1) cs
  | _ + 1, [] => none

/-- What follows the comment that a text starts with, if it does, and if the comment is closed. -/
def after? (text : String) : Option String :=
  match text.toList with
  | '(' :: '*' :: cs => (rest? 1 cs).map String.ofList
  | _ => none

/-- None of some ends of comments closes more than those before it opened, and `n` besides. -/
def StayWithin (n : Nat) (ms : List Delimiter) : Prop :=
  ∀ p, p <+: ms → p.count .closing ≤ n + p.count .opening

/-- The ends of comments in a text match: none closes what the text has not opened, and nothing that
it opens is left open. -/
structure Matched (text : String) : Prop where
  within : StayWithin 0 (delimiters text.toList)
  closed : (delimiters text.toList).count .closing = (delimiters text.toList).count .opening

instance (n : Nat) (ms : List Delimiter) : Decidable (StayWithin n ms) :=
  decidable_of_iff (∀ p ∈ ms.inits, p.count .closing ≤ n + p.count .opening)
    (forall_congr' fun p ↦ imp_congr_left (List.mem_inits p ms))

instance (text : String) : Decidable (Matched text) :=
  decidable_of_iff
    (StayWithin 0 (delimiters text.toList) ∧
      (delimiters text.toList).count .closing = (delimiters text.toList).count .opening)
    ⟨fun ⟨within, closed⟩ ↦ ⟨within, closed⟩, fun ⟨within, closed⟩ ↦ ⟨within, closed⟩⟩

/-! ## Ends of comments, one after the other -/

theorem stayWithin_nil (n : Nat) : StayWithin n [] := by
  intro p hp
  rw [List.prefix_nil.mp hp]
  exact Nat.zero_le _

/-- What the first of some ends of comments leaves to be shown. -/
theorem stayWithin_cons {n : Nat} {m : Delimiter} {ms : List Delimiter} :
    StayWithin n (m :: ms) ↔
      ∀ p, p <+: ms → (m :: p).count .closing ≤ n + (m :: p).count .opening := by
  constructor
  · exact fun h p hp ↦ h (m :: p) (List.cons_prefix_cons.mpr ⟨rfl, hp⟩)
  · intro h p hp
    rcases List.prefix_cons_iff.mp hp with rfl | ⟨p, rfl, inner⟩
    · exact Nat.zero_le _
    · exact h p inner

theorem stayWithin_opening {n : Nat} {ms : List Delimiter} :
    StayWithin n (.opening :: ms) ↔ StayWithin (n + 1) ms := by
  rw [stayWithin_cons]
  refine forall₂_congr fun p _ ↦ ?_
  rw [List.count_cons_of_ne (by decide), List.count_cons_self, Nat.add_right_comm, Nat.add_assoc]

theorem stayWithin_closing {n : Nat} {ms : List Delimiter} :
    StayWithin (n + 1) (.closing :: ms) ↔ StayWithin n ms := by
  rw [stayWithin_cons]
  refine forall₂_congr fun p _ ↦ ?_
  rw [List.count_cons_self, List.count_cons_of_ne (by decide), Nat.add_right_comm,
    Nat.add_le_add_iff_right]

theorem not_stayWithin_closing {ms : List Delimiter} : ¬StayWithin 0 (.closing :: ms) := by
  intro h
  have first := h [.closing] (List.cons_prefix_cons.mpr ⟨rfl, List.nil_prefix⟩)
  exact absurd first (by decide)

/-! ## Comments that are closed -/

/-- What follows a comment that is closed is shorter than what the comment started with. -/
theorem length_of_rest? {n : Nat} {cs ds : List Char} (h : rest? (n + 1) cs = some ds) :
    ds.length < cs.length := by
  -- With no comment open nothing is read, so what is read is counted against the comments open.
  suffices ∀ n cs, rest? n cs = some ds → ds.length + min n 1 ≤ cs.length by
    have shorter := this (n + 1) cs h
    omega
  intro n cs h
  fun_induction rest? n cs with
  | case1 cs =>
    cases h
    exact Nat.le_refl _
  | case2 n cs ih =>
    have inner := ih h
    simp only [List.length_cons]
    omega
  | case3 n cs ih =>
    have inner := ih h
    simp only [List.length_cons]
    omega
  | case4 n c cs _ _ ih =>
    have inner := ih h
    simp only [List.length_cons]
    omega
  | case5 n => cases h

/-- A blank ends what might have been the first half of a mark. -/
theorem append_blank_ne {c : Char} (hc : c ≠ ' ') {cs : List Char}
    (h : ∀ cs', cs = c :: cs' → False) (ds : List Char) :
    ∀ cs', cs ++ ' ' :: ds = c :: cs' → False := by
  intro cs' same
  cases cs with
  | nil => exact hc (List.cons.inj same).1.symm
  | cons c' cs =>
    obtain ⟨rfl, -⟩ := List.cons.inj same
    exact h cs rfl

/-- A character that is no half of a mark is passed over, in a comment. -/
theorem rest?_cons {n : Nat} {c : Char} {cs : List Char}
    (ho : ∀ cs', c = '(' → cs = '*' :: cs' → False)
    (hc : ∀ cs', c = '*' → cs = ')' :: cs' → False) (ds : List Char) :
    rest? (n + 1) (c :: (cs ++ ' ' :: ds)) = rest? (n + 1) (cs ++ ' ' :: ds) := by
  apply rest?.eq_4
  · intro cs' h
    exact append_blank_ne (by decide) (fun cs' ↦ ho cs' h) ds cs'
  · intro cs' h
    exact append_blank_ne (by decide) (fun cs' ↦ hc cs' h) ds cs'

/-- In front of a blank, a text that closes no more comments than are open is passed over, and
leaves open what it has opened and not closed. -/
theorem rest?_append_of_stayWithin {n : Nat} {cs : List Char} (ds : List Char)
    (h : StayWithin n (delimiters cs)) :
    rest? (n + 1) (cs ++ ' ' :: ds) = rest? (n + 1 + (delimiters cs).count .opening -
      (delimiters cs).count .closing) ds := by
  -- Along the reading of marks, since each of them moves the bound `n` by one.
  fun_induction delimiters cs generalizing n with
  | case1 cs ih =>
    have inner := ih (stayWithin_opening.mp h)
    rw [List.count_cons_self, List.count_cons_of_ne (by decide), ← Nat.add_assoc,
      Nat.add_right_comm _ _ 1]
    exact inner
  | case2 cs ih =>
    cases n with
    | zero => exact absurd h not_stayWithin_closing
    | succ n =>
      have inner := ih (stayWithin_closing.mp h)
      rw [List.count_cons_self, List.count_cons_of_ne (by decide),
        Nat.add_right_comm _ 1 (List.count _ _), Nat.add_sub_add_right]
      exact inner
  | case3 c cs ho hc ih => exact (rest?_cons ho hc ds).trans (ih h)
  | case4 => rfl

/-- A text that closes more comments than are open ends all of them before it ends itself. -/
theorem exists_rest?_append_of_not_stayWithin {n : Nat} {cs : List Char} (ds : List Char)
    (h : ¬StayWithin n (delimiters cs)) :
    ∃ inner, rest? (n + 1) (cs ++ ' ' :: ds) = some (inner ++ ' ' :: ds) := by
  fun_induction delimiters cs generalizing n with
  | case1 cs ih => exact ih (mt stayWithin_opening.mpr h)
  | case2 cs ih =>
    cases n with
    | zero =>
      refine ⟨cs, ?_⟩
      rw [List.cons_append, List.cons_append, rest?, rest?]
    | succ n => exact ih (mt stayWithin_closing.mpr h)
  | case3 c cs ho hc ih =>
    rw [List.cons_append, rest?_cons ho hc]
    exact ih h
  | case4 => exact absurd (stayWithin_nil n) h

/-- Where the comment around a name ends.  It ends at the mark behind the name exactly if the ends
of comments in the name match. -/
theorem rest?_name_iff (name : String) (ds : List Char) :
    rest? 1 (name.toList ++ ' ' :: '*' :: ')' :: ds) = some ds ↔ Matched name := by
  constructor
  · intro h
    have within : StayWithin 0 (delimiters name.toList) := by
      by_contra early
      obtain ⟨inner, ended⟩ := exists_rest?_append_of_not_stayWithin ('*' :: ')' :: ds) early
      have same := congrArg List.length (Option.some.inj (h.symm.trans ended))
      simp at same
      omega
    refine ⟨within, ?_⟩
    rw [rest?_append_of_stayWithin _ within] at h
    have bound := within _ (List.prefix_refl _)
    by_contra uneven
    -- One comment more than the one around the name is open, and goes on behind it.
    obtain ⟨n, hn⟩ : ∃ n, 0 + 1 + (delimiters name.toList).count .opening -
        (delimiters name.toList).count .closing = n + 2 :=
      Nat.exists_eq_add_of_le' (by omega)
    rw [hn] at h
    exact absurd (length_of_rest? (n := n) h) (Nat.lt_irrefl _)
  · rintro ⟨within, closed⟩
    rw [rest?_append_of_stayWithin _ within, closed, Nat.add_sub_cancel, rest?, rest?]

/-- Where a comment with a label and a name ends. The label holds no ends of comments. -/
theorem after?_eq_some_iff (label : String) (h : delimiters label.toList = [])
    {name body text : String} (ht : text = "(*" ++ label ++ " " ++ name ++ " *)" ++ body) :
    after? text = some body ↔ Matched name := by
  have chars : text.toList = '(' :: '*' ::
      (label.toList ++ ' ' :: (name.toList ++ ' ' :: '*' :: ')' :: body.toList)) := by
    simp [ht]
  have labelled : StayWithin 0 (delimiters label.toList) := h ▸ stayWithin_nil 0
  have passed : rest? 1 (label.toList ++ ' ' :: (name.toList ++ ' ' :: '*' :: ')' :: body.toList)) =
      rest? 1 (name.toList ++ ' ' :: '*' :: ')' :: body.toList) := by
    have skipped := rest?_append_of_stayWithin (name.toList ++ ' ' :: '*' :: ')' :: body.toList)
      labelled
    rwa [h] at skipped
  simp only [← rest?_name_iff name body.toList, after?, chars, passed, Option.map_eq_some_iff]
  constructor
  · rintro ⟨cs, found, rfl⟩
    rw [String.toList_ofList] at found ⊢
    exact found
  · exact fun found ↦ ⟨_, found, String.ofList_toList⟩

/-- Where the comments around names end.  The comment at the head of a module ends behind the name
of the unit, and the comment above a specification behind the name of its declaration, exactly if
the ends of comments in the name match.  Then the rest of the module, or the specification and all
below it, follows the comment, and no part of the name does. -/
theorem ends_behind_name_iff (m : Module) {unit text : String}
    (printed : (m.print unit).result = .ok text) (before : List Spec) (s : Spec)
    (below : List Spec) :
    (∃ body, text = "(* cpp2v: " ++ unit ++ " *)" ++ body ∧
      (after? text = some body ↔ Matched unit)) ∧
    let body := "\n" ++ Text.trim s.text ++ "\n\n" ++ Spec.renderAll below
    Spec.renderAll (before ++ s :: below) =
        Spec.renderAll before ++ ("(* " ++ s.name ++ " *)" ++ body) ∧
      (after? ("(* " ++ s.name ++ " *)" ++ body) = some body ↔ Matched s.name) := by
  refine ⟨?_, ?_, ?_⟩
  · obtain ⟨sections, -, rfl⟩ := Module.print_eq_ok_iff.mp printed
    refine ⟨"\n" ++ String.join (sections.map Section.text), ?_, ?_⟩
    · apply String.toList_inj.mp
      simp [Module.heading]
    · apply after?_eq_some_iff " cpp2v:" rfl
      apply String.toList_inj.mp
      simp [Module.heading]
  · apply String.toList_inj.mp
    simp [Spec.renderAll, Spec.render]
  · apply after?_eq_some_iff "" rfl
    apply String.toList_inj.mp
    simp

/-- Names may hold comments, as long as they close them.  The second pointer here closes what the
first one opens. -/
theorem ends_behind_name_iff_stars :
    let s : Spec := ⟨1, "apply<void (*)(char *)>", "P"⟩
    ∃ text, (Module.empty.print "a(**).cpp").result = .ok text ∧
      (∃ body, text = "(* cpp2v: a(**).cpp *)" ++ body ∧ after? text = some body) ∧
      after? (Spec.renderAll [s, s]) = some ("\nP\n\n" ++ Spec.renderAll [s]) := by
  intro s
  have printed : (Module.empty.print "a(**).cpp").result = .ok _ := rfl
  obtain ⟨⟨body, split, ends⟩, rendered, named⟩ := ends_behind_name_iff .empty printed [] s [s]
  refine ⟨_, printed, ⟨body, split, ends.mpr (by decide)⟩, ?_⟩
  have whole : Spec.renderAll [s, s] = "" ++ _ := rendered
  have below : "\n" ++ Text.trim s.text ++ "\n\n" = "\nP\n\n" := by decide
  rw [whole, String.empty_append, ← below]
  exact named.mpr (by decide)

/-- The pointer to a function in the name opens a comment that swallows the specification. -/
theorem pointer_swallows_specification :
    ¬Matched "ns::apply<void (*)(int)>" ∧
      after? (Spec.renderAll [⟨1, "ns::apply<void (*)(int)>", "P"⟩]) = none := by
  decide

end Comment

end Reify

import Reify.Emission

/-!
# Balanced commands

Commands are balanced if each bracket that they open is closed again, and they close no others.
Terms, sections and modules are written by balanced commands, so a printer ends with as many open
brackets as it had before.  On the way there it never has fewer, and where it closes a bracket it
has more.
-/

namespace Reify

namespace Printer

namespace Command

/-- Whether a command opens a bracket. -/
def opens : Command → Bool
  | .ctor _ paren => paren
  | .beginList | .beginRecord => true
  | .endCtor | .cons | .endList | .field _ | .separator | .endRecord | .str _ | .int _ | .bool _
  | .text _ | .space | .newline => false

/-- Whether a command closes a bracket. -/
def closes : Command → Bool
  | .endCtor | .endList | .endRecord => true
  | .ctor _ _ | .beginList | .cons | .beginRecord | .field _ | .separator | .str _ | .int _
  | .bool _ | .text _ | .space | .newline => false

theorem depth_of_opens {c : Command} (h : c.opens) (n : Nat) : c.depth n = n + 1 := by
  cases c with
  | ctor name paren => simp only [depth, show paren = true from h, if_true]
  | beginList | beginRecord => rfl
  | _ => cases h

theorem depth_of_closes {c : Command} (h : c.closes) (n : Nat) : c.depth n = n - 1 := by
  cases c with
  | endCtor | endList | endRecord => rfl
  | _ => cases h

theorem closes_of_opens {c : Command} (h : c.opens) : c.closes = false := by
  cases c with
  | endCtor | endList | endRecord => cases h
  | _ => rfl

theorem depth_of_keeps {c : Command} (ho : c.opens = false) (hc : c.closes = false) (n : Nat) :
    c.depth n = n := by
  cases c with
  | ctor name paren => simp only [depth, show paren = false from ho, Bool.false_eq_true, if_false]
  | endCtor | endList | endRecord => cases hc
  | beginList | beginRecord => cases ho
  | _ => rfl

/-- Only a command that closes a bracket lessens the number of those that are open. -/
theorem le_depth_of_closes {c : Command} (h : c.closes = false) (n : Nat) : n ≤ c.depth n := by
  cases ho : c.opens with
  | true =>
    rw [depth_of_opens ho]
    exact Nat.le_succ n
  | false => exact Nat.le_of_eq (depth_of_keeps ho h n).symm

end Command

/-- Whether some commands close no bracket but where more than `floor` brackets are open. -/
def StaysAbove (floor : Nat) : Printer → List Command → Prop
  | _, [] => True
  | p, c :: cs => (c.closes → floor < p.depth) ∧ StaysAbove floor (p.perform c) cs

section StaysAbove

variable {floor : Nat}

theorem staysAbove_append {p : Printer} {cs ds : List Command} :
    StaysAbove floor p (cs ++ ds) ↔
      StaysAbove floor p cs ∧ StaysAbove floor (p.performAll cs) ds := by
  induction cs generalizing p with
  | nil => exact (iff_of_eq (true_and _)).symm
  | cons c cs ih => exact (and_congr_right fun _ ↦ ih).trans and_assoc.symm

/-- Commands that close no brackets of before leave all of these open. -/
theorem StaysAbove.le_depth {p : Printer} {cs : List Command} (h : StaysAbove floor p cs)
    (hp : floor ≤ p.depth) : floor ≤ (p.performAll cs).depth := by
  induction cs generalizing p with
  | nil => exact hp
  | cons c cs ih =>
    refine ih h.2 ?_
    cases hc : c.closes with
    | true =>
      have more : floor < p.depth := h.1 hc
      change floor ≤ c.depth p.depth
      rw [Command.depth_of_closes hc]
      exact Nat.le_sub_one_of_lt more
    | false => exact Nat.le_trans hp (Command.le_depth_of_closes hc p.depth)

end StaysAbove

/-- Rows of commands in which brackets are closed by those that they are opened for. -/
inductive Balanced : List Command → Prop
  | nil : Balanced []
  | keep {c : Command} (ho : c.opens = false) (hc : c.closes = false) : Balanced [c]
  | append {cs ds : List Command} (hcs : Balanced cs) (hds : Balanced ds) : Balanced (cs ++ ds)
  | bracket {o c : Command} {cs : List Command} (ho : o.opens) (hc : c.closes)
    (hcs : Balanced cs) : Balanced (o :: (cs ++ [c]))

namespace Balanced

/-- One more command in front that neither opens nor closes a bracket. -/
theorem cons {c : Command} {cs : List Command} (ho : c.opens = false) (hc : c.closes = false)
    (hcs : Balanced cs) : Balanced (c :: cs) :=
  (keep ho hc).append hcs

/-- Balanced commands leave the number of open brackets as it was. -/
theorem depth_performAll {cs : List Command} (h : Balanced cs) (p : Printer) :
    (p.performAll cs).depth = p.depth := by
  induction h generalizing p with
  | nil => rfl
  | keep ho hc => exact Command.depth_of_keeps ho hc p.depth
  | append hcs hds ihc ihd => rw [performAll_append, ihd, ihc]
  | @bracket o c cs ho hc hcs ih =>
    have opened : (p.perform o).depth = p.depth + 1 := Command.depth_of_opens ho p.depth
    have inner := ih (p.perform o)
    calc (p.performAll (o :: (cs ++ [c]))).depth
        = (((p.perform o).performAll cs).perform c).depth := by
          rw [← List.cons_append, performAll_append]
          rfl
      _ = ((p.perform o).performAll cs).depth - 1 := Command.depth_of_closes hc _
      _ = p.depth := by rw [inner, opened, Nat.add_sub_cancel]

/-- Balanced commands close none but the brackets that they open. -/
theorem staysAbove {cs : List Command} (h : Balanced cs) {floor : Nat} {p : Printer}
    (hp : floor ≤ p.depth) : StaysAbove floor p cs := by
  induction h generalizing p with
  | nil => trivial
  | keep ho hc => exact ⟨fun closes ↦ absurd closes (Bool.eq_false_iff.mp hc), trivial⟩
  | append hcs hds ihc ihd =>
    have between := hcs.depth_performAll p
    exact staysAbove_append.mpr ⟨ihc hp, ihd (between ▸ hp)⟩
  | @bracket o c cs ho hc hcs ih =>
    have opened : (p.perform o).depth = p.depth + 1 := Command.depth_of_opens ho p.depth
    have above : floor < (p.perform o).depth := opened ▸ Nat.lt_succ_of_le hp
    refine ⟨fun closes ↦ ?_, staysAbove_append.mpr ⟨ih (Nat.le_of_lt above), fun _ ↦ ?_, trivial⟩⟩
    · rw [Command.closes_of_opens ho] at closes
      cases closes
    · rw [hcs.depth_performAll]
      exact above

/-- While balanced commands are carried out, never fewer brackets are open than before. -/
theorem depth_le {done rest : List Command} (h : Balanced (done ++ rest)) (p : Printer) :
    p.depth ≤ (p.performAll done).depth :=
  (staysAbove_append.mp (h.staysAbove (Nat.le_refl p.depth))).1.le_depth (Nat.le_refl p.depth)

/-- Where balanced commands close a bracket, it is one that they have opened. -/
theorem depth_lt_of_closes {done rest : List Command} {c : Command}
    (h : Balanced (done ++ c :: rest)) (hc : c.closes) (p : Printer) :
    p.depth < (p.performAll done).depth :=
  (staysAbove_append.mp (h.staysAbove (Nat.le_refl p.depth))).2.1 hc

end Balanced

end Printer

open Printer

namespace Term

mutual

/-- A term is written by balanced commands, in whatever position. -/
theorem balanced_commands (t : Term) (isArg : Bool) : Balanced (t.commands isArg) := by
  cases t with
  | ctor name args =>
    have inner := balanced_argCommands args
    rw [commands]
    split
    · exact .keep rfl rfl
    · cases isArg with
      | false =>
        rw [if_neg Bool.false_ne_true, List.append_nil]
        exact inner.cons rfl rfl
      | true => exact .bracket rfl rfl inner
  | list items => exact .bracket rfl rfl (balanced_itemCommands items)
  | record fields => exact .bracket rfl rfl (balanced_fieldCommands fields true)
  | str s => exact .keep rfl rfl
  | int n => exact .keep rfl rfl
  | bool b => exact .keep rfl rfl
  | token name => exact .keep rfl rfl

theorem balanced_argCommands (ts : List Term) : Balanced (argCommands ts) := by
  cases ts with
  | nil => exact .nil
  | cons t ts =>
    apply Balanced.cons rfl rfl
    exact (balanced_commands t true).append (balanced_argCommands ts)

theorem balanced_itemCommands (ts : List Term) : Balanced (itemCommands ts) := by
  cases ts with
  | nil => exact .nil
  | cons t ts =>
    apply (balanced_commands t false).append
    exact (balanced_itemCommands ts).cons rfl rfl

theorem balanced_fieldCommands (fields : List (String × Term)) (isFirst : Bool) :
    Balanced (fieldCommands isFirst fields) := by
  match fields with
  | [] => exact .nil
  | (name, t) :: fields =>
    have value := (balanced_commands t false).append (balanced_fieldCommands fields false)
    cases isFirst with
    | true => exact value.cons rfl rfl
    | false => exact (value.cons rfl rfl).cons rfl rfl

end

end Term

namespace Section

theorem balanced_lineCommands (ts : List Term) : Balanced (lineCommands ts) := by
  induction ts with
  | nil => exact .nil
  | cons t ts ih =>
    rw [lineCommands, List.flatMap_cons, List.append_assoc]
    apply (t.balanced_commands false).append
    exact ((ih.cons rfl rfl).cons rfl rfl).cons rfl rfl

theorem balanced_commands (s : Section) : Balanced s.commands := by
  have list : Balanced (listCommands s.terms) :=
    (Balanced.bracket rfl rfl (balanced_lineCommands s.terms)).cons rfl rfl
  have heading : Balanced [.newline, .text ("Definition " ++ s.name ++ " : list Decl :="),
      .newline] := ((Balanced.keep rfl rfl).cons rfl rfl).cons rfl rfl
  have stop : Balanced [.text ".", .newline] := (Balanced.keep rfl rfl).cons rfl rfl
  exact (heading.append list).append stop

end Section

namespace Module

theorem balanced_commands (unit : String) (sections : List Section) :
    Balanced (commands unit sections) := by
  have sections : Balanced (sections.flatMap Section.commands) := by
    induction sections with
    | nil => exact .nil
    | cons s sections ih => exact s.balanced_commands.append ih
  exact (sections.cons rfl rfl).cons rfl rfl

/-- A module is written as soon as it has sections: no bracket is ever left open. -/
theorem print_eq_bind (m : Module) (unit : String) :
    m.print unit = do
      let sections ← m.sections
      return (Printer.empty.performAll (commands unit sections)).text := by
  have closed (sections : List Section) :
      (Printer.empty.performAll (commands unit sections)).depth = 0 :=
    (balanced_commands unit sections).depth_performAll .empty
  simp only [print, closed, if_true]

end Module

end Reify

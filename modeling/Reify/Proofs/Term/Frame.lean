import Reify.Lowering
import Reify.Proofs.Printer.Balance
import Reify.Proofs.Printer.Lexeme

/-!
# Emission leaves what was there

A term is emitted to any printer in the same way.  What was written before stays in front, the text
of the term is put behind it, and the brackets that were open before stay open all the while: they
are never closed on the way, and no other is left open at the end.

So an emission that checks itself goes through wherever it starts (`Term.emit?_eq`), and printing a
type is all or nothing: a type without a term fails before the first command.
-/

namespace Reify

open Printer

namespace Term

/-! ## What is appended -/

/-- Whether a term is a constructor that is applied to something. -/
def isApplied : Term → Bool
  | .ctor _ args => !args.isEmpty
  | .list _ | .record _ | .str _ | .int _ | .bool _ | .token _ => false

/-- The text of a term in argument position. -/
def argumentText (t : Term) : String := if t.isApplied then "(" ++ t.text ++ ")" else t.text

/-- The text of a term is what its commands write. -/
theorem text_eq (t : Term) : t.text = String.ofList (chars (t.commands false)) := by
  rw [text, emit, text_performAll]
  exact String.empty_append

theorem argumentText_eq (t : Term) : t.argumentText = String.ofList (chars (t.commands true)) := by
  rw [argumentText, text_eq]
  cases t with
  | ctor name args =>
    cases args with
    | nil => rfl
    | cons t ts =>
      have brackets : chars ((Term.ctor name (t :: ts)).commands true) =
          '(' :: (chars ((Term.ctor name (t :: ts)).commands false) ++ [')']) := by
        simp [commands, Command.output]
      rw [brackets]
      simp [isApplied, String.ofList_cons, String.append_assoc]
  | list | record | str | int | bool | token => rfl

/-- A term is put behind what a printer has written, and opens and closes brackets of its own
only. -/
theorem emit_eq (t : Term) (p : Printer) :
    t.emit false p = ⟨p.text ++ t.text, p.depth⟩ ∧
      t.emit true p = ⟨p.text ++ t.argumentText, p.depth⟩ := by
  have settled (isArg : Bool) : (t.emit isArg p).depth = p.depth :=
    (t.balanced_commands isArg).depth_performAll p
  constructor
  · exact Printer.ext (t.text_eq ▸ text_performAll p _) (settled false)
  · exact Printer.ext (t.argumentText_eq ▸ text_performAll p _) (settled true)

/-! ## An emission that checks itself -/

end Term

namespace Printer

/-- The printer after a command, unless it closes a bracket where none is open. -/
def perform? (p : Printer) (c : Command) : Option Printer :=
  if c.closes && p.depth == 0 then none else some (p.perform c)

/-- The printer itself, if that many brackets are open. -/
def settled? (p : Printer) (depth : Nat) : Option Printer :=
  if p.depth = depth then some p else none

end Printer

mutual

/-- Emits a term, with a check on each bracket that is closed, and another that as many brackets
are open behind the term, and behind each of its parts, as were in front of it. -/
def Term.emit? (isArg : Bool) (p : Printer) (t : Term) : Option Printer :=
  let written : Option Printer := match t with
    | .ctor name args =>
      if args.isEmpty then p.perform? (.text name)
      else do
        let q ← p.perform? (.ctor name isArg)
        let q ← Term.emitArgs? q args
        if isArg then q.perform? .endCtor else some q
    | .list items => do
      let q ← p.perform? .beginList
      let q ← Term.emitItems? q items
      q.perform? .endList
    | .record fields => do
      let q ← p.perform? .beginRecord
      let q ← Term.emitFields? true q fields
      q.perform? .endRecord
    | .str s => p.perform? (.str s)
    | .int n => p.perform? (.int n)
    | .bool b => p.perform? (.bool b)
    | .token name => p.perform? (.text name)
  written.bind (·.settled? p.depth)

/-- Emits the arguments of a constructor with checks. -/
def Term.emitArgs? (p : Printer) : List Term → Option Printer
  | [] => some p
  | t :: ts => do
    let q ← p.perform? .space
    let q ← Term.emit? true q t
    Term.emitArgs? q ts

/-- Emits the items of a list with checks. -/
def Term.emitItems? (p : Printer) : List Term → Option Printer
  | [] => some p
  | t :: ts => do
    let q ← Term.emit? false p t
    let q ← q.perform? .cons
    Term.emitItems? q ts

/-- Emits the fields of a record with checks. -/
def Term.emitFields? (isFirst : Bool) (p : Printer) : List (String × Term) → Option Printer
  | [] => some p
  | (name, t) :: fields =>
    let separated := if isFirst then some p else p.perform? .separator
    separated.bind fun q ↦ do
      let q ← q.perform? (.field name)
      let q ← Term.emit? false q t
      Term.emitFields? false q fields

end

namespace Printer

theorem perform?_of_closes {c : Command} (h : c.closes = false) (p : Printer) :
    p.perform? c = some (p.perform c) := by
  rw [perform?, h]
  rfl

theorem settled?_of_eq {p : Printer} {depth : Nat} (h : p.depth = depth) :
    p.settled? depth = some p := if_pos h

/-- Where a bracket has been opened, balanced commands leave one that can be closed. -/
theorem Balanced.perform?_of_opens {cs : List Command} (h : Balanced cs) {o : Command}
    (ho : o.opens) (p : Printer) (c : Command) :
    ((p.perform o).performAll cs).perform? c = some (p.performAll (o :: (cs ++ [c]))) := by
  have opened : (p.perform o).depth = p.depth + 1 := Command.depth_of_opens ho p.depth
  have some_open : (((p.perform o).performAll cs).depth == 0) = false := by
    rw [h.depth_performAll, opened]
    rfl
  rw [perform?, some_open, Bool.and_false, ← List.cons_append, performAll_append]
  rfl

end Printer

mutual

/-- Every check holds, so an emission that checks itself is an emission. -/
theorem Term.emit?_eq (t : Term) (isArg : Bool) (p : Printer) :
    t.emit? isArg p = some (t.emit isArg p) := by
  have settled := settled?_of_eq ((t.balanced_commands isArg).depth_performAll p)
  rw [Term.emit?.eq_def]
  refine Option.bind_eq_some_iff.mpr ⟨_, ?_, settled⟩
  cases t with
  | ctor name args =>
    change (if args.isEmpty then p.perform? (.text name)
      else (p.perform? (.ctor name isArg)).bind fun q ↦ (Term.emitArgs? q args).bind fun q ↦
        if isArg then q.perform? .endCtor else some q) = _
    rw [commands]
    split
    · rfl
    · rw [perform?_of_closes rfl, Option.bind_some, Term.emitArgs?_eq args, Option.bind_some]
      cases isArg with
      | false =>
        rw [if_neg Bool.false_ne_true, if_neg Bool.false_ne_true, List.append_nil]
        rfl
      | true => exact (balanced_argCommands args).perform?_of_opens rfl p .endCtor
  | list items =>
    change (Term.emitItems? (p.perform .beginList) items).bind (·.perform? .endList) = _
    rw [Term.emitItems?_eq items]
    exact (balanced_itemCommands items).perform?_of_opens rfl p .endList
  | record fields =>
    change (Term.emitFields? true (p.perform .beginRecord) fields).bind (·.perform? .endRecord) = _
    rw [Term.emitFields?_eq fields]
    exact (balanced_fieldCommands fields true).perform?_of_opens rfl p .endRecord
  | str s => rfl
  | int n => rfl
  | bool b => rfl
  | token name => rfl

theorem Term.emitArgs?_eq (ts : List Term) (p : Printer) :
    Term.emitArgs? p ts = some (p.performAll (argCommands ts)) := by
  cases ts with
  | nil => rfl
  | cons t ts =>
    change (t.emit? true (p.perform .space)).bind (Term.emitArgs? · ts) = _
    rw [Term.emit?_eq t, Option.bind_some, Term.emitArgs?_eq ts]
    exact congrArg some (performAll_append _ _ _).symm

theorem Term.emitItems?_eq (ts : List Term) (p : Printer) :
    Term.emitItems? p ts = some (p.performAll (itemCommands ts)) := by
  cases ts with
  | nil => rfl
  | cons t ts =>
    change (t.emit? false p).bind (fun q ↦ Term.emitItems? (q.perform .cons) ts) = _
    rw [Term.emit?_eq t, Option.bind_some, Term.emitItems?_eq ts]
    exact congrArg some (performAll_append p (t.commands false) (.cons :: itemCommands ts)).symm

theorem Term.emitFields?_eq (fields : List (String × Term)) (isFirst : Bool) (p : Printer) :
    Term.emitFields? isFirst p fields = some (p.performAll (fieldCommands isFirst fields)) := by
  match fields with
  | [] => rfl
  | (name, t) :: fields =>
    have separated : (if isFirst then some p else p.perform? .separator) =
        some (p.performAll (if isFirst then [] else [.separator])) := by
      cases isFirst <;> rfl
    rw [Term.emitFields?, separated, fieldCommands, performAll_append]
    generalize p.performAll (if isFirst then [] else [.separator]) = q
    change (t.emit? false (q.perform (.field name))).bind (Term.emitFields? false · fields) = _
    rw [Term.emit?_eq t, Option.bind_some, Term.emitFields?_eq fields]
    exact congrArg some (performAll_append _ _ _).symm

end

/-! ## Printing is all or nothing -/

namespace Logged

/-- Printing what a type is lowered to, as an action on a printer.  The commands are carried out one
by one, and a failure leaves the printer as the commands before it have made it. -/
def printing (x : Lowered Term) : ExceptT Fault (StateM Printer) Unit :=
  match x.result with
  | .ok t => (t.commands true).forM fun c ↦ modify (·.perform c)
  | .error fault => throw fault

theorem run_forM_perform (cs : List Command) (p : Printer) :
    (cs.forM fun c ↦ modify (·.perform c) : ExceptT Fault (StateM Printer) Unit).run.run p =
      (.ok (), p.performAll cs) := by
  induction cs generalizing p with
  | nil => rfl
  | cons c cs ih => exact ih (p.perform c)

/-- Either all of the term is printed, or the printer is left as it was. -/
theorem run_printing (x : Lowered Term) (p : Printer) :
    x.printing.run.run p = match x.result with
      | .ok t => (.ok (), ⟨p.text ++ t.argumentText, p.depth⟩)
      | .error fault => (.error fault, p) := by
  rw [printing]
  cases x.result with
  | ok t =>
    rw [run_forM_perform]
    exact congrArg (Prod.mk _) (t.emit_eq p).2
  | error fault => rfl

/-- Printing yields a printer wherever lowering yields a term. -/
theorem result_map_emit (x : Lowered Term) (p : Printer) :
    ((fun t ↦ t.emit true p) <$> x).result =
      x.result.map fun t ↦ ⟨p.text ++ t.argumentText, p.depth⟩ := by
  refine (result_bind x _).trans ?_
  cases x.result with
  | ok t => exact congrArg Except.ok (t.emit_eq p).2
  | error fault => rfl

end Logged

/-- Emission keeps what was there.  To whatever has been written it appends the text of the term, in
argument position with brackets around it if it is a constructor that is applied to something, and
as many brackets are open afterwards as before.  On the way there are never fewer, a bracket is only
closed where there are more, and every check of an emission that checks itself holds.  So printing a
type, be it a reference or a node, either appends the text of its term in argument position, or
fails as lowering does and leaves the printer as it was. -/
theorem Term.emission_keeps_frame :
    (∀ (t : Term) (p : Printer),
      t.emit false p = ⟨p.text ++ t.text, p.depth⟩ ∧
      t.emit true p = ⟨p.text ++ t.argumentText, p.depth⟩ ∧
      ∀ isArg : Bool,
        (∀ done rest, t.commands isArg = done ++ rest → p.depth ≤ (p.performAll done).depth) ∧
        (∀ done c rest, t.commands isArg = done ++ c :: rest → c.closes →
          p.depth + 1 ≤ (p.performAll done).depth) ∧
        t.emit? isArg p = some (t.emit isArg p)) ∧
    (∀ (type : TypeRef) (p : Printer),
      (type.print p).result =
        type.lower.result.map (fun t ↦ ⟨p.text ++ t.argumentText, p.depth⟩) ∧
      type.lower.printing.run.run p = match type.lower.result with
        | .ok t => (.ok (), ⟨p.text ++ t.argumentText, p.depth⟩)
        | .error fault => (.error fault, p)) ∧
    ∀ (type : TypeNode) (p : Printer),
      (type.print p).result =
        type.lower.result.map (fun t ↦ ⟨p.text ++ t.argumentText, p.depth⟩) ∧
      type.lower.printing.run.run p = match type.lower.result with
        | .ok t => (.ok (), ⟨p.text ++ t.argumentText, p.depth⟩)
        | .error fault => (.error fault, p) := by
  refine ⟨fun t p ↦ ⟨(t.emit_eq p).1, (t.emit_eq p).2, fun isArg ↦ ⟨?_, ?_, t.emit?_eq isArg p⟩⟩,
    fun type p ↦ ⟨type.lower.result_map_emit p, type.lower.run_printing p⟩,
    fun type p ↦ ⟨type.lower.result_map_emit p, type.lower.run_printing p⟩⟩
  · intro done rest split
    exact (split ▸ t.balanced_commands isArg).depth_le p
  · intro done c rest split closes
    exact (split ▸ t.balanced_commands isArg).depth_lt_of_closes closes p

/-- Behind two open brackets, a pointer to a constant closes both of its own, the second one where
three are open. -/
theorem Term.emission_keeps_frame_pointer :
    let t : Term := .ctor "Tptr" [.ctor "Qconst" [.token "T_int32"]]
    let done : List Command := [.ctor "Tptr" true, .space, .ctor "Qconst" true, .space,
      .text "T_int32", .endCtor]
    t.commands true = done ++ .endCtor :: [] ∧ Command.endCtor.closes ∧
      2 ≤ (Printer.performAll ⟨"x ", 2⟩ done).depth ∧
      2 + 1 ≤ (Printer.performAll ⟨"x ", 2⟩ done).depth ∧
      t.emit true ⟨"x ", 2⟩ = ⟨"x (Tptr (Qconst T_int32))", 2⟩ := by
  intro t done
  obtain ⟨-, emitted, within⟩ := emission_keeps_frame.1 t ⟨"x ", 2⟩
  obtain ⟨above, closed, -⟩ := within true
  have split : t.commands true = done ++ .endCtor :: [] := rfl
  exact ⟨split, rfl, above _ _ split, closed _ _ _ split rfl, emitted⟩

end Reify

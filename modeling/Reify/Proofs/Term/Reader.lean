import Reify.Proofs.Term.Lexeme

/-!
# Reading terms back

The printed language is unambiguous: a reader, which knows nothing but the text, gives back every
term whose names are names.  It cannot tell a constructor without arguments from a token, since both
are written as a bare name, so it gives a token for either; `Term.canonical` is what is left of a
term then.

The reader takes one lexeme after the other and holds the brackets that are open in a list.  An
application has no mark of its own, so terms are collected in a row until a mark says what the row
was: the arguments of a constructor, or a single term.
-/

namespace Reify

/-! ## The reader -/

/-- What an open bracket keeps of the text in front of it, the row that it interrupts, and what it
has collected itself. Both have their last term first. -/
inductive Reader.Frame where
  /-- A list up to its last `::`, or else an application. -/
  | bracket (outer items : List Term)
  /-- A list behind its `nil`. -/
  | list (outer items : List Term)
  /-- A record in front of the name of a field. -/
  | record (outer : List Term) (fields : List (String × Term))
  /-- A record behind the name of a field. -/
  | field (outer : List Term) (fields : List (String × Term)) (name : String)

/-- A reader of terms: the row of terms since the last mark, its last one first, and the brackets
that are open, innermost first. -/
structure Reader where
  row : List Term
  frames : List Reader.Frame

namespace Reader

/-- The reader before the first lexeme. -/
def start : Reader := ⟨[], []⟩

/-- The term that a row writes: its only one, or a name applied to the others. -/
def ofRow? (row : List Term) : Option Term :=
  match row.reverse with
  | [t] => some t
  | .token name :: t :: ts => some (.ctor name (t :: ts))
  | _ => none

/-- The reader with one more term in its row. -/
def push (r : Reader) (t : Term) : Reader := ⟨t :: r.row, r.frames⟩

/-- One lexeme. -/
def step (r : Reader) : Lexeme → Option Reader
  | .leaf t => some (r.push t)
  | .unclosed => none
  | .mark .openBracket => some ⟨[], .bracket r.row [] :: r.frames⟩
  | .mark .openRecord => some ⟨[], .record r.row [] :: r.frames⟩
  | .mark .cons => match r.frames with
    | .bracket outer items :: frames =>
      (fun t ↦ ⟨[], .bracket outer (t :: items) :: frames⟩) <$> ofRow? r.row
    | _ => none
  | .mark .nil => match r.frames, r.row with
    | .bracket outer items :: frames, [] => some ⟨[], .list outer items :: frames⟩
    | _, _ => none
  | .mark .closeBracket => match r.frames, r.row with
    | .list outer items :: frames, [] => some ⟨.list items.reverse :: outer, frames⟩
    | .bracket outer [] :: frames, row => (fun t ↦ ⟨t :: outer, frames⟩) <$> ofRow? row
    | _, _ => none
  | .mark .assign => match r.frames, r.row with
    | .record outer fields :: frames, [.token name] => some ⟨[], .field outer fields name :: frames⟩
    | _, _ => none
  | .mark .semicolon => match r.frames with
    | .field outer fields name :: frames =>
      (fun t ↦ ⟨[], .record outer ((name, t) :: fields) :: frames⟩) <$> ofRow? r.row
    | _ => none
  | .mark .closeRecord => match r.frames, r.row with
    | .record outer [] :: frames, [] => some ⟨.record [] :: outer, frames⟩
    | .field outer fields name :: frames, row =>
      (fun t ↦ ⟨.record ((name, t) :: fields).reverse :: outer, frames⟩) <$> ofRow? row
    | _, _ => none

/-- The reader after the lexemes of some commands. -/
def follow (r : Reader) (cs : List Printer.Command) : Option Reader :=
  (cs.flatMap (·.lexemes)).foldlM step r

theorem follow_append (r : Reader) (cs ds : List Printer.Command) :
    r.follow (cs ++ ds) = (r.follow cs).bind (·.follow ds) := by
  simp [follow, List.foldlM_append]

section Rows

variable {row : List Term} {t : Term} (h : ofRow? row = some t)
include h

/-- The end of an item. -/
theorem follow_cons (outer items : List Term) (frames : List Frame) (cs : List Printer.Command) :
    follow ⟨row, .bracket outer items :: frames⟩ (.cons :: cs) =
      follow ⟨[], .bracket outer (t :: items) :: frames⟩ cs := by
  simp [follow, step, Printer.Command.lexemes, h]

/-- The end of an application that is an argument. -/
theorem follow_endCtor (outer : List Term) (frames : List Frame) :
    follow ⟨row, .bracket outer [] :: frames⟩ [.endCtor] = some ⟨t :: outer, frames⟩ := by
  simp [follow, step, Printer.Command.lexemes, h]

/-- The end of a field in front of another. -/
theorem follow_separator (outer : List Term) (fields : List (String × Term)) (name : String)
    (frames : List Frame) (cs : List Printer.Command) :
    follow ⟨row, .field outer fields name :: frames⟩ (.separator :: cs) =
      follow ⟨[], .record outer ((name, t) :: fields) :: frames⟩ cs := by
  simp [follow, step, Printer.Command.lexemes, h]

/-- The end of the last field. -/
theorem follow_endRecord (outer : List Term) (fields : List (String × Term)) (name : String)
    (frames : List Frame) :
    follow ⟨row, .field outer fields name :: frames⟩ [.endRecord] =
      some ⟨.record ((name, t) :: fields).reverse :: outer, frames⟩ := by
  simp [follow, step, Printer.Command.lexemes, h]

end Rows

/-- The term at the end of the text, where no bracket may be open. -/
def finish (r : Reader) : Option Term := if r.frames.isEmpty then ofRow? r.row else none

end Reader

/-- The term that a text writes. -/
def Term.read? (s : String) : Option Term :=
  (Lexeme.lexemes s.toList).foldlM Reader.step Reader.start >>= Reader.finish

namespace Term

mutual

/-- The same term with a token for every constructor without arguments. -/
def canonical : Term → Term
  | .ctor name args => if args.isEmpty then .token name else .ctor name (canonicalAll args)
  | .list items => .list (canonicalAll items)
  | .record fields => .record (canonicalFields fields)
  | .str s => .str s
  | .int n => .int n
  | .bool b => .bool b
  | .token name => .token name

/-- The same terms with a token for every constructor without arguments. -/
def canonicalAll : List Term → List Term
  | [] => []
  | t :: ts => t.canonical :: canonicalAll ts

/-- The same fields with a token for every constructor without arguments. -/
def canonicalFields : List (String × Term) → List (String × Term)
  | [] => []
  | (name, t) :: fields => (name, t.canonical) :: canonicalFields fields

end

/-! ## Reading what was written -/

/-- The row that a term leaves, its last term first. An application that is no argument has no
brackets, so its parts stay in a row until the next mark. -/
def row (isArg : Bool) : Term → List Term
  | .ctor name (t :: ts) =>
    if isArg then [canonical (.ctor name (t :: ts))]
    else (canonicalAll (t :: ts)).reverse ++ [.token name]
  | t => [t.canonical]

@[simp] theorem row_true (t : Term) : t.row true = [t.canonical] := by
  unfold row
  split
  · rfl
  · rfl

/-- The row that a term leaves writes that term. -/
theorem ofRow?_row (t : Term) (isArg : Bool) : Reader.ofRow? (t.row isArg) = some t.canonical := by
  cases isArg with
  | true => simp [Reader.ofRow?]
  | false =>
    unfold row
    split
    · simp [Reader.ofRow?, canonical, canonicalAll]
    · rfl

open Printer Reader

mutual

/-- The commands of a term lead to its row. -/
theorem follow_commands (t : Term) (isArg : Bool) (outer : List Term) (frames : List Frame) :
    follow ⟨outer, frames⟩ (t.commands isArg) = some ⟨t.row isArg ++ outer, frames⟩ := by
  cases t with
  | ctor name args =>
    cases args with
    | nil => rfl
    | cons t ts =>
      simp only [commands, List.isEmpty_cons, Bool.false_eq_true, if_false]
      cases isArg with
      | false =>
        have args := follow_arguments (t :: ts) (.token name :: outer) frames
        change follow ⟨.token name :: outer, frames⟩ (argCommands (t :: ts) ++ []) = _
        rw [List.append_nil, args]
        simp [row]
      | true =>
        have args := follow_arguments (t :: ts) [.token name] (.bracket outer [] :: frames)
        have whole := ofRow?_row (.ctor name (t :: ts)) false
        change follow ⟨[.token name], .bracket outer [] :: frames⟩
          (argCommands (t :: ts) ++ [.endCtor]) = _
        rw [follow_append, args, Option.bind_some]
        exact follow_endCtor whole outer frames
  | list items =>
    have items := follow_items items outer [] frames
    change follow ⟨[], .bracket outer [] :: frames⟩ (itemCommands _ ++ [.endList]) = _
    rw [follow_append, items, Option.bind_some, List.append_nil]
    simp [follow, step, Command.lexemes, row, canonical]
  | record fields => exact follow_fields fields outer frames
  | str s => rfl
  | int n => rfl
  | bool b => rfl
  | token name => rfl

/-- Arguments are pushed onto the row one by one. -/
theorem follow_arguments (ts outer : List Term) (frames : List Frame) :
    follow ⟨outer, frames⟩ (argCommands ts) =
      some ⟨(canonicalAll ts).reverse ++ outer, frames⟩ := by
  cases ts with
  | nil => rfl
  | cons t ts =>
    have first := follow_commands t true outer frames
    have others := follow_arguments ts (t.canonical :: outer) frames
    change follow ⟨outer, frames⟩ (commands true t ++ argCommands ts) = _
    rw [follow_append, first, Option.bind_some, row_true]
    simpa [canonicalAll] using others

/-- Items are collected by the bracket around them. -/
theorem follow_items (ts outer items : List Term) (frames : List Frame) :
    follow ⟨[], .bracket outer items :: frames⟩ (itemCommands ts) =
      some ⟨[], .bracket outer ((canonicalAll ts).reverse ++ items) :: frames⟩ := by
  cases ts with
  | nil => rfl
  | cons t ts =>
    have first := follow_commands t false [] (.bracket outer items :: frames)
    have others := follow_items ts outer (t.canonical :: items) frames
    rw [itemCommands, follow_append, first, Option.bind_some, List.append_nil,
      follow_cons (ofRow?_row t false), others]
    simp [canonicalAll]

/-- The fields of a record, from its first one to its closing brace. -/
theorem follow_fields (fields : List (String × Term)) (outer : List Term) (frames : List Frame) :
    follow ⟨[], .record outer [] :: frames⟩ (fieldCommands true fields ++ [.endRecord]) =
      some ⟨.record (canonicalFields fields) :: outer, frames⟩ := by
  match fields with
  | [] => rfl
  | (name, t) :: fields =>
    have value := follow_commands t false [] (.field outer [] name :: frames)
    have others := follow_moreFields fields [] name (t.row false) outer t.canonical
      (ofRow?_row t false) frames
    change follow ⟨[], .field outer [] name :: frames⟩
      ((commands false t ++ fieldCommands false fields) ++ [.endRecord]) = _
    rw [List.append_assoc, follow_append, value, Option.bind_some, List.append_nil, others]
    rfl

/-- The fields behind one whose value is still in the row, up to the closing brace. -/
theorem follow_moreFields (fields done : List (String × Term)) (name : String)
    (row outer : List Term) (t : Term) (h : ofRow? row = some t) (frames : List Frame) :
    follow ⟨row, .field outer done name :: frames⟩ (fieldCommands false fields ++ [.endRecord]) =
      some ⟨.record (((name, t) :: done).reverse ++ canonicalFields fields) :: outer, frames⟩ := by
  match fields with
  | [] =>
    rw [canonicalFields, List.append_nil]
    exact follow_endRecord h outer done name frames
  | (next, u) :: fields =>
    have value := follow_commands u false [] (.field outer ((name, t) :: done) next :: frames)
    have others := follow_moreFields fields ((name, t) :: done) next (u.row false) outer
      u.canonical (ofRow?_row u false) frames
    have separator := follow_separator h outer done name frames
      (.field next :: ((commands false u ++ fieldCommands false fields) ++ [.endRecord]))
    refine separator.trans ?_
    change follow ⟨[], .field outer ((name, t) :: done) next :: frames⟩
      ((commands false u ++ fieldCommands false fields) ++ [.endRecord]) = _
    rw [List.append_assoc, follow_append, value, Option.bind_some, List.append_nil, others]
    simp [canonicalFields]

end

/-! ## Unambiguity -/

/-- The text of a term, in either position, is read back as that term. -/
theorem read?_emit {t : Term} (h : t.WellNamed) (isArg : Bool) :
    read? (t.emit isArg .empty).text = some t.canonical := by
  have text : (t.emit isArg .empty).text.toList = chars (t.commands isArg) := by
    rw [emit, text_performAll, String.toList_append, String.toList_ofList]
    rfl
  have lexemes : Lexeme.lexemes (chars (t.commands isArg)) =
      (t.commands isArg).flatMap Command.lexemes := by
    simpa [Lexeme.lexemes, Lexeme.lexemesFrom, Lexeme.endWord] using
      lexemes_commands t isArg h .nil
  have row := follow_commands t isArg [] []
  rw [List.append_nil] at row
  rw [read?, text, lexemes]
  change (follow start (t.commands isArg)).bind finish = _
  rw [show follow start (t.commands isArg) = _ from row, Option.bind_some]
  exact ofRow?_row t isArg

mutual

/-- A constructor without arguments is written as the token of the same name. -/
theorem commands_canonical (t : Term) (isArg : Bool) :
    t.canonical.commands isArg = t.commands isArg := by
  cases t with
  | ctor name args =>
    cases args with
    | nil => rfl
    | cons t ts =>
      have args := argCommands_canonicalAll (t :: ts)
      rw [canonicalAll] at args
      simp [canonical, canonicalAll, commands, args]
  | list items => simp [canonical, commands, itemCommands_canonicalAll items]
  | record fields => simp [canonical, commands, fieldCommands_canonicalFields fields]
  | str s => rfl
  | int n => rfl
  | bool b => rfl
  | token name => rfl

theorem argCommands_canonicalAll (ts : List Term) :
    argCommands (canonicalAll ts) = argCommands ts := by
  cases ts with
  | nil => rfl
  | cons t ts =>
    rw [canonicalAll, argCommands, argCommands, commands_canonical t, argCommands_canonicalAll ts]

theorem itemCommands_canonicalAll (ts : List Term) :
    itemCommands (canonicalAll ts) = itemCommands ts := by
  cases ts with
  | nil => rfl
  | cons t ts =>
    rw [canonicalAll, itemCommands, itemCommands, commands_canonical t,
      itemCommands_canonicalAll ts]

theorem fieldCommands_canonicalFields (fields : List (String × Term)) (isFirst : Bool) :
    fieldCommands isFirst (canonicalFields fields) = fieldCommands isFirst fields := by
  match fields with
  | [] => rfl
  | (name, t) :: fields =>
    rw [canonicalFields, fieldCommands, fieldCommands, commands_canonical t,
      fieldCommands_canonicalFields fields]

end

/-- The printed language is unambiguous.  In either position and behind any text, two terms whose
names are names are written alike exactly if they differ in nothing but tokens in the place of
constructors without arguments, and the text alone gives the term back. -/
theorem emit_unambiguous {t u : Term} (ht : t.WellNamed) (hu : u.WellNamed) (isArg : Bool)
    (p : Printer) :
    ((t.emit isArg p).text = (u.emit isArg p).text ↔ t.canonical = u.canonical) ∧
      read? (t.emit isArg .empty).text = some t.canonical := by
  refine ⟨⟨fun h ↦ ?_, fun h ↦ ?_⟩, read?_emit ht isArg⟩
  · -- What was written before does not matter, so the reader may start on an empty printer.
    have chars : String.ofList (chars (t.commands isArg)) =
        String.ofList (chars (u.commands isArg)) := by
      rw [emit, emit, text_performAll, text_performAll] at h
      exact String.append_right_inj p.text |>.mp h
    have text : (t.emit isArg .empty).text = (u.emit isArg .empty).text := by
      rw [emit, emit, text_performAll, text_performAll, chars]
    have read := (read?_emit ht isArg).symm.trans (text ▸ read?_emit hu isArg)
    exact Option.some.inj read
  · rw [emit, emit, ← commands_canonical t, ← commands_canonical u, h]

/-- Marks, quotes and a reserved word in a literal do not mislead the reader. -/
theorem emit_unambiguous_alias :
    WellNamed (.ctor "@Talias" [.str "\") :: nil", .ctor "Tbool" []]) ∧
      WellNamed (.ctor "@Talias" [.str "\") :: nil", .token "Tbool"]) ∧
      ((emit true (.ctor "@Talias" [.str "\") :: nil", .ctor "Tbool" []]) .empty).text =
          (emit true (.ctor "@Talias" [.str "\") :: nil", .token "Tbool"]) .empty).text ↔
        canonical (.ctor "@Talias" [.str "\") :: nil", .ctor "Tbool" []]) =
          canonical (.ctor "@Talias" [.str "\") :: nil", .token "Tbool"])) ∧
      read? (emit true (.ctor "@Talias" [.str "\") :: nil", .ctor "Tbool" []]) .empty).text =
        some (canonical (.ctor "@Talias" [.str "\") :: nil", .ctor "Tbool" []])) :=
  ⟨by decide, by decide, emit_unambiguous (by decide) (by decide) true .empty⟩

end Term

end Reify

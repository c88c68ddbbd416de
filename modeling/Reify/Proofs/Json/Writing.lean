import Reify.Proofs.Json.Lexeme

/-!
# What a layout writes

A written value is a text of its tokens.  Each scalar is written in one of its spellings, and all
that the layout adds are blanks.
-/

namespace Reify.Json

/-! ## Scalars -/

theorem toLower_hexDigits (n : Nat) : (hexDigits n).map Char.toLower = hexDigits n := by
  have lower : ∀ d : Fin 16, (Nat.digitChar d).toLower = Nat.digitChar d := by decide
  have digit (m : Nat) : (Nat.digitChar (m % 16)).toLower = Nat.digitChar (m % 16) :=
    lower ⟨m % 16, Nat.mod_lt m (by decide)⟩
  simp only [hexDigits, List.map_cons, List.map_nil, digit]

theorem Piece.writes_writeChar (c : Char) : (Piece.char c).Writes (writeChar c) := by
  unfold writeChar
  split
  case h_8 quote backslash _ _ _ _ _ =>
    split
    case isTrue control => exact .unit (.char (by omega)) (toLower_hexDigits _)
    case isFalse control => exact .plain (Nat.le_of_not_lt control) quote backslash
  all_goals exact .letter (by decide)

theorem Piece.writes_write (p : Piece) : p.Writes p.write := by
  cases p with
  | char c => exact writes_writeChar c
  | lead bits => exact .unit (.lead bits) (toLower_hexDigits _)
  | trail bits => exact .unit (.trail bits) (toLower_hexDigits _)

theorem piecesWrite_flatMap (ps : List Piece) : PiecesWrite ps (ps.flatMap Piece.write) := by
  induction ps with
  | nil => exact .nil
  | cons p ps ih => exact .cons p.writes_write ih

theorem Scalar.writes_write {s : Scalar} (h : s.Valid) : (Token.scalar s).Writes s.write := by
  by_cases isString : ∃ ps, s = .str ps
  · obtain ⟨ps, rfl⟩ := isString
    exact .string (piecesWrite_flatMap ps)
  · exact .word (word_iff.mpr ⟨rfl, h, not_exists.mp isString⟩)

/-! ## Values -/

namespace Written

variable {ts : List Token} {cs : List Char}

theorem blanks {ws : List Char} (hw : ∀ c ∈ ws, isSpace c) (h : Written ts cs) :
    Written ts (ws ++ cs) := by
  induction ws with
  | nil => exact h
  | cons c ws ih =>
    obtain ⟨hc, hws⟩ := List.forall_mem_cons.mp hw
    exact .blank hc (ih hws)

theorem mark (m : Mark) (h : Written ts cs) : Written (.mark m :: ts) (m.char :: cs) :=
  .token (.mark m) h

theorem key (k : List Piece) (h : Written ts cs) :
    Written (.scalar (.str k) :: ts) (writeString k ++ cs) :=
  .token (.string (piecesWrite_flatMap k)) h

end Written

mutual

/-- A written value is a text of its tokens. -/
theorem written_write {l : Layout} (hl : l.Blank) (j : Json) (hj : j.Valid) (depth : Nat) :
    Written j.tokens (write l depth j) := by
  cases j with
  | scalar s =>
    have word := Written.token (Scalar.writes_write hj) .nil
    rwa [List.append_nil] at word
  | array items =>
    cases items with
    | nil => exact .mark .openArray (.mark .closeArray .nil)
    | cons v vs =>
      have close := Written.blanks (hl.newline depth) (.mark .closeArray .nil)
      have items := (written_write hl v hj.1 (depth + 1)).append
        ((written_writeItems hl vs hj.2 (depth + 1)).append close)
      exact .mark .openArray (.blanks (hl.newline (depth + 1)) items)
  | object members =>
    cases members with
    | nil => exact .mark .openObject (.mark .closeObject .nil)
    | cons m ms =>
      obtain ⟨k, v⟩ := m
      have close := Written.blanks (hl.newline depth) (.mark .closeObject .nil)
      have values := (written_write hl v hj.1 (depth + 1)).append
        ((written_writeMembers hl ms hj.2 (depth + 1)).append close)
      exact .mark .openObject (.blanks (hl.newline (depth + 1))
        (.key k (.mark .colon (.blanks hl.gap values))))

theorem written_writeItems {l : Layout} (hl : l.Blank) (vs : List Json) (hv : ItemsValid vs)
    (depth : Nat) : Written (itemTokens vs) (writeItems l depth vs) := by
  cases vs with
  | nil => exact .nil
  | cons v vs =>
    have items := (written_write hl v hv.1 depth).append (written_writeItems hl vs hv.2 depth)
    exact .mark .comma (.blanks (hl.newline depth) items)

theorem written_writeMembers {l : Layout} (hl : l.Blank) (ms : List (List Piece × Json))
    (hm : MembersValid ms) (depth : Nat) : Written (memberTokens ms) (writeMembers l depth ms) := by
  cases ms with
  | nil => exact .nil
  | cons m ms =>
    obtain ⟨k, v⟩ := m
    have values := (written_write hl v hm.1 depth).append (written_writeMembers hl ms hm.2 depth)
    exact .mark .comma (.blanks (hl.newline depth) (.key k (.mark .colon (.blanks hl.gap values))))

end

end Reify.Json

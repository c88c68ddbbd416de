import Reify.Json.Token

/-!
# From tokens to a JSON value

The brackets that are open are held in a list of frames, so a text may nest as deep as it likes.
-/

namespace Reify.Json

/-- What an open bracket has collected, newest first. -/
inductive Frame where
  | items (done : List Json)
  | members (done : List (List Piece × Json)) (key : List Piece)

/-- What the next token must be. -/
inductive Expect where
  /-- A value. -/
  | value
  /-- The first item of an array, or its end. -/
  | firstItem
  /-- The first key of an object, or its end. -/
  | firstKey
  /-- The key after a comma. -/
  | key (done : List (List Piece × Json))
  /-- The colon after a key. -/
  | colon (done : List (List Piece × Json)) (key : List Piece)
  /-- Whatever may follow a value in the innermost bracket. -/
  | after (v : Json)

/-- The parser: what it expects, inside the brackets that are open, innermost first. -/
structure Parser where
  expect : Expect
  frames : List Frame

namespace Parser

/-- The parser before the first token. -/
def start : Parser := ⟨.value, []⟩

/-- A value begins. -/
def beginValue (frames : List Frame) : Token → Option Parser
  | .scalar s => some ⟨.after (.scalar s), frames⟩
  | .mark .openArray => some ⟨.firstItem, frames⟩
  | .mark .openObject => some ⟨.firstKey, frames⟩
  | _ => none

/-- A value has ended inside `frame`. -/
def endValue (v : Json) (frame : Frame) (frames : List Frame) (t : Token) : Option Parser :=
  match frame, t with
  | .items done, .mark .comma => some ⟨.value, .items (v :: done) :: frames⟩
  | .items done, .mark .closeArray => some ⟨.after (.array (v :: done).reverse), frames⟩
  | .members done k, .mark .comma => some ⟨.key ((k, v) :: done), frames⟩
  | .members done k, .mark .closeObject =>
    some ⟨.after (.object ((k, v) :: done).reverse), frames⟩
  | _, _ => none

/-- One token. -/
def step (p : Parser) (t : Token) : Option Parser :=
  match p.expect with
  | .value => beginValue p.frames t
  | .firstItem => match t with
    | .mark .closeArray => some ⟨.after (.array []), p.frames⟩
    | t => beginValue (.items [] :: p.frames) t
  | .firstKey => match t with
    | .mark .closeObject => some ⟨.after (.object []), p.frames⟩
    | .scalar (.str k) => some ⟨.colon [] k, p.frames⟩
    | _ => none
  | .key done => match t with
    | .scalar (.str k) => some ⟨.colon done k, p.frames⟩
    | _ => none
  | .colon done k => match t with
    | .mark .colon => some ⟨.value, .members done k :: p.frames⟩
    | _ => none
  | .after v => match p.frames with
    | [] => none
    | frame :: frames => endValue v frame frames t

/-- The value at the end of the tokens, where no bracket may be open. -/
def finish : Parser → Option Json
  | ⟨.after v, []⟩ => some v
  | _ => none

end Parser

/-- The value that tokens write. -/
def ofTokens? (ts : List Token) : Option Json :=
  ts.foldlM Parser.step Parser.start >>= Parser.finish

/-- The value that a text writes. -/
def parse? (s : String) : Option Json := tokens? s.toList >>= ofTokens?

end Reify.Json

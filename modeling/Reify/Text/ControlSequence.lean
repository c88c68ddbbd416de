/-!
# Control sequences

A text may hold sequences that steer a terminal: an escape character and what belongs to it. A log
line is shown without them, and without the control characters that are no layout.
-/

namespace Reify.Text

/-- A character from one bound to another, both included. -/
def isBetween (low high c : Char) : Bool := low ≤ c && c ≤ high

/-- The control characters that lay out a text. -/
def isLayout (c : Char) : Bool := c = '\t' || c = '\n' || c = '\x0C' || c = '\r'

/-- A character that is shown when it stands in no sequence. -/
def isPlain (c : Char) : Bool := isLayout c || (' ' ≤ c && c != '\x7F')

/-- What a terminal is reading. -/
inductive TerminalState where
  /-- No sequence. -/
  | ground
  /-- What follows the escape character. -/
  | escape
  /-- What follows an escape character and some of the characters from the blank to the slash. -/
  | intermediate
  /-- The parameters of a control sequence. -/
  | parameters
  /-- What opens a string for the device. -/
  | preamble
  /-- The parameters in front of a string for the device. -/
  | preambleParameters
  /-- What follows them, from the blank to the slash. -/
  | preambleIntermediate
  /-- A string for the device or for an application. -/
  | string
  /-- A command for the operating system. -/
  | command
deriving DecidableEq, Repr

namespace TerminalState

/-- Whether a layout character is shown in the middle of a sequence. Strings and commands swallow
it. -/
def showsLayout : TerminalState → Bool
  | ground | escape | intermediate | parameters => true
  | preamble | preambleParameters | preambleIntermediate | string | command => false

/-- Whether a character belongs to no sequence and is shown. -/
def shows : TerminalState → Char → Bool
  | ground, c => isPlain c
  | q, c => q.showsLayout && isLayout c

/-- The state after an escape character and this one. -/
def afterEscape (c : Char) : TerminalState :=
  if isBetween ' ' '/' c then intermediate
  else if c = '[' then parameters
  else if c = ']' then command
  else if c = 'P' then preamble
  else if c = 'X' || c = '^' || c = '_' then string
  else if isBetween '0' '~' c then ground
  else escape

/-- Whether a character ends a string: the octet 9C does, also as part of a character. -/
def endsString (c : Char) : Bool := (String.utf8EncodeChar c).contains 0x9C

/-- The state after a character that is not shown. The escape character opens a sequence anywhere,
and two control characters cancel any. -/
def next (q : TerminalState) (c : Char) : TerminalState :=
  if c = '\x1B' then escape
  else if c = '\x18' || c = '\x1A' then ground
  else match q with
    | ground => ground
    | escape => afterEscape c
    | intermediate => if isBetween '0' '~' c then ground else intermediate
    | parameters => if isBetween '@' '~' c then ground else parameters
    | preamble =>
      if isBetween ' ' '/' c then preambleIntermediate
      else if isBetween '0' '?' c then preambleParameters
      else if isBetween '@' '~' c then string
      else preamble
    | preambleParameters =>
      if isBetween ' ' '/' c then preambleIntermediate
      else if isBetween '<' '~' c then string
      else preambleParameters
    | preambleIntermediate => if isBetween '0' '~' c then string else preambleIntermediate
    | string => if endsString c then ground else string
    | command => if c = '\x07' then ground else command

/-- The state after a character that is shown. One of more than one octet ends what was open. -/
def afterShown (q : TerminalState) (c : Char) : TerminalState :=
  if c.toNat < 0x80 then q else ground

/-- The characters that are shown. A plain character after one that is shown is shown as well: a
sequence that layout has broken into goes on at the next character that is not plain. -/
def plain (showing : Bool) (q : TerminalState) : List Char → List Char
  | [] => []
  | c :: cs =>
    if q.shows c || showing && isPlain c then c :: plain true (q.afterShown c) cs
    else plain false (q.next c) cs

end TerminalState

/-- The text without control sequences, and without control characters other than layout. -/
def withoutSequences (s : String) : String :=
  String.ofList (TerminalState.ground.plain true s.toList)

end Reify.Text

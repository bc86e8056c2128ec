/-!
# Scanning text

A scanner reads from the front of a list of characters and gives a result with the characters that
are left, or nothing.  An alternative starts where the failed one started.

Repetition is **bounded by the text**: a round that reads nothing ends it, so a text of `n`
characters allows at most `n` rounds.
-/

namespace ViewInput.Toml

abbrev Scan := StateT (List Char) Option

namespace Scan

variable {α : Type}

/-- One character of a class. -/
def one (accepts : Char → Bool) : Scan Char
  | [] => none
  | c :: rest => if accepts c then some (c, rest) else none

/-- The next character, which stays. -/
def peek : Scan Char
  | [] => none
  | c :: rest => some (c, c :: rest)

def literal (expected : String) : Scan Unit := fun s =>
  let cs := expected.toList
  if cs.isPrefixOf s then some ((), s.drop cs.length) else none

/-- All characters of a class up to the first of another. -/
def run (accepts : Char → Bool) : Scan (List Char) := fun s =>
  some (s.takeWhile accepts, s.dropWhile accepts)

/-- A given number of characters of a class. -/
def exactly (count : Nat) (accepts : Char → Bool) : Scan (List Char) := fun s =>
  let cs := s.take count
  if cs.length = count ∧ cs.all accepts then some (cs, s.drop count) else none

def finished : Scan Unit
  | [] => some ((), [])
  | _ :: _ => none

/-- A result if there is one. -/
def possibly (scan : Scan α) : Scan (Option α) := fun s =>
  match scan s with
  | some (a, rest) => some (some a, rest)
  | none => some (none, s)

/-- At most `fuel` rounds. -/
def rounds (scan : Scan α) : Nat → List Char → List α × List Char
  | 0, s => ([], s)
  | fuel + 1, s =>
    match scan s with
    | none => ([], s)
    | some (a, rest) =>
      if rest.length < s.length then
        let (as, left) := rounds scan fuel rest
        (a :: as, left)
      else ([], s)

/-- As many rounds as succeed. -/
def many (scan : Scan α) : Scan (List α) := fun s => some (rounds scan s.length s)

/-- One or more results with a separator between them.  A separator that no result follows is not
read. -/
def separated (scan : Scan α) (separator : Scan Unit) : Scan (List α) := do
  let first ← scan
  let others ← many (do separator; scan)
  return first :: others

end Scan

/-! ## Character classes -/

/-- Blanks inside a line. -/
def isBlank (c : Char) : Bool := c == ' ' || c == '\t'

/-- Characters that may stand in a comment or in a string: the tab and everything that is no
control character. -/
def isPlain (c : Char) : Bool := c == '\t' || (' ' ≤ c && c ≤ '~') || '\u0080' ≤ c

def isDigit (c : Char) : Bool := '0' ≤ c && c ≤ '9'

def isHexDigit (c : Char) : Bool := isDigit c || ('a' ≤ c && c ≤ 'f') || ('A' ≤ c && c ≤ 'F')

/-- Characters of a key without quotes. -/
def isBare (c : Char) : Bool := c.isAlphanum || c == '-' || c == '_'

/-! ## Blanks, line ends and comments -/

def blanks : Scan Unit := do let _ ← Scan.run isBlank

/-- The end of a line: a line feed, perhaps after a carriage return. -/
def newline : Scan Unit := Scan.literal "\n" <|> Scan.literal "\r\n"

def comment : Scan Unit := do
  Scan.literal "#"
  let _ ← Scan.run isPlain

/-- What may follow a value or a header: blanks, a comment and the end of the line or text. -/
def lineEnd : Scan Unit := do
  blanks
  let _ ← Scan.possibly comment
  newline <|> Scan.finished

/-- What may stand between the elements of an array: blanks, line ends and comments. -/
def gap : Scan Unit := do
  let _ ← Scan.many ((do let _ ← Scan.one isBlank) <|> newline <|> comment)

end ViewInput.Toml

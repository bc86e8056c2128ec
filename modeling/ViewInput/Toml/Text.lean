import ViewInput.Toml.Scan

/-!
# Strings and keys

A string stands in quotes, with escapes, or in apostrophes, as it is.  With three of either it may
run over several lines; a line end right after the opening is dropped, and up to two quotes may
stand just before the closing ones.
-/

namespace ViewInput.Toml

/-! ## Escapes -/

/-- The value of a digit of any base up to sixteen. -/
def digitValue (c : Char) : Nat :=
  if isDigit c then c.toNat - '0'.toNat
  else if 'a' ≤ c then c.toNat - 'a'.toNat + 10
  else c.toNat - 'A'.toNat + 10

/-- The number that digits of a base spell. -/
def spelled (base : Nat) (digits : List Char) : Nat :=
  digits.foldl (fun n c => base * n + digitValue c) 0

/-- A character given by its number, in `count` hexadecimal digits. -/
def numbered (count : Nat) : Scan Char := do
  let n := spelled 16 (← Scan.exactly count isHexDigit)
  if n.isValidChar then return Char.ofNat n else failure

/-- An escape sequence. -/
def escape : Scan Char := do
  Scan.literal "\\"
  match ← Scan.one (fun _ => true) with
  | 'b' => return '\x08'
  | 't' => return '\t'
  | 'n' => return '\n'
  | 'f' => return '\x0c'
  | 'r' => return '\r'
  | '\x22' => return '\x22'
  | '\\' => return '\\'
  | 'u' => numbered 4
  | 'U' => numbered 8
  | _ => failure

/-! ## Strings of one line -/

/-- A string in quotes. -/
def quoted : Scan String := do
  Scan.literal "\""
  let pieces ← Scan.many (Scan.one (fun c => isPlain c && c != '\x22' && c != '\\') <|> escape)
  Scan.literal "\""
  return String.ofList pieces

/-- A string in apostrophes. -/
def verbatim : Scan String := do
  Scan.literal "'"
  let content ← Scan.run (fun c => isPlain c && c != '\x27')
  Scan.literal "'"
  return String.ofList content

/-! ## Strings of several lines -/

/-- One or two delimiters that another character follows. -/
def innerDelimiters (delimiter : Char) : Scan (List Char)
  | a :: b :: c :: rest =>
    if a = delimiter then
      if b = delimiter then
        if c = delimiter then none else some ([a, b], c :: rest)
      else some ([a], b :: c :: rest)
    else none
  | [a, b] => if a = delimiter ∧ b ≠ delimiter then some ([a], [b]) else none
  | _ => none

/-- Three delimiters that close a string, after up to two that belong to it. -/
def closing (delimiter : Char) : Scan (List Char) := fun s =>
  let found := (s.takeWhile (· == delimiter)).length
  if found < 3 then none
  else
    let inner := min (found - 3) 2
    some (List.replicate inner delimiter, s.drop (inner + 3))

/-- A line end inside a string is a line feed, however it is written. -/
def innerNewline : Scan (List Char) := do
  newline
  return ['\n']

/-- A line end after a backslash goes with all the blanks and line ends behind it. -/
def continuation : Scan (List Char) := do
  Scan.literal "\\"
  blanks
  newline
  let _ ← Scan.many ((do let _ ← Scan.one isBlank) <|> newline)
  return []

/-- A string of several lines, in three delimiters, with other pieces besides plain characters. -/
def multiline (delimiter : Char) (other : Scan (List Char)) : Scan String := do
  Scan.literal (String.ofList [delimiter, delimiter, delimiter])
  let _ ← Scan.possibly newline
  let plain : Scan (List Char) := do
    return [← Scan.one (fun c => isPlain c && c != delimiter && (c != '\\' || delimiter == '\x27'))]
  let pieces ← Scan.many (plain <|> other <|> innerNewline <|> innerDelimiters delimiter)
  let last ← closing delimiter
  return String.ofList (pieces.flatten ++ last)

/-- Any string value. -/
def text : Scan String :=
  multiline '\x22' (continuation <|> (do return [← escape])) <|> quoted
    <|> multiline '\x27' failure <|> verbatim

/-! ## Keys -/

/-- One part of a key. -/
def keyPart : Scan String :=
  quoted <|> verbatim <|> do
    let cs ← Scan.run isBare
    if cs.isEmpty then failure else return String.ofList cs

/-- How deep values may be nested, and how long a key may be. -/
def depthLimit : Nat := 80

/-- A key: its parts are divided by dots, with blanks around each. -/
def key : Scan (List String) := do
  let parts ← Scan.separated
    (do blanks; let part ← keyPart; blanks; return part) (Scan.literal ".")
  if parts.length < depthLimit then return parts else failure

end ViewInput.Toml

import ViewInput.Toml.Number
import ViewInput.Toml.Table

/-!
# Documents

A document is a sequence of lines: pairs, headers, comments and blank lines.  Arrays run over
several lines and values in braces do not.  **`parse?`** gives the table that a text describes, or
nothing if it is no document.
-/

namespace ViewInput.Toml

/-! ## Values -/

/-- A key divided into the path to a table and the name in it. -/
def keyPath : Scan (List String × String) := do
  let parts ← key
  match parts.getLast? with
  | some name => return (parts.dropLast, name)
  | none => failure

/-- A pair, with a given scanner for its value. -/
def pair (value : Scan Value) : Scan Pair := do
  let (path, name) ← keyPath
  Scan.literal "="
  blanks
  return ⟨path, name, ← value⟩

/-- An array of values.  A comma may follow the last. -/
def array (value : Scan Value) : Scan Value := do
  Scan.literal "["
  let elements ← Scan.possibly (do
    let elements ← Scan.separated
      (do gap; let v ← value; gap; return v) (Scan.literal ",")
    let _ ← Scan.possibly (Scan.literal ",")
    return elements)
  gap
  Scan.literal "]"
  return .array (elements.getD [])

/-- A table in braces.  No comma may follow the last pair. -/
def inlineTable (value : Scan Value) : Scan Value := do
  Scan.literal "\x7b"
  let pairs ← Scan.possibly (Scan.separated
    (do let p ← pair value; blanks; return p) (Scan.literal ","))
  blanks
  Scan.literal "\x7d"
  match Entries.addAll .inline [] (pairs.getD []) with
  | some entries => return .table .inline entries
  | none => failure

/-- A value that holds no others. -/
def simpleValue : Scan Value :=
  (do return .text (← text))
    <|> (do datetime; return .datetime)
    <|> (do return .float (← float))
    <|> (do return .integer (← integer))
    <|> (do Scan.literal "true"; return .boolean true)
    <|> (do Scan.literal "false"; return .boolean false)

/-- A value with at most the given depth of nesting inside. -/
def value : Nat → Scan Value
  | 0 => simpleValue
  | depth + 1 => simpleValue <|> array (value depth) <|> inlineTable (value depth)

/-! ## Lines -/

/-- A line of a document. -/
inductive Line where
  | blank
  | pair (pair : Pair)
  | header (header : Header)

/-- A header. -/
def header : Scan Header :=
  (do
    Scan.literal "[["
    let (path, name) ← keyPath
    Scan.literal "]]"
    return .element path name)
  <|> do
    Scan.literal "["
    let (path, name) ← keyPath
    Scan.literal "]"
    return .table path name

/-- A line with its end. -/
def line : Scan Line := do
  blanks
  (do newline; return .blank)
    <|> (do comment; newline <|> Scan.finished; return .blank)
    <|> (do let h ← header; lineEnd; return .header h)
    <|> (do let p ← pair (value (depthLimit - 1)); lineEnd; return .pair p)

/-- The pairs before the first header, and the sections. -/
def sectionsOf : List Line → List Pair × List Section
  | [] => ([], [])
  | .blank :: rest => sectionsOf rest
  | .pair p :: rest =>
    let (pairs, sections) := sectionsOf rest
    (p :: pairs, sections)
  | .header h :: rest =>
    let (pairs, sections) := sectionsOf rest
    ([], ⟨h, pairs⟩ :: sections)

/-- All lines of a text, which may start with a byte order mark. -/
def lines : Scan (List Line) := do
  let _ ← Scan.possibly (Scan.literal "\ufeff")
  let all ← Scan.many line
  blanks
  Scan.finished
  return all

/-- **The table that a text describes**, if it is a document. -/
def parse? (source : String) : Option Entries := do
  let (all, _) ← lines source.toList
  let (pairs, sections) := sectionsOf all
  assemble pairs sections

end ViewInput.Toml

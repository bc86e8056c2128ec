/-!
# Values of a TOML document

A document is a table, and a table a list of entries in the order of their appearance.  While a
document is read a table remembers **how it came about** (`Origin`), because that decides who may
still add to it: a header may be written over a table that only longer headers implied, and a
dotted key may add to tables that dotted keys made.
-/

namespace ViewInput.Toml

/-- How a table came about. -/
inductive Origin where
  /-- Written between braces; nothing is ever added to it. -/
  | inline
  /-- Opened by a header of its own, or an element of an array of tables. -/
  | header
  /-- Implied by the header of a table inside it. -/
  | implied
  /-- Made by a dotted key. -/
  | dotted
deriving DecidableEq

inductive Value where
  | text (value : String)
  | integer (value : Int)
  | float (value : Float)
  | boolean (value : Bool)
  /-- A date, a time or both. -/
  | datetime
  | array (elements : List Value)
  | table (origin : Origin) (entries : List (String × Value))
  /-- An array of tables, opened by headers in double brackets. -/
  | tables (elements : List (List (String × Value)))

abbrev Entries := List (String × Value)

/-- The entries with one value set, in its old place if the key is there already. -/
def Entries.put (key : String) (value : Value) : Entries → Entries
  | [] => [(key, value)]
  | (k, v) :: rest => if k = key then (key, value) :: rest else (k, v) :: Entries.put key value rest

end ViewInput.Toml

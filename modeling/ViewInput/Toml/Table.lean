import ViewInput.Toml.Value

/-!
# Building tables

A key or a header names a table by a path from the table it stands in.  Steps that are missing are
made on the way, and **the last element of an array of tables stands for the array**.  What may be
walked through depends on who walks:

* nobody enters a value in braces;
* a dotted key does not enter a table that a header opened.

Nothing is ever defined twice.
-/

namespace ViewInput.Toml

/-- The entries with the table at the end of a path changed.  `dotted` says that a key walks, and
not a header. -/
def updateAt (dotted : Bool) (update : Origin → Entries → Option Entries) :
    List String → Origin → Entries → Option Entries
  | [], origin, entries => update origin entries
  | key :: path, _, entries =>
    match entries.lookup key with
    | none => do
      let origin := if dotted then Origin.dotted else Origin.implied
      let child ← updateAt dotted update path origin []
      return entries.put key (.table origin child)
    | some (.table origin child) =>
      if origin = .inline ∨ (dotted ∧ origin = .header) then none
      else do
        let child ← updateAt dotted update path origin child
        return entries.put key (.table origin child)
    | some (.tables elements) => do
      let last ← elements.getLast?
      let last ← updateAt dotted update path .header last
      return entries.put key (.tables (elements.dropLast ++ [last]))
    | some _ => none

/-- A key with its value.  The key is a path to a table and a name in it. -/
structure Pair where
  path : List String
  name : String
  value : Value

/-- The entries with a pair added.  The last table of a dotted path has to be one that dotted keys
made, and the name must be new. -/
def Entries.add (origin : Origin) (entries : Entries) (pair : Pair) : Option Entries :=
  updateAt true
    (fun origin entries =>
      if decide (origin = .dotted) = pair.path.isEmpty then none
      else if (entries.lookup pair.name).isSome then none
      else some (entries.put pair.name pair.value))
    pair.path origin entries

/-- The entries with all pairs added, in order. -/
def Entries.addAll (origin : Origin) (entries : Entries) (pairs : List Pair) : Option Entries :=
  pairs.foldlM (Entries.add origin) entries

/-! ## Sections -/

/-- The opening of a section. -/
inductive Header where
  /-- A table, by its path and name. -/
  | table (path : List String) (name : String)
  /-- A further element of an array of tables. -/
  | element (path : List String) (name : String)

/-- A header with the pairs below it. -/
structure Section where
  header : Header
  pairs : List Pair

/-- The document with a section added.  A table may be opened once, even if longer headers implied
it before. -/
def Section.addTo (part : Section) (root : Entries) : Option Entries :=
  match part.header with
  | .table path name =>
    updateAt false
      (fun _ entries => do
        let start ← match entries.lookup name with
          | none => some []
          | some (.table .implied child) => some child
          | some _ => none
        let filled ← Entries.addAll .header start part.pairs
        return entries.put name (.table .header filled))
      path .header root
  | .element path name =>
    updateAt false
      (fun _ entries => do
        let others ← match entries.lookup name with
          | none => some []
          | some (.tables elements) => some elements
          | some _ => none
        let filled ← Entries.addAll .header [] part.pairs
        return entries.put name (.tables (others ++ [filled])))
      path .header root

/-- A document from the pairs before its first header and its sections. -/
def assemble (pairs : List Pair) (sections : List Section) : Option Entries := do
  let root ← Entries.addAll .header [] pairs
  sections.foldlM (fun root part => part.addTo root) root

end ViewInput.Toml

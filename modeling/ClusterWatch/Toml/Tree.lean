import ClusterWatch.Toml.Basic

/-!
How the tables of a TOML document come about.

A table is made by its own header, by the header of a table inside it, or by a dotted key. What
may still be added to it depends on that: a header can take over only a table that other headers
implied, a dotted key can enter only tables that no header opened, and may put its last part only
into a table that dotted keys made. No entry is ever defined twice.
-/

namespace ClusterWatch.Toml

/-- What made a table. -/
inductive Origin where
  | header
  | implied
  | dotted
deriving DecidableEq

/-- An entry of a table under construction: a finished value, a table, or the tables of an array
that headers make. -/
inductive Node where
  | value (v : Toml)
  | table (origin : Origin) (entries : List (String × Node))
  | tables (elements : List (List (String × Node)))

abbrev Entries := List (String × Node)

/-- Puts a node under a name, in the place of the node that was there or at the end. -/
def Entries.put (name : String) (node : Node) : Entries → Entries
  | [] => [(name, node)]
  | (n, old) :: rest =>
    if n = name then (n, node) :: rest else (n, old) :: Entries.put name node rest

/-- Adds `key = value` at the end of a dotted path. -/
def Entries.assign (key : String) (value : Toml) : List String → Entries → Option Entries
  | [], entries =>
    match entries.lookup key with
    | none => some (entries ++ [(key, .value value)])
    | some _ => none
  | name :: path, entries =>
    match entries.lookup name with
    | none => do
      let inner ← Entries.assign key value path []
      return entries ++ [(name, .table .dotted inner)]
    | some (.table origin inner) =>
      if origin = .header ∨ (origin = .implied ∧ path = []) then none
      else do
        let inner ← Entries.assign key value path inner
        return Entries.put name (.table origin inner) entries
    | some (.tables elements) =>
      if path = [] then none
      else
        match elements.getLast? with
        | none => none
        | some last => do
          let last ← Entries.assign key value path last
          return Entries.put name (.tables (elements.dropLast ++ [last])) entries
    | some (.value _) => none

/-- Changes the node at the end of a path of headers; the tables on the way are implied, and of
an array of tables the last one is entered. -/
def Entries.alter (key : String) (change : Option Node → Option Node) :
    List String → Entries → Option Entries
  | [], entries => do return Entries.put key (← change (entries.lookup key)) entries
  | name :: path, entries =>
    match entries.lookup name with
    | none => do
      let inner ← Entries.alter key change path []
      return entries ++ [(name, .table .implied inner)]
    | some (.table origin inner) => do
      let inner ← Entries.alter key change path inner
      return Entries.put name (.table origin inner) entries
    | some (.tables elements) =>
      match elements.getLast? with
      | none => none
      | some last => do
        let last ← Entries.alter key change path last
        return Entries.put name (.tables (elements.dropLast ++ [last])) entries
    | some (.value _) => none

/-- A key with a value: the path of the key, its last part and the value. -/
structure Assignment where
  path : List String
  key : String
  value : Toml

def Entries.assignAll (assignments : List Assignment) (entries : Entries) : Option Entries :=
  assignments.foldlM (fun entries a => entries.assign a.key a.value a.path) entries

/-- What opens a section of a document. -/
inductive Header where
  | table (path : List String) (key : String)
  | element (path : List String) (key : String)

/-- A header and the assignments below it. -/
structure Section where
  header : Header
  assignments : List Assignment

/-- The table of a header: a new one, or one that was only implied so far. -/
def Section.open? (assignments : List Assignment) : Option Node → Option Node
  | none => (Entries.assignAll assignments []).map (.table .header)
  | some (.table .implied entries) =>
    (Entries.assignAll assignments entries).map (.table .header)
  | some _ => none

/-- The array of a header that adds an element. -/
def Section.append? (assignments : List Assignment) : Option Node → Option Node
  | none => (Entries.assignAll assignments []).map fun element => .tables [element]
  | some (.tables elements) =>
    (Entries.assignAll assignments []).map fun element => .tables (elements ++ [element])
  | some _ => none

/-- Adds a section to the entries of a document. -/
def Entries.addSection (entries : Entries) (s : Section) : Option Entries :=
  match s.header with
  | .table path key => entries.alter key (Section.open? s.assignments) path
  | .element path key => entries.alter key (Section.append? s.assignments) path

mutual

def Node.toToml : Node → Toml
  | .value v => v
  | .table _ entries => .table (entriesToToml entries)
  | .tables elements => .array (elementsToToml elements)

def entriesToToml : List (String × Node) → List (String × Toml)
  | [] => []
  | (name, node) :: rest => (name, node.toToml) :: entriesToToml rest

def elementsToToml : List (List (String × Node)) → List Toml
  | [] => []
  | entries :: rest => .table (entriesToToml entries) :: elementsToToml rest

end

/-- The inline table that the given assignments write. -/
def inlineTable? (assignments : List Assignment) : Option Toml :=
  (Entries.assignAll assignments []).map fun entries => .table (entriesToToml entries)

/-- The document with the given assignments before its first header, and the given sections. -/
def document? (top : List Assignment) (sections : List Section) : Option Toml := do
  let entries ← Entries.assignAll top []
  let entries ← sections.foldlM Entries.addSection entries
  return .table (entriesToToml entries)

end ClusterWatch.Toml

import Herald.Config.Value

/-!
How the lines of a TOML document make tables. A table is opened once, by a header, by the header of
a table within it, or by the points of a key. A header may claim a table that so far only stood
above others; the points of a key may enter tables of their own kind alone, and no header may claim
one of these.
-/
namespace Herald.Toml

/-- How a table came to be. -/
inductive Opening where
  | header
  /-- It stands above a table with a header. -/
  | above
  | points
deriving DecidableEq, Repr

inductive Node where
  | value (v : Config.Value)
  | table (opening : Opening) (entries : List (String × Node))
  /-- A list of tables, all but its last one closed. -/
  | tables (closed : List Config.Value) (last : List (String × Node))

abbrev Table := List (String × Node)

mutual

def Node.toValue : Node → Config.Value
  | .value v => v
  | .table _ entries => .table (toValues entries)
  | .tables closed last => .ofList (closed ++ [.table (toValues last)])

def toValues : List (String × Node) → List (String × Config.Value)
  | [] => []
  | (name, n) :: rest => (name, n.toValue) :: toValues rest

end

def place (name : String) (node : Node) : Table → Table
  | [] => [(name, node)]
  | (k, n) :: rest => if name = k then (name, node) :: rest else (k, n) :: place name node rest

/-- Changes the table at the end of a path; `change` is told how that table was opened. With
`points` the path is that of a key, and what is missing is opened by it. -/
def alter (points : Bool) (change : Opening → Table → Option Table) (opening : Opening) :
    List String → Table → Option Table
  | [], t => change opening t
  | name :: rest, t =>
    match t.lookup name with
    | none =>
      let opening := if points then Opening.points else Opening.above
      (alter points change opening rest []).map fun inner => place name (.table opening inner) t
    | some (.value _) => none
    | some (.table opening inner) =>
      if points && opening = .header then none
      else (alter points change opening rest inner).map fun inner =>
        place name (.table opening inner) t
    | some (.tables closed last) =>
      (alter points change .header rest last).map fun last => place name (.tables closed last) t

/-- Adds an entry. Its table, if it is not the one that the key is written in, was opened by points,
and the entry is new. -/
def addEntry (key : List String) (v : Config.Value) (opening : Opening) (t : Table) :
    Option Table :=
  match key.getLast? with
  | none => none
  | some name =>
    let above := key.dropLast
    let add (own : Opening) (t : Table) : Option Table :=
      if above.isEmpty || own = .points then
        if (t.lookup name).isSome then none else some (place name (.value v) t)
      else none
    alter true add opening above t

def openTable (path : List String) (root : Table) : Option Table :=
  match path.getLast? with
  | none => none
  | some name =>
    let claim (_ : Opening) (t : Table) : Option Table :=
      match t.lookup name with
      | none => some (place name (.table .header []) t)
      | some (.table .above inner) => some (place name (.table .header inner) t)
      | some _ => none
    alter false claim .header path.dropLast root

def openNext (path : List String) (root : Table) : Option Table :=
  match path.getLast? with
  | none => none
  | some name =>
    let next (_ : Opening) (t : Table) : Option Table :=
      match t.lookup name with
      | none => some (place name (.tables [] []) t)
      | some (.tables closed last) =>
        some (place name (.tables (closed ++ [.table (toValues last)]) []) t)
      | some _ => none
    alter false next .header path.dropLast root

inductive Line where
  | blank
  | table (path : List String)
  | next (path : List String)
  | entry (key : List String) (v : Config.Value)

/-- A document so far: its tables, and the path of the one that entries go to. -/
structure Draft where
  root : Table
  current : List String

def Draft.add (d : Draft) : Line → Option Draft
  | .blank => some d
  | .table path => (openTable path d.root).map fun root => ⟨root, path⟩
  | .next path => (openNext path d.root).map fun root => ⟨root, path⟩
  | .entry key v =>
    (alter false (fun _ t => addEntry key v .header t) .header d.current d.root).map fun root =>
      { d with root }

def ofLines (lines : List Line) : Option Table :=
  (lines.foldlM Draft.add ⟨[], []⟩).map (·.root)

def ofEntries (entries : List (List String × Config.Value)) : Option Table :=
  entries.foldlM (fun t e => addEntry e.1 e.2 .header t) []

end Herald.Toml

import CecGateway.Json.Value

/-!
# Tables

The tables of a TOML document while it is read. A table is entered by headers, by dotted keys, or
both, and how it came to be decides by which it may be entered again.
-/

namespace CecGateway.Toml

inductive Origin
  /-- Named on the way to another table by a header. -/
  | implied
  /-- Named on the way to a value by a dotted key. -/
  | dotted
  /-- Opened by its own header. -/
  | opened
  deriving DecidableEq, Repr

inductive Node
  | value (v : Json)
  | table (origin : Origin) (entries : List (String × Node))
  /-- An array of tables, the last one first. -/
  | tables (last : List (String × Node)) (earlier : List (List (String × Node)))

abbrev Table := List (String × Node)

def put (key : String) (node : Node) : Table → Table
  | [] => [(key, node)]
  | (k, n) :: rest => if k = key then (key, node) :: rest else (k, n) :: put key node rest

/-- Goes along a path from a table and changes the one at its end, which is told how it came to be.
Tables that are missing on the way are made, arrays of tables are entered at their last, and dotted
keys do not enter a table that has its own header. -/
def descend (isDotted : Bool) (change : Origin → Table → Option Table) :
    Origin → List String → Table → Option Table
  | origin, [], t => change origin t
  | _, key :: path, t => do
    match t.lookup key with
    | none =>
      let made := if isDotted then .dotted else .implied
      return put key (.table made (← descend isDotted change made path [])) t
    | some (.table origin entries) =>
      if isDotted && origin = .opened then none
      else return put key (.table origin (← descend isDotted change origin path entries)) t
    | some (.tables last earlier) =>
      return put key (.tables (← descend isDotted change .opened path last) earlier) t
    | some (.value _) => none

/-- Adds a value under a dotted key to the table at `place`. The table that takes the value is the
one at `place` itself, or one that dotted keys have made. -/
def define (place path : List String) (v : Json) (root : Table) : Option Table := do
  let key ← path.getLast?
  let front := path.dropLast
  let addValue (origin : Origin) (t : Table) : Option Table :=
    if (origin = .dotted) = front.isEmpty || (t.lookup key).isSome then none
    else some (t ++ [(key, .value v)])
  descend false (fun _ => descend true addValue .opened front) .opened place root

def openTable (path : List String) (root : Table) : Option Table := do
  let key ← path.getLast?
  let add (_ : Origin) (t : Table) : Option Table :=
    match t.lookup key with
    | none => some (t ++ [(key, .table .opened [])])
    | some (.table .implied entries) => some (put key (.table .opened entries) t)
    | _ => none
  descend false add .opened path.dropLast root

def addTable (path : List String) (root : Table) : Option Table := do
  let key ← path.getLast?
  let add (_ : Origin) (t : Table) : Option Table :=
    match t.lookup key with
    | none => some (t ++ [(key, .tables [] [])])
    | some (.tables last earlier) => some (put key (.tables [] (last :: earlier)) t)
    | _ => none
  descend false add .opened path.dropLast root

mutual

def Node.toJson : Node → Json
  | .value v => v
  | .table _ entries => Json.ofMembers (entriesToJson entries)
  | .tables last earlier =>
    .arr (tablesToJson earlier [] ++ [Json.ofMembers (entriesToJson last)])

def entriesToJson : List (String × Node) → List (String × Json)
  | [] => []
  | (key, node) :: rest => (key, node.toJson) :: entriesToJson rest

def tablesToJson : List (List (String × Node)) → List Json → List Json
  | [], done => done
  | t :: rest, done => tablesToJson rest (Json.ofMembers (entriesToJson t) :: done)

end

end CecGateway.Toml

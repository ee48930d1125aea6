import Overlay.Toml.Value

/-!
# Tables under construction

A document writes its tables piece by piece. What one statement has begun another one may go on with
only in certain ways, and these depend on how a table came into being: it was written under a header
of its own, it was passed through on the way to another header, or it was passed through by a dotted
key. The parts of an array of tables are entered through the last of them. Values are complete and
cannot be entered.
-/

namespace Overlay.Toml

/-- How a table came into being. -/
inductive Origin where
  /-- It has a header, or it is the whole document. -/
  | header
  /-- A header of another table passes through it. -/
  | passed
  /-- A dotted key passes through it. -/
  | dotted
deriving DecidableEq

/-- What stands under a key of a table under construction. -/
inductive Node where
  /-- A complete value. -/
  | value (v : Toml)
  /-- A table. -/
  | table (origin : Origin) (members : List (List Char × Node))
  /-- An array of tables: the last table and those before it, latest first. -/
  | tables (last : List (List Char × Node)) (earlier : List (List (List Char × Node)))

/-- The members of a table under construction. -/
abbrev Members := List (List Char × Node)

namespace Members

/-- What stands under a key. -/
def node? (ms : Members) (key : List Char) : Option Node :=
  (List.find? (fun m => m.1 = key) ms).map (·.2)

/-- Puts a node under a key, in place of what stood there. -/
def set (ms : Members) (key : List Char) (n : Node) : Members :=
  if ms.any (fun m => m.1 = key) then ms.map fun m => if m.1 = key then (key, n) else m
  else ms ++ [(key, n)]

/-- Changes the table that a path leads to. Tables that are missing on the way are made, with origin
`fresh`. A dotted key passes through no table that has a header. -/
def alter (fresh : Origin) (change : Origin → Members → Option Members) :
    List (List Char) → Origin → Members → Option Members
  | [], origin, ms => change origin ms
  | key :: path, _, ms =>
    match ms.node? key with
    | none => (alter fresh change path fresh []).map fun t => ms.set key (.table fresh t)
    | some (.table origin t) =>
      if fresh = .dotted ∧ origin = .header then none
      else (alter fresh change path origin t).map fun t => ms.set key (.table origin t)
    | some (.tables last earlier) =>
      (alter fresh change path .header last).map fun t => ms.set key (.tables t earlier)
    | some (.value _) => none

/-- Puts a value under a dotted key. A key without dots belongs into the table that is being written;
one with dots into a table that dotted keys have made. No key is given twice. -/
def put (ms : Members) (path : List (List Char)) (key : List Char) (v : Toml) : Option Members :=
  alter .dotted (fun origin ms =>
    if (origin = .dotted) = (path = []) then none
    else if (ms.node? key).isSome then none
    else some (ms.set key (.value v))) path .header ms

/-- Begins a table under a header. It may have been passed through before. -/
def openTable (ms : Members) (path : List (List Char)) (key : List Char) : Option Members :=
  alter .passed (fun _ ms =>
    match ms.node? key with
    | none => some (ms.set key (.table .header []))
    | some (.table .passed t) => some (ms.set key (.table .header t))
    | some _ => none) path .header ms

/-- Begins the next table of an array of tables. -/
def openElement (ms : Members) (path : List (List Char)) (key : List Char) : Option Members :=
  alter .passed (fun _ ms =>
    match ms.node? key with
    | none => some (ms.set key (.tables [] []))
    | some (.tables last earlier) => some (ms.set key (.tables [] (last :: earlier)))
    | some _ => none) path .header ms

/-- Puts a value under a dotted key of the table with the given header. -/
def putUnder (ms : Members) (header path : List (List Char)) (key : List Char) (v : Toml) :
    Option Members :=
  alter .passed (fun _ ms => put ms path key v) header .header ms

end Members

mutual

/-- The value of a node. -/
def Node.finish : Node → Toml
  | .value v => v
  | .table _ ms => .table (finishMembers ms)
  | .tables last earlier => .array (finishTables earlier ++ [.table (finishMembers last)])

/-- The members of a table. -/
def finishMembers : List (List Char × Node) → List (List Char × Toml)
  | [] => []
  | (key, n) :: ms => (key, n.finish) :: finishMembers ms

/-- The tables of an array, which are listed latest first. -/
def finishTables : List (List (List Char × Node)) → List Toml
  | [] => []
  | ms :: earlier => finishTables earlier ++ [.table (finishMembers ms)]

end

/-- The table with the given members. -/
def Members.finish (ms : Members) : Toml := .table (finishMembers ms)

end Overlay.Toml

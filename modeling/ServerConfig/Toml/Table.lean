import ServerConfig.Datum

/-!
# Tables under construction

While a document is read its tables stay open for further entries, each under
its own rule.  A table that a header declares cannot be declared again.  A table
that comes about by a dotted key takes entries only until the next header.  An
array of tables takes entries in its last table.  Values that are written out
never change.
-/

namespace ServerConfig.Toml

/-- How a table came about. -/
inductive Status where
  /-- By lying on the way to another table. -/
  | passed
  /-- By a dotted key below the header with this number. -/
  | dotted (header : Nat)
  /-- By a header of its own. -/
  | declared
deriving DecidableEq, Repr

/-- What stands behind a key. -/
inductive Node where
  | value (value : Datum)
  | table (status : Status) (entries : List (String × Node))
  /-- An array of tables: the finished ones, and the entries of the last one. -/
  | tables (finished : List Datum) (last : List (String × Node))
deriving Inhabited

/-- The keys of a table with what stands behind them. -/
abbrev Nodes := Entries Node

mutual

def Node.toDatum : Node → Datum
  | .value value => value
  | .table _ entries => .table (entriesToData entries)
  | .tables finished last => .array (finished ++ [.table (entriesToData last)])

def entriesToData : List (String × Node) → List (String × Datum)
  | [] => []
  | (key, node) :: rest => (key, node.toDatum) :: entriesToData rest

end

namespace Nodes

/-- Change the entries of the table at a path.  Tables that are missing on the
way are created; an array of tables stands for its last table. -/
def alterAt (change : Nodes → Option Nodes) : List String → Nodes → Option Nodes
  | [], nodes => change nodes
  | key :: path, nodes =>
      match nodes.lookup key with
      | none => do
          let inner ← alterAt change path []
          return Entries.insert key (.table .passed inner) nodes
      | some (.value _) => none
      | some (.table status inner) => do
          let inner ← alterAt change path inner
          return Entries.insert key (.table status inner) nodes
      | some (.tables finished last) => do
          let last ← alterAt change path last
          return Entries.insert key (.tables finished last) nodes

/-- Declare the table behind a key. -/
def declare (key : String) (nodes : Nodes) : Option Nodes :=
  match nodes.lookup key with
  | none => some (Entries.insert key (.table .declared []) nodes)
  | some (.table .passed inner) => some (Entries.insert key (.table .declared inner) nodes)
  | some _ => none

/-- Begin a new table in the array of tables behind a key. -/
def append (key : String) (nodes : Nodes) : Option Nodes :=
  match nodes.lookup key with
  | none => some (Entries.insert key (.tables [] []) nodes)
  | some (.tables finished last) =>
      let finished := finished ++ [.table (entriesToData last)]
      some (Entries.insert key (.tables finished []) nodes)
  | some _ => none

/-- Whether a table takes entries by a dotted key below the header with a given
number. -/
def isOpen (header : Nat) : Status → Bool
  | .passed => true
  | .dotted other => other = header
  | .declared => false

/-- Set the value of a dotted key below the header with a given number. -/
def assign (header : Nat) (value : Datum) : List String → Nodes → Option Nodes
  | [], _ => none
  | [key], nodes =>
      match nodes.lookup key with
      | none => some (Entries.insert key (.value value) nodes)
      | some _ => none
  | key :: path, nodes =>
      match nodes.lookup key with
      | none => do
          let inner ← assign header value path []
          return Entries.insert key (.table (.dotted header) inner) nodes
      | some (.table status inner) =>
          if isOpen header status then do
            let inner ← assign header value path inner
            return Entries.insert key (.table (.dotted header) inner) nodes
          else none
      | some _ => none

/-- Declare the table with a given key, its last part apart from the others. -/
def declareAt (key : List String) (nodes : Nodes) : Option Nodes := do
  let last ← key.getLast?
  alterAt (declare last) key.dropLast nodes

/-- Begin a new table in the array of tables with a given key. -/
def appendAt (key : List String) (nodes : Nodes) : Option Nodes := do
  let last ← key.getLast?
  alterAt (append last) key.dropLast nodes

end Nodes

end ServerConfig.Toml

import StreamWindow.Data
import StreamWindow.Text.Excerpt

/-! Tables of a TOML document while it is read. A name is given a value once. A table may be
extended through a longer name, but it is opened under its own name only once. -/

namespace StreamWindow.Toml

open Text (Region)

structure Key where
  name : String
  region : Region

/-- How a table came about: below the name of another table, by a dotted name in front of a
value, under its own name, or between braces as a value. -/
inductive Origin
  | implied | dotted | opened | inline
  deriving DecidableEq

inductive Node
  | leaf (region : Region) (data : Data)
  | array (region : Region) (items : List Node)
  | table (region : Region) (origin : Origin) (entries : List (Key × Node))
  /-- The tables that were opened one after the other under the same name, latest first. -/
  | tables (region : Region) (header : Region) (latest : List (Key × Node))
      (earlier : List Node)

abbrev Entries := List (Key × Node)

abbrev Change := Option (Key × Node) → Option (Key × Node)

def update (name : String) (change : Change) : Entries → Option Entries
  | [] => (change none).map fun entry => [entry]
  | entry :: rest =>
      if entry.1.name = name then (change (some entry)).map fun entry => entry :: rest
      else (update name change rest).map (entry :: ·)

/-- Changes the table that a path leads to. Tables on the way that are missing come about with
the given origin, and stand where their names do. No path leads through inline tables, and a
dotted one does not lead through opened tables. -/
def within (origin : Origin) (change : Origin → Entries → Option Entries) :
    List Key → Origin → Entries → Option Entries
  | [], reached, entries => change reached entries
  | key :: path, _, entries =>
      update key.name (fun
        | none => do
            let inner ← within origin change path origin []
            return (key, .table key.region origin inner)
        | some (found, .tables region header latest earlier) => do
            let latest ← within origin change path .opened latest
            return (found, .tables region header latest earlier)
        | some (found, .table region reached inner) =>
            if reached = .inline ∨ (origin = .dotted ∧ reached = .opened) then none
            else do
              let inner ← within origin change path reached inner
              return (found, .table region reached inner)
        | some _ => none) entries

/-- Gives a name its value in the table that a dotted path leads to. The path may add to tables
that dotted names made, and to no others. -/
def assign (path : List Key) (key : Key) (value : Node) (entries : Entries) : Option Entries :=
  within .dotted (fun reached inner =>
    if path.isEmpty || reached = .dotted then
      update key.name (fun found => if found.isNone then some (key, value) else none) inner
    else none) path .opened entries

def openTable (header : Region) (path : List Key) (key : Key) (entries : Entries) :
    Option Entries :=
  within .implied (fun _ =>
    update key.name fun
      | none => some (key, .table header .opened [])
      | some (_, .table _ .implied inner) => some (key, .table header .opened inner)
      | some _ => none) path .opened entries

def appendTable (header : Region) (path : List Key) (key : Key) (entries : Entries) :
    Option Entries :=
  within .implied (fun _ =>
    update key.name fun
      | none => some (key, .tables header header [] [])
      | some (found, .tables region last latest earlier) =>
          some (found, .tables region header [] (.table last .opened latest :: earlier))
      | some _ => none) path .opened entries

def inCurrent (change : Entries → Option Entries) (path : List Key) (entries : Entries) :
    Option Entries :=
  within .implied (fun _ => change) path .opened entries

namespace Node

def region : Node → Region
  | leaf region _ => region
  | array region _ => region
  | table region _ _ => region
  | tables region _ _ _ => region

def entries : Node → Entries
  | table _ _ entries => entries
  | _ => []

def items : Node → List Node
  | array _ items => items
  | tables _ header latest earlier => (table header .opened latest :: earlier).reverse
  | _ => []

end Node

def byName (entries : List (String × Data)) : List (String × Data) :=
  entries.mergeSort fun first second => first.1 ≤ second.1

mutual

def Node.toData : Node → Data
  | .leaf _ data => data
  | .array _ items => .sequence (itemsToData items)
  | .table _ _ entries => .map (byName (entriesToData entries))
  | .tables _ _ latest earlier =>
      .sequence ((.map (byName (entriesToData latest)) :: itemsToData earlier).reverse)

def itemsToData : List Node → List Data
  | [] => []
  | node :: rest => node.toData :: itemsToData rest

def entriesToData : List (Key × Node) → List (String × Data)
  | [] => []
  | (key, node) :: rest => (key.name, node.toData) :: entriesToData rest

end

end StreamWindow.Toml

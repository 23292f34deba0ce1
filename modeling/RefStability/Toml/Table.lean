import RefStability.Toml.Basic

/-!
Tables that are still open to new entries. How a table came about decides what may add to it.
-/

namespace RefStability.Toml

/-- A table is named by a header of its own, implied by a longer header, or implied by a dotted
key. -/
inductive Origin where
  | header
  | implied
  | dotted
deriving DecidableEq, Repr

/-- A finished value, an open table, or a list of tables of which the last is open. -/
inductive Item where
  | value (value : Value)
  | table (origin : Origin) (entries : List (String × Item))
  | tables (elements : List (List (String × Item)))
deriving Inhabited

abbrev Entries := List (String × Item)

mutual

/-- The value of an item once nothing is added to it any more. -/
def Item.close : Item → Value
  | .value value => value
  | .table _ entries => .table (closeEntries entries)
  | .tables elements => .array (closeElements elements)

def closeEntries : List (String × Item) → List (String × Value)
  | [] => []
  | (key, item) :: rest => (key, item.close) :: closeEntries rest

def closeElements : List (List (String × Item)) → List Value
  | [] => []
  | entries :: rest => .table (closeEntries entries) :: closeElements rest

end

namespace Entries

/-- Changes what stands under a key; a new key goes to the end. -/
def update (key : String) (change : Option Item → Option Item) : Entries → Option Entries
  | [] => (change none).map fun item => [(key, item)]
  | (other, item) :: rest =>
    if other = key then (change (some item)).map fun changed => (other, changed) :: rest
    else (update key change rest).map ((other, item) :: ·)

def updateLast (change : Entries → Option Entries) : List Entries → Option (List Entries)
  | [] => none
  | [entries] => (change entries).map ([·])
  | entries :: rest => (updateLast change rest).map (entries :: ·)

/-- Adds a value under a new key, reached through the given tables. Only a table that the key itself
implies may be added to. -/
def assign (key : String) (value : Value) : (isOpen : Bool) → List String → Entries → Option Entries
  | isOpen, [], entries =>
    if isOpen then update key (fun item => if item.isNone then some (.value value) else none) entries
    else none
  | _, step :: path, entries =>
    update step (fun
      | none => (assign key value true path []).map (.table .dotted)
      | some (.table .dotted inner) => (assign key value true path inner).map (.table .dotted)
      | some (.table .implied inner) => (assign key value false path inner).map (.table .implied)
      | some (.tables elements) => (updateLast (assign key value false path) elements).map .tables
      | _ => none) entries

/-- Changes the table that a header leads to; tables on the way that do not exist are implied. -/
def changeAt (change : Entries → Option Entries) : List String → Entries → Option Entries
  | [], entries => change entries
  | step :: path, entries =>
    update step (fun
      | none => (changeAt change path []).map (.table .implied)
      | some (.table origin inner) => (changeAt change path inner).map (.table origin)
      | some (.tables elements) => (updateLast (changeAt change path) elements).map .tables
      | some (.value _) => none) entries

/-- Names a table by a header: it must be new or implied by longer headers only. -/
def openTable (key : String) : Entries → Option Entries :=
  update key fun
    | none => some (.table .header [])
    | some (.table .implied inner) => some (.table .header inner)
    | _ => none

def openElement (key : String) : Entries → Option Entries :=
  update key fun
    | none => some (.tables [[]])
    | some (.tables elements) => some (.tables (elements ++ [[]]))
    | _ => none

end Entries

/-- Adds values one after the other, each under the last part of its path. -/
def Entries.assignAll : List (List String × Value) → Entries → Option Entries
  | [], entries => some entries
  | (path, value) :: rest, entries => do
    assignAll rest (← assign (← path.getLast?) value true path.dropLast entries)

def inlineTable? (assignments : List (List String × Value)) : Option Value :=
  (Entries.assignAll assignments []).map fun entries => .table (closeEntries entries)

end RefStability.Toml

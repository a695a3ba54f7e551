import Devirt.Document.Basic

/-!
# Tables of a TOML file

A table can be opened by a header, implied by the header of a table below it, or made by a dotted
key. These origins decide what may still be added to it.
-/

namespace Devirt.Toml

/-- How a table came to be. -/
inductive Origin where
  | header
  /-- Named on the way to a header. -/
  | implied
  /-- Named on the way to the last part of a dotted key. -/
  | dotted
deriving DecidableEq

/-- What stands under a key. -/
inductive Item where
  | value (d : Document)
  | table (origin : Origin) (entries : List (String × Item))
  /-- An array of tables, of which the last one is open. -/
  | tables (elements : List (List (String × Item)))

/-- The entries of a table, in order. -/
abbrev Entries := List (String × Item)

namespace Entries

/-- Puts an item in the place of the one with the same key. -/
def replace (name : String) (item : Item) (entries : Entries) : Entries :=
  entries.map fun e => if e.1 = name then (name, item) else e

/-- Changes the table at the end of a path, making the tables on the way that are not there. A
dotted path must not enter a table that a header has opened. -/
def update (dotted : Bool) (change : Origin → Entries → Option Entries) :
    List String → Origin → Entries → Option Entries
  | [], origin, entries => change origin entries
  | name :: path, _, entries =>
    match entries.lookup name with
    | none =>
      let origin : Origin := if dotted then .dotted else .implied
      (update dotted change path origin []).map fun below =>
        entries ++ [(name, .table origin below)]
    | some (.value _) => none
    | some (.table origin below) =>
      if dotted ∧ origin = .header then none
      else
        (update dotted change path origin below).map fun below =>
          entries.replace name (.table origin below)
    | some (.tables elements) =>
      match elements.getLast? with
      | none => none
      | some last =>
        (update dotted change path .header last).map fun below =>
          entries.replace name (.tables (elements.dropLast ++ [below]))

/-- Adds a value under the last part of a key to the table that the rest of the key leads to. A
dotted key may only add to tables that dotted keys have made. -/
def addValue (keyPath : List String) (name : String) (d : Document) (origin : Origin)
    (entries : Entries) : Option Entries :=
  update true (fun origin entries =>
    if keyPath.isEmpty = decide (origin = .dotted) then none
    else if (entries.lookup name).isSome then none
    else some (entries ++ [(name, .value d)])) keyPath origin entries

/-- Opens a table. A table that was only implied so far moves to the end. -/
def openTable (name : String) (entries : Entries) : Option Entries :=
  match entries.lookup name with
  | none => some (entries ++ [(name, .table .header [])])
  | some (.table .implied below) =>
    some (entries.filter (·.1 ≠ name) ++ [(name, .table .header below)])
  | some _ => none

def openElement (name : String) (entries : Entries) : Option Entries :=
  match entries.lookup name with
  | none => some (entries ++ [(name, .tables [[]])])
  | some (.tables elements) => some (entries.replace name (.tables (elements ++ [[]])))
  | some _ => none

end Entries

mutual

def Item.toDocument : Item → Document
  | .value d => d
  | .table _ entries => .record (entriesToDocuments entries)
  | .tables elements => .list (elementsToDocuments elements)

def entriesToDocuments : List (String × Item) → List (String × Document)
  | [] => []
  | (name, item) :: rest => (name, item.toDocument) :: entriesToDocuments rest

def elementsToDocuments : List (List (String × Item)) → List Document
  | [] => []
  | entries :: rest => .record (entriesToDocuments entries) :: elementsToDocuments rest

end

end Devirt.Toml

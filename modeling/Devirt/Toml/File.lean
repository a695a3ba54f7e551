import Devirt.Toml.Value

/-!
# TOML files

A file is a sequence of lines: headers of tables, headers of arrays of tables, and entries. Entries
belong to the table of the last header.
-/

namespace Devirt.Toml

/-- What the lines read so far amount to. -/
structure State where
  root : Entries := []
  /-- The path of the last header. -/
  current : List String := []

namespace State

def update (s : State) (path : List String) (change : Entries → Option Entries) :
    Option Entries :=
  s.root.update false (fun _ entries => change entries) path .header

def openHeader (s : State) (path : List String)
    (change : String → Entries → Option Entries) : Option State := do
  let name ← path.getLast?
  let root ← s.update path.dropLast (change name)
  return ⟨root, path⟩

def addEntry (s : State) (path : List String) (d : Document) : Option State := do
  let name ← path.getLast?
  let root ← s.update s.current (Entries.addValue path.dropLast name d .header)
  return { s with root }

end State

/-- Reads one header or entry and gives the text after it. -/
def line (s : State) : List Char → Option (State × List Char)
  | '[' :: '[' :: rest => do
    match ← key rest with
    | (path, ']' :: ']' :: rest) => return (← s.openHeader path Entries.openElement, rest)
    | _ => none
  | '[' :: rest => do
    match ← key rest with
    | (path, ']' :: rest) => return (← s.openHeader path Entries.openTable, rest)
    | _ => none
  | cs => do
    match ← key cs with
    | (path, '=' :: rest) =>
      let (d, rest) ← value depthLimit (2 * rest.length + 2) (skipSpaces rest)
      return (← s.addEntry path d, rest)
    | _ => none

/-- Reads all lines. Each step takes at least one character, so the length of the text is fuel
enough. -/
def lines (fuel : Nat) (s : State) (cs : List Char) : Option State :=
  match skipLines cs.length cs with
  | [] => some s
  | rest =>
    match fuel with
    | 0 => none
    | fuel + 1 => do
      let (s, rest) ← line s rest
      lines fuel s (← finishLine? rest)

/-- The text without a byte order mark at its front. -/
def skipMark : List Char → List Char
  | '\ufeff' :: rest => rest
  | cs => cs

/-- Reads a file as a record of its tables and values, or fails if it is no TOML. -/
def parse (source : String) : Option Document :=
  let cs := skipMark source.toList
  (lines cs.length {} cs).map fun s => .record (entriesToDocuments s.root)

end Devirt.Toml

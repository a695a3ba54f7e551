import Devirt.Toml.Number
import Devirt.Toml.Table
import Devirt.Toml.Text

/-!
# Values in TOML

A value is a text, a word, an array, or a table on one line.
-/

namespace Devirt.Toml

mutual

/-- Takes a value. `depth` bounds the nesting of arrays and tables; `fuel` bounds the steps. -/
def value (depth fuel : Nat) : Scanner Document := fun cs =>
  match fuel, cs with
  | 0, _ => none
  | fuel + 1, '[' :: rest =>
    if depth = 0 then none
    else (arrayItems (depth - 1) fuel rest).map fun (items, rest) => (.list items, rest)
  | fuel + 1, '\x7b' :: rest =>
    if depth = 0 then none
    else
      match skipSpaces rest with
      | '\x7d' :: rest => some (.record [], rest)
      | rest =>
        (inlineEntries (depth - 1) fuel [] rest).map fun (entries, rest) =>
          (.record (entriesToDocuments entries), rest)
  | _ + 1, '"' :: rest => (text ('"' :: rest)).map fun (s, rest) => (.text s, rest)
  | _ + 1, '\'' :: rest => (text ('\'' :: rest)).map fun (s, rest) => (.text s, rest)
  | _ + 1, cs => word cs

/-- Takes the items of an array up to its closing bracket. A comma may follow the last one. -/
def arrayItems (depth fuel : Nat) : Scanner (List Document) := fun cs =>
  match fuel, skipLines cs.length cs with
  | _, ']' :: rest => some ([], rest)
  | 0, _ => none
  | fuel + 1, rest => do
    let (d, rest) ← value depth fuel rest
    match skipLines rest.length rest with
    | ',' :: rest =>
      let (items, rest) ← arrayItems depth fuel rest
      return (d :: items, rest)
    | ']' :: rest => return ([d], rest)
    | _ => none

/-- Takes the entries of a table on one line up to its closing brace, and adds them to those taken
before. -/
def inlineEntries (depth fuel : Nat) (entries : Entries) : Scanner Entries := fun cs =>
  match fuel with
  | 0 => none
  | fuel + 1 => do
    let (parts, rest) ← key cs
    match rest with
    | '=' :: rest =>
      let (d, rest) ← value depth fuel (skipSpaces rest)
      let name ← parts.getLast?
      let entries ← entries.addValue parts.dropLast name d .header
      match skipSpaces rest with
      | ',' :: rest => inlineEntries depth fuel entries rest
      | '\x7d' :: rest => return (entries, rest)
      | _ => none
    | _ => none

end

end Devirt.Toml

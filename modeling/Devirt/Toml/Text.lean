import Devirt.Text.Hexadecimal
import Devirt.Toml.Scan

/-!
# Scanning TOML: texts and keys
-/

namespace Devirt.Toml

/-- Takes a code point of this many hexadecimal digits. -/
def codePoint (width : Nat) : Scanner Char := fun cs => do
  if cs.length < width then none
  return (← Text.hexCharacter? (cs.take width), cs.drop width)

def escape : Scanner Char
  | 'b' :: rest => some ('\x08', rest)
  | 't' :: rest => some ('\t', rest)
  | 'n' :: rest => some ('\n', rest)
  | 'f' :: rest => some ('\x0c', rest)
  | 'r' :: rest => some ('\r', rest)
  | '"' :: rest => some ('"', rest)
  | '\\' :: rest => some ('\\', rest)
  | 'u' :: rest => codePoint 4 rest
  | 'U' :: rest => codePoint 8 rest
  | _ => none

/-- Puts a character before the text that a scanner took. -/
def push (c : Char) (scanned : Option (List Char × List Char)) :
    Option (List Char × List Char) :=
  scanned.map fun (s, rest) => (c :: s, rest)

/-- Takes a text with escapes up to its closing quote. -/
def basic (fuel : Nat) : Scanner (List Char) := fun cs =>
  match fuel, cs with
  | _, '"' :: rest => some ([], rest)
  | fuel + 1, '\\' :: rest => do
    let (c, rest) ← escape rest
    push c (basic fuel rest)
  | fuel + 1, c :: rest => if isVisible c then push c (basic fuel rest) else none
  | _, _ => none

/-- Takes a text without escapes up to its closing quote. -/
def literal : Scanner (List Char)
  | [] => none
  | c :: rest =>
    if c = '\'' then some ([], rest)
    else if isVisible c then push c (literal rest)
    else none

/-- Takes the closing quotes of a text of several lines. One or two quotes more belong to the
text. -/
def closing (quote : Char) (cs : List Char) : Option (List Char × List Char) :=
  let run := (cs.takeWhile (· = quote)).length
  if run < 3 then none
  else
    let inside := min (run - 3) 2
    some (List.replicate inside quote, cs.drop (inside + 3))

/-- The text after all spaces and line ends at its front. -/
def skipBlankLines : List Char → List Char
  | [] => []
  | '\r' :: '\n' :: rest => skipBlankLines rest
  | c :: rest => if isSpace c || c = '\n' then skipBlankLines rest else c :: rest

/-- The text after a backslash that joins two lines: after the line end and every space and line end
behind it. -/
def joinLines? (cs : List Char) : Option (List Char) :=
  (lineEnd? (skipSpaces cs)).map skipBlankLines

/-- Takes a text of several lines with escapes up to its closing quotes. -/
def multilineBasic (fuel : Nat) : Scanner (List Char) := fun cs =>
  match closing '"' cs with
  | some closed => some closed
  | none =>
    match fuel, cs with
    | fuel + 1, '\\' :: rest =>
      match joinLines? rest with
      | some rest => multilineBasic fuel rest
      | none => do
        let (c, rest) ← escape rest
        push c (multilineBasic fuel rest)
    | fuel + 1, c :: rest =>
      match lineEnd? (c :: rest) with
      | some rest => push '\n' (multilineBasic fuel rest)
      | none => if isVisible c then push c (multilineBasic fuel rest) else none
    | _, _ => none

/-- Takes a text of several lines without escapes up to its closing quotes. -/
def multilineLiteral (fuel : Nat) : Scanner (List Char) := fun cs =>
  match closing '\'' cs with
  | some closed => some closed
  | none =>
    match fuel, cs with
    | fuel + 1, c :: rest =>
      match lineEnd? (c :: rest) with
      | some rest => push '\n' (multilineLiteral fuel rest)
      | none => if isVisible c then push c (multilineLiteral fuel rest) else none
    | _, _ => none

/-- A text of several lines does not begin with the line end after its opening quotes. -/
def skipFirstLineEnd (cs : List Char) : List Char := (lineEnd? cs).getD cs

def text : Scanner String := fun cs =>
  let scanned :=
    match cs with
    | '"' :: '"' :: '"' :: rest => multilineBasic rest.length (skipFirstLineEnd rest)
    | '\'' :: '\'' :: '\'' :: rest => multilineLiteral rest.length (skipFirstLineEnd rest)
    | '"' :: rest => basic rest.length rest
    | '\'' :: rest => literal rest
    | _ => none
  scanned.map fun (s, rest) => (String.ofList s, rest)

/-! ## Keys -/

def isBare (c : Char) : Bool := c.isAlphanum || c = '_' || c = '-'

def keyPart : Scanner String := fun cs =>
  match cs with
  | '"' :: rest => (basic rest.length rest).map fun (s, rest) => (String.ofList s, rest)
  | '\'' :: rest => (literal rest).map fun (s, rest) => (String.ofList s, rest)
  | _ =>
    let word := cs.takeWhile isBare
    if word.isEmpty then none else some (String.ofList word, cs.dropWhile isBare)

/-- Takes the parts of a key, with the spaces around them. -/
def keyParts (fuel : Nat) : Scanner (List String) := fun cs => do
  let (part, rest) ← keyPart (skipSpaces cs)
  match fuel, skipSpaces rest with
  | fuel + 1, '.' :: rest => do
    let (parts, rest) ← keyParts fuel rest
    return (part :: parts, rest)
  | _, rest => return ([part], rest)

/-- How deeply values and keys may be nested. -/
def depthLimit : Nat := 79

def key : Scanner (List String) := fun cs => do
  let (parts, rest) ← keyParts cs.length cs
  if depthLimit < parts.length then none
  return (parts, rest)

end Devirt.Toml

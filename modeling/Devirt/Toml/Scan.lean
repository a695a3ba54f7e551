/-!
# Scanning TOML: characters, blanks and line ends

A scanner takes a piece off the front of a text and gives the rest of it, or fails.
-/

namespace Devirt.Toml

/-- Takes a piece off the front of a text. -/
abbrev Scanner (α : Type) := List Char → Option (α × List Char)

def isSpace (c : Char) : Bool := c = ' ' || c = '\t'

/-- A character that may stand in a comment or a literal text: a tab or no control character. -/
def isVisible (c : Char) : Bool := c = '\t' || (0x20 ≤ c.toNat && c.toNat ≠ 0x7f)

def skipSpaces (cs : List Char) : List Char := cs.dropWhile isSpace

/-- The text after the line end at its front. -/
def lineEnd? : List Char → Option (List Char)
  | '\n' :: rest => some rest
  | '\r' :: '\n' :: rest => some rest
  | _ => none

/-- The text after a comment at its front, if there is one. -/
def skipComment : List Char → List Char
  | '#' :: rest => rest.dropWhile isVisible
  | cs => cs

/-- The text after the end of a line, with nothing but spaces and a comment before it. The end of
the whole text ends a line as well. -/
def finishLine? (cs : List Char) : Option (List Char) :=
  match skipComment (skipSpaces cs) with
  | [] => some []
  | rest => lineEnd? rest

/-- The text after all spaces, comments and line ends at its front. Each step takes one line end
off, so the length of the text is fuel enough. -/
def skipLines (fuel : Nat) (cs : List Char) : List Char :=
  let rest := skipComment (skipSpaces cs)
  match fuel, lineEnd? rest with
  | fuel + 1, some after => skipLines fuel after
  | _, _ => rest

end Devirt.Toml

/-!
# Patterns

The syntax of regular expressions, and how deeply an expression is nested. What a pattern matches is
not told here.
-/

namespace Devirt

namespace Pattern

/-- A character that stands for itself. -/
structure Literal where
  char : Char
  /-- Whether it is written as the two hexadecimal digits of a byte. -/
  isByte : Bool
deriving DecidableEq

/-- Flags switched on and off, each by its letter. -/
structure FlagChanges where
  on : List Char
  off : List Char
deriving DecidableEq

/-- A set of characters, as it stands in brackets. -/
inductive CharSet where
  | literal (l : Literal)
  | range (low high : Literal)
  /-- A class with a name between colons, like that of the digits. -/
  | named (negated : Bool)
  /-- A class with a letter behind a backslash, like that of the digits. -/
  | shorthand (negated : Bool)
  | union (sets : List CharSet)
  /-- What two sets have in common, or what sets them apart. -/
  | combination (left right : CharSet)
  | bracket (negated : Bool) (set : CharSet)

namespace CharSet

/-- The union of sets. One set is its own union. -/
def ofList : List CharSet → CharSet
  | [set] => set
  | sets => union sets

mutual

/-- How many brackets, unions and combinations lie within each other. No set at all is no union. -/
def height : CharSet → Nat
  | literal _ | range _ _ | named _ | shorthand _ | union [] => 0
  | union (set :: sets) => 1 + max set.height (heights sets)
  | combination left right => 1 + max left.height right.height
  | bracket _ set => 1 + set.height

def heights : List CharSet → Nat
  | [] => 0
  | set :: sets => max set.height (heights sets)

end

end CharSet

end Pattern

/-- A regular expression. -/
inductive Pattern where
  | empty
  | literal (l : Devirt.Pattern.Literal)
  /-- Any character but the end of a line. -/
  | anyChar
  /-- The beginning or the end of a line or of the text. -/
  | edge
  /-- The beginning or the end of a word, or any place that is neither. -/
  | wordEdge
  | shorthand (negated : Bool)
  | bracket (negated : Bool) (set : Devirt.Pattern.CharSet)
  /-- Flags for the rest of the group. -/
  | flags (changes : Devirt.Pattern.FlagChanges)
  | group (changes : Devirt.Pattern.FlagChanges) (body : Pattern)
  | repetition (body : Pattern)
  | sequence (items : List Pattern)
  | choice (branches : List Pattern)

namespace Pattern

def ofItems : List Pattern → Pattern
  | [] => empty
  | [item] => item
  | items => sequence items

def ofBranches : List Pattern → Pattern
  | [branch] => branch
  | branches => choice branches

mutual

/-- How many parts of a pattern lie within each other. -/
def height : Pattern → Nat
  | empty | literal _ | anyChar | edge | wordEdge | shorthand _ | flags _ => 0
  | bracket _ set => 1 + set.height
  | group _ body => 1 + body.height
  | repetition body => 1 + body.height
  | sequence items => 1 + heights items
  | choice branches => 1 + heights branches

def heights : List Pattern → Nat
  | [] => 0
  | p :: ps => max p.height (heights ps)

end

end Pattern

end Devirt

import Devirt.Pattern.Flags
import Devirt.Text.Alphanumeric
import Devirt.Text.Blank
import Devirt.Text.Hexadecimal

/-!
# Reading patterns

Patterns are read in one pass. A repetition is marked by a sign; a count in braces is refused.
-/

namespace Devirt.Pattern

/-! ## Blanks and comments -/

/-- The text after blanks and comments at its front. A comment goes from a number sign to the end of
its line. -/
def skipComments : Bool → List Char → List Char
  | _, [] => []
  | true, c :: cs => skipComments (c ≠ '\n') cs
  | false, c :: cs =>
    if Text.isBlank c then skipComments false cs
    else if c = '#' then skipComments true cs
    else c :: cs

/-- The text after what does not count at its front. Only verbose patterns hold such a thing. -/
def skip (isVerbose : Bool) (cs : List Char) : List Char :=
  if isVerbose then skipComments false cs else cs

/-! ## Escapes -/

/-- What a backslash introduces. -/
inductive Escape where
  | literal (l : Literal)
  | shorthand (negated : Bool)
  | edge
  | wordEdge
deriving DecidableEq

def takeHex? (isVerbose : Bool) : Nat → List Char → Option (List Char × List Char)
  | 0, cs => some ([], cs)
  | n + 1, cs =>
    match skip isVerbose cs with
    | c :: rest =>
      if (Text.hexDigit? c).isSome then
        (takeHex? isVerbose n rest).map fun (digits, rest) => (c :: digits, rest)
      else none
    | [] => none

/-- Takes a character by the hexadecimal digits of its code point. -/
def takeCodePoint? (isVerbose : Bool) (width : Nat) (cs : List Char) :
    Option (Escape × List Char) := do
  let (digits, rest) ← takeHex? isVerbose width cs
  return (.literal ⟨← Text.hexCharacter? digits, width = 2⟩, rest)

/-- The control character that a letter behind a backslash stands for. -/
def controlCharacter? : Char → Option Char
  | 'a' => some '\x07'
  | 'f' => some '\x0c'
  | 'n' => some '\n'
  | 'r' => some '\r'
  | 't' => some '\t'
  | 'v' => some '\x0b'
  | _ => none

/-- What a character behind a backslash means. The other signs of ASCII stand for themselves, but
letters and digits have to have a meaning. -/
def escape? (c : Char) : Option Escape :=
  if c ∈ ['d', 's', 'w'] then some (.shorthand false)
  else if c ∈ ['D', 'S', 'W'] then some (.shorthand true)
  else if c ∈ ['A', 'z'] then some .edge
  else if c ∈ ['b', 'B', '<', '>'] then some .wordEdge
  else if c.toNat < 0x80 ∧ !c.isAlphanum then some (.literal ⟨c, false⟩)
  else (controlCharacter? c).map fun c => .literal ⟨c, false⟩

def takeEscape? (isVerbose : Bool) : List Char → Option (Escape × List Char)
  | [] => none
  | 'x' :: rest => takeCodePoint? isVerbose 2 rest
  | 'u' :: rest => takeCodePoint? isVerbose 4 rest
  | 'U' :: rest => takeCodePoint? isVerbose 8 rest
  | c :: rest => (escape? c).map fun e => (e, rest)

/-! ## Sets of characters -/

/-- The names that a class may have between colons. -/
def classNames : List String :=
  ["alnum", "alpha", "ascii", "blank", "cntrl", "digit", "graph", "lower", "print", "punct",
    "space", "upper", "word", "xdigit"]

/-- Takes the name of a class and the closing bracket behind an opening bracket. -/
def takeNamed? : List Char → Option (CharSet × List Char)
  | ':' :: rest =>
    let negated := rest.head? = some '^'
    let rest := if negated then rest.drop 1 else rest
    let name := rest.takeWhile (· ≠ ':')
    match rest.dropWhile (· ≠ ':') with
    | ':' :: ']' :: rest =>
      if String.ofList name ∈ classNames then some (.named negated, rest) else none
    | _ => none
  | _ => none

/-- The set of characters that an escape stands for. -/
def Escape.charSet? : Escape → Option CharSet
  | literal l => some (.literal l)
  | shorthand negated => some (.shorthand negated)
  | edge | wordEdge => none

/-- Takes a character of a set, escaped or not. -/
def takeMember? (isVerbose : Bool) : List Char → Option (Escape × List Char)
  | [] => none
  | '\\' :: rest => takeEscape? isVerbose rest
  | c :: rest => some (.literal ⟨c, false⟩, rest)

/-- The character that decides what a hyphen in front of it means. Blanks and one number sign are
passed over. -/
def afterHyphen? (isVerbose : Bool) (cs : List Char) : Option Char :=
  if isVerbose then
    match cs.dropWhile Text.isBlank with
    | '#' :: rest => (rest.dropWhile Text.isBlank).head?
    | rest => rest.head?
  else cs.head?

/-- Takes a character or a range of a set. A hyphen before another one, or before the closing
bracket, makes no range. -/
def takeRange? (isVerbose : Bool) (cs : List Char) : Option (CharSet × List Char) := do
  let (first, rest) ← takeMember? isVerbose cs
  match skip isVerbose rest with
  | '-' :: behind =>
    if afterHyphen? isVerbose behind ∈ [some ']', some '-'] then
      return (← first.charSet?, '-' :: behind)
    else
      match first, ← takeMember? isVerbose (skip isVerbose behind) with
      | .literal low, (.literal high, rest) =>
        if low.char ≤ high.char then some (.range low high, rest) else none
      | _, _ => none
  | rest => return (← first.charSet?, rest)

/-- The sets since the last operator, the newest first, together with what stands before it. -/
def CharSet.combine (before? : Option CharSet) (sets : List CharSet) : CharSet :=
  match before? with
  | some before => .combination before (.ofList sets.reverse)
  | none => .ofList sets.reverse

/-- Whether a set is negated by a caret at its opening, and the text behind that. -/
def splitCaret (isVerbose : Bool) (cs : List Char) : Bool × List Char :=
  match skip isVerbose cs with
  | '^' :: rest => (true, rest)
  | rest => (false, rest)

/-- Takes the rest of a set up to its closing bracket. Hyphens at the opening stand for themselves,
and so does a closing bracket right there. -/
def takeSet? (isVerbose : Bool) (fuel : Nat) (isOpening : Bool) (before? : Option CharSet)
    (sets : List CharSet) (cs : List Char) : Option (CharSet × List Char) :=
  match fuel, skip isVerbose cs with
  | 0, _ | _, [] => none
  | fuel + 1, c :: rest =>
    if isOpening ∧ (c = '-' ∨ c = ']' ∧ sets.isEmpty) then
      takeSet? isVerbose fuel (c = '-') before? (.literal ⟨c, false⟩ :: sets) rest
    else if c = ']' then some (.combine before? sets, rest)
    else if c ∈ ['&', '-', '~'] ∧ rest.head? = some c then
      takeSet? isVerbose fuel false (some (.combine before? sets)) [] (rest.drop 1)
    else if c = '[' then
      match takeNamed? rest with
      | some (set, rest) => takeSet? isVerbose fuel false before? (set :: sets) rest
      | none => do
        let (negated, inside) := splitCaret isVerbose rest
        let (set, rest) ← takeSet? isVerbose fuel true none [] inside
        takeSet? isVerbose fuel false before? (.bracket negated set :: sets) rest
    else do
      let (set, rest) ← takeRange? isVerbose (c :: rest)
      takeSet? isVerbose fuel false before? (set :: sets) rest

/-! ## Groups -/

/-- How much of a pattern has been read. -/
structure Reading where
  rest : List Char
  /-- Whether blanks and comments do not count. -/
  isVerbose : Bool := false
  /-- The names of the groups that have been opened. -/
  names : List (List Char) := []

/-- What an opening parenthesis introduces. -/
inductive Opening where
  | flags (changes : FlagChanges)
  | group (changes : FlagChanges)

/-- The changes that letters stand for: those before a hyphen are switched on, those behind it
off. -/
def FlagChanges.ofWord? (word : List Char) : Option FlagChanges :=
  if word.all (· ∈ "imsUuRx-".toList) ∧ word.Nodup ∧ word.getLast? ≠ some '-' then
    some ⟨word.takeWhile (· ≠ '-'), (word.dropWhile (· ≠ '-')).drop 1⟩
  else none

def isGroupName : List Char → Bool
  | [] => false
  | c :: cs =>
    (c = '_' || Text.isAlphabetic c) &&
      cs.all fun c => c ∈ ['_', '.', '[', ']'] || Text.isAlphanumeric c

/-- Takes the name of a group, which no other group has. -/
def Reading.takeName? (r : Reading) : Option (Opening × Reading) :=
  let name := r.rest.takeWhile (· ≠ '>')
  match r.rest.dropWhile (· ≠ '>') with
  | '>' :: rest =>
    if isGroupName name ∧ name ∉ r.names then
      some (.group ⟨[], []⟩, { r with rest, names := name :: r.names })
    else none
  | _ => none

/-- Takes what follows an opening parenthesis. -/
def Reading.openGroup? (r : Reading) : Option (Opening × Reading) :=
  match skip r.isVerbose r.rest with
  | '?' :: 'P' :: '<' :: rest => { r with rest }.takeName?
  | '?' :: '<' :: rest => { r with rest }.takeName?
  | '?' :: rest => do
    let isLetter (c : Char) : Bool := c ≠ ':' && c ≠ ')'
    let changes ← FlagChanges.ofWord? (rest.takeWhile isLetter)
    let isVerbose := changes.value 'x' r.isVerbose
    match rest.dropWhile isLetter with
    | ':' :: inside => some (.group changes, { r with rest := inside, isVerbose })
    | _ :: behind =>
      if changes = ⟨[], []⟩ then none
      else some (.flags changes, { r with rest := behind, isVerbose })
    | [] => none
  | rest => some (.group ⟨[], []⟩, { r with rest })

/-! ## Patterns -/

def ofEscape : Escape → Pattern
  | .literal l => literal l
  | .shorthand negated => shorthand negated
  | .edge => edge
  | .wordEdge => wordEdge

def takeAtom? (isVerbose : Bool) : List Char → Option (Pattern × List Char)
  | [] => none
  | '\\' :: rest => (takeEscape? isVerbose rest).map fun (e, rest) => (ofEscape e, rest)
  | '.' :: rest => some (anyChar, rest)
  | c :: rest => some (if c ∈ ['^', '$'] then edge else literal ⟨c, false⟩, rest)

/-- Takes a pattern up to the end of its group. The branches and the items of the last branch that
have been taken are given, the newest first. -/
def Reading.takePattern? (fuel : Nat) (branches items : List Pattern) (r : Reading) :
    Option (Pattern × Reading) :=
  match fuel, skip r.isVerbose r.rest with
  | 0, _ => none
  | _, [] => some (ofBranches (ofItems items.reverse :: branches).reverse, { r with rest := [] })
  | fuel + 1, c :: rest =>
    if c = ')' then
      some (ofBranches (ofItems items.reverse :: branches).reverse, { r with rest := c :: rest })
    else if c = '|' then
      takePattern? fuel (ofItems items.reverse :: branches) [] { r with rest }
    else if c = '(' then do
      match ← { r with rest }.openGroup? with
      | (.flags changes, behind) => takePattern? fuel branches (flags changes :: items) behind
      | (.group changes, inside) =>
        let (body, last) ← takePattern? fuel [] [] inside
        if last.rest.isEmpty then none
        else
          takePattern? fuel branches (group changes body :: items)
            { last with rest := last.rest.drop 1, isVerbose := r.isVerbose }
    else if c = '[' then do
      let (negated, inside) := splitCaret r.isVerbose rest
      let (set, behind) ← takeSet? r.isVerbose (inside.length + 1) true none [] inside
      takePattern? fuel branches (bracket negated set :: items) { r with rest := behind }
    else if c = '\x7b' then none
    else if c ∈ ['*', '+', '?'] then
      match items with
      | [] | flags _ :: _ => none
      | item :: items =>
        let rest := if rest.head? = some '?' then rest.drop 1 else rest
        takePattern? fuel branches (repetition item :: items) { r with rest }
    else do
      let (item, rest) ← takeAtom? r.isVerbose (c :: rest)
      takePattern? fuel branches (item :: items) { r with rest }

def parse? (cs : List Char) : Option Pattern :=
  match Reading.takePattern? (cs.length + 1) [] [] { rest := cs } with
  | some (p, r) => if r.rest.isEmpty then some p else none
  | none => none

end Devirt.Pattern

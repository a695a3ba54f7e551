import Devirt.Pattern.Basic

/-!
# Flags of patterns, and what they rule out

Patterns are matched with no knowledge of Unicode beyond its encoding. A pattern that needs more is
not supported: one that asks for the digits, blanks, words, word edges or cases of Unicode, instead
of those of ASCII. Nor is one that could match a part of a character.
-/

namespace Devirt.Pattern

/-- The flags that bear on what is supported. -/
structure Mode where
  ignoresCase : Bool := false
  unicode : Bool := true

def FlagChanges.value (changes : FlagChanges) (flag : Char) (before : Bool) : Bool :=
  (before || flag ∈ changes.on) && flag ∉ changes.off

def Mode.change (m : Mode) (changes : FlagChanges) : Mode where
  ignoresCase := changes.value 'i' m.ignoresCase
  unicode := changes.value 'u' m.unicode

/-- Whether a character is supported. A byte has to be a character by itself. -/
def Literal.isSupported (m : Mode) (l : Literal) : Bool :=
  if m.unicode then !m.ignoresCase else !(l.isByte && 0x80 ≤ l.char.toNat)

namespace CharSet

mutual

/-- Whether a set within brackets is supported. The case of what it holds is folded, if case is
ignored. -/
def isSupported (m : Mode) : CharSet → Bool
  | literal l => if m.unicode then !m.ignoresCase else l.char.toNat < 0x80
  | range low high =>
    if m.unicode then !m.ignoresCase else low.char.toNat < 0x80 && high.char.toNat < 0x80
  | named negated => if m.unicode then !m.ignoresCase else !negated
  | shorthand negated => !m.unicode && !negated
  | union sets => areSupported m sets
  | combination left right => left.isSupported m && right.isSupported m
  | bracket negated set => (!negated || (m.unicode && !m.ignoresCase)) && set.isSupported m

def areSupported (m : Mode) : List CharSet → Bool
  | [] => true
  | set :: sets => set.isSupported m && areSupported m sets

end

end CharSet

mutual

/-- The mode behind a pattern, if the pattern is supported. -/
def modeBehind? (m : Mode) : Pattern → Option Mode
  | empty | edge => some m
  | literal l => if l.isSupported m then some m else none
  | anyChar => if m.unicode then some m else none
  | wordEdge => if m.unicode then none else some m
  | shorthand negated => if m.unicode || negated then none else some m
  | bracket negated set =>
    if (m.unicode || !negated) && set.isSupported m then some m else none
  | flags changes => some (m.change changes)
  | group changes body => (body.modeBehind? (m.change changes)).map fun _ => m
  | repetition body => body.modeBehind? m
  | sequence items => modeBehindAll? m items
  | choice branches => modeBehindAll? m branches

/-- The mode behind patterns in a row, each with the flags of the one before. -/
def modeBehindAll? (m : Mode) : List Pattern → Option Mode
  | [] => some m
  | p :: ps => (p.modeBehind? m).bind fun m => modeBehindAll? m ps

end

/-- Patterns are not nested more deeply than this. -/
def greatestHeight : Nat := 250

def isSupported (p : Pattern) : Bool := p.height ≤ greatestHeight && (p.modeBehind? {}).isSome

end Devirt.Pattern

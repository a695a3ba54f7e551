/-!
# Source positions

A statement carries the range of source text that it came from. Nothing interprets positions; they
are carried along so that later passes can point back at the input.
-/

namespace Devirt

/-- A range of source text, from its first line and column to its last. -/
structure Position where
  firstLine : UInt32
  firstColumn : UInt32
  lastLine : UInt32
  lastColumn : UInt32
deriving DecidableEq

namespace Position

/-- The position of statements that come from no source text. -/
def none : Position := ⟨0, 0, 0, 0⟩

def line (line first last : UInt32) : Position := ⟨line, first, line, last⟩

def isNone (p : Position) : Bool := p = none

def text (p : Position) : String :=
  if p.isNone then "<no position>"
  else
    toString p.firstLine.toNat ++ ":" ++ toString p.firstColumn.toNat ++ "-" ++
      toString p.lastLine.toNat ++ ":" ++ toString p.lastColumn.toNat

instance : Ord Position :=
  ⟨compareLex (compareOn firstLine) (compareLex (compareOn firstColumn)
    (compareLex (compareOn lastLine) (compareOn lastColumn)))⟩

end Position

end Devirt

import Devirt.Logging.Condition
import Devirt.Logging.Level
import Devirt.Text.Alphanumeric
import Devirt.Text.Blank
import Devirt.Text.Piece

/-!
# Directives

A directive sets the level for a target, for what happens within a span, for a field, or for
everything: `target[span{field=value}]=level`.
-/

namespace Devirt.Logging

/-- What a directive is about, and its level. -/
structure Directive where
  target? : Option (List Char) := none
  span? : Option (List Char) := none
  condition? : Option Condition := none
  level : Level := .trace
deriving DecidableEq

namespace Directive

/-- The text of a directive without its level. -/
def scopeText (d : Directive) : String :=
  let inside := String.ofList (d.span?.getD []) ++
    match d.condition? with
    | some c => "\x7b" ++ c.text ++ "\x7d"
    | none => ""
  String.ofList (d.target?.getD []) ++
    if d.span?.isSome ∨ d.condition?.isSome then "[" ++ inside ++ "]" else ""

def text (d : Directive) : String :=
  if d.target?.isSome ∨ d.span?.isSome ∨ d.condition?.isSome then
    d.scopeText ++ "=" ++ d.level.name
  else d.level.name

/-- Whether a directive can take effect before a span is entered or a value known. -/
def isFixed (d : Directive) : Bool :=
  d.span?.isNone && d.condition?.all (·.value?.isNone)

/-- Whether a directive depends on spans or on their fields. -/
def isContextual (d : Directive) : Bool := d.span?.isSome || d.condition?.isSome

/-- What a directive is about. The sign of a zero does not count. -/
def scope (d : Directive) : Option (List Char) × Option (List Char) × Option Condition :=
  (d.target?, d.span?, d.condition?.map Condition.unsignedZero)

/-- Where the reading of a directive stands. What is being read began at `start`. -/
inductive Place where
  | opening
  | word
  | span (start : Nat)
  | condition (start : Nat)
  | conditionEnd
  | scopeEnd
  | level (start : Nat)
deriving DecidableEq

/-- How much of a directive has been read. -/
structure Reading where
  /-- The bytes that have been read. -/
  offset : Nat := 0
  place : Place := .opening
  directive : Directive := {}

/-- Whether a word can begin with this character. -/
def isFirst (c : Char) : Bool := Text.isAlphanumeric c || c ∈ ['-', ':', '_']

/-- Reads a level between two places of a text. -/
def levelBetween? (text : List Char) (start stop : Nat) : Option Level :=
  match Text.piece? text start stop with
  | some [] => some .trace
  | some word => Level.parse? word
  | none => none

/-- Reads the condition between two places of a text. -/
def conditionBetween? (text : List Char) (start stop : Nat) : Option Condition :=
  (Text.piece? text start stop).bind fun cs => if cs.isEmpty then none else Condition.parse? cs

namespace Reading

/-- Where the next character leads, and what the directive is made of by then. Places are counted
from the first character that is no blank, but the pieces are cut out of `text`, which may begin
with blanks. -/
def advance? (text : List Char) (r : Reading) (c : Char) : Option (Place × Directive) := do
  let d := r.directive
  let next := r.offset + c.utf8Size
  match r.place, c with
  | .opening, '[' => return (.span next, d)
  | .opening, c => if isFirst c then return (.word, d) else none
  | .word, '=' => return (.level next, { d with target? := ← Text.piece? text 0 r.offset })
  | .word, '[' => return (.span next, { d with target? := ← Text.piece? text 0 r.offset })
  | .span start, ']' => return (.scopeEnd, { d with span? := ← Text.piece? text start r.offset })
  | .span start, '\x7b' =>
    let span ← Text.piece? text start r.offset
    return (.condition next, { d with span? := if span.isEmpty then none else some span })
  | .condition start, '\x7d' =>
    return (.conditionEnd, { d with condition? := ← conditionBetween? text start r.offset })
  | .conditionEnd, c => if c = ']' then return (.scopeEnd, d) else none
  | .scopeEnd, c => if c = '=' then return (.level next, d) else none
  | place, _ => return (place, d)

def step? (text : List Char) (r : Reading) (c : Char) : Option Reading :=
  (r.advance? text c).map fun (place, directive) =>
    { offset := r.offset + c.utf8Size, place, directive }

/-- The directive at the end of a text. A word that is no level is a target. -/
def finish? (text : List Char) (r : Reading) : Option Directive :=
  match r.place with
  | .word =>
    match Level.parse? text with
    | some level => some { level }
    | none => some { target? := some text }
  | .level start =>
    (levelBetween? text start (String.ofList text).utf8ByteSize).map fun level =>
      { r.directive with level }
  | .scopeEnd => some r.directive
  | _ => none

end Reading

/-- Reads a directive. Blanks at its two ends are passed over, but belong to a target. -/
def parse? (text : List Char) : Option Directive :=
  ((Text.trim text).foldlM (Reading.step? text) {}).bind (Reading.finish? text)

end Directive

end Devirt.Logging

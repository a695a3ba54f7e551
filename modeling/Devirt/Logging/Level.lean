import Devirt.Decimal.Digits

/-!
# Levels of logging
-/

namespace Devirt.Logging

/-- How much is logged. -/
inductive Level where
  | off | error | warn | info | debug | trace
deriving DecidableEq

namespace Level

def name : Level → String
  | off => "off"
  | error => "error"
  | warn => "warn"
  | info => "info"
  | debug => "debug"
  | trace => "trace"

/-- Every level, from the quietest to the loudest. -/
def all : List Level := [off, error, warn, info, debug, trace]

/-- The level of this name, in letters of either case, or of this number, with a plus sign or
without. -/
def parse? (word : List Char) : Option Level :=
  match Decimal.numeral? (if word.head? = some '+' then word.drop 1 else word) with
  | some n => all[n]?
  | none => all.find? fun l => l.name.toList = word.map Char.toLower

end Level

end Devirt.Logging

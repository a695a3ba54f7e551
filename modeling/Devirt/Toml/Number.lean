import Devirt.Decimal.Digits
import Devirt.Decimal.Rounding
import Devirt.Document.Basic
import Devirt.Text.Hexadecimal
import Devirt.Toml.Scan

/-!
# Numbers, dates and times in TOML

These values are words: runs of letters, digits and a few signs. A word is classified as a whole.
-/

namespace Devirt.Toml

open Decimal (BinaryFormat Number signed splitSign valueOf)

/-- A character of a word. -/
def isWordCharacter (c : Char) : Bool := c.isAlphanum || c ∈ ['_', '+', '-', '.', ':']

/-- The digits of a group, which single underscores may separate. -/
def digitGroup? (isDigit : Char → Bool) : List Char → Option (List Char)
  | [] => none
  | [c] => if isDigit c then some [c] else none
  | c :: '_' :: rest => if isDigit c then (digitGroup? isDigit rest).map (c :: ·) else none
  | c :: rest => if isDigit c then (digitGroup? isDigit rest).map (c :: ·) else none

/-- The digits of a whole number, which do not begin with a zero unless it stands alone. -/
def wholeDigits? (cs : List Char) : Option (List Char) := do
  let digits ← digitGroup? Char.isDigit cs
  if digits.head? = some '0' ∧ 1 < cs.length then none
  return digits

def inRange? (n : Int) : Option Int :=
  if Int64.minValue.toInt ≤ n ∧ n ≤ Int64.maxValue.toInt then some n else none

/-- The value of digits to a base up to sixteen. -/
def baseValue? (base : Nat) (cs : List Char) : Option Int := do
  let value (c : Char) : Nat := (Text.hexDigit? c).getD base
  let digits ← digitGroup? (fun c => value c < base) cs
  inRange? (digits.foldl (fun n c => base * n + value c) 0 : Nat)

def integer? : List Char → Option Int
  | '0' :: 'x' :: rest => baseValue? 16 rest
  | '0' :: 'o' :: rest => baseValue? 8 rest
  | '0' :: 'b' :: rest => baseValue? 2 rest
  | cs => do
    let (negative, rest) := splitSign cs
    inRange? (signed negative (valueOf (← wholeDigits? rest)))

/-- Whether `digits * 10 ^ exponent` rounds to infinity in 64 bits. -/
def overflows (digits : List Char) (exponent : Int) : Bool :=
  BinaryFormat.binary64.ofDecimal false (valueOf digits) exponent = .infinite false

/-- Whether a word is a number with a fraction or an exponent. Positive numbers must not
overflow. -/
def isFloat (cs : List Char) : Bool :=
  let (negative, rest) := splitSign cs
  if rest = ['i', 'n', 'f'] ∨ rest = ['n', 'a', 'n'] then true
  else
    let isMark (c : Char) : Bool := c = 'e' || c = 'E'
    let mantissa := rest.takeWhile (!isMark ·)
    let exponent := rest.dropWhile (!isMark ·)
    let fraction := mantissa.dropWhile (· ≠ '.')
    let parts : Option Bool := do
      let whole ← wholeDigits? (mantissa.takeWhile (· ≠ '.'))
      let decimals ←
        if fraction.isEmpty then some [] else digitGroup? Char.isDigit (fraction.drop 1)
      let (down, power) ←
        if exponent.isEmpty then some (false, [])
        else
          let (down, digits) := splitSign (exponent.drop 1)
          (digitGroup? Char.isDigit digits).map fun digits => (down, digits)
      if fraction.isEmpty ∧ exponent.isEmpty then none
      return negative ||
        !overflows (whole ++ decimals) (signed down (valueOf power) - decimals.length)
    parts.getD false

def twoDigits? (a b : Char) : Option Nat :=
  if a.isDigit ∧ b.isDigit then some (valueOf [a, b]) else none

def daysInMonth (year month : Nat) : Nat :=
  if month = 2 then
    if year % 4 = 0 ∧ (year % 100 ≠ 0 ∨ year % 400 = 0) then 29 else 28
  else if month ∈ [4, 6, 9, 11] then 30
  else 31

/-- The word after a date at its front. -/
def afterDate? : List Char → Option (List Char)
  | a :: b :: c :: d :: '-' :: e :: f :: '-' :: g :: h :: rest => do
    let century ← twoDigits? a b
    let decade ← twoDigits? c d
    let month ← twoDigits? e f
    let day ← twoDigits? g h
    if 1 ≤ month ∧ month ≤ 12 ∧ 1 ≤ day ∧ day ≤ daysInMonth (100 * century + decade) month then
      some rest
    else none
  | _ => none

/-- The word after hours and minutes at its front. -/
def afterHourMinute? : List Char → Option (List Char)
  | a :: b :: ':' :: c :: d :: rest => do
    let hour ← twoDigits? a b
    let minute ← twoDigits? c d
    if hour ≤ 23 ∧ minute ≤ 59 then some rest else none
  | _ => none

/-- The word after a time at its front. A minute may have a leap second. -/
def afterTime? (cs : List Char) : Option (List Char) := do
  match ← afterHourMinute? cs with
  | ':' :: a :: b :: rest =>
    if 60 < (← twoDigits? a b) then none
    match rest with
    | '.' :: c :: rest => if c.isDigit then some (rest.dropWhile Char.isDigit) else none
    | rest => some rest
  | _ => none

/-- Whether a word is a distance from universal time. -/
def isOffset : List Char → Bool
  | ['Z'] | ['z'] => true
  | '+' :: rest | '-' :: rest => afterHourMinute? rest = some []
  | _ => false

/-- Whether a word is a time, with or without its distance from universal time. -/
def isTime (offset : Bool) (cs : List Char) : Bool :=
  match afterTime? cs with
  | some [] => true
  | some rest => offset && isOffset rest
  | none => false

/-- Whether a word is a date, a time, or both. -/
def isMoment (cs : List Char) : Bool :=
  match afterDate? cs with
  | some [] => true
  | some ('T' :: rest) | some ('t' :: rest) => isTime true rest
  | _ => isTime false cs

def wordValue? (cs : List Char) : Option Document :=
  if cs = ['t', 'r', 'u', 'e'] then some (.bool true)
  else if cs = ['f', 'a', 'l', 's', 'e'] then some (.bool false)
  else if isMoment cs then some (.moment (String.ofList cs))
  else if isFloat cs then some (.real (String.ofList cs))
  else (integer? cs).map .int

/-- Whether a text begins like a time: with two digits and a colon. -/
def beginsTime : List Char → Bool
  | a :: b :: ':' :: _ => a.isDigit && b.isDigit
  | _ => false

/-- Takes a word and gives its value. A space belongs to it between a date and a time. -/
def word : Scanner Document := fun cs =>
  let first := cs.takeWhile isWordCharacter
  let rest := cs.dropWhile isWordCharacter
  let next := rest.drop 1
  if afterDate? first = some [] ∧ rest.head? = some ' ' ∧ beginsTime next then
    let time := next.takeWhile isWordCharacter
    if isTime true time then
      some (.moment (String.ofList (first ++ ' ' :: time)), next.dropWhile isWordCharacter)
    else none
  else (wordValue? first).map fun d => (d, rest)

end Devirt.Toml

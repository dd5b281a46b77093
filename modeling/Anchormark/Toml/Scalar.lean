import Anchormark.Toml.Value

/-!
# Numbers, Moments and Truth Values

The values that are written as one word. Underscores may stand between the digits of a number, and
only there; a decimal number has no leading zero.

Which number it is makes no difference to the settings, but it must be one that can be represented:
an integer has 128 bits, and a float must not round to infinity.

## Main definitions

* `isInteger`, `isFloat`, `isMoment`: the forms of numbers, dates and times.
* `scalar?`: the value that a word is.
* `readScalar?`: the word that the characters begin with.
-/

namespace Anchormark.Toml

/-- The value of a hexadecimal digit. -/
def hexValue? (c : Char) : Option Nat :=
  if c.isDigit then some (c.toNat - '0'.toNat)
  else if 'a' ≤ c && c ≤ 'f' then some (c.toNat - 'a'.toNat + 10)
  else if 'A' ≤ c && c ≤ 'F' then some (c.toNat - 'A'.toNat + 10)
  else none

/-- A digit in the given base. -/
def isDigitIn (base : Nat) (c : Char) : Bool :=
  (hexValue? c).any (· < base)

/-- The number that the digits stand for; anything else among them does not count. -/
def digitsValue (base : Nat) (cs : List Char) : Nat :=
  (cs.filterMap hexValue?).foldl (fun n d => base * n + d) 0

/-- At least one digit, and underscores between digits. -/
def areDigits (base : Nat) : List Char → Bool
  | [] => false
  | [c] => isDigitIn base c
  | c :: '_' :: rest => isDigitIn base c && areDigits base rest
  | c :: rest => isDigitIn base c && areDigits base rest

/-- Decimal digits without a leading zero. -/
def isWhole (cs : List Char) : Bool :=
  areDigits 10 cs && (cs.length = 1 || cs.head? ≠ some '0')

/-- Whether there is a minus sign, and what follows the sign. -/
def splitSign : List Char → Bool × List Char
  | '-' :: rest => (true, rest)
  | '+' :: rest => (false, rest)
  | cs => (false, cs)

/-- An integer, in decimal form or behind the sign of another base. -/
def isInteger (cs : List Char) : Bool :=
  let inBase (base : Nat) (digits : List Char) : Bool :=
    areDigits base digits && digitsValue base digits < Nat.pow 2 128
  match cs with
  | '0' :: 'x' :: digits => inBase 16 digits
  | '0' :: 'o' :: digits => inBase 8 digits
  | '0' :: 'b' :: digits => inBase 2 digits
  | _ =>
    let (negative, digits) := splitSign cs
    let bound := if negative then Nat.pow 2 127 + 1 else Nat.pow 2 128
    isWhole digits && digitsValue 10 digits < bound

/-- The least number that rounds to infinity: half a step above the largest float. -/
def infinityBound : Nat :=
  Nat.pow 2 1024 - Nat.pow 2 970

/-- The number `digits * 10 ^ exponent` does not round to infinity. Exponents far out are decided by
    their size alone. -/
def isFinite (digits : Nat) (exponent : Int) : Bool :=
  if digits = 0 then true
  else
    match exponent with
    | .ofNat e => e ≤ 400 && digits * Nat.pow 10 e < infinityBound
    | .negSucc e =>
      let places := e + 1
      (Nat.toDigits 10 digits).length ≤ places || digits < infinityBound * Nat.pow 10 places

/-- A float: a whole part, and a fraction, an exponent or both. -/
def isFloat (cs : List Char) : Bool :=
  let (_, body) := splitSign cs
  if body = ['i', 'n', 'f'] || body = ['n', 'a', 'n'] then true
  else
    let mantissa := body.takeWhile fun c => c ≠ 'e' && c ≠ 'E'
    let exponent := body.drop mantissa.length
    let whole := mantissa.takeWhile (· ≠ '.')
    let fraction := mantissa.drop whole.length
    let (negative, power) := splitSign exponent.tail
    let power10 : Int := if negative then -(digitsValue 10 power) else digitsValue 10 power
    isWhole whole && !(fraction.isEmpty && exponent.isEmpty) &&
      (fraction.isEmpty || areDigits 10 fraction.tail) &&
      (exponent.isEmpty || areDigits 10 power) &&
      isFinite (digitsValue 10 mantissa) (power10 - (fraction.filter Char.isDigit).length)

/-- A number of exactly `count` digits. -/
def fixedNumber? (count : Nat) (cs : List Char) : Option (Nat × List Char) :=
  let digits := cs.take count
  if digits.length = count && digits.all Char.isDigit then
    some (digitsValue 10 digits, cs.drop count)
  else none

/-- A number of two digits that is at most `limit`. -/
def atMost? (limit : Nat) (cs : List Char) : Option (List Char) :=
  (fixedNumber? 2 cs).bind fun (n, rest) => if n ≤ limit then some rest else none

/-- What follows the character `c`. -/
def behind? (c : Char) : List Char → Option (List Char)
  | [] => none
  | d :: rest => if d = c then some rest else none

/-- The number of days in a month. -/
def daysIn (year month : Nat) : Nat :=
  if month = 2 then
    if year % 4 = 0 && (year % 100 ≠ 0 || year % 400 = 0) then 29 else 28
  else if month = 4 || month = 6 || month = 9 || month = 11 then 30
  else 31

/-- What follows a date. -/
def date? (cs : List Char) : Option (List Char) := do
  let (year, cs) ← fixedNumber? 4 cs
  let (month, cs) ← fixedNumber? 2 (← behind? '-' cs)
  let (day, cs) ← fixedNumber? 2 (← behind? '-' cs)
  if 1 ≤ month && month ≤ 12 && 1 ≤ day && day ≤ daysIn year month then some cs else none

/-- What follows a time of day. The seconds may be left out, and may have a fraction. -/
def time? (cs : List Char) : Option (List Char) := do
  let cs ← atMost? 59 (← behind? ':' (← atMost? 23 cs))
  match cs with
  | ':' :: cs =>
    match ← atMost? 60 cs with
    | '.' :: rest =>
      let fraction := rest.takeWhile Char.isDigit
      if fraction.isEmpty then none else some (rest.drop fraction.length)
    | rest => some rest
  | rest => some rest

/-- Nothing, or the distance from universal time. -/
def isOffset : List Char → Bool
  | [] => true
  | c :: rest =>
    if c = 'Z' || c = 'z' then rest.isEmpty
    else if c = '+' || c = '-' then
      ((atMost? 23 rest).bind (behind? ':')).bind (atMost? 59) = some []
    else false

/-- A date, a time of day, or both. -/
def isMoment (cs : List Char) : Bool :=
  match date? cs with
  | some [] => true
  | some (c :: rest) => (c = 'T' || c = 't' || c = ' ') && (time? rest).any isOffset
  | none => time? cs = some []

/-- The value that a word is. -/
def scalar? (word : List Char) : Option Value :=
  if word = ['t', 'r', 'u', 'e'] then some (.boolean true)
  else if word = ['f', 'a', 'l', 's', 'e'] then some (.boolean false)
  else if isInteger word || isFloat word then some .number
  else if isMoment word then some .moment
  else none

/-- A character that a word may hold. -/
def isWordChar (c : Char) : Bool :=
  c.isAlphanum || c = '+' || c = '-' || c = '_' || c = '.' || c = ':'

/-- The length of the word that the characters begin with. A space may stand between a date and
    a time. -/
def wordLength (cs : List Char) : Nat :=
  let word := cs.takeWhile isWordChar
  match cs.drop word.length with
  | ' ' :: c :: rest =>
    if date? word = some [] && c.isDigit then
      word.length + 1 + ((c :: rest).takeWhile isWordChar).length
    else word.length
  | _ => word.length

/-- The value of the word that the characters begin with. -/
def readScalar? (cs : List Char) : Option (Value × List Char) :=
  let length := wordLength cs
  (scalar? (cs.take length)).map fun v => (v, cs.drop length)

end Anchormark.Toml

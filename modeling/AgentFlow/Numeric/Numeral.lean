/-!
# Reading numerals

Natural numbers in a radix, array positions, and decimal numbers as doubles. A decimal number
denotes the double nearest to it, ties to even, however many digits it has.
-/

namespace AgentFlow.Numeral

/-- The value of a digit in a radix up to sixteen. -/
def digitIn? (radix : Nat) (c : Char) : Option Nat :=
  let value :=
    if c.isDigit then c.toNat - '0'.toNat
    else if 'a' ≤ c && c ≤ 'f' then c.toNat - 'a'.toNat + 10
    else if 'A' ≤ c && c ≤ 'F' then c.toNat - 'A'.toNat + 10
    else radix
  if value < radix then some value else none

/-- The value of digits in a radix, continuing the number `high`. -/
def readDigits? (radix high : Nat) : List Char → Option Nat
  | [] => some high
  | c :: rest => (digitIn? radix c).bind fun digit => readDigits? radix (radix * high + digit) rest

/-- A number in a radix: one digit at least, and nothing else. -/
def natural? (radix : Nat) (cs : List Char) : Option Nat :=
  if cs.isEmpty then none else readDigits? radix 0 cs

/-- The value of a run of decimal digits. -/
def digitsValue (cs : List Char) : Nat :=
  cs.foldl (fun n c => 10 * n + (c.toNat - '0'.toNat)) 0

/-- A position in an array: decimal digits, perhaps behind a plus sign, of a number that fits 64
bits. Leading zeros do not matter. -/
def position? (name : String) : Option Nat :=
  let digits :=
    match name.toList with
    | '+' :: rest => rest
    | cs => cs
  (natural? 10 digits).bind fun n => if n < Nat.pow 2 64 then some n else none

/-- A sign in front of a number, and what follows it. -/
def splitSign : List Char → Bool × List Char
  | '-' :: rest => (true, rest)
  | '+' :: rest => (false, rest)
  | cs => (false, cs)

/-- The exponent behind the digits of a decimal number; nothing there is the exponent zero. -/
def exponent? : List Char → Option Int
  | [] => some 0
  | e :: rest =>
    if e = 'e' || e = 'E' then
      let (negative, digits) := splitSign rest
      (natural? 10 digits).map fun n => if negative then -(n : Int) else n
    else none

/-- The double nearest to `coefficient · 10 ^ scale`. Far outside of the range of doubles the answer
is known without computing the power. -/
def nearest (coefficient : Nat) (scale : Int) : Float :=
  let point := (Nat.toDigits 10 coefficient).length + scale
  if coefficient = 0 || point < -400 then 0
  else if 400 < point then 1 / 0
  else Float.ofScientific coefficient (scale < 0) scale.natAbs

/-- A decimal number: a sign, digits with at most one point among them, an exponent. The digits may
lack before the point or behind it, not both. -/
def decimal? (cs : List Char) : Option Float :=
  let (negative, cs) := splitSign cs
  let whole := cs.takeWhile Char.isDigit
  let rest := cs.dropWhile Char.isDigit
  let (fraction, rest) :=
    match rest with
    | '.' :: rest => (rest.takeWhile Char.isDigit, rest.dropWhile Char.isDigit)
    | rest => ([], rest)
  if whole.isEmpty && fraction.isEmpty then none
  else
    (exponent? rest).map fun exponent =>
      let x := nearest (digitsValue (whole ++ fraction)) (exponent - (fraction.length : Int))
      if negative then -x else x

end AgentFlow.Numeral

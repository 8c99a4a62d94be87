import AgentFlow.Json.Basic
import AgentFlow.Numeric.Numeral

/-!
# Numeric literals of JSON

What number a literal denotes. A literal without fraction and exponent is an integer if it fits 64
bits, signed or unsigned; `-0` is the double minus zero. Any other literal is a double, and how it
is computed is part of the format: digits are gathered into a 64-bit significand for as long as
they fit (further digits of the whole part only scale it, further digits of the fraction are
dropped), and the significand is multiplied or divided once by a power of ten that is itself a
double. The result is not always the double nearest to the literal, but it is always the same one.

A literal too large for a double denotes nothing.
-/

namespace AgentFlow.Json

/-- A literal cut into its parts; the digits stand as written. -/
structure Literal where
  negative : Bool
  whole : List Char
  fraction : List Char
  /-- The sign and digits of the exponent. -/
  exponent : Option (Bool × List Char)

namespace Literal

/-- Appends digits to a significand as long as it stays below `2 ^ 64`; also returns the digits
that did not fit. -/
def gather (significand : Nat) : List Char → Nat × List Char
  | [] => (significand, [])
  | c :: rest =>
    let next := 10 * significand + (c.toNat - '0'.toNat)
    if next < Nat.pow 2 64 then gather next rest else (significand, c :: rest)

/-- The double nearest to `10 ^ n`. -/
def powerOfTen (n : Nat) : Float :=
  Float.ofScientific 1 false n

/-- `x · 10 ^ exponent` by one rounded multiplication or division, after divisions by `10 ^ 308`
for as long as the exponent is below the table of powers. -/
def scale (x : Float) (exponent : Int) : Option Float :=
  if exponent < -308 then
    if x == 0 then some x else scale (x / powerOfTen 308) (exponent + 308)
  else if exponent < 0 then some (x / powerOfTen exponent.natAbs)
  else if exponent ≤ 308 then
    let y := x * powerOfTen exponent.toNat
    if y.isInf then none else some y
  else if x == 0 then some x
  else none
termination_by exponent.natAbs
decreasing_by omega

/-- The number that a literal denotes. -/
def value? (literal : Literal) : Option Number :=
  let (significand, left) := gather 0 literal.whole
  let signed (x : Float) : Float := if literal.negative then -x else x
  if left.isEmpty && literal.fraction.isEmpty && literal.exponent.isNone then
    if !literal.negative then some (.int significand)
    else if significand = 0 || Nat.pow 2 63 < significand then
      some (.float (-(Float.ofNat significand)))
    else some (.int (-(significand : Int)))
  else
    let (significand, dropped) := gather significand literal.fraction
    let shift : Int := left.length - (literal.fraction.length - dropped.length : Nat)
    let exponent :=
      match literal.exponent with
      | none => shift
      | some (true, digits) => shift - Numeral.digitsValue digits
      | some (false, digits) => shift + Numeral.digitsValue digits
    (scale (Float.ofNat significand) exponent).map fun x => .float (signed x)

end Literal

end AgentFlow.Json

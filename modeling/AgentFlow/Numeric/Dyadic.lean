/-!
# Floating-point numbers as binary fractions

A finite floating-point number is a natural number times a power of two, with a sign. Taking it
apart and putting it together again are exact, so whatever has to be decided about a double without
rounding — its decimal digits, whether it is whole, what it leaves in a division — is decided here
in whole numbers. Single precision is reached the same way: one rounding, to the nearest, ties to
even.
-/

namespace AgentFlow

/-- A binary interchange format: the bits stored of the mantissa, and of the exponent. -/
structure BinaryFormat where
  mantissaBits : Nat
  exponentBits : Nat

/-- The format of double precision. -/
def binary64 : BinaryFormat := ⟨52, 11⟩

/-- The format of single precision. -/
def binary32 : BinaryFormat := ⟨23, 8⟩

/-- The number `mantissa · 2 ^ exponent`. `narrow` holds at a power of two, where the neighbour
below in the format is only half as far away as the one above. -/
structure Dyadic where
  mantissa : Nat
  exponent : Int
  narrow : Bool
  deriving Repr, DecidableEq

namespace Dyadic

/-- The absolute value behind the bits of a finite number. -/
def ofBits (format : BinaryFormat) (bits : Nat) : Dyadic :=
  let fraction := bits % Nat.pow 2 format.mantissaBits
  let stored := bits / Nat.pow 2 format.mantissaBits % Nat.pow 2 format.exponentBits
  let least : Int := 2 - Int.pow 2 (format.exponentBits - 1) - format.mantissaBits
  if stored = 0 then ⟨fraction, least, false⟩
  else ⟨fraction + Nat.pow 2 format.mantissaBits, least + stored - 1, fraction == 0 && stored != 1⟩

/-- The absolute value of a finite double. -/
def ofFloat (x : Float) : Dyadic :=
  ofBits binary64 x.toBits.toNat

/-- The absolute value of a finite single. -/
def ofFloat32 (x : Float32) : Dyadic :=
  ofBits binary32 x.toBits.toNat

/-- The double nearest to `mantissa · 2 ^ exponent`. -/
def toFloat (mantissa : Nat) (exponent : Int) : Float :=
  if exponent < 0 then
    Float.ofScientific (mantissa * Nat.pow 5 exponent.natAbs) true exponent.natAbs
  else Float.ofNat (mantissa * Nat.pow 2 exponent.toNat)

/-- The single nearest to `mantissa · 2 ^ exponent`. -/
def toFloat32 (mantissa : Nat) (exponent : Int) : Float32 :=
  if exponent < 0 then
    Float32.ofScientific (mantissa * Nat.pow 5 exponent.natAbs) true exponent.natAbs
  else Float32.ofScientific (mantissa * Nat.pow 2 exponent.toNat) false 0

end Dyadic

/-- Is the sign bit set? It is for negative numbers and for minus zero. -/
def hasSign (x : Float) : Bool :=
  Nat.pow 2 63 ≤ x.toBits.toNat

/-- The integer that a finite double is equal to, if it is whole. -/
def whole? (x : Float) : Option Int :=
  if !x.isFinite then none
  else
    let d := Dyadic.ofFloat x
    let below := Nat.pow 2 (-d.exponent).toNat
    if d.mantissa % below ≠ 0 then none
    else
      let n := d.mantissa / below * Nat.pow 2 d.exponent.toNat
      some (if hasSign x then -(n : Int) else n)

/-- What dividing `x` by `y` leaves when the quotient is cut off to a whole number. It has the sign
of `x`; nothing is left of an infinite `x`, nor by a `y` that is zero. -/
def remainder (x y : Float) : Float :=
  if x.isNaN || y.isNaN || x.isInf || y == 0 then 0 / 0
  else if y.isInf || x == 0 then x
  else
    let a := Dyadic.ofFloat x
    let b := Dyadic.ofFloat y
    let e := min a.exponent b.exponent
    let divisor := b.mantissa * Nat.pow 2 (b.exponent - e).toNat
    let left := a.mantissa * Nat.pow 2 (a.exponent - e).toNat % divisor
    let r := Dyadic.toFloat left e
    if hasSign x then -r else r

/-- The nearest single, with the sign kept. -/
def singleOf (x : Float) : Float32 :=
  if x.isNaN then 0 / 0
  else
    let y :=
      if x.isInf then 1 / 0
      else
        let d := Dyadic.ofFloat x
        Dyadic.toFloat32 d.mantissa d.exponent
    if hasSign x then -y else y

/-- The single nearest to an integer. -/
def singleOfInt (n : Int) : Float32 :=
  let y := Float32.ofScientific n.natAbs false 0
  if n < 0 then -y else y

/-- A single as a double, exactly. -/
def doubleOf (x : Float32) : Float :=
  if x.isNaN then 0 / 0
  else
    let y :=
      if x.isInf then 1 / 0
      else
        let d := Dyadic.ofFloat32 x
        Dyadic.toFloat d.mantissa d.exponent
    if Nat.pow 2 31 ≤ x.toBits.toNat then -y else y

end AgentFlow

import AgentFlow.Numeric.Dyadic

/-!
# Decimal text of floating-point numbers

The fewest decimal digits that read back as a given number, and how digits are laid out as text.

Which digits: the numbers that round to the given one form an interval; of the decimal grids
`10^e`, coarsest first, the first with a point in that interval is taken, and on it the point
nearest to the number. So no shorter decimal reads back, and none of the same length is nearer.

How they are laid out — where positional notation ends, whether a whole number keeps `.0` — is a
`Layout`, and each format of the library states its own.
-/

namespace AgentFlow

/-- The decimal number `coefficient · 10 ^ exponent`. -/
structure Decimal where
  coefficient : Nat
  exponent : Int
  deriving Repr, DecidableEq

namespace Decimal

/-- The decimal digits of a natural number, most significant first. -/
def digits (n : Nat) : List Char :=
  Nat.toDigits 10 n

/-- The same number without zeros at the end of the coefficient. -/
def trimZeros (d : Decimal) : Decimal :=
  let kept := (digits d.coefficient).reverse.dropWhile (· == '0')
  let dropped := (digits d.coefficient).length - kept.length
  if kept.isEmpty then d else ⟨d.coefficient / Nat.pow 10 dropped, d.exponent + dropped⟩

/-- The position of the decimal point of `num / den`: the `k` with `10^(k-1) ≤ num/den < 10^k`,
for a fraction that is no power of ten below one. -/
def pointOf (num den : Nat) : Int :=
  if den ≤ num then (digits (num / den)).length else 1 - ((digits (den / num)).length : Int)

/-- The best point of the grid `10 ^ e` that rounds to `x`, if the grid has one.

All quantities are in quarters of the unit in the last place: `x` is `4 m`, the interval reaches
two quarters up and two (`narrow`: one) down, and its ends belong to it iff `m` is even. -/
def onGrid? (x : Dyadic) (e : Int) : Option Decimal :=
  let scale : Int := x.exponent - 2
  let up := Nat.pow 10 (-e).toNat * Nat.pow 2 scale.toNat
  let unit := Nat.pow 10 e.toNat * Nat.pow 2 (-scale).toNat
  let low := (4 * x.mantissa - if x.narrow then 1 else 2) * up
  let mid := 4 * x.mantissa * up
  let high := (4 * x.mantissa + 2) * up
  let even := x.mantissa % 2 == 0
  let below := mid / unit
  let fitsBelow := low < below * unit || (even && low == below * unit)
  let fitsAbove := (below + 1) * unit < high || (even && (below + 1) * unit == high)
  let remainder := mid % unit
  let nearerBelow := 2 * remainder < unit || (2 * remainder == unit && below % 2 == 0)
  match fitsBelow, fitsAbove with
  | true, true => some ⟨if nearerBelow then below else below + 1, e⟩
  | true, false => some ⟨below, e⟩
  | false, true => some ⟨below + 1, e⟩
  | false, false => none

/-- The shortest decimal that rounds to the positive number `x`, of those the nearest.

Seventeen digits tell any two doubles apart, so the search ends at the latest there. -/
def shortest (x : Dyadic) : Decimal :=
  let point := pointOf (x.mantissa * Nat.pow 2 x.exponent.toNat) (Nat.pow 2 (-x.exponent).toNat)
  let found := (List.range 17).findSome? fun (n : Nat) => onGrid? x (point - (n + 1))
  trimZeros (found.getD ⟨x.mantissa, x.exponent⟩)

end Decimal

/-- How digits are laid out as text. -/
structure Layout where
  /-- The decimal exponents (of the leading digit) written positionally; `none` means all. -/
  positional : Option (Int × Int)
  /-- A whole number in positional notation keeps `.0`. -/
  keepsPoint : Bool

namespace Layout

/-- Digits around a decimal point at position `point`. -/
def place (layout : Layout) (digits : List Char) (point : Int) : List Char :=
  let count := digits.length
  if point ≤ 0 then '0' :: '.' :: List.replicate (-point).toNat '0' ++ digits
  else if count ≤ point.toNat then
    digits ++ List.replicate (point.toNat - count) '0' ++
      if layout.keepsPoint then ['.', '0'] else []
  else digits.take point.toNat ++ '.' :: digits.drop point.toNat

/-- Digits with one digit before the point and the exponent behind, its sign always written. -/
def scientific (digits : List Char) (exponent : Int) : List Char :=
  let sign := if exponent < 0 then '-' else '+'
  let mantissa :=
    match digits with
    | first :: rest@(_ :: _) => first :: '.' :: rest
    | _ => digits
  mantissa ++ 'e' :: sign :: Decimal.digits exponent.natAbs

/-- The text of a positive decimal. -/
def write (layout : Layout) (d : Decimal) : List Char :=
  let digits := Decimal.digits d.coefficient
  let point := d.exponent + digits.length
  match layout.positional with
  | none => layout.place digits point
  | some (least, most) =>
    if least ≤ point - 1 && point - 1 ≤ most then layout.place digits point
    else scientific digits (point - 1)

/-- The text of digits behind a sign; zero is written as one digit. -/
def writeSigned (layout : Layout) (negative : Bool) (x : Dyadic) : String :=
  let text :=
    if x.mantissa = 0 then layout.place ['0'] 1 else layout.write (Decimal.shortest x)
  String.ofList (if negative then '-' :: text else text)

/-- The text of a finite double. -/
def writeFloat (layout : Layout) (x : Float) : String :=
  layout.writeSigned (hasSign x) (Dyadic.ofFloat x)

end Layout

/-- The double nearest to the shortest decimal of a single: the number that a single's own text
denotes. -/
def shortestDouble (x : Float32) : Float :=
  let d := Decimal.shortest (Dyadic.ofFloat32 x)
  let y := Float.ofScientific d.coefficient (d.exponent < 0) d.exponent.natAbs
  if Nat.pow 2 31 ≤ x.toBits.toNat then -y else y

end AgentFlow

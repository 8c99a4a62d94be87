import AgentFlow.Json.Node
import AgentFlow.Numeric.Numeral

/-!
# Scalars without a fixed type

A scalar of a configuration file says its type only by the way it looks. The rules are those of
the YAML 1.2 core schema with binary integers added: `null`, `~` and nothing at all are null;
`true` and `false` in three spellings are booleans; integers are decimal, or `0x`, `0o`, `0b`;
digits behind a leading zero are no number but text; everything else is text. Quoted scalars are
always text.
-/

namespace AgentFlow.Scalar

/-- The spellings of null. -/
def isNull (text : String) : Bool :=
  ["null", "Null", "NULL", "~"].contains text

/-- The spellings of the booleans. -/
def bool? (text : String) : Option Bool :=
  if ["true", "True", "TRUE"].contains text then some true
  else if ["false", "False", "FALSE"].contains text then some false
  else none

/-- Drops a sign. -/
def unsigned : List Char → List Char
  | '+' :: rest => rest
  | '-' :: rest => rest
  | cs => cs

/-- Digits behind a leading zero, such as `007`: text, though made of digits. -/
def isZeroPadded (cs : List Char) : Bool :=
  match unsigned cs with
  | '0' :: rest@(_ :: _) => rest.all Char.isDigit
  | _ => false

/-- The digits of a number with a mark for its radix. -/
def radixDigits? : List Char → Option (Nat × List Char)
  | '0' :: 'x' :: digits => some (16, digits)
  | '0' :: 'o' :: digits => some (8, digits)
  | '0' :: 'b' :: digits => some (2, digits)
  | _ => none

/-- The number that digits with a mark for their radix denote. -/
def radixNumber? (cs : List Char) : Option Nat :=
  (radixDigits? cs).bind fun (radix, digits) => Numeral.natural? radix digits

/-- An integer of any size that is not below zero. -/
def natural? (cs : List Char) : Option Nat :=
  let digits := match cs with | '+' :: rest => rest | cs => cs
  (radixNumber? digits).or (if isZeroPadded cs then none else Numeral.natural? 10 digits)

/-- The absolute value of an integer of any size that has a minus sign. -/
def negative? : List Char → Option Nat
  | '-' :: digits =>
    (radixNumber? digits).or (if isZeroPadded digits then none else Numeral.natural? 10 digits)
  | _ => none

/-- The spellings of the infinities and of the double that is no number. -/
def special? (text : String) : Option Float :=
  if [".inf", ".Inf", ".INF", "+.inf", "+.Inf", "+.INF"].contains text then some (1.0 / 0.0)
  else if ["-.inf", "-.Inf", "-.INF"].contains text then some (-1.0 / 0.0)
  else if [".nan", ".NaN", ".NAN"].contains text then some (0.0 / 0.0)
  else none

/-- A decimal number as a double; one too large for a double is no number. -/
def float? (text : String) : Option Float :=
  (special? text).or <|
    let cs := text.toList
    let doubleSigned :=
      match cs with
      | '+' :: '+' :: _ => true
      | '+' :: '-' :: _ => true
      | _ => false
    if doubleSigned then none
    else (Numeral.decimal? cs).bind fun x => if x.isFinite then some x else none

/-- The value of a plain scalar; `none` for an integer beyond 64 bits, which no value holds. -/
def resolvePlain? (text : String) : Option Json :=
  if text.isEmpty || isNull text then some .null
  else
    match bool? text with
    | some b => some (.bool b)
    | none =>
      let cs := text.toList
      match natural? cs, negative? cs with
      | some n, _ => if n < Nat.pow 2 64 then some (.ofNat n) else resolveLarge? n (Nat.pow 2 128)
      | none, some n =>
        if n ≤ Nat.pow 2 63 then some (.ofInt (-(n : Int)))
        else resolveLarge? n (Nat.pow 2 127 + 1)
      | none, none => some (floatOrText cs)
where
  /-- An integer beyond 64 bits: refused up to 128 bits, a double above. -/
  resolveLarge? (n bound : Nat) : Option Json :=
    if n < bound then none else some (floatOrText text.toList)
  /-- What is no integer: a double if it looks like one, else text. -/
  floatOrText (cs : List Char) : Json :=
    if isZeroPadded cs then .string text
    else
      match float? text with
      | some x => .ofFloat x
      | none => .string text

/-- The tags of the core schema. -/
def coreTag (name : String) : String :=
  "tag:yaml.org,2002:" ++ name

/-- The value of an integer scalar, if it is one that 64 bits hold. -/
def taggedInt? (text : String) : Option Json :=
  match resolvePlain? text with
  | some (.number (.int n)) => some (.ofInt n)
  | _ => none

/-- The value of a scalar. A tag of the core schema has to fit the text; a tag of the document's
own has no value; a quoted scalar is text. -/
def resolve? (text : String) (style : ScalarStyle) (tag : Option String) : Option Json :=
  match tag with
  | none => if style = .plain then resolvePlain? text else some (.string text)
  | some tag =>
    if tag = coreTag "bool" then (bool? text).map .bool
    else if tag = coreTag "int" then taggedInt? text
    else if tag = coreTag "float" then (float? text).map .ofFloat
    else if tag = coreTag "null" then if isNull text then some .null else none
    else if tag.startsWith "!" && tag ≠ "!" then none
    else if tag = "!" && style = .plain then resolvePlain? text
    else some (.string text)

end AgentFlow.Scalar

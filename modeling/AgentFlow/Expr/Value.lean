import AgentFlow.Json.Basic
import AgentFlow.Numeric.Decimal
import AgentFlow.Numeric.Numeral
import AgentFlow.Text.Blank

/-!
# Values of expressions

What an expression evaluates to, and how values turn into one another. The rules are those of a
dynamically typed scripting language: a missing value is `undefined` and differs from `null`, every
number is a double, and operators coerce their operands — to a truth value, to a number, or to a
text.

Structures come from the variables and have no identity, so they are compared by content.

Loose equality converts one operand at a time, a boolean to a number before a structure to its
text, until both operands are of kinds that are compared directly. Each conversion lowers the rank
of an operand, so it ends.
-/

namespace AgentFlow

/-- A value of an expression. -/
inductive Value where
  | undefined
  | null
  | bool (value : Bool)
  | number (value : Float)
  | string (value : String)
  | array (items : List Json)
  | object (fields : List (String × Json))
  deriving Inhabited

/-! ### Texts of numbers -/

/-- Numbers are written positionally, however long that gets, and whole ones without a point. -/
def plainLayout : Layout := ⟨none, false⟩

/-- The text of a number; both zeros are `0`. -/
def numberText (x : Float) : String :=
  if x.isNaN then "NaN"
  else if x.isInf then if hasSign x then "-Infinity" else "Infinity"
  else if x == 0 then "0"
  else plainLayout.writeFloat x

/-- The number that a text denotes. Blanks around it do not matter, and an empty text is zero;
anything but a decimal number or a spelling of infinity is no number. -/
def textNumber (s : String) : Float :=
  let cs := Text.trim s.toList
  if cs.isEmpty then 0
  else if cs = "Infinity".toList || cs = "+Infinity".toList then 1 / 0
  else if cs = "-Infinity".toList then -1 / 0
  else (Numeral.decimal? cs).getD (0 / 0)

namespace Json

mutual

/-- The text of a value inside an array: nothing for `null`, the items of an inner array without
brackets, and a fixed text for an object. -/
def itemText : Json → String
  | null => ""
  | bool b => if b then "true" else "false"
  | number n => numberText n.toFloat
  | string s => s
  | array items => ",".intercalate (itemTexts items)
  | object _ => "[object Object]"

/-- The texts of items. -/
def itemTexts : List Json → List String
  | [] => []
  | item :: rest => item.itemText :: itemTexts rest

end

end Json

namespace Value

/-- A variable's value. All numbers become doubles. -/
def ofJson : Json → Value
  | .null => null
  | .bool b => bool b
  | .number n => number n.toFloat
  | .string s => string s
  | .array items => array items
  | .object fields => object fields

/-- The double as JSON: an integer if it is whole and below `2 ^ 53`, `null` if it is not finite. -/
def numberToJson (x : Float) : Json :=
  match whole? x with
  | some n => if n.natAbs < Nat.pow 2 53 then .ofInt n else .ofFloat x
  | none => .ofFloat x

/-- The value as JSON; `undefined` becomes `null`. -/
def toJson : Value → Json
  | undefined => .null
  | null => .null
  | bool b => .bool b
  | number x => numberToJson x
  | string s => .string s
  | array items => .array items
  | object fields => .object fields

/-- Is a value missing? -/
def isNullish : Value → Bool
  | undefined => true
  | null => true
  | _ => false

/-- The name of a value's kind. -/
def typeName : Value → String
  | undefined => "undefined"
  | null => "object"
  | bool _ => "boolean"
  | number _ => "number"
  | string _ => "string"
  | array _ => "object"
  | object _ => "object"

/-- The truth value: false are the missing values, `false`, zero, what is no number, and the empty
text. -/
def truthy : Value → Bool
  | undefined => false
  | null => false
  | bool b => b
  | number x => x != 0 && !x.isNaN
  | string s => !s.isEmpty
  | array _ => true
  | object _ => true

/-- The text of a value. -/
def toText : Value → String
  | undefined => "undefined"
  | null => "null"
  | bool b => if b then "true" else "false"
  | number x => numberText x
  | string s => s
  | array items => ",".intercalate (Json.itemTexts items)
  | object _ => "[object Object]"

/-- The number of a value; a structure counts as its text. -/
def toNumber : Value → Float
  | undefined => 0 / 0
  | null => 0
  | bool b => if b then 1 else 0
  | number x => x
  | string s => textNumber s
  | array items => textNumber (toText (array items))
  | object fields => textNumber (toText (object fields))

/-- Equality without coercion: of the same kind, and of equal content. -/
def strictEquals : Value → Value → Bool
  | undefined, undefined => true
  | null, null => true
  | bool a, bool b => a == b
  | number a, number b => a == b
  | string a, string b => a == b
  | array a, array b => Json.sameItems a b
  | object a, object b => Json.sameFields a b
  | _, _ => false

/-- Equality that also takes what is no number to be equal to itself. -/
def same : Value → Value → Bool
  | number a, number b => (a.isNaN && b.isNaN) || a == b
  | a, b => a.strictEquals b

/-- Is a value an array or an object? -/
def isStructure : Value → Bool
  | array _ => true
  | object _ => true
  | _ => false

/-- How many conversions a value can still undergo in loose equality. -/
def rank : Value → Nat
  | bool _ => 1
  | array _ => 1
  | object _ => 1
  | _ => 0

/-- Equality with coercion. -/
def looseEquals : Value → Value → Bool
  | undefined, b => b.isNullish
  | null, b => b.isNullish
  | _, undefined => false
  | _, null => false
  | number a, string b => a == textNumber b
  | string a, number b => textNumber a == b
  | bool a, b => looseEquals (number (bool a).toNumber) b
  | a, bool b => looseEquals a (number (bool b).toNumber)
  | array a, number b => looseEquals (string (array a).toText) (number b)
  | object a, number b => looseEquals (string (object a).toText) (number b)
  | array a, string b => looseEquals (string (array a).toText) (string b)
  | object a, string b => looseEquals (string (object a).toText) (string b)
  | number a, array b => looseEquals (number a) (string (array b).toText)
  | number a, object b => looseEquals (number a) (string (object b).toText)
  | string a, array b => looseEquals (string a) (string (array b).toText)
  | string a, object b => looseEquals (string a) (string (object b).toText)
  | a, b => a.strictEquals b
termination_by a b => a.rank + b.rank
decreasing_by all_goals simp only [rank]; omega

/-- The value at a property name: an entry of an object, an item or the length of an array, the
number of characters of a text. -/
def property (name : String) : Value → Value
  | object fields => ((Fields.get? name fields).map ofJson).getD undefined
  | array items =>
    if name = "length" then number (Float.ofNat items.length)
    else (((Numeral.position? name).bind fun i => items[i]?).map ofJson).getD undefined
  | string s => if name = "length" then number (Float.ofNat s.length) else undefined
  | _ => undefined

end Value

end AgentFlow

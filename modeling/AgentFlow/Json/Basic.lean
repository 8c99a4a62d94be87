import AgentFlow.Json.Fields

/-!
# JSON values

The one dynamic type of the library: variables, step configurations, tool arguments and results are
JSON values. Integers and doubles are different numbers — `1` and `1.0` are unequal — because a
literal without fraction and exponent stays an integer as long as it fits 64 bits.
-/

namespace AgentFlow

namespace Json

/-- A number: an integer between `-2^63` and `2^64 - 1`, or a finite double. -/
inductive Number where
  | int (value : Int)
  | float (value : Float)
  deriving Inhabited

namespace Number

/-- The nearest double. -/
def toFloat : Number → Float
  | int n => Float.ofInt n
  | float x => x

/-- Equality of numbers: integers with integers, doubles with doubles (so `0.0` and `-0.0` are
equal). -/
def same : Number → Number → Bool
  | int a, int b => a == b
  | float a, float b => a == b
  | _, _ => false

end Number

end Json

/-- A JSON value. The entries of an object stand in ascending order of keys. -/
inductive Json where
  | null
  | bool (value : Bool)
  | number (value : Json.Number)
  | string (value : String)
  | array (items : List Json)
  | object (fields : List (String × Json))
  deriving Inhabited

namespace Json

/-- The integer `n` as a value. -/
def ofInt (n : Int) : Json :=
  .number (.int n)

/-- The natural number `n` as a value. -/
def ofNat (n : Nat) : Json :=
  ofInt n

/-- A double as a value; what is not finite has no JSON form and becomes `null`. -/
def ofFloat (x : Float) : Json :=
  if x.isFinite then .number (.float x) else .null

/-- An optional value, `null` if absent. -/
def ofOption {α : Type} (encode : α → Json) : Option α → Json
  | none => .null
  | some a => encode a

/-- The object with the given entries. -/
def ofEntries (entries : List (String × Json)) : Json :=
  .object (Fields.ofEntries entries)

/-- The entry of an optional value, left out if there is none. -/
def entryIfSome {α : Type} (key : String) (encode : α → Json) : Option α → List (String × Json)
  | none => []
  | some a => [(key, encode a)]

/-- The text of a string. -/
def text? : Json → Option String
  | string s => some s
  | _ => none

/-- The value at a key of an object. -/
def field? (key : String) : Json → Option Json
  | object fields => Fields.get? key fields
  | _ => none

/-- The items of an array. -/
def items? : Json → Option (List Json)
  | array items => some items
  | _ => none

/-- The entries of an object. -/
def entries? : Json → Option (Fields Json)
  | object fields => some fields
  | _ => none

/-- The truth value of a boolean. -/
def bool? : Json → Option Bool
  | bool b => some b
  | _ => none

/-- The integer of a number that is one. -/
def int? : Json → Option Int
  | number (.int n) => some n
  | _ => none

/-- The natural number of a number that is one. -/
def nat? : Json → Option Nat
  | number (.int (.ofNat n)) => some n
  | _ => none

/-- `null`? -/
def isNull : Json → Bool
  | null => true
  | _ => false

mutual

/-- Equality by content. -/
def same : Json → Json → Bool
  | null, null => true
  | bool a, bool b => a == b
  | number a, number b => a.same b
  | string a, string b => a == b
  | array a, array b => sameItems a b
  | object a, object b => sameFields a b
  | _, _ => false

/-- Equality of two lists of items. -/
def sameItems : List Json → List Json → Bool
  | [], [] => true
  | a :: as, b :: bs => a.same b && sameItems as bs
  | _, _ => false

/-- Equality of two lists of entries. -/
def sameFields : List (String × Json) → List (String × Json) → Bool
  | [], [] => true
  | (k, a) :: as, (l, b) :: bs => k == l && a.same b && sameFields as bs
  | _, _ => false

end

end Json

end AgentFlow

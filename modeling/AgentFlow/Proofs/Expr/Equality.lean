import AgentFlow.Expr.Value

/-!
# Laws of equality

Values have three equalities: without coercion, with coercion, and the one that also takes what is
no number to be equal to itself. All three rest on the equality of doubles, which is symmetric and
leaves out only what is no number, and on the equality of JSON by content.

Loose equality converts one operand at a time, and `convert?` is that one conversion. A pair on
which it says nothing is compared as it stands; from any other pair one or two conversions lead to
such a pair. The conversions of a pair and of the same pair the other way round do not come in the
same order — a boolean goes first wherever it stands, but of two booleans the left one — and yet
they lead to the same comparison.
-/

namespace AgentFlow

/-! ### Doubles -/

namespace Double

open Float.Model (UnpackedFloat)

/-- Comparing the other way round swaps the outcome, if there is one. -/
theorem compare_swap (x y : UnpackedFloat) : x.compare y = (y.compare x).map Ordering.swap := by
  cases x with
  | notANumber => cases y <;> rfl
  | infinity s =>
    cases y with
    | notANumber => cases s <;> rfl
    | infinity t => cases s <;> cases t <;> rfl
    | zero t => cases s <;> cases t <;> rfl
    | finite t n f hn => cases s <;> cases t <;> rfl
  | zero s =>
    cases y with
    | notANumber => rfl
    | infinity t => cases t <;> rfl
    | zero t => rfl
    | finite t n f hn => cases t <;> rfl
  | finite s m e hm =>
    cases y with
    | notANumber => rfl
    | infinity t => cases s <;> cases t <;> rfl
    | zero t => cases s <;> rfl
    | finite t n f hn =>
      have hmagnitude : (compare e f).then (compare m n) =
          ((compare f e).then (compare n m)).swap := by
        rw [Ordering.swap_then, ← Std.OrientedCmp.eq_swap, ← Std.OrientedCmp.eq_swap]
      cases s <;> cases t
      · exact congrArg (fun order => some order.swap) hmagnitude
      · rfl
      · rfl
      · exact congrArg some hmagnitude

/-- A double that is a number is equal to itself. -/
theorem compare_self {x : UnpackedFloat} (h : x.isNaN = false) : x.compare x = some .eq := by
  cases x with
  | notANumber => cases h
  | infinity s => cases s <;> rfl
  | zero s => rfl
  | finite s m e hm =>
    have hexponent : compare e e = .eq := Std.ReflCmp.compare_self
    have hmantissa : compare m m = .eq := Std.ReflCmp.compare_self
    have hmagnitude : (compare e e).then (compare m m) = .eq := by
      rw [hexponent, hmantissa]
      rfl
    cases s
    · exact congrArg (fun order => some order.swap) hmagnitude
    · exact congrArg some hmagnitude

/-- Two doubles are equal if their logical models compare so. -/
theorem beq_eq (x y : Float) :
    (x == y) = (x.toModel.unpack.compare y.toModel.unpack == some .eq) := rfl

/-- Equality of doubles is symmetric, NaN included. -/
theorem beq_comm (x y : Float) : (x == y) = (y == x) := by
  rw [beq_eq, beq_eq, compare_swap]
  cases y.toModel.unpack.compare x.toModel.unpack with
  | none => rfl
  | some order => cases order <;> rfl

/-- Equality of doubles is reflexive but for NaN. -/
theorem beq_self {x : Float} (h : x.isNaN = false) : (x == x) = true := by
  rw [beq_eq, compare_self h]
  rfl

theorem isNaN_of_isFinite {x : Float} (h : x.isFinite = true) : x.isNaN = false := by
  change x.toModel.unpack.isFinite = true at h
  change x.toModel.unpack.isNaN = false
  cases hx : x.toModel.unpack <;> rw [hx] at h <;> first | rfl | cases h

theorem zero_beq_one : ((0 : Float) == 1) = false := by
  decide

theorem isNaN_zero : (0 : Float).isNaN = false := by
  decide

theorem isNaN_one : (1 : Float).isNaN = false := by
  decide

end Double

/-! ### JSON -/

namespace Json

namespace Number

/-- Is a number one of JSON? An integer is, and a double if it is finite. -/
def isFinite : Number → Bool
  | int _ => true
  | float x => x.isFinite

/-- Equality of numbers is symmetric. -/
theorem same_comm (m n : Number) : m.same n = n.same m := by
  cases m <;> cases n
  case int.int a b => exact Bool.beq_comm
  case float.float x y => exact Double.beq_comm x y
  all_goals rfl

/-- A finite number is equal to itself. -/
theorem same_self {n : Number} (h : n.isFinite = true) : n.same n = true := by
  cases n with
  | int a => exact beq_self_eq_true a
  | float x => exact Double.beq_self (Double.isNaN_of_isFinite h)

end Number

mutual

/-- Is every double in a value finite, as those of JSON are? -/
def isFinite : Json → Bool
  | number n => n.isFinite
  | array items => itemsAreFinite items
  | object fields => fieldsAreFinite fields
  | _ => true

/-- Is every double in a list of items finite? -/
def itemsAreFinite : List Json → Bool
  | [] => true
  | item :: rest => item.isFinite && itemsAreFinite rest

/-- Is every double in a list of entries finite? -/
def fieldsAreFinite : List (String × Json) → Bool
  | [] => true
  | (_, value) :: rest => value.isFinite && fieldsAreFinite rest

end

mutual

theorem same_comm : ∀ a b : Json, a.same b = b.same a
  | null, b => by cases b <;> rfl
  | bool _, b => by
    cases b
    case bool => exact Bool.beq_comm
    all_goals rfl
  | number m, b => by
    cases b
    case number n => exact m.same_comm n
    all_goals rfl
  | string _, b => by
    cases b
    case string => exact Bool.beq_comm
    all_goals rfl
  | array as, b => by
    cases b
    case array bs => exact sameItems_comm as bs
    all_goals rfl
  | object as, b => by
    cases b
    case object bs => exact sameFields_comm as bs
    all_goals rfl

theorem sameItems_comm : ∀ as bs : List Json, sameItems as bs = sameItems bs as
  | [], [] => rfl
  | [], _ :: _ => rfl
  | _ :: _, [] => rfl
  | a :: as, b :: bs => by
    rw [sameItems, sameItems, same_comm a b, sameItems_comm as bs]

theorem sameFields_comm : ∀ as bs : List (String × Json), sameFields as bs = sameFields bs as
  | [], [] => rfl
  | [], _ :: _ => rfl
  | _ :: _, [] => rfl
  | (k, a) :: as, (l, b) :: bs => by
    rw [sameFields, sameFields, same_comm a b, sameFields_comm as bs, Bool.beq_comm (a := k)]

end

mutual

theorem same_self : ∀ {a : Json}, a.isFinite = true → a.same a = true
  | null, _ => rfl
  | bool b, _ => beq_self_eq_true b
  | number _, h => Number.same_self h
  | string s, _ => beq_self_eq_true s
  | array _, h => sameItems_self h
  | object _, h => sameFields_self h

theorem sameItems_self : ∀ {items : List Json}, itemsAreFinite items = true →
    sameItems items items = true
  | [], _ => rfl
  | item :: rest, h => by
    obtain ⟨hitem, hrest⟩ := Bool.and_eq_true_iff.mp h
    rw [sameItems, same_self hitem, sameItems_self hrest, Bool.and_self]

theorem sameFields_self : ∀ {fields : List (String × Json)}, fieldsAreFinite fields = true →
    sameFields fields fields = true
  | [], _ => rfl
  | (key, value) :: rest, h => by
    obtain ⟨hvalue, hrest⟩ := Bool.and_eq_true_iff.mp h
    rw [sameFields, beq_self_eq_true, same_self hvalue, sameFields_self hrest, Bool.and_self,
      Bool.and_self]

end

end Json

namespace Value

/-- Is what a value holds JSON, with finite doubles only? A value that is a number itself can be any
double. -/
def holdsJson : Value → Bool
  | array items => Json.itemsAreFinite items
  | object fields => Json.fieldsAreFinite fields
  | _ => true

/-- Two values of the same variant. -/
inductive SameVariant : Value → Value → Prop
  | undefined : SameVariant undefined undefined
  | null : SameVariant null null
  | bool (a b : Bool) : SameVariant (bool a) (bool b)
  | number (a b : Float) : SameVariant (number a) (number b)
  | string (a b : String) : SameVariant (string a) (string b)
  | array (a b : List Json) : SameVariant (array a) (array b)
  | object (a b : List (String × Json)) : SameVariant (object a) (object b)

/-! ### Equality without coercion -/

/-- Strict equality is symmetric. -/
theorem strictEquals_comm (a b : Value) : a.strictEquals b = b.strictEquals a := by
  cases a <;> cases b
  case bool.bool => exact Bool.beq_comm
  case number.number x y => exact Double.beq_comm x y
  case string.string => exact Bool.beq_comm
  case array.array xs ys => exact Json.sameItems_comm xs ys
  case object.object xs ys => exact Json.sameFields_comm xs ys
  all_goals rfl

/-- What is strictly equal is of one kind. -/
theorem SameVariant.of_strictEquals {a b : Value} (h : a.strictEquals b = true) :
    SameVariant a b := by
  cases a <;> cases b <;> first | exact absurd h Bool.false_ne_true | constructor

/-- Only what is no number differs from itself, and that is what `same` adds. -/
theorem same_self {a : Value} (h : a.holdsJson = true) : a.same a = true := by
  cases a with
  | undefined => rfl
  | null => rfl
  | bool b => exact beq_self_eq_true b
  | number x =>
    cases hnan : x.isNaN with
    | true => rw [same, hnan, Bool.and_self, Bool.true_or]
    | false => rw [same, Double.beq_self hnan, Bool.or_true]
  | string s => exact beq_self_eq_true s
  | array items => exact Json.sameItems_self h
  | object fields => exact Json.sameFields_self h

/-! ### One conversion -/

/-- The pair that loose equality goes on with, if it converts an operand. -/
def convert? (a b : Value) : Option (Value × Value) :=
  if a.isNullish || b.isNullish then none
  else
    match a, b with
    | bool x, b => some (number (bool x).toNumber, b)
    | a, bool y => some (a, number (bool y).toNumber)
    | a, b =>
      if a.isStructure && !b.isStructure then some (string a.toText, b)
      else if b.isStructure && !a.isStructure then some (a, string b.toText)
      else none

/-- Equality of two values of which none is converted. -/
def equalsAsIs (a b : Value) : Bool :=
  match a, b with
  | number x, string t => x == textNumber t
  | string s, number y => textNumber s == y
  | a, b => (a.isNullish && b.isNullish) || a.strictEquals b

/-- One conversion does not change what loose equality says. -/
theorem looseEquals_of_convert? {a b a' b' : Value} (h : convert? a b = some (a', b')) :
    a.looseEquals b = a'.looseEquals b' := by
  cases a <;> cases b <;> cases h <;> simp [looseEquals]

/-- Where nothing is left to convert, values are compared as they are. -/
theorem looseEquals_of_convert?_eq_none {a b : Value} (h : convert? a b = none) :
    a.looseEquals b = a.equalsAsIs b := by
  cases a <;> cases b <;> cases h <;>
    simp [looseEquals, equalsAsIs, isNullish, strictEquals]

/-- The pair `a`, `b` is compared after so many conversions, with the answer `result`. -/
inductive Settles : Nat → Value → Value → Bool → Prop
  | asIs {a b : Value} : convert? a b = none → Settles 0 a b (a.equalsAsIs b)
  | convert {n : Nat} {a b a' b' : Value} {result : Bool} :
    convert? a b = some (a', b') → Settles n a' b' result → Settles (n + 1) a b result

/-- Every conversion leaves less to convert. -/
theorem rank_of_convert? {a b a' b' : Value} (h : convert? a b = some (a', b')) :
    a'.rank + b'.rank < a.rank + b.rank := by
  cases a <;> cases b <;> cases h <;> simp [rank]

/-- A value is converted at most once itself. -/
theorem rank_le_one (a : Value) : a.rank ≤ 1 := by
  cases a <;> simp [rank]

/-- The pair is settled before the ranks of its values are used up. -/
theorem exists_settles (a b : Value) :
    ∃ n ≤ a.rank + b.rank, Settles n a b (a.looseEquals b) := by
  cases h : convert? a b with
  | none => exact ⟨0, Nat.zero_le _, looseEquals_of_convert?_eq_none h ▸ .asIs h⟩
  | some pair =>
    obtain ⟨a', b'⟩ := pair
    have hrank := rank_of_convert? h
    obtain ⟨n, hn, hsettles⟩ := exists_settles a' b'
    rw [looseEquals_of_convert? h]
    exact ⟨n + 1, by omega, .convert h hsettles⟩
termination_by a.rank + b.rank

/-- What the conversions come to is what loose equality says. -/
theorem Settles.eq_looseEquals {n : Nat} {a b : Value} {result : Bool}
    (h : Settles n a b result) : result = a.looseEquals b := by
  induction h with
  | asIs hnone => exact (looseEquals_of_convert?_eq_none hnone).symm
  | convert hsome _ ih => rw [ih, looseEquals_of_convert? hsome]

/-! ### Equality with coercion -/

theorem looseEquals_bool (x y : Bool) : (bool x).looseEquals (bool y) = (x == y) := by
  have hzero := Double.beq_self Double.isNaN_zero
  have hone := Double.beq_self Double.isNaN_one
  have hzero_one := Double.zero_beq_one
  have hone_zero := Double.beq_comm 1 0
  cases x <;> cases y <;> simp_all [looseEquals, toNumber, strictEquals]

/-- Comparing without conversions is symmetric. -/
theorem equalsAsIs_comm (a b : Value) : a.equalsAsIs b = b.equalsAsIs a := by
  cases a <;> cases b
  case number.string x t => exact Double.beq_comm _ _
  case string.number s y => exact Double.beq_comm _ _
  all_goals simp only [equalsAsIs, strictEquals_comm, Bool.and_comm]

/-- Of two values the same one is converted, unless both are booleans. -/
theorem convert?_swap {a b : Value} (h : ∀ x y, a = bool x → b ≠ bool y) :
    convert? b a = (convert? a b).map Prod.swap := by
  cases a <;> cases b <;> first | rfl | exact absurd rfl (h _ _ rfl)

/-- What the conversions come to, loose equality says the other way round as well. -/
theorem Settles.looseEquals_swap {n : Nat} {a b : Value} {result : Bool}
    (h : Settles n a b result) : b.looseEquals a = result := by
  induction h with
  | @asIs a b hnone =>
    have hbool : ∀ x y, a = bool x → b ≠ bool y := by
      rintro x y rfl rfl
      cases hnone
    have hswap : convert? b a = none := by rw [convert?_swap hbool, hnone]; rfl
    rw [looseEquals_of_convert?_eq_none hswap, equalsAsIs_comm]
  | @convert n a b a' b' result hsome hsettles ih =>
    by_cases hbool : ∃ x y, a = bool x ∧ b = bool y
    · obtain ⟨x, y, rfl, rfl⟩ := hbool
      rw [hsettles.eq_looseEquals, ← looseEquals_of_convert? hsome, looseEquals_bool,
        looseEquals_bool, Bool.beq_comm]
    · have hswap : convert? b a = some (b', a') := by
        rw [convert?_swap fun x y hx hy => hbool ⟨x, y, hx, hy⟩, hsome]
        rfl
      rw [looseEquals_of_convert? hswap, ih]

/-- Loose equality is symmetric. -/
theorem looseEquals_comm (a b : Value) : a.looseEquals b = b.looseEquals a := by
  obtain ⟨n, -, hsettles⟩ := exists_settles a b
  exact hsettles.looseEquals_swap.symm

/-- Values of one variant are not converted but for booleans, whose numbers differ as they do. -/
theorem SameVariant.looseEquals_eq {a b : Value} (h : SameVariant a b) :
    a.looseEquals b = a.strictEquals b := by
  cases h
  case bool x y => exact looseEquals_bool x y
  all_goals simp [looseEquals, strictEquals, isNullish]

/-- The missing values are equal to each other and to nothing else. -/
theorem looseEquals_of_isNullish {a : Value} (h : a.isNullish = true) (b : Value) :
    a.looseEquals b = b.isNullish := by
  cases a <;> first | cases h; done | rw [looseEquals]

/-- There are two missing values. -/
theorem isNullish_iff {a : Value} : a.isNullish = true ↔ a = undefined ∨ a = null := by
  cases a <;> simp [isNullish]

/-- Loose equality ends after at most two conversions, is symmetric, wider than strict equality and
the same on values of one variant; the two missing values are equal to one another and to nothing
else; and every value equals itself, if the JSON that it holds does. -/
theorem equality_laws (a b : Value) :
    (∃ n ≤ 2, Settles n a b (a.looseEquals b)) ∧
      a.looseEquals b = b.looseEquals a ∧
      (a.strictEquals b = true → a.looseEquals b = true) ∧
      (SameVariant a b → a.looseEquals b = a.strictEquals b) ∧
      (undefined.looseEquals b = true ↔ b = undefined ∨ b = null) ∧
      (null.looseEquals b = true ↔ b = undefined ∨ b = null) ∧
      (a.holdsJson = true → a.same a = true) := by
  refine ⟨?terminates, looseEquals_comm a b, ?strict, SameVariant.looseEquals_eq, ?undefined, ?null,
    same_self⟩
  case terminates =>
    obtain ⟨n, hn, hsettles⟩ := exists_settles a b
    have ha := rank_le_one a
    have hb := rank_le_one b
    exact ⟨n, by omega, hsettles⟩
  case strict =>
    intro hstrict
    rw [(SameVariant.of_strictEquals hstrict).looseEquals_eq, hstrict]
  case undefined => rw [looseEquals_of_isNullish rfl, isNullish_iff]
  case null => rw [looseEquals_of_isNullish rfl, isNullish_iff]

/-- Two conversions: the boolean becomes a number, then the array a text. -/
theorem equality_laws_of_array :
    (array [.number (.float 0)]).holdsJson = true ∧
      (∃ n ≤ 2, Settles n (array [.number (.float 0)]) (bool false)
        ((array [.number (.float 0)]).looseEquals (bool false))) ∧
      (array [.number (.float 0)]).same (array [.number (.float 0)]) = true := by
  have hjson : (array [.number (.float 0)]).holdsJson = true := by decide
  obtain ⟨hends, -, -, -, -, -, hself⟩ := equality_laws (array [.number (.float 0)]) (bool false)
  exact ⟨hjson, hends, hself hjson⟩

end Value

end AgentFlow

import AgentFlow.Condition
import Mathlib.Data.List.Induction

/-!
# Two ways along a path

A path leads into the variables in two ways. Templates, loops and output steps follow its dotted
text through values (`Variables.path?`) and find nothing as soon as a segment leads nowhere.
Expressions and shorthands go from property to property of the values of expressions
(`Expr.resolvePath`), where what is missing is `undefined` and stays so.

Both come to the same (`Expr.eval_path_eq_path?`), with one exception: expressions know the length
of arrays and texts as a property, and nothing is stored under that name. A path can only end there,
since a number has no properties.
-/

namespace AgentFlow

/-! ## Joining names -/

namespace Text

/-- A text without marks is one piece. -/
theorem pieces_of_not_mem {mark : Char} {cs : List Char} (h : mark ∉ cs) :
    pieces mark cs = [cs] := by
  induction cs with
  | nil => rfl
  | cons c rest ih =>
    rw [List.mem_cons, not_or] at h
    obtain ⟨hc, hrest⟩ := h
    rw [pieces, if_neg (Ne.symm hc), ih hrest]

/-- The first piece ends at the first mark. -/
theorem pieces_append_mark {mark : Char} {cs : List Char} (h : mark ∉ cs) (rest : List Char) :
    pieces mark (cs ++ mark :: rest) = cs :: pieces mark rest := by
  induction cs with
  | nil => rw [List.nil_append, pieces, if_pos rfl]
  | cons c cs ih =>
    rw [List.mem_cons, not_or] at h
    obtain ⟨hc, hcs⟩ := h
    rw [List.cons_append, pieces, if_neg (Ne.symm hc), ih hcs]

end Text

namespace Variables

/-- The names of a path, with dots in between. -/
def dotted (names : List String) : String :=
  ".".intercalate names

/-- Names without dots are the segments of the path that they make. -/
theorem segments_dotted {root : String} {names : List String}
    (hdots : ∀ name ∈ root :: names, '.' ∉ name.toList) :
    segments (dotted (root :: names)) = root :: names := by
  induction names generalizing root with
  | nil =>
    have hroot := hdots root List.mem_cons_self
    rw [dotted, String.intercalate_singleton, segments, Text.pieces_of_not_mem hroot,
      List.map_singleton, String.ofList_toList]
  | cons name names ih =>
    obtain ⟨hroot, hnames⟩ := List.forall_mem_cons.mp hdots
    have hjoin : (dotted (root :: name :: names)).toList =
        root.toList ++ '.' :: (dotted (name :: names)).toList := by
      rw [dotted, String.intercalate_cons_cons, String.toList_append, String.toList_append,
        List.append_assoc]
      rfl
    have hrest := ih hnames
    rw [segments] at hrest
    rw [segments, hjoin, Text.pieces_append_mark hroot, List.map_cons, hrest, String.ofList_toList]

variable {vars : Variables} {root : String} {names : List String}

/-- A dotted path leads from the variable of its root along the other names. -/
theorem path?_dotted (hdots : ∀ name ∈ root :: names, '.' ∉ name.toList) :
    vars.path? (dotted (root :: names)) =
      (vars.get? root).bind fun value => follow? value names := by
  rw [path?, segments_dotted hdots]

/-- Following names one after the other. -/
theorem follow?_append (value : Json) (names more : List String) :
    follow? value (names ++ more) = (follow? value names).bind fun part => follow? part more := by
  induction names generalizing value with
  | nil => rfl
  | cons name names ih =>
    rw [List.cons_append, follow?, follow?, Option.bind_assoc]
    exact Option.bind_congr fun part _ => ih part

/-- A path leads where its last name leads from where the others do. -/
theorem path?_dotted_append {last : String}
    (hdots : ∀ name ∈ root :: (names ++ [last]), '.' ∉ name.toList) :
    vars.path? (dotted (root :: (names ++ [last]))) =
      (vars.path? (dotted (root :: names))).bind (Json.part? last) := by
  have hnames : ∀ name ∈ root :: names, '.' ∉ name.toList := fun name hname =>
    hdots name (List.mem_append_left [last] hname)
  have hlast (part : Json) : follow? part [last] = part.part? last := Option.bind_fun_some _
  rw [path?_dotted hdots, path?_dotted hnames, Option.bind_assoc]
  refine Option.bind_congr fun value _ => ?_
  rw [follow?_append]
  exact Option.bind_congr fun part _ => hlast part

end Variables

/-- The number of the elements of an array, or of the characters of a text. -/
def Json.length? : Json → Option Nat
  | .array items => some items.length
  | .string s => some s.length
  | _ => none

/-- A path measures what it leads to without its last property, if that is `length`. -/
def Variables.Measures (vars : Variables) (root : String) (properties : List String) (n : Nat) :
    Prop :=
  ∃ names value, properties = names ++ ["length"] ∧
    vars.path? (dotted (root :: names)) = some value ∧ value.length? = some n

/-! ## Properties of values -/

namespace Value

variable {value part : Json} {name : String} {n : Nat}

/-- The part of a variable with some name is the property of that name. -/
theorem property_of_part? (h : value.part? name = some part) :
    (ofJson value).property name = ofJson part := by
  cases value with
  | array items =>
    have hname : name ≠ "length" := by
      rintro rfl
      cases h
    have hitem : (Numeral.position? name).bind (fun i => items[i]?) = some part := h
    rw [ofJson, property, if_neg hname, hitem]
    rfl
  | object fields =>
    have hentry : Fields.get? name fields = some part := h
    rw [ofJson, property, hentry]
    rfl
  | null | bool | number | string => cases h

/-- A text and an array have their length as a property. -/
theorem property_length (h : value.length? = some n) :
    (ofJson value).property "length" = number (.ofNat n) := by
  cases value with
  | array items =>
    cases h
    rfl
  | string s =>
    cases h
    rfl
  | null | bool | number | object => cases h

/-- There are no properties but parts and lengths. -/
theorem property_of_part?_eq_none (h : value.part? name = none)
    (hlength : name = "length" → value.length? = none) :
    (ofJson value).property name = undefined := by
  cases value with
  | array items =>
    have hname : name ≠ "length" := fun hname => nomatch hlength hname
    have hitem : (Numeral.position? name).bind (fun i => items[i]?) = none := h
    rw [ofJson, property, if_neg hname, hitem]
    rfl
  | object fields =>
    have hentry : Fields.get? name fields = none := h
    rw [ofJson, property, hentry]
    rfl
  | string s =>
    have hname : name ≠ "length" := fun hname => nomatch hlength hname
    rw [ofJson, property, if_neg hname]
  | null | bool | number => rfl

end Value

/-! ## The two ways along a path -/

namespace Expr

variable {vars : Variables} {root : String} {properties : List String}

/-- The guard lets names through that are not denied. -/
theorem guardedProperty_of_allowed {name : String} (hallowed : isDenied name = false)
    (value : Value) : guardedProperty value name = value.property name := by
  rw [guardedProperty, hallowed, Bool.false_or]
  cases value <;> rfl

/-- One property more is one look at what the path has come to. -/
theorem eval_path_append (vars : Variables) (root : String) (properties : List String)
    {last : String} (hallowed : isDenied last = false) :
    eval vars (.path root (properties ++ [last])) =
      (eval vars (.path root properties)).property last := by
  rw [eval, eval, resolvePath, resolvePath, List.foldl_append]
  exact guardedProperty_of_allowed hallowed _

/-- What an expression makes of a path, said by where the dotted path leads. -/
structure Follows (vars : Variables) (root : String) (properties : List String) : Prop where
  found : ∀ value, vars.path? (Variables.dotted (root :: properties)) = some value →
    eval vars (.path root properties) = .ofJson value
  measured : ∀ n, vars.path? (Variables.dotted (root :: properties)) = none →
    vars.Measures root properties n → eval vars (.path root properties) = .number (.ofNat n)
  missing : vars.path? (Variables.dotted (root :: properties)) = none →
    (∀ n, ¬ vars.Measures root properties n) → eval vars (.path root properties) = .undefined

/-- A root alone is followed: both ways look the variable up. -/
theorem follows_nil (vars : Variables) {root : String} (hdot : '.' ∉ root.toList) :
    Follows vars root [] := by
  have hpath : vars.path? (Variables.dotted [root]) = vars.get? root := by
    rw [Variables.path?_dotted (List.forall_mem_singleton.mpr hdot)]
    exact Option.bind_fun_some _
  have heval :
      eval vars (.path root []) = ((vars.get? root).map Value.ofJson).getD .undefined := rfl
  refine ⟨fun value hvalue => ?_, fun n hnone hmeasures => ?_, fun hnone _ => ?_⟩
  · rw [heval, ← hpath, hvalue]
    rfl
  · obtain ⟨names, value, heq, -⟩ := hmeasures
    simp at heq
  · rw [heval, ← hpath, hnone]
    rfl

/-- One property more is followed if the path in front of it is. What an array or a text has for its
length ends the dotted path, and nothing lies behind a length. -/
theorem Follows.append {last : String}
    (hdots : ∀ name ∈ root :: (properties ++ [last]), '.' ∉ name.toList)
    (hallowed : isDenied last = false) (h : Follows vars root properties) :
    Follows vars root (properties ++ [last]) := by
  have heval := eval_path_append vars root properties hallowed
  have hpath := @Variables.path?_dotted_append vars root properties last hdots
  -- Only what stands where the last property is asked for can be measured.
  have hmeasures : ∀ n, vars.Measures root (properties ++ [last]) n ↔ last = "length" ∧
      ∃ value, vars.path? (Variables.dotted (root :: properties)) = some value ∧
        value.length? = some n := by
    intro n
    constructor
    · rintro ⟨names, value, heq, hvalue, hlength⟩
      obtain ⟨rfl, hlast⟩ := List.append_inj' heq rfl
      exact ⟨List.head_eq_of_cons_eq hlast, value, hvalue, hlength⟩
    · rintro ⟨rfl, value, hvalue, hlength⟩
      exact ⟨properties, value, rfl, hvalue, hlength⟩
  cases hbefore : vars.path? (Variables.dotted (root :: properties)) with
  | some value =>
    rw [hbefore, Option.bind_some] at hpath
    rw [h.found value hbefore] at heval
    refine ⟨fun part hpart => ?_, fun n hnone hn => ?_, fun hnone hn => ?_⟩
    · rw [heval, Value.property_of_part? (hpath ▸ hpart)]
    · obtain ⟨rfl, other, hother, hlength⟩ := (hmeasures n).mp hn
      obtain rfl : value = other := Option.some.inj (hbefore.symm.trans hother)
      rw [heval, Value.property_length hlength]
    · rw [heval, Value.property_of_part?_eq_none (hpath ▸ hnone)]
      intro hlast
      refine Option.eq_none_iff_forall_ne_some.mpr fun n hlength => ?_
      exact hn n ((hmeasures n).mpr ⟨hlast, value, hbefore, hlength⟩)
  | none =>
    rw [hbefore, Option.bind_none] at hpath
    -- Neither a number nor what is missing has properties.
    have hundefined : eval vars (.path root (properties ++ [last])) = .undefined := by
      rw [heval]
      by_cases hmeasured : ∃ n, vars.Measures root properties n
      · obtain ⟨n, hn⟩ := hmeasured
        rw [h.measured n hbefore hn]
        rfl
      · rw [h.missing hbefore fun n hn => hmeasured ⟨n, hn⟩]
        rfl
    refine ⟨fun part hpart => ?_, fun n _ hn => ?_, fun _ _ => hundefined⟩
    · rw [hpath] at hpart
      cases hpart
    · obtain ⟨-, value, hvalue, -⟩ := (hmeasures n).mp hn
      rw [hbefore] at hvalue
      cases hvalue

/-- A path without dots in its names and without denied ones is followed, by induction from its
end. -/
theorem follows_of_allowed (vars : Variables) {root : String} {properties : List String}
    (hdots : ∀ name ∈ root :: properties, '.' ∉ name.toList)
    (hallowed : ∀ name ∈ properties, isDenied name = false) : Follows vars root properties := by
  induction properties using List.reverseRecOn with
  | nil => exact follows_nil vars (hdots root List.mem_cons_self)
  | append_singleton properties last ih =>
    refine (ih (fun name hname => ?_) fun name hname => ?_).append hdots ?_
    · exact hdots name (List.mem_append_left [last] hname)
    · exact hallowed name (List.mem_append_left [last] hname)
    · exact hallowed last (List.mem_append_right properties List.mem_cons_self)

/-- **Both ways along a path agree.** Where the dotted path leads to a value, the expression has
that value. Where it leads nowhere, the expression is `undefined`, unless it asks for the length of
an array or a text; then it is that length. A shorthand with the path has the value of the
expression. -/
theorem eval_path_eq_path? (vars : Variables) (root : String) (properties : List String)
    (hdots : ∀ name ∈ root :: properties, '.' ∉ name.toList)
    (hallowed : ∀ name ∈ properties, isDenied name = false) :
    let path := Variables.dotted (root :: properties)
    let value := eval vars (.path root properties)
    (∀ v, vars.path? path = some v → value = .ofJson v) ∧
    (vars.path? path = none →
      (∀ n, vars.Measures root properties n → value = .number (.ofNat n)) ∧
      ((∀ n, ¬ vars.Measures root properties n) → value = .undefined)) ∧
    (isDenied root = false → Shorthand.resolve path vars = .ok value) := by
  intro path value
  have hfollows := follows_of_allowed vars hdots hallowed
  refine ⟨hfollows.found, fun hnone => ⟨fun n => hfollows.measured n hnone, hfollows.missing hnone⟩,
    fun hroot => ?_⟩
  have hfind : properties.find? isDenied = none :=
    List.find?_eq_none.mpr fun name hname => Bool.eq_false_iff.mp (hallowed name hname)
  simp only [Shorthand.resolve, path, Variables.segments_dotted hdots, hroot, hfind,
    Bool.false_eq_true, if_false]
  rfl

/-- The path leads to nothing that is stored, and the expression measures the list of tags. -/
theorem eval_path_eq_path?_of_length :
    let vars : Variables :=
      [("user", .object [("tags", .array [.string "new", .null, .string "vip"])])]
    vars.path? "user.tags.length" = none ∧ vars.path? "user.tags.2" = some (.string "vip") ∧
      eval vars (.path "user" ["tags", "length"]) = .number (.ofNat 3) ∧
      eval vars (.path "user" ["tags", "2"]) = .string "vip" ∧
      Shorthand.resolve "user.tags.length" vars = .ok (.number (.ofNat 3)) := by
  intro vars
  have hlength := eval_path_eq_path? vars "user" ["tags", "length"] (by decide) (by decide)
  have hitem := eval_path_eq_path? vars "user" ["tags", "2"] (by decide) (by decide)
  have hnone : vars.path? "user.tags.length" = none := by decide +kernel
  have hsome : vars.path? "user.tags.2" = some (.string "vip") := by rfl
  have hvalue := (hlength.2.1 hnone).1 3 ⟨["tags"], _, rfl, rfl, rfl⟩
  refine ⟨hnone, hsome, hvalue, hitem.1 _ hsome, ?_⟩
  rw [← hvalue]
  exact hlength.2.2 (by decide)

end Expr

end AgentFlow

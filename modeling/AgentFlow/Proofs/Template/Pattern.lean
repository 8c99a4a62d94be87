import AgentFlow.Template
import Mathlib.Data.List.TakeWhile

/-!
# Placeholders as matches of a pattern

A placeholder is a match of the regular expression `\{\{\s*([^{}]+?)\s*\}\}`, and its key is what
the group holds. A pattern can match in more than one way, and a matcher tries the ways in a fixed
order: greedy runs longest first, lazy ones shortest first, and what stands further left in the
pattern decides first. Here a pattern is the list of its ways in that order, and its match is the
first of them.

The main statement, `head?_opened`, is that this match is found without trying. The body of a
placeholder is all that stands between the braces, and its key is the body without the blanks around
it. Only if there is nothing but blanks, the greedy run has to give one back to the group, and the
key is the last blank.
-/

namespace AgentFlow.Template

/-! ## Patterns -/

/-- The ways in which a pattern matches in front of a text, preferred ones first: what is matched,
and the rest of the text. -/
abbrev Pattern := List Char → List (List Char × List Char)

namespace Pattern

/-- Puts a character in front of what was matched. -/
def extend (c : Char) (way : List Char × List Char) : List Char × List Char :=
  (c :: way.1, way.2)

/-- A fixed text. -/
def exactly (text : List Char) : Pattern := fun cs =>
  if text.isPrefixOf cs then [(text, cs.drop text.length)] else []

/-- Any number of characters of a class, as many as possible. -/
def greedy (p : Char → Bool) : Pattern
  | [] => [([], [])]
  | c :: rest => (if p c then (greedy p rest).map (extend c) else []) ++ [([], c :: rest)]

/-- Any number of characters of a class, as few as possible. -/
def reluctant (p : Char → Bool) : Pattern
  | [] => [([], [])]
  | c :: rest => ([], c :: rest) :: if p c then (reluctant p rest).map (extend c) else []

/-- At least one character of a class, as few as possible. -/
def reluctantSome (p : Char → Bool) : Pattern
  | [] => []
  | c :: rest => if p c then (reluctant p rest).map (extend c) else []

end Pattern

open Pattern

/-- The end of a placeholder: blanks and closing braces. -/
def ending (cs : List Char) : List (List Char) :=
  (greedy Text.isBlank cs).flatMap fun way => (exactly ['\x7d', '\x7d'] way.2).map Prod.snd

/-- Keys that can end a placeholder there, each with the text behind it. -/
def closing (keys : List (List Char × List Char)) : List (List Char × List Char) :=
  keys.flatMap fun way => (ending way.2).map fun behind => (way.1, behind)

/-- What stands behind the opening braces of a placeholder. -/
def opened (cs : List Char) : List (List Char × List Char) :=
  (greedy Text.isBlank cs).flatMap fun way => closing (reluctantSome isKeyChar way.2)

/-- The ways in which the pattern of placeholders matches in front of a text: the key, and the text
behind the placeholder. -/
def ways (cs : List Char) : List (List Char × List Char) :=
  (exactly ['\x7b', '\x7b'] cs).flatMap fun way => opened way.2

/-! ## Up to the closing braces -/

/-- What stands in front of closing braces, if nothing but characters of a key does, and the text
behind them. -/
def upToClosing? : List Char → Option (List Char × List Char)
  | '\x7d' :: '\x7d' :: behind => some ([], behind)
  | [] => none
  | c :: rest => if isKeyChar c then (upToClosing? rest).map (extend c) else none

/-- The way to the closing braces, one character on. -/
theorem upToClosing?_cons_of_isKeyChar {c : Char} (h : isKeyChar c = true) (rest : List Char) :
    upToClosing? (c :: rest) = (upToClosing? rest).map (extend c) := by
  rw [upToClosing?.eq_def]
  split
  next heq =>
    cases heq
    exact absurd h (by decide)
  next heq => cases heq
  next heq =>
    cases heq
    exact if_pos h

/-- The closing braces are the first ones behind a run without braces. -/
theorem upToClosing?_eq_some_iff {cs run behind : List Char} :
    upToClosing? cs = some (run, behind) ↔
      cs = run ++ '\x7d' :: '\x7d' :: behind ∧ ∀ c ∈ run, isKeyChar c = true := by
  constructor
  · intro h
    fun_induction upToClosing? cs generalizing run with
    | case1 behind' =>
      cases h
      exact ⟨rfl, fun c hc => nomatch hc⟩
    | case2 => cases h
    | case3 c rest hc hkey ih =>
      obtain ⟨⟨run', behind'⟩, hrest, heq⟩ := Option.map_eq_some_iff.mp h
      cases heq
      obtain ⟨rfl, hrun⟩ := ih hrest
      exact ⟨rfl, List.forall_mem_cons.mpr ⟨hkey, hrun⟩⟩
    | case4 => cases h
  · rintro ⟨rfl, hrun⟩
    induction run with
    | nil => rfl
    | cons c run ih =>
      obtain ⟨hc, hrun⟩ := List.forall_mem_cons.mp hrun
      rw [List.cons_append, upToClosing?_cons_of_isKeyChar hc, ih hrun]
      rfl

/-! ## One character at a time -/

/-- The ways to end a placeholder, one character on: a blank can be passed, braces end it. -/
theorem ending_cons (c : Char) (rest : List Char) :
    ending (c :: rest) =
      (if Text.isBlank c then ending rest else []) ++
        (exactly ['\x7d', '\x7d'] (c :: rest)).map Prod.snd := by
  rw [ending, greedy, List.flatMap_append, List.flatMap_singleton]
  split
  · rw [List.flatMap_map]
    rfl
  · rfl

/-- A longer key is closed in the same ways. -/
theorem closing_map_extend (c : Char) (keys : List (List Char × List Char)) :
    closing (keys.map (extend c)) = (closing keys).map (extend c) := by
  simp only [closing, List.flatMap_map, List.map_flatMap, List.map_map]
  rfl

/-- The ways to close a key, one character on: first those that take no more of it. -/
theorem closing_reluctant_cons (c : Char) (rest : List Char) :
    closing (reluctant isKeyChar (c :: rest)) =
      (ending (c :: rest)).map (fun behind => ([], behind)) ++
        if isKeyChar c then (closing (reluctant isKeyChar rest)).map (extend c) else [] := by
  rw [reluctant, closing, List.flatMap_cons, ← closing]
  split
  · rw [closing_map_extend]
  · rfl

/-- The ways to close a key that has to have a character. -/
theorem closing_reluctantSome_cons (c : Char) (rest : List Char) :
    closing (reluctantSome isKeyChar (c :: rest)) =
      if isKeyChar c then (closing (reluctant isKeyChar rest)).map (extend c) else [] := by
  rw [reluctantSome]
  split
  · rw [closing_map_extend]
  · rfl

/-- The ways behind opening braces, one character on: first those that pass a blank. -/
theorem opened_cons (c : Char) (rest : List Char) :
    opened (c :: rest) =
      (if Text.isBlank c then opened rest else []) ++
        closing (reluctantSome isKeyChar (c :: rest)) := by
  rw [opened, greedy, List.flatMap_append, List.flatMap_singleton]
  split
  · rw [List.flatMap_map]
    rfl
  · rfl

/-! ## Trimming -/

/-- Trimming the end of a run, one character on. -/
theorem trimEnd_cons (c : Char) (run : List Char) :
    Text.trimEnd (c :: run) =
      if (c :: run).all Text.isBlank then [] else c :: Text.trimEnd run := by
  rw [Text.trimEnd, Text.trimEnd, List.reverse_cons, List.dropWhile_append, List.all_cons]
  by_cases hrun : run.all Text.isBlank = true
  · have hdrop : run.reverse.dropWhile Text.isBlank = [] :=
      List.dropWhile_eq_nil_iff.mpr fun d hd =>
        List.all_eq_true.mp hrun d (List.mem_reverse.mp hd)
    cases hc : Text.isBlank c <;> simp [hdrop, hrun, hc]
  · have hdrop : run.reverse.dropWhile Text.isBlank ≠ [] := by
      intro hnil
      refine hrun (List.all_eq_true.mpr fun d hd => ?_)
      exact List.dropWhile_eq_nil_iff.mp hnil d (List.mem_reverse.mpr hd)
    simp [hdrop, hrun]

/-- The key of a run that starts with no blank is the run without the blanks behind it. -/
theorem key_of_isBlank_eq_false {c : Char} (h : Text.isBlank c = false) (run : List Char) :
    key (c :: run) = c :: Text.trimEnd run := by
  have htrim : Text.trim (c :: run) = c :: Text.trimEnd run := by
    rw [Text.trim, Text.trimStart, List.dropWhile_cons_of_neg (Bool.eq_false_iff.mp h),
      trimEnd_cons, List.all_cons, h]
    rfl
  rw [key, htrim]

/-- A blank in front is no part of the key, unless it is all there is. -/
theorem key_of_isBlank {c : Char} (h : Text.isBlank c = true) {run : List Char} (hrun : run ≠ []) :
    key (c :: run) = key run := by
  have htrim : Text.trim (c :: run) = Text.trim run := by
    rw [Text.trim, Text.trim, Text.trimStart, List.dropWhile_cons_of_pos h, Text.trimStart]
  have hlast : (c :: run).drop ((c :: run).length - 1) = run.drop (run.length - 1) := by
    cases run with
    | nil => exact absurd rfl hrun
    | cons d rest => rfl
  rw [key, key, htrim, hlast]

/-- One character is the key, also if it is blank. -/
theorem key_singleton (c : Char) : key [c] = [c] := by
  cases h : Text.isBlank c with
  | false => exact key_of_isBlank_eq_false h []
  | true =>
    have htrim : Text.trim [c] = [] := by
      rw [Text.trim, Text.trimStart, List.dropWhile_cons_of_pos h]
      rfl
    rw [key, htrim]
    rfl

/-! ## The first way -/

/-- A blank can stand in a key. -/
theorem isKeyChar_of_isBlank {c : Char} (h : Text.isBlank c = true) : isKeyChar c = true := by
  rw [isKeyChar, Bool.and_eq_true, decide_eq_true_iff, decide_eq_true_iff]
  constructor
  · rintro rfl
    exact absurd h (by decide)
  · rintro rfl
    exact absurd h (by decide)

theorem exactly_eq_nil {c d : Char} {rest : List Char}
    (h : ∀ behind, c = d → rest = d :: behind → False) : exactly [d, d] (c :: rest) = [] := by
  refine if_neg fun hstart => ?_
  obtain ⟨behind, heq⟩ := List.isPrefixOf_iff_prefix.mp hstart
  cases heq
  exact h behind rfl rfl

/-- A placeholder does not end in front of a brace that does not close it. -/
theorem ending_eq_nil {c : Char} {rest : List Char}
    (hc : ∀ behind, c = '\x7d' → rest = '\x7d' :: behind → False) (hkey : ¬ isKeyChar c = true) :
    ending (c :: rest) = [] := by
  have hblank : Text.isBlank c = false :=
    Bool.eq_false_iff.mpr fun hblank => hkey (isKeyChar_of_isBlank hblank)
  rw [ending_cons, exactly_eq_nil hc, hblank]
  rfl

/-- All blanks in front of the closing braces are skipped. -/
theorem head?_ending (cs : List Char) :
    (ending cs).head? = (upToClosing? cs).bind fun found =>
      if found.1.all Text.isBlank then some found.2 else none := by
  fun_induction upToClosing? cs with
  | case1 behind => rfl
  | case2 => rfl
  | case3 c rest hc hkey ih =>
    rw [ending_cons, exactly_eq_nil hc, List.map_nil, List.append_nil]
    cases hblank : Text.isBlank c with
    | true =>
      rw [if_pos rfl, ih, Option.bind_map]
      refine Option.bind_congr fun found _ => ?_
      rw [Function.comp, extend, List.all_cons, hblank, Bool.true_and]
    | false =>
      cases upToClosing? rest with
      | none => rfl
      | some found =>
        rw [Option.map_some, Option.bind_some, extend, List.all_cons, hblank]
        rfl
  | case4 c rest hc hkey => rw [ending_eq_nil hc hkey]; rfl

/-- The shortest key leaves nothing but blanks in front of the closing braces. -/
theorem head?_closing_reluctant (cs : List Char) :
    (closing (reluctant isKeyChar cs)).head? =
      (upToClosing? cs).map fun found => (Text.trimEnd found.1, found.2) := by
  fun_induction upToClosing? cs with
  | case1 behind => rfl
  | case2 => rfl
  | case3 c rest hc hkey ih =>
    have hending := head?_ending (c :: rest)
    rw [upToClosing?_cons_of_isKeyChar hkey] at hending
    rw [closing_reluctant_cons, List.head?_append, List.head?_map, hending, if_pos hkey,
      List.head?_map, ih]
    cases upToClosing? rest with
    | none => rfl
    | some found =>
      simp only [Option.map_some, Option.bind_some, extend, trimEnd_cons]
      split <;> rfl
  | case4 c rest hc hkey =>
    rw [closing_reluctant_cons, ending_eq_nil hc hkey, if_neg hkey]
    rfl

/-- The first match takes all up to the closing braces, and keeps the key of it. -/
theorem head?_opened (cs : List Char) :
    (opened cs).head? = (upToClosing? cs).bind fun found =>
      if found.1 = [] then none else some (key found.1, found.2) := by
  fun_induction upToClosing? cs with
  | case1 behind => rfl
  | case2 => rfl
  | case3 c rest hc hkey ih =>
    rw [opened_cons, closing_reluctantSome_cons, if_pos hkey, List.head?_append, List.head?_map,
      head?_closing_reluctant]
    cases hblank : Text.isBlank c with
    | true =>
      rw [if_pos rfl, ih]
      cases upToClosing? rest with
      | none => rfl
      | some found =>
        by_cases hrun : found.1 = []
        · simp [extend, hrun, key_singleton, Text.trimEnd]
        · simp [extend, hrun, key_of_isBlank hblank hrun]
    | false =>
      cases upToClosing? rest with
      | none => rfl
      | some found => simp [extend, key_of_isBlank_eq_false hblank]
  | case4 c rest hc hkey =>
    have hblank : Text.isBlank c = false :=
      Bool.eq_false_iff.mpr fun hblank => hkey (isKeyChar_of_isBlank hblank)
    rw [opened_cons, closing_reluctantSome_cons, if_neg hkey, hblank]
    rfl

end AgentFlow.Template

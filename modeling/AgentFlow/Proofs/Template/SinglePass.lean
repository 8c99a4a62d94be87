import AgentFlow.Proofs.Template
import AgentFlow.Proofs.Template.Pattern

/-!
# Templates in a single pass

What a template becomes, said without a scanner. A text is gone through once from left to right. A
character at which no placeholder starts stays; a placeholder is left behind as a whole, either with
the text of its value in its place or as it stands. Nothing is ever read but the template, so what
was put in is not looked at again (`SinglePass`).

`Template.interpolate` gives this text and no other (`interpolate_eq_iff`), and the placeholders are
the matches of the pattern in `AgentFlow.Proofs.Template.Pattern`.
-/

namespace AgentFlow.Template

/-! ## Placeholders and their keys -/

/-- The key of a body: what is left without the blanks around it, or the last of nothing but
blanks. -/
inductive IsKey : List Char → List Char → Prop where
  | trimmed {before core after : List Char} (hbefore : ∀ c ∈ before, Text.isBlank c = true)
    (hne : core ≠ []) (hfirst : ∀ c ∈ core.head?, Text.isBlank c = false)
    (hlast : ∀ c ∈ core.getLast?, Text.isBlank c = false)
    (hafter : ∀ c ∈ after, Text.isBlank c = true) : IsKey (before ++ (core ++ after)) core
  | lastBlank {before : List Char} {last : Char}
    (h : ∀ c ∈ before ++ [last], Text.isBlank c = true) : IsKey (before ++ [last]) [last]

/-- A text starts with a placeholder: two opening braces, a body without braces, and two closing
braces. -/
inductive Occurs : List Char → List Char → List Char → Prop where
  | intro {body key behind : List Char} (hbody : body ≠ [])
    (hbraces : ∀ c ∈ body, c ≠ '\x7b' ∧ c ≠ '\x7d') (hkey : IsKey body key) :
    Occurs ('\x7b' :: '\x7b' :: (body ++ '\x7d' :: '\x7d' :: behind)) key behind

/-- What a text becomes in a single pass from left to right. -/
inductive SinglePass (vars : Variables) : List Char → List Char → Prop where
  | done : SinglePass vars [] []
  /-- A character that starts no placeholder. -/
  | plain {c : Char} {rest text : List Char} (h : ∀ key behind, ¬ Occurs (c :: rest) key behind)
    (more : SinglePass vars rest text) : SinglePass vars (c :: rest) (c :: text)
  /-- A placeholder whose key leads to a value. -/
  | replaced {cs key behind text : List Char} {value : Json} (h : Occurs cs key behind)
    (hvalue : vars.path? (String.ofList key) = some value) (hnull : value.isNull = false)
    (more : SinglePass vars behind text) :
    SinglePass vars cs (value.shownText.toList ++ text)
  /-- A placeholder whose key leads nowhere, or to null. -/
  | kept {placeholder key behind text : List Char} (h : Occurs (placeholder ++ behind) key behind)
    (hnone : ∀ value, vars.path? (String.ofList key) = some value → value.isNull = true)
    (more : SinglePass vars behind text) :
    SinglePass vars (placeholder ++ behind) (placeholder ++ text)

/-! ## Keys -/

/-- A text is what is left after trimming its end, and blanks behind it. -/
theorem exists_eq_trimEnd_append (cs : List Char) :
    ∃ after, (∀ c ∈ after, Text.isBlank c = true) ∧ cs = Text.trimEnd cs ++ after := by
  refine ⟨(cs.reverse.takeWhile Text.isBlank).reverse, fun c hc => ?_, ?_⟩
  · exact List.mem_takeWhile_imp (List.mem_reverse.mp hc)
  · rw [Text.trimEnd, ← List.reverse_append, List.takeWhile_append_dropWhile, List.reverse_reverse]

/-- What is trimmed does not end with a blank. -/
theorem isBlank_eq_false_of_mem_getLast?_trimEnd (cs : List Char) :
    ∀ c ∈ (Text.trimEnd cs).getLast?, Text.isBlank c = false := by
  intro c hc
  rw [Text.trimEnd, List.getLast?_reverse] at hc
  have hhead := List.head?_dropWhile_not Text.isBlank cs.reverse
  rw [Option.mem_def.mp hc] at hhead
  exact hhead

/-- Blanks behind a text are trimmed. -/
theorem trimEnd_append_of_isBlank {after : List Char} (h : ∀ c ∈ after, Text.isBlank c = true)
    (cs : List Char) : Text.trimEnd (cs ++ after) = Text.trimEnd cs := by
  have hdrop : (after.reverse ++ cs.reverse).dropWhile Text.isBlank =
      cs.reverse.dropWhile Text.isBlank :=
    List.dropWhile_append_of_pos fun c hc => h c (List.mem_reverse.mp hc)
  rw [Text.trimEnd, List.reverse_append, hdrop, ← Text.trimEnd]

/-- A text that does not end with a blank stays as it is. -/
theorem trimEnd_eq_self {cs : List Char} (h : ∀ c ∈ cs.getLast?, Text.isBlank c = false) :
    Text.trimEnd cs = cs := by
  have hdrop : cs.reverse.dropWhile Text.isBlank = cs.reverse := by
    refine List.dropWhile_eq_self_iff.mpr fun hlen => ?_
    refine Bool.eq_false_iff.mp (h _ ?_)
    rw [Option.mem_def, ← List.head?_reverse]
    exact List.head?_eq_getElem? .. ▸ List.getElem?_eq_getElem hlen
  rw [Text.trimEnd, hdrop, List.reverse_reverse]

/-- A blank in front of a body changes nothing about its key. -/
theorem IsKey.cons_of_isBlank {body k : List Char} {c : Char} (h : IsKey body k)
    (hc : Text.isBlank c = true) : IsKey (c :: body) k := by
  cases h with
  | @trimmed before _ after hbefore hne hfirst hlast hafter =>
    have hbefore' : ∀ d ∈ c :: before, Text.isBlank d = true :=
      List.forall_mem_cons.mpr ⟨hc, hbefore⟩
    exact .trimmed hbefore' hne hfirst hlast hafter
  | @lastBlank before last hblank =>
    have hblank' : ∀ d ∈ (c :: before) ++ [last], Text.isBlank d = true :=
      List.forall_mem_cons.mpr ⟨hc, hblank⟩
    exact .lastBlank hblank'

/-- Every body has its key. -/
theorem isKey_key {body : List Char} (h : body ≠ []) : IsKey body (key body) := by
  induction body with
  | nil => exact absurd rfl h
  | cons c run ih =>
    cases hc : Text.isBlank c with
    | true =>
      by_cases hrun : run = []
      · rw [hrun, key_singleton]
        exact @IsKey.lastBlank [] c (by simpa using hc)
      · rw [key_of_isBlank hc hrun]
        exact (ih hrun).cons_of_isBlank hc
    | false =>
      obtain ⟨after, hafter, hrun⟩ := exists_eq_trimEnd_append run
      have htrim : Text.trimEnd (c :: run) = c :: Text.trimEnd run := by
        rw [trimEnd_cons, List.all_cons, hc]
        rfl
      have hlast := isBlank_eq_false_of_mem_getLast?_trimEnd (c :: run)
      rw [key_of_isBlank_eq_false hc]
      rw [htrim] at hlast
      have hkey : IsKey (c :: (Text.trimEnd run ++ after)) (c :: Text.trimEnd run) :=
        @IsKey.trimmed [] (c :: Text.trimEnd run) after (fun d hd => nomatch hd)
          (List.cons_ne_nil c _) (fun d hd => Option.mem_some.mp hd ▸ hc) hlast hafter
      rwa [← hrun] at hkey

/-- A body has one key. -/
theorem IsKey.eq_key {body k : List Char} (h : IsKey body k) : k = key body := by
  cases h with
  | @trimmed before _ after hbefore hne hfirst hlast hafter =>
    induction before with
    | nil =>
      cases k with
      | nil => exact absurd rfl hne
      | cons c core =>
        have hc : Text.isBlank c = false := hfirst c rfl
        have htrim := trimEnd_append_of_isBlank hafter (c :: core)
        rw [trimEnd_eq_self hlast, List.cons_append, trimEnd_cons, List.all_cons, hc] at htrim
        rw [List.nil_append, List.cons_append, key_of_isBlank_eq_false hc]
        exact htrim.symm
    | cons c before ih =>
      obtain ⟨hc, hbefore⟩ := List.forall_mem_cons.mp hbefore
      have hrun : before ++ (k ++ after) ≠ [] := by simp [hne]
      rw [List.cons_append, key_of_isBlank hc hrun]
      exact ih hbefore
  | @lastBlank before last hblank =>
    induction before with
    | nil => exact (key_singleton last).symm
    | cons c before ih =>
      obtain ⟨hc, hblank⟩ := List.forall_mem_cons.mp hblank
      rw [List.cons_append, key_of_isBlank hc (by simp)]
      exact ih hblank

/-! ## Placeholders -/

/-- All characters but braces can stand in a key. -/
theorem isKeyChar_iff {c : Char} : isKeyChar c = true ↔ c ≠ '\x7b' ∧ c ≠ '\x7d' := by
  rw [isKeyChar, Bool.and_eq_true, decide_eq_true_iff, decide_eq_true_iff]

/-- A body is what stands in front of the first closing braces, if it is not empty and has no braces
in it. -/
theorem body?_eq_some_iff {rest body behind : List Char} :
    body? rest = some (body, behind) ↔
      rest = body ++ '\x7d' :: '\x7d' :: behind ∧ body ≠ [] ∧
        ∀ c ∈ body, isKeyChar c = true := by
  constructor
  · intro h
    unfold body? at h
    split at h
    next c body' behind' htake hdrop =>
      cases h
      refine ⟨?_, List.cons_ne_nil c body', fun d hd => List.mem_takeWhile_imp (htake ▸ hd)⟩
      rw [← htake, ← hdrop, List.takeWhile_append_dropWhile]
    next => cases h
  · rintro ⟨rfl, hne, hkey⟩
    unfold body?
    rw [List.takeWhile_append_of_pos hkey, List.dropWhile_append_of_pos hkey]
    cases body with
    | nil => exact absurd rfl hne
    | cons c body =>
      have htake : ('\x7d' :: '\x7d' :: behind).takeWhile isKeyChar = [] := rfl
      rw [htake, List.append_nil]
      rfl

/-- A body that is cut off makes a placeholder. -/
theorem Occurs.of_body? {rest body behind : List Char} (h : body? rest = some (body, behind)) :
    Occurs ('\x7b' :: '\x7b' :: rest) (key body) behind := by
  obtain ⟨rfl, hne, hchars⟩ := body?_eq_some_iff.mp h
  exact .intro hne (fun c hc => isKeyChar_iff.mp (hchars c hc)) (isKey_key hne)

/-- A placeholder has a body that is cut off. -/
theorem Occurs.exists_body? {cs k behind : List Char} (h : Occurs cs k behind) :
    ∃ rest body, cs = '\x7b' :: '\x7b' :: rest ∧ body? rest = some (body, behind) ∧
      k = key body := by
  cases h with
  | @intro body _ _ hne hbraces hkey =>
    have hchars : ∀ c ∈ body, isKeyChar c = true := fun c hc => isKeyChar_iff.mpr (hbraces c hc)
    exact ⟨_, body, rfl, body?_eq_some_iff.mpr ⟨rfl, hne, hchars⟩, hkey.eq_key⟩

/-! ## Matches of the pattern -/

/-- The pattern goes on behind the opening braces. -/
theorem ways_of_braces (rest : List Char) : ways ('\x7b' :: '\x7b' :: rest) = opened rest := by
  have hexactly : Pattern.exactly ['\x7b', '\x7b'] ('\x7b' :: '\x7b' :: rest) =
      [(['\x7b', '\x7b'], rest)] := rfl
  rw [ways, hexactly, List.flatMap_singleton]

/-- The pattern matches only where braces open. -/
theorem exists_of_mem_ways {cs : List Char} {way : List Char × List Char} (h : way ∈ ways cs) :
    ∃ rest, cs = '\x7b' :: '\x7b' :: rest := by
  obtain ⟨start, hstart, -⟩ := List.mem_flatMap.mp h
  rw [Pattern.exactly] at hstart
  split at hstart
  next hbraces =>
    obtain ⟨rest, hrest⟩ := List.isPrefixOf_iff_prefix.mp hbraces
    exact ⟨rest, hrest.symm⟩
  next => cases hstart

/-- The preferred match of the pattern is the placeholder with its key. -/
theorem head?_ways {cs k behind : List Char} :
    (ways cs).head? = some (k, behind) ↔ Occurs cs k behind := by
  constructor
  · intro h
    obtain ⟨rest, rfl⟩ := exists_of_mem_ways (List.mem_of_head? h)
    rw [ways_of_braces, head?_opened] at h
    obtain ⟨⟨body, behind'⟩, hup, hfound⟩ := Option.bind_eq_some_iff.mp h
    split at hfound
    next => cases hfound
    next hne =>
      cases hfound
      obtain ⟨rfl, hchars⟩ := upToClosing?_eq_some_iff.mp hup
      exact .of_body? (body?_eq_some_iff.mpr ⟨rfl, hne, hchars⟩)
  · intro h
    obtain ⟨rest, body, rfl, hbody, rfl⟩ := h.exists_body?
    obtain ⟨hrest, hne, hchars⟩ := body?_eq_some_iff.mp hbody
    have hup := upToClosing?_eq_some_iff.mpr ⟨hrest, hchars⟩
    rw [ways_of_braces, head?_opened, hup, Option.bind_some, if_neg hne]

/-! ## One step of the pass -/

variable (vars : Variables)

/-- What starts no placeholder stays. -/
theorem expand_cons_of_not_occurs {c : Char} {rest : List Char}
    (h : ∀ k behind, ¬ Occurs (c :: rest) k behind) :
    expand vars (c :: rest) = c :: expand vars rest := by
  by_cases hbraces : ∃ rest', c = '\x7b' ∧ rest = '\x7b' :: rest'
  · obtain ⟨rest', rfl, rfl⟩ := hbraces
    refine expand_of_body?_eq_none vars ?_
    cases hbody : body? rest' with
    | none => rfl
    | some found => exact absurd (Occurs.of_body? hbody) (h (key found.1) found.2)
  · exact expand.eq_3 vars c rest fun rest' hc hrest => hbraces ⟨rest', hc, hrest⟩

/-- A placeholder is replaced by the text of what its path leads to, unless that is null. -/
theorem replacement?_eq_some_iff {vars : Variables} {body : List Char} {text : String} :
    replacement? vars body = some text ↔
      ∃ value, vars.path? (String.ofList (key body)) = some value ∧ value.isNull = false ∧
        value.shownText = text := by
  unfold replacement?
  split
  next hpath => simp [hpath]
  next hpath => simp [hpath, Json.isNull]
  next value hnull hpath =>
    have : value.isNull = false := by
      cases value <;> first | rfl | exact absurd rfl hnull
    simp [hpath, this]

/-- A placeholder stays if its path leads to nothing, or to null. -/
theorem replacement?_eq_none_iff {vars : Variables} {body : List Char} :
    replacement? vars body = none ↔
      ∀ value, vars.path? (String.ofList (key body)) = some value → value.isNull = true := by
  rw [Option.eq_none_iff_forall_ne_some]
  simp only [ne_eq, replacement?_eq_some_iff, not_exists, not_and]
  constructor
  · intro h value hvalue
    by_contra hnull
    exact h _ value hvalue (Bool.eq_false_iff.mpr hnull) rfl
  · intro h text value hvalue hnull
    exact absurd (h value hvalue) (Bool.eq_false_iff.mp hnull)

/-! ## The whole pass -/

variable {vars}

/-- Nothing else comes out of a single pass. -/
theorem SinglePass.eq_expand {cs text : List Char} (h : SinglePass vars cs text) :
    text = expand vars cs := by
  induction h with
  | done => rw [expand]
  | plain h _ ih => rw [expand_cons_of_not_occurs vars h, ih]
  | replaced h hvalue hnull _ ih =>
    obtain ⟨rest, body, rfl, hbody, rfl⟩ := h.exists_body?
    have htext := replacement?_eq_some_iff.mpr ⟨_, hvalue, hnull, rfl⟩
    rw [expand_of_body?_eq_some vars hbody, htext, ih]
  | @kept placeholder _ behind _ h hnone _ ih =>
    obtain ⟨rest, body, hcs, hbody, rfl⟩ := h.exists_body?
    have hplaceholder : placeholder = '\x7b' :: '\x7b' :: body ++ ['\x7d', '\x7d'] := by
      obtain ⟨rfl, -⟩ := body?_eq_some_iff.mp hbody
      exact List.append_cancel_right (by simpa using hcs)
    rw [hcs, expand_of_body?_eq_some vars hbody, replacement?_eq_none_iff.mpr hnone, ih,
      hplaceholder]

variable (vars)

/-- The expansion is one pass from left to right. -/
theorem singlePass_expand (cs : List Char) : SinglePass vars cs (expand vars cs) := by
  fun_induction expand vars cs with
  | case1 => exact .done
  | case2 rest hnone ih =>
    refine .plain (fun k behind h => ?_) ih
    obtain ⟨rest', body, heq, hbody, -⟩ := h.exists_body?
    cases heq
    cases hnone.symm.trans hbody
  | case3 rest body behind hbody _ text htext ih =>
    obtain ⟨value, hvalue, hnull, rfl⟩ := replacement?_eq_some_iff.mp htext
    exact .replaced (.of_body? hbody) hvalue hnull ih
  | case4 rest body behind hbody _ hnone ih =>
    have hoccurs := Occurs.of_body? hbody
    have hcs : '\x7b' :: '\x7b' :: rest =
        ('\x7b' :: '\x7b' :: body ++ ['\x7d', '\x7d']) ++ behind := by
      obtain ⟨rfl, -⟩ := body?_eq_some_iff.mp hbody
      simp
    rw [hcs] at hoccurs ⊢
    have hkept := SinglePass.kept hoccurs (replacement?_eq_none_iff.mp hnone) ih
    simpa using hkept
  | case5 c rest hc ih =>
    refine .plain (fun k behind h => ?_) ih
    obtain ⟨rest', body, heq, -⟩ := h.exists_body?
    cases heq
    exact hc rest' rfl rfl

/-- A template becomes what a single pass makes of it, and its placeholders are the matches of the
pattern. -/
theorem interpolate_eq_iff (template text : String) :
    (interpolate template vars = text ↔ SinglePass vars template.toList text.toList) ∧
      ∀ cs k behind, (ways cs).head? = some (k, behind) ↔ Occurs cs k behind := by
  refine ⟨⟨?_, fun h => ?_⟩, fun cs k behind => head?_ways⟩
  · rintro rfl
    rw [interpolate, String.toList_ofList]
    exact singlePass_expand vars template.toList
  · rw [interpolate, ← h.eq_expand, String.ofList_toList]

/-- What was put in is not looked at again, and a key that leads nowhere stays with its blanks. -/
example : interpolate "{{ x }} {{ y }}" [("x", .string "{{x}}")] = "{{x}} {{ y }}" := by
  decide +kernel

end AgentFlow.Template

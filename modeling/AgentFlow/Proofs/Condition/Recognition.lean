import AgentFlow.Condition
import AgentFlow.Proofs.Condition.Wording

/-!
# Which texts are shorthands

A shorthand is recognised exactly in the texts that say one, in one of five forms
(`Shorthand.ReadsAs`). The forms exclude one another by their keywords, but a keyword may also be
the name of a variable, and so there is one kind of text that can be read twice: two spellings of
`exists`, like `exists EXISTS`. Either of them can be the path, and since letter case matters for
variables, these are two different questions. The recogniser takes the first word for the path
(`Shorthand.recognize?_exact`).
-/

namespace AgentFlow

namespace Shorthand

/-- What a text can be read as. -/
inductive ReadsAs (cs : List Char) : Shorthand → Prop where
  | existsBehind {path word : List Char} (hpath : IsDotted path) (hword : Spells "exists" word)
      (htext : Says [path, word] cs) : ReadsAs cs (.present (String.ofList path))
  | existsBefore {path word : List Char} (hpath : IsDotted path) (hword : Spells "exists" word)
      (htext : Says [word, path] cs) : ReadsAs cs (.present (String.ofList path))
  | isEmpty {path first second : List Char} (hpath : IsDotted path) (hfirst : Spells "is" first)
      (hsecond : Spells "empty" second) (htext : Says [path, first, second] cs) :
    ReadsAs cs (.empty (String.ofList path) false)
  | isNotEmpty {path first second third : List Char} (hpath : IsDotted path)
      (hfirst : Spells "is" first) (hsecond : Spells "not" second) (hthird : Spells "empty" third)
      (htext : Says [path, first, second, third] cs) :
    ReadsAs cs (.empty (String.ofList path) true)
  | contains {path word quoted text : List Char} (hpath : IsDotted path)
      (hword : Spells "contains" word) (hquoted : Quotes text quoted)
      (htext : Says [path, word, quoted] cs) :
    ReadsAs cs (.contains (String.ofList path) (String.ofList text))

/-- A text that asks twice whether something exists: two spellings of the word, of which each can be
the name of the variable. -/
structure SaysExistsTwice (cs first second : List Char) : Prop where
  text : Says [first, second] cs
  first : Spells "exists" first
  second : Spells "exists" second

/-- A condition asks what a shorthand says: its text can be read as the shorthand, and if it asks
twice whether something exists, then the first word is the path. -/
structure Asks (condition : String) (shorthand : Shorthand) : Prop where
  reads : ReadsAs condition.toList shorthand
  first : ∀ first second, SaysExistsTwice condition.toList first second →
    shorthand = .present (String.ofList first)

variable {cs : List Char} {shorthand other : Shorthand}

theorem Spells.isWord {keyword : String} {word : List Char} (h : Spells keyword word)
    (hletters : keyword.toList.all Char.isLower = true := by decide)
    (hne : keyword.toList ≠ [] := by decide) : IsWord word :=
  (h.isDotted hletters hne).isWord

/-- A word spells one keyword only. -/
theorem Spells.eq {keyword other : String} {word : List Char} (h : Spells keyword word)
    (h' : Spells other word) (hletters : keyword.toList.all Char.isLower = true := by decide)
    (hletters' : other.toList.all Char.isLower = true := by decide) : keyword = other := by
  have hword := of_decide_eq_true ((isKeyword_iff_spells hletters).mpr h)
  have hword' := of_decide_eq_true ((isKeyword_iff_spells hletters').mpr h')
  exact String.toList_inj.mp (hword.symm.trans hword')

/-- A word that spells a keyword is taken for it. -/
theorem isKeyword_of_spells {keyword : String} {word : List Char} (h : Spells keyword word)
    (hletters : keyword.toList.all Char.isLower = true := by decide) :
    isKeyword keyword word = true :=
  (isKeyword_iff_spells hletters).mpr h

/-- A word that spells a keyword is taken for no other one. -/
theorem isKeyword_eq_false {keyword other : String} {word : List Char} (h : Spells other word)
    (hne : keyword ≠ other := by decide)
    (hletters : keyword.toList.all Char.isLower = true := by decide)
    (hletters' : other.toList.all Char.isLower = true := by decide) :
    isKeyword keyword word = false := by
  refine Bool.eq_false_iff.mpr fun hkeyword => hne ?_
  exact ((isKeyword_iff_spells hletters).mp hkeyword).eq h hletters hletters'

/-! ## What is recognised says it -/

/-- What is recognised by its words reads as that. The patterns are tried in turn, and each that is
taken has one reading. -/
theorem readsAs_of_ofWords? (h : ofWords? (Text.words cs) = some shorthand) :
    ReadsAs cs shorthand := by
  unfold ofWords? at h
  split at h
  next a b heq =>
    split at h
    next hboth =>
      cases h
      obtain ⟨hpath, hword⟩ := Bool.and_eq_true_iff.mp hboth
      rw [isPath_iff_isDotted] at hpath
      rw [isKeyword_iff_spells (by decide)] at hword
      refine .existsBehind hpath hword ((words_eq_iff ?_).mp heq)
      simp [hpath.isWord, hword.isWord]
    split at h
    next hboth =>
      cases h
      obtain ⟨hword, hpath⟩ := Bool.and_eq_true_iff.mp hboth
      rw [isPath_iff_isDotted] at hpath
      rw [isKeyword_iff_spells (by decide)] at hword
      refine .existsBefore hpath hword ((words_eq_iff ?_).mp heq)
      simp [hpath.isWord, hword.isWord]
    next => cases h
  next a b c heq =>
    split at h
    next hall =>
      cases h
      simp only [Bool.and_eq_true] at hall
      obtain ⟨⟨hpath, hfirst⟩, hsecond⟩ := hall
      rw [isPath_iff_isDotted] at hpath
      rw [isKeyword_iff_spells (by decide)] at hfirst hsecond
      refine .isEmpty hpath hfirst hsecond ((words_eq_iff ?_).mp heq)
      simp [hpath.isWord, hfirst.isWord, hsecond.isWord]
    next => cases h
  next a b c d heq =>
    split at h
    next hall =>
      cases h
      simp only [Bool.and_eq_true] at hall
      obtain ⟨⟨⟨hpath, hfirst⟩, hsecond⟩, hthird⟩ := hall
      rw [isPath_iff_isDotted] at hpath
      rw [isKeyword_iff_spells (by decide)] at hfirst hsecond hthird
      refine .isNotEmpty hpath hfirst hsecond hthird ((words_eq_iff ?_).mp heq)
      simp [hpath.isWord, hfirst.isWord, hsecond.isWord, hthird.isWord]
    next => cases h
  next => cases h

/-- What is recognised as a search reads as that. -/
theorem readsAs_of_containing? (h : containing? cs = some shorthand) : ReadsAs cs shorthand := by
  have hcuts := cuts_splitWord cs
  have hnext := cuts_splitWord (splitWord cs).2
  unfold containing? at h
  split at h
  next path rest hfirst =>
    rw [hfirst] at hcuts hnext
    split at h
    next word behind hsecond =>
      rw [hsecond] at hnext
      split at h
      next hboth =>
        obtain ⟨hpath, hword⟩ := Bool.and_eq_true_iff.mp hboth
        obtain ⟨text, hneedle, rfl⟩ := Option.map_eq_some_iff.mp h
        obtain ⟨quoted, hquoted, hbehind⟩ := needle?_eq_some_iff.mp hneedle
        rw [isPath_iff_isDotted] at hpath
        rw [isKeyword_iff_spells (by decide)] at hword
        exact .contains hpath hword hquoted
          ((hbehind.of_cuts hnext hquoted.exists_head?).of_cuts hcuts hword.isWord.exists_head?)
      next => cases h

/-- What is recognised reads as that. -/
theorem readsAs_of_recognize? {condition : String} (h : recognize? condition = some shorthand) :
    ReadsAs condition.toList shorthand := by
  rw [recognize?, Option.or_eq_some_iff] at h
  rcases h with hwords | ⟨-, hcontains⟩
  · exact readsAs_of_ofWords? hwords
  · exact readsAs_of_containing? hcontains

/-! ## What says a shorthand is recognised -/

/-- A text that says `exists` twice has these two words. -/
theorem SaysExistsTwice.words_eq {first second : List Char}
    (h : SaysExistsTwice cs first second) : Text.words cs = [first, second] :=
  (words_eq_iff (by simp [h.first.isWord, h.second.isWord])).mpr h.text

/-- Of two spellings of `exists` the first is the path. -/
theorem SaysExistsTwice.recognize?_eq {condition : String} {first second : List Char}
    (h : SaysExistsTwice condition.toList first second) :
    recognize? condition = some (.present (String.ofList first)) := by
  have hpath := isPath_iff_isDotted.mpr (h.first.isDotted (by decide) (by decide))
  simp [recognize?, h.words_eq, ofWords?, hpath, isKeyword_of_spells h.second]

/-- With `contains` and more behind it, there are no words that make a shorthand by themselves. -/
theorem ofWords?_of_contains {path word third : List Char} (hword : Spells "contains" word)
    (more : List (List Char)) : ofWords? (path :: word :: third :: more) = none := by
  have hnot : isKeyword "is" word = false := isKeyword_eq_false hword
  cases more with
  | nil => simp [ofWords?, hnot]
  | cons fourth more =>
    cases more with
    | nil => simp [ofWords?, hnot]
    | cons fifth more => rfl

/-- Unless the text asks twice, what it says is recognised. -/
theorem ReadsAs.recognize?_eq {condition : String} (h : ReadsAs condition.toList shorthand)
    (htwice : ∀ first second, ¬ SaysExistsTwice condition.toList first second) :
    recognize? condition = some shorthand := by
  cases h with
  | existsBehind hpath hword htext =>
    have hwords := (words_eq_iff (by simp [hpath.isWord, hword.isWord])).mpr htext
    simp [recognize?, hwords, ofWords?, isPath_iff_isDotted.mpr hpath, isKeyword_of_spells hword]
  | @existsBefore path word hpath hword htext =>
    have hwords := (words_eq_iff (by simp [hpath.isWord, hword.isWord])).mpr htext
    have hnot : isKeyword "exists" path = false := by
      refine Bool.eq_false_iff.mpr fun hkeyword => htwice word path ⟨htext, hword, ?_⟩
      exact (isKeyword_iff_spells (by decide)).mp hkeyword
    simp [recognize?, hwords, ofWords?, isPath_iff_isDotted.mpr hpath, isKeyword_of_spells hword,
      hnot]
  | isEmpty hpath hfirst hsecond htext =>
    have hwords := (words_eq_iff
      (by simp [hpath.isWord, hfirst.isWord, hsecond.isWord])).mpr htext
    simp [recognize?, hwords, ofWords?, isPath_iff_isDotted.mpr hpath, isKeyword_of_spells hfirst,
      isKeyword_of_spells hsecond]
  | isNotEmpty hpath hfirst hsecond hthird htext =>
    have hwords := (words_eq_iff
      (by simp [hpath.isWord, hfirst.isWord, hsecond.isWord, hthird.isWord])).mpr htext
    simp [recognize?, hwords, ofWords?, isPath_iff_isDotted.mpr hpath, isKeyword_of_spells hfirst,
      isKeyword_of_spells hsecond, isKeyword_of_spells hthird]
  | @contains path word quoted text hpath hword hquoted htext =>
    obtain ⟨rest, hcuts, htext⟩ := htext.exists_cuts hpath.isWord
    obtain ⟨behind, hnext, htext⟩ := htext.exists_cuts hword.isWord
    have hneedle := needle?_eq_some_iff.mpr ⟨quoted, hquoted, htext⟩
    have hcontains : containing? condition.toList =
        some (.contains (String.ofList path) (String.ofList text)) := by
      simp [containing?, hcuts.splitWord_eq hpath.isWord, hnext.splitWord_eq hword.isWord,
        isPath_iff_isDotted.mpr hpath, isKeyword_of_spells hword, hneedle]
    -- The patterns by words come first, so it has to be known that none of them fits.
    have hwords : ofWords? (Text.words condition.toList) = none := by
      rw [hcuts.words_eq hpath.isWord.ne_nil, hnext.words_eq hword.isWord.ne_nil]
      cases hbehind : Text.words behind with
      | nil =>
        obtain ⟨c, hc, hsolid⟩ := hquoted.exists_head?
        rw [blank_of_words hbehind c (htext.mem (List.mem_of_mem_head? hc))] at hsolid
        cases hsolid
      | cons third more => exact ofWords?_of_contains hword more
    rw [recognize?, hwords, hcontains]
    rfl

/-- What can be read twice can be read with either word as the path, and in no other way. -/
theorem ReadsAs.eq_of_twice {first second : List Char} (h : ReadsAs cs shorthand)
    (htwice : SaysExistsTwice cs first second) :
    shorthand = .present (String.ofList first) ∨ shorthand = .present (String.ofList second) := by
  have hwords := htwice.words_eq
  cases h with
  | existsBehind hpath hword htext =>
    rw [(words_eq_iff (by simp [hpath.isWord, hword.isWord])).mpr htext] at hwords
    cases hwords
    exact .inl rfl
  | existsBefore hpath hword htext =>
    rw [(words_eq_iff (by simp [hpath.isWord, hword.isWord])).mpr htext] at hwords
    cases hwords
    exact .inr rfl
  | isEmpty hpath hfirst hsecond htext =>
    rw [(words_eq_iff (by simp [hpath.isWord, hfirst.isWord, hsecond.isWord])).mpr htext] at hwords
    cases hwords
  | isNotEmpty hpath hfirst hsecond hthird htext =>
    rw [(words_eq_iff (by
      simp [hpath.isWord, hfirst.isWord, hsecond.isWord, hthird.isWord])).mpr htext] at hwords
    cases hwords
  | contains hpath hword hquoted htext =>
    -- The second word would have to be `contains` as well.
    obtain ⟨rest, hcuts, htext⟩ := htext.exists_cuts hpath.isWord
    obtain ⟨behind, hnext, -⟩ := htext.exists_cuts hword.isWord
    rw [hcuts.words_eq hpath.isWord.ne_nil, hnext.words_eq hword.isWord.ne_nil] at hwords
    obtain ⟨rfl, -⟩ := List.cons_eq_cons.mp (List.cons_eq_cons.mp hwords).2
    exact absurd (hword.eq htwice.second) (by decide)

/-! ## The language -/

/-- A text is recognised as a shorthand exactly if it asks for it. -/
theorem recognize?_eq_some_iff {condition : String} :
    recognize? condition = some shorthand ↔ Asks condition shorthand := by
  constructor
  · intro h
    refine ⟨readsAs_of_recognize? h, fun first second htwice => ?_⟩
    exact Option.some.inj (h.symm.trans htwice.recognize?_eq)
  · intro h
    by_cases htwice : ∃ first second, SaysExistsTwice condition.toList first second
    · obtain ⟨first, second, htwice⟩ := htwice
      rw [htwice.recognize?_eq, h.first first second htwice]
    · exact h.reads.recognize?_eq fun first second h => htwice ⟨first, second, h⟩

/-- What can be read as a shorthand asks for something, if not for the same. -/
theorem ReadsAs.exists_asks {condition : String} (h : ReadsAs condition.toList shorthand) :
    ∃ asked, Asks condition asked := by
  by_cases htwice : ∃ first second, SaysExistsTwice condition.toList first second
  · obtain ⟨first, second, htwice⟩ := htwice
    exact ⟨_, recognize?_eq_some_iff.mp htwice.recognize?_eq⟩
  · exact ⟨shorthand, h, fun first second h => absurd ⟨first, second, h⟩ htwice⟩

/-- **The shorthands are recognised exactly in the texts that say one.** A text is recognised as a
shorthand if it can be read as this one, and of two spellings of `exists` the first one is the path;
and nothing is recognised in a text that cannot be read as a shorthand. Only two spellings of
`exists` that differ can be read in two ways. -/
theorem recognize?_exact (condition : String) :
    (∀ shorthand, recognize? condition = some shorthand ↔ Asks condition shorthand) ∧
    (recognize? condition = none ↔ ∀ shorthand, ¬ ReadsAs condition.toList shorthand) ∧
    ∀ shorthand other, ReadsAs condition.toList shorthand → ReadsAs condition.toList other →
      shorthand ≠ other →
        ∃ first second, first ≠ second ∧ SaysExistsTwice condition.toList first second := by
  refine ⟨fun shorthand => recognize?_eq_some_iff, ⟨fun hnone shorthand h => ?_, fun hnone => ?_⟩,
    fun shorthand other h h' hne => ?_⟩
  · obtain ⟨asked, hasked⟩ := h.exists_asks
    rw [recognize?_eq_some_iff.mpr hasked] at hnone
    cases hnone
  · refine Option.eq_none_iff_forall_ne_some.mpr fun shorthand h => ?_
    exact hnone shorthand (readsAs_of_recognize? h)
  · by_cases htwice : ∃ first second, SaysExistsTwice condition.toList first second
    · obtain ⟨first, second, htwice⟩ := htwice
      refine ⟨first, second, ?_, htwice⟩
      rintro rfl
      have heq := (h.eq_of_twice htwice).elim id id
      exact hne (heq.trans ((h'.eq_of_twice htwice).elim id id).symm)
    · have hnone : ∀ first second, ¬ SaysExistsTwice condition.toList first second :=
        fun first second h => htwice ⟨first, second, h⟩
      have heq := (h.recognize?_eq hnone).symm.trans (h'.recognize?_eq hnone)
      exact absurd (Option.some.inj heq) hne

/-- What asks twice can be read with either word as the path. -/
theorem SaysExistsTwice.readsAs {first second : List Char} (h : SaysExistsTwice cs first second) :
    ReadsAs cs (.present (String.ofList first)) ∧ ReadsAs cs (.present (String.ofList second)) :=
  ⟨.existsBehind (h.first.isDotted (by decide) (by decide)) h.second h.text,
    .existsBefore (h.second.isDotted (by decide) (by decide)) h.first h.text⟩

/-- Two spellings of `exists` that differ. -/
theorem saysExistsTwice_of_capitals :
    SaysExistsTwice "exists EXISTS".toList "exists".toList "EXISTS".toList where
  text := .more (List.forall_mem_nil _) (List.cons_ne_nil ' ' [])
    (List.forall_mem_singleton.mpr rfl) (.last (List.forall_mem_nil _) (List.forall_mem_nil _))
  first := (isKeyword_iff_spells (by decide)).mp (by decide)
  second := (isKeyword_iff_spells (by decide)).mp (by decide)

/-- The text can be read as a question about either variable, but is recognised as one about the
first. -/
theorem recognize?_of_capitals :
    ReadsAs "exists EXISTS".toList (.present "exists") ∧
      ReadsAs "exists EXISTS".toList (.present "EXISTS") ∧
      recognize? "exists EXISTS" = some (.present "exists") ∧
      recognize? "exists EXISTS" ≠ some (.present "EXISTS") ∧
      Condition.holds "exists EXISTS" [("EXISTS", .ofNat 1)] = false := by
  have htwice := saysExistsTwice_of_capitals
  obtain ⟨hfirst, hsecond⟩ := htwice.readsAs
  have hrecognize := htwice.recognize?_eq
  refine ⟨hfirst, hsecond, hrecognize, ?_, by decide +kernel⟩
  rw [hrecognize]
  decide

/-- A variable that is called like a keyword, a long s, and blanks outside of ASCII; and the one
ambiguity. -/
theorem recognize?_exact_of_keywords :
    ReadsAs "\u2003is I\u017f\u00a0Not empty\n".toList (.empty "is" true) ∧
      recognize? "\u2003is I\u017f\u00a0Not empty\n" = some (.empty "is" true) ∧
      ∃ first second, first ≠ second ∧ SaysExistsTwice "exists EXISTS".toList first second := by
  have hreads : ReadsAs "\u2003is I\u017f\u00a0Not empty\n".toList (.empty "is" true) := by
    have hpath : IsDotted "is".toList := isPath_iff_isDotted.mp (by decide)
    have hfirst : Spells "is" "I\u017f".toList := (isKeyword_iff_spells (by decide)).mp (by decide)
    have hsecond : Spells "not" "Not".toList := (isKeyword_iff_spells (by decide)).mp (by decide)
    have hthird : Spells "empty" "empty".toList :=
      (isKeyword_iff_spells (by decide)).mp (by decide)
    refine .isNotEmpty hpath hfirst hsecond hthird ((words_eq_iff ?_).mp (by decide))
    simp only [List.forall_mem_cons]
    exact ⟨hpath.isWord, hfirst.isWord, hsecond.isWord, hthird.isWord, List.forall_mem_nil _⟩
  obtain ⟨hfirst, hsecond⟩ := saysExistsTwice_of_capitals.readsAs
  obtain ⟨hsome, -, -⟩ := recognize?_exact "\u2003is I\u017f\u00a0Not empty\n"
  obtain ⟨-, -, htwo⟩ := recognize?_exact "exists EXISTS"
  refine ⟨hreads, (hsome _).mpr ⟨hreads, fun first second htwice => ?_⟩,
    htwo _ _ hfirst hsecond (by decide)⟩
  rcases hreads.eq_of_twice htwice with heq | heq <;> cases heq

end Shorthand

end AgentFlow

import AgentFlow.Proofs.Condition.Words
import AgentFlow.Proofs.Expr.PathResolution
import Mathlib.Data.List.Forall2

/-!
# How shorthands are worded

The language of the condition shorthands, said without a recogniser: words that a text says one
after the other, with blanks between them (`Shorthand.Says`), keywords under case folding
(`Shorthand.Spells`), dotted paths (`Shorthand.IsDotted`), and texts in quotes. Each comes with what
decides it: `Text.words` cuts the words that are said, `Shorthand.isKeyword` takes the spellings of
a keyword for it, and `Shorthand.isPath` the dotted paths for paths.

A text in quotes may hold blanks, and counts as one word all the same. So where there is one, words
are cut off one by one (`Shorthand.Says.exists_cuts`).
-/

namespace AgentFlow

/-- Pieces without marks are the pieces of the text that they make with marks in between. -/
theorem Text.pieces_append_flatMap {mark : Char} {first : List Char} {more : List (List Char)}
    (hfirst : mark ∉ first) (hmore : ∀ piece ∈ more, mark ∉ piece) :
    pieces mark (first ++ more.flatMap fun piece => mark :: piece) = first :: more := by
  induction more generalizing first with
  | nil => rw [List.flatMap_nil, List.append_nil, pieces_of_not_mem hfirst]
  | cons piece more ih =>
    obtain ⟨hpiece, hmore⟩ := List.forall_mem_cons.mp hmore
    rw [List.flatMap_cons, List.cons_append, pieces_append_mark hfirst, ih hpiece hmore]

namespace Shorthand

/-! ## Letters and keywords -/

/-- The characters that are the same letter under simple case folding: the small letter of ASCII,
its capital, and for two of the letters one that is not in ASCII. -/
inductive IsCaseOf (letter : Char) : Char → Prop where
  | small : IsCaseOf letter letter
  | capital : IsCaseOf letter letter.toUpper
  | longS (h : letter = 's') : IsCaseOf letter '\u017f'
  | kelvinSign (h : letter = 'k') : IsCaseOf letter '\u212a'

/-- A word is a keyword, letter case aside. -/
def Spells (keyword : String) (word : List Char) : Prop :=
  List.Forall₂ IsCaseOf keyword.toList word

/-- Lower case adds 32 to the capitals of ASCII. -/
theorem toNat_toLower (c : Char) :
    c.toLower.toNat = if 65 ≤ c.toNat ∧ c.toNat ≤ 90 then c.toNat + 32 else c.toNat := by
  have hval : c.toLower.val =
      if 'A'.val ≤ c.val ∧ c.val ≤ 'Z'.val then c.val + ('a'.val - 'A'.val) else c.val :=
    apply_dite Char.val _ _ _
  have hrange : ('A'.val ≤ c.val ∧ c.val ≤ 'Z'.val) ↔ 65 ≤ c.toNat ∧ c.toNat ≤ 90 := by
    rw [UInt32.le_iff_toNat_le, UInt32.le_iff_toNat_le]
    rfl
  have hadd (h : c.toNat ≤ 90) : (c.val + ('a'.val - 'A'.val)).toNat = c.toNat + 32 := by
    rw [UInt32.toNat_add]
    change (c.toNat + 32) % 2 ^ 32 = c.toNat + 32
    omega
  rw [Char.toNat, hval]
  simp only [hrange]
  split
  next h => exact hadd h.2
  next => rfl

theorem isLower_iff {c : Char} : c.isLower = true ↔ 97 ≤ c.toNat ∧ c.toNat ≤ 122 := by
  have hlower : c.isLower = (decide ('a'.val ≤ c.val) && decide (c.val ≤ 'z'.val)) := rfl
  rw [hlower, Bool.and_eq_true, decide_eq_true_iff, decide_eq_true_iff, UInt32.le_iff_toNat_le,
    UInt32.le_iff_toNat_le]
  rfl

theorem isAlpha_iff {c : Char} :
    c.isAlpha = true ↔ (65 ≤ c.toNat ∧ c.toNat ≤ 90) ∨ 97 ≤ c.toNat ∧ c.toNat ≤ 122 := by
  have halpha : c.isAlpha = (decide ('A'.val ≤ c.val ∧ c.val ≤ 'Z'.val) || c.isLower) := rfl
  rw [halpha, Bool.or_eq_true, isLower_iff, decide_eq_true_iff, UInt32.le_iff_toNat_le,
    UInt32.le_iff_toNat_le]
  rfl

theorem isAlpha_of_isLower {c : Char} (h : c.isLower = true) : c.isAlpha = true :=
  isAlpha_iff.mpr (.inr (isLower_iff.mp h))

/-- Upper case takes 32 from the small letters of ASCII. -/
theorem toNat_toUpper {c : Char} (h : c.isLower = true) : c.toUpper.toNat = c.toNat - 32 := by
  have hval : c.toUpper.val =
      if 'a'.val ≤ c.val ∧ c.val ≤ 'z'.val then c.val + ('A'.val - 'a'.val) else c.val :=
    apply_dite Char.val _ _ _
  have hshift : ('A'.val - 'a'.val).toNat = 4294967264 := by decide
  rw [isLower_iff] at h
  have hrange : 'a'.val ≤ c.val ∧ c.val ≤ 'z'.val := by
    rw [UInt32.le_iff_toNat_le, UInt32.le_iff_toNat_le]
    exact h
  rw [Char.toNat, hval, if_pos hrange, UInt32.toNat_add, hshift, Char.toNat_val]
  omega

/-- In lower case there are two characters for a small letter. -/
theorem toLower_eq_iff {letter c : Char} (hletter : letter.isLower = true) :
    c.toLower = letter ↔ c = letter ∨ c = letter.toUpper := by
  rw [← Char.toNat_inj, ← Char.toNat_inj, ← Char.toNat_inj, toNat_toLower, toNat_toUpper hletter]
  rw [isLower_iff] at hletter
  split <;> omega

/-- A foreign letter is neither a small letter of ASCII nor a capital one. -/
theorem IsForeign.ne_case {letter c : Char} (hletter : letter.isLower = true) (h : IsForeign c) :
    c ≠ letter ∧ c ≠ letter.toUpper := by
  refine not_or.mp fun hcase => ?_
  have heq := (toLower_eq_iff hletter).mpr hcase
  rcases h with rfl | rfl
  · cases heq
    exact absurd hletter (by decide)
  · cases heq
    exact absurd hletter (by decide)

/-- A character folds to a small letter if it is a case of it. -/
theorem fold_eq_iff {letter c : Char} (hletter : letter.isLower = true) :
    fold c = letter ↔ IsCaseOf letter c := by
  constructor
  · intro h
    by_cases hforeign : IsForeign c
    · rcases hforeign with rfl | rfl
      · exact .longS h.symm
      · exact .kelvinSign h.symm
    · rw [fold_of_not_isForeign hforeign, toLower_eq_iff hletter] at h
      rcases h with rfl | rfl
      · exact .small
      · exact .capital
  · intro h
    have hplain (hcase : c = letter ∨ c = letter.toUpper) : fold c = letter := by
      have hforeign : ¬ IsForeign c := fun hforeign => by
        obtain ⟨hsmall, hcapital⟩ := hforeign.ne_case hletter
        exact hcase.elim hsmall hcapital
      rw [fold_of_not_isForeign hforeign, toLower_eq_iff hletter]
      exact hcase
    cases h with
    | small => exact hplain (.inl rfl)
    | capital => exact hplain (.inr rfl)
    | longS h => exact h.symm
    | kelvinSign h => exact h.symm

/-- A word is taken for a keyword exactly if it spells it. -/
theorem isKeyword_iff_spells {keyword : String} {word : List Char}
    (hletters : keyword.toList.all Char.isLower = true) :
    isKeyword keyword word = true ↔ Spells keyword word := by
  rw [isKeyword, decide_eq_true_iff, Spells]
  generalize keyword.toList = letters at hletters
  induction letters generalizing word with
  | nil => rw [List.map_eq_nil_iff, List.forall₂_nil_left_iff]
  | cons letter letters ih =>
    obtain ⟨hletter, hletters⟩ := Bool.and_eq_true_iff.mp hletters
    cases word with
    | nil => exact iff_of_false nofun nofun
    | cons c word =>
      rw [List.map_cons, List.cons_eq_cons, List.forall₂_cons, fold_eq_iff hletter, ih hletters]

/-! ## Paths -/

/-- A letter of ASCII under simple case folding. -/
def IsLetter (c : Char) : Prop :=
  ∃ letter : Char, letter.isLower = true ∧ IsCaseOf letter c

/-- The characters that the root of a path may start with. -/
def StartsRoot (c : Char) : Prop :=
  IsLetter c ∨ c = '_' ∨ c = '$'

/-- The characters of segments. -/
def InSegment (c : Char) : Prop :=
  StartsRoot c ∨ c.isDigit = true

/-- A path: a root that does not start with a digit, and further segments behind dots. -/
inductive IsDotted : List Char → Prop where
  | path {c : Char} {root : List Char} {more : List (List Char)} (hstart : StartsRoot c)
      (hroot : ∀ d ∈ root, InSegment d)
      (hmore : ∀ segment ∈ more, segment ≠ [] ∧ ∀ d ∈ segment, InSegment d) :
      IsDotted (c :: root ++ more.flatMap fun segment => '.' :: segment)

theorem isLower_toLower {c : Char} (h : c.toLower.isAlpha = true) : c.toLower.isLower = true := by
  rw [isAlpha_iff, toNat_toLower] at h
  rw [isLower_iff, toNat_toLower]
  split at h <;> split <;> omega

/-- Under case folding, the letters are those that fold to one of ASCII. -/
theorem isLetter_iff {c : Char} : IsLetter c ↔ (fold c).isAlpha = true := by
  constructor
  · rintro ⟨letter, hletter, hcase⟩
    rw [(fold_eq_iff hletter).mpr hcase]
    exact isAlpha_of_isLower hletter
  · intro h
    have hlower : (fold c).isLower = true := by
      by_cases hforeign : IsForeign c
      · rcases hforeign with rfl | rfl <;> rfl
      · rw [fold_of_not_isForeign hforeign] at h ⊢
        exact isLower_toLower h
    exact ⟨fold c, hlower, (fold_eq_iff hlower).mp rfl⟩

/-- The recogniser starts paths with the characters that roots start with. -/
theorem startsRoot_iff {c : Char} : StartsRoot c ↔ startsPath c = true := by
  rw [StartsRoot, isLetter_iff, startsPath, Bool.or_eq_true, Bool.or_eq_true, or_assoc,
    decide_eq_true_iff, decide_eq_true_iff]

/-- The recogniser goes on with a path as far as its segments go. -/
theorem inSegment_iff {c : Char} : InSegment c ↔ continuesPath c = true := by
  rw [InSegment, startsRoot_iff, continuesPath, Bool.or_eq_true]

theorem not_inSegment_dot : ¬ InSegment '.' := by
  rw [inSegment_iff]
  decide

/-- The recogniser takes the dotted paths for paths. -/
theorem isPath_iff_isDotted {path : List Char} : isPath path = true ↔ IsDotted path := by
  constructor
  · intro h
    obtain ⟨c, root, more, rfl, hc, hroot, hmore⟩ := exists_segments_of_isPath h
    exact .path (startsRoot_iff.mpr hc) (fun d hd => inSegment_iff.mpr (hroot d hd))
      fun segment hsegment => (hmore segment hsegment).imp_right fun hall d hd =>
        inSegment_iff.mpr (hall d hd)
  · rintro ⟨hstart, hroot, hmore⟩
    rename_i c root more
    have hfirst : '.' ∉ c :: root := fun hmem =>
      not_inSegment_dot (List.forall_mem_cons.mpr ⟨.inl hstart, hroot⟩ '.' hmem)
    have hothers : ∀ segment ∈ more, '.' ∉ segment := fun segment hsegment hmem =>
      not_inSegment_dot ((hmore segment hsegment).2 '.' hmem)
    simp only [isPath, Text.pieces_append_flatMap hfirst hothers, Bool.and_eq_true,
      List.all_eq_true, Bool.not_eq_true', List.isEmpty_eq_false_iff]
    exact ⟨⟨startsRoot_iff.mp hstart, fun d hd => inSegment_iff.mp (hroot d hd)⟩,
      fun segment hsegment => (hmore segment hsegment).imp_right fun hall d hd =>
        inSegment_iff.mp (hall d hd)⟩

/-! ## Words -/

/-- A word that can be told from its surroundings: it is not empty, and there are no blanks in
it. -/
structure IsWord (word : List Char) : Prop where
  ne_nil : word ≠ []
  solid : ∀ c ∈ word, Text.isBlank c = false

/-- No character of a segment is blank. -/
theorem InSegment.isBlank_eq_false {c : Char} (h : InSegment c) : Text.isBlank c = false := by
  refine Bool.eq_false_iff.mpr fun hblank => ?_
  rw [inSegment_iff, continuesPath_of_isBlank hblank] at h
  cases h

/-- A dotted path is one word. -/
theorem IsDotted.isWord {path : List Char} (h : IsDotted path) : IsWord path := by
  obtain ⟨hstart, hroot, hmore⟩ := h
  refine ⟨List.cons_ne_nil _ _, fun d hd => ?_⟩
  rcases List.mem_append.mp hd with hd | hd
  · exact (List.forall_mem_cons.mpr ⟨.inl hstart, hroot⟩ d hd : InSegment d).isBlank_eq_false
  · obtain ⟨segment, hsegment, hd⟩ := List.mem_flatMap.mp hd
    rcases List.mem_cons.mp hd with rfl | hd
    · rfl
    · exact ((hmore segment hsegment).2 d hd).isBlank_eq_false

/-- A keyword is a path as well, so a variable may be called like one. -/
theorem Spells.isDotted {keyword : String} {word : List Char} (h : Spells keyword word)
    (hletters : keyword.toList.all Char.isLower = true) (hne : keyword.toList ≠ []) :
    IsDotted word := by
  have hstarts : ∀ c ∈ word, startsPath c = true := by
    refine startsPath_of_isKeyword ((isKeyword_iff_spells hletters).mpr h) fun c hc => ?_
    exact isAlpha_of_isLower (List.all_eq_true.mp hletters c hc)
  cases word with
  | nil => exact absurd (List.forall₂_nil_right_iff.mp h) hne
  | cons c root =>
    obtain ⟨hc, hroot⟩ := List.forall_mem_cons.mp hstarts
    have hpath : IsDotted (c :: root ++ [].flatMap fun segment => '.' :: segment) :=
      .path (startsRoot_iff.mpr hc) (fun d hd => .inl (startsRoot_iff.mpr (hroot d hd)))
        (List.forall_mem_nil _)
    rwa [List.flatMap_nil, List.append_nil] at hpath

/-- A text says these words: blanks stand between them, and there may be some around. -/
inductive Says : List (List Char) → List Char → Prop where
  | last {before word after : List Char} (hbefore : ∀ c ∈ before, Text.isBlank c = true)
      (hafter : ∀ c ∈ after, Text.isBlank c = true) : Says [word] (before ++ (word ++ after))
  | more {before word gap rest : List Char} {words : List (List Char)}
      (hbefore : ∀ c ∈ before, Text.isBlank c = true) (hne : gap ≠ [])
      (hgap : ∀ c ∈ gap, Text.isBlank c = true) (h : Says words rest) :
      Says (word :: words) (before ++ (word ++ (gap ++ rest)))

variable {cs word next rest : List Char} {words : List (List Char)}

/-- There may be blanks in front of the first word. -/
theorem Says.blanks {before : List Char} (hbefore : ∀ c ∈ before, Text.isBlank c = true)
    (h : Says words cs) : Says words (before ++ cs) := by
  cases h with
  | last hblank hafter =>
    rw [← List.append_assoc]
    exact .last (List.forall_mem_append.mpr ⟨hbefore, hblank⟩) hafter
  | more hblank hne hgap h =>
    rw [← List.append_assoc]
    exact .more (List.forall_mem_append.mpr ⟨hbefore, hblank⟩) hne hgap h

theorem Says.mem {c : Char} (h : Says [word] cs) (hc : c ∈ word) : c ∈ cs := by
  cases h with
  | last => exact List.mem_append_right _ (List.mem_append_left _ hc)
  | more _ _ _ h => nomatch h

/-- The first of several words is cut off in front of the others. -/
theorem Says.exists_cuts (h : Says (word :: next :: words) cs) (hword : IsWord word) :
    ∃ rest, Cuts cs word rest ∧ Says (next :: words) rest := by
  cases h with
  | more hbefore hne hgap h =>
    exact ⟨_, ⟨⟨_, hbefore, rfl⟩, hword.solid, isBlank_head?_append hne hgap⟩, h.blanks hgap⟩

/-- What starts with a word and has a blank start has blanks in front of the word. -/
theorem Says.of_cuts (hcuts : Cuts cs word rest) (h : Says (next :: words) rest)
    (hnext : ∃ c ∈ next.head?, Text.isBlank c = false) : Says (word :: next :: words) cs := by
  obtain ⟨before, hbefore, rfl⟩ := hcuts.eq
  obtain ⟨c, hc, hsolid⟩ := hnext
  have hgap : ∀ {gap behind : List Char}, rest = gap ++ (next ++ behind) → gap ≠ [] := by
    rintro gap behind rfl rfl
    have hhead : c ∈ ([] ++ (next ++ behind)).head? := by
      rw [List.nil_append, List.head?_append, Option.mem_def.mp hc]
      rfl
    have hblank := hcuts.rest c hhead
    rw [hsolid] at hblank
    cases hblank
  cases h with
  | last hblank hafter =>
    exact .more hbefore (hgap rfl) hblank (Says.last (List.forall_mem_nil _) hafter)
  | more hblank hne hbetween h =>
    exact .more hbefore (hgap rfl) hblank (Says.more (List.forall_mem_nil _) hne hbetween h)

/-- A text says one word if that is cut off and blanks are left. -/
theorem says_singleton_iff (hword : IsWord word) :
    Says [word] cs ↔ ∃ rest, Cuts cs word rest ∧ ∀ c ∈ rest, Text.isBlank c = true := by
  constructor
  · rintro (⟨hbefore, hafter⟩ | ⟨-, -, -, h⟩)
    · exact ⟨_, ⟨⟨_, hbefore, rfl⟩, hword.solid, fun c hc => hafter c (List.mem_of_mem_head? hc)⟩,
        hafter⟩
    · nomatch h
  · rintro ⟨rest, hcuts, hrest⟩
    obtain ⟨before, hbefore, rfl⟩ := hcuts.eq
    exact .last hbefore hrest

theorem IsWord.exists_head? (h : IsWord word) : ∃ c ∈ word.head?, Text.isBlank c = false := by
  cases word with
  | nil => exact absurd rfl h.ne_nil
  | cons c word => exact ⟨c, rfl, h.solid c List.mem_cons_self⟩

/-- The words of a text are those that it says. -/
theorem words_eq_iff (hwords : ∀ w ∈ word :: words, IsWord w) :
    Text.words cs = word :: words ↔ Says (word :: words) cs := by
  induction words generalizing word cs with
  | nil =>
    have hword := hwords word List.mem_cons_self
    rw [says_singleton_iff hword]
    constructor
    · intro h
      obtain ⟨rest, hcuts, hrest⟩ := exists_cuts_of_words h
      exact ⟨rest, hcuts, blank_of_words hrest⟩
    · rintro ⟨rest, hcuts, hrest⟩
      rw [hcuts.words_eq hword.ne_nil, words_of_blank hrest]
  | cons next words ih =>
    obtain ⟨hword, hothers⟩ := List.forall_mem_cons.mp hwords
    constructor
    · intro h
      obtain ⟨rest, hcuts, hrest⟩ := exists_cuts_of_words h
      exact ((ih hothers).mp hrest).of_cuts hcuts
        (hothers next List.mem_cons_self).exists_head?
    · intro h
      obtain ⟨rest, hcuts, hrest⟩ := h.exists_cuts hword
      rw [hcuts.words_eq hword.ne_nil, (ih hothers).mpr hrest]

/-- Trimming takes the blanks in front of a word. -/
theorem trimStart_append {before : List Char} (hbefore : ∀ c ∈ before, Text.isBlank c = true)
    (hcs : ∃ c ∈ cs.head?, Text.isBlank c = false) : Text.trimStart (before ++ cs) = cs := by
  obtain ⟨c, hc, hsolid⟩ := hcs
  rw [Text.trimStart, List.dropWhile_append_of_pos hbefore]
  cases cs with
  | nil => cases hc
  | cons d cs =>
    cases hc
    exact List.dropWhile_cons_of_neg (Bool.eq_false_iff.mp hsolid)

/-- There is but one way to cut off a word. -/
theorem Cuts.splitWord_eq (h : Cuts cs word rest) (hword : IsWord word) :
    splitWord cs = (word, rest) := by
  obtain ⟨before, hbefore, rfl⟩ := h.eq
  obtain ⟨c, hc, hsolid⟩ := hword.exists_head?
  have hhead : ∃ c ∈ (word ++ rest).head?, Text.isBlank c = false :=
    ⟨c, by rw [List.head?_append, Option.mem_def.mp hc]; rfl, hsolid⟩
  have hrun : ∀ c ∈ word, (!Text.isBlank c) = true := fun c hc => by rw [hword.solid c hc]; rfl
  have hstop : ∀ c ∈ rest.head?, (!Text.isBlank c) = false := fun c hc => by
    rw [h.rest c hc]; rfl
  obtain ⟨htake, hdrop⟩ := Token.takeWhile_append_of_head hrun hstop
  rw [splitWord, trimStart_append hbefore hhead, htake, hdrop]

/-! ## Texts in quotes -/

/-- A word that is a text in quotes. The text may hold blanks, and quotes of the other kind. -/
inductive Quotes (text : List Char) : List Char → Prop where
  | single (h : '\'' ∉ text) : Quotes text ('\'' :: (text ++ ['\'']))
  | double (h : '"' ∉ text) : Quotes text ('"' :: (text ++ ['"']))

/-- The recogniser takes for texts in quotes what stands between equal quotes. -/
theorem quotes_iff {text : List Char} :
    Quotes text word ↔ ∃ quote, (quote = '\'' ∨ quote = '"') ∧ quote ∉ text ∧
      word = quote :: (text ++ [quote]) := by
  constructor
  · rintro (h | h)
    · exact ⟨_, .inl rfl, h, rfl⟩
    · exact ⟨_, .inr rfl, h, rfl⟩
  · rintro ⟨quote, rfl | rfl, h, rfl⟩
    · exact .single h
    · exact .double h

/-- A text in quotes starts with its quote, which is no blank. -/
theorem Quotes.exists_head? {text : List Char} (h : Quotes text word) :
    ∃ c ∈ word.head?, Text.isBlank c = false := by
  cases h with
  | single => exact ⟨_, rfl, rfl⟩
  | double => exact ⟨_, rfl, rfl⟩

/-- A text in quotes ends at the first quote of its kind, with nothing but blanks behind. -/
theorem needle?_cons {quote : Char} {before body text : List Char}
    (hquote : quote = '\'' ∨ quote = '"') (hbefore : ∀ c ∈ before, Text.isBlank c = true) :
    needle? (before ++ quote :: body) = some text ↔
      quote ∉ text ∧ ∃ after, (∀ c ∈ after, Text.isBlank c = true) ∧
        body = text ++ quote :: after := by
  have htrim : Text.trimStart (before ++ quote :: body) = quote :: body :=
    trimStart_append hbefore ⟨quote, rfl, by rcases hquote with rfl | rfl <;> rfl⟩
  have hmarks : (quote = '\'' || quote = '"') = true := by simpa using hquote
  unfold needle?
  simp only [htrim]
  rw [if_pos hmarks]
  constructor
  · intro h
    split at h
    next => cases h
    next mark behind hdrop =>
      split at h
      next hbehind =>
        cases h
        have hmark : mark = quote := by
          have hhead : mark ∈ (body.dropWhile (· ≠ quote)).head? :=
            Option.mem_def.mpr (congrArg List.head? hdrop)
          simpa using Token.eq_false_of_mem_head?_dropWhile mark hhead
        refine ⟨fun hmem => ?_, behind, List.all_eq_true.mp hbehind, ?_⟩
        · simpa using List.mem_takeWhile_imp hmem
        · rw [← hmark, ← hdrop, hmark, List.takeWhile_append_dropWhile]
      next => cases h
  · rintro ⟨hmem, after, hafter, rfl⟩
    have hrun : ∀ c ∈ text, decide (c ≠ quote) = true := fun c hc =>
      decide_eq_true fun heq => hmem (heq ▸ hc)
    have hstop : ∀ c ∈ (quote :: after).head?, decide (c ≠ quote) = false := by
      rintro c ⟨⟩
      exact decide_eq_false fun h => h rfl
    obtain ⟨htake, hdrop⟩ := Token.takeWhile_append_of_head hrun hstop
    simp only [htake, hdrop, List.all_eq_true.mpr hafter, if_true]

/-- What is searched for is said as the only word that is left. -/
theorem needle?_eq_some_iff {text : List Char} :
    needle? cs = some text ↔ ∃ word, Quotes text word ∧ Says [word] cs := by
  constructor
  · intro h
    have hblank : ∀ c ∈ cs.takeWhile Text.isBlank, Text.isBlank c = true :=
      fun c hc => List.mem_takeWhile_imp hc
    have hsplit : cs.takeWhile Text.isBlank ++ Text.trimStart cs = cs :=
      List.takeWhile_append_dropWhile
    cases htrim : Text.trimStart cs with
    | nil =>
      unfold needle? at h
      rw [htrim] at h
      cases h
    | cons quote body =>
      rw [htrim] at hsplit
      by_cases hquote : quote = '\'' ∨ quote = '"'
      · rw [← hsplit, needle?_cons hquote hblank] at h
        obtain ⟨hmem, after, hafter, rfl⟩ := h
        refine ⟨_, quotes_iff.mpr ⟨quote, hquote, hmem, rfl⟩, ?_⟩
        have hsays : Says [quote :: (text ++ [quote])] (_ ++ (_ ++ after)) := .last hblank hafter
        rw [← hsplit]
        simpa using hsays
      · unfold needle? at h
        simp [htrim, hquote] at h
  · rintro ⟨word, hquotes, ⟨hbefore, hafter⟩ | ⟨-, -, -, h⟩⟩
    · obtain ⟨quote, hquote, hmem, rfl⟩ := quotes_iff.mp hquotes
      rw [List.cons_append, needle?_cons hquote hbefore]
      exact ⟨hmem, _, hafter, by rw [List.append_assoc]; rfl⟩
    · nomatch h

end Shorthand

end AgentFlow

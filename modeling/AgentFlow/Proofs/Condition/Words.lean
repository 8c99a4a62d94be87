import AgentFlow.Condition.Shorthand
import AgentFlow.Proofs.Expr.Spelling

/-!
# Words of conditions

A condition is cut into words at its blanks, and a word into the segments of a path at its dots.
Both ways of cutting words, all at once (`Text.words`) and one by one (`Shorthand.splitWord`), come
to the same (`Shorthand.exists_cuts_of_words`).

The letters of words and paths are those that the tokens of expressions know, up to letter case, and
two more, the long s and the Kelvin sign, which are letters under case folding only.
-/

namespace AgentFlow

namespace Shorthand

/-! ## Cutting words -/

/-- Blanks, a word, and a rest that starts with a blank, if it starts with anything. -/
structure Cuts (cs word rest : List Char) : Prop where
  eq : ∃ before, (∀ c ∈ before, Text.isBlank c = true) ∧ cs = before ++ (word ++ rest)
  word : ∀ c ∈ word, Text.isBlank c = false
  rest : ∀ c ∈ rest.head?, Text.isBlank c = true

/-- The word that is split off is cut off. -/
theorem cuts_splitWord (cs : List Char) : Cuts cs (splitWord cs).1 (splitWord cs).2 := by
  refine ⟨⟨cs.takeWhile Text.isBlank, fun c hc => List.mem_takeWhile_imp hc, ?_⟩, fun c hc => ?_,
    fun c hc => ?_⟩
  · rw [splitWord, List.takeWhile_append_dropWhile, Text.trimStart, List.takeWhile_append_dropWhile]
  · simpa using List.mem_takeWhile_imp hc
  · simpa using Token.eq_false_of_mem_head?_dropWhile c hc

/-- A text that no word is cut off is blank. -/
theorem blank_of_splitWord {cs : List Char} (h : (splitWord cs).1 = []) :
    ∀ c ∈ cs, Text.isBlank c = true := by
  cases htrim : Text.trimStart cs with
  | nil => exact List.dropWhile_eq_nil_iff.mp htrim
  | cons c rest =>
    have hc : Text.isBlank c = false :=
      Token.eq_false_of_mem_head?_dropWhile c (Option.mem_def.mpr (congrArg List.head? htrim))
    simp [splitWord, htrim, hc] at h

/-- In front of more, blanks are a blank start. -/
theorem isBlank_head?_append {between rest : List Char} (hne : between ≠ [])
    (hbetween : ∀ c ∈ between, Text.isBlank c = true) :
    ∀ c ∈ (between ++ rest).head?, Text.isBlank c = true := by
  cases between with
  | nil => exact absurd rfl hne
  | cons b between =>
    rintro c ⟨⟩
    exact hbetween b List.mem_cons_self

/-- Blanks in front of a text do not count. -/
theorem words_append_of_blank {before rest : List Char}
    (hbefore : ∀ c ∈ before, Text.isBlank c = true) :
    Text.words (before ++ rest) = Text.words rest := by
  induction before with
  | nil => rfl
  | cons c before ih =>
    obtain ⟨hc, hbefore⟩ := List.forall_mem_cons.mp hbefore
    rw [List.cons_append, Text.words, Text.wordsFrom, if_pos hc, if_pos List.isEmpty_nil]
    exact ih hbefore

/-- There are no words in blanks. -/
theorem words_of_blank {cs : List Char} (h : ∀ c ∈ cs, Text.isBlank c = true) :
    Text.words cs = [] := by
  rw [← List.append_nil cs, words_append_of_blank h]
  rfl

/-- A word is collected to its end. -/
theorem wordsFrom_append {word rest : List Char} (read : List Char)
    (hword : ∀ c ∈ word, Text.isBlank c = false) :
    Text.wordsFrom read (word ++ rest) = Text.wordsFrom (word.reverse ++ read) rest := by
  induction word generalizing read with
  | nil => rfl
  | cons c word ih =>
    obtain ⟨hc, hword⟩ := List.forall_mem_cons.mp hword
    have hnot : ¬ Text.isBlank c = true := Bool.eq_false_iff.mp hc
    rw [List.cons_append, Text.wordsFrom, if_neg hnot, ih (c :: read) hword, List.reverse_cons,
      List.append_assoc, List.singleton_append]

/-- The word that is cut off is the first word of a text. -/
theorem Cuts.words_eq {cs word rest : List Char} (h : Cuts cs word rest) (hne : word ≠ []) :
    Text.words cs = word :: Text.words rest := by
  obtain ⟨before, hbefore, rfl⟩ := h.eq
  have hread : ¬ (word.reverse ++ []).isEmpty = true := by simpa using hne
  rw [words_append_of_blank hbefore, Text.words, wordsFrom_append [] h.word]
  cases hrest : rest with
  | nil => rw [Text.wordsFrom, if_neg hread, List.append_nil, List.reverse_reverse]; rfl
  | cons c rest =>
    have hc : Text.isBlank c = true := h.rest c (hrest ▸ rfl)
    rw [Text.wordsFrom, if_pos hc, if_neg hread, List.append_nil, List.reverse_reverse, Text.words,
      Text.wordsFrom, if_pos hc, if_pos List.isEmpty_nil]

/-- The first of the words of a text is what is cut off first. -/
theorem exists_cuts_of_words {cs word : List Char} {words : List (List Char)}
    (h : Text.words cs = word :: words) :
    ∃ rest, Cuts cs word rest ∧ Text.words rest = words := by
  have hcuts := cuts_splitWord cs
  by_cases hne : (splitWord cs).1 = []
  · rw [words_of_blank (blank_of_splitWord hne)] at h
    cases h
  · rw [hcuts.words_eq hne] at h
    cases h
    exact ⟨_, hcuts, rfl⟩

/-- A text without words is blank. -/
theorem blank_of_words {cs : List Char} (h : Text.words cs = []) :
    ∀ c ∈ cs, Text.isBlank c = true := by
  by_cases hne : (splitWord cs).1 = []
  · exact blank_of_splitWord hne
  · rw [(cuts_splitWord cs).words_eq hne] at h
    cases h

/-! ## Letters -/

/-- Letters under case folding, but not in ASCII. -/
def IsForeign (c : Char) : Prop :=
  c = '\u017f' ∨ c = '\u212a'

/-- Lower case keeps letters letters. -/
theorem isAlpha_toLower (c : Char) : c.toLower.isAlpha = c.isAlpha := by
  have halpha (d : Char) : d.isAlpha =
      (decide ('A'.val ≤ d.val ∧ d.val ≤ 'Z'.val) ||
        (decide ('a'.val ≤ d.val) && decide (d.val ≤ 'z'.val))) := rfl
  have hval : c.toLower.val =
      if 'A'.val ≤ c.val ∧ c.val ≤ 'Z'.val then c.val + ('a'.val - 'A'.val) else c.val :=
    apply_dite Char.val _ _ _
  rw [Bool.eq_iff_iff, halpha, halpha, hval]
  split <;> grind [UInt32.toNat_add, Char.toNat_val]

/-- But for two characters, folding is lower case. -/
theorem fold_of_not_isForeign {c : Char} (h : ¬ IsForeign c) : fold c = c.toLower := by
  obtain ⟨hs, hk⟩ := not_or.mp h
  rw [fold, if_neg hs, if_neg hk]

/-- The words of expressions are written in ASCII. -/
theorem not_isForeign_of_continuesWord {c : Char} (h : Token.continuesWord c = true) :
    ¬ IsForeign c := by
  rintro (rfl | rfl)
  · exact absurd h (by decide)
  · exact absurd h (by decide)

/-- A word goes on with what it could start with, and with digits. -/
theorem continuesWord_eq (c : Char) :
    Token.continuesWord c = (Token.startsWord c || c.isDigit) := by
  simp only [Token.continuesWord, Token.startsWord, Char.isAlphanum]
  ac_rfl

/-- What is not foreign starts a segment of a path if it starts a word. -/
theorem startsPath_of_not_isForeign {c : Char} (h : ¬ IsForeign c) :
    startsPath c = Token.startsWord c := by
  rw [startsPath, fold_of_not_isForeign h, Token.startsWord, isAlpha_toLower]

/-- What is not foreign continues a segment of a path if it continues a word. -/
theorem continuesPath_of_not_isForeign {c : Char} (h : ¬ IsForeign c) :
    continuesPath c = Token.continuesWord c := by
  rw [continuesPath, startsPath_of_not_isForeign h, continuesWord_eq]

/-- No word goes on with a blank. -/
theorem continuesWord_of_isBlank {c : Char} (h : Text.isBlank c = true) :
    Token.continuesWord c = false := by
  rw [continuesWord_eq, Bool.or_eq_false_iff]
  constructor
  · exact Bool.eq_false_iff.mpr fun hword => by simp [Token.isBlank_of_startsWord hword] at h
  · exact Bool.eq_false_iff.mpr fun hdigit => by simp [Token.isBlank_of_isDigit hdigit] at h

/-- No blank is in a path. -/
theorem continuesPath_of_isBlank {c : Char} (h : Text.isBlank c = true) :
    continuesPath c = false := by
  have hforeign : ¬ IsForeign c := by
    rintro (rfl | rfl)
    · exact absurd h (by decide)
    · exact absurd h (by decide)
  rw [continuesPath_of_not_isForeign hforeign, continuesWord_of_isBlank h]

/-! ## Segments -/

/-- A text is its pieces, with the mark in between. -/
theorem eq_of_pieces {mark : Char} {cs first : List Char} {more : List (List Char)}
    (h : Text.pieces mark cs = first :: more) :
    cs = first ++ more.flatMap fun piece => mark :: piece := by
  induction cs generalizing first more with
  | nil =>
    cases h
    rfl
  | cons c rest ih =>
    rw [Text.pieces] at h
    split at h
    next hc =>
      cases hpieces : Text.pieces mark rest with
      | nil => exact absurd hpieces (Text.pieces_ne_nil mark rest)
      | cons piece pieces =>
        rw [hpieces] at h
        cases h
        rw [List.nil_append, List.flatMap_cons, List.cons_append, ← ih hpieces, hc]
    next =>
      cases hpieces : Text.pieces mark rest with
      | nil => exact absurd hpieces (Text.pieces_ne_nil mark rest)
      | cons piece pieces =>
        rw [hpieces] at h
        cases h
        rw [List.cons_append, ← ih hpieces]

/-- A path is a root and further segments, each behind a dot. -/
theorem exists_segments_of_isPath {word : List Char} (h : isPath word = true) :
    ∃ (c : Char) (root : List Char) (more : List (List Char)),
      word = c :: root ++ more.flatMap (fun segment => '.' :: segment) ∧
      startsPath c = true ∧ (∀ d ∈ root, continuesPath d = true) ∧
      ∀ segment ∈ more, segment ≠ [] ∧ ∀ d ∈ segment, continuesPath d = true := by
  unfold isPath at h
  split at h
  next c root more hpieces =>
    simp only [Bool.and_eq_true, List.all_eq_true, Bool.not_eq_true',
      List.isEmpty_eq_false_iff] at h
    obtain ⟨⟨hc, hroot⟩, hmore⟩ := h
    exact ⟨c, root, more, eq_of_pieces hpieces, hc, hroot, hmore⟩
  next => cases h

/-! ## Keywords -/

/-- A keyword of letters is a segment of a path. -/
theorem startsPath_of_isKeyword {keyword : String} {word : List Char}
    (h : isKeyword keyword word = true) (hletters : ∀ c ∈ keyword.toList, c.isAlpha = true) :
    ∀ c ∈ word, startsPath c = true := by
  intro c hc
  have hmap : word.map fold = keyword.toList := of_decide_eq_true h
  have hfold : fold c ∈ keyword.toList := hmap ▸ List.mem_map_of_mem hc
  simp [startsPath, hletters _ hfold]

end Shorthand

end AgentFlow

import Mathlib.Algebra.Group.Nat.Defs
import AgentFlow.Model.Endpoint

/-!
# What a reply tells

The reply of an endpoint can be any JSON value. It is read without looking at more of it than is
asked for: it is refused exactly if it has no choices, the text is the content of the message of the
first choice if that is a text, and the counts of tokens are there if both are natural numbers.

The counts are kept in 32 bits, whatever the reply says, so they are those of the reply exactly as
long as 32 bits hold them. Greater ones wrap around.
-/

namespace AgentFlow

namespace Json

/-- The value has choices, and this is the first. -/
def HasFirstChoice (reply choice : Json) : Prop :=
  ∃ rest, reply.field? "choices" = some (.array (choice :: rest))

/-- The text is the content of the choice's message. -/
def Says (choice : Json) (text : String) : Prop :=
  ∃ message, choice.field? "message" = some message ∧
    message.field? "content" = some (.string text)

/-- The value counts so many tokens of a prompt and of its completion. -/
def CountsTokens (reply : Json) (prompt completion : Nat) : Prop :=
  ∃ usage, reply.field? "usage" = some usage ∧
    usage.field? "prompt_tokens" = some (.ofNat prompt) ∧
    usage.field? "completion_tokens" = some (.ofNat completion)

/-- The texts among the values. -/
theorem text?_eq_some_iff {value : Json} {text : String} :
    value.text? = some text ↔ value = .string text := by
  cases value <;> simp [text?]

/-- The natural numbers among the values. -/
theorem nat?_eq_some_iff {value : Json} {n : Nat} : value.nat? = some n ↔ value = .ofNat n := by
  constructor
  · intro h
    unfold nat? at h
    split at h
    next =>
      cases h
      rfl
    next => cases h
  · rintro rfl
    rfl

/-- The arrays among the values. -/
theorem items?_eq_some_iff {value : Json} {items : List Json} :
    value.items? = some items ↔ value = .array items := by
  cases value <;> simp [items?]

/-- The first choice is found along its path. -/
theorem hasFirstChoice_iff {reply choice : Json} : reply.HasFirstChoice choice ↔
    ∃ rest, (reply.field? "choices").bind items? = some (choice :: rest) := by
  simp only [HasFirstChoice, Option.bind_eq_some_iff, items?_eq_some_iff, exists_eq_right]

/-- What a choice says is found along its path. -/
theorem says_iff {choice : Json} {text : String} : choice.Says text ↔
    ((choice.field? "message").bind (field? "content")).bind text? = some text := by
  simp only [Says, Option.bind_eq_some_iff, text?_eq_some_iff, exists_eq_right]

end Json

/-- The usage of a reply are the counts that it tells, modulo `2^32`. -/
theorem TokenUsage.ofReply?_eq_some_iff {reply : Json} {usage : TokenUsage} :
    ofReply? reply = some usage ↔ ∃ prompt completion,
      reply.CountsTokens prompt completion ∧ usage = ⟨prompt.toUInt32, completion.toUInt32⟩ := by
  simp only [ofReply?, Option.bind_eq_bind, Option.pure_def, Option.bind_eq_some_iff,
    Json.nat?_eq_some_iff, Option.some.injEq]
  constructor
  · rintro ⟨value, husage, _, hprompt, prompt, rfl, _, hcompletion, completion, rfl, rfl⟩
    exact ⟨prompt, completion, ⟨value, husage, hprompt, hcompletion⟩, rfl⟩
  · rintro ⟨prompt, completion, ⟨value, husage, hprompt, hcompletion⟩, rfl⟩
    exact ⟨value, husage, _, hprompt, prompt, rfl, _, hcompletion, completion, rfl, rfl⟩

/-- A count is kept in 32 bits exactly if it fits them. -/
theorem toNat_toUInt32_eq_iff {n : Nat} : n.toUInt32.toNat = n ↔ n < 2 ^ 32 := by
  rw [Nat.toUInt32_eq, UInt32.toNat_ofNat']
  omega

namespace Generation

/-- A reply with a choice is a generation: its text, or none, and what it says of tokens. -/
theorem ofReply_of_hasFirstChoice {reply choice : Json} (h : reply.HasFirstChoice choice) :
    ofReply reply = .ok
      ⟨(((choice.field? "message").bind (Json.field? "content")).bind Json.text?).getD "",
        TokenUsage.ofReply? reply⟩ := by
  obtain ⟨rest, hchoices⟩ := Json.hasFirstChoice_iff.mp h
  simp only [ofReply, hchoices]

/-- A reply without choices is refused. -/
theorem ofReply_of_no_choice {reply : Json} (h : ∀ choice, ¬ reply.HasFirstChoice choice) :
    ofReply reply = .error .noChoices := by
  unfold ofReply
  split
  next choice rest hchoices =>
    exact absurd (Json.hasFirstChoice_iff.mpr ⟨rest, hchoices⟩) (h choice)
  next => rfl

/-- **What is read from a reply.** A reply is refused exactly if its choices are not a list with a
first one, whatever else is in it. Otherwise the text is the content of the message of the first
choice, and empty if that is no text; and there are counts of tokens exactly if the reply has two
natural numbers for them. The counts are then those of the reply modulo `2^32`, hence the counts of
the reply themselves exactly if both are below `2^32`. -/
theorem ofReply_exact (reply : Json) :
    (∀ error, ofReply reply = .error error ↔
      error = .noChoices ∧ ∀ choice, ¬ reply.HasFirstChoice choice) ∧
    ∀ choice, reply.HasFirstChoice choice → ∃ generation, ofReply reply = .ok generation ∧
      (∀ text, choice.Says text → generation.text = text) ∧
      ((∀ text, ¬ choice.Says text) → generation.text = "") ∧
      (generation.usage.isSome ↔ ∃ prompt completion, reply.CountsTokens prompt completion) ∧
      ∀ prompt completion, reply.CountsTokens prompt completion →
        ∃ usage, generation.usage = some usage ∧
          usage.promptTokens.toNat = prompt % 2 ^ 32 ∧
          usage.completionTokens.toNat = completion % 2 ^ 32 ∧
          (usage.promptTokens.toNat = prompt ∧ usage.completionTokens.toNat = completion ↔
            prompt < 2 ^ 32 ∧ completion < 2 ^ 32) := by
  refine ⟨fun error => ⟨fun herror => ?_, ?_⟩, fun choice hchoice => ?_⟩
  · have hnone : ∀ choice, ¬ reply.HasFirstChoice choice := by
      intro choice hchoice
      rw [ofReply_of_hasFirstChoice hchoice] at herror
      cases herror
    rw [ofReply_of_no_choice hnone] at herror
    cases herror
    exact ⟨rfl, hnone⟩
  · rintro ⟨rfl, hnone⟩
    exact ofReply_of_no_choice hnone
  refine ⟨_, ofReply_of_hasFirstChoice hchoice, fun text htext => ?_, fun hnone => ?_, ?_, ?_⟩
  · rw [Json.says_iff.mp htext]
    rfl
  · have hsilent := Option.eq_none_iff_forall_ne_some.mpr fun text htext =>
      hnone text (Json.says_iff.mpr htext)
    rw [hsilent]
    rfl
  · rw [Option.isSome_iff_exists]
    constructor
    · rintro ⟨usage, husage⟩
      obtain ⟨prompt, completion, hcounts, -⟩ := TokenUsage.ofReply?_eq_some_iff.mp husage
      exact ⟨prompt, completion, hcounts⟩
    · rintro ⟨prompt, completion, hcounts⟩
      exact ⟨_, TokenUsage.ofReply?_eq_some_iff.mpr ⟨prompt, completion, hcounts, rfl⟩⟩
  · intro prompt completion hcounts
    refine ⟨_, TokenUsage.ofReply?_eq_some_iff.mpr ⟨prompt, completion, hcounts, rfl⟩, ?_, ?_, ?_⟩
    · exact UInt32.toNat_ofNat'
    · exact UInt32.toNat_ofNat'
    · exact and_congr toNat_toUInt32_eq_iff toNat_toUInt32_eq_iff

/-- The first choice has no text and the second is not looked at; the prompt took as many tokens as
32 bits can count. -/
theorem ofReply_exact_of_greatest_count :
    let choice : Json := .object [("message", .object [("content", .array [])])]
    let reply : Json := .object
      [("choices", .array [choice, .string "second"]),
        ("usage", .object [("completion_tokens", .ofNat 0), ("prompt_tokens", .ofNat 4294967295)])]
    reply.HasFirstChoice choice ∧ (∀ text, ¬ choice.Says text) ∧
      reply.CountsTokens 4294967295 0 ∧
      ∃ generation usage, ofReply reply = .ok generation ∧ generation.text = "" ∧
        generation.usage = some usage ∧ usage.promptTokens.toNat = 4294967295 ∧
        usage.completionTokens.toNat = 0 := by
  intro choice reply
  have hchoice : reply.HasFirstChoice choice := ⟨[.string "second"], rfl⟩
  have hsilent : ∀ text, ¬ choice.Says text := by
    rintro text ⟨message, hmessage, hcontent⟩
    cases hmessage
    cases hcontent
  have hcounts : reply.CountsTokens 4294967295 0 := ⟨_, rfl, rfl, rfl⟩
  obtain ⟨generation, hread, -, hempty, -, htokens⟩ := (ofReply_exact reply).2 choice hchoice
  obtain ⟨usage, husage, -, -, hfits⟩ := htokens _ _ hcounts
  obtain ⟨hprompt, hcompletion⟩ := hfits.mpr (by decide)
  exact ⟨hchoice, hsilent, hcounts, generation, usage, hread, hempty hsilent, husage, hprompt,
    hcompletion⟩

/-- A count of `2^32` tokens is read as none at all. -/
theorem ofReply_of_too_many_tokens :
    let reply : Json := .object
      [("choices", .array [.object [("message", .object [("content", .string "t")])]]),
        ("usage", .object [("completion_tokens", .ofNat 7), ("prompt_tokens", .ofNat 4294967296)])]
    reply.CountsTokens 4294967296 7 ∧ 4294967296 < 2 ^ 64 ∧
      ofReply reply = .ok ⟨"t", some ⟨0, 7⟩⟩ :=
  ⟨⟨_, rfl, rfl, rfl⟩, by decide, rfl⟩

end Generation

end AgentFlow

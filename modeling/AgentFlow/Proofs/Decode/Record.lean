import AgentFlow.Decode.Record
import AgentFlow.Proofs.Except

/-!
# Fields of a record that is read

If a record can be read, then so can each of its fields, and each item of a list that can be read.
What a field holds depends on the entry under its name alone; this is stated here for records that
are read from a value, as the settings of steps are, and for their optional texts.
-/

namespace AgentFlow

namespace Checked

variable {α β : Type}

theorem map_eq_ok {f : α → β} {x : Checked α} {b : β} :
    f <$> x = .ok b ↔ ∃ a, x = .ok a ∧ f a = b := by
  cases x with
  | ok a =>
    constructor
    · intro h
      cases h
      exact ⟨a, rfl, rfl⟩
    · rintro ⟨_, ⟨⟩, rfl⟩
      rfl
  | fault position cause => exact ⟨nofun, fun ⟨_, h, _⟩ => nomatch h⟩

/-- Parts that are checked together are in order only if each of them is. -/
theorem seq_eq_ok {f : Checked (α → β)} {x : Checked α} {b : β} :
    f <*> x = .ok b ↔ ∃ g a, f = .ok g ∧ x = .ok a ∧ g a = b := by
  cases f with
  | fault i first =>
    refine ⟨fun h => ?_, fun ⟨_, _, h, _⟩ => nomatch h⟩
    change ap _ x = _ at h
    cases x with
    | ok a => cases h
    | fault j second =>
      simp only [ap] at h
      split at h <;> cases h
  | ok g =>
    cases x with
    | fault j second => exact ⟨nofun, fun ⟨_, _, _, h, _⟩ => nomatch h⟩
    | ok a =>
      constructor
      · intro h
        cases h
        exact ⟨g, a, rfl, rfl, rfl⟩
      · rintro ⟨_, _, ⟨⟩, ⟨⟩, rfl⟩
        rfl

theorem toExcept_eq_ok {x : Checked α} {a : α} : x.toExcept = .ok a ↔ x = .ok a := by
  cases x with
  | ok b =>
    constructor
    · rintro ⟨⟩
      rfl
    · rintro ⟨⟩
      rfl
  | fault position cause => exact ⟨nofun, nofun⟩

/-- A check behind a reader does not change what has been read. -/
theorem eq_ok_of_seqLeft {x : Checked α} {y : Checked β} {a : α} (h : x <* y = .ok a) :
    x = .ok a := by
  obtain ⟨g, b, hg, -, rfl⟩ := seq_eq_ok.mp h
  obtain ⟨c, hc, rfl⟩ := map_eq_ok.mp hg
  exact hc

theorem ofExcept_eq_ok {position : Nat} {x : Except DecodeError α} {a : α} :
    ofExcept position x = .ok a ↔ x = .ok a := by
  cases x with
  | ok b =>
    constructor
    · rintro ⟨⟩
      rfl
    · rintro ⟨⟩
      rfl
  | error cause => exact ⟨nofun, nofun⟩

end Checked

/-! ## Data that can be read -/

/-- Some document holds `a`. -/
def Reader.Yields {α : Type} (read : Reader α) (a : α) : Prop :=
  ∃ conventions node, read conventions node = .ok a

/-- What is read from a required slot, its reader yields. -/
theorem Slot.yields_of_required {α : Type} {read : Reader α} {slot : Slot} {a : α}
    (h : slot.required read = .ok a) : read.Yields a := by
  cases slot with
  | present position conventions node => exact ⟨conventions, node, Checked.ofExcept_eq_ok.mp h⟩
  | unnamed | unlisted => cases h

/-- What is read from a slot with a default is the default, or its reader yields it. -/
theorem Slot.yields_of_withDefault {α : Type} {read : Reader α} {slot : Slot} {default a : α}
    (h : slot.withDefault default read = .ok a) : a = default ∨ read.Yields a := by
  cases slot with
  | present position conventions node =>
    exact .inr ⟨conventions, node, Checked.ofExcept_eq_ok.mp h⟩
  | unnamed | unlisted =>
    cases h
    exact .inl rfl

/-- The items of a list that can be read can be read. -/
theorem Decode.yields_of_list {α : Type} {read : Reader α} {items : List α}
    (h : (list read).Yields items) {item : α} (hitem : item ∈ items) : read.Yields item := by
  have hitems {conventions : Conventions} {nodes : List Node} {ending : Ending}
      (h : list.ofItems read conventions nodes ending = .ok items) : read.Yields item := by
    obtain ⟨values, hvalues, hend⟩ := bind_eq_ok.mp h
    cases ending with
    | broken fault => cases hend
    | closed =>
      cases hend
      obtain ⟨node, -, hnode⟩ := mem_of_mapM_eq_ok hvalues hitem
      exact ⟨_, node, hnode⟩
  obtain ⟨conventions, node, h⟩ := h
  unfold list at h
  split at h
  · obtain ⟨v, -, hv⟩ := mem_of_mapM_eq_ok h hitem
    exact ⟨_, _, hv⟩
  · exact hitems h
  · exact hitems h
  · cases h
    exact absurd hitem List.not_mem_nil
  · cases h

namespace RecordType

variable {α : Type} {type : RecordType} {conventions : Conventions}

/-- A record that can be read is built from what some slots hold. -/
theorem exists_slots_of_yields {build : (String → Slot) → Checked α} {a : α}
    (h : (type.read build).Yields a) : ∃ field, build field = .ok a := by
  obtain ⟨conventions, node, h⟩ := h
  have hfields {field : String → Slot} {checks : Checked Unit}
      (h : (build field <* checks).toExcept = .ok a) : ∃ field, build field = .ok a :=
    ⟨field, Checked.eq_ok_of_seqLeft (Checked.toExcept_eq_ok.mp h)⟩
  unfold read at h
  split at h
  · exact hfields h
  · exact hfields h
  · exact hfields h
  · exact hfields h
  · split at h
    · exact hfields h
    · cases h
  · exact hfields h
  · cases h

/-- The slots of a record that is written as an object with these entries. -/
def slotOf (type : RecordType) (conventions : Conventions) (fields : Fields Json) : String → Slot :=
  type.namedSlot conventions (fields.map fun (key, v) => (some key, .value v))

/-- A record that is read from an object is built of the slots for its fields. -/
theorem build_of_read_object {build : (String → Slot) → Checked α} {fields : Fields Json} {a : α}
    (h : type.read build conventions (.value (.object fields)) = .ok a) :
    build (type.slotOf conventions.inner fields) = .ok a :=
  Checked.eq_ok_of_seqLeft (Checked.toExcept_eq_ok.mp h)

/-- The first member with a name is the entry that a look-up finds. -/
theorem findIdx?_cases (fields : Fields Json) (name : String) :
    let members := fields.map fun (key, v) => (some key, Node.value v)
    (fields.get? name = none ∧ members.findIdx? (fun member => member.1 == some name) = none) ∨
      ∃ i v, fields.get? name = some v ∧
        members.findIdx? (fun member => member.1 == some name) = some i ∧
        members[i]? = some (some name, .value v) := by
  induction fields with
  | nil => exact .inl ⟨rfl, rfl⟩
  | cons entry rest ih =>
    obtain ⟨key, v⟩ := entry
    by_cases hkey : key = name
    · subst hkey
      refine .inr ⟨0, v, if_pos rfl, ?_, rfl⟩
      simp [List.findIdx?_cons]
    · have hget : Fields.get? name ((key, v) :: rest) = Fields.get? name rest := if_neg hkey
      have hbeq : (some key == some name) = false := by simp [hkey]
      rw [hget]
      simp only [List.map_cons, List.findIdx?_cons, hbeq, Bool.false_eq_true, if_false]
      rcases ih with ⟨hnone, hidx⟩ | ⟨i, w, hsome, hidx, hmember⟩
      · exact .inl ⟨hnone, by rw [hidx]; rfl⟩
      · exact .inr ⟨i + 1, w, hsome, by rw [hidx]; rfl, hmember⟩

/-- The slot of a name holds the entry that a look-up finds. -/
theorem slotOf_cases (type : RecordType) (conventions : Conventions) (fields : Fields Json)
    (name : String) :
    (∃ i, fields.get? name = none ∧ type.slotOf conventions fields name = .unnamed i name) ∨
      ∃ i v, fields.get? name = some v ∧
        type.slotOf conventions fields name = .present i conventions (.value v) := by
  rcases findIdx?_cases fields name with ⟨hget, hidx⟩ | ⟨i, v, hget, hidx, hmember⟩
  · exact .inl ⟨_, hget, by rw [slotOf, namedSlot, hidx]⟩
  · exact .inr ⟨i, v, hget, by simp only [slotOf, namedSlot, hidx, hmember]⟩

/-- An optional text is the text under its name, if there is one. -/
theorem eq_of_optional_text {fields : Fields Json} {name : String} {text : Option String}
    (h : (type.slotOf conventions fields name).optional Decode.text = .ok text) :
    text = (fields.get? name).bind Json.text? := by
  rcases slotOf_cases type conventions fields name with ⟨i, hget, hslot⟩ | ⟨i, v, hget, hslot⟩
  · rw [hslot] at h
    rw [hget]
    cases h
    rfl
  · rw [hslot] at h
    rw [hget]
    cases v <;> cases h <;> rfl

end RecordType

end AgentFlow

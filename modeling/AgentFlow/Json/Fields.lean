/-!
# Finite maps with text keys

A map from text to values, kept as the list of its entries in ascending order of keys. The order is
by code points, which is also the order of the keys' UTF-8 bytes; it is the order in which objects
are written, compared and visited everywhere in the library.

`insert`, `erase` and `merge` keep the order; the lemmas here say what each does to `get?`.
-/

namespace AgentFlow

/-- The entries of a map, in ascending order of keys. -/
abbrev Fields (α : Type) := List (String × α)

namespace Fields

variable {α : Type}

/-- The value at a key. -/
def get? (key : String) : Fields α → Option α
  | [] => none
  | (k, v) :: rest => if k = key then some v else get? key rest

/-- Puts a value at a key, in the place of the value that stood there. -/
def insert (key : String) (value : α) : Fields α → Fields α
  | [] => [(key, value)]
  | (k, v) :: rest =>
    if k = key then (key, value) :: rest
    else if key < k then (key, value) :: (k, v) :: rest
    else (k, v) :: insert key value rest

/-- Removes a key. -/
def erase (key : String) (fields : Fields α) : Fields α :=
  fields.filter fun entry => entry.1 ≠ key

/-- The keys, in ascending order. -/
def keys (fields : Fields α) : List String :=
  fields.map Prod.fst

/-- Puts in all entries of `more`, one after the other. -/
def merge (fields more : Fields α) : Fields α :=
  more.foldl (fun fields entry => fields.insert entry.1 entry.2) fields

/-- The map with the given entries; of two with the same key the later one stays. -/
def ofEntries (entries : List (String × α)) : Fields α :=
  merge [] entries

@[simp] theorem get?_nil (key : String) : get? key ([] : Fields α) = none := rfl

theorem get?_insert_self (key : String) (value : α) (fields : Fields α) :
    (fields.insert key value).get? key = some value := by
  induction fields with
  | nil => simp [insert, get?]
  | cons entry rest ih =>
    obtain ⟨k, v⟩ := entry
    rw [insert]
    split
    · simp [get?]
    · split
      · simp [get?]
      · rename_i hne _
        simp [get?, hne, ih]

theorem get?_insert_of_ne {key other : String} (h : other ≠ key) (value : α) (fields : Fields α) :
    (fields.insert key value).get? other = fields.get? other := by
  induction fields with
  | nil => simp [insert, get?, h.symm]
  | cons entry rest ih =>
    obtain ⟨k, v⟩ := entry
    rw [insert]
    split
    · rename_i hk
      subst hk
      simp [get?, h.symm]
    · split
      · simp [get?, h.symm]
      · simp only [get?]
        split
        · rfl
        · exact ih

theorem get?_erase_self (key : String) (fields : Fields α) :
    (fields.erase key).get? key = none := by
  induction fields with
  | nil => rfl
  | cons entry rest ih =>
    obtain ⟨k, v⟩ := entry
    by_cases h : k = key
    · simpa [erase, h] using ih
    · simp only [erase, List.filter_cons, h, ne_eq, not_false_eq_true, decide_true, if_true, get?,
        if_false]
      exact ih

theorem get?_erase_of_ne {key other : String} (h : other ≠ key) (fields : Fields α) :
    (fields.erase key).get? other = fields.get? other := by
  induction fields with
  | nil => rfl
  | cons entry rest ih =>
    obtain ⟨k, v⟩ := entry
    by_cases hk : k = key
    · subst hk
      simpa [erase, get?, h.symm] using ih
    · simp only [erase, List.filter_cons, hk, ne_eq, not_false_eq_true, decide_true, if_true, get?]
      split
      · rfl
      · exact ih

theorem eq_or_mem_of_mem_insert {entry : String × α} {key : String} {value : α}
    {fields : Fields α} (h : entry ∈ fields.insert key value) :
    entry = (key, value) ∨ entry ∈ fields := by
  induction fields with
  | nil => exact .inl (List.mem_singleton.mp h)
  | cons first rest ih =>
    rw [insert] at h
    split at h
    · exact (List.mem_cons.mp h).imp_right (List.mem_cons_of_mem _)
    · split at h
      · exact List.mem_cons.mp h
      · rcases List.mem_cons.mp h with rfl | h
        · exact .inr List.mem_cons_self
        · exact (ih h).imp_right (List.mem_cons_of_mem _)

end Fields

end AgentFlow

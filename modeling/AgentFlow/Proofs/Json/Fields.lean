import Mathlib.Data.List.Induction
import Mathlib.Data.List.Nodup
import AgentFlow.Json.Basic

/-!
# Keys of a map

A map that is built entry by entry has its keys in ascending order, so that each stands in it once,
and at a key it has the last of the entries with that key. What it has at each key is all there is
to it (`eq_of_get?_eq`).
-/

namespace AgentFlow

namespace Fields

variable {α : Type}

/-! ## The order of the keys -/

/-- An insertion adds at most its own key. -/
theorem mem_keys_insert {other key : String} {value : α} {fields : Fields α}
    (h : other ∈ (fields.insert key value).keys) : other = key ∨ other ∈ fields.keys := by
  obtain ⟨entry, hentry, rfl⟩ := List.mem_map.mp h
  rcases eq_or_mem_of_mem_insert hentry with rfl | hold
  · exact .inl rfl
  · exact .inr (List.mem_map_of_mem hold)

/-- A key is put in behind the lesser and in front of the greater ones. -/
theorem pairwise_keys_insert {fields : Fields α} (h : fields.keys.Pairwise (· < ·)) (key : String)
    (value : α) : (fields.insert key value).keys.Pairwise (· < ·) := by
  induction fields with
  | nil => exact List.pairwise_singleton _ _
  | cons entry rest ih =>
    obtain ⟨k, v⟩ := entry
    obtain ⟨hfirst, hrest⟩ := List.pairwise_cons.mp h
    rw [insert]
    split
    · rename_i heq
      exact heq ▸ h
    · rename_i hne
      split
      · rename_i hlt
        refine List.pairwise_cons.mpr ⟨fun other hother => ?_, h⟩
        rcases List.mem_cons.mp hother with rfl | hlater
        · exact hlt
        · exact String.lt_trans hlt (hfirst other hlater)
      · rename_i hnlt
        refine List.pairwise_cons.mpr ⟨fun other hother => ?_, ih hrest⟩
        rcases mem_keys_insert hother with rfl | hlater
        · exact Decidable.byContradiction fun hle =>
            hne (String.le_antisymm (String.not_lt.mp hnlt) (String.not_lt.mp hle))
        · exact hfirst other hlater

/-- Merging keeps the keys in order. -/
theorem pairwise_keys_merge {fields : Fields α} (h : fields.keys.Pairwise (· < ·))
    (more : Fields α) : (fields.merge more).keys.Pairwise (· < ·) := by
  unfold merge
  induction more generalizing fields with
  | nil => exact h
  | cons entry more ih => exact ih (pairwise_keys_insert h entry.1 entry.2)

/-- A map has its keys in ascending order. -/
theorem pairwise_keys_ofEntries (entries : List (String × α)) :
    (ofEntries entries).keys.Pairwise (· < ·) :=
  pairwise_keys_merge List.Pairwise.nil entries

/-- Ascending keys are different. -/
theorem nodup_keys {fields : Fields α} (h : fields.keys.Pairwise (· < ·)) :
    fields.keys.Nodup := by
  refine h.imp ?_
  rintro k _ hlt rfl
  exact String.lt_irrefl k hlt

theorem nodup_keys_ofEntries (entries : List (String × α)) : (ofEntries entries).keys.Nodup :=
  nodup_keys (pairwise_keys_ofEntries entries)

/-! ## Look-ups -/

theorem get?_eq_none_of_notMem {key : String} {fields : Fields α} (h : key ∉ fields.keys) :
    fields.get? key = none := by
  induction fields with
  | nil => rfl
  | cons entry rest ih =>
    obtain ⟨hne, hrest⟩ := not_or.mp (mt List.mem_cons.mpr h)
    rw [get?, if_neg (Ne.symm hne), ih hrest]

/-- Where each key stands once, looking up is membership. -/
theorem mem_iff_get?_eq_some {fields : Fields α} (h : fields.keys.Nodup) {key : String}
    {value : α} : (key, value) ∈ fields ↔ fields.get? key = some value := by
  induction fields with
  | nil => simp
  | cons entry rest ih =>
    obtain ⟨k, v⟩ := entry
    obtain ⟨hfirst, hrest⟩ := List.nodup_cons.mp h
    rw [List.mem_cons, ih hrest, get?, Prod.mk.injEq]
    split
    · rename_i heq
      rw [← heq, get?_eq_none_of_notMem hfirst]
      simp [eq_comm]
    · rename_i hne
      simp [Ne.symm hne]

/-- A map in ascending order of keys is determined by its look-ups. -/
theorem eq_of_get?_eq {fields more : Fields α} (hfields : fields.keys.Pairwise (· < ·))
    (hmore : more.keys.Pairwise (· < ·)) (h : ∀ key, fields.get? key = more.get? key) :
    fields = more := by
  have hperm : fields.Perm more := by
    refine (List.perm_ext_iff_of_nodup (List.Nodup.of_map _ (nodup_keys hfields))
      (List.Nodup.of_map _ (nodup_keys hmore))).mpr ?_
    intro (key, value)
    rw [mem_iff_get?_eq_some (nodup_keys hfields), mem_iff_get?_eq_some (nodup_keys hmore), h]
  rw [keys, List.pairwise_map] at hfields hmore
  exact hperm.eq_of_pairwise (fun _ _ _ _ hlt hgt => absurd hgt (String.lt_asymm hlt)) hfields hmore

/-- Merging in two parts. -/
theorem merge_append (fields more evenMore : Fields α) :
    fields.merge (more ++ evenMore) = (fields.merge more).merge evenMore :=
  List.foldl_append

/-- What is put in hides what was there. -/
theorem get?_merge (key : String) (fields more : Fields α) :
    (fields.merge more).get? key = ((ofEntries more).get? key).or (fields.get? key) := by
  induction more using List.reverseRecOn with
  | nil => rfl
  | append_singleton more entry ih =>
    rw [ofEntries, merge_append, merge_append]
    change Fields.get? key (Fields.insert entry.1 entry.2 _) =
      (Fields.get? key (Fields.insert entry.1 entry.2 _)).or _
    by_cases hkey : key = entry.1
    · rw [hkey, get?_insert_self, get?_insert_self]
      rfl
    · rw [get?_insert_of_ne hkey, get?_insert_of_ne hkey]
      exact ih

@[simp] theorem get?_ofEntries_nil (key : String) :
    (ofEntries ([] : List (String × α))).get? key = none := rfl

/-- Of two entries with one key the later one counts. -/
@[simp] theorem get?_ofEntries_append (key : String) (entries more : List (String × α)) :
    (ofEntries (entries ++ more)).get? key =
      ((ofEntries more).get? key).or ((ofEntries entries).get? key) := by
  rw [ofEntries, merge_append]
  exact get?_merge key (ofEntries entries) more

@[simp] theorem get?_ofEntries_cons (key k : String) (value : α) (rest : List (String × α)) :
    (ofEntries ((k, value) :: rest)).get? key =
      ((ofEntries rest).get? key).or (if k = key then some value else none) :=
  get?_ofEntries_append key [(k, value)] rest

end Fields

@[simp] theorem Json.get?_entryIfSome {α : Type} (key k : String) (encode : α → Json)
    (a : Option α) :
    (Fields.ofEntries (Json.entryIfSome k encode a)).get? key =
      if k = key then a.map encode else none := by
  cases a with
  | none => exact (ite_self none).symm
  | some a => exact Fields.get?_ofEntries_cons key k (encode a) []

end AgentFlow

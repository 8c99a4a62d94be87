import Mathlib.Algebra.Group.Nat.Defs
import AgentFlow.Proofs.Decode.Record
import AgentFlow.Proofs.Except
import AgentFlow.Proofs.Json.Fields

/-!
# Reading what was written

A value is read back by a reader if the reader takes it for the data that it was made of. The laws
go by the shape of the data: texts, numbers, lists of what is read back, and records, whose entries
may be written always, or only if there is something to write.

Null is where the laws end. A reader of optional data takes null for nothing, so optional data whose
own form is null is not read back.
-/

namespace AgentFlow

variable {α β : Type}

namespace Reader

/-- The reader takes the value for `a`, whatever the conventions. -/
def Reads (read : Reader α) (v : Json) (a : α) : Prop :=
  ∀ conventions, read conventions (.value v) = .ok a

end Reader

namespace Decode

theorem reads_text (s : String) : text.Reads (.string s) s := fun _ => rfl

theorem reads_bool (b : Bool) : bool.Reads (.bool b) b := fun _ => rfl

theorem reads_map (fields : Fields Json) : map.Reads (.object fields) fields := fun _ => rfl

/-- A number that fits so many bits is read from its numeral. -/
theorem reads_natural {bits n : Nat} (h : n < 2 ^ bits) (name : String) :
    (natural bits name).Reads (.ofNat n) n := by
  intro _
  have hrange : (0 ≤ (n : Int) && (n : Int) < Int.pow 2 bits) = true := by
    have hpow : Int.pow 2 bits = ((2 ^ bits : Nat) : Int) := (Int.natCast_pow 2 bits).symm
    rw [hpow, Bool.and_eq_true, decide_eq_true_iff, decide_eq_true_iff]
    exact ⟨Int.natCast_nonneg n, Int.ofNat_lt.mpr h⟩
  change inRange bits name n = .ok n
  rw [inRange, if_pos hrange]
  rfl

theorem reads_count32 (n : UInt32) : count32.Reads (.ofNat n.toNat) n := by
  intro conventions
  rw [count32, reads_natural n.toNat_lt]
  exact congrArg Except.ok UInt32.ofNat_toNat

theorem reads_count64 (n : UInt64) : count64.Reads (.ofNat n.toNat) n := by
  intro conventions
  rw [count64, reads_natural n.toNat_lt]
  exact congrArg Except.ok UInt64.ofNat_toNat

/-- A size that fits 64 bits is read from its numeral. -/
theorem reads_size {n : Nat} (h : n < 2 ^ 64) : size.Reads (.ofNat n) n :=
  reads_natural h "usize"

/-- What is not null is read as if it were not optional. -/
theorem reads_optional {read : Reader α} {v : Json} {a : α} (h : read.Reads v a)
    (hv : v.isNull = false) : (optional read).Reads v (some a) := by
  intro conventions
  have hread := congrArg (Except.map some) (h conventions)
  cases v with
  | null => cases hv
  | _ => exact hread

theorem reads_optional_text (s : String) : (optional text).Reads (.string s) (some s) :=
  reads_optional (reads_text s) rfl

theorem reads_optional_count32 (n : UInt32) :
    (optional count32).Reads (.ofNat n.toNat) (some n) :=
  reads_optional (reads_count32 n) rfl

/-- An optional value is read from itself or from null. -/
theorem reads_ofOption {read : Reader α} {encode : α → Json}
    (h : ∀ a, (optional read).Reads (encode a) (some a)) (a : Option α) :
    (optional read).Reads (.ofOption encode a) a :=
  match a with
  | none => fun _ => rfl
  | some a => h a

/-- A map leaves a list as it is exactly if it changes none of the items. -/
theorem map_eq_self_iff {f : α → α} {items : List α} :
    items.map f = items ↔ ∀ item ∈ items, f item = item := by
  have h : items.map f = items.map id ↔ ∀ item ∈ items, f item = id item := List.map_inj_left
  rwa [List.map_id] at h

/-- A list is read back item by item. -/
theorem reads_list {read : Reader β} {encode : α → Json} {f : α → β} {items : List α}
    (h : ∀ item ∈ items, read.Reads (encode item) (f item)) :
    (list read).Reads (.array (items.map encode)) (items.map f) := by
  intro conventions
  change (items.map encode).mapM (fun item => read conventions.inner (.value item)) = _
  induction items with
  | nil => rfl
  | cons item items ih =>
    obtain ⟨hitem, hitems⟩ := List.forall_mem_cons.mp h
    rw [List.map_cons, List.mapM_cons, hitem, ih hitems]
    rfl

end Decode

namespace Checked

theorem map_ok_of {f : α → β} {x : Checked α} {a : α} (h : x = .ok a) : f <$> x = .ok (f a) :=
  map_eq_ok.mpr ⟨a, h, rfl⟩

theorem seq_ok_of {f : Checked (α → β)} {x : Checked α} {g : α → β} {a : α} (hf : f = .ok g)
    (hx : x = .ok a) : f <*> x = .ok (g a) :=
  seq_eq_ok.mpr ⟨g, a, hf, hx, rfl⟩

end Checked

namespace RecordType

/-! ## Records -/

variable {type : RecordType} {conventions : Conventions} {fields : Fields Json} {name : String}

/-- Members of a value that has each key once are in order. -/
theorem checkMembers_of_nodup (type : RecordType) (conventions : Conventions) (position : Nat)
    {seen : List String} (hnodup : fields.keys.Nodup) (hseen : ∀ key ∈ fields.keys, key ∉ seen) :
    type.checkMembers conventions position seen
      (fields.map fun (key, v) => (some key, .value v)) = .ok () := by
  induction fields generalizing position seen with
  | nil => rfl
  | cons entry rest ih =>
    obtain ⟨key, v⟩ := entry
    obtain ⟨hkey, hrest⟩ := List.nodup_cons.mp hnodup
    obtain ⟨hfirst, hlater⟩ := List.forall_mem_cons.mp hseen
    have hskip : (if conventions.checksSkipped then (Node.value v).skipFault? else none) = none :=
      ite_self none
    rw [List.map_cons, checkMembers, hskip, if_neg (mt List.contains_iff_mem.mp hfirst)]
    split
    · refine ih _ hrest fun other hother => ?_
      rw [List.mem_cons, not_or]
      exact ⟨fun heq => hkey (heq ▸ hother), hlater other hother⟩
    · exact ih _ hrest hlater

/-- A record is read from an object that has each key once, if its fields are. -/
theorem reads_object_of_nodup {build : (String → Slot) → Checked α} {a : α}
    (hnodup : fields.keys.Nodup)
    (h : ∀ conventions, build (type.slotOf conventions fields) = .ok a) :
    (type.read build).Reads (.object fields) a := by
  intro conventions
  have hchecks : type.checkMembers conventions 0 [] _ = .ok () :=
    type.checkMembers_of_nodup conventions 0 hnodup fun _ _ => List.not_mem_nil
  change (build (type.slotOf conventions.inner fields) <*
    (type.checkMembers conventions 0 [] _ *> checkEnding _ .closed)).toExcept = _
  rw [h, hchecks]
  rfl

/-- A record is read back if its fields are. -/
theorem reads_ofEntries {build : (String → Slot) → Checked α} {entries : List (String × Json)}
    {a : α}
    (h : ∀ conventions, build (type.slotOf conventions (Fields.ofEntries entries)) = .ok a) :
    (type.read build).Reads (.ofEntries entries) a :=
  reads_object_of_nodup (Fields.nodup_keys_ofEntries entries) h

/-! ## Fields

The slot of a field, by what is written under its name. -/

/-- A field that is there has its value in its slot. -/
theorem exists_slotOf_eq_present {v : Json} (hget : fields.get? name = some v) :
    ∃ i, type.slotOf conventions fields name = .present i conventions (.value v) := by
  rcases slotOf_cases type conventions fields name with ⟨i, hnone, -⟩ | ⟨i, w, hsome, hslot⟩
  · exact absurd (hget.symm.trans hnone) nofun
  · obtain rfl : v = w := Option.some.inj (hget.symm.trans hsome)
    exact ⟨i, hslot⟩

/-- A required field is read from the value that is there. -/
theorem required_of_get? {read : Reader α} {v : Json} {a : α} (h : read.Reads v a)
    (hget : fields.get? name = some v) :
    (type.slotOf conventions fields name).required read = .ok a := by
  obtain ⟨i, hslot⟩ := exists_slotOf_eq_present hget
  rw [hslot, Slot.required, h]
  rfl

/-- A field with a default is read from the value that is there. -/
theorem withDefault_of_get? {read : Reader α} {v : Json} {default a : α} (h : read.Reads v a)
    (hget : fields.get? name = some v) :
    (type.slotOf conventions fields name).withDefault default read = .ok a := by
  obtain ⟨i, hslot⟩ := exists_slotOf_eq_present hget
  rw [hslot, Slot.withDefault, h]
  rfl

/-- A field that is left out if there is nothing to write. -/
theorem nullable_of_get? {read : Reader α} {encode : α → Json} {a : Option α}
    (h : ∀ a, (Decode.optional read).Reads (encode a) (some a))
    (hget : fields.get? name = a.map encode) :
    (type.slotOf conventions fields name).nullable read = .ok a := by
  rcases slotOf_cases type conventions fields name with ⟨i, hnone, hslot⟩ | ⟨i, w, hsome, hslot⟩
  · obtain rfl : a = none := Option.map_eq_none_iff.mp (hget.symm.trans hnone)
    rw [hslot]
    rfl
  · obtain ⟨b, rfl, rfl⟩ := Option.map_eq_some_iff.mp (hget.symm.trans hsome)
    rw [hslot, Slot.nullable, Slot.required, h]
    · rfl
    · nofun

/-- An optional field is read as what was written, also if nothing was. -/
theorem optional_of_get? {read : Reader α} {encode : α → Json} {a : Option α}
    (h : ∀ a, (Decode.optional read).Reads (encode a) (some a))
    (hget : fields.get? name = a.map encode) :
    (type.slotOf conventions fields name).optional read = .ok a := by
  rcases slotOf_cases type conventions fields name with ⟨i, hnone, hslot⟩ | ⟨i, w, hsome, hslot⟩
  · obtain rfl : a = none := Option.map_eq_none_iff.mp (hget.symm.trans hnone)
    rw [hslot]
    rfl
  · obtain ⟨b, rfl, rfl⟩ := Option.map_eq_some_iff.mp (hget.symm.trans hsome)
    rw [hslot, Slot.optional, Slot.withDefault, h]
    rfl

end RecordType

end AgentFlow

import Mathlib.Data.String.Basic

/-!
# The order of bytes

Texts are ordered by code points, character by character. Their UTF-8 bytes, compared byte by byte,
are in the same order (`bytes_lt_iff`): UTF-8 gives a greater character a greater first byte as soon
as it takes more bytes, and spreads the bits of characters that take the same number of bytes over
them from the highest to the lowest, six bits for each byte behind the first.
-/

namespace AgentFlow.Text

open String (utf8EncodeChar)

/-- The UTF-8 bytes of a text. -/
def bytes (s : String) : List UInt8 :=
  s.toByteArray.data.toList

/-- The bytes of a text are those of its characters. -/
theorem bytes_eq_flatMap (s : String) : bytes s = s.toList.flatMap utf8EncodeChar := by
  rw [bytes, ← String.utf8Encode_toList, List.utf8Encode, List.data_toByteArray]

/-! ## One character -/

/-- The lowest bits of a number, six in each of so many bytes, as UTF-8 continues a character. -/
def continuation : Nat → Nat → List UInt8
  | 0, _ => []
  | n + 1, v => continuation n (v / 64) ++ [.ofNat (v % 64 + 0x80)]

/-- How many bytes a character takes behind the first. -/
def continuationLength (v : Nat) : Nat :=
  if v ≤ 0x7f then 0 else if v ≤ 0x7ff then 1 else if v ≤ 0xffff then 2 else 3

/-- What tells in the first byte of a character how many more it takes. -/
def lengthMark : Nat → Nat
  | 0 => 0
  | 1 => 0xc0
  | 2 => 0xe0
  | _ => 0xf0

/-- The first byte of a character that takes so many more, with the highest bits. -/
def firstByte (n v : Nat) : Nat :=
  v / 64 ^ n + lengthMark n

theorem toNat_lt (c : Char) : c.val.toNat < 0x110000 :=
  c.valid.elim (fun h => Nat.lt_trans h (by decide)) And.right

/-- A character is encoded as a first byte and six bits in each that follows. -/
theorem utf8EncodeChar_eq (c : Char) :
    let v := c.val.toNat
    utf8EncodeChar c =
      .ofNat (firstByte (continuationLength v) v) :: continuation (continuationLength v) v := by
  have hmax := toNat_lt c
  simp only [utf8EncodeChar, continuationLength]
  generalize c.val.toNat = v at hmax
  -- the bits that the encoder masks away from the first byte are zero in a character this small
  split
  · simp [firstByte, lengthMark, continuation]
  · split
    · have h : v / 64 % 32 = v / 64 := Nat.mod_eq_of_lt (by omega)
      simp [firstByte, lengthMark, continuation, h]
    · split
      · have h : v / 4096 % 16 = v / 4096 := Nat.mod_eq_of_lt (by omega)
        simp [firstByte, lengthMark, continuation, h]
      · have h : v / 262144 % 8 = v / 262144 := Nat.mod_eq_of_lt (by omega)
        simp [firstByte, lengthMark, continuation, h, Nat.div_div_eq_div_mul]

/-- First bytes are bytes. -/
theorem firstByte_lt {v : Nat} (h : v < 0x110000) : firstByte (continuationLength v) v < 256 := by
  unfold continuationLength
  split_ifs <;> simp only [firstByte, lengthMark] <;> omega

/-- More bytes, greater first byte. -/
theorem firstByte_lt_of_continuationLength_ne {u v : Nat} (h : u < v)
    (hlen : continuationLength u ≠ continuationLength v) (hmax : v < 0x110000) :
    firstByte (continuationLength u) u < firstByte (continuationLength v) v := by
  simp only [continuationLength] at hlen ⊢
  split_ifs at hlen ⊢ <;> simp only [firstByte, lengthMark] <;> omega

/-- Of two numbers, the lesser one has lesser highest bits, or the same highest bits and lesser
bytes behind them. -/
theorem continuation_lt (n : Nat) {u v : Nat} (h : u < v) (x y : List UInt8) :
    u / 64 ^ n < v / 64 ^ n ∨
      u / 64 ^ n = v / 64 ^ n ∧ continuation n u ++ x < continuation n v ++ y := by
  induction n generalizing u v x y with
  | zero => left; simpa using h
  | succ n ih =>
    simp only [Nat.pow_succ', ← Nat.div_div_eq_div_mul, continuation, List.append_assoc]
    obtain hdiv | hdiv := Nat.lt_or_eq_of_le (Nat.div_le_div_right (c := 64) (Nat.le_of_lt h))
    · exact ih hdiv _ _
    · right
      rw [hdiv]
      refine ⟨rfl, List.append_left_lt (List.cons_lt_cons_iff.2 (.inl ?_))⟩
      rw [UInt8.lt_iff_toNat_lt, UInt8.toNat_ofNat', UInt8.toNat_ofNat']
      omega

/-- A smaller character has smaller bytes, whatever follows. -/
theorem utf8EncodeChar_lt {c d : Char} (h : c < d) (x y : List UInt8) :
    utf8EncodeChar c ++ x < utf8EncodeChar d ++ y := by
  have hlt : c.val.toNat < d.val.toNat := h
  have hc := toNat_lt c
  have hd := toNat_lt d
  rw [utf8EncodeChar_eq, utf8EncodeChar_eq, List.cons_append, List.cons_append,
    List.cons_lt_cons_iff, UInt8.lt_iff_toNat_lt, UInt8.toNat_ofNat', UInt8.toNat_ofNat',
    Nat.mod_eq_of_lt (firstByte_lt hc), Nat.mod_eq_of_lt (firstByte_lt hd)]
  generalize c.val.toNat = u at *
  generalize d.val.toNat = v at *
  by_cases hlen : continuationLength u = continuationLength v
  · rw [hlen]
    obtain hhigh | ⟨hhigh, hlow⟩ := continuation_lt (continuationLength v) hlt x y
    · exact .inl (Nat.add_lt_add_right hhigh _)
    · exact .inr ⟨by rw [firstByte, hhigh, firstByte], hlow⟩
  · exact .inl (firstByte_lt_of_continuationLength_ne hlt hlen hd)

/-! ## Texts -/

/-- A smaller text has smaller bytes, by its first difference. -/
theorem flatMap_utf8EncodeChar_lt {a b : List Char} (h : a < b) :
    a.flatMap utf8EncodeChar < b.flatMap utf8EncodeChar := by
  induction a generalizing b with
  | nil =>
    obtain _ | ⟨d, b⟩ := b
    · exact absurd h (List.lt_irrefl _)
    · rw [List.flatMap_cons, utf8EncodeChar_eq]
      exact List.nil_lt_cons _ _
  | cons c a ih =>
    obtain _ | ⟨d, b⟩ := b
    · exact absurd h (List.not_lt_nil _)
    · rw [List.flatMap_cons, List.flatMap_cons]
      obtain hcd | ⟨rfl, hab⟩ := List.cons_lt_cons_iff.1 h
      · exact utf8EncodeChar_lt hcd _ _
      · exact List.append_left_lt (ih hab)

/-- The order of texts is the order of their bytes. -/
theorem bytes_lt_iff {s t : String} : bytes s < bytes t ↔ s < t := by
  have mono {s t : String} (h : s < t) : bytes s < bytes t := by
    rw [bytes_eq_flatMap, bytes_eq_flatMap]
    exact flatMap_utf8EncodeChar_lt (String.lt_iff_toList_lt.1 h)
  refine ⟨fun h => ?_, mono⟩
  rcases lt_trichotomy s t with hst | rfl | hts
  · exact hst
  · exact absurd h (List.lt_irrefl _)
  · exact absurd h (List.lt_asymm (mono hts))

/-- The order of bytes is the order of texts. -/
theorem bytes_le_iff {s t : String} : bytes s ≤ bytes t ↔ s ≤ t :=
  not_congr bytes_lt_iff

end AgentFlow.Text

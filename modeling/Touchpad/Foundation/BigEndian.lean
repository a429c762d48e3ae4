import Mathlib.Data.Nat.Bitwise
import Mathlib.Tactic.Ring

/-!
# Big-endian words in byte strings

A byte string is a list of octets and a word is read at a byte offset.  Reading
is total: an octet past the end reads as zero, so bounds are a matter for the
caller, as they are for a pointer.  Words are assembled by shifts and
disjunctions, most significant octet first.
-/

namespace Touchpad.Foundation

abbrev Bytes := List UInt8

def byteAt (bytes : Bytes) (offset : Nat) : UInt8 := bytes.getD offset 0

def read16 (bytes : Bytes) (offset : Nat) : UInt16 :=
  (byteAt bytes offset).toUInt16 <<< 8 ||| (byteAt bytes (offset + 1)).toUInt16

def read32 (bytes : Bytes) (offset : Nat) : UInt32 :=
  (byteAt bytes offset).toUInt32 <<< 24 |||
    (byteAt bytes (offset + 1)).toUInt32 <<< 16 |||
    (byteAt bytes (offset + 2)).toUInt32 <<< 8 |||
    (byteAt bytes (offset + 3)).toUInt32

def read64 (bytes : Bytes) (offset : Nat) : UInt64 :=
  (read32 bytes offset).toUInt64 <<< 32 ||| (read32 bytes (offset + 4)).toUInt64

def write16 (value : UInt16) : Bytes :=
  [(value >>> 8).toUInt8, value.toUInt8]

def write32 (value : UInt32) : Bytes :=
  [(value >>> 24).toUInt8, (value >>> 16).toUInt8, (value >>> 8).toUInt8,
    value.toUInt8]

def write64 (value : UInt64) : Bytes :=
  write32 (value >>> 32).toUInt32 ++ write32 value.toUInt32

@[simp] theorem write16_length (value : UInt16) : (write16 value).length = 2 := rfl

@[simp] theorem write32_length (value : UInt32) : (write32 value).length = 4 := rfl

/-! ## Where a read looks -/

theorem byteAt_append_left {before : Bytes} {offset : Nat} (h : offset < before.length)
    (after : Bytes) : byteAt (before ++ after) offset = byteAt before offset := by
  simp [byteAt, List.getD_eq_getElem?_getD, List.getElem?_append_left h]

theorem byteAt_append_right (before after : Bytes) (offset : Nat) :
    byteAt (before ++ after) (before.length + offset) = byteAt after offset := by
  simp [byteAt, List.getD_eq_getElem?_getD, List.getElem?_append_right]

theorem byteAt_take {bytes : Bytes} {count offset : Nat} (h : offset < count) :
    byteAt (bytes.take count) offset = byteAt bytes offset := by
  simp [byteAt, List.getD_eq_getElem?_getD, List.getElem?_take_of_lt h]

theorem read16_take {bytes : Bytes} {count offset : Nat} (h : offset + 1 < count) :
    read16 (bytes.take count) offset = read16 bytes offset := by
  simp (disch := omega) only [read16, byteAt_take]

theorem read32_take {bytes : Bytes} {count offset : Nat} (h : offset + 3 < count) :
    read32 (bytes.take count) offset = read32 bytes offset := by
  simp (disch := omega) only [read32, byteAt_take]

theorem read16_append_right (before after : Bytes) (offset : Nat) :
    read16 (before ++ after) (before.length + offset) = read16 after offset := by
  simp only [read16, Nat.add_assoc, byteAt_append_right]

theorem read32_append_right (before after : Bytes) (offset : Nat) :
    read32 (before ++ after) (before.length + offset) = read32 after offset := by
  simp only [read32, Nat.add_assoc, byteAt_append_right]

theorem read64_append_right (before after : Bytes) (offset : Nat) :
    read64 (before ++ after) (before.length + offset) = read64 after offset := by
  simp only [read64, Nat.add_assoc, read32_append_right]

theorem byteAt_drop (bytes : Bytes) (start offset : Nat) :
    byteAt (bytes.drop start) offset = byteAt bytes (start + offset) := by
  simp [byteAt, List.getD_eq_getElem?_getD, List.getElem?_drop]

theorem ext_byteAt {first second : Bytes} (hlength : first.length = second.length)
    (h : ∀ index < first.length, byteAt first index = byteAt second index) : first = second := by
  refine List.ext_getElem hlength fun index hfirst hsecond => ?_
  simpa [byteAt, List.getD_eq_getElem?_getD, hfirst, hsecond] using h index hfirst

theorem read32_drop (bytes : Bytes) (start : Nat) :
    read32 (bytes.drop start) 0 = read32 bytes start := by
  simp only [read32, byteAt_drop, Nat.zero_add, Nat.add_zero]

theorem read16_drop (bytes : Bytes) (start : Nat) :
    read16 (bytes.drop start) 0 = read16 bytes start := by
  simp only [read16, byteAt_drop, Nat.zero_add, Nat.add_zero]

/-! ## Reading back what was written -/

private theorem testBit_of_width_le {n width i : Nat} (h : n < 2 ^ width)
    (hi : width ≤ i) : n.testBit i = false :=
  Nat.testBit_lt_two_pow (h.trans_le (Nat.pow_le_pow_right (by decide) hi))

private theorem reassemble16 (n : Nat) (h : n < 2 ^ 16) :
    ((n >>> 8) % 2 ^ 8) <<< 8 % 2 ^ 16 ||| n % 2 ^ 8 = n := by
  apply Nat.eq_of_testBit_eq
  intro i
  simp only [Nat.testBit_or, Nat.testBit_mod_two_pow, Nat.testBit_shiftLeft,
    Nat.testBit_shiftRight]
  have hhigh : 16 ≤ i → n.testBit i = false := testBit_of_width_le h
  have h8 : 8 ≤ i → 8 + (i - 8) = i := by omega
  grind

private theorem reassemble32 (n : Nat) (h : n < 2 ^ 32) :
    ((n >>> 24) % 2 ^ 8) <<< 24 % 2 ^ 32 |||
      ((n >>> 16) % 2 ^ 8) <<< 16 % 2 ^ 32 |||
      ((n >>> 8) % 2 ^ 8) <<< 8 % 2 ^ 32 ||| n % 2 ^ 8 = n := by
  apply Nat.eq_of_testBit_eq
  intro i
  simp only [Nat.testBit_or, Nat.testBit_mod_two_pow, Nat.testBit_shiftLeft,
    Nat.testBit_shiftRight]
  have hhigh : 32 ≤ i → n.testBit i = false := testBit_of_width_le h
  have h8 : 8 ≤ i → 8 + (i - 8) = i := by omega
  have h16 : 16 ≤ i → 16 + (i - 16) = i := by omega
  have h24 : 24 ≤ i → 24 + (i - 24) = i := by omega
  grind

private theorem reassemble64 (n : Nat) (h : n < 2 ^ 64) :
    ((n >>> 32) % 2 ^ 32) <<< 32 % 2 ^ 64 ||| n % 2 ^ 32 = n := by
  apply Nat.eq_of_testBit_eq
  intro i
  simp only [Nat.testBit_or, Nat.testBit_mod_two_pow, Nat.testBit_shiftLeft,
    Nat.testBit_shiftRight]
  have hhigh : 64 ≤ i → n.testBit i = false := testBit_of_width_le h
  have h32 : 32 ≤ i → 32 + (i - 32) = i := by omega
  grind

@[simp] theorem read16_write16 (value : UInt16) (rest : Bytes) :
    read16 (write16 value ++ rest) 0 = value := by
  apply UInt16.toNat_inj.mp
  simp only [read16, write16, byteAt, List.cons_append, List.getD_cons_zero,
    List.getD_cons_succ, zero_add, UInt16.toNat_or, UInt16.toNat_shiftLeft,
    UInt8.toNat_toUInt16, UInt16.toNat_toUInt8, UInt16.toNat_shiftRight]
  exact reassemble16 value.toNat value.toNat_lt

@[simp] theorem read32_write32 (value : UInt32) (rest : Bytes) :
    read32 (write32 value ++ rest) 0 = value := by
  apply UInt32.toNat_inj.mp
  simp only [read32, write32, byteAt, List.cons_append, List.getD_cons_zero,
    List.getD_cons_succ, zero_add, UInt32.toNat_or, UInt32.toNat_shiftLeft,
    UInt8.toNat_toUInt32, UInt32.toNat_toUInt8, UInt32.toNat_shiftRight]
  exact reassemble32 value.toNat value.toNat_lt

@[simp] theorem read64_write64 (value : UInt64) (rest : Bytes) :
    read64 (write64 value ++ rest) 0 = value := by
  have hlow : read32
      (write32 (value >>> 32).toUInt32 ++ (write32 value.toUInt32 ++ rest))
      (0 + 4) = value.toUInt32 := by
    rw [zero_add]
    exact (read32_append_right (write32 (value >>> 32).toUInt32) _ 0).trans
      (read32_write32 _ _)
  rw [read64, write64, List.append_assoc, read32_write32, hlow]
  apply UInt64.toNat_inj.mp
  simp only [UInt64.toNat_or, UInt64.toNat_shiftLeft, UInt32.toNat_toUInt64,
    UInt64.toNat_toUInt32, UInt64.toNat_shiftRight]
  exact reassemble64 value.toNat value.toNat_lt

/-! ## Items of one width -/

theorem flatMap_split {α β : Type} (item : α → List β) {width : Nat}
    (hwidth : ∀ value, (item value).length = width) (values : List α) {index : Nat}
    (h : index < values.length) :
    ∃ front back, values.flatMap item = front ++ (item values[index] ++ back) ∧
      front.length = index * width := by
  refine ⟨(values.take index).flatMap item, (values.drop (index + 1)).flatMap item, ?_, ?_⟩
  · rw [← List.flatMap_cons, ← List.flatMap_append, List.getElem_cons_drop,
      List.take_append_drop]
  · rw [List.length_flatMap, List.map_congr_left fun value _ => hwidth value, List.map_const',
      List.sum_replicate_nat, List.length_take_of_le h.le]

theorem read32_flatMap_write32 (front : Bytes) (values : List UInt32) {index : Nat}
    (h : index < values.length) (rest : Bytes) :
    read32 (front ++ (values.flatMap write32 ++ rest)) (front.length + index * 4) =
      values[index] := by
  obtain ⟨before, after, hsplit, hlength⟩ := flatMap_split write32 write32_length values h
  rw [read32_append_right, hsplit, ← hlength, List.append_assoc, List.append_assoc]
  exact (read32_append_right before _ 0).trans (read32_write32 _ _)

/-! ## Writing what was read -/

theorem slice_append (bytes : Bytes) (start first second : Nat) :
    (bytes.drop start).take first ++ (bytes.drop (start + first)).take second =
      (bytes.drop start).take (first + second) := by
  rw [List.take_add, List.drop_drop]

theorem write32_read32 (a b c d : UInt8) (rest : Bytes) :
    write32 (read32 (a :: b :: c :: d :: rest) 0) = [a, b, c, d] := by
  simp only [read32, write32, byteAt, List.getD_cons_zero, List.getD_cons_succ,
    List.cons.injEq, and_true, zero_add]
  refine ⟨?_, ?_, ?_, ?_⟩ <;> apply UInt8.toBitVec_inj.mp <;> ext i hi <;>
    simp <;> grind

theorem write16_read16 (a b : UInt8) (rest : Bytes) :
    write16 (read16 (a :: b :: rest) 0) = [a, b] := by
  simp only [read16, write16, byteAt, List.getD_cons_zero, List.getD_cons_succ,
    List.cons.injEq, and_true, zero_add]
  constructor
  · apply UInt8.toBitVec_inj.mp
    ext i hi
    simp
    grind
  · apply UInt8.toBitVec_inj.mp
    ext i hi
    simp

theorem write16_read16_at {bytes : Bytes} {offset : Nat} (h : offset + 2 ≤ bytes.length) :
    write16 (read16 bytes offset) = (bytes.drop offset).take 2 := by
  rw [← read16_drop]
  have hlength : 2 ≤ (bytes.drop offset).length := by
    rw [List.length_drop]
    omega
  match bytes.drop offset, hlength with
  | a :: b :: rest, _ => exact write16_read16 a b rest

theorem write32_read32_at {bytes : Bytes} {offset : Nat} (h : offset + 4 ≤ bytes.length) :
    write32 (read32 bytes offset) = (bytes.drop offset).take 4 := by
  rw [← read32_drop]
  have hlength : 4 ≤ (bytes.drop offset).length := by
    rw [List.length_drop]
    omega
  match bytes.drop offset, hlength with
  | a :: b :: c :: d :: rest, _ => exact write32_read32 a b c d rest

private theorem halves64 (high low : UInt32) :
    ((high.toUInt64 <<< 32 ||| low.toUInt64) >>> 32).toUInt32 = high ∧
      (high.toUInt64 <<< 32 ||| low.toUInt64).toUInt32 = low := by
  constructor
  · apply UInt32.toBitVec_inj.mp
    ext i hi
    simp
    grind
  · apply UInt32.toBitVec_inj.mp
    ext i hi
    simp

theorem write64_read64_at {bytes : Bytes} {offset : Nat} (h : offset + 8 ≤ bytes.length) :
    write64 (read64 bytes offset) = (bytes.drop offset).take 8 := by
  obtain ⟨hhigh, hlow⟩ := halves64 (read32 bytes offset) (read32 bytes (offset + 4))
  rw [write64, read64, hhigh, hlow, write32_read32_at (by omega),
    write32_read32_at (by omega), slice_append]

theorem read16_eq_zero {bytes : Bytes} {offset : Nat} :
    read16 bytes offset = 0 ↔ byteAt bytes offset = 0 ∧ byteAt bytes (offset + 1) = 0 := by
  constructor
  · intro hzero
    have hbytes := write16_read16 (byteAt bytes offset) (byteAt bytes (offset + 1)) []
    rw [show read16 [byteAt bytes offset, byteAt bytes (offset + 1)] 0 = 0 from hzero] at hbytes
    simpa [write16, eq_comm] using hbytes
  · rintro ⟨hfirst, hsecond⟩
    rw [read16, hfirst, hsecond]
    rfl

end Touchpad.Foundation

import Mathlib.Logic.Equiv.Fin.Basic
import Touchpad.Foundation.HidReport

/-!
# Codecs of fixed size

The values of a type and the byte strings of one length, in one-to-one
correspondence.  Packed records are put together from the codecs of their fields,
in the order of the fields and without padding.
-/

namespace Touchpad.Foundation

universe u v

structure FixedCodec (α : Type u) where
  size : Nat
  pack : α → Bytes
  unpack : Bytes → α
  pack_length : ∀ value, (pack value).length = size
  unpack_pack : ∀ value, unpack (pack value) = value
  pack_unpack : ∀ bytes, bytes.length = size → pack (unpack bytes) = bytes

namespace FixedCodec

variable {α : Type u} {β : Type v}

/-! ## Words -/

def octet : FixedCodec UInt8 where
  size := 1
  pack value := [value]
  unpack bytes := byteAt bytes 0
  pack_length _ := rfl
  unpack_pack _ := rfl
  pack_unpack bytes h := by
    obtain ⟨a, rfl⟩ := List.length_eq_one_iff.mp h
    rfl

theorem word_injective {first second : Bytes} (hlength : first.length = second.length)
    (h : HidReport.word first = HidReport.word second) : first = second := by
  have hdigit : ∀ bytes : Bytes, ∀ digit ∈ bytes.map UInt8.toNat, digit < 256 := by
    intro bytes digit hdigit
    obtain ⟨byte, -, rfl⟩ := List.mem_map.mp hdigit
    exact byte.toNat_lt
  have hmap := Nat.ofDigits_inj_of_len_eq (by decide : 1 < 256) (by simpa using hlength)
    (hdigit first) (hdigit second) h
  exact (List.map_inj_right fun _ _ => UInt8.toNat_inj.mp).mp hmap

def word16 : FixedCodec UInt16 where
  size := 2
  pack := HidReport.littleEndian16
  unpack bytes := UInt16.ofNat (HidReport.word bytes)
  pack_length _ := rfl
  unpack_pack value := by rw [HidReport.word_littleEndian16, UInt16.ofNat_toNat]
  pack_unpack bytes h := by
    refine word_injective h.symm ?_
    have hlt := HidReport.word_lt bytes
    rw [h] at hlt
    rw [HidReport.word_littleEndian16, UInt16.toNat_ofNat', Nat.mod_eq_of_lt hlt]

def word32 : FixedCodec UInt32 where
  size := 4
  pack := HidReport.littleEndian32
  unpack bytes := UInt32.ofNat (HidReport.word bytes)
  pack_length _ := rfl
  unpack_pack value := by rw [HidReport.word_littleEndian32, UInt32.ofNat_toNat]
  pack_unpack bytes h := by
    refine word_injective h.symm ?_
    have hlt := HidReport.word_lt bytes
    rw [h] at hlt
    rw [HidReport.word_littleEndian32, UInt32.toNat_ofNat', Nat.mod_eq_of_lt hlt]

/-! ## Records -/

def prod (first : FixedCodec α) (second : FixedCodec β) : FixedCodec (α × β) where
  size := first.size + second.size
  pack value := first.pack value.1 ++ second.pack value.2
  unpack bytes := (first.unpack (bytes.take first.size), second.unpack (bytes.drop first.size))
  pack_length value := by rw [List.length_append, first.pack_length, second.pack_length]
  unpack_pack value := by
    rw [List.take_left' (first.pack_length value.1), List.drop_left' (first.pack_length value.1),
      first.unpack_pack, second.unpack_pack]
  pack_unpack bytes h := by
    have htake : (bytes.take first.size).length = first.size := by
      rw [List.length_take]
      omega
    have hdrop : (bytes.drop first.size).length = second.size := by
      rw [List.length_drop]
      omega
    rw [first.pack_unpack _ htake, second.pack_unpack _ hdrop, List.take_append_drop]

def congr (codec : FixedCodec α) (equiv : α ≃ β) : FixedCodec β where
  size := codec.size
  pack value := codec.pack (equiv.symm value)
  unpack bytes := equiv (codec.unpack bytes)
  pack_length _ := codec.pack_length _
  unpack_pack value := by rw [codec.unpack_pack, Equiv.apply_symm_apply]
  pack_unpack bytes h := by rw [Equiv.symm_apply_apply, codec.pack_unpack bytes h]

def array (codec : FixedCodec α) : (count : Nat) → FixedCodec (Fin count → α)
  | 0 => {
      size := 0
      pack := fun _ => []
      unpack := fun _ => Fin.elim0
      pack_length := fun _ => rfl
      unpack_pack := fun _ => funext fun index => index.elim0
      pack_unpack := fun _ h => (List.length_eq_zero_iff.mp h).symm }
  | count + 1 => (codec.prod (codec.array count)).congr (Fin.consEquiv fun _ => α)

end FixedCodec

end Touchpad.Foundation

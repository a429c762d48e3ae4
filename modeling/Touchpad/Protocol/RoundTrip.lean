import Touchpad.Protocol.EncodedMessage

/-!
# Round trips of the reference codec

Encoding and then decoding gives back what a message carries; decoding and then
encoding gives back the octets, except that the two reserved octets of a contact
are written as zero.
-/

namespace Touchpad.Protocol

open Touchpad.Foundation

def Reserved (index : Nat) : Prop :=
  tpHeaderSize ≤ index ∧
    ((index - tpHeaderSize) % tpContactSize = 6 ∨ (index - tpHeaderSize) % tpContactSize = 7)

instance : DecidablePred Reserved := fun _ => inferInstanceAs (Decidable (_ ∧ _))

/-! ## Encoding what was decoded -/

theorem encodeHeader_decoded {source : Bytes} (h : Accepted source) :
    encodeHeader (getU16 source 6).toUInt32 (getU32 source 8) (getU32 source 12)
        (getU16 source 16) (getU16 source 18) (getU64 source 20) (getU64 source 28) =
      source.take tpHeaderSize := by
  have hlength := h.length
  simp only [tpHeaderSize] at hlength
  have hmagic : write32 tpWireMagic = (source.drop 0).take 4 := by
    rw [← h.magic]
    exact write32_read32_at (by omega)
  have hversion : write16 tpWireVersion = (source.drop 4).take 2 := by
    rw [← h.version]
    exact write16_read16_at (by omega)
  have htype : (getU16 source 6).toUInt32.toUInt16 = getU16 source 6 := by simp
  rw [encodeHeader, hmagic, hversion, htype]
  simp only [getU16, getU32, getU64]
  rw [write16_read16_at (by omega), write32_read32_at (by omega), write32_read32_at (by omega),
    write16_read16_at (by omega), write16_read16_at (by omega), write64_read64_at (by omega),
    write64_read64_at (by omega)]
  have hsplit := slice_append source 0
  simp only [Nat.zero_add] at hsplit
  rw [hsplit 4 2, hsplit 6 2, hsplit 8 4, hsplit 12 4, hsplit 16 2, hsplit 18 2, hsplit 20 8,
    hsplit 28 8]
  rfl

theorem encodeContact_decoded {source : Bytes} {offset : Nat}
    (h : offset + tpContactSize ≤ source.length) :
    encodeContact (decodeTPContact source offset) =
      (source.drop offset).take 6 ++ write16 0 ++ (source.drop (offset + 8)).take 36 := by
  simp only [tpContactSize] at h
  have hstate : [byteAt source (offset + 4), byteAt source (offset + 5)] =
      (source.drop (offset + 4)).take 2 := by
    refine ext_byteAt (by simp; omega) fun index hindex => ?_
    simp only [List.length_cons, List.length_nil] at hindex
    rw [byteAt_take (by omega), byteAt_drop]
    have hcases : index = 0 ∨ index = 1 := by omega
    rcases hcases with rfl | rfl <;> rfl
  simp only [encodeContact, decodeTPContact, getF32, getU32, hstate]
  rw [write32_read32_at (by omega), write32_read32_at (by omega), write32_read32_at (by omega),
    write32_read32_at (by omega), write32_read32_at (by omega), write32_read32_at (by omega),
    write32_read32_at (by omega), write32_read32_at (by omega), write32_read32_at (by omega),
    write32_read32_at (by omega)]
  have hsplit : ∀ first count, (source.drop (offset + first)).take 4 ++
      (source.drop (offset + (first + 4))).take count =
        (source.drop (offset + first)).take (4 + count) := by
    intro first count
    rw [← slice_append, Nat.add_assoc]
  simp only [List.append_assoc]
  rw [hsplit 36 4, hsplit 32 8, hsplit 28 12, hsplit 24 16, hsplit 20 20, hsplit 16 24,
    hsplit 12 28, hsplit 8 32, ← List.append_assoc, slice_append source offset 4 2]

theorem byteAt_encodeContact_decoded {source : Bytes} {offset column : Nat}
    (h : offset + tpContactSize ≤ source.length) (hcolumn : column < tpContactSize) :
    byteAt (encodeContact (decodeTPContact source offset)) column =
      if column = 6 ∨ column = 7 then 0 else byteAt source (offset + column) := by
  have hencoded := encodeContact_decoded h
  simp only [tpContactSize] at h hcolumn
  have hfront : ((source.drop offset).take 6).length = 6 := by simp; omega
  have hreserved : ((source.drop offset).take 6 ++ write16 0).length = 8 := by
    rw [List.length_append, hfront]
    rfl
  rw [hencoded]
  rcases Nat.lt_or_ge column 8 with hlow | hhigh
  · rw [byteAt_append_left (by omega)]
    rcases Nat.lt_or_ge column 6 with hbefore | hat
    · rw [byteAt_append_left (by omega), byteAt_take hbefore, byteAt_drop, if_neg (by omega)]
    · rw [if_pos (by omega)]
      obtain ⟨rest, rfl⟩ := Nat.exists_eq_add_of_le hat
      have hzero := byteAt_append_right ((source.drop offset).take 6) (write16 0) rest
      rw [hfront] at hzero
      rw [hzero]
      have hcases : rest = 0 ∨ rest = 1 := by omega
      rcases hcases with rfl | rfl <;> rfl
  · obtain ⟨rest, rfl⟩ := Nat.exists_eq_add_of_le hhigh
    have hrest := byteAt_append_right ((source.drop offset).take 6 ++ write16 0)
      ((source.drop (offset + 8)).take 36) rest
    rw [hreserved] at hrest
    rw [hrest, byteAt_take (by omega), byteAt_drop, if_neg (by omega), Nat.add_assoc]

theorem encoded_decoded {source : Bytes} (h : Accepted source) :
    encodedCount (getU16 source 6).toUInt32 (decodeTPFrame source) = getU16 source 16 ∧
      encodedFlags (getU16 source 6).toUInt32 (decodeTPFrame source) = getU16 source 18 := by
  rw [encodedCount, encodedFlags]
  by_cases hframe : (getU16 source 6).toUInt32 = tpMessageFrame
  · rw [if_pos hframe, if_pos hframe]
    exact ⟨rfl, rfl⟩
  · obtain ⟨hcount, hflags⟩ := h.control hframe
    rw [if_neg hframe, if_neg hframe, hcount, hflags]
    exact ⟨rfl, rfl⟩

theorem encodedSize_decoded {source : Bytes} (h : Accepted source) :
    encodedSize (getU16 source 6).toUInt32 (decodeTPFrame source) = source.length := by
  rw [encodedSize, (encoded_decoded h).1, h.length, Nat.mul_comm]

theorem byteAt_encodedMessage {source : Bytes} (h : Accepted source) {index : Nat}
    (hindex : index < source.length) :
    byteAt (encodedMessage (getU16 source 6).toUInt32 (decodeTPFrame source)) index =
      if Reserved index then 0 else byteAt source index := by
  obtain ⟨hcount, hflags⟩ := encoded_decoded h
  have hlength := h.length
  have hheader := encodeHeader_decoded h
  rw [h.payload] at hheader
  have hmessage : encodedMessage (getU16 source 6).toUInt32 (decodeTPFrame source) =
      source.take tpHeaderSize ++ (List.range (getU16 source 16).toNat).flatMap
        fun index => encodeContact ((decodeTPFrame source).contactAt index) := by
    rw [encodedMessage, hcount, hflags, ← hheader]
    rfl
  have htake : (source.take tpHeaderSize).length = tpHeaderSize :=
    List.length_take_of_le (by omega)
  rw [hmessage]
  by_cases hfront : index < tpHeaderSize
  · have hopen : ¬ Reserved index := fun hreserved => absurd hreserved.1 (not_le.mpr hfront)
    rw [if_neg hopen, byteAt_append_left (by omega), byteAt_take hfront]
  · obtain ⟨rest, rfl⟩ := Nat.exists_eq_add_of_le (not_lt.mp hfront)
    have hwidth : 0 < tpContactSize := by decide
    obtain ⟨row, column, hcolumn, rfl⟩ : ∃ row column,
        column < tpContactSize ∧ rest = row * tpContactSize + column :=
      ⟨rest / tpContactSize, rest % tpContactSize, Nat.mod_lt rest hwidth,
        (Nat.div_add_mod' rest tpContactSize).symm⟩
    have hrow : row < (getU16 source 16).toNat := by
      simp only [tpContactSize] at *
      omega
    have hfits : tpContactOffset row + tpContactSize ≤ source.length := by
      simp only [tpContactOffset, tpContactSize] at *
      omega
    have hreserved : Reserved (tpHeaderSize + (row * tpContactSize + column)) ↔
        column = 6 ∨ column = 7 := by
      rw [Reserved, Nat.add_sub_cancel_left, Nat.mul_comm, Nat.mul_add_mod, Nat.mod_eq_of_lt hcolumn]
      exact and_iff_right (Nat.le_add_right _ _)
    obtain ⟨before, after, hsplit, hbefore⟩ := flatMap_split
      (fun index => encodeContact ((decodeTPFrame source).contactAt index))
      (fun _ => encodeContact_length _) (List.range (getU16 source 16).toNat)
      (by rwa [List.length_range])
    rw [List.getElem_range, contactAt_decoded h hrow] at hsplit
    have hskip := byteAt_append_right (source.take tpHeaderSize) (before ++
      (encodeContact (decodeTPContact source (tpContactOffset row)) ++ after))
      (row * tpContactSize + column)
    rw [htake] at hskip
    rw [hsplit, hskip, ← hbefore, byteAt_append_right, byteAt_append_left hcolumn,
      byteAt_encodeContact_decoded hfits hcolumn, hbefore, tpContactOffset, Nat.add_assoc]
    simp only [hreserved]

theorem reserved_iff {source : Bytes} (h : Accepted source) (index : Nat) :
    index < source.length ∧ Reserved index ↔
      ∃ row < (getU16 source 16).toNat,
        index = tpContactOffset row + 6 ∨ index = tpContactOffset row + 7 := by
  have hlength := h.length
  simp only [Reserved, tpContactOffset, tpHeaderSize, tpContactSize] at *
  constructor
  · rintro ⟨hindex, hfront, hcolumn⟩
    exact ⟨(index - 36) / 44, by omega, by omega⟩
  · rintro ⟨row, hrow, hcolumn⟩
    omega

theorem encodedMessage_decoded_iff {source : Bytes} (h : Accepted source) :
    encodedMessage (getU16 source 6).toUInt32 (decodeTPFrame source) = source ↔
      ∀ row < (getU16 source 16).toNat, getU16 source (tpContactOffset row + 6) = 0 := by
  have hlength : (encodedMessage (getU16 source 6).toUInt32 (decodeTPFrame source)).length =
      source.length := by
    rw [encodedMessage_length, encodedSize_decoded h]
  constructor
  · intro hsame row hrow
    have hzero : ∀ index, index = tpContactOffset row + 6 ∨ index = tpContactOffset row + 7 →
        byteAt source index = 0 := by
      intro index hcolumn
      obtain ⟨hindex, hreserved⟩ := (reserved_iff h index).mpr ⟨row, hrow, hcolumn⟩
      have hbyte := byteAt_encodedMessage h hindex
      rw [hsame, if_pos hreserved] at hbyte
      exact hbyte
    exact read16_eq_zero.mpr ⟨hzero _ (.inl rfl), hzero _ (.inr rfl)⟩
  · intro hzero
    refine ext_byteAt hlength fun index hindex => ?_
    rw [hlength] at hindex
    rw [byteAt_encodedMessage h hindex]
    split
    case isFalse => rfl
    case isTrue hreserved =>
      obtain ⟨row, hrow, hcolumn⟩ := (reserved_iff h index).mp ⟨hindex, hreserved⟩
      obtain ⟨hfirst, hsecond⟩ := read16_eq_zero.mp (hzero row hrow)
      rcases hcolumn with rfl | rfl
      · exact hfirst.symm
      · exact hsecond.symm

theorem not_rejected_decoded {source : Bytes} (h : Accepted source) {capacity : Nat}
    (hcapacity : source.length ≤ capacity) :
    ¬ EncodingRejected (getU16 source 6).toUInt32 (decodeTPFrame source) capacity := by
  rintro (hunknown | htoo | ⟨-, hflags⟩ | hsmall)
  · exact hunknown h.type
  · exact absurd h.count (not_le.mpr htoo)
  · exact hflags h.flags
  · rw [encodedSize_decoded h] at hsmall
    omega

/-! ## Both directions -/

/-- What is written decodes to what the message carries, and what is accepted encodes
to the same octets up to the reserved fields; everything else is refused untouched. -/
theorem codec_round_trip (type oldType : TPMessageType) (frame oldFrame : TPFrame)
    (capacity : Nat) (source : Bytes) :
    let written := tpEncodeMessage type frame capacity
    let decoded := tpDecodeMessage source source.length oldType oldFrame
    (written.1 = 0 ↔ EncodingRejected type frame capacity) ∧
    (written.1 = 0 → written.2 = []) ∧
    (¬ EncodingRejected type frame capacity →
      written.1 = written.2.length ∧
        tpDecodeMessage written.2 written.1 oldType oldFrame = (true, type, frame.carried type)) ∧
    (decoded.1 = true → ∀ room, source.length ≤ room →
      let again := tpEncodeMessage decoded.2.1 decoded.2.2 room
      again.1 = source.length ∧ again.2.length = source.length ∧
        (∀ index < source.length,
          byteAt again.2 index = if Reserved index then 0 else byteAt source index) ∧
        (again.2 = source ↔ ∀ row < (getU16 source 16).toNat,
          getU16 source (tpContactOffset row + 6) = 0)) ∧
    (decoded.1 = false → decoded.2 = (oldType, oldFrame)) := by
  intro written decoded
  have hwritten : written = if EncodingRejected type frame capacity then (0, [])
      else (encodedSize type frame, encodedMessage type frame) :=
    tpEncodeMessage_eq type frame capacity
  refine ⟨?_, ?_, ?_, ?_, tpDecodeMessage_of_rejected⟩
  · rw [hwritten]
    have hpositive := encodedSize_pos type frame
    split
    case isTrue hrejected => exact iff_of_true rfl hrejected
    case isFalse hrejected => exact iff_of_false hpositive.ne' hrejected
  · rw [hwritten]
    split
    · exact fun _ => rfl
    · exact fun hzero => absurd hzero (encodedSize_pos type frame).ne'
  · intro hrejected
    rw [hwritten, if_neg hrejected]
    have hlength := encodedMessage_length type frame
    refine ⟨hlength.symm, ?_⟩
    rw [← hlength]
    exact tpDecodeMessage_encodedMessage hrejected oldType oldFrame
  · intro haccepts room hroom again
    have haccepted : Accepted source := tpDecodeMessage_accepts_iff.mp haccepts
    have hdecoded : decoded = (true, (getU16 source 6).toUInt32, decodeTPFrame source) :=
      tpDecodeMessage_of_accepted haccepted oldType oldFrame
    have hagain : again = (encodedSize (getU16 source 6).toUInt32 (decodeTPFrame source),
        encodedMessage (getU16 source 6).toUInt32 (decodeTPFrame source)) := by
      simp only [again, hdecoded]
      rw [tpEncodeMessage_eq, if_neg (not_rejected_decoded haccepted hroom)]
    have hsize := encodedSize_decoded haccepted
    rw [hagain]
    refine ⟨hsize, ?_, fun index => byteAt_encodedMessage haccepted,
      encodedMessage_decoded_iff haccepted⟩
    rw [encodedMessage_length]
    exact hsize

end Touchpad.Protocol

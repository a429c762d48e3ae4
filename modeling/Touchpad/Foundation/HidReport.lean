import Mathlib.Data.Nat.Digits.Defs
import Touchpad.Foundation.BigEndian

/-!
# HID report descriptors

A report descriptor is a program of short items.  Global items set a state that
lasts, usages are consumed in order by the next main item, and every variable main
item appends fields to the report whose id is in force.  Running the program gives
the layout of its reports; a descriptor with array items, long items or other items
that are not treated here has none.
-/

namespace Touchpad.Foundation.HidReport

/-! ## Little-endian bit strings -/

def word (bytes : Bytes) : Nat := Nat.ofDigits 256 (bytes.map UInt8.toNat)

def readBits (bytes : Bytes) (offset size : Nat) : Nat :=
  word bytes / 2 ^ offset % 2 ^ size

def littleEndian16 (value : UInt16) : Bytes := [value.toUInt8, (value >>> 8).toUInt8]

def littleEndian32 (value : UInt32) : Bytes :=
  [value.toUInt8, (value >>> 8).toUInt8, (value >>> 16).toUInt8, (value >>> 24).toUInt8]

theorem word_append (front back : Bytes) :
    word (front ++ back) = word front + 2 ^ (8 * front.length) * word back := by
  rw [word, List.map_append, Nat.ofDigits_append, List.length_map, pow_mul]
  rfl

theorem word_lt (bytes : Bytes) : word bytes < 2 ^ (8 * bytes.length) := by
  induction bytes with
  | nil => simp [word]
  | cons byte bytes ih =>
      have hbyte := byte.toNat_lt
      have hcons : word (byte :: bytes) = byte.toNat + 256 * word bytes := rfl
      have hpow : 2 ^ (8 * (byte :: bytes).length) = 256 * 2 ^ (8 * bytes.length) := by
        rw [List.length_cons, Nat.mul_add, pow_add]
        ring
      omega

theorem word_littleEndian16 (value : UInt16) :
    word (littleEndian16 value) = value.toNat := by
  have hlt := value.toNat_lt
  simp only [word, littleEndian16, List.map_cons, List.map_nil, Nat.ofDigits_cons,
    Nat.ofDigits_nil, UInt16.toNat_toUInt8, UInt16.toNat_shiftRight]
  simp only [UInt16.reduceToNat, Nat.shiftRight_eq_div_pow, Nat.reduceMod, Nat.reducePow]
  omega

theorem word_littleEndian32 (value : UInt32) :
    word (littleEndian32 value) = value.toNat := by
  have hlt := value.toNat_lt
  simp only [word, littleEndian32, List.map_cons, List.map_nil, Nat.ofDigits_cons,
    Nat.ofDigits_nil, UInt32.toNat_toUInt8, UInt32.toNat_shiftRight]
  simp only [UInt32.reduceToNat, Nat.shiftRight_eq_div_pow, Nat.reduceMod, Nat.reducePow]
  omega

theorem readBits_window (front window back : Bytes) {offset size : Nat}
    (h : offset + size ≤ 8 * window.length) :
    readBits (front ++ (window ++ back)) (8 * front.length + offset) size =
      readBits window offset size := by
  have hfront := word_lt front
  obtain ⟨spare, hspare⟩ := Nat.exists_eq_add_of_le h
  unfold readBits
  rw [word_append, word_append, pow_add, ← Nat.div_div_eq_div_mul,
    Nat.add_mul_div_left _ _ (by positivity), Nat.div_eq_of_lt hfront, Nat.zero_add, hspare]
  have hback : 2 ^ (offset + size + spare) * word back =
      2 ^ offset * (2 ^ size * (2 ^ spare * word back)) := by
    rw [pow_add, pow_add]
    ring
  rw [hback, Nat.add_mul_div_left _ _ (by positivity), Nat.add_mul_mod_self_left]

theorem readBits_front (window back : Bytes) {offset size : Nat}
    (h : offset + size ≤ 8 * window.length) :
    readBits (window ++ back) offset size = readBits window offset size := by
  simpa using readBits_window [] window back h

private theorem readBits_all {bytes : Bytes} {size : Nat} (h : size = 8 * bytes.length) :
    readBits bytes 0 size = word bytes := by
  rw [readBits, pow_zero, Nat.div_one, h, Nat.mod_eq_of_lt (word_lt bytes)]

theorem readBits_octet (value : UInt8) : readBits [value] 0 8 = value.toNat :=
  readBits_all rfl

theorem readBits_littleEndian16 (value : UInt16) :
    readBits (littleEndian16 value) 0 16 = value.toNat := by
  have hall : readBits (littleEndian16 value) 0 16 = word (littleEndian16 value) :=
    readBits_all rfl
  rw [hall, word_littleEndian16]

theorem readBits_littleEndian32 (value : UInt32) :
    readBits (littleEndian32 value) 0 32 = value.toNat := by
  have hall : readBits (littleEndian32 value) 0 32 = word (littleEndian32 value) :=
    readBits_all rfl
  rw [hall, word_littleEndian32]

/-! ## Items -/

structure Item where
  tag : UInt8
  data : Bytes
  deriving DecidableEq, Repr

def items : Bytes → Option (List Item)
  | [] => some []
  | header :: bytes =>
      match (header &&& 0x03).toNat, bytes with
      | 0, rest => (items rest).map (⟨header &&& 0xfc, []⟩ :: ·)
      | 1, a :: rest => (items rest).map (⟨header &&& 0xfc, [a]⟩ :: ·)
      | 2, a :: b :: rest => (items rest).map (⟨header &&& 0xfc, [a, b]⟩ :: ·)
      | 3, a :: b :: c :: d :: rest =>
          (items rest).map (⟨header &&& 0xfc, [a, b, c, d]⟩ :: ·)
      | _, _ => none

def Item.unsigned (item : Item) : Nat := word item.data

def Item.signed (item : Item) : Int :=
  if 2 ^ (8 * item.data.length) ≤ 2 * item.unsigned then
    item.unsigned - 2 ^ (8 * item.data.length)
  else item.unsigned

/-! ## Running the items -/

structure Usage where
  page : Nat
  id : Nat
  deriving DecidableEq, Repr

inductive ReportKind where
  | input
  | output
  | feature
  deriving DecidableEq, Repr

/-- A field of a report; its offset counts bits after the report id.  A constant
field has no usage, and a collection is named by its position among those opened. -/
structure Field where
  kind : ReportKind
  reportId : Nat
  collection : Option Nat
  usage : Option Usage
  offset : Nat
  size : Nat
  logicalMinimum : Int
  logicalMaximum : Int
  deriving DecidableEq, Repr

structure Globals where
  usagePage : Nat := 0
  logicalMinimum : Int := 0
  logicalMaximum : Int := 0
  reportSize : Nat := 0
  reportCount : Nat := 0
  reportId : Nat := 0

structure Layout where
  collections : List (Option Usage) := []
  fields : List Field := []
  deriving DecidableEq, Repr

structure State where
  globals : Globals := {}
  usages : List Usage := []
  opened : List Nat := []
  layout : Layout := {}

def Layout.bits (layout : Layout) (kind : ReportKind) (reportId : Nat) : Nat :=
  ((layout.fields.filter fun field =>
    field.kind = kind ∧ field.reportId = reportId).map Field.size).sum

def State.usageAt (state : State) (index : Nat) : Option Usage :=
  state.usages[index]?.or state.usages.getLast?

def State.declare (state : State) (kind : ReportKind) (item : Item) : Option State :=
  let start := state.layout.bits kind state.globals.reportId
  let constant := item.unsigned % 2 = 1
  if item.unsigned / 2 % 2 = 0 then none
  else
    let fields := (List.range state.globals.reportCount).map fun index =>
      { kind
        reportId := state.globals.reportId
        collection := state.opened.head?
        usage := if constant then none else state.usageAt index
        offset := start + index * state.globals.reportSize
        size := state.globals.reportSize
        logicalMinimum := state.globals.logicalMinimum
        logicalMaximum := state.globals.logicalMaximum : Field }
    some { state with
      usages := []
      layout := { state.layout with fields := state.layout.fields ++ fields } }

/-- `Logical Maximum` is unsigned where `Logical Minimum` is not negative. -/
def State.maximum (state : State) (item : Item) : Int :=
  if 0 ≤ state.globals.logicalMinimum then item.unsigned else item.signed

def State.step (state : State) (item : Item) : Option State :=
  match item.tag with
  | 0x80 => state.declare .input item
  | 0x90 => state.declare .output item
  | 0xb0 => state.declare .feature item
  | 0xa0 =>
      some { state with
        usages := []
        opened := state.layout.collections.length :: state.opened
        layout := { state.layout with
          collections := state.layout.collections ++ [state.usages.head?] } }
  | 0xc0 =>
      match state.opened with
      | [] => none
      | _ :: opened => some { state with usages := [], opened }
  | 0x04 => some { state with globals := { state.globals with usagePage := item.unsigned } }
  | 0x14 => some { state with globals := { state.globals with logicalMinimum := item.signed } }
  | 0x24 =>
      some { state with
        globals := { state.globals with logicalMaximum := state.maximum item } }
  | 0x74 => some { state with globals := { state.globals with reportSize := item.unsigned } }
  | 0x84 => some { state with globals := { state.globals with reportId := item.unsigned } }
  | 0x94 => some { state with globals := { state.globals with reportCount := item.unsigned } }
  -- Physical extents and units say what the values mean, not where they are.
  | 0x34 | 0x44 | 0x54 | 0x64 => some state
  | 0x08 =>
      some { state with
        usages := state.usages ++ [⟨state.globals.usagePage, item.unsigned⟩] }
  | _ => none

def layout (descriptor : Bytes) : Option Layout :=
  match items descriptor with
  | none => none
  | some items =>
      match items.foldlM State.step {} with
      | none => none
      | some state => if state.opened = [] then some state.layout else none

def Layout.inputFields (layout : Layout) (reportId : Nat) : List Field :=
  layout.fields.filter fun field =>
    field.kind = .input ∧ field.reportId = reportId ∧ field.usage ≠ none

def Layout.featureFields (layout : Layout) (reportId : Nat) : List Field :=
  layout.fields.filter fun field =>
    field.kind = .feature ∧ field.reportId = reportId ∧ field.usage ≠ none

def Layout.collectionsWith (layout : Layout) (usage : Usage) : List Nat :=
  (List.range layout.collections.length).filter fun index =>
    layout.collections[index]? = some (some usage)

def Field.read (field : Field) (payload : Bytes) : Nat :=
  readBits payload field.offset field.size

end Touchpad.Foundation.HidReport

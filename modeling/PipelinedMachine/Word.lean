/-!
# Machine words

Registers, addresses and message payloads are all signed 32-bit words, and arithmetic on them
wraps.  This module fixes the type and the few views of it that the rest of the machine needs:

* `Word.ofBytes`, `Word.byte3` … `Word.byte0` — a word as four bytes, most significant first, which
  is how an instruction packs its fields;
* `Word.offset?` — the distance of an address above a base, the one way an address becomes an
  index;
* `Word.decimal`, `Word.hex` — the two ways a word is written for a reader.
-/

namespace PipelinedMachine

/-- A machine word: 32 bits, read as a signed number. -/
abbrev Word := Int32

namespace Word

/-! ## Bytes -/

/-- The word with the given bytes, most significant first. -/
def ofBytes (b3 b2 b1 b0 : UInt8) : Word :=
  (b3.toUInt32 <<< 24 ||| b2.toUInt32 <<< 16 ||| b1.toUInt32 <<< 8 ||| b0.toUInt32).toInt32

/-- The most significant byte. -/
def byte3 (w : Word) : UInt8 := (w.toUInt32 >>> 24).toUInt8

/-- The second byte from the top. -/
def byte2 (w : Word) : UInt8 := (w.toUInt32 >>> 16).toUInt8

/-- The second byte from the bottom. -/
def byte1 (w : Word) : UInt8 := (w.toUInt32 >>> 8).toUInt8

/-- The least significant byte. -/
def byte0 (w : Word) : UInt8 := w.toUInt32.toUInt8

@[simp] theorem byte3_ofBytes (b3 b2 b1 b0 : UInt8) : byte3 (ofBytes b3 b2 b1 b0) = b3 := by
  apply UInt8.toBitVec_inj.mp
  ext i hi
  simp [byte3, ofBytes, hi, show 24 + i < 32 by omega, show ¬24 + i < 24 by omega,
    show i < 32 by omega, BitVec.getLsbD_of_ge b2.toBitVec (24 + i - 16) (by omega),
    BitVec.getLsbD_of_ge b1.toBitVec (24 + i - 8) (by omega),
    BitVec.getLsbD_of_ge b0.toBitVec (24 + i) (by omega)]

@[simp] theorem byte2_ofBytes (b3 b2 b1 b0 : UInt8) : byte2 (ofBytes b3 b2 b1 b0) = b2 := by
  apply UInt8.toBitVec_inj.mp
  ext i hi
  simp [byte2, ofBytes, hi, show 16 + i < 24 by omega, show ¬16 + i < 16 by omega,
    show 16 + i < 32 by omega, show i < 32 by omega,
    BitVec.getLsbD_of_ge b1.toBitVec (16 + i - 8) (by omega),
    BitVec.getLsbD_of_ge b0.toBitVec (16 + i) (by omega)]

@[simp] theorem byte1_ofBytes (b3 b2 b1 b0 : UInt8) : byte1 (ofBytes b3 b2 b1 b0) = b1 := by
  apply UInt8.toBitVec_inj.mp
  ext i hi
  simp [byte1, ofBytes, hi, show 8 + i < 24 by omega, show 8 + i < 16 by omega,
    show ¬8 + i < 8 by omega, show 8 + i < 32 by omega, show i < 32 by omega]

@[simp] theorem byte0_ofBytes (b3 b2 b1 b0 : UInt8) : byte0 (ofBytes b3 b2 b1 b0) = b0 := by
  apply UInt8.toBitVec_inj.mp
  ext i hi
  simp [byte0, ofBytes]

/-- Every word is made of its bytes. -/
theorem ofBytes_bytes (w : Word) : ofBytes w.byte3 w.byte2 w.byte1 w.byte0 = w := by
  have same : (ofBytes w.byte3 w.byte2 w.byte1 w.byte0).toUInt32 = w.toUInt32 := by
    apply UInt32.toBitVec_inj.mp
    ext i hi
    simp [ofBytes, byte3, byte2, byte1, byte0, hi, -UInt32.toUInt32_toUInt8]
    -- which of the four bytes the bit is in
    have byte : i < 8 ∨ (8 ≤ i ∧ i < 16) ∨ (16 ≤ i ∧ i < 24) ∨ 24 ≤ i := by omega
    rcases byte with high | ⟨low, high⟩ | ⟨low, high⟩ | low
    · simp [high, show i < 16 by omega, show i < 24 by omega]
    · simp [hi, high, show ¬i < 8 by omega, show i < 24 by omega, show i - 8 < 8 by omega,
        show 8 + (i - 8) = i by omega]
    · simp [hi, high, show ¬i < 8 by omega, show ¬i < 16 by omega, show ¬i - 8 < 8 by omega,
        show i - 16 < 8 by omega, show 16 + (i - 16) = i by omega]
    · simp [hi, show ¬i < 8 by omega, show ¬i < 16 by omega, show ¬i < 24 by omega,
        show ¬i - 8 < 8 by omega, show ¬i - 16 < 8 by omega, show i - 24 < 8 by omega,
        show 24 + (i - 24) = i by omega]
  rw [← Int32.toInt32_toUInt32 w, ← same]
  simp

/-! ## Addresses as offsets -/

/-- How far `address` lies above `base`.  The difference wraps like all arithmetic on words, and
there is no offset when it comes out negative: `address` then lies below `base`, or more than half
the address space above it. -/
def offset? (base address : Word) : Option Nat :=
  let distance := address - base
  if distance < 0 then none else some distance.toNatClampNeg

theorem offset?_zero (address : Word) :
    offset? 0 address = if 0 ≤ address.toInt then some address.toInt.toNat else none := by
  have negative : address < 0 ↔ address.toInt < 0 := Int32.lt_iff_toInt_lt
  rw [offset?, Int32.sub_zero]
  by_cases below : address < 0
  · rw [if_pos below, if_neg (by have := negative.mp below; omega)]
  · rw [if_neg below, if_pos (by have := mt negative.mpr below; omega)]
    rfl

/-- Different addresses are at different distances from a base. -/
theorem eq_of_offset? {base a b : Word} {distance : Nat}
    (first : offset? base a = some distance) (second : offset? base b = some distance) : a = b := by
  simp only [offset?, Option.ite_none_left_eq_some, Option.some.injEq, Int32.lt_iff_toInt_lt]
    at first second
  obtain ⟨above, rfl⟩ := first
  obtain ⟨above', same⟩ := second
  have same : (a - base).toInt = (b - base).toInt := by
    simp only [Int32.toInt_zero] at above above'
    rw [← Int32.toNat_toInt, ← Int32.toNat_toInt] at same
    omega
  rw [← Int32.sub_add_cancel a base, Int32.toInt_inj.mp same, Int32.sub_add_cancel]

/-! ## Text -/

/-- The word as a signed decimal number. -/
def decimal (w : Word) : String := toString w.toInt

/-- The word's 32 bits as eight hexadecimal digits. -/
def hex (w : Word) : String :=
  String.ofList <| [7, 6, 5, 4, 3, 2, 1, 0].map fun i =>
    Nat.digitChar ((w.toUInt32.toNat >>> (4 * i)) % 16)

end Word

end PipelinedMachine

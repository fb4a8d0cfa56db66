import EtherCat.Foundation.ByteLoop
import EtherCat.Slave.LogicalBits

/-!
# The bits of an entry

Writing an entry should change its bits of the process data image and no others, and reading it
should give its bits and nothing else.  Both functions go over the bytes that the entry touches, with
the bytes of the buffer shifted by the start bit.  What they do to every single bit says when this is
so (`writesEntry_iff`, `readsEntry_iff`).
-/

namespace EtherCat.LogicalBits

open Rust Rust.Exec BitField

/-- The number of bytes that an entry touches. -/
def touched (bits : LogicalBits) : ℕ := (bits.startBit.toNat + bits.bitLength.toNat + 7) / 8

/-- Where its range starts in the image. -/
def offset (bits : LogicalBits) (logicalAddressOffset : UInt32) : ℕ :=
  (bits.logicalAddress.getD 0).toNat - logicalAddressOffset.toNat

/-- A bit of the range, counted from its first byte. -/
def imageBit (bits : LogicalBits) (logicalAddressOffset : UInt32) (image : List UInt8) (j : ℕ) :
    Bool :=
  bitAt image (8 * bits.offset logicalAddressOffset + j)

/-- An entry with a start bit inside a byte, a bit, an address behind the start of the image, and all
its bytes in the image. -/
structure Lies (bits : LogicalBits) (logicalAddressOffset : UInt32) (image : List UInt8) : Prop where
  address : bits.logicalAddress.isSome
  startBit : bits.startBit.toNat < 8
  bitLength : 1 ≤ bits.bitLength.toNat
  le : logicalAddressOffset.toNat ≤ (bits.logicalAddress.getD 0).toNat
  inImage : bits.offset logicalAddressOffset + bits.touched ≤ image.length

lemma byteLength_eq {bits : LogicalBits}
    (hlt : bits.startBit.toNat + bits.bitLength.toNat < 2 ^ 16) :
    bits.byteLength = .ok bits.touched := by
  refine bind_eq_ok.mpr ⟨_, addUpTo_eq_ok_iff.mpr ⟨by omega, rfl⟩, ?_⟩
  rw [touched]
  split <;> congr 1 <;> omega

lemma lt_of_byteLength_eq_ok {bits : LogicalBits} {size : ℕ} (h : bits.byteLength = .ok size) :
    bits.startBit.toNat + bits.bitLength.toNat < 2 ^ 16 := by
  obtain ⟨_, hlength, -⟩ := bind_eq_ok.mp h
  have := (addUpTo_eq_ok_iff.mp hlength).1
  omega

/-! ## Writing -/

/-- **What writing an entry should do**: its bits are those of the buffer, and all other bits of the
image are as before. -/
def WritesEntry (bits : LogicalBits) (logicalAddressOffset : UInt32) (image buf : List UInt8) :
    Prop :=
  ∃ image', bits.writeFromBuffer logicalAddressOffset image buf = .ok (some (), image') ∧
    image'.length = image.length ∧
    (∀ k < bits.bitLength.toNat,
      bits.imageBit logicalAddressOffset image' (bits.startBit.toNat + k) = bitAt buf k) ∧
    ∀ j, j < 8 * bits.offset logicalAddressOffset + bits.startBit.toNat ∨
        8 * bits.offset logicalAddressOffset + bits.startBit.toNat + bits.bitLength.toNat ≤ j →
      bitAt image' j = bitAt image j

/-- **What is behind the entry stays**: the buffer has all bytes that are read, a bit of its last byte
that comes to lie behind the entry is set in the image already, and if the entry is in one byte then
such a bit is clear in the image if it is clear in the buffer. -/
structure KeepsTail (bits : LogicalBits) (logicalAddressOffset : UInt32) (image buf : List UInt8) :
    Prop where
  fits : bits.startBit.toNat + bits.bitLength.toNat < 2 ^ 16
  source : bits.touched ≤ buf.length
  isSet : ∀ j, bits.startBit.toNat + bits.bitLength.toNat ≤ j → j < 8 * bits.touched →
    bitAt buf (j - bits.startBit.toNat) = true → bits.imageBit logicalAddressOffset image j = true
  isClear : bits.touched = 1 → ∀ j, bits.startBit.toNat + bits.bitLength.toNat ≤ j → j < 8 →
    bits.imageBit logicalAddressOffset image j = true → bitAt buf (j - bits.startBit.toNat) = true

/-- The byte of the image with the bits cleared that are written. -/
def cleared (bits : LogicalBits) (i : ℕ) (byte : UInt8) : UInt8 :=
  if i = 0 then
    if bits.startBit = 0 then 0 else byte &&& 0xFF >>> UInt8.ofNat (8 - bits.startBit.toNat)
  else if i = bits.touched - 1 then
    if (bits.bitLength.toNat + bits.startBit.toNat) % 8 = 0 then 0
    else byte &&& 0xFF <<< UInt8.ofNat ((bits.bitLength.toNat + bits.startBit.toNat) % 8)
  else 0

/-- The byte that is written. -/
def written (bits : LogicalBits) (byte : UInt8) (buf : List UInt8) (i : ℕ) : UInt8 :=
  bits.cleared i byte ||| buf.getD i 0 <<< UInt8.ofNat bits.startBit.toNat |||
    if 1 ≤ i ∧ bits.startBit ≠ 0 then
      buf.getD (i - 1) 0 >>> UInt8.ofNat (8 - bits.startBit.toNat)
    else 0

lemma clearByte_eq {bits : LogicalBits} (hs : bits.startBit.toNat < 8)
    (hlt : bits.startBit.toNat + bits.bitLength.toNat < 2 ^ 16) (i : ℕ) (byte : UInt8) :
    bits.clearByte bits.touched i byte = .ok (bits.cleared i byte) := by
  rw [clearByte, cleared]
  split
  · split
    · rfl
    · next hzero =>
        have hpos : bits.startBit.toNat ≠ 0 := fun h => hzero (UInt8.toNat_inj.mp h)
        rw [sub_of_le (by omega), ok_bind, shr, check_of (by omega)]
        rfl
  · split
    · have hadd : addUpTo 16 bits.bitLength.toNat bits.startBit.toNat =
          .ok (bits.bitLength.toNat + bits.startBit.toNat) :=
        addUpTo_eq_ok_iff.mpr ⟨by omega, rfl⟩
      rw [hadd, ok_bind]
      dsimp only
      split
      · rfl
      · rw [shl, check_of (by omega)]
        rfl
    · rfl

lemma writeByte_eq {bits : LogicalBits} (hs : bits.startBit.toNat < 8)
    (hlt : bits.startBit.toNat + bits.bitLength.toNat < 2 ^ 16) {image buf : List UInt8}
    {byte : UInt8} {pdoOffset i : ℕ} (hbyte : image[pdoOffset + i]? = some byte)
    (hbuf : i < buf.length) :
    bits.writeByte pdoOffset bits.touched buf i image =
      .ok (image.set (pdoOffset + i) (bits.written byte buf i)) := by
  have hget {k : ℕ} (hk : k < buf.length) : index buf k = .ok (buf.getD k 0) := by
    rw [index_of_lt hk, List.getD_eq_getElem _ _ hk]
  have hset : setIndex image (pdoOffset + i) (bits.written byte buf i) =
      .ok (image.set (pdoOffset + i) (bits.written byte buf i)) :=
    setIndex_eq_ok_iff.mpr ⟨(List.getElem?_eq_some_iff.mp hbyte).1, rfl⟩
  rw [writeByte, index_eq_ok_iff.mpr hbyte, ok_bind, clearByte_eq hs hlt, ok_bind, hget hbuf,
    ok_bind, shl, check_of hs, ok_bind, ← hset, written]
  split
  · next hcarry =>
      have hpos : bits.startBit.toNat ≠ 0 := fun h => hcarry.2 (UInt8.toNat_inj.mp h)
      rw [hget (by omega), ok_bind, sub_of_le (by omega), ok_bind, shr, check_of (by omega)]
      rfl
  · rw [UInt8.or_zero]
    rfl

/-- What is kept of a byte of the image: the bits before the entry, and those behind it if it goes over
more than one byte. -/
lemma byteBit_cleared {bits : LogicalBits} (hs : bits.startBit.toNat < 8) {i t : ℕ}
    (hi : i < bits.touched) (ht : t < 8) (byte : UInt8) :
    byteBit (bits.cleared i byte) t = (byteBit byte t &&
      decide (8 * i + t < bits.startBit.toNat ∨
        (bits.startBit.toNat + bits.bitLength.toNat ≤ 8 * i + t ∧ bits.touched ≠ 1))) := by
  have htouched : bits.touched = (bits.startBit.toNat + bits.bitLength.toNat + 7) / 8 := rfl
  have hzero : bits.startBit = 0 ↔ bits.startBit.toNat = 0 :=
    ⟨fun h => congrArg UInt8.toNat h, fun h => UInt8.toNat_inj.mp h⟩
  have hdecide {p q : Prop} [Decidable p] [Decidable q] (h : p ↔ q) : decide p = decide q :=
    decide_eq_decide.mpr h
  rw [cleared]
  simp only [hzero]
  split
  · split
    · rw [byteBit_zero, decide_eq_false (by omega), Bool.and_false]
    · rw [byteBit_and, byteBit_shiftRight _ (by omega)]
      by_cases hbefore : t < bits.startBit.toNat
      · rw [byteBit_ones (by omega), decide_eq_true (by omega)]
      · rw [byteBit_of_le 0xFF (by omega), decide_eq_false (by omega)]
  · split
    · split
      · rw [byteBit_zero, decide_eq_false (by omega), Bool.and_false]
      · rw [byteBit_and, byteBit_shiftLeft _ (by omega) ht, byteBit_ones (by omega), Bool.and_true]
        exact congrArg _ (hdecide (by omega))
    · rw [byteBit_zero, decide_eq_false (by omega), Bool.and_false]

/-- The bits of a byte that is written: those kept, and from the start bit on those of the buffer. -/
lemma byteBit_written {bits : LogicalBits} (hs : bits.startBit.toNat < 8) {i t : ℕ}
    (hi : i < bits.touched) (ht : t < 8) (byte : UInt8) (buf : List UInt8) :
    byteBit (bits.written byte buf i) t = ((byteBit byte t &&
      decide (8 * i + t < bits.startBit.toNat ∨
        (bits.startBit.toNat + bits.bitLength.toNat ≤ 8 * i + t ∧ bits.touched ≠ 1))) ||
      (decide (bits.startBit.toNat ≤ 8 * i + t) && bitAt buf (8 * i + t - bits.startBit.toNat))) := by
  have hzero : bits.startBit = 0 ↔ bits.startBit.toNat = 0 :=
    ⟨fun h => congrArg UInt8.toNat h, fun h => UInt8.toNat_inj.mp h⟩
  rw [written, byteBit_or, byteBit_or, byteBit_cleared hs hi ht, byteBit_shiftLeft _ hs ht,
    Bool.or_assoc]
  simp only [ne_eq, hzero]
  refine congrArg _ ?_
  by_cases hle : bits.startBit.toNat ≤ t
  · -- the bit comes from the byte of the buffer with the same index
    have hnext : byteBit (if 1 ≤ i ∧ ¬ bits.startBit.toNat = 0 then
        buf.getD (i - 1) 0 >>> UInt8.ofNat (8 - bits.startBit.toNat) else 0) t = false := by
      split
      · rw [byteBit_shiftRight _ (by omega), byteBit_of_le _ (by omega)]
      · exact byteBit_zero t
    rw [hnext, decide_eq_true hle, decide_eq_true (by omega), Bool.or_false,
      Nat.add_sub_assoc hle, bitAt_eq_byteBit _ _ (by omega)]
  · rw [decide_eq_false hle, Bool.false_and, Bool.false_or]
    by_cases hfirst : i = 0
    · rw [if_neg (by omega), byteBit_zero, decide_eq_false (by omega), Bool.false_and]
    · -- it comes from the byte before
      have hindex : 8 * i + t - bits.startBit.toNat =
          8 * (i - 1) + (t + (8 - bits.startBit.toNat)) := by omega
      rw [if_pos (by omega), byteBit_shiftRight _ (by omega), decide_eq_true (by omega), hindex,
        bitAt_eq_byteBit _ _ (by omega), Bool.true_and]

section

variable {bits : LogicalBits} {logicalAddressOffset : UInt32} {image buf : List UInt8}

lemma Lies.touched_pos (h : bits.Lies logicalAddressOffset image) : 1 ≤ bits.touched := by
  have := h.bitLength
  rw [touched]
  omega

/-- The range lies in the image, so the function gets to its loop. -/
lemma writeFromBuffer_eq (h : bits.Lies logicalAddressOffset image)
    (hlt : bits.startBit.toNat + bits.bitLength.toNat < 2 ^ 16) :
    bits.writeFromBuffer logicalAddressOffset image buf =
      ((List.range bits.touched).foldlM (fun image i =>
        bits.writeByte (bits.offset logicalAddressOffset) bits.touched buf i image) image >>=
          fun image => .ok (some (), image)) := by
  obtain ⟨address, haddress⟩ := Option.isSome_iff_exists.mp h.address
  have hoffset : sub address.toNat logicalAddressOffset.toNat =
      .ok (bits.offset logicalAddressOffset) := by
    have hle := h.le
    rw [haddress] at hle
    rw [offset, haddress]
    exact sub_of_le hle
  have hpos := h.touched_pos
  have hlast : bits.offset logicalAddressOffset + bits.touched - 1 < image.length := by
    have := h.inImage
    omega
  rw [writeFromBuffer, byteLength_eq hlt, ok_bind, haddress]
  dsimp only
  rw [hoffset, ok_bind, sub_of_le (by omega), ok_bind, List.getElem?_eq_getElem hlast]

/-- The loop writes every byte of the range. -/
lemma exists_writeFromBuffer (h : bits.Lies logicalAddressOffset image)
    (hlt : bits.startBit.toNat + bits.bitLength.toNat < 2 ^ 16)
    (hsource : bits.touched ≤ buf.length) :
    ∃ image', bits.writeFromBuffer logicalAddressOffset image buf = .ok (some (), image') ∧
      image'.length = image.length ∧ ∀ j : ℕ, image'[j]? =
        if bits.offset logicalAddressOffset ≤ j ∧
            j < bits.offset logicalAddressOffset + bits.touched then
          some (bits.written (image.getD j 0) buf (j - bits.offset logicalAddressOffset))
        else image[j]? := by
  have hin := h.inImage
  obtain ⟨image', hloop, hlength, hget⟩ := foldlM_set hin (g := fun i =>
      bits.written (image.getD (bits.offset logicalAddressOffset + i) 0) buf i)
    (f := fun image i => bits.writeByte (bits.offset logicalAddressOffset) bits.touched buf i image)
    fun i hi t _ hkept => by
      have hbyte : t[bits.offset logicalAddressOffset + i]? =
          some (image.getD (bits.offset logicalAddressOffset + i) 0) := by
        rw [hkept, List.getElem?_eq_getElem (by omega), List.getD_eq_getElem _ _ (by omega)]
      exact writeByte_eq h.startBit hlt hbyte (by omega)
  refine ⟨image', ?_, hlength, fun j => ?_⟩
  · rw [writeFromBuffer_eq h hlt, hloop]
    rfl
  · rw [hget]
    split
    · next hj => rw [Nat.add_sub_cancel' hj.1]
    · rfl

/-- If it returns, the length did not overflow and the buffer had all bytes that are read. -/
lemma le_of_writeFromBuffer_eq_ok (h : bits.Lies logicalAddressOffset image) {image' : List UInt8}
    (hok : bits.writeFromBuffer logicalAddressOffset image buf = .ok (some (), image')) :
    bits.startBit.toNat + bits.bitLength.toNat < 2 ^ 16 ∧ bits.touched ≤ buf.length := by
  obtain ⟨size, hsize, -⟩ := bind_eq_ok.mp hok
  have hlt := lt_of_byteLength_eq_ok hsize
  refine ⟨hlt, ?_⟩
  rw [writeFromBuffer_eq h hlt] at hok
  obtain ⟨t, hloop, -⟩ := bind_eq_ok.mp hok
  obtain ⟨n, hn⟩ := Nat.exists_eq_add_of_le' h.touched_pos
  rw [hn] at hloop
  obtain ⟨s, hlast⟩ := exists_last_of_foldlM hloop
  obtain ⟨_, _, hlast⟩ := bind_eq_ok.mp hlast
  obtain ⟨_, _, hlast⟩ := bind_eq_ok.mp hlast
  obtain ⟨byte, hindex, -⟩ := bind_eq_ok.mp hlast
  have := (List.getElem?_eq_some_iff.mp (index_eq_ok_iff.mp hindex)).1
  omega

/-- The bits of the image afterwards. -/
lemma bitAt_writeFromBuffer (h : bits.Lies logicalAddressOffset image) {image' : List UInt8}
    (hget : ∀ j : ℕ, image'[j]? = if bits.offset logicalAddressOffset ≤ j ∧
        j < bits.offset logicalAddressOffset + bits.touched then
      some (bits.written (image.getD j 0) buf (j - bits.offset logicalAddressOffset))
      else image[j]?) :
    (∀ j < 8 * bits.touched, bits.imageBit logicalAddressOffset image' j =
      ((bits.imageBit logicalAddressOffset image j &&
        decide (j < bits.startBit.toNat ∨
          (bits.startBit.toNat + bits.bitLength.toNat ≤ j ∧ bits.touched ≠ 1))) ||
        (decide (bits.startBit.toNat ≤ j) && bitAt buf (j - bits.startBit.toNat)))) ∧
    ∀ j, j < 8 * bits.offset logicalAddressOffset ∨
        8 * (bits.offset logicalAddressOffset + bits.touched) ≤ j →
      bitAt image' j = bitAt image j := by
  constructor
  · intro j hj
    have hindex : 8 * bits.offset logicalAddressOffset + j =
        8 * (bits.offset logicalAddressOffset + j / 8) + j % 8 := by omega
    have hbyte : image'.getD (bits.offset logicalAddressOffset + j / 8) 0 =
        bits.written (image.getD (bits.offset logicalAddressOffset + j / 8) 0) buf (j / 8) := by
      rw [List.getD_eq_getElem?_getD, hget, if_pos (by omega), Option.getD_some,
        Nat.add_sub_cancel_left]
    rw [imageBit, imageBit, hindex, bitAt_eq_byteBit _ _ (by omega), bitAt_eq_byteBit _ _ (by omega),
      hbyte, byteBit_written h.startBit (by omega) (by omega), Nat.div_add_mod]
  · intro j hj
    rw [bitAt, bitAt, List.getD_eq_getElem?_getD, List.getD_eq_getElem?_getD, hget,
      if_neg (by omega)]

/-- **When writing an entry does what it should**: if and only if the bits behind it in its last byte
are kept. -/
theorem writesEntry_iff (h : bits.Lies logicalAddressOffset image) :
    bits.WritesEntry logicalAddressOffset image buf ↔
      bits.KeepsTail logicalAddressOffset image buf := by
  have htouched : bits.touched = (bits.startBit.toNat + bits.bitLength.toNat + 7) / 8 := rfl
  have hpos := h.bitLength
  constructor
  · rintro ⟨image', hok, -, -, hrest⟩
    obtain ⟨hlt, hsource⟩ := le_of_writeFromBuffer_eq_ok h hok
    obtain ⟨image'', hok', -, hget⟩ := exists_writeFromBuffer h hlt hsource
    rw [hok] at hok'
    cases hok'
    have hbits := (bitAt_writeFromBuffer h hget).1
    have htail (j : ℕ) (hj : bits.startBit.toNat + bits.bitLength.toNat ≤ j)
        (hj' : j < 8 * bits.touched) : bits.imageBit logicalAddressOffset image j =
          ((bits.imageBit logicalAddressOffset image j && decide (bits.touched ≠ 1)) ||
            bitAt buf (j - bits.startBit.toNat)) := by
      have hkept : bits.imageBit logicalAddressOffset image' j =
          bits.imageBit logicalAddressOffset image j := hrest _ (.inr (by omega))
      have hbit := hbits j hj'
      have hdecide : decide (j < bits.startBit.toNat ∨
          (bits.startBit.toNat + bits.bitLength.toNat ≤ j ∧ bits.touched ≠ 1)) =
            decide (bits.touched ≠ 1) := decide_eq_decide.mpr (by omega)
      rwa [hkept, hdecide, decide_eq_true (show bits.startBit.toNat ≤ j by omega),
        Bool.true_and] at hbit
    refine ⟨hlt, hsource, fun j hj hj' hbuf => ?_, fun hone j hj hj' himage => ?_⟩
    · rw [htail j hj hj', hbuf, Bool.or_true]
    · have := htail j hj (by omega)
      rw [himage, hone] at this
      simpa using this.symm
  · intro hkeeps
    obtain ⟨image', hok, hlength, hget⟩ := exists_writeFromBuffer h hkeeps.fits hkeeps.source
    obtain ⟨hbits, hout⟩ := bitAt_writeFromBuffer h hget
    refine ⟨image', hok, hlength, fun k hk => ?_, fun j hj => ?_⟩
    · rw [hbits _ (by omega), decide_eq_false (by omega), Bool.and_false, Bool.false_or,
        decide_eq_true (by omega), Bool.true_and, Nat.add_sub_cancel_left]
    · by_cases hrange : 8 * bits.offset logicalAddressOffset ≤ j ∧
          j < 8 * (bits.offset logicalAddressOffset + bits.touched)
      · obtain ⟨i, rfl⟩ := Nat.exists_eq_add_of_le hrange.1
        have hbit := hbits i (by omega)
        rw [imageBit, imageBit] at hbit
        rw [hbit]
        by_cases hbefore : i < bits.startBit.toNat
        · rw [decide_eq_true (by omega), decide_eq_false (by omega), Bool.and_true, Bool.false_and,
            Bool.or_false]
        · have hset := hkeeps.isSet i (by omega) (by omega)
          have hclear := fun hone => hkeeps.isClear hone i (by omega) (by omega)
          rw [imageBit] at hset hclear
          rw [decide_eq_true (show bits.startBit.toNat ≤ i by omega), Bool.true_and]
          by_cases hone : bits.touched = 1
          · rw [decide_eq_false (by omega), Bool.and_false, Bool.false_or]
            exact Bool.eq_iff_iff.mpr ⟨hset, hclear hone⟩
          · rw [decide_eq_true (by omega), Bool.and_true]
            cases himage : bitAt image (8 * bits.offset logicalAddressOffset + i)
            · rw [Bool.false_or]
              exact Bool.eq_false_iff.mpr fun hbuf => absurd (hset hbuf) (by simp [himage])
            · rfl
      · exact hout j (by omega)

/-- A bit in a byte of its own: the bits behind it are cleared. -/
theorem bitEntry_clears :
    Lies ⟨some 0x1000, 3, 1⟩ 0x1000 [0xFF] ∧
      ¬ WritesEntry ⟨some 0x1000, 3, 1⟩ 0x1000 [0xFF] [1] := by
  refine ⟨⟨rfl, by decide, by decide, by decide, by decide⟩, ?_⟩
  rintro ⟨image', hok, -, -, hrest⟩
  have hresult : writeFromBuffer ⟨some 0x1000, 3, 1⟩ 0x1000 [0xFF] [1] =
      .ok (some (), [0x0F]) := by decide +kernel
  rw [hresult] at hok
  cases hok
  have hkept := hrest 4 (.inr (by decide))
  revert hkept
  decide +kernel

/-- Twelve bits that end with a byte are written. -/
theorem twelveBits_written : WritesEntry ⟨some 0x1000, 4, 12⟩ 0x1000 [0xFF, 0xFF, 0xFF] [0x34, 2] := by
  refine (writesEntry_iff ⟨rfl, by decide, by decide, by decide, by decide⟩).mpr
    ⟨by decide, by decide, fun j hj hj' => ?_, fun hone => ?_⟩
  · have htouched : touched ⟨some 0x1000, 4, 12⟩ = 2 := rfl
    simp only [htouched, UInt8.reduceToNat, UInt16.reduceToNat] at hj hj'
    omega
  · cases hone

/-! ## Reading -/

/-- **What reading an entry should do**: the buffer has its bits, and zeros behind them in the bytes
that hold the entry. -/
def ReadsEntry (bits : LogicalBits) (logicalAddressOffset : UInt32) (image buf : List UInt8) :
    Prop :=
  ∃ buf', bits.readToBuffer logicalAddressOffset image buf = .ok (some (), buf') ∧
    (∀ k < bits.bitLength.toNat,
      bitAt buf' k = bits.imageBit logicalAddressOffset image (bits.startBit.toNat + k)) ∧
    ∀ k, bits.bitLength.toNat ≤ k → k < 8 * ((bits.bitLength.toNat + 7) / 8) → bitAt buf' k = false

/-- **An image that is read as it is.**  The buffer has a byte for each that is touched.  At each byte
boundary inside the entry, the bit behind the boundary is only set with the one before it
(`boundary`), and the bits that come to lie at the end of a byte of the buffer are equal to those
behind them (`shifted`).  Behind the entry, the bits that come to lie in the last byte of the value are
zero: those of the last byte that is touched, or the ones after them if the value has a byte less
(`clear`, `clearShifted`). -/
structure ReadsThrough (bits : LogicalBits) (logicalAddressOffset : UInt32)
    (image buf : List UInt8) : Prop where
  fits : bits.startBit.toNat + bits.bitLength.toNat < 2 ^ 16
  dest : bits.touched ≤ buf.length
  boundary : ∀ i, 8 * (i + 1) < bits.startBit.toNat + bits.bitLength.toNat →
    bits.imageBit logicalAddressOffset image (8 * (i + 1)) = true →
      bits.imageBit logicalAddressOffset image (8 * i + 7) = true
  shifted : ∀ i j, 8 * (i + 1) ≤ j → j < 8 * (i + 1) + bits.startBit.toNat →
    j < bits.startBit.toNat + bits.bitLength.toNat →
      bits.imageBit logicalAddressOffset image (j + 1) = bits.imageBit logicalAddressOffset image j
  clear : bits.touched = (bits.bitLength.toNat + 7) / 8 → ∀ j,
    bits.startBit.toNat + bits.bitLength.toNat ≤ j → j < 8 * bits.touched →
      bits.imageBit logicalAddressOffset image j = false
  clearShifted : bits.touched ≠ (bits.bitLength.toNat + 7) / 8 → ∀ j,
    bits.startBit.toNat + bits.bitLength.toNat ≤ j →
    j < bits.startBit.toNat + 8 * ((bits.bitLength.toNat + 7) / 8) →
      bits.imageBit logicalAddressOffset image (j + 1) = false

/-- The byte of the buffer that is read. -/
def stitched (bits : LogicalBits) (logicalAddressOffset : UInt32) (image : List UInt8) (i : ℕ) :
    UInt8 :=
  image.getD (bits.offset logicalAddressOffset + i) 0 >>> UInt8.ofNat bits.startBit.toNat |||
    image.getD (bits.offset logicalAddressOffset + i + 1) 0 <<<
      UInt8.ofNat (7 - bits.startBit.toNat)

lemma readByte_eq (h : bits.Lies logicalAddressOffset image) {i : ℕ} (hi : i + 1 < bits.touched)
    {t : List UInt8} (ht : i < t.length) :
    bits.readByte (bits.offset logicalAddressOffset) image i t =
      .ok (t.set i (bits.stitched logicalAddressOffset image i)) := by
  have hin := h.inImage
  have hs := h.startBit
  have hget {k : ℕ} (hk : k < image.length) : index image k = .ok (image.getD k 0) := by
    rw [index_of_lt hk, List.getD_eq_getElem _ _ hk]
  rw [readByte, hget (by omega), ok_bind, shr, check_of hs, ok_bind, hget (by omega), ok_bind,
    sub_of_le (by omega), ok_bind, shl, check_of (by omega), ok_bind]
  exact setIndex_eq_ok_iff.mpr ⟨ht, rfl⟩

/-- The range lies in the image and the bytes in the buffer, so the function gets to its loop. -/
lemma readToBuffer_eq (h : bits.Lies logicalAddressOffset image)
    (hlt : bits.startBit.toNat + bits.bitLength.toNat < 2 ^ 16) :
    bits.readToBuffer logicalAddressOffset image buf =
      if bits.touched ≤ buf.length then
        ((List.range (bits.touched - 1)).foldlM (fun buf i =>
          bits.readByte (bits.offset logicalAddressOffset) image i buf) buf >>= fun buf =>
            setIndex buf (bits.touched - 1)
              (image.getD (bits.offset logicalAddressOffset + (bits.touched - 1)) 0 >>>
                UInt8.ofNat bits.startBit.toNat) >>= fun buf => .ok (some (), buf))
      else .ok (none, buf) := by
  obtain ⟨address, haddress⟩ := Option.isSome_iff_exists.mp h.address
  have hoffset : sub address.toNat logicalAddressOffset.toNat =
      .ok (bits.offset logicalAddressOffset) := by
    have hle := h.le
    rw [haddress] at hle
    rw [offset, haddress]
    exact sub_of_le hle
  have hpos := h.touched_pos
  have hin := h.inImage
  have hlast : bits.offset logicalAddressOffset + bits.touched - 1 < image.length := by omega
  have hindex : bits.offset logicalAddressOffset + bits.touched - 1 =
      bits.offset logicalAddressOffset + (bits.touched - 1) := by omega
  rw [readToBuffer, byteLength_eq hlt, ok_bind, haddress]
  dsimp only
  rw [hoffset, ok_bind, sub_of_le (by omega), ok_bind, List.getElem?_eq_getElem hlast]
  dsimp only
  rw [sub_of_le (by omega), ok_bind]
  by_cases hdest : bits.touched ≤ buf.length
  · rw [if_pos hdest, List.getElem?_eq_getElem (by omega)]
    dsimp only
    simp only [shr, check_of h.startBit, ok_bind, ← hindex, List.getD_eq_getElem _ _ hlast]
  · rw [if_neg hdest, List.getElem?_eq_none (by omega)]

lemma imageBit_eq_byteBit (bits : LogicalBits) (logicalAddressOffset : UInt32) (image : List UInt8)
    (i : ℕ) {t : ℕ} (ht : t < 8) : bits.imageBit logicalAddressOffset image (8 * i + t) =
      byteBit (image.getD (bits.offset logicalAddressOffset + i) 0) t := by
  rw [imageBit, ← Nat.add_assoc, ← Nat.mul_add, bitAt_eq_byteBit _ _ ht]

lemma byteBit_shiftedImage (hs : bits.startBit.toNat < 8) (i t : ℕ) :
    byteBit (image.getD (bits.offset logicalAddressOffset + i) 0 >>>
        UInt8.ofNat bits.startBit.toNat) t =
      (decide (t + bits.startBit.toNat < 8) &&
        bits.imageBit logicalAddressOffset image (bits.startBit.toNat + (8 * i + t))) := by
  rw [byteBit_shiftRight _ hs]
  by_cases hlt : t + bits.startBit.toNat < 8
  · rw [decide_eq_true hlt, Bool.true_and,
      show bits.startBit.toNat + (8 * i + t) = 8 * i + (t + bits.startBit.toNat) by omega,
      imageBit_eq_byteBit _ _ _ _ hlt]
  · rw [decide_eq_false hlt, Bool.false_and, byteBit_of_le _ (by omega)]

lemma byteBit_stitched (hs : bits.startBit.toNat < 8) (i : ℕ) {t : ℕ} (ht : t < 8) :
    byteBit (bits.stitched logicalAddressOffset image i) t =
      ((decide (t + bits.startBit.toNat < 8) &&
        bits.imageBit logicalAddressOffset image (bits.startBit.toNat + (8 * i + t))) ||
      (decide (7 ≤ t + bits.startBit.toNat) &&
        bits.imageBit logicalAddressOffset image (bits.startBit.toNat + (8 * i + t) + 1))) := by
  rw [stitched, byteBit_or, byteBit_shiftedImage hs, byteBit_shiftLeft _ (by omega) ht]
  refine congrArg _ ?_
  by_cases hle : 7 ≤ t + bits.startBit.toNat
  · have hindex : bits.startBit.toNat + (8 * i + t) + 1 =
        8 * (i + 1) + (t - (7 - bits.startBit.toNat)) := by omega
    rw [decide_eq_true hle, decide_eq_true (by omega), hindex, imageBit_eq_byteBit _ _ _ _ (by omega)]
    rfl
  · rw [decide_eq_false hle, decide_eq_false (by omega), Bool.false_and, Bool.false_and]

/-- The bits of the buffer after it is read into: a bit of the byte itself, and in all bytes but the
last from bit `7 - s` on the one behind it. -/
lemma exists_readToBuffer (h : bits.Lies logicalAddressOffset image)
    (hlt : bits.startBit.toNat + bits.bitLength.toNat < 2 ^ 16)
    (hdest : bits.touched ≤ buf.length) :
    ∃ buf', bits.readToBuffer logicalAddressOffset image buf = .ok (some (), buf') ∧
      ∀ k < 8 * bits.touched, bitAt buf' k =
        ((decide (k % 8 + bits.startBit.toNat < 8) &&
          bits.imageBit logicalAddressOffset image (bits.startBit.toNat + k)) ||
        (decide (k / 8 + 1 < bits.touched ∧ 7 ≤ k % 8 + bits.startBit.toNat) &&
          bits.imageBit logicalAddressOffset image (bits.startBit.toNat + k + 1))) := by
  have hpos := h.touched_pos
  obtain ⟨buf', hloop, hlength, hget⟩ := foldlM_set
    (show 0 + (bits.touched - 1) ≤ buf.length by omega) (g := bits.stitched logicalAddressOffset image)
    (f := fun buf i => bits.readByte (bits.offset logicalAddressOffset) image i buf)
    fun i hi t ht _ => by
      rw [Nat.zero_add]
      exact readByte_eq h (by omega) (by omega)
  refine ⟨buf'.set (bits.touched - 1) (image.getD (bits.offset logicalAddressOffset +
    (bits.touched - 1)) 0 >>> UInt8.ofNat bits.startBit.toNat), ?_, fun k hk => ?_⟩
  · rw [readToBuffer_eq h hlt, if_pos hdest, hloop, ok_bind,
      setIndex_eq_ok_iff.mpr ⟨by omega, rfl⟩]
    rfl
  · have hindex : k = 8 * (k / 8) + k % 8 := (Nat.div_add_mod k 8).symm
    have hbit : bitAt (buf'.set (bits.touched - 1) (image.getD (bits.offset logicalAddressOffset +
        (bits.touched - 1)) 0 >>> UInt8.ofNat bits.startBit.toNat)) k =
      byteBit ((buf'.set (bits.touched - 1) (image.getD (bits.offset logicalAddressOffset +
        (bits.touched - 1)) 0 >>> UInt8.ofNat bits.startBit.toNat)).getD (k / 8) 0) (k % 8) := rfl
    rw [hbit, List.getD_eq_getElem?_getD, List.getElem?_set]
    by_cases hlast : bits.touched - 1 = k / 8
    · rw [if_pos hlast, if_pos (by omega), Option.getD_some, byteBit_shiftedImage h.startBit, hlast,
        ← hindex, decide_eq_false (p := k / 8 + 1 < bits.touched ∧ _) (by omega), Bool.false_and,
        Bool.or_false]
    · rw [if_neg hlast, hget, if_pos (by omega), Option.getD_some, Nat.sub_zero,
        byteBit_stitched h.startBit _ (Nat.mod_lt _ (by decide)), ← hindex]
      refine congrArg (fun b => _ || (b && _)) (decide_eq_decide.mpr ?_)
      omega

/-- **When reading an entry gives its bits**: if and only if the image is read as it is. -/
theorem readsEntry_iff (h : bits.Lies logicalAddressOffset image) :
    bits.ReadsEntry logicalAddressOffset image buf ↔
      bits.ReadsThrough logicalAddressOffset image buf := by
  have htouched : bits.touched = (bits.startBit.toNat + bits.bitLength.toNat + 7) / 8 := rfl
  have hs := h.startBit
  have hpos := h.bitLength
  constructor
  · rintro ⟨buf', hok, hentry, hzero⟩
    obtain ⟨size, hsize, -⟩ := bind_eq_ok.mp hok
    have hlt := lt_of_byteLength_eq_ok hsize
    have hdest : bits.touched ≤ buf.length := by
      by_contra hnot
      rw [readToBuffer_eq h hlt, if_neg hnot] at hok
      cases hok
    obtain ⟨buf'', hok', hbits⟩ := exists_readToBuffer h hlt hdest
    rw [hok] at hok'
    cases hok'
    refine ⟨hlt, hdest, fun i hi hnext => ?_, fun i j hj hj' hin => ?_, fun hsame j hj hj' => ?_,
      fun hless j hj hj' => ?_⟩
    · -- the last bit of a byte of the buffer that the byte itself gives
      have hbit := hbits (8 * i + 7 - bits.startBit.toNat) (by omega)
      have hindex : bits.startBit.toNat + (8 * i + 7 - bits.startBit.toNat) = 8 * i + 7 := by omega
      rw [hentry _ (by omega), hindex,
        decide_eq_true (p := (8 * i + 7 - bits.startBit.toNat) / 8 + 1 < bits.touched ∧ _) (by omega),
        show 8 * i + 7 + 1 = 8 * (i + 1) by omega, hnext, Bool.and_true, Bool.or_true] at hbit
      exact hbit
    · -- a bit that the next byte gives
      have hbit := hbits (j - bits.startBit.toNat) (by omega)
      have hindex : bits.startBit.toNat + (j - bits.startBit.toNat) = j := by omega
      rw [hentry _ (by omega), hindex, decide_eq_false (by omega), Bool.false_and, Bool.false_or,
        decide_eq_true (by omega), Bool.true_and] at hbit
      exact hbit.symm
    · have hbit := hbits (j - bits.startBit.toNat) (by omega)
      have hindex : bits.startBit.toNat + (j - bits.startBit.toNat) = j := by omega
      rw [hzero _ (by omega) (by omega), hindex, decide_eq_true (by omega), Bool.true_and,
        decide_eq_false (by omega), Bool.false_and, Bool.or_false] at hbit
      exact hbit.symm
    · have hbit := hbits (j - bits.startBit.toNat) (by omega)
      have hindex : bits.startBit.toNat + (j - bits.startBit.toNat) = j := by omega
      rw [hzero _ (by omega) (by omega), hindex, decide_eq_false (by omega), Bool.false_and,
        Bool.false_or, decide_eq_true (by omega), Bool.true_and] at hbit
      exact hbit.symm
  · intro hreads
    obtain ⟨buf', hok, hbits⟩ := exists_readToBuffer h hreads.fits hreads.dest
    refine ⟨buf', hok, fun k hk => ?_, fun k hk hk' => ?_⟩
    · rw [hbits k (by omega)]
      by_cases hown : k % 8 + bits.startBit.toNat < 8
      · rw [decide_eq_true hown, Bool.true_and]
        by_cases hend : k / 8 + 1 < bits.touched ∧ 7 ≤ k % 8 + bits.startBit.toNat
        · have hboundary := hreads.boundary (k / 8) (by omega)
          rw [show 8 * (k / 8 + 1) = bits.startBit.toNat + k + 1 by omega,
            show 8 * (k / 8) + 7 = bits.startBit.toNat + k by omega] at hboundary
          rw [decide_eq_true hend, Bool.true_and, Bool.or_eq_left_iff_imp]
          exact hboundary
        · rw [decide_eq_false hend, Bool.false_and, Bool.or_false]
      · rw [decide_eq_false hown, Bool.false_and, Bool.false_or, decide_eq_true (by omega),
          Bool.true_and]
        exact hreads.shifted (k / 8) _ (by omega) (by omega) (by omega)
    · rw [hbits k (by omega)]
      by_cases hsame : bits.touched = (bits.bitLength.toNat + 7) / 8
      · rw [decide_eq_false (p := k / 8 + 1 < bits.touched ∧ _) (by omega), Bool.false_and,
          Bool.or_false]
        by_cases hown : k % 8 + bits.startBit.toNat < 8
        · rw [hreads.clear hsame _ (by omega) (by omega), Bool.and_false]
        · rw [decide_eq_false hown, Bool.false_and]
      · rw [decide_eq_false (by omega), Bool.false_and, Bool.false_or,
          hreads.clearShifted hsame _ (by omega) (by omega), Bool.and_false]

/-- Two bytes from a byte boundary on: the last bit of the first byte of the value is set by the first
bit of the second byte of the image. -/
theorem twoBytes_mixed :
    Lies ⟨some 0x1000, 0, 16⟩ 0x1000 [0, 1] ∧
      ¬ ReadsEntry ⟨some 0x1000, 0, 16⟩ 0x1000 [0, 1] [0, 0] := by
  refine ⟨⟨rfl, by decide, by decide, by decide, by decide⟩, ?_⟩
  rintro ⟨buf', hok, hentry, -⟩
  have hresult : readToBuffer ⟨some 0x1000, 0, 16⟩ 0x1000 [0, 1] [0, 0] =
      .ok (some (), [0x80, 1]) := by decide +kernel
  rw [hresult] at hok
  cases hok
  have hbit := hentry 7 (by decide)
  revert hbit
  decide +kernel

/-- The upper half of a byte is read. -/
theorem fourBits_read : ReadsEntry ⟨some 0x1000, 4, 4⟩ 0x1000 [0x5A, 0xFF] [0] := by
  refine (readsEntry_iff ⟨rfl, by decide, by decide, by decide, by decide⟩).mpr
    ⟨by decide, by decide, fun i hi => ?_, fun i j hj hj' hin => ?_, fun _ j hj hj' => ?_,
      fun hless => absurd rfl hless⟩
  · simp only [UInt8.reduceToNat, UInt16.reduceToNat] at hi
    omega
  · simp only [UInt8.reduceToNat, UInt16.reduceToNat] at hin
    omega
  · have htouched : touched ⟨some 0x1000, 4, 4⟩ = 1 := rfl
    simp only [htouched, UInt8.reduceToNat, UInt16.reduceToNat] at hj hj'
    omega

end

end EtherCat.LogicalBits

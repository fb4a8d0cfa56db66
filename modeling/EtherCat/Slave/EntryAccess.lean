import EtherCat.Slave.EntryBits

/-!
# Accesses to an entry that is not there

An entry may touch no byte, lie before or behind the image, or be longer than the buffer.  Both
functions answer `None` where the image ends before the entry, and leave everything as it is then.
The other cases panic (`accessesSafely_iff`): an address below the start of the image, an entry
without bits whose place is in the image or right behind it, and a buffer too short to be written
from.
-/

namespace EtherCat.LogicalBits

open Rust Rust.Exec

/-- **What an access should do**: return, and change nothing where it returns `None`. -/
def AccessesSafely (bits : LogicalBits) (logicalAddressOffset : UInt32) (image buf : List UInt8) :
    Prop :=
  (∃ result buf', bits.readToBuffer logicalAddressOffset image buf = .ok (result, buf') ∧
    (result = none → buf' = buf)) ∧
  ∃ result image', bits.writeFromBuffer logicalAddressOffset image buf = .ok (result, image') ∧
    (result = none → image' = image)

/-- The address is not below the start of the image, an entry that touches no byte has its place
behind the image, and where the entry lies in the image the buffer has all its bytes. -/
def InReach (bits : LogicalBits) (logicalAddressOffset : UInt32) (image buf : List UInt8) : Prop :=
  ∀ address, bits.logicalAddress = some address →
    logicalAddressOffset.toNat ≤ address.toNat ∧
    (bits.touched = 0 → image.length < bits.offset logicalAddressOffset) ∧
    (bits.offset logicalAddressOffset + bits.touched ≤ image.length → bits.touched ≤ buf.length)

section

variable {bits : LogicalBits} {logicalAddressOffset address : UInt32} {image buf : List UInt8}

lemma offset_of_address (haddress : bits.logicalAddress = some address) :
    bits.offset logicalAddressOffset = address.toNat - logicalAddressOffset.toNat := by
  rw [offset, haddress]
  rfl

/-! ## Up to the first byte that is looked at -/

/-- The subtractions before the image is looked at. -/
lemma readToBuffer_subtracts (hlt : bits.startBit.toNat + bits.bitLength.toNat < 2 ^ 16)
    (haddress : bits.logicalAddress = some address) {result : Option Unit × List UInt8}
    (h : bits.readToBuffer logicalAddressOffset image buf = .ok result) :
    logicalAddressOffset.toNat ≤ address.toNat ∧
      1 ≤ bits.offset logicalAddressOffset + bits.touched := by
  rw [readToBuffer, byteLength_eq hlt, ok_bind, haddress] at h
  obtain ⟨pdoOffset, hoffset, h⟩ := bind_eq_ok.mp h
  obtain ⟨hle, rfl⟩ := sub_eq_ok_iff.mp hoffset
  obtain ⟨last, hlast, -⟩ := bind_eq_ok.mp h
  rw [offset_of_address haddress]
  exact ⟨hle, (sub_eq_ok_iff.mp hlast).1⟩

lemma readToBuffer_of_le (hlt : bits.startBit.toNat + bits.bitLength.toNat < 2 ^ 16)
    (haddress : bits.logicalAddress = some address)
    (hle : logicalAddressOffset.toNat ≤ address.toNat)
    (hpos : 1 ≤ bits.offset logicalAddressOffset + bits.touched) :
    bits.readToBuffer logicalAddressOffset image buf =
      (match image[bits.offset logicalAddressOffset + bits.touched - 1]? with
      | none => .ok (none, buf)
      | some lastByte => do
        let lastIndex ← sub bits.touched 1
        match buf[lastIndex]? with
        | none => .ok (none, buf)
        | some _ => do
          let buf ← (List.range lastIndex).foldlM
            (fun buf i => bits.readByte (bits.offset logicalAddressOffset) image i buf) buf
          let buf ← setIndex buf lastIndex (← shr lastByte bits.startBit.toNat)
          .ok (some (), buf)) := by
  rw [offset_of_address haddress] at hpos ⊢
  rw [readToBuffer, byteLength_eq hlt, ok_bind, haddress]
  dsimp only
  rw [sub_of_le hle, ok_bind, sub_of_le hpos]
  exact ok_bind _ _

lemma writeFromBuffer_of_le (hlt : bits.startBit.toNat + bits.bitLength.toNat < 2 ^ 16)
    (haddress : bits.logicalAddress = some address)
    (hle : logicalAddressOffset.toNat ≤ address.toNat)
    (hpos : 1 ≤ bits.offset logicalAddressOffset + bits.touched) :
    bits.writeFromBuffer logicalAddressOffset image buf =
      (match image[bits.offset logicalAddressOffset + bits.touched - 1]? with
      | none => .ok (none, image)
      | some _ => do
        let image ← (List.range bits.touched).foldlM (fun image i =>
          bits.writeByte (bits.offset logicalAddressOffset) bits.touched buf i image) image
        .ok (some (), image)) := by
  rw [offset_of_address haddress] at hpos ⊢
  rw [writeFromBuffer, byteLength_eq hlt, ok_bind, haddress]
  dsimp only
  rw [sub_of_le hle, ok_bind, sub_of_le hpos]
  exact ok_bind _ _

/-! ## The loops -/

/-- A turn that reads returns where both bytes are in the image and the byte in the buffer. -/
lemma exists_readByte (hs : bits.startBit.toNat < 8) {pdoOffset i : ℕ}
    (himage : pdoOffset + i + 1 < image.length) {t : List UInt8} (ht : i < t.length) :
    ∃ t', bits.readByte pdoOffset image i t = .ok t' ∧ t'.length = t.length := by
  refine ⟨t.set i (image[pdoOffset + i] >>> UInt8.ofNat bits.startBit.toNat |||
    image[pdoOffset + i + 1] <<< UInt8.ofNat (7 - bits.startBit.toNat)), ?_, List.length_set ..⟩
  rw [readByte, index_of_lt (by omega), ok_bind, shr, check_of hs, ok_bind, index_of_lt himage,
    ok_bind, sub_of_le (by omega), ok_bind, shl, check_of (by omega), ok_bind]
  exact setIndex_eq_ok_iff.mpr ⟨ht, rfl⟩

lemma exists_readLoop (hs : bits.startBit.toNat < 8) {pdoOffset n : ℕ}
    (himage : pdoOffset + n < image.length) (hbuf : n < buf.length) :
    ∃ t, (List.range n).foldlM (fun buf i => bits.readByte pdoOffset image i buf) buf = .ok t ∧
      t.length = buf.length := by
  refine exists_foldlM_of_length (fun i hi s hlength => ?_) rfl
  rw [List.mem_range] at hi
  have hbyte : pdoOffset + i + 1 < image.length := by omega
  obtain ⟨t, hturn, ht⟩ := exists_readByte hs hbyte (t := s) (by omega)
  exact ⟨t, hturn, ht.trans hlength⟩

lemma exists_writeLoop (hs : bits.startBit.toNat < 8)
    (hlt : bits.startBit.toNat + bits.bitLength.toNat < 2 ^ 16) {pdoOffset : ℕ}
    (himage : pdoOffset + bits.touched ≤ image.length) (hbuf : bits.touched ≤ buf.length) :
    ∃ t, (List.range bits.touched).foldlM
      (fun image i => bits.writeByte pdoOffset bits.touched buf i image) image = .ok t := by
  have hturn : ∀ i ∈ List.range bits.touched, ∀ s : List UInt8, s.length = image.length →
      ∃ t, bits.writeByte pdoOffset bits.touched buf i s = .ok t ∧ t.length = image.length := by
    intro i hi s hlength
    rw [List.mem_range] at hi
    have hbyte : s[pdoOffset + i]? = some s[pdoOffset + i] := List.getElem?_eq_getElem (by omega)
    exact ⟨_, writeByte_eq hs hlt hbyte (by omega), (List.length_set ..).trans hlength⟩
  obtain ⟨t, hloop, -⟩ := exists_foldlM_of_length hturn rfl
  exact ⟨t, hloop⟩

/-- The last turn reads the last byte of the buffer that is needed. -/
lemma touched_le_of_writeLoop {pdoOffset : ℕ} {t : List UInt8}
    (h : (List.range bits.touched).foldlM
      (fun image i => bits.writeByte pdoOffset bits.touched buf i image) image = .ok t) :
    bits.touched ≤ buf.length := by
  rcases Nat.eq_zero_or_pos bits.touched with hzero | hpos
  · omega
  · obtain ⟨n, hn⟩ := Nat.exists_eq_add_of_le' hpos
    rw [hn] at h ⊢
    obtain ⟨s, hlast⟩ := exists_last_of_foldlM h
    obtain ⟨_, _, hlast⟩ := bind_eq_ok.mp hlast
    obtain ⟨_, _, hlast⟩ := bind_eq_ok.mp hlast
    obtain ⟨byte, hindex, -⟩ := bind_eq_ok.mp hlast
    exact (List.getElem?_eq_some_iff.mp (index_eq_ok_iff.mp hindex)).1

/-! ## Both accesses -/

/-- Within reach there is a last byte to look for. -/
lemma InReach.pos (h : bits.InReach logicalAddressOffset image buf)
    (haddress : bits.logicalAddress = some address) :
    1 ≤ bits.offset logicalAddressOffset + bits.touched := by
  rcases Nat.eq_zero_or_pos bits.touched with hzero | hpos
  · have := (h address haddress).2.1 hzero
    omega
  · omega

lemma exists_readToBuffer_of_inReach (hs : bits.startBit.toNat < 8)
    (hlt : bits.startBit.toNat + bits.bitLength.toNat < 2 ^ 16)
    (h : bits.InReach logicalAddressOffset image buf) :
    ∃ result buf', bits.readToBuffer logicalAddressOffset image buf = .ok (result, buf') ∧
      (result = none → buf' = buf) := by
  rcases haddress : bits.logicalAddress with _ | address
  · exact ⟨none, buf, by rw [readToBuffer, byteLength_eq hlt, ok_bind, haddress], fun _ => rfl⟩
  obtain ⟨hle, hempty, -⟩ := h address haddress
  have hpos := h.pos haddress
  rw [readToBuffer_of_le hlt haddress hle hpos]
  rcases hlast : image[bits.offset logicalAddressOffset + bits.touched - 1]? with _ | lastByte
  · exact ⟨none, buf, rfl, fun _ => rfl⟩
  have himage := (List.getElem?_eq_some_iff.mp hlast).1
  have htouched : 1 ≤ bits.touched := by
    rcases Nat.eq_zero_or_pos bits.touched with hzero | hpos
    · have := hempty hzero
      omega
    · exact hpos
  dsimp only
  rw [sub_of_le htouched, ok_bind]
  rcases hbuf : buf[bits.touched - 1]? with _ | byte
  · exact ⟨none, buf, rfl, fun _ => rfl⟩
  have hlong := (List.getElem?_eq_some_iff.mp hbuf).1
  have hin : bits.offset logicalAddressOffset + (bits.touched - 1) < image.length := by omega
  obtain ⟨t, hloop, hlength⟩ := exists_readLoop hs hin hlong
  refine ⟨some (), t.set (bits.touched - 1) (lastByte >>> UInt8.ofNat bits.startBit.toNat), ?_,
    by rintro ⟨⟩⟩
  dsimp only
  rw [hloop, ok_bind, shr, check_of hs, ok_bind,
    setIndex_eq_ok_iff.mpr ⟨hlength ▸ hlong, rfl⟩, ok_bind]

lemma exists_writeFromBuffer_of_inReach (hs : bits.startBit.toNat < 8)
    (hlt : bits.startBit.toNat + bits.bitLength.toNat < 2 ^ 16)
    (h : bits.InReach logicalAddressOffset image buf) :
    ∃ result image', bits.writeFromBuffer logicalAddressOffset image buf = .ok (result, image') ∧
      (result = none → image' = image) := by
  rcases haddress : bits.logicalAddress with _ | address
  · exact ⟨none, image, by rw [writeFromBuffer, byteLength_eq hlt, ok_bind, haddress],
      fun _ => rfl⟩
  obtain ⟨hle, -, hbuf⟩ := h address haddress
  have hpos := h.pos haddress
  rw [writeFromBuffer_of_le hlt haddress hle hpos]
  rcases hlast : image[bits.offset logicalAddressOffset + bits.touched - 1]? with _ | lastByte
  · exact ⟨none, image, rfl, fun _ => rfl⟩
  have himage := (List.getElem?_eq_some_iff.mp hlast).1
  have hin : bits.offset logicalAddressOffset + bits.touched ≤ image.length := by omega
  obtain ⟨t, hloop⟩ := exists_writeLoop hs hlt hin (hbuf hin)
  exact ⟨some (), t, by rw [hloop, ok_bind], by rintro ⟨⟩⟩

/-- **When both accesses are safe**, for every entry with a start bit inside a byte whose bits can
be counted: exactly if the entry is within reach. -/
theorem accessesSafely_iff (hstart : bits.startBit.toNat < 8)
    (hlength : bits.bitLength.toNat ≤ 65535 - 7) :
    bits.AccessesSafely logicalAddressOffset image buf ↔
      bits.InReach logicalAddressOffset image buf := by
  have hlt : bits.startBit.toNat + bits.bitLength.toNat < 2 ^ 16 := by omega
  constructor
  · rintro ⟨⟨readResult, buf', hread, -⟩, ⟨writeResult, image', hwrite, -⟩⟩ address haddress
    obtain ⟨hle, hpos⟩ := readToBuffer_subtracts hlt haddress hread
    refine ⟨hle, fun hzero => ?_, fun hin => ?_⟩
    · rw [readToBuffer_of_le hlt haddress hle hpos] at hread
      by_contra hnot
      rw [List.getElem?_eq_getElem (by omega)] at hread
      obtain ⟨lastIndex, hlast, -⟩ := bind_eq_ok.mp hread
      have := (sub_eq_ok_iff.mp hlast).1
      omega
    · rw [writeFromBuffer_of_le hlt haddress hle hpos,
        List.getElem?_eq_getElem (by omega)] at hwrite
      obtain ⟨t, hloop, -⟩ := bind_eq_ok.mp hwrite
      exact touched_le_of_writeLoop hloop
  · intro h
    exact ⟨exists_readToBuffer_of_inReach hstart hlt h,
      exists_writeFromBuffer_of_inReach hstart hlt h⟩

end

/-- Twelve bits in two of three bytes. -/
theorem accessesSafely_iff_twelve :
    AccessesSafely ⟨some 0x1000, 4, 12⟩ 0x1000 [0xFF, 0xFF, 0xFF] [0x34, 2] ↔
      InReach ⟨some 0x1000, 4, 12⟩ 0x1000 [0xFF, 0xFF, 0xFF] [0x34, 2] :=
  accessesSafely_iff (by decide) (by decide)

/-- An entry without bits, an address below the start of the image, and two bytes that are to be
written from a buffer with one. -/
theorem accesses_panic :
    readToBuffer ⟨some 0x1000, 0, 0⟩ 0x1000 [0] [0] = .error .arithmetic ∧
      readToBuffer ⟨some 0xFFF, 0, 8⟩ 0x1000 [0] [0] = .error .arithmetic ∧
      writeFromBuffer ⟨some 0x1000, 0, 16⟩ 0x1000 [0, 0] [0] = .error .index ∧
      readToBuffer ⟨some 0x1000, 0, 16⟩ 0x1000 [0, 0] [0] = .ok (none, [0]) := by
  decide

end EtherCat.LogicalBits

import EtherCat.Foundation.Covered
import EtherCat.Frame.SdoRequest

/-!
# What a request leaves in the buffer

A request is written into the buffer of the socket, over whatever earlier traffic has left there.  The
setters write neither the address, the channel and the priority of the mailbox header nor the reserved
bits, and an upload request has four bytes of payload that nothing writes.  Two buffers give the same
message exactly if they agree there (`requestBytes_eq_iff`).
-/

namespace EtherCat

open Rust Rust.Exec BitField

namespace MailboxFrame

/-- The SDO part of a request. -/
def requestOf : Option (List UInt8) → SdoReq
  | some data => .downLoad data
  | none => .upload

/-- The mailbox message of a request: `set_count` and `set_mailbox`, and as many bytes as the mailbox
header announces. -/
def requestBytes (coeIndex : CoeIndex) (data : Option (List UInt8)) (mailboxCount : UInt8)
    (buffer : List UInt8) : Exec (Except LengthError Unit × List UInt8) := do
  let frame ← count.set buffer mailboxCount.toNat
  let (result, frame) ← setMailbox frame (requestMessage coeIndex data)
  .ok (result, announced frame)

/-- The bits of the message that are not written. -/
def LeftOver (data : Option (List UInt8)) (j : ℕ) : Prop :=
  (16 ≤ j ∧ j < 40) ∨ j = 47 ∨ (57 ≤ j ∧ j < 60) ∨ (data = none ∧ 96 ≤ j ∧ j < 128)

/-! ## The message -/

/-- The assignments of the mailbox header. -/
def headerOf (data : Option (List UInt8)) (mailboxCount : UInt8) : List (Field × ℕ) :=
  [(count, mailboxCount.toNat), (mailboxType, 3), (length, sdoReqLength (requestOf data) % 2 ^ 16)]

/-- The assignments of the CoE header. -/
def coeHeaderOf : List (Field × ℕ) := [(CoeFrame.number, 0), (CoeFrame.serviceType, 2)]

/-- The assignments of the SDO header. -/
def sdoHeader (coeIndex : CoeIndex) (data : Option (List UInt8)) : List (Field × ℕ) :=
  sdoHeaderOf (if data.isSome then 1 else 2) data.isSome coeIndex

/-- What follows the SDO header. -/
def payload (data : Option (List UInt8)) (bytes : List UInt8) : List UInt8 :=
  match data with
  | some data => SdoDownloadNormalRequestFrame.completeSize.put (bytes.take 4) data.length ++ data
  | none => bytes.take 4

/-- The four parts of the message. -/
def message (coeIndex : CoeIndex) (data : Option (List UInt8)) (mailboxCount : UInt8)
    (buffer : List UInt8) : List UInt8 :=
  Field.putAll (buffer.take 6) (headerOf data mailboxCount) ++
    (Field.putAll ((buffer.drop 6).take 2) coeHeaderOf ++
      (Field.putAll ((buffer.drop 8).take 4) (sdoHeader coeIndex data) ++
        payload data (buffer.drop 12)))

lemma take_append_add {a b : List UInt8} {m n : ℕ} (h : a.length = m) :
    (a ++ b).take (m + n) = a ++ b.take n := by
  subst h
  exact List.take_length_add_append n

/-- What follows the SDO header in the whole buffer. -/
def tail (data : Option (List UInt8)) (bytes : List UInt8) : List UInt8 :=
  match data with
  | some data =>
      SdoDownloadNormalRequestFrame.completeSize.put (bytes.take 4) data.length ++
        overwrite (bytes.drop 4) data
  | none => bytes

section

variable {coeIndex : CoeIndex} {data : Option (List UInt8)} {mailboxCount : UInt8}
  {buffer : List UInt8}

/-- A setter of the header changes nothing behind it. -/
lemma put_count (buffer : List UInt8) (hlong : 6 ≤ buffer.length) (v : ℕ) :
    (count.put buffer v).take 6 = count.put (buffer.take 6) v ∧
      ∀ n, 6 ≤ n → (count.put buffer v).drop n = buffer.drop n := by
  have hfits : count.Fits (buffer.take 6) :=
    Field.fits_of_le (n := 6) (by decide) (by rw [List.length_take]; omega)
  constructor
  · conv_lhs => rw [← List.take_append_drop 6 buffer]
    rw [Field.put_append_left hfits,
      List.take_left' (by rw [Field.length_put, List.length_take]; omega)]
  · exact fun n hn => Field.drop_put (Nat.lt_of_lt_of_le (by decide) hn) v

lemma setMailbox_request (hroom : 6 + sdoReqLength (requestOf data) ≤ buffer.length)
    (hlength : sdoReqLength (requestOf data) ≤ 2 ^ 16 - 1) :
    setMailbox buffer (requestMessage coeIndex data) =
      .ok (.ok (), mailboxHeader (requestOf data) (buffer.take 6) ++
        (coeHeader ((buffer.drop 6).take 2) ++
          (Field.putAll ((buffer.drop 8).take 4) (sdoHeader coeIndex data) ++
            tail data (buffer.drop 12)))) := by
  rcases data with _ | data
  · have hsize : sdoReqLength (requestOf none) = 10 := rfl
    exact setMailbox_upload (by omega)
  · have hsize : sdoReqLength (requestOf (some data)) = 10 + data.length := rfl
    have hdownload : setMailbox buffer (.coE coeIndex (.sdoReq (.downLoad data))) =
        .ok (.ok (), downloadBytes coeIndex data buffer) := setMailbox_downLoad (by omega) hlength
    rw [downloadBytes, ← List.drop_drop (i := 4) (j := 12)] at hdownload
    exact hdownload

lemma take_tail {n : ℕ} {bytes : List UInt8} (hn : sdoReqLength (requestOf data) = 6 + n)
    (hroom : n ≤ bytes.length) : (tail data bytes).take n = payload data bytes := by
  rcases data with _ | data
  · have hsize : sdoReqLength (requestOf none) = 10 := rfl
    obtain rfl : n = 4 := by omega
    rfl
  · have hsize : sdoReqLength (requestOf (some data)) = 10 + data.length := rfl
    obtain rfl : n = 4 + data.length := by omega
    rw [tail, take_append_add (by rw [Field.length_put, List.length_take]; omega),
      take_overwrite (by rw [List.length_drop]; omega)]
    rfl

lemma putAll_headerOf (header : List UInt8) : Field.putAll header (headerOf data mailboxCount) =
    mailboxHeader (requestOf data) (count.put header mailboxCount.toNat) := by
  rw [headerOf, Field.putAll_cons, Field.putAll_cons, Field.putAll_cons, Field.putAll_nil,
    mailboxHeader]

lemma putAll_coeHeaderOf (header : List UInt8) :
    Field.putAll header coeHeaderOf = coeHeader header := by
  rw [coeHeaderOf, Field.putAll_cons, Field.putAll_cons, Field.putAll_nil, coeHeader]

/-- **The message of a request that fits.** -/
lemma requestBytes_of_fits (hroom : 6 + sdoReqLength (requestOf data) ≤ buffer.length)
    (hlength : sdoReqLength (requestOf data) ≤ 2 ^ 16 - 1) :
    requestBytes coeIndex data mailboxCount buffer =
      .ok (.ok (), message coeIndex data mailboxCount buffer) := by
  obtain ⟨n, hn⟩ : ∃ n, sdoReqLength (requestOf data) = 6 + n := by
    refine Nat.exists_eq_add_of_le ?_
    rcases data with _ | data
    · exact Nat.le_add_right 6 4
    · rw [requestOf, sdoReqLength, downLoadLength]
      exact Nat.le_trans (Nat.le_add_right 6 4) (Nat.le_add_right _ _)
  have hsmall : 6 + n < 2 ^ 16 := by omega
  obtain ⟨htake, hdrop⟩ := put_count buffer (by omega) mailboxCount.toNat
  have hcount : count.set buffer mailboxCount.toNat = .ok (count.put buffer mailboxCount.toNat) :=
    Field.set_of_fits (Field.fits_of_le (n := 6) (by decide) (by omega)) _
  set header := count.put (buffer.take 6) mailboxCount.toNat with hheader
  have hsix : header.length = 6 := by
    rw [hheader, Field.length_put, List.length_take]
    omega
  have hsix' : (mailboxHeader (requestOf data) header).length = 6 := by
    rw [mailboxHeader, Field.length_put, Field.length_put, hsix]
  have htwo : (coeHeader ((buffer.drop 6).take 2)).length = 2 := by
    rw [coeHeader, Field.length_put, Field.length_put, List.length_take, List.length_drop]
    omega
  have hfour : (Field.putAll ((buffer.drop 8).take 4) (sdoHeader coeIndex data)).length = 4 := by
    rw [Field.length_putAll, List.length_take, List.length_drop]
    omega
  have hannounced : length.val (mailboxHeader (requestOf data) header) = 6 + n := by
    rw [mailboxHeader, Field.val_put (Field.fits_of_le (n := 6) (by decide)
      (by rw [Field.length_put, hsix])), hn, Nat.mod_eq_of_lt hsmall]
    exact Nat.mod_eq_of_lt hsmall
  rw [requestBytes, hcount, ok_bind, setMailbox_request (by rwa [Field.length_put]) hlength, ok_bind]
  refine congrArg (fun bytes => Except.ok (Except.ok (), bytes)) ?_
  rw [htake, hdrop 6 (by omega), hdrop 8 (by omega), hdrop 12 (by omega), announced,
    Field.val_append_left (Field.fits_of_le (n := 6) (by decide) hsix'.ge), hannounced, headerSize,
    take_append_add hsix', show 6 + n = 2 + (4 + n) by omega, take_append_add htwo,
    take_append_add hfour, take_tail hn (by rw [List.length_drop]; omega), message,
    putAll_headerOf, putAll_coeHeaderOf]

/-- A download of more data than a length field can say is refused, whatever the buffer holds. -/
lemma requestBytes_of_lt (hroom : 6 + sdoReqLength (requestOf data) ≤ buffer.length)
    (hlength : 2 ^ 16 - 1 < sdoReqLength (requestOf data)) :
    requestBytes coeIndex data mailboxCount buffer = .error .assertion := by
  rcases data with _ | data
  · have hsize : sdoReqLength (requestOf none) = 10 := rfl
    omega
  · have hsize : sdoReqLength (requestOf (some data)) = 10 + data.length := rfl
    have hcount : count.set buffer mailboxCount.toNat = .ok (count.put buffer mailboxCount.toNat) :=
      Field.set_of_fits (Field.fits_of_le (n := 6) (by decide) (by omega)) _
    rw [requestBytes, hcount, ok_bind]
    set frame := count.put buffer mailboxCount.toNat with hframe
    have hlong : frame.length = buffer.length := Field.length_put _ _ _
    have hrefused : setSdoReq coeIndex (.downLoad data) ((frame.drop 8).take 4 ++ frame.drop 12) =
        .error .assertion := by
      set sdo := (frame.drop 8).take 4 with hsdo
      have hfour : sdo.length = 4 := by
        rw [hsdo, List.length_take, List.length_drop]
        omega
      have hset : SdoDownloadNormalRequestFrame.completeSize.set (frame.drop 12)
          (data.length % 2 ^ 32) = .ok _ :=
        Field.set_of_fits (Field.fits_of_le (n := 4) (by decide)
          (by rw [List.length_drop]; omega)) _
      have hassert : Exec.assert (downLoadLength data ≤ 2 ^ 16 - 1) = .error .assertion :=
        if_neg (Nat.not_le_of_lt hlength)
      rw [setSdoReq, setSdoHeader_append hfour, ok_bind,
        onSuffix_append (by rw [Field.length_putAll, hfour]; rfl), hset]
      dsimp only [Except.bind]
      rw [ok_bind, hassert]
      rfl
    have hcut := eq_append_headers frame
    rw [hcut, requestMessage, Mailbox.newSdoDownloadRequest, setMailbox_append
      (by rw [List.length_take]; omega) (by rw [List.length_take, List.length_drop]; omega),
      hrefused]
    rfl

end

/-! ## Two buffers -/

section

variable {coeIndex : CoeIndex} {data : Option (List UInt8)} {mailboxCount : UInt8}
  {buffer₁ buffer₂ : List UInt8}

/-- `n` bytes of the message, with the bits that the setters do not cover. -/
lemma part_eq_iff (data : Option (List UInt8)) (as : List (Field × ℕ)) (i n : ℕ)
    (h₁ : i + n ≤ buffer₁.length)
    (h₂ : i + n ≤ buffer₂.length) (hfits : ∀ f ∈ as.map Prod.fst, f.msb / 8 < n)
    (hcovered : ∀ j < 8 * n, ¬ Field.Covered (as.map Prod.fst) j ↔ LeftOver data (8 * i + j)) :
    Field.putAll ((buffer₁.drop i).take n) as = Field.putAll ((buffer₂.drop i).take n) as ↔
      ∀ j, 8 * i ≤ j → j < 8 * (i + n) → LeftOver data j → bitAt buffer₁ j = bitAt buffer₂ j := by
  rw [Field.putAll_take_drop_eq_iff h₁ h₂ hfits]
  constructor
  · intro h j hle hlt hleft
    obtain ⟨k, rfl⟩ := Nat.exists_eq_add_of_le hle
    exact h k (by omega) ((hcovered k (by omega)).mpr hleft)
  · exact fun h j hj hnot => h (8 * i + j) (by omega) (by omega) ((hcovered j hj).mp hnot)

lemma header_eq_iff (h₁ : 6 ≤ buffer₁.length) (h₂ : 6 ≤ buffer₂.length) :
    Field.putAll (buffer₁.take 6) (headerOf data mailboxCount) =
        Field.putAll (buffer₂.take 6) (headerOf data mailboxCount) ↔
      ∀ j < 48, LeftOver data j → bitAt buffer₁ j = bitAt buffer₂ j := by
  have hcovered : ∀ j < 48, ¬ Field.Covered [count, mailboxType, length] j ↔
      (16 ≤ j ∧ j < 40) ∨ j = 47 := by
    decide +kernel
  have hiff := part_eq_iff data (headerOf data mailboxCount) 0 6
    (Nat.le_trans (Nat.zero_add 6).le h₁) (Nat.le_trans (Nat.zero_add 6).le h₂)
    (by simp only [headerOf, List.map_cons, List.map_nil]; decide)
    fun j hj => (hcovered j hj).trans (by rw [LeftOver]; omega)
  exact hiff.trans ⟨fun h j => h j (Nat.zero_le j), fun h j _ => h j⟩

lemma coeHeader_eq_iff (h₁ : 8 ≤ buffer₁.length) (h₂ : 8 ≤ buffer₂.length) :
    Field.putAll ((buffer₁.drop 6).take 2) coeHeaderOf =
        Field.putAll ((buffer₂.drop 6).take 2) coeHeaderOf ↔
      ∀ j, 48 ≤ j → j < 64 → LeftOver data j → bitAt buffer₁ j = bitAt buffer₂ j := by
  have hcovered : ∀ j < 16, ¬ Field.Covered (coeHeaderOf.map Prod.fst) j ↔ 9 ≤ j ∧ j < 12 := by
    decide +kernel
  exact part_eq_iff data _ 6 2 h₁ h₂ (by decide)
    fun j hj => (hcovered j hj).trans (by rw [LeftOver]; omega)

lemma sdoHeader_eq_iff (h₁ : 12 ≤ buffer₁.length) (h₂ : 12 ≤ buffer₂.length) :
    Field.putAll ((buffer₁.drop 8).take 4) (sdoHeader coeIndex data) =
        Field.putAll ((buffer₂.drop 8).take 4) (sdoHeader coeIndex data) ↔
      ∀ j, 64 ≤ j → j < 96 → LeftOver data j → bitAt buffer₁ j = bitAt buffer₂ j := by
  have hcovered : ∀ j < 32, Field.Covered [SdoFrame.completeAccess, SdoFrame.dataSetSize,
      SdoFrame.commandSpecifier, SdoFrame.transferType, SdoFrame.sizeIndicator, SdoFrame.index,
      SdoFrame.subIndex] j := by
    decide +kernel
  exact part_eq_iff data _ 8 4 h₁ h₂
    (by simp only [sdoHeader, sdoHeaderOf, List.map_cons, List.map_nil]; decide)
    fun j hj => iff_of_false (not_not_intro (hcovered j hj)) (by rw [LeftOver]; omega)

/-- The payload of a download is written, that of an upload is not. -/
lemma payload_eq_iff (h₁ : 16 ≤ buffer₁.length) (h₂ : 16 ≤ buffer₂.length) :
    payload data (buffer₁.drop 12) = payload data (buffer₂.drop 12) ↔
      ∀ j, 96 ≤ j → LeftOver data j → bitAt buffer₁ j = bitAt buffer₂ j := by
  rcases data with _ | data
  · have hiff := part_eq_iff none [] 12 4 h₁ h₂
      (fun f hf => absurd hf List.not_mem_nil)
      fun j hj => iff_of_true (fun hcovered => by
        obtain ⟨_, hmem, -⟩ := hcovered
        cases hmem) (.inr (.inr (.inr ⟨rfl, by omega, by omega⟩)))
    refine hiff.trans ⟨fun h j hle hleft => h j hle ?_ hleft, fun h j hle _ => h j hle⟩
    rw [LeftOver] at hleft
    omega
  · have hcovered : ∀ j < 32, Field.Covered [SdoDownloadNormalRequestFrame.completeSize] j := by
      decide +kernel
    have hiff := part_eq_iff (some data)
      [(SdoDownloadNormalRequestFrame.completeSize, data.length)] 12 4 h₁ h₂
      (by simp only [List.map_cons, List.map_nil]; decide)
      fun j hj => iff_of_false (not_not_intro (hcovered j hj)) (by rw [LeftOver]; simp; omega)
    rw [Field.putAll_cons, Field.putAll_nil, Field.putAll_cons, Field.putAll_nil] at hiff
    rw [payload, payload, List.append_left_inj]
    refine hiff.trans ⟨fun h j hle hleft => h j hle ?_ hleft, fun h j hle _ => h j hle⟩
    rcases hleft with hleft | hleft | hleft | ⟨hnone, -⟩
    · omega
    · omega
    · omega
    · cases hnone

/-- Messages are equal if their four parts are. -/
lemma message_eq_iff (h₁ : 12 ≤ buffer₁.length) (h₂ : 12 ≤ buffer₂.length) :
    message coeIndex data mailboxCount buffer₁ = message coeIndex data mailboxCount buffer₂ ↔
      Field.putAll (buffer₁.take 6) (headerOf data mailboxCount) =
          Field.putAll (buffer₂.take 6) (headerOf data mailboxCount) ∧
        Field.putAll ((buffer₁.drop 6).take 2) coeHeaderOf =
          Field.putAll ((buffer₂.drop 6).take 2) coeHeaderOf ∧
        Field.putAll ((buffer₁.drop 8).take 4) (sdoHeader coeIndex data) =
          Field.putAll ((buffer₂.drop 8).take 4) (sdoHeader coeIndex data) ∧
        payload data (buffer₁.drop 12) = payload data (buffer₂.drop 12) := by
  constructor
  · intro h
    obtain ⟨hheader, h⟩ := List.append_inj h (by
      rw [Field.length_putAll, Field.length_putAll, List.length_take, List.length_take]
      omega)
    obtain ⟨hcoe, h⟩ := List.append_inj h (by
      simp only [Field.length_putAll, List.length_take, List.length_drop]
      omega)
    obtain ⟨hsdo, hpayload⟩ := List.append_inj h (by
      simp only [Field.length_putAll, List.length_take, List.length_drop]
      omega)
    exact ⟨hheader, hcoe, hsdo, hpayload⟩
  · rintro ⟨hheader, hcoe, hsdo, hpayload⟩
    rw [message, message, hheader, hcoe, hsdo, hpayload]

/-- **When a request is the same over two buffers.**  For every request and count, and for all buffers
with room for the message: exactly if they agree on the bits that are not written (or if the download
is refused). -/
theorem requestBytes_eq_iff (h₁ : 6 + sdoReqLength (requestOf data) ≤ buffer₁.length)
    (h₂ : 6 + sdoReqLength (requestOf data) ≤ buffer₂.length) :
    requestBytes coeIndex data mailboxCount buffer₁ = requestBytes coeIndex data mailboxCount buffer₂ ↔
      (sdoReqLength (requestOf data) ≤ 2 ^ 16 - 1 →
        ∀ j, LeftOver data j → bitAt buffer₁ j = bitAt buffer₂ j) := by
  have hsize : 10 ≤ sdoReqLength (requestOf data) := by
    rcases data with _ | data
    · exact Nat.le_refl 10
    · exact Nat.le_add_right 10 data.length
  by_cases hlength : sdoReqLength (requestOf data) ≤ 2 ^ 16 - 1
  · rw [requestBytes_of_fits h₁ hlength, requestBytes_of_fits h₂ hlength, Except.ok.injEq,
      Prod.mk.injEq, and_iff_right rfl, message_eq_iff (by omega) (by omega),
      header_eq_iff (by omega) (by omega), coeHeader_eq_iff (by omega) (by omega),
      sdoHeader_eq_iff (by omega) (by omega), payload_eq_iff (by omega) (by omega)]
    constructor
    · rintro ⟨hheader, hcoe, hsdo, hpayload⟩ - j hleft
      rcases Nat.lt_or_ge j 48 with hlt | hge
      · exact hheader j hlt hleft
      · rcases Nat.lt_or_ge j 64 with hlt | hge'
        · exact hcoe j hge hlt hleft
        · rcases Nat.lt_or_ge j 96 with hlt | hge''
          · exact hsdo j hge' hlt hleft
          · exact hpayload j hge'' hleft
    · intro h
      exact ⟨fun j _ => h hlength j, fun j _ _ => h hlength j, fun j _ _ => h hlength j,
        fun j _ => h hlength j⟩
  · rw [requestBytes_of_lt h₁ (by omega), requestBytes_of_lt h₂ (by omega)]
    exact iff_of_true rfl fun hle => absurd hle hlength

/-- **Left over.**  An upload request over a buffer of zeros and over one that earlier traffic has
filled: the address, the channel, the priority and the payload differ. -/
theorem uploadRequest_keepsLeftOvers :
    requestBytes ⟨0x1018, 1⟩ none 1 (List.replicate 16 0) =
        .ok (.ok (), [10, 0, 0, 0, 0, 0x13, 0, 0x20, 0x40, 0x18, 0x10, 1, 0, 0, 0, 0]) ∧
      requestBytes ⟨0x1018, 1⟩ none 1 (List.replicate 16 0xFF) =
        .ok (.ok (), [10, 0, 0xFF, 0xFF, 0xFF, 0x93, 0, 0x2E, 0x40, 0x18, 0x10, 1,
          0xFF, 0xFF, 0xFF, 0xFF]) ∧
      requestBytes ⟨0x1018, 1⟩ none 1 (List.replicate 16 0) ≠
        requestBytes ⟨0x1018, 1⟩ none 1 (List.replicate 16 0xFF) := by
  decide +kernel

/-- Over a buffer of zeros and over one with an old length and old data the download is the same. -/
theorem downloadRequest_sameBytes :
    requestBytes ⟨0x1018, 1⟩ (some [7, 8]) 1 (List.replicate 18 0) =
      requestBytes ⟨0x1018, 1⟩ (some [7, 8]) 1 ([0xFF, 0xFF] ++ List.replicate 14 0 ++ [1, 2]) := by
  refine (requestBytes_eq_iff (by decide) (by decide)).mpr fun _ j hleft => ?_
  have hsame : ∀ j < 60, 16 ≤ j → bitAt (List.replicate 18 0) j =
      bitAt ([0xFF, 0xFF] ++ List.replicate 14 0 ++ [1, 2]) j := by
    decide +kernel
  rcases hleft with hleft | hleft | hleft | ⟨hnone, -⟩
  · exact hsame j (by omega) hleft.1
  · exact hsame j (by omega) (by omega)
  · exact hsame j hleft.2 (by omega)
  · cases hnone

end

end MailboxFrame

end EtherCat

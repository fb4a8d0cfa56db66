import EtherCat.Frame.Mailbox

/-!
# The object data of a message

An SDO transfer announces how many bytes of object data it carries, in its header or in the four
bytes behind it.  The decoder cuts them out of the slice it was given (`mailbox_with_data_iff`).
Where the slice is cut shorter behind its object data, it decodes the same message.
-/

namespace EtherCat

open Rust Rust.Exec BitField

namespace MailboxFrame

/-- The bytes that the mailbox header announces, itself included. -/
def announced (bytes : List UInt8) : List UInt8 := bytes.take (headerSize + length.val bytes)

/-! ## The object data of a message -/

/-- The headers are those of an SDO download request or upload response. -/
def CarriesData (bytes : List UInt8) : Prop :=
  headerSize + CoeFrame.headerSize + SdoFrame.headerSize ≤ bytes.length ∧
    mailboxType.val bytes = 3 ∧
    (CoeFrame.serviceType.val (bytes.drop 6) = 2 ∧ SdoFrame.commandSpecifier.val (bytes.drop 8) = 1 ∨
      CoeFrame.serviceType.val (bytes.drop 6) = 3 ∧
        SdoFrame.commandSpecifier.val (bytes.drop 8) = 2)

instance (bytes : List UInt8) : Decidable (CarriesData bytes) :=
  inferInstanceAs (Decidable (_ ∧ _ ∧ _))

/-- The transfer is an expedited one: the data are in the place of their size. -/
def Expedited (bytes : List UInt8) : Prop := SdoFrame.transferType.val (bytes.drop 8) ≠ 0

instance (bytes : List UInt8) : Decidable (Expedited bytes) :=
  inferInstanceAs (Decidable (_ ≠ _))

/-- The offset where the object data begin. -/
def dataStart (bytes : List UInt8) : ℕ := if Expedited bytes then 12 else 16

/-- The offset where the object data end. -/
def dataStop (bytes : List UInt8) : ℕ :=
  if Expedited bytes then 16 - SdoFrame.dataSetSize.val (bytes.drop 8)
  else 16 + fromLeBytes ((bytes.drop 12).take 4)

/-- The slice holds all the object data that the message announces. -/
def HoldsData (bytes : List UInt8) : Prop := CarriesData bytes ∧ dataStop bytes ≤ bytes.length

instance (bytes : List UInt8) : Decidable (HoldsData bytes) := inferInstanceAs (Decidable (_ ∧ _))

/-- The message with its object data. -/
def dataMessage (bytes : List UInt8) : Mailbox :=
  let data := (bytes.take (dataStop bytes)).drop (dataStart bytes)
  .coE ⟨.ofNat (SdoFrame.index.val (bytes.drop 8)), .ofNat (SdoFrame.subIndex.val (bytes.drop 8))⟩
    (if CoeFrame.serviceType.val (bytes.drop 6) = 2 then .sdoReq (.downLoad data)
      else .sdoRes (.upload data))

lemma sub_expeditedSize {n : ℕ} (h : n < 4) : 12 + expeditedSize n = 16 - n := by
  rcases n with _ | _ | _ | _ | n <;> simp [expeditedSize] at h ⊢
  omega

/-- **The object data are cut out of the slice**, if the slice is long enough. -/
lemma transferData_eq_ok_iff {usizeBits : ℕ} {bytes data : List UInt8}
    (hheaders : 12 ≤ bytes.length) (hlength : bytes.length < 2 ^ usizeBits) :
    transferData usizeBits (bytes.drop 8) (bytes.drop 12) = .ok (.ok data) ↔
      dataStop bytes ≤ bytes.length ∧
        data = (bytes.take (dataStop bytes)).drop (dataStart bytes) := by
  have hfits : ∀ f : Field, f.msb / 8 < 4 → f.Fits (bytes.drop 8) := fun f hf =>
    Field.fits_of_le hf (by rw [List.length_drop]; omega)
  rw [transferData, Field.getBool_of_fits (hfits _ (by decide)), ok_bind]
  by_cases hexpedited : Expedited bytes
  · have hflag : (SdoFrame.transferType.val (bytes.drop 8) != 0) = true := by
      simpa [Expedited] using hexpedited
    have hlt : SdoFrame.dataSetSize.val (bytes.drop 8) < 4 :=
      Field.val_lt SdoFrame.dataSetSize (bytes.drop 8)
    have hsize := sub_expeditedSize hlt
    rw [hflag, if_pos rfl, Field.get_of_fits (hfits _ (by decide)), ok_bind, dataStop, dataStart,
      if_pos hexpedited, if_pos hexpedited, ← hsize]
    dsimp only
    set size := expeditedSize (SdoFrame.dataSetSize.val (bytes.drop 8))
    rw [sub_of_le (by omega), ok_bind, List.length_drop]
    by_cases hroom : 12 + size ≤ bytes.length
    · have hslice : sliceTo (bytes.drop 12) size = .ok ((bytes.drop 12).take size) :=
        sliceTo_eq_ok_iff.mpr ⟨by rw [List.length_drop]; omega, rfl⟩
      have hcut : (bytes.take (12 + size)).drop 12 = (bytes.drop 12).take size := by
        rw [List.drop_take, Nat.add_sub_cancel_left]
      rw [if_neg (by omega), hslice, ok_bind, hcut]
      simp [hroom, eq_comm]
    · rw [if_pos (by omega)]
      simp [hroom]
  · have hflag : (SdoFrame.transferType.val (bytes.drop 8) != 0) = false := by
      simpa [Expedited] using hexpedited
    rw [hflag, if_neg Bool.false_ne_true, dataStop, dataStart, if_neg hexpedited,
      if_neg hexpedited, List.length_drop]
    by_cases hsize : 16 ≤ bytes.length
    swap
    · rw [if_pos (by omega)]
      simp
      omega
    have hslice : sliceTo (bytes.drop 12) 4 = .ok ((bytes.drop 12).take 4) :=
      sliceTo_eq_ok_iff.mpr ⟨by rw [List.length_drop]; omega, rfl⟩
    rw [if_neg (by omega), hslice, ok_bind]
    set size := fromLeBytes ((bytes.drop 12).take 4)
    by_cases hroom : 16 + size ≤ bytes.length
    · have hcut : slice (bytes.drop 12) 4 (size + 4) =
          .ok ((bytes.take (16 + size)).drop 16) := by
        refine slice_eq_ok_iff.mpr ⟨⟨by omega, by rw [List.length_drop]; omega⟩, ?_⟩
        rw [List.take_drop, List.drop_drop]
        congr 2
        omega
      rw [addUpTo_eq_ok_iff.mpr ⟨by omega, rfl⟩, ok_bind, if_neg (by omega), hcut, ok_bind]
      simp [hroom, eq_comm]
    · simp only [hroom, false_and, iff_false]
      intro h
      obtain ⟨stop, hstop, h⟩ := bind_eq_ok.mp h
      obtain ⟨-, rfl⟩ := addUpTo_eq_ok_iff.mp hstop
      rw [if_pos (by omega)] at h
      cases h

/-! ## Which messages carry object data -/

lemma mbType_eq_coE_iff {n : ℕ} (h : n < 16) : MailboxType.ofU8 (.ofNat n) = .coE ↔ n = 3 := by
  have hall : ∀ m < 16, MailboxType.ofU8 (.ofNat m) = .coE ↔ m = 3 := by decide
  exact hall n h

lemma serviceType_eq_sdoReq_iff {n : ℕ} (h : n < 16) :
    CoeServiceType.ofU8 (.ofNat n) = .sdoReq ↔ n = 2 := by
  have hall : ∀ m < 16, CoeServiceType.ofU8 (.ofNat m) = .sdoReq ↔ m = 2 := by decide
  exact hall n h

lemma serviceType_eq_sdoRes_iff {n : ℕ} (h : n < 16) :
    CoeServiceType.ofU8 (.ofNat n) = .sdoRes ↔ n = 3 := by
  have hall : ∀ m < 16, CoeServiceType.ofU8 (.ofNat m) = .sdoRes ↔ m = 3 := by decide
  exact hall n h

lemma decodeSdoReq_eq_downLoad_iff {usizeBits : ℕ} {sdoHeader sdoPayload data : List UInt8}
    (hfits : SdoFrame.commandSpecifier.Fits sdoHeader) :
    decodeSdoReq usizeBits sdoHeader sdoPayload = .ok (.ok (.downLoad data)) ↔
      SdoFrame.commandSpecifier.val sdoHeader = 1 ∧
        transferData usizeBits sdoHeader sdoPayload = .ok (.ok data) := by
  rw [decodeSdoReq, Field.get_of_fits hfits, ok_bind]
  split
  · next hone =>
      rw [hone]
      rcases transferData usizeBits sdoHeader sdoPayload with e | (e | data') <;>
        simp [Except.map]
  · next htwo => simp [htwo]
  · next hfour =>
      rw [hfour]
      split <;> simp
  · next hone _ _ => simpa using fun h => (hone h).elim

lemma decodeSdoRes_eq_upload_iff {usizeBits : ℕ} {sdoHeader sdoPayload data : List UInt8}
    (hfits : SdoFrame.commandSpecifier.Fits sdoHeader) :
    decodeSdoRes usizeBits sdoHeader sdoPayload = .ok (.ok (.upload data)) ↔
      SdoFrame.commandSpecifier.val sdoHeader = 2 ∧
        transferData usizeBits sdoHeader sdoPayload = .ok (.ok data) := by
  rw [decodeSdoRes, Field.get_of_fits hfits, ok_bind]
  split
  · next htwo =>
      rw [htwo]
      rcases transferData usizeBits sdoHeader sdoPayload with e | (e | data') <;>
        simp [Except.map]
  · next hthree => simp [hthree]
  · next htwo _ => simpa using fun h => (htwo h).elim

/-- A message with object data is one of the two kinds. -/
lemma exists_of_sdoData {message : Mailbox} (h : message.sdoData.isSome) :
    ∃ index data, message = .coE index (.sdoReq (.downLoad data)) ∨
      message = .coE index (.sdoRes (.upload data)) := by
  unfold Mailbox.sdoData at h
  split at h
  · exact ⟨_, _, .inl rfl⟩
  · exact ⟨_, _, .inr rfl⟩
  · cases h

/-- Decoding as far as the kind of message. -/
lemma decodeCoEMailbox_eq {usizeBits : ℕ} {bytes : List UInt8} (h : 12 ≤ bytes.length) :
    decodeCoEMailbox usizeBits bytes (bytes.drop 6) = (do
      let coe ← decodeCoE usizeBits (.ofU8 (.ofNat (CoeFrame.serviceType.val (bytes.drop 6))))
        (bytes.drop 8) (bytes.drop 12)
      .ok (coe.map (.coE ⟨.ofNat (SdoFrame.index.val (bytes.drop 8)),
        .ofNat (SdoFrame.subIndex.val (bytes.drop 8))⟩))) := by
  have hfits : ∀ f : Field, f.msb / 8 < 4 → f.Fits (bytes.drop 8) := fun f hf =>
    Field.fits_of_le hf (by rw [List.length_drop]; omega)
  have hservice : CoeFrame.serviceType.Fits (bytes.drop 6) :=
    Field.fits_of_le (n := 2) (by decide) (by rw [List.length_drop]; omega)
  have hcoe : CoeFrame.withoutHeader (bytes.drop 6) = .ok (bytes.drop 8) :=
    sliceFrom_eq_ok_iff.mpr ⟨by
      rw [List.length_drop, CoeFrame.headerSize]; omega, by rw [List.drop_drop]; rfl⟩
  have hsdo : SdoFrame.withoutHeader (bytes.drop 8) = .ok (bytes.drop 12) :=
    sliceFrom_eq_ok_iff.mpr ⟨by
      rw [List.length_drop, SdoFrame.headerSize]; omega, by rw [List.drop_drop]; rfl⟩
  have hlong : ¬ bytes.length < headerSize + CoeFrame.headerSize + SdoFrame.headerSize :=
    Nat.not_lt.mpr h
  rw [decodeCoEMailbox, if_neg hlong, hcoe, ok_bind, hsdo, ok_bind,
    Field.get_of_fits (hfits _ (by decide)), ok_bind, Field.get_of_fits (hfits _ (by decide)),
    ok_bind, CoeFrame.coeServiceType, Field.get_of_fits hservice, ok_bind, ok_bind]

lemma mailbox_eq {usizeBits : ℕ} {bytes : List UInt8} (h : 6 ≤ bytes.length)
    (htype : mailboxType.val bytes = 3) :
    mailbox usizeBits bytes = decodeCoEMailbox usizeBits bytes (bytes.drop 6) := by
  have hfits : mailboxType.Fits bytes := Field.fits_of_le (n := 6) (by decide) h
  have hwithout : withoutHeader bytes = .ok (bytes.drop 6) :=
    sliceFrom_eq_ok_iff.mpr ⟨h, rfl⟩
  have hlong : ¬ bytes.length < headerSize := Nat.not_lt.mpr h
  rw [mailbox, if_neg hlong, hwithout, ok_bind, mbType, Field.get_of_fits hfits, ok_bind, htype]
  rfl

lemma decodeCoE_eq_downLoad_iff {usizeBits : ℕ} {serviceType : CoeServiceType}
    {sdoFrame sdoPayload data : List UInt8} :
    decodeCoE usizeBits serviceType sdoFrame sdoPayload = .ok (.ok (.sdoReq (.downLoad data))) ↔
      serviceType = .sdoReq ∧
        decodeSdoReq usizeBits sdoFrame sdoPayload = .ok (.ok (.downLoad data)) := by
  unfold decodeCoE
  split
  · split <;> simp
  · rcases decodeSdoReq usizeBits sdoFrame sdoPayload with e | (e | req) <;> simp [Except.map]
  · rcases decodeSdoRes usizeBits sdoFrame sdoPayload with e | (e | res) <;> simp [Except.map]
  · next hreq _ => simpa using fun h => (hreq h).elim

lemma decodeCoE_eq_upload_iff {usizeBits : ℕ} {serviceType : CoeServiceType}
    {sdoFrame sdoPayload data : List UInt8} :
    decodeCoE usizeBits serviceType sdoFrame sdoPayload = .ok (.ok (.sdoRes (.upload data))) ↔
      serviceType = .sdoRes ∧
        decodeSdoRes usizeBits sdoFrame sdoPayload = .ok (.ok (.upload data)) := by
  unfold decodeCoE
  split
  · split <;> simp
  · rcases decodeSdoReq usizeBits sdoFrame sdoPayload with e | (e | req) <;> simp [Except.map]
  · rcases decodeSdoRes usizeBits sdoFrame sdoPayload with e | (e | res) <;> simp [Except.map]
  · next _ hres => simpa using fun h => (hres h).elim

/-- A CoE message comes from a slice with the headers of one. -/
lemma headers_of_coE {usizeBits : ℕ} {bytes : List UInt8} {index : CoeIndex} {coe : CoE}
    (hmailbox : mailbox usizeBits bytes = .ok (.ok (.coE index coe))) :
    mailboxType.val bytes = 3 ∧ 12 ≤ bytes.length := by
  rw [mailbox] at hmailbox
  split at hmailbox
  · cases hmailbox
  next hlong =>
  have hlong' : 6 ≤ bytes.length := Nat.not_lt.mp hlong
  have hfits : mailboxType.Fits bytes := Field.fits_of_le (n := 6) (by decide) hlong'
  have hwithout : withoutHeader bytes = .ok (bytes.drop 6) :=
    sliceFrom_eq_ok_iff.mpr ⟨hlong', rfl⟩
  rw [hwithout, ok_bind, mbType, Field.get_of_fits hfits, ok_bind, ok_bind] at hmailbox
  split at hmailbox
  · split at hmailbox
    · cases hmailbox
    · obtain ⟨detail, -, heq⟩ := bind_eq_ok.mp hmailbox
      cases heq
  · next htype =>
      refine ⟨(mbType_eq_coE_iff (Field.val_lt mailboxType bytes)).mp htype, ?_⟩
      rw [decodeCoEMailbox] at hmailbox
      split at hmailbox
      · cases hmailbox
      · next hheaders => exact Nat.not_lt.mp hheaders
  · cases hmailbox

/-- **What is decoded with object data.** -/
theorem mailbox_with_data_iff {usizeBits : ℕ} {bytes : List UInt8} {message : Mailbox}
    (hlength : bytes.length < 2 ^ usizeBits) :
    (mailbox usizeBits bytes = .ok (.ok message) ∧ message.sdoData.isSome) ↔
      HoldsData bytes ∧ message = dataMessage bytes := by
  have hspecifier : 12 ≤ bytes.length → SdoFrame.commandSpecifier.Fits (bytes.drop 8) := fun h =>
    Field.fits_of_le (n := 4) (by decide) (by rw [List.length_drop]; omega)
  have hserviceLt : CoeFrame.serviceType.val (bytes.drop 6) < 16 :=
    Field.val_lt CoeFrame.serviceType (bytes.drop 6)
  constructor
  · rintro ⟨hmailbox, hdata⟩
    obtain ⟨index, data, hkind⟩ := exists_of_sdoData hdata
    obtain ⟨htype, hheaders⟩ : mailboxType.val bytes = 3 ∧ 12 ≤ bytes.length := by
      rcases hkind with rfl | rfl
      · exact headers_of_coE hmailbox
      · exact headers_of_coE hmailbox
    rw [mailbox_eq (by omega) htype, decodeCoEMailbox_eq hheaders] at hmailbox
    obtain ⟨coe, hcoe, heq⟩ := bind_eq_ok.mp hmailbox
    rcases coe with e | coe
    · cases heq
    simp only [Except.map, Except.ok.injEq] at heq
    subst heq
    rcases hkind with hkind | hkind
    · obtain ⟨rfl, rfl⟩ := Mailbox.coE.inj hkind
      obtain ⟨hservice, hreq⟩ := decodeCoE_eq_downLoad_iff.mp hcoe
      obtain ⟨hone, htransfer⟩ := (decodeSdoReq_eq_downLoad_iff (hspecifier hheaders)).mp hreq
      obtain ⟨hstop, rfl⟩ := (transferData_eq_ok_iff hheaders hlength).mp htransfer
      rw [serviceType_eq_sdoReq_iff hserviceLt] at hservice
      exact ⟨⟨⟨hheaders, htype, .inl ⟨hservice, hone⟩⟩, hstop⟩, by rw [dataMessage, if_pos hservice]⟩
    · obtain ⟨rfl, rfl⟩ := Mailbox.coE.inj hkind
      obtain ⟨hservice, hres⟩ := decodeCoE_eq_upload_iff.mp hcoe
      obtain ⟨htwo, htransfer⟩ := (decodeSdoRes_eq_upload_iff (hspecifier hheaders)).mp hres
      obtain ⟨hstop, rfl⟩ := (transferData_eq_ok_iff hheaders hlength).mp htransfer
      rw [serviceType_eq_sdoRes_iff hserviceLt] at hservice
      exact ⟨⟨⟨hheaders, htype, .inr ⟨hservice, htwo⟩⟩, hstop⟩,
        by rw [dataMessage, if_neg (by omega)]⟩
  · rintro ⟨⟨⟨hheaders, htype, hkind⟩, hstop⟩, rfl⟩
    have hheaders' : 12 ≤ bytes.length := hheaders
    have htransfer := (transferData_eq_ok_iff hheaders' hlength).mpr ⟨hstop, rfl⟩
    rw [mailbox_eq (by omega) htype, decodeCoEMailbox_eq hheaders']
    rcases hkind with ⟨hservice, hone⟩ | ⟨hservice, htwo⟩
    · have hreq := (decodeSdoReq_eq_downLoad_iff (hspecifier hheaders')).mpr ⟨hone, htransfer⟩
      have hcoe := decodeCoE_eq_downLoad_iff.mpr
        ⟨(serviceType_eq_sdoReq_iff hserviceLt).mpr hservice, hreq⟩
      rw [hcoe, ok_bind, dataMessage, if_pos hservice]
      exact ⟨rfl, rfl⟩
    · have hres := (decodeSdoRes_eq_upload_iff (hspecifier hheaders')).mpr ⟨htwo, htransfer⟩
      have hcoe := decodeCoE_eq_upload_iff.mpr
        ⟨(serviceType_eq_sdoRes_iff hserviceLt).mpr hservice, hres⟩
      rw [hcoe, ok_bind, dataMessage, if_neg (by omega)]
      exact ⟨rfl, rfl⟩

/-! ## Decoding the announced bytes -/

lemma val_drop_take {f : Field} {k : ℕ} (hf : f.msb / 8 < k) {bytes : List UInt8} {i n : ℕ}
    (h : i + k ≤ n) : f.val ((bytes.take n).drop i) = f.val (bytes.drop i) := by
  refine Field.val_eq_of_take_eq ?_ hf
  rw [List.drop_take, List.take_take, Nat.min_eq_left (by omega)]

lemma expedited_take_iff {bytes : List UInt8} {n : ℕ} (h : 12 ≤ n) :
    Expedited (bytes.take n) ↔ Expedited bytes := by
  have hflag : SdoFrame.transferType.val ((bytes.take n).drop 8) =
      SdoFrame.transferType.val (bytes.drop 8) := val_drop_take (k := 4) (by decide) h
  rw [Expedited, Expedited, hflag]

/-- The end of the object data is known from the headers and, of a normal transfer, from the size
behind them. -/
lemma dataStop_take {bytes : List UInt8} {n : ℕ} (h : 12 ≤ n) (hsize : Expedited bytes ∨ 16 ≤ n) :
    dataStop (bytes.take n) = dataStop bytes := by
  by_cases hexpedited : Expedited bytes
  · rw [dataStop, dataStop, if_pos ((expedited_take_iff h).mpr hexpedited), if_pos hexpedited,
      val_drop_take (k := 4) (by decide) h]
  · have hn := hsize.resolve_left hexpedited
    rw [dataStop, dataStop, if_neg (mt (expedited_take_iff h).mp hexpedited), if_neg hexpedited,
      List.drop_take, List.take_take, Nat.min_eq_left (by omega)]

lemma dataStart_le_dataStop (bytes : List UInt8) : dataStart bytes ≤ dataStop bytes := by
  have hlt : SdoFrame.dataSetSize.val (bytes.drop 8) < 4 :=
    Field.val_lt SdoFrame.dataSetSize (bytes.drop 8)
  rw [dataStart, dataStop]
  split <;> omega

lemma dataStart_take {bytes : List UInt8} {n : ℕ} (h : 12 ≤ n) :
    dataStart (bytes.take n) = dataStart bytes := by
  simp only [dataStart, expedited_take_iff h]

/-- With the data end the size of a normal transfer is inside, too. -/
lemma sizes_of_dataStop_le {bytes : List UInt8} {n : ℕ} (h : dataStop bytes ≤ n) :
    12 ≤ n ∧ (Expedited bytes ∨ 16 ≤ n) := by
  have hle := dataStart_le_dataStop bytes
  rw [dataStart] at hle
  by_cases hexpedited : Expedited bytes
  · rw [if_pos hexpedited] at hle
    exact ⟨by omega, .inl hexpedited⟩
  · rw [if_neg hexpedited] at hle
    exact ⟨by omega, .inr (by omega)⟩

lemma carriesData_take_iff {bytes : List UInt8} {n : ℕ} (h : 12 ≤ n) :
    CarriesData (bytes.take n) ↔ CarriesData bytes := by
  have htype : mailboxType.val (bytes.take n) = mailboxType.val bytes :=
    val_drop_take (k := 6) (i := 0) (by decide) (by omega)
  have hheaders : headerSize + CoeFrame.headerSize + SdoFrame.headerSize = 12 := rfl
  rw [CarriesData, CarriesData, htype, val_drop_take (k := 2) (by decide) (by omega),
    val_drop_take (k := 4) (by decide) h, List.length_take, hheaders]
  constructor
  · exact fun ⟨hlong, hrest⟩ => ⟨by omega, hrest⟩
  · exact fun ⟨hlong, hrest⟩ => ⟨by omega, hrest⟩

/-- A part of a slice that holds the object data reaches their end. -/
lemma dataStop_le_of_holdsData_take {bytes : List UInt8} {n : ℕ} (h : HoldsData (bytes.take n)) :
    dataStop bytes ≤ n := by
  obtain ⟨hcarries, hstop⟩ := h
  have hlong : 12 ≤ n := by
    have h := hcarries.1
    rw [List.length_take] at h
    exact Nat.le_trans h (Nat.min_le_left _ _)
  have hsizes := (sizes_of_dataStop_le hstop).2
  rw [expedited_take_iff hlong, List.length_take] at hsizes
  rw [dataStop_take hlong (hsizes.imp_right fun h => by omega), List.length_take] at hstop
  omega

/-- And if it reaches their end, it holds them. -/
lemma HoldsData.take {bytes : List UInt8} (hheld : HoldsData bytes) {n : ℕ}
    (h : dataStop bytes ≤ n) : HoldsData (bytes.take n) := by
  obtain ⟨hlong, hsizes⟩ := sizes_of_dataStop_le h
  have hstop := hheld.2
  refine ⟨(carriesData_take_iff hlong).mpr hheld.1, ?_⟩
  rw [dataStop_take hlong hsizes, List.length_take]
  omega

lemma dataMessage_take {bytes : List UInt8} {n : ℕ} (h : dataStop bytes ≤ n) :
    dataMessage (bytes.take n) = dataMessage bytes := by
  obtain ⟨hlong, hsizes⟩ := sizes_of_dataStop_le h
  rw [dataMessage, dataMessage, dataStop_take hlong hsizes, dataStart_take hlong,
    val_drop_take (k := 4) (by decide) hlong, val_drop_take (k := 4) (by decide) hlong,
    val_drop_take (k := 2) (by decide) (by omega), List.take_take, Nat.min_eq_left h]

end MailboxFrame

end EtherCat

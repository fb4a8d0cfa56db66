import EtherCat.Frame.AddCommand
import EtherCat.Frame.SdoData

/-!
# Encoding an SDO request and decoding what is sent

`set_mailbox` writes a request into the socket's buffer, and the mailbox write sends as many bytes
of it as the slave's mailbox has.  The encoder copies the data as far as the buffer goes and never
compares sizes.  `RoundTrips` is what one relies on: the call reports an error, or the bytes that
are sent decode to the request.  It holds exactly for the requests that fit into the mailbox
(`setMailbox_roundTrips_iff`).
-/

namespace EtherCat

open Rust Rust.Exec BitField

namespace MailboxFrame

/-- An SDO request: a download of `data`, or an upload. -/
def requestMessage (coeIndex : CoeIndex) : Option (List UInt8) → Mailbox
  | some data => .newSdoDownloadRequest coeIndex.index coeIndex.subIndex data
  | none => .newSdoUploadRequest coeIndex.index coeIndex.subIndex

/-- **What encoding promises** when the first `size` bytes of the buffer are sent. -/
def RoundTrips (usizeBits : ℕ) (buffer : List UInt8) (size : ℕ) (message : Mailbox) : Prop :=
  ∃ result buffer', setMailbox buffer message = .ok (result, buffer') ∧
    (result = .ok () → mailbox usizeBits (buffer'.take size) = .ok (.ok message))

/-- The request fits into a mailbox of `size` bytes, and its length into the mailbox header. -/
def RequestFits (size : ℕ) : Option (List UInt8) → Prop
  | some data => 16 + data.length ≤ size ∧ downLoadLength data ≤ 2 ^ 16 - 1
  | none => 12 ≤ size

instance (size : ℕ) : (data : Option (List UInt8)) → Decidable (RequestFits size data)
  | some _ => inferInstanceAs (Decidable (_ ∧ _))
  | none => inferInstanceAs (Decidable (_ ≤ _))

/-! ## Writing the SDO header -/

/-- The assignments of an SDO request's header. -/
def sdoHeaderOf (specifier : ℕ) (sizeIndicator : Bool) (coeIndex : CoeIndex) : List (Field × ℕ) :=
  [(SdoFrame.completeAccess, 0), (SdoFrame.dataSetSize, 0), (SdoFrame.commandSpecifier, specifier),
    (SdoFrame.transferType, 0), (SdoFrame.sizeIndicator, sizeIndicator.toNat),
    (SdoFrame.index, coeIndex.index.toNat), (SdoFrame.subIndex, coeIndex.subIndex.toNat)]

lemma sdoHeaderOf_fits {specifier : ℕ} {sizeIndicator : Bool} {coeIndex : CoeIndex}
    {sdoFrame : List UInt8} (h : 4 ≤ sdoFrame.length) :
    ∀ f ∈ (sdoHeaderOf specifier sizeIndicator coeIndex).map Prod.fst, f.Fits sdoFrame := by
  intro f hf
  refine Field.fits_of_le (n := 4) ?_ h
  revert f
  simp only [sdoHeaderOf, List.map_cons, List.map_nil]
  decide

lemma setSdoHeader_eq (specifier : ℕ) (sizeIndicator : Bool) (coeIndex : CoeIndex)
    (sdoFrame : List UInt8) : setSdoHeader specifier sizeIndicator coeIndex sdoFrame =
      Field.setAll sdoFrame (sdoHeaderOf specifier sizeIndicator coeIndex) := by
  simp only [setSdoHeader, Field.setBool, Field.setAll, sdoHeaderOf, List.foldlM_cons,
    List.foldlM_nil, Bool.toNat_false, bind_pure]

lemma setSdoHeader_append {specifier : ℕ} {sizeIndicator : Bool} {coeIndex : CoeIndex}
    {d t : List UInt8} (hd : d.length = 4) :
    setSdoHeader specifier sizeIndicator coeIndex (d ++ t) =
      .ok (Field.putAll d (sdoHeaderOf specifier sizeIndicator coeIndex) ++ t) := by
  have hfits : ∀ f ∈ (sdoHeaderOf specifier sizeIndicator coeIndex).map Prod.fst, f.Fits d :=
    sdoHeaderOf_fits (Nat.le_of_eq hd.symm)
  rw [setSdoHeader_eq, Field.setAll_eq_ok_iff]
  exact ⟨sdoHeaderOf_fits (by rw [List.length_append]; omega),
    (Field.putAll_append_left hfits).symm⟩

lemma four_le_of_setSdoHeader {specifier : ℕ} {sizeIndicator : Bool} {coeIndex : CoeIndex}
    {sdoFrame sdoFrame' : List UInt8}
    (h : setSdoHeader specifier sizeIndicator coeIndex sdoFrame = .ok sdoFrame') :
    4 ≤ sdoFrame.length ∧ sdoFrame'.length = sdoFrame.length := by
  rw [setSdoHeader_eq, Field.setAll_eq_ok_iff] at h
  obtain ⟨hfits, rfl⟩ := h
  refine ⟨?_, Field.length_putAll _ _⟩
  have hlast := hfits SdoFrame.subIndex (by simp [sdoHeaderOf])
  exact hlast

/-- What the header says afterwards. -/
lemma val_sdoHeaderOf {specifier : ℕ} {sizeIndicator : Bool} {coeIndex : CoeIndex}
    {d : List UInt8} (hd : d.length = 4) {f : Field} {v : ℕ}
    (hmem : (f, v) ∈ sdoHeaderOf specifier sizeIndicator coeIndex) (t : List UInt8) :
    f.val (Field.putAll d (sdoHeaderOf specifier sizeIndicator coeIndex) ++ t) =
      v % 2 ^ f.width := by
  have hfits : ∀ f ∈ (sdoHeaderOf specifier sizeIndicator coeIndex).map Prod.fst, f.Fits d :=
    sdoHeaderOf_fits (Nat.le_of_eq hd.symm)
  have hdisjoint : ((sdoHeaderOf specifier sizeIndicator coeIndex).map Prod.fst).Pairwise
      Field.Disjoint := by
    simp only [sdoHeaderOf, List.map_cons, List.map_nil]
    decide
  have hfit := hfits f (List.mem_map_of_mem hmem)
  rw [Field.val_append_left (by rwa [Field.Fits, Field.length_putAll]),
    Field.val_putAll_of_mem hfits hdisjoint hmem]

/-! ## Writing the request -/

/-- The mailbox header of a request. -/
def mailboxHeader (sdoReq : SdoReq) (header : List UInt8) : List UInt8 :=
  length.put (mailboxType.put header 3) (sdoReqLength sdoReq % 2 ^ 16)

/-- The CoE header of a request. -/
def coeHeader (header : List UInt8) : List UInt8 :=
  CoeFrame.serviceType.put (CoeFrame.number.put header 0) 2

/-- Headers and SDO frame are written side by side. -/
lemma setMailbox_append {coeIndex : CoeIndex} {sdoReq : SdoReq} {h c s : List UInt8}
    (hh : h.length = 6) (hc : c.length = 2) :
    setMailbox (h ++ (c ++ s)) (.coE coeIndex (.sdoReq sdoReq)) =
      (setSdoReq coeIndex sdoReq s).bind fun s' =>
        .ok (.ok (), mailboxHeader sdoReq h ++ (coeHeader c ++ s')) := by
  have hfits : ∀ f : Field, f.msb / 8 < 6 → ∀ t, f.Fits (h ++ t) := fun f hf t =>
    Field.fits_of_le hf (by rw [List.length_append]; omega)
  have hmailbox : mailboxType.Fits h := Field.fits_of_le (n := 6) (by decide) hh.ge
  have hfitsCoe : ∀ f : Field, f.msb / 8 < 2 → ∀ t, f.Fits (c ++ t) := fun f hf t =>
    Field.fits_of_le hf (by rw [List.length_append]; omega)
  have hnumber : CoeFrame.number.Fits c := Field.fits_of_le (n := 2) (by decide) hc.ge
  have hservice : CoeFrame.serviceType.Fits (CoeFrame.number.put c 0) :=
    Field.fits_of_le (n := 2) (by decide) (by rw [Field.length_put]; exact hc.ge)
  have hlength : length.Fits (mailboxType.put h 3) :=
    Field.fits_of_le (n := 6) (by decide) (by rw [Field.length_put]; exact hh.ge)
  have htype : mailboxType.set (h ++ (c ++ s)) MailboxType.coE.toU8.toNat =
      .ok (mailboxType.put h 3 ++ (c ++ s)) := by
    rw [Field.set_of_fits (hfits _ (by decide) _)]
    exact congrArg _ (Field.put_append_left hmailbox _ _)
  have hnumber' : CoeFrame.number.set (c ++ s) 0 = .ok (CoeFrame.number.put c 0 ++ s) := by
    rw [Field.set_of_fits (hfitsCoe _ (by decide) _), Field.put_append_left hnumber]
  have hservice' : CoeFrame.serviceType.set (CoeFrame.number.put c 0 ++ s)
      CoeServiceType.sdoReq.toU8.toNat = .ok (coeHeader c ++ s) := by
    rw [Field.set_of_fits (Field.fits_of_le (n := 2) (by decide)
      (by rw [List.length_append, Field.length_put]; omega))]
    exact congrArg _ (Field.put_append_left hservice _ _)
  rw [setMailbox, htype, ok_bind]
  dsimp only
  rw [onSuffix_append (by rw [Field.length_put, hh]; rfl), hnumber', ok_bind, hservice', ok_bind,
    onSuffix_append (by rw [coeHeader, Field.length_put, Field.length_put, hc]; rfl)]
  rcases setSdoReq coeIndex sdoReq s with e | s'
  · rfl
  · have hset : ∀ t v, length.set (mailboxType.put h 3 ++ t) v =
        .ok (length.put (mailboxType.put h 3) v ++ t) := by
      intro t v
      rw [Field.set_of_fits (Field.fits_of_le (n := 6) (by decide)
        (by rw [List.length_append, Field.length_put]; omega)), Field.put_append_left hlength]
    refine bind_eq_ok.mpr ⟨_, rfl, ?_⟩
    exact bind_eq_ok.mpr ⟨_, hset (coeHeader c ++ s') _, rfl⟩

/-- The SDO frame of a download: header, size, and the data as far as there is room. -/
lemma setSdoReq_downLoad_append {coeIndex : CoeIndex} {data d z r : List UInt8}
    (hd : d.length = 4) (hz : z.length = 4) (hdata : downLoadLength data ≤ 2 ^ 16 - 1) :
    setSdoReq coeIndex (.downLoad data) (d ++ (z ++ r)) =
      .ok (Field.putAll d (sdoHeaderOf 1 true coeIndex) ++
        (SdoDownloadNormalRequestFrame.completeSize.put z data.length ++ overwrite r data)) := by
  set d' := Field.putAll d (sdoHeaderOf 1 true coeIndex)
  have hd' : d'.length = 4 := by rw [Field.length_putAll, hd]
  have hlt : data.length < 2 ^ 32 := by
    rw [downLoadLength] at hdata
    omega
  have hfits : SdoDownloadNormalRequestFrame.completeSize.Fits z :=
    Field.fits_of_le (n := 4) (by decide) hz.ge
  have hsize : SdoDownloadNormalRequestFrame.completeSize.set (z ++ r) data.length =
      .ok (SdoDownloadNormalRequestFrame.completeSize.put z data.length ++ r) := by
    rw [Field.set_of_fits (Field.fits_of_le (n := 4) (by decide)
      (by rw [List.length_append]; omega)), Field.put_append_left hfits]
  have hassert : Exec.assert (downLoadLength data ≤ 2 ^ 16 - 1) = .ok () :=
    assert_eq_ok_iff.mpr hdata
  have hpayload : ∀ z' : List UInt8, z'.length = 4 → onSuffix (d' ++ (z' ++ r))
      (SdoFrame.headerSize + SdoDownloadNormalRequestFrame.headerSize)
        (fun payload => .ok (overwrite payload data)) = .ok (d' ++ (z' ++ overwrite r data)) := by
    intro z' hz'
    rw [← List.append_assoc, onSuffix_append (by rw [List.length_append, hd', hz']; rfl),
      ← List.append_assoc]
    rfl
  rw [setSdoReq, setSdoHeader_append hd, ok_bind, onSuffix_append (by rw [hd']; rfl),
    Nat.mod_eq_of_lt hlt, hsize]
  refine bind_eq_ok.mpr ⟨_, rfl, ?_⟩
  rw [hassert, ok_bind, hpayload _ (by rw [Field.length_put, hz])]

/-- **What a download request needs.** -/
lemma of_setSdoReq_downLoad {coeIndex : CoeIndex} {data s s' : List UInt8}
    (h : setSdoReq coeIndex (.downLoad data) s = .ok s') :
    8 ≤ s.length ∧ downLoadLength data ≤ 2 ^ 16 - 1 := by
  rw [setSdoReq] at h
  obtain ⟨s₁, hheader, h⟩ := bind_eq_ok.mp h
  obtain ⟨hfour, hlength⟩ := four_le_of_setSdoHeader hheader
  obtain ⟨s₂, hsize, h⟩ := bind_eq_ok.mp h
  obtain ⟨_, hassert, -⟩ := bind_eq_ok.mp h
  refine ⟨?_, assert_eq_ok_iff.mp hassert⟩
  obtain ⟨t, ht, hsize⟩ := bind_eq_ok.mp hsize
  obtain ⟨-, rfl⟩ := sliceFrom_eq_ok_iff.mp ht
  obtain ⟨t', hset, -⟩ := bind_eq_ok.mp hsize
  have hfits := (Field.set_eq_ok_iff.mp hset).1
  have hlt : 3 < (s₁.drop SdoFrame.headerSize).length := hfits
  rw [List.length_drop, SdoFrame.headerSize] at hlt
  omega

/-- **What encoding a request needs.** -/
lemma of_setMailbox {coeIndex : CoeIndex} {sdoReq : SdoReq} {buffer buffer' : List UInt8}
    {result : Except LengthError Unit}
    (h : setMailbox buffer (.coE coeIndex (.sdoReq sdoReq)) = .ok (result, buffer')) :
    8 ≤ buffer.length ∧ ∃ s', setSdoReq coeIndex sdoReq (buffer.drop 8) = .ok s' := by
  have height : 8 ≤ buffer.length := by
    rw [setMailbox] at h
    obtain ⟨b₁, htype, h⟩ := bind_eq_ok.mp h
    obtain ⟨-, rfl⟩ := Field.set_eq_ok_iff.mp htype
    obtain ⟨b₂, hcoe, -⟩ := bind_eq_ok.mp h
    obtain ⟨t, ht, hcoe⟩ := bind_eq_ok.mp hcoe
    obtain ⟨-, rfl⟩ := sliceFrom_eq_ok_iff.mp ht
    obtain ⟨t', hcoe, -⟩ := bind_eq_ok.mp hcoe
    obtain ⟨t₁, hnumber, -⟩ := bind_eq_ok.mp hcoe
    have hfits := (Field.set_eq_ok_iff.mp hnumber).1
    have hlt : 1 < ((mailboxType.put buffer _).drop headerSize).length := hfits
    rw [List.length_drop, Field.length_put, headerSize] at hlt
    omega
  refine ⟨height, ?_⟩
  have hcut : buffer = buffer.take 6 ++ ((buffer.drop 6).take 2 ++ buffer.drop 8) := by
    rw [show buffer.drop 8 = (buffer.drop 6).drop 2 by rw [List.drop_drop], List.take_append_drop,
      List.take_append_drop]
  rw [hcut, setMailbox_append (by rw [List.length_take]; omega)
    (by rw [List.length_take, List.length_drop]; omega)] at h
  obtain ⟨s', hs', -⟩ := bind_eq_ok.mp h
  exact ⟨s', hs'⟩

/-! ## What was written -/

lemma val_mailboxHeader {sdoReq : SdoReq} {h : List UInt8} (hh : h.length = 6) (t : List UInt8) :
    mailboxType.val (mailboxHeader sdoReq h ++ t) = 3 := by
  have hlength : length.Fits (mailboxType.put h 3) :=
    Field.fits_of_le (n := 6) (by decide) (by rw [Field.length_put]; exact hh.ge)
  rw [mailboxHeader, Field.val_append_left (Field.fits_of_le (n := 6) (by decide)
      (by rw [Field.length_put, Field.length_put]; exact hh.ge)),
    Field.val_put_of_disjoint hlength (by decide),
    Field.val_put (Field.fits_of_le (n := 6) (by decide) hh.ge)]
  rfl

lemma val_coeHeader {c : List UInt8} (hc : c.length = 2) (t : List UInt8) :
    CoeFrame.serviceType.val (coeHeader c ++ t) = 2 := by
  have hservice : CoeFrame.serviceType.Fits (CoeFrame.number.put c 0) :=
    Field.fits_of_le (n := 2) (by decide) (by rw [Field.length_put]; exact hc.ge)
  rw [coeHeader, Field.val_append_left (Field.fits_put.mpr hservice), Field.val_put hservice]
  rfl

/-- Four bytes read as a field and as a little-endian number. -/
lemma fromLeBytes_eq_completeSize {z : List UInt8} (hz : z.length = 4) :
    fromLeBytes z = SdoDownloadNormalRequestFrame.completeSize.val z := by
  refine Nat.eq_of_testBit_eq fun k => ?_
  have hpos : SdoDownloadNormalRequestFrame.completeSize.bitPos k = k := Nat.zero_add k
  have hwidth : SdoDownloadNormalRequestFrame.completeSize.width = 32 := rfl
  rw [Field.testBit_val, fromLeBytes, Nat.testBit_ofBits, hpos, hwidth, hz]
  by_cases hk : k < 32
  · rw [dif_pos hk, decide_eq_true hk, Bool.true_and]
  · rw [dif_neg hk, decide_eq_false hk, Bool.false_and]

/-- The bytes of a download request. -/
def downloadBytes (coeIndex : CoeIndex) (data buffer : List UInt8) : List UInt8 :=
  mailboxHeader (.downLoad data) (buffer.take 6) ++
    (coeHeader ((buffer.drop 6).take 2) ++
      (Field.putAll ((buffer.drop 8).take 4) (sdoHeaderOf 1 true coeIndex) ++
        (SdoDownloadNormalRequestFrame.completeSize.put ((buffer.drop 12).take 4) data.length ++
          overwrite (buffer.drop 16) data)))

/-- The bytes of an upload request. -/
def uploadBytes (coeIndex : CoeIndex) (buffer : List UInt8) : List UInt8 :=
  mailboxHeader .upload (buffer.take 6) ++
    (coeHeader ((buffer.drop 6).take 2) ++
      (Field.putAll ((buffer.drop 8).take 4) (sdoHeaderOf 2 false coeIndex) ++ buffer.drop 12))

lemma take_append_drop_drop (buffer : List UInt8) (i j : ℕ) :
    buffer.drop i = (buffer.drop i).take j ++ buffer.drop (i + j) := by
  rw [← List.drop_drop, List.take_append_drop]

/-- A buffer cut where the headers of a request end. -/
lemma eq_append_headers (buffer : List UInt8) :
    buffer = buffer.take 6 ++ ((buffer.drop 6).take 2 ++
      ((buffer.drop 8).take 4 ++ buffer.drop 12)) := by
  rw [← take_append_drop_drop buffer 8 4, ← take_append_drop_drop buffer 6 2,
    List.take_append_drop]

lemma setMailbox_downLoad {coeIndex : CoeIndex} {data buffer : List UInt8}
    (h : 16 ≤ buffer.length) (hdata : downLoadLength data ≤ 2 ^ 16 - 1) :
    setMailbox buffer (.coE coeIndex (.sdoReq (.downLoad data))) =
      .ok (.ok (), downloadBytes coeIndex data buffer) := by
  have hcut : buffer = buffer.take 6 ++ ((buffer.drop 6).take 2 ++
      ((buffer.drop 8).take 4 ++ ((buffer.drop 12).take 4 ++ buffer.drop 16))) := by
    rw [← take_append_drop_drop buffer 12 4]
    exact eq_append_headers buffer
  rw [hcut, setMailbox_append (by rw [List.length_take]; omega)
    (by rw [List.length_take, List.length_drop]; omega), setSdoReq_downLoad_append
    (by rw [List.length_take, List.length_drop]; omega)
    (by rw [List.length_take, List.length_drop]; omega) hdata, ← hcut]
  rfl

lemma setMailbox_upload {coeIndex : CoeIndex} {buffer : List UInt8} (h : 12 ≤ buffer.length) :
    setMailbox buffer (.coE coeIndex (.sdoReq .upload)) =
      .ok (.ok (), uploadBytes coeIndex buffer) := by
  rw [eq_append_headers buffer, setMailbox_append (by rw [List.length_take]; omega)
    (by rw [List.length_take, List.length_drop]; omega), ← eq_append_headers buffer, setSdoReq,
    setSdoHeader_append (by rw [List.length_take, List.length_drop]; omega)]
  rfl

/-- Behind the headers of an encoded request. -/
structure Headers (specifier : ℕ) (sizeIndicator : Bool) (coeIndex : CoeIndex)
    (bytes payload : List UInt8) : Prop where
  mailboxType_eq : mailboxType.val bytes = 3
  serviceType_eq : CoeFrame.serviceType.val (bytes.drop 6) = 2
  sdo_eq : ∀ f v, (f, v) ∈ sdoHeaderOf specifier sizeIndicator coeIndex →
    f.val (bytes.drop 8) = v % 2 ^ f.width
  drop_eq : bytes.drop 12 = payload
  length_eq : bytes.length = 12 + payload.length

lemma headers_of_append {sdoReq : SdoReq} {specifier : ℕ} {sizeIndicator : Bool}
    {coeIndex : CoeIndex} {h c d : List UInt8} (hh : h.length = 6) (hc : c.length = 2)
    (hd : d.length = 4) (payload : List UInt8) :
    Headers specifier sizeIndicator coeIndex
      (mailboxHeader sdoReq h ++ (coeHeader c ++
        (Field.putAll d (sdoHeaderOf specifier sizeIndicator coeIndex) ++ payload))) payload := by
  have hh' : (mailboxHeader sdoReq h).length = 6 := by
    rw [mailboxHeader, Field.length_put, Field.length_put, hh]
  have hc' : (coeHeader c).length = 2 := by
    rw [coeHeader, Field.length_put, Field.length_put, hc]
  set d' := Field.putAll d (sdoHeaderOf specifier sizeIndicator coeIndex) with hd'
  have hd'' : d'.length = 4 := by rw [Field.length_putAll, hd]
  have h6 : (mailboxHeader sdoReq h ++ (coeHeader c ++ (d' ++ payload))).drop 6 =
      coeHeader c ++ (d' ++ payload) := List.drop_left' hh'
  have h8 : (mailboxHeader sdoReq h ++ (coeHeader c ++ (d' ++ payload))).drop 8 =
      d' ++ payload := by
    rw [← List.drop_drop (i := 2) (j := 6), h6, List.drop_left' hc']
  refine ⟨val_mailboxHeader hh _, by rw [h6, val_coeHeader hc], fun f v hmem => ?_, ?_, ?_⟩
  · rw [h8, hd', val_sdoHeaderOf hd hmem]
  · rw [← List.drop_drop (i := 4) (j := 8), h8, List.drop_left' hd'']
  · simp only [List.length_append, hh', hc', hd'']
    omega

lemma headers_downloadBytes {coeIndex : CoeIndex} {data buffer : List UInt8}
    (h : 16 ≤ buffer.length) :
    Headers 1 true coeIndex (downloadBytes coeIndex data buffer)
      (SdoDownloadNormalRequestFrame.completeSize.put ((buffer.drop 12).take 4) data.length ++
        overwrite (buffer.drop 16) data) :=
  headers_of_append (by rw [List.length_take]; omega)
    (by rw [List.length_take, List.length_drop]; omega)
    (by rw [List.length_take, List.length_drop]; omega) _

lemma headers_uploadBytes {coeIndex : CoeIndex} {buffer : List UInt8} (h : 12 ≤ buffer.length) :
    Headers 2 false coeIndex (uploadBytes coeIndex buffer) (buffer.drop 12) :=
  headers_of_append (by rw [List.length_take]; omega)
    (by rw [List.length_take, List.length_drop]; omega)
    (by rw [List.length_take, List.length_drop]; omega) _

/-- The object index and sub-index are read back. -/
lemma Headers.coeIndex_eq {specifier : ℕ} {sizeIndicator : Bool} {coeIndex : CoeIndex}
    {bytes payload : List UInt8} (h : Headers specifier sizeIndicator coeIndex bytes payload) :
    (⟨.ofNat (SdoFrame.index.val (bytes.drop 8)),
      .ofNat (SdoFrame.subIndex.val (bytes.drop 8))⟩ : CoeIndex) = coeIndex := by
  have hindex := h.sdo_eq SdoFrame.index coeIndex.index.toNat (by simp [sdoHeaderOf])
  have hsub := h.sdo_eq SdoFrame.subIndex coeIndex.subIndex.toNat (by simp [sdoHeaderOf])
  rw [hindex, hsub]
  have hindexLt : coeIndex.index.toNat % 2 ^ SdoFrame.index.width = coeIndex.index.toNat :=
    Nat.mod_eq_of_lt coeIndex.index.toNat_lt
  have hsubLt : coeIndex.subIndex.toNat % 2 ^ SdoFrame.subIndex.width = coeIndex.subIndex.toNat :=
    Nat.mod_eq_of_lt coeIndex.subIndex.toNat_lt
  rw [hindexLt, hsubLt, UInt16.ofNat_toNat, UInt8.ofNat_toNat]

lemma Headers.specifier_eq {specifier : ℕ} {sizeIndicator : Bool} {coeIndex : CoeIndex}
    {bytes payload : List UInt8} (h : Headers specifier sizeIndicator coeIndex bytes payload) :
    SdoFrame.commandSpecifier.val (bytes.drop 8) = specifier % 8 :=
  h.sdo_eq SdoFrame.commandSpecifier specifier (by simp [sdoHeaderOf])

lemma Headers.not_expedited {specifier : ℕ} {sizeIndicator : Bool} {coeIndex : CoeIndex}
    {bytes payload : List UInt8} (h : Headers specifier sizeIndicator coeIndex bytes payload) :
    ¬ Expedited bytes := by
  rw [Expedited, h.sdo_eq SdoFrame.transferType 0 (by simp [sdoHeaderOf])]
  simp

/-! ## Reading it back -/

section Download

variable {coeIndex : CoeIndex} {data buffer : List UInt8}

/-- The data of an encoded request end where its length says. -/
lemma dataStop_downloadBytes (h : 16 ≤ buffer.length) (hdata : downLoadLength data ≤ 2 ^ 16 - 1) :
    dataStop (downloadBytes coeIndex data buffer) = 16 + data.length := by
  have hheaders : Headers 1 true coeIndex (downloadBytes coeIndex data buffer) _ :=
    headers_downloadBytes h
  have hz : ((buffer.drop 12).take 4).length = 4 := by
    rw [List.length_take, List.length_drop]
    omega
  have hfits : SdoDownloadNormalRequestFrame.completeSize.Fits ((buffer.drop 12).take 4) :=
    Field.fits_of_le (n := 4) (by decide) hz.ge
  have hlt : data.length < 2 ^ SdoDownloadNormalRequestFrame.completeSize.width := by
    have hwidth : SdoDownloadNormalRequestFrame.completeSize.width = 32 := rfl
    rw [downLoadLength] at hdata
    rw [hwidth]
    omega
  rw [dataStop, if_neg hheaders.not_expedited, hheaders.drop_eq,
    List.take_left' (by rw [Field.length_put, hz]),
    fromLeBytes_eq_completeSize (by rw [Field.length_put, hz]), Field.val_put hfits,
    Nat.mod_eq_of_lt hlt]

/-- **An encoded download request**, in a buffer that has room for its data. -/
lemma dataMessage_downloadBytes (h : 16 + data.length ≤ buffer.length)
    (hdata : downLoadLength data ≤ 2 ^ 16 - 1) :
    HoldsData (downloadBytes coeIndex data buffer) ∧
      dataMessage (downloadBytes coeIndex data buffer) =
        .coE coeIndex (.sdoReq (.downLoad data)) := by
  have hroom : 16 ≤ buffer.length := by omega
  have hheaders : Headers 1 true coeIndex (downloadBytes coeIndex data buffer) _ :=
    headers_downloadBytes hroom
  have hstop : dataStop (downloadBytes coeIndex data buffer) = 16 + data.length :=
    dataStop_downloadBytes hroom hdata
  have hlength : 16 + data.length ≤ (downloadBytes coeIndex data buffer).length := by
    rw [hheaders.length_eq, List.length_append, Field.length_put, length_overwrite,
      List.length_take, List.length_drop, List.length_drop]
    omega
  have hdrop : (downloadBytes coeIndex data buffer).drop 16 = overwrite (buffer.drop 16) data := by
    rw [← List.drop_drop (i := 4) (j := 12), hheaders.drop_eq, List.drop_left' (by
      rw [Field.length_put, List.length_take, List.length_drop]; omega)]
  refine ⟨⟨⟨?_, hheaders.mailboxType_eq, .inl ⟨hheaders.serviceType_eq, hheaders.specifier_eq⟩⟩,
    by rw [hstop]; exact hlength⟩, ?_⟩
  · have hsizes : headerSize + CoeFrame.headerSize + SdoFrame.headerSize = 12 := rfl
    rw [hsizes]
    omega
  · rw [dataMessage, hheaders.coeIndex_eq, if_pos hheaders.serviceType_eq, hstop, dataStart,
      if_neg hheaders.not_expedited, List.drop_take, Nat.add_sub_cancel_left, hdrop,
      take_overwrite (by rw [List.length_drop]; omega)]

end Download

/-- Decoding what an upload request was encoded to. -/
lemma mailbox_uploadBytes {usizeBits : ℕ} {coeIndex : CoeIndex} {buffer : List UInt8} {size : ℕ}
    (hs : size ≤ buffer.length) (h : 12 ≤ size) :
    mailbox usizeBits ((uploadBytes coeIndex buffer).take size) =
      .ok (.ok (.coE coeIndex (.sdoReq .upload))) := by
  have hroom : 12 ≤ buffer.length := by omega
  have hheaders : Headers 2 false coeIndex (uploadBytes coeIndex buffer) _ :=
    headers_uploadBytes hroom
  set bytes := uploadBytes coeIndex buffer
  have hlength : 12 ≤ (bytes.take size).length := by
    rw [List.length_take, hheaders.length_eq]
    omega
  have htype : mailboxType.val (bytes.take size) = 3 := by
    have hsize : 0 + 6 ≤ size := by omega
    have htake : mailboxType.val ((bytes.take size).drop 0) = mailboxType.val (bytes.drop 0) :=
      val_drop_take (by decide) hsize
    exact htake.trans hheaders.mailboxType_eq
  have hservice : CoeFrame.serviceType.val ((bytes.take size).drop 6) = 2 := by
    rw [val_drop_take (k := 2) (by decide) (by omega), hheaders.serviceType_eq]
  have hval : ∀ f : Field, f.msb / 8 < 4 →
      f.val ((bytes.take size).drop 8) = f.val (bytes.drop 8) := fun f hf =>
    val_drop_take hf h
  have hspecifier : SdoFrame.commandSpecifier.get ((bytes.take size).drop 8) = .ok 2 := by
    rw [Field.get_of_fits (Field.fits_of_le (n := 4) (by decide)
      (by rw [List.length_drop]; omega)), hval _ (by decide), hheaders.specifier_eq]
  rw [mailbox_eq (by omega) htype, decodeCoEMailbox_eq hlength, hservice, hval _ (by decide),
    hval _ (by decide), hheaders.coeIndex_eq]
  have hreq : decodeCoE usizeBits (.ofU8 (.ofNat 2)) ((bytes.take size).drop 8)
      ((bytes.take size).drop 12) = .ok (.ok (.sdoReq .upload)) := by
    refine bind_eq_ok.mpr ⟨.ok .upload, ?_, rfl⟩
    rw [decodeSdoReq, hspecifier, ok_bind]
    rfl
  rw [hreq]
  rfl

/-- **A request that fits comes back.**  For every object, every data and every buffer: encoding
reports an error or the first `size` bytes decode to the request, exactly if the request fits into
`size` bytes. -/
theorem setMailbox_roundTrips_iff {usizeBits : ℕ} {coeIndex : CoeIndex}
    {data : Option (List UInt8)} {buffer : List UInt8} {size : ℕ} (hs : size ≤ buffer.length)
    (hlength : buffer.length < 2 ^ usizeBits) :
    RoundTrips usizeBits buffer size (requestMessage coeIndex data) ↔ RequestFits size data := by
  have htake : ∀ bytes : List UInt8, (bytes.take size).length < 2 ^ usizeBits := fun bytes => by
    rw [List.length_take]
    omega
  rcases data with _ | data
  · constructor
    · rintro ⟨result, buffer', hset, hback⟩
      obtain ⟨height, s', hs'⟩ := of_setMailbox hset
      have hfour := (four_le_of_setSdoHeader hs').1
      rw [List.length_drop] at hfour
      have heq := hset.symm.trans (setMailbox_upload (by omega))
      obtain ⟨rfl, rfl⟩ := Prod.mk.inj (Except.ok.inj heq)
      have hheaders := (headers_of_coE (hback rfl)).2
      rw [List.length_take] at hheaders
      exact hheaders.trans (Nat.min_le_left _ _)
    · intro hfits
      have hfits' : 12 ≤ size := hfits
      exact ⟨_, _, setMailbox_upload (by omega), fun _ => mailbox_uploadBytes hs hfits'⟩
  · constructor
    · rintro ⟨result, buffer', hset, hback⟩
      obtain ⟨height, s', hs'⟩ := of_setMailbox hset
      obtain ⟨hroom, hdata⟩ := of_setSdoReq_downLoad hs'
      rw [List.length_drop] at hroom
      have heq := hset.symm.trans (setMailbox_downLoad (by omega) hdata)
      obtain ⟨rfl, rfl⟩ := Prod.mk.inj (Except.ok.inj heq)
      obtain ⟨hheld, -⟩ := (mailbox_with_data_iff (htake _)).mp ⟨hback rfl, rfl⟩
      have hstop := dataStop_le_of_holdsData_take hheld
      rw [dataStop_downloadBytes (by omega) hdata] at hstop
      exact ⟨hstop, hdata⟩
    · rintro ⟨hroom, hdata⟩
      obtain ⟨hheld, hmessage⟩ :
          HoldsData (downloadBytes coeIndex data buffer) ∧
            dataMessage (downloadBytes coeIndex data buffer) = _ :=
        dataMessage_downloadBytes (hroom.trans hs) hdata
      have hstop : dataStop (downloadBytes coeIndex data buffer) ≤ size := by
        rw [dataStop_downloadBytes (by omega) hdata]
        exact hroom
      refine ⟨_, _, setMailbox_downLoad (by omega) hdata, fun _ => ?_⟩
      refine ((mailbox_with_data_iff (htake _)).mpr ⟨hheld.take hstop, ?_⟩).1
      rw [dataMessage_take hstop, hmessage]
      rfl

/-- Eight bytes of data in a mailbox of 24. -/
theorem setMailbox_roundTrips_iff_fits :
    RoundTrips 64 (List.replicate 32 0) 24
      (requestMessage ⟨0x1018, 1⟩ (some [1, 2, 3, 4, 5, 6, 7, 8])) :=
  (setMailbox_roundTrips_iff (by decide) (by decide)).mpr (by decide)

/-- A download request for eight bytes of data, of which four are there. -/
def cutRequest : List UInt8 :=
  [18, 0, 0, 0, 0, 3] ++ [0x00, 0x20] ++ [0x21, 0x18, 0x10, 0x01] ++ [8, 0, 0, 0] ++ [1, 2, 3, 4]

/-- **Cut off.**  In a buffer of 20 bytes half of the data are written; the call returns `Ok` and
what is sent does not decode. -/
theorem setMailbox_cuts_off :
    setMailbox (List.replicate 20 0)
        (requestMessage ⟨0x1018, 1⟩ (some [1, 2, 3, 4, 5, 6, 7, 8])) = .ok (.ok (), cutRequest) ∧
      ¬ RoundTrips 64 (List.replicate 20 0) 20
        (requestMessage ⟨0x1018, 1⟩ (some [1, 2, 3, 4, 5, 6, 7, 8])) := by
  have hset : setMailbox (List.replicate 20 0)
      (requestMessage ⟨0x1018, 1⟩ (some [1, 2, 3, 4, 5, 6, 7, 8])) =
        .ok (.ok (), cutRequest) := by
    decide +kernel
  have hdecoded : mailbox 64 (cutRequest.take 20) = .ok (.error ⟨⟩) := by
    decide +kernel
  refine ⟨hset, ?_⟩
  rintro ⟨result, buffer', hset', hback⟩
  obtain ⟨rfl, rfl⟩ := Prod.mk.inj (Except.ok.inj (hset.symm.trans hset'))
  cases (hback rfl).symm.trans hdecoded

end MailboxFrame

end EtherCat

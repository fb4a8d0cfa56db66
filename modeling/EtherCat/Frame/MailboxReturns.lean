import EtherCat.Frame.SdoData

/-!
# The decoder on arbitrary bytes

Every access of the decoder is behind a check of the length, so that it returns a message or a
`LengthError`, with one exception.  A normal transfer announces the size of its data in 32 bits,
and four is added to it before the check.  Where `usize` has no more than 32 bits the sum
overflows for the last four sizes (`mailbox_returns_iff`).
-/

namespace EtherCat

open Rust Rust.Exec BitField

namespace MailboxFrame

/-- A normal transfer announces a size to which four cannot be added. -/
def SizeOverflows (usizeBits : ℕ) (bytes : List UInt8) : Prop :=
  CarriesData bytes ∧ ¬ Expedited bytes ∧ 16 ≤ bytes.length ∧
    2 ^ usizeBits ≤ fromLeBytes ((bytes.drop 12).take 4) + 4

instance (usizeBits : ℕ) (bytes : List UInt8) : Decidable (SizeOverflows usizeBits bytes) :=
  inferInstanceAs (Decidable (_ ∧ _ ∧ _ ∧ _))

/-- A last step that cannot panic. -/
lemma exists_bind_ok_iff {α β : Type} {x : Exec α} {f : α → β} :
    (∃ b, (x >>= fun a => (.ok (f a) : Exec β)) = .ok b) ↔ ∃ a, x = .ok a := by
  rcases x with e | a <;> simp

/-- The one sum of the decoder. -/
lemma transferData_returns_iff {usizeBits : ℕ} {bytes : List UInt8}
    (hheaders : 12 ≤ bytes.length) :
    (∃ result, transferData usizeBits (bytes.drop 8) (bytes.drop 12) = .ok result) ↔
      (¬ Expedited bytes → 16 ≤ bytes.length →
        fromLeBytes ((bytes.drop 12).take 4) + 4 < 2 ^ usizeBits) := by
  have hfits : ∀ f : Field, f.msb / 8 < 4 → f.Fits (bytes.drop 8) := fun f hf =>
    Field.fits_of_le hf (by rw [List.length_drop]; omega)
  have hpayload : (bytes.drop 12).length = bytes.length - 12 := List.length_drop
  rw [transferData, Field.getBool_of_fits (hfits _ (by decide)), ok_bind]
  by_cases hexpedited : Expedited bytes
  · have hflag : (SdoFrame.transferType.val (bytes.drop 8) != 0) = true := by
      simpa [Expedited] using hexpedited
    have hlt : SdoFrame.dataSetSize.val (bytes.drop 8) < 4 :=
      Field.val_lt SdoFrame.dataSetSize (bytes.drop 8)
    have hsize := sub_expeditedSize hlt
    rw [hflag, if_pos rfl, Field.get_of_fits (hfits _ (by decide)), ok_bind]
    dsimp only
    set size := expeditedSize (SdoFrame.dataSetSize.val (bytes.drop 8))
    rw [sub_of_le (by omega), ok_bind]
    refine iff_of_true ?_ (fun hnormal => absurd hexpedited hnormal)
    split
    · exact ⟨_, rfl⟩
    · have hslice : sliceTo (bytes.drop 12) size = .ok ((bytes.drop 12).take size) :=
        sliceTo_eq_ok_iff.mpr ⟨by omega, rfl⟩
      exact ⟨_, by rw [hslice, ok_bind]⟩
  · have hflag : (SdoFrame.transferType.val (bytes.drop 8) != 0) = false := by
      simpa [Expedited] using hexpedited
    rw [hflag, if_neg Bool.false_ne_true]
    by_cases hlong : 16 ≤ bytes.length
    · have hslice : sliceTo (bytes.drop 12) 4 = .ok ((bytes.drop 12).take 4) :=
        sliceTo_eq_ok_iff.mpr ⟨by omega, rfl⟩
      rw [if_neg (by omega), hslice, ok_bind]
      set size := fromLeBytes ((bytes.drop 12).take 4)
      constructor
      · rintro ⟨result, h⟩ - -
        obtain ⟨stop, hstop, -⟩ := bind_eq_ok.mp h
        exact (addUpTo_eq_ok_iff.mp hstop).1
      · intro h
        rw [addUpTo_eq_ok_iff.mpr ⟨h hexpedited hlong, rfl⟩, ok_bind]
        split
        · exact ⟨_, rfl⟩
        · have hcut : slice (bytes.drop 12) 4 (size + 4) =
              .ok (((bytes.drop 12).take (size + 4)).drop 4) :=
            slice_eq_ok_iff.mpr ⟨⟨by omega, by omega⟩, rfl⟩
          exact ⟨_, by rw [hcut, ok_bind]⟩
    · rw [if_pos (by omega)]
      exact iff_of_true ⟨_, rfl⟩ fun _ hlong' => absurd hlong' hlong

lemma decodeSdoReq_returns_iff {usizeBits : ℕ} {sdoHeader sdoPayload : List UInt8}
    (hfits : SdoFrame.commandSpecifier.Fits sdoHeader) :
    (∃ result, decodeSdoReq usizeBits sdoHeader sdoPayload = .ok result) ↔
      (SdoFrame.commandSpecifier.val sdoHeader = 1 →
        ∃ result, transferData usizeBits sdoHeader sdoPayload = .ok result) := by
  rw [decodeSdoReq, Field.get_of_fits hfits, ok_bind]
  split
  · next hone => simp only [exists_bind_ok_iff, hone, forall_true_left]
  · next htwo => simp [htwo]
  · next hfour =>
      rw [hfour]
      split <;> simp
  · next hone _ _ => exact iff_of_true ⟨_, rfl⟩ fun h => absurd h hone

lemma decodeSdoRes_returns_iff {usizeBits : ℕ} {sdoHeader sdoPayload : List UInt8}
    (hfits : SdoFrame.commandSpecifier.Fits sdoHeader) :
    (∃ result, decodeSdoRes usizeBits sdoHeader sdoPayload = .ok result) ↔
      (SdoFrame.commandSpecifier.val sdoHeader = 2 →
        ∃ result, transferData usizeBits sdoHeader sdoPayload = .ok result) := by
  rw [decodeSdoRes, Field.get_of_fits hfits, ok_bind]
  split
  · next htwo => simp only [exists_bind_ok_iff, htwo, forall_true_left]
  · next hthree => simp [hthree]
  · next htwo _ => exact iff_of_true ⟨_, rfl⟩ fun h => absurd h htwo

lemma decodeCoE_returns_iff {usizeBits : ℕ} {serviceType : CoeServiceType}
    {sdoFrame sdoPayload : List UInt8} :
    (∃ result, decodeCoE usizeBits serviceType sdoFrame sdoPayload = .ok result) ↔
      (serviceType = .sdoReq → ∃ result, decodeSdoReq usizeBits sdoFrame sdoPayload = .ok result) ∧
      (serviceType = .sdoRes →
        ∃ result, decodeSdoRes usizeBits sdoFrame sdoPayload = .ok result) := by
  unfold decodeCoE
  split
  · split <;> simp
  · simp [exists_bind_ok_iff]
  · simp [exists_bind_ok_iff]
  · next hreq hres => exact iff_of_true ⟨_, rfl⟩ ⟨fun h => absurd h hreq, fun h => absurd h hres⟩

/-- A CoE message with its headers: only the transfers of data can panic. -/
lemma decodeCoEMailbox_returns_iff {usizeBits : ℕ} {bytes : List UInt8}
    (htype : mailboxType.val bytes = 3) (hheaders : 12 ≤ bytes.length) :
    (∃ result, decodeCoEMailbox usizeBits bytes (bytes.drop 6) = .ok result) ↔
      ¬ SizeOverflows usizeBits bytes := by
  have hspecifier : SdoFrame.commandSpecifier.Fits (bytes.drop 8) :=
    Field.fits_of_le (n := 4) (by decide) (by rw [List.length_drop]; omega)
  have hserviceLt : CoeFrame.serviceType.val (bytes.drop 6) < 16 :=
    Field.val_lt CoeFrame.serviceType (bytes.drop 6)
  rw [decodeCoEMailbox_eq hheaders, exists_bind_ok_iff, decodeCoE_returns_iff,
    decodeSdoReq_returns_iff hspecifier, decodeSdoRes_returns_iff hspecifier,
    transferData_returns_iff hheaders, serviceType_eq_sdoReq_iff hserviceLt,
    serviceType_eq_sdoRes_iff hserviceLt, SizeOverflows, CarriesData]
  have hlong : headerSize + CoeFrame.headerSize + SdoFrame.headerSize ≤ bytes.length := hheaders
  simp only [htype, hlong, true_and, not_and, Nat.not_le]
  constructor
  · rintro ⟨hreq, hres⟩ (⟨hservice, hone⟩ | ⟨hservice, htwo⟩)
    · exact hreq hservice hone
    · exact hres hservice htwo
  · intro h
    exact ⟨fun hservice hone => h (.inl ⟨hservice, hone⟩),
      fun hservice htwo => h (.inr ⟨hservice, htwo⟩)⟩

/-- **When the decoder returns.** -/
lemma mailbox_returns_iff (usizeBits : ℕ) (bytes : List UInt8) :
    (∃ result, mailbox usizeBits bytes = .ok result) ↔ ¬ SizeOverflows usizeBits bytes := by
  have hshort : bytes.length < 12 → ¬ SizeOverflows usizeBits bytes := fun hlt h =>
    absurd h.1.1 (Nat.not_le.mpr hlt)
  by_cases hlong : bytes.length < headerSize
  · rw [mailbox, if_pos hlong]
    exact iff_of_true ⟨_, rfl⟩ (hshort (Nat.lt_trans hlong (by decide)))
  have hlong' : 6 ≤ bytes.length := Nat.not_lt.mp hlong
  have hfits : mailboxType.Fits bytes := Field.fits_of_le (n := 6) (by decide) hlong'
  by_cases htype : mailboxType.val bytes = 3
  · rw [mailbox_eq hlong' htype]
    by_cases hheaders : 12 ≤ bytes.length
    · exact decodeCoEMailbox_returns_iff htype hheaders
    · have hlt : bytes.length < headerSize + CoeFrame.headerSize + SdoFrame.headerSize :=
        Nat.not_le.mp hheaders
      rw [decodeCoEMailbox, if_pos hlt]
      exact iff_of_true ⟨_, rfl⟩ (hshort hlt)
  · -- Without a CoE message only the payload of an error message is looked at.
    have hnot : ¬ SizeOverflows usizeBits bytes := fun h => htype h.1.2.1
    have hwithout : withoutHeader bytes = .ok (bytes.drop 6) :=
      sliceFrom_eq_ok_iff.mpr ⟨hlong', rfl⟩
    rw [mailbox, if_neg hlong, hwithout, ok_bind, mbType, Field.get_of_fits hfits, ok_bind, ok_bind]
    refine iff_of_true ?_ hnot
    split
    · split
      · exact ⟨_, rfl⟩
      · next hdetail =>
          have hfour : 4 ≤ (bytes.drop 6).length := by
            rw [MailboxErrorFrame.size] at hdetail
            omega
          have hget : MailboxErrorFrame.detail.Fits (bytes.drop 6) :=
            Field.fits_of_le (n := 4) (by decide) hfour
          exact ⟨_, by rw [MailboxErrorFrame.errorDetail, Field.get_of_fits hget, ok_bind, ok_bind]⟩
    · next hcoE => exact absurd ((mbType_eq_coE_iff (Field.val_lt mailboxType bytes)).mp hcoE) htype
    · exact ⟨_, rfl⟩

lemma not_sizeOverflows_64 (bytes : List UInt8) : ¬ SizeOverflows 64 bytes := by
  rintro ⟨-, -, -, hsize⟩
  have hlt : fromLeBytes ((bytes.drop 12).take 4) < 2 ^ (8 * ((bytes.drop 12).take 4).length) :=
    Nat.ofBits_lt_two_pow _
  have hlength : ((bytes.drop 12).take 4).length ≤ 4 := List.length_take_le _ _
  have hpow : 2 ^ (8 * ((bytes.drop 12).take 4).length) ≤ 2 ^ 32 :=
    Nat.pow_le_pow_right (by decide) (by omega)
  omega

/-- **The decoder never panics** on a target with 64 bits; on one with 32 bits it does exactly for
the normal transfers whose announced size is among the last four. -/
theorem mailbox_returnsOnTargets_iff (bytes : List UInt8) :
    (∀ usizeBits ∈ [32, 64], ∃ result, mailbox usizeBits bytes = .ok result) ↔
      ¬ SizeOverflows 32 bytes := by
  rw [List.forall_mem_cons, List.forall_mem_singleton, mailbox_returns_iff, mailbox_returns_iff,
    and_iff_left (not_sizeOverflows_64 bytes)]

/-- An upload response that announces 0xFFFFFFFD bytes. -/
theorem mailbox_panics_32 :
    mailbox 32 ([10, 0, 0, 0, 0, 0x13, 0, 0x30, 0x41, 0x18, 0x10, 0x01, 0xFD, 0xFF, 0xFF, 0xFF]) =
        .error .arithmetic ∧
      mailbox 64 ([10, 0, 0, 0, 0, 0x13, 0, 0x30, 0x41, 0x18, 0x10, 0x01, 0xFD, 0xFF, 0xFF, 0xFF]) =
        .ok (.error ⟨⟩) := by
  decide +kernel

end MailboxFrame

end EtherCat

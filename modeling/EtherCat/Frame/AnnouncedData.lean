import EtherCat.Frame.MailboxReturns

/-!
# Object data inside the message

The header of a mailbox message announces its length, and an SDO transfer announces how many
bytes of object data it carries.  The decoder compares the second with the slice it was given and
never looks at the first.  `StaysInside` says that the object data come from the announced bytes
alone, and that a message which announces more of them than bytes is refused.  It holds exactly if
the object data, when the slice holds them or their size overflows, end inside the announced
message (`mailbox_staysInside_iff`).
-/

namespace EtherCat

open Rust Rust.Exec BitField

namespace MailboxFrame

/-- The announced length is too short for the announced object data. -/
def AnnouncesTooMuch (bytes : List UInt8) : Prop :=
  CarriesData bytes ∧ headerSize + length.val bytes < dataStop bytes

instance (bytes : List UInt8) : Decidable (AnnouncesTooMuch bytes) :=
  inferInstanceAs (Decidable (_ ∧ _))

/-- **Nothing from behind the message.** -/
structure StaysInside (usizeBits : ℕ) (bytes : List UInt8) : Prop where
  /-- A message with object data is decoded from the announced bytes alone. -/
  decoded : ∀ message, mailbox usizeBits bytes = .ok (.ok message) → message.sdoData.isSome →
    mailbox usizeBits (announced bytes) = .ok (.ok message)
  /-- A message that is too short for its object data is refused with a `LengthError`. -/
  refused : AnnouncesTooMuch bytes → mailbox usizeBits bytes = .ok (.error ⟨⟩)

/-! ## What is decoded from the headers of a transfer -/

lemma exists_of_bind_map {ε α β : Type} {x : Exec (Except ε α)} {f : α → β} {b : β}
    (h : (do let a ← x; .ok (a.map f)) = (.ok (.ok b) : Exec (Except ε β))) :
    ∃ a, x = .ok (.ok a) ∧ b = f a := by
  obtain ⟨a, hx, heq⟩ := bind_eq_ok.mp h
  rcases a with e | a
  · cases heq
  · cases heq
    exact ⟨a, hx, rfl⟩

lemma sdoData_of_decodeCoE {usizeBits : ℕ} {bytes : List UInt8} {coe : CoE} {index : CoeIndex}
    (hcarries : CarriesData bytes)
    (hcoe : decodeCoE usizeBits (.ofU8 (.ofNat (CoeFrame.serviceType.val (bytes.drop 6))))
      (bytes.drop 8) (bytes.drop 12) = .ok (.ok coe)) : (Mailbox.coE index coe).sdoData.isSome := by
  obtain ⟨hheaders, -, hkind⟩ := hcarries
  have hlong : 12 ≤ bytes.length := hheaders
  have hspecifier : SdoFrame.commandSpecifier.Fits (bytes.drop 8) :=
    Field.fits_of_le (n := 4) (by decide) (by rw [List.length_drop]; omega)
  rcases hkind with ⟨hservice, hone⟩ | ⟨hservice, htwo⟩
  · rw [hservice] at hcoe
    obtain ⟨req, hreq, rfl⟩ := exists_of_bind_map hcoe
    rw [decodeSdoReq, Field.get_of_fits hspecifier, ok_bind, hone] at hreq
    obtain ⟨data, -, rfl⟩ := exists_of_bind_map hreq
    rfl
  · rw [hservice] at hcoe
    obtain ⟨res, hres, rfl⟩ := exists_of_bind_map hcoe
    rw [decodeSdoRes, Field.get_of_fits hspecifier, ok_bind, htwo] at hres
    obtain ⟨data, -, rfl⟩ := exists_of_bind_map hres
    rfl

/-- What is decoded from the headers of a transfer has object data. -/
lemma sdoData_of_carriesData {usizeBits : ℕ} {bytes : List UInt8} {message : Mailbox}
    (hcarries : CarriesData bytes) (hmailbox : mailbox usizeBits bytes = .ok (.ok message)) :
    message.sdoData.isSome := by
  have hlong : 12 ≤ bytes.length := hcarries.1
  rw [mailbox_eq (by omega) hcarries.2.1, decodeCoEMailbox_eq hlong] at hmailbox
  obtain ⟨coe, hcoe, heq⟩ := bind_eq_ok.mp hmailbox
  rcases coe with e | coe
  · cases heq
  · cases heq
    exact sdoData_of_decodeCoE hcarries hcoe

/-- A transfer whose object data end behind the slice is refused, if their size does not
overflow. -/
lemma mailbox_eq_lengthError {usizeBits : ℕ} {bytes : List UInt8}
    (hlength : bytes.length < 2 ^ usizeBits) (hcarries : CarriesData bytes)
    (hheld : ¬ HoldsData bytes) (hsize : ¬ SizeOverflows usizeBits bytes) :
    mailbox usizeBits bytes = .ok (.error ⟨⟩) := by
  obtain ⟨result, hmailbox⟩ := (mailbox_returns_iff usizeBits bytes).mpr hsize
  rcases result with _ | message
  · exact hmailbox
  · have hdata := sdoData_of_carriesData hcarries hmailbox
    exact absurd ((mailbox_with_data_iff hlength).mp ⟨hmailbox, hdata⟩).1 hheld

/-- **Object data inside the message.**  For every slice: the object data come from the announced
bytes and a message too short for them is refused exactly if the object data, when the slice holds
them or their size overflows, end inside the announced bytes.  A size that overflows a `usize` of
16 bits or more never ends there. -/
theorem mailbox_staysInside_iff {usizeBits : ℕ} {bytes : List UInt8}
    (hlength : bytes.length < 2 ^ usizeBits) :
    StaysInside usizeBits bytes ↔
      (HoldsData bytes ∨ SizeOverflows usizeBits bytes →
        dataStop bytes ≤ headerSize + length.val bytes) := by
  have hlength' : (announced bytes).length < 2 ^ usizeBits := by
    rw [announced, List.length_take]
    omega
  constructor
  · rintro h (hheld | hsize)
    · obtain ⟨hmailbox, hdata⟩ := (mailbox_with_data_iff hlength).mpr ⟨hheld, rfl⟩
      have hinside := (mailbox_with_data_iff hlength').mp ⟨h.decoded _ hmailbox hdata, hdata⟩
      exact dataStop_le_of_holdsData_take hinside.1
    · by_contra hlt
      have hrefused := h.refused ⟨hsize.1, Nat.lt_of_not_le hlt⟩
      exact (mailbox_returns_iff usizeBits bytes).mp ⟨_, hrefused⟩ hsize
  · intro h
    refine ⟨fun message hmailbox hdata => ?_, fun ⟨hcarries, hlt⟩ => ?_⟩
    · obtain ⟨hheld, rfl⟩ := (mailbox_with_data_iff hlength).mp ⟨hmailbox, hdata⟩
      have hstop := h (.inl hheld)
      exact ((mailbox_with_data_iff hlength').mpr
        ⟨hheld.take hstop, (dataMessage_take hstop).symm⟩).1
    · exact mailbox_eq_lengthError hlength hcarries
        (fun hheld => absurd (h (.inl hheld)) (Nat.not_le.mpr hlt))
        (fun hsize => absurd (h (.inr hsize)) (Nat.not_le.mpr hlt))

/-- A normal upload response of object 0x1018:1 in a buffer of 24 bytes: the header announces
`length` bytes, the SDO a complete size of eight. -/
def uploadResponse (length : UInt8) : List UInt8 :=
  [length, 0, 0, 0, 0, 0x13] ++ [0x00, 0x30] ++ [0x41, 0x18, 0x10, 0x01] ++ [8, 0, 0, 0] ++
    [1, 2, 3, 4, 5, 6, 7, 8]

/-- The complete message. -/
theorem mailbox_staysInside_iff_complete : StaysInside 64 (uploadResponse 18) :=
  (mailbox_staysInside_iff (by decide)).mpr (by decide +kernel)

/-- The first segment of a segmented upload: the message ends behind the size, and what the buffer
held before is returned as the object's data. -/
theorem mailbox_returns_leftover :
    mailbox 64 (uploadResponse 10) =
        .ok (.ok (.coE ⟨0x1018, 1⟩ (.sdoRes (.upload [1, 2, 3, 4, 5, 6, 7, 8])))) ∧
      mailbox 64 (announced (uploadResponse 10)) = .ok (.error ⟨⟩) ∧
      ¬ StaysInside 64 (uploadResponse 10) := by
  have hmailbox : mailbox 64 (uploadResponse 10) =
      .ok (.ok (.coE ⟨0x1018, 1⟩ (.sdoRes (.upload [1, 2, 3, 4, 5, 6, 7, 8])))) := by
    decide +kernel
  have hannounced : mailbox 64 (announced (uploadResponse 10)) = .ok (.error ⟨⟩) := by
    decide +kernel
  refine ⟨hmailbox, hannounced, fun h => ?_⟩
  cases (h.decoded _ hmailbox rfl).symm.trans hannounced

end MailboxFrame

end EtherCat

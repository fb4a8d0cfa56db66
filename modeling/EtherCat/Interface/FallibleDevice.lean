import EtherCat.Interface.Loopback

/-!
# Devices that return their frames, or fail

`FallibleDevice` is the contract of `ReturningDevice` without the promise that the device never
reports an error.  It may refuse a token that it has handed out, report an error for a frame that
it was given, and lose frames.  What it does hand over is either another station's frame or a frame
that was sent and has not come back before.
-/

namespace EtherCat

/-- A device that may report errors, and what it does with the frames that are handed over. -/
structure FallibleDevice (D : Type) [RawEthernetDevice D] where
  /-- All frames handed over so far, also those the device reported an error for. -/
  sent : D → List (List UInt8)
  /-- All frames returned so far, each with its number among the frames sent. -/
  returned : D → List (ℕ × List UInt8)
  transmit_none : ∀ {d d'}, RawEthernetDevice.transmit d = .none d' →
    sent d' = sent d ∧ returned d' = returned d
  transmit_some : ∀ {d token}, RawEthernetDevice.transmit d = .some token → ∀ len,
    (∃ error d', token len = .refused error d' ∧ sent d' = sent d ∧ returned d' = returned d) ∨
      ∃ buffer send, token len = .filled buffer send ∧ buffer.length = len ∧
        ∀ bytes, bytes.length = len → ∃ result d', send bytes = (result, d') ∧
          sent d' = sent d ++ [bytes] ∧ returned d' = returned d
  receive_none : ∀ {d d'}, RawEthernetDevice.receive d = .none d' →
    sent d' = sent d ∧ returned d' = returned d
  receive_some : ∀ {d token}, RawEthernetDevice.receive d = .some token →
    (∃ error d', token = .refused error d' ∧ sent d' = sent d ∧ returned d' = returned d) ∨
      ∃ bytes result d', token = .frame bytes result d' ∧ sent d' = sent d ∧
        ((Foreign bytes ∧ returned d' = returned d) ∨
          ∃ number frame, (sent d)[number]? = some frame ∧
            number ∉ (returned d).map Prod.fst ∧ Echoes frame bytes ∧
            returned d' = returned d ++ [(number, bytes)])

/-! ## A device that refuses transmit tokens -/

/-- A device whose transmit tokens fail by a schedule; after the end of the schedule none fails. -/
structure Refusing (D : Type) where
  refusals : List Bool
  device : D
  deriving DecidableEq, Repr

namespace Refusing

variable {D : Type} [RawEthernetDevice D]

/-- A token of the device inside. -/
def wrap (d : Refusing D) (token : TxToken D) : TxToken (Refusing D) := fun len =>
  if d.refusals.headD false then
    .refused .device ⟨d.refusals.tail, d.device⟩
  else
    match token len with
    | .refused error device => .refused error ⟨d.refusals.tail, device⟩
    | .filled buffer send =>
      .filled buffer fun bytes => ((send bytes).1, ⟨d.refusals.tail, (send bytes).2⟩)

instance : RawEthernetDevice (Refusing D) where
  transmit d :=
    match RawEthernetDevice.transmit d.device with
    | .none device => .none ⟨d.refusals, device⟩
    | .some token => .some (d.wrap token)
  receive d :=
    match RawEthernetDevice.receive d.device with
    | .none device => .none ⟨d.refusals, device⟩
    | .some (.refused error device) => .some (.refused error ⟨d.refusals, device⟩)
    | .some (.frame bytes result device) => .some (.frame bytes result ⟨d.refusals, device⟩)

/-- With refusals, a device that returns its frames keeps the contract of a fallible one. -/
def fallible (dev : ReturningDevice D) : FallibleDevice (Refusing D) where
  sent d := dev.sent d.device
  returned d := dev.returned d.device
  transmit_none := by
    intro d d' h
    simp only [RawEthernetDevice.transmit] at h
    split at h
    · next device hdevice =>
        cases h
        exact dev.transmit_none hdevice
    · cases h
  transmit_some := by
    intro d token h len
    simp only [RawEthernetDevice.transmit] at h
    split at h
    · cases h
    · next token' hdevice =>
        cases h
        by_cases hrefuses : d.refusals.headD false = true
        · exact .inl ⟨.device, ⟨d.refusals.tail, d.device⟩, by rw [wrap, if_pos hrefuses], rfl, rfl⟩
        · obtain ⟨buffer, send, htoken, hlength, hsend⟩ := dev.transmit_some hdevice len
          refine .inr ⟨buffer, fun bytes => ((send bytes).1, ⟨d.refusals.tail, (send bytes).2⟩), ?_,
            hlength, fun bytes hbytes => ?_⟩
          · rw [wrap, if_neg hrefuses, htoken]
          · obtain ⟨device, hres, hsent, hreturned⟩ := hsend bytes hbytes
            exact ⟨.ok (), ⟨d.refusals.tail, device⟩, by simp [hres], hsent, hreturned⟩
  receive_none := by
    intro d d' h
    simp only [RawEthernetDevice.receive] at h
    split at h
    · next device hdevice =>
        cases h
        exact dev.receive_none hdevice
    all_goals cases h
  receive_some := by
    intro d token h
    simp only [RawEthernetDevice.receive] at h
    split at h
    · cases h
    · next error device hdevice =>
        obtain ⟨bytes, device', htoken, -⟩ := dev.receive_some hdevice
        cases htoken
    · next bytes result device hdevice =>
        cases h
        obtain ⟨bytes', device', htoken, hsent, hcases⟩ := dev.receive_some hdevice
        cases htoken
        exact .inr ⟨bytes, .ok (), ⟨d.refusals, device⟩, rfl, hsent, hcases⟩

end Refusing

end EtherCat

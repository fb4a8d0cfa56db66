import EtherCat.Task.DcStart

/-!
# The PDUs of `DcInitTask`

In every state the task sends one PDU; the values that it writes to a slave are those that it has
computed.
-/

namespace EtherCat

open Rust Rust.Exec BitField CyclicTask

namespace CyclicTask

/-- The data of a request are what its closure makes of zeros. -/
lemma request_data {command : Command} {size : ℕ} {write : List UInt8 → Exec (List UInt8)}
    {buf buf' : List UInt8} {pdu : Option (Command × ℕ)}
    (h : request command size write buf = .ok (pdu, buf')) :
    size ≤ buf'.length ∧ ∃ data, write (List.replicate size 0) = .ok data ∧
      (data.length = size → buf'.take size = data) := by
  have hlength := length_request h
  obtain ⟨zeroed, hfill, hrest⟩ := bind_eq_ok.mp h
  obtain ⟨data, hwrite, heq⟩ := bind_eq_ok.mp hrest
  obtain ⟨hsize, rfl⟩ := fillTo_eq_ok_iff.mp hfill
  cases heq
  have hzeros : (List.replicate size 0 ++ buf.drop size).take size =
      List.replicate size (0 : UInt8) := by
    rw [List.take_append_of_le_length (by rw [List.length_replicate]),
      List.take_of_length_le (by rw [List.length_replicate])]
  rw [hzeros] at hwrite
  refine ⟨by omega, data, hwrite, fun hdata => ?_⟩
  have htake := take_overwrite (show data.length ≤ (List.replicate size 0 ++ buf.drop size).length by
    rw [List.length_append, List.length_replicate]
    omega)
  rwa [hdata] at htake

end CyclicTask

namespace DcInitTask

/-- The data are the value of a slave for a register that is one field. -/
def Carries (network : Network) (pos size : ℕ) (field : Field) (value : Slave → ℕ)
    (data : List UInt8) : Prop :=
  ∃ slave, slaveOf network pos = .ok slave ∧ data.length = size ∧ field.val data = value slave

/-- The offset that was computed for the clock of a slave. -/
def CarriesOffset (network : Network) (pos : ℕ) (data : List UInt8) : Prop :=
  Carries network pos DcSystemTimeOffset.size DcSystemTimeOffset.systemTimeOffset
    (fun slave => slave.dcContext.offset.toNat) data

/-- The delay that was computed for the slave. -/
def CarriesDelay (network : Network) (pos : ℕ) (data : List UInt8) : Prop :=
  Carries network pos DcSystemTimeTransmissionDelay.size
    DcSystemTimeTransmissionDelay.systemTimeTransmissionDelay
    (fun slave => slave.dcContext.delay.toNat) data

namespace OnNetwork

/-- The command of the PDU of a state. -/
def request (dc : OnNetwork) : Option Command :=
  match dc.task.state with
  | .idle | .error _ | .complete => none
  | .clearOffset => some ⟨.bwr, 0, DcSystemTimeOffset.address⟩
  | .clearDelay => some ⟨.bwr, 0, DcSystemTimeTransmissionDelay.address⟩
  | .requestToLatch _ => some ⟨.bwr, 0, DcRecieveTime.address⟩
  | .calculateDelay _ pos =>
    some (.newRead (.single (.slavePosition (.ofNat pos))) DcRecieveTime.address)
  | .setOffset pos =>
    some (.newWrite (.single (.slavePosition (.ofNat pos))) DcSystemTimeOffset.address)
  | .setDelay pos =>
    some (.newWrite (.single (.slavePosition (.ofNat pos))) DcSystemTimeTransmissionDelay.address)
  | .compensateDrift _ => dc.task.firstDcSlave.map fun first =>
    ⟨.armw, SlaveAddress.getAdp (.slavePosition (.ofNat first)), DcSystemTime.address⟩
  | .checkDelta => some ⟨.brd, 0, DcSystemTimeDelta.address⟩

/-- The PDU that a task sends. -/
structure Sends (dc : OnNetwork) (command : Command) (data : List UInt8) : Prop where
  request : dc.request = some command
  offset : ∀ pos, dc.task.state = .setOffset pos → CarriesOffset dc.network pos data
  delay : ∀ pos, dc.task.state = .setDelay pos → CarriesDelay dc.network pos data
  delta : dc.task.state = .checkDelta → data = List.replicate DcSystemTimeDelta.size 0

/-- The command that is noted does not matter. -/
lemma Sends.of_noted {dc : OnNetwork} {command noted : Command} {data : List UInt8}
    (h : dc.Sends command data) :
    Sends { dc with task := { dc.task with command := noted } } command data :=
  ⟨h.request, h.offset, h.delay, h.delta⟩

/-- A task that sends a PDU is busy. -/
lemma Sends.isBusy {dc : OnNetwork} {command : Command} {data : List UInt8}
    (h : dc.Sends command data) : dc.isBusy = true := by
  have hrequest := h.request
  rw [OnNetwork.request] at hrequest
  rw [OnNetwork.isBusy]
  split
  · next hidle => simp [hidle] at hrequest
  · next hidle => simp [hidle] at hrequest
  · next hidle => simp [hidle] at hrequest
  · rfl

/-- A PDU of one field. -/
lemma carries_of_send {dc dc' : OnNetwork} {command : Command} {size pos : ℕ} {field : Field}
    {value : Slave → ℕ} {slave : Slave} {buf buf' : List UInt8} {pdu : Option (Command × ℕ)}
    (hslave : slaveOf dc.network pos = .ok slave) (hlt : value slave < 2 ^ field.width)
    (h : dc.send command size [(field, value slave)] buf = .ok ((pdu, buf'), dc')) :
    Carries dc.network pos size field value (buf'.take size) := by
  obtain ⟨pdu', hrequest, heq⟩ := bind_eq_ok.mp h
  cases heq
  obtain ⟨-, data, hwrite, hdata⟩ := request_data hrequest
  obtain ⟨hfits, rfl⟩ := Field.setAll_eq_ok_iff.mp hwrite
  have hlength : (Field.putAll (List.replicate size 0) [(field, value slave)]).length = size := by
    rw [Field.length_putAll, List.length_replicate]
  refine ⟨slave, hslave, ?_, ?_⟩
  · rw [hdata hlength, hlength]
  · rw [hdata hlength, Field.putAll_cons, Field.putAll_nil, Field.val_put (hfits _ (by simp)),
      Nat.mod_eq_of_lt hlt]

/-- A PDU whose data do not matter. -/
lemma sends_of_request {dc : OnNetwork} {command : Command} (data : List UInt8)
    (hrequest : dc.request = some command) (hoffset : ∀ pos, dc.task.state ≠ .setOffset pos)
    (hdelay : ∀ pos, dc.task.state ≠ .setDelay pos) (hdelta : dc.task.state ≠ .checkDelta) :
    dc.Sends command data :=
  ⟨hrequest, fun pos hpos => absurd hpos (hoffset pos), fun pos hpos => absurd hpos (hdelay pos),
    fun hcheck => absurd hcheck hdelta⟩

/-- **The next PDU of a busy task.** -/
lemma nextPdu_sends {dc dc' : OnNetwork} {buf buf' : List UInt8} {command : Command} {size : ℕ}
    (h : dc.nextPdu buf = .ok ((some (command, size), buf'), dc')) :
    size ≤ buf'.length ∧ dc.Sends command (buf'.take size) := by
  have hsend : ∀ {command' size' assignments},
      dc.send command' size' assignments buf = .ok ((some (command, size), buf'), dc') →
      command = command' ∧ size = size' ∧ size ≤ buf'.length ∧
        (assignments = [] → buf'.take size = List.replicate size 0) := by
    intro command' size' assignments h
    obtain ⟨hpdu, -⟩ := send_eq_ok h
    cases hpdu
    obtain ⟨pdu', hrequest, heq⟩ := bind_eq_ok.mp h
    cases heq
    obtain ⟨hsize, data, hwrite, hdata⟩ := request_data hrequest
    refine ⟨rfl, rfl, hsize, fun hnone => ?_⟩
    subst hnone
    obtain ⟨-, rfl⟩ := Field.setAll_eq_ok_iff.mp hwrite
    exact hdata (by rw [Field.length_putAll, List.length_replicate])
  unfold nextPdu at h
  split at h
  case h_1 | h_2 | h_3 => cases h
  case h_8 pos hstate =>
    obtain ⟨slave, hslave, h⟩ := bind_eq_ok.mp h
    obtain ⟨rfl, rfl, hsize, -⟩ := hsend h
    refine ⟨hsize, by rw [OnNetwork.request, hstate], fun pos' hpos => ?_, by simp [hstate],
      by simp [hstate]⟩
    cases hstate.symm.trans hpos
    exact carries_of_send hslave (UInt64.toNat_lt _) h
  case h_9 pos hstate =>
    obtain ⟨slave, hslave, h⟩ := bind_eq_ok.mp h
    obtain ⟨rfl, rfl, hsize, -⟩ := hsend h
    refine ⟨hsize, by rw [OnNetwork.request, hstate], by simp [hstate], fun pos' hpos => ?_,
      by simp [hstate]⟩
    cases hstate.symm.trans hpos
    exact carries_of_send hslave (UInt32.toNat_lt _) h
  case h_10 hstate =>
    obtain ⟨first, hfirst, h⟩ := bind_eq_ok.mp h
    rw [unwrap_eq_ok_iff] at hfirst
    obtain ⟨rfl, rfl, hsize, -⟩ := hsend h
    refine ⟨hsize, sends_of_request _ ?_ (by simp [hstate]) (by simp [hstate]) (by simp [hstate])⟩
    rw [OnNetwork.request, hstate]
    dsimp only
    rw [hfirst]
    rfl
  case h_11 hstate =>
    obtain ⟨rfl, rfl, hsize, hzeros⟩ := hsend h
    exact ⟨hsize, by rw [OnNetwork.request, hstate], by simp [hstate], by simp [hstate],
      fun _ => hzeros rfl⟩
  all_goals
    rename_i hstate
    obtain ⟨rfl, rfl, hsize, -⟩ := hsend h
    exact ⟨hsize, sends_of_request _ (by rw [OnNetwork.request, hstate]) (by simp [hstate])
      (by simp [hstate]) (by simp [hstate])⟩

end OnNetwork

end DcInitTask

end EtherCat

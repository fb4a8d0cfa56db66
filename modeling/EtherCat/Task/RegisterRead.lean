import EtherCat.Foundation.Covered
import EtherCat.Task.BlockingCall

/-!
# Reading a register of the slaves

`read_register` sends whatever is in the buffer of the socket as the data of its datagram.  A single
slave writes its memory over them; in a broadcast every slave adds the bits of its memory to them.
The call gives the memory of the slaves exactly if nothing else was in the buffer
(`readRegister_gives_iff`).
-/

namespace EtherCat

open Rust Rust.Exec BitField CyclicTask

/-- A slave, as far as reading its memory goes. -/
structure SlaveMemory where
  stationAddress : UInt16
  memory : ℕ → UInt8

namespace SlaveMemory

/-- `size` bytes of the memory. -/
def read (slave : SlaveMemory) (ado : UInt16) (size : ℕ) : List UInt8 :=
  (List.range size).map fun i => slave.memory (ado.toNat + i)

@[simp] lemma length_read (slave : SlaveMemory) (ado : UInt16) (size : ℕ) :
    (slave.read ado size).length = size := by
  simp [read]

/-- What a slave makes of a read that passes it, as the comments on the command types say. -/
def pass (pdu : Pdu) (slave : SlaveMemory) : Pdu :=
  let data := slave.read pdu.command.ado pdu.data.length
  let incremented := { pdu.command with adp := pdu.command.adp + 1 }
  match pdu.command.cType with
  | .brd => ⟨incremented, orBytes pdu.data data, pdu.wkc + 1⟩
  | .aprd =>
    if pdu.command.adp = 0 then ⟨incremented, data, pdu.wkc + 1⟩
    else ⟨incremented, pdu.data, pdu.wkc⟩
  | .fprd =>
    if pdu.command.adp = slave.stationAddress then ⟨pdu.command, data, pdu.wkc + 1⟩ else pdu
  | _ => pdu

/-- The read passes all slaves. -/
def passAll (slaves : List SlaveMemory) (pdu : Pdu) : Pdu := slaves.foldl pass pdu

/-- The bitwise or of the memories of all slaves. -/
def orAll (slaves : List SlaveMemory) (ado : UInt16) (size : ℕ) : List UInt8 :=
  slaves.foldl (fun data slave => orBytes data (slave.read ado size)) (List.replicate size 0)

/-! ## Passing the slaves -/

section

variable {slaves : List SlaveMemory} {pdu : Pdu}

/-- A slave keeps the type and the register of a datagram, and the number of its bytes. -/
lemma pass_keeps (pdu : Pdu) (slave : SlaveMemory) :
    (pass pdu slave).command.cType = pdu.command.cType ∧
      (pass pdu slave).command.ado = pdu.command.ado ∧
      (pass pdu slave).data.length = pdu.data.length := by
  unfold pass
  dsimp only
  split
  · exact ⟨rfl, rfl, by rw [length_orBytes, length_read, Nat.min_self]⟩
  · split
    · exact ⟨rfl, rfl, length_read _ _ _⟩
    · exact ⟨rfl, rfl, rfl⟩
  · split
    · exact ⟨rfl, rfl, length_read _ _ _⟩
    · exact ⟨rfl, rfl, rfl⟩
  · exact ⟨rfl, rfl, rfl⟩

lemma passAll_keeps (slaves : List SlaveMemory) (pdu : Pdu) :
    (passAll slaves pdu).command.cType = pdu.command.cType ∧
      (passAll slaves pdu).command.ado = pdu.command.ado ∧
      (passAll slaves pdu).data.length = pdu.data.length := by
  induction slaves generalizing pdu with
  | nil => exact ⟨rfl, rfl, rfl⟩
  | cons slave slaves ih =>
      obtain ⟨htype, hado, hlength⟩ := pass_keeps pdu slave
      obtain ⟨htype', hado', hlength'⟩ := ih (pass pdu slave)
      exact ⟨htype'.trans htype, hado'.trans hado, hlength'.trans hlength⟩

/-- The bits of a broadcast read: those of the datagram and those of all slaves. -/
lemma passAll_brd (slaves : List SlaveMemory) (pdu : Pdu) (hbrd : pdu.command.cType = .brd) :
    (passAll slaves pdu).wkc = pdu.wkc + UInt16.ofNat slaves.length ∧
      (passAll slaves pdu).data = slaves.foldl (fun data slave =>
        orBytes data (slave.read pdu.command.ado pdu.data.length)) pdu.data := by
  induction slaves generalizing pdu with
  | nil => exact ⟨(UInt16.add_zero _).symm, rfl⟩
  | cons slave slaves ih =>
      obtain ⟨htype, hado, hlength⟩ := pass_keeps pdu slave
      obtain ⟨hwkc, hdata⟩ := ih _ (htype.trans hbrd)
      have hpass : (pass pdu slave).wkc = pdu.wkc + 1 ∧ (pass pdu slave).data =
          orBytes pdu.data (slave.read pdu.command.ado pdu.data.length) := by
        rw [pass, hbrd]
        exact ⟨rfl, rfl⟩
      rw [hado, hlength, hpass.2] at hdata
      refine ⟨?_, hdata⟩
      rw [passAll, List.foldl_cons, ← passAll, hwkc, hpass.1, List.length_cons, UInt16.ofNat_add,
        UInt16.add_assoc, UInt16.add_comm (UInt16.ofNat slaves.length)]
      rfl

/-- A bit of such an or. -/
lemma bitAt_foldl_orBytes (slaves : List SlaveMemory) {ado : UInt16} {size : ℕ} {data : List UInt8}
    (hsize : data.length = size) (j : ℕ) :
    bitAt (slaves.foldl (fun data slave => orBytes data (slave.read ado size)) data) j =
      (bitAt data j || slaves.any fun slave => bitAt (slave.read ado size) j) := by
  induction slaves generalizing data with
  | nil => rw [List.foldl_nil, List.any_nil, Bool.or_false]
  | cons slave slaves ih =>
      rw [List.foldl_cons, ih (by rw [length_orBytes, length_read, hsize, Nat.min_self]),
        bitAt_orBytes (by rw [length_read, hsize]), List.any_cons, Bool.or_assoc]

lemma length_foldl_orBytes (slaves : List SlaveMemory) {ado : UInt16} {size : ℕ}
    {data : List UInt8} (hsize : data.length = size) :
    (slaves.foldl (fun data slave => orBytes data (slave.read ado size)) data).length = size := by
  induction slaves generalizing data with
  | nil => exact hsize
  | cons slave slaves ih => exact ih (by rw [length_orBytes, length_read, hsize, Nat.min_self])

/-- **The or over left-over data** is that of the memories exactly if these have all its bits. -/
lemma foldl_orBytes_eq_orAll_iff (slaves : List SlaveMemory) {ado : UInt16} {size : ℕ}
    {data : List UInt8} (hsize : data.length = size) :
    slaves.foldl (fun data slave => orBytes data (slave.read ado size)) data =
        orAll slaves ado size ↔
      ∀ j < 8 * size, bitAt data j = true → bitAt (orAll slaves ado size) j = true := by
  have hzero : (List.replicate size (0 : UInt8)).length = size := List.length_replicate
  have hall (j : ℕ) : bitAt (orAll slaves ado size) j =
      slaves.any fun slave => bitAt (slave.read ado size) j := by
    have hnone : bitAt (List.replicate size 0) j = false := by
      rw [bitAt, List.getD_eq_getElem?_getD, List.getElem?_replicate]
      split <;> simp
    rw [orAll, bitAt_foldl_orBytes slaves hzero, hnone, Bool.false_or]
  have hlength : (orAll slaves ado size).length = size := length_foldl_orBytes slaves hzero
  rw [eq_iff_bitAt ((length_foldl_orBytes slaves hsize).trans hlength.symm),
    length_foldl_orBytes slaves hsize]
  refine forall₂_congr fun j _ => ?_
  rw [bitAt_foldl_orBytes slaves hsize, hall, Bool.or_eq_right_iff_imp]

/-- Two reads that differ in their data, of which no slave has answered yet. -/
structure SameRead (pdu pdu' : Pdu) : Prop where
  command_eq : pdu.command = pdu'.command
  wkc_eq : pdu.wkc = pdu'.wkc
  length_eq : pdu.data.length = pdu'.data.length
  data_eq : pdu.data = pdu'.data ∨ pdu.wkc = 0

lemma SameRead.pass {pdu pdu' : Pdu} (h : SameRead pdu pdu')
    (hsingle : pdu.command.cType = .aprd ∨ pdu.command.cType = .fprd) (slave : SlaveMemory) :
    SameRead (pass pdu slave) (SlaveMemory.pass pdu' slave) := by
  obtain ⟨⟨cType, adp, ado⟩, data, wkc⟩ := pdu
  obtain ⟨command', data', wkc'⟩ := pdu'
  obtain ⟨rfl, rfl, hlength, hdata⟩ := h
  dsimp only at hlength hdata hsingle
  unfold SlaveMemory.pass
  rcases hsingle with rfl | rfl
  · dsimp only
    split
    · exact ⟨rfl, rfl, by simp [hlength], .inl (by rw [hlength])⟩
    · exact ⟨rfl, rfl, hlength, hdata⟩
  · dsimp only
    split
    · exact ⟨rfl, rfl, by simp [hlength], .inl (by rw [hlength])⟩
    · exact ⟨rfl, rfl, hlength, hdata⟩

/-- A slave that answers alone writes over what was in the datagram. -/
lemma SameRead.passAll {pdu pdu' : Pdu} (h : SameRead pdu pdu')
    (hsingle : pdu.command.cType = .aprd ∨ pdu.command.cType = .fprd) (slaves : List SlaveMemory) :
    SameRead (passAll slaves pdu) (SlaveMemory.passAll slaves pdu') := by
  induction slaves generalizing pdu pdu' with
  | nil => exact h
  | cons slave slaves ih =>
      refine ih (h.pass hsingle slave) ?_
      rw [(pass_keeps pdu slave).1]
      exact hsingle

end

end SlaveMemory

/-- `block_on` with a network that answers every PDU: the task is driven until it is not busy any
more. -/
def Driven.blockOn {T : Type} [CyclicTask T] (respond : Pdu → Pdu) :
    ℕ → Driven T → Exec (Except (TaskError Unit) (Driven T))
  | 0, _ => .ok (.error .timeout)
  | turns + 1, d => do
    let d ← d.step ⟨respond, 100000 - turns⟩
    if isBusy d.task then blockOn respond turns d else .ok (.ok d)

/-- `read_register` over a buffer with left-over data. -/
def readRegister (slaves : List SlaveMemory) (targetSlave : TargetSlave) (registerAddress : UInt16)
    (dataSize : ℕ) (dataBuf : List UInt8) : Exec (Except (TaskError Unit) (List UInt8)) := do
  Exec.assert (dataSize ≤ dataBuf.length)
  let unit := AddressAccessTask.new.startToRead targetSlave registerAddress dataSize
  match ← Driven.blockOn (SlaveMemory.passAll slaves) 100001 ⟨unit, .new dataBuf⟩ with
  | .error e => .ok (.error e)
  | .ok d => do
    match ← unwrap d.task.waitResult with
    | .error e => .ok (.error e)
    | .ok () => do
      let data ← sliceTo d.socket.dataBuf dataSize
      .ok (.ok data)

section

variable {slaves : List SlaveMemory} {targetSlave : TargetSlave} {registerAddress : UInt16}
  {dataSize : ℕ} {dataBuf : List UInt8}

/-- What comes back of the datagram. -/
def readResponse (slaves : List SlaveMemory) (targetSlave : TargetSlave) (registerAddress : UInt16)
    (dataSize : ℕ) (dataBuf : List UInt8) : Pdu :=
  SlaveMemory.passAll slaves ⟨.newRead targetSlave registerAddress, dataBuf.take dataSize, 0⟩

/-- **The call.**  It needs one step to send the datagram and one for the response. -/
lemma readRegister_eq (hroom : dataSize ≤ dataBuf.length) :
    readRegister slaves targetSlave registerAddress dataSize dataBuf =
      .ok (if (readResponse slaves targetSlave registerAddress dataSize dataBuf).wkc =
          targetSlave.numTargets
        then .ok (readResponse slaves targetSlave registerAddress dataSize dataBuf).data
        else .error (.unexpectedWkc ⟨targetSlave.numTargets,
          (readResponse slaves targetSlave registerAddress dataSize dataBuf).wkc⟩)) := by
  set unit := AddressAccessTask.new.startToRead targetSlave registerAddress dataSize with hunit
  set response := readResponse slaves targetSlave registerAddress dataSize dataBuf with hresponse
  set command := Command.newRead targetSlave registerAddress with hcommand
  obtain ⟨htype, hado, hlength⟩ :=
    SlaveMemory.passAll_keeps slaves ⟨command, dataBuf.take dataSize, 0⟩
  have hsize : response.data.length = dataSize := by
    rw [hresponse, readResponse, hlength, List.length_take]
    omega
  have hslice {bytes : List UInt8} (hbytes : bytes.length = dataBuf.length) :
      sliceTo bytes dataSize = .ok (bytes.take dataSize) :=
    sliceTo_eq_ok_iff.mpr ⟨by omega, rfl⟩
  have htake : (overwrite dataBuf response.data).take dataSize = response.data := by
    conv_lhs => rw [← hsize]
    exact take_overwrite (by omega)
  have hanswer : (PduSocket.store (some (command, dataSize)) dataBuf).answer
      (SlaveMemory.passAll slaves) =
        .ok ⟨some response.command, overwrite dataBuf response.data, response.wkc, dataSize, true⟩ := by
    simp only [PduSocket.answer, PduSocket.takePdu, PduSocket.store, Option.map_some,
      Option.getD_some, hslice rfl, ok_bind]
    rfl
  have hfirst : Driven.step ⟨unit, .new dataBuf⟩ ⟨SlaveMemory.passAll slaves, 0⟩ =
      .ok ⟨{ unit with command := command }, .store (some (command, dataSize)) dataBuf⟩ := rfl
  have hprocess : CyclicTask.processResponse { unit with command := command }
      ⟨some response.command, overwrite dataBuf response.data, response.wkc, dataSize, true⟩ 1 =
        .ok { unit with
          command := command
          state := if response.wkc = targetSlave.numTargets then .complete
            else .error (.unexpectedWkc ⟨targetSlave.numTargets, response.wkc⟩) } := by
    have hrecv : PduSocket.getRecievedPdu
        ⟨some response.command, overwrite dataBuf response.data, response.wkc, dataSize, true⟩ =
          .ok (some ⟨response.command, response.data, response.wkc⟩) := by
      simp only [PduSocket.getRecievedPdu, if_true, hslice (length_overwrite _ _), htake, ok_bind]
    have hechoes : Pdu.Echoes ⟨response.command, response.data, response.wkc⟩ command :=
      ⟨htype, hado⟩
    rw [CyclicTask.processResponse, hrecv, ok_bind]
    show AddressAccessTask.recieveAndProcess _ _ _ = _
    by_cases hwkc : response.wkc = targetSlave.numTargets
    · have hchecked := checkedState_of_accepted AddressAccessTask.State.error ⟨hechoes, hwkc⟩ .read
      rw [if_pos hwkc]
      simp only [AddressAccessTask.recieveAndProcess, AddressAccessTask.checked, hunit,
        AddressAccessTask.startToRead]
      rw [hchecked]
    · have hchecked : checkedState AddressAccessTask.State.error command targetSlave.numTargets
          ⟨response.command, response.data, response.wkc⟩ .read =
            .error (.unexpectedWkc ⟨targetSlave.numTargets, response.wkc⟩) := by
        rw [checkedState, if_pos hechoes, if_pos hwkc]
      rw [if_neg hwkc]
      simp only [AddressAccessTask.recieveAndProcess, AddressAccessTask.checked, hunit,
        AddressAccessTask.startToRead]
      rw [hchecked]
  have hassert : Exec.assert (dataSize ≤ dataBuf.length) = .ok () := assert_eq_ok_iff.mpr hroom
  rw [readRegister, hassert, ok_bind]
  dsimp only
  have hbusy : CyclicTask.isBusy ({ unit with command := command } : AddressAccessTask) = true := rfl
  rw [← hunit, show 100001 = 99999 + 1 + 1 from rfl, Driven.blockOn, hfirst, ok_bind, if_pos hbusy,
    Driven.blockOn, Driven.step, hanswer, ok_bind, CyclicTask.processOneStep, hprocess]
  by_cases hwkc : response.wkc = targetSlave.numTargets
  · rw [if_pos hwkc, if_pos hwkc]
    refine bind_eq_ok.mpr ⟨_, rfl, bind_eq_ok.mpr ⟨_, rfl, bind_eq_ok.mpr ⟨_, hslice ?_, ?_⟩⟩⟩
    · exact length_overwrite _ _
    · exact congrArg (fun data => Except.ok (Except.ok data)) htake
  · rw [if_neg hwkc, if_neg hwkc]
    rfl

end

/-! ## Two buffers -/

/-- **What reading promises.**  What was in the buffer makes no difference, and a broadcast gives the
bitwise or of the memories. -/
structure GivesMemory (slaves : List SlaveMemory) (targetSlave : TargetSlave)
    (registerAddress : UInt16) (dataSize : ℕ) (dataBuf₁ dataBuf₂ : List UInt8) : Prop where
  same : readRegister slaves targetSlave registerAddress dataSize dataBuf₁ =
    readRegister slaves targetSlave registerAddress dataSize dataBuf₂
  isOr : ∀ number data dataBuf, targetSlave = .all number → dataBuf = dataBuf₁ ∨ dataBuf = dataBuf₂ →
    readRegister slaves targetSlave registerAddress dataSize dataBuf = .ok (.ok data) →
      data = SlaveMemory.orAll slaves registerAddress dataSize

/-- In a broadcast to all slaves, the memories have all bits of what was in the buffer. -/
def LeavesNoTrace (slaves : List SlaveMemory) (targetSlave : TargetSlave) (registerAddress : UInt16)
    (dataSize : ℕ) (dataBuf : List UInt8) : Prop :=
  targetSlave = .all (.ofNat slaves.length) → ∀ j < 8 * dataSize, bitAt dataBuf j = true →
    bitAt (SlaveMemory.orAll slaves registerAddress dataSize) j = true

section

variable {slaves : List SlaveMemory} {targetSlave : TargetSlave} {registerAddress : UInt16}
  {dataSize : ℕ} {dataBuf dataBuf₁ dataBuf₂ : List UInt8}

lemma readRegister_all (hroom : dataSize ≤ dataBuf.length) (number : UInt16) :
    readRegister slaves (.all number) registerAddress dataSize dataBuf =
      .ok (if UInt16.ofNat slaves.length = number
        then .ok (slaves.foldl (fun data slave => orBytes data (slave.read registerAddress dataSize))
          (dataBuf.take dataSize))
        else .error (.unexpectedWkc ⟨number, .ofNat slaves.length⟩)) := by
  have hsize : (dataBuf.take dataSize).length = dataSize := by
    rw [List.length_take]
    omega
  obtain ⟨hwkc, hdata⟩ := SlaveMemory.passAll_brd slaves
    ⟨.newRead (.all number) registerAddress, dataBuf.take dataSize, 0⟩ rfl
  rw [readRegister_eq hroom, readResponse, hwkc, hdata, UInt16.zero_add, hsize]
  rfl

/-- Of a single slave the same comes back, whatever was in the buffer. -/
lemma readRegister_single (h₁ : dataSize ≤ dataBuf₁.length) (h₂ : dataSize ≤ dataBuf₂.length)
    (address : SlaveAddress) :
    readRegister slaves (.single address) registerAddress dataSize dataBuf₁ =
      readRegister slaves (.single address) registerAddress dataSize dataBuf₂ := by
  have hread : (Command.newRead (.single address) registerAddress).cType = .aprd ∨
      (Command.newRead (.single address) registerAddress).cType = .fprd := by
    cases address with
    | stationAddress address => exact .inr rfl
    | slavePosition position => exact .inl rfl
  have hsent : SlaveMemory.SameRead
      ⟨.newRead (.single address) registerAddress, dataBuf₁.take dataSize, 0⟩
      ⟨.newRead (.single address) registerAddress, dataBuf₂.take dataSize, 0⟩ := by
    refine ⟨rfl, rfl, ?_, .inr rfl⟩
    rw [List.length_take, List.length_take]
    omega
  have hsame : SlaveMemory.SameRead
      (readResponse slaves (.single address) registerAddress dataSize dataBuf₁)
      (readResponse slaves (.single address) registerAddress dataSize dataBuf₂) :=
    hsent.passAll hread slaves
  rw [readRegister_eq h₁, readRegister_eq h₂, ← hsame.wkc_eq]
  split
  · next hone =>
      rcases hsame.data_eq with hdata | hzero
      · rw [hdata]
      · rw [hone] at hzero
        cases hzero
  · rfl

/-- **When reading gives the memory**: exactly if a broadcast finds nothing in the buffer that is not
in the memories as well. -/
theorem readRegister_gives_iff (h₁ : dataSize ≤ dataBuf₁.length) (h₂ : dataSize ≤ dataBuf₂.length) :
    GivesMemory slaves targetSlave registerAddress dataSize dataBuf₁ dataBuf₂ ↔
      LeavesNoTrace slaves targetSlave registerAddress dataSize dataBuf₁ ∧
        LeavesNoTrace slaves targetSlave registerAddress dataSize dataBuf₂ := by
  have hiff {dataBuf : List UInt8} (hroom : dataSize ≤ dataBuf.length) :
      slaves.foldl (fun data slave => orBytes data (slave.read registerAddress dataSize))
          (dataBuf.take dataSize) = SlaveMemory.orAll slaves registerAddress dataSize ↔
        ∀ j < 8 * dataSize, bitAt dataBuf j = true →
          bitAt (SlaveMemory.orAll slaves registerAddress dataSize) j = true := by
    rw [SlaveMemory.foldl_orBytes_eq_orAll_iff slaves (by rw [List.length_take]; omega)]
    refine forall₂_congr fun j hj => ?_
    rw [bitAt_take hj]
  cases targetSlave with
  | single address =>
      refine iff_of_true ⟨readRegister_single h₁ h₂ address, fun _ _ _ hall => ?_⟩ ⟨?_, ?_⟩
      · cases hall
      · exact fun hall => by cases hall
      · exact fun hall => by cases hall
  | all number =>
      by_cases hnumber : UInt16.ofNat slaves.length = number
      · have hok {dataBuf : List UInt8} (hroom : dataSize ≤ dataBuf.length) :
            readRegister slaves (.all number) registerAddress dataSize dataBuf = .ok (.ok
              (slaves.foldl (fun data slave =>
                orBytes data (slave.read registerAddress dataSize)) (dataBuf.take dataSize))) := by
          rw [readRegister_all hroom, if_pos hnumber]
        constructor
        · intro h
          exact ⟨fun _ => (hiff h₁).mp (h.isOr number _ dataBuf₁ rfl (.inl rfl) (hok h₁)),
            fun _ => (hiff h₂).mp (h.isOr number _ dataBuf₂ rfl (.inr rfl) (hok h₂))⟩
        · rintro ⟨hclean₁, hclean₂⟩
          have hor₁ := (hiff h₁).mpr (hclean₁ (by rw [hnumber]))
          have hor₂ := (hiff h₂).mpr (hclean₂ (by rw [hnumber]))
          refine ⟨by rw [hok h₁, hok h₂, hor₁, hor₂], ?_⟩
          rintro _ data dataBuf ⟨⟩ (rfl | rfl) hread
          · rw [hok h₁, hor₁] at hread
            cases hread
            rfl
          · rw [hok h₂, hor₂] at hread
            cases hread
            rfl
      · have herror {dataBuf : List UInt8} (hroom : dataSize ≤ dataBuf.length) :
            readRegister slaves (.all number) registerAddress dataSize dataBuf =
              .ok (.error (.unexpectedWkc ⟨number, .ofNat slaves.length⟩)) := by
          rw [readRegister_all hroom, if_neg hnumber]
        refine iff_of_true ⟨by rw [herror h₁, herror h₂], ?_⟩ ⟨?_, ?_⟩
        · rintro _ data dataBuf ⟨⟩ (rfl | rfl) hread
          · rw [herror h₁] at hread
            cases hread
          · rw [herror h₂] at hread
            cases hread
        · exact fun hall => absurd (TargetSlave.all.inj hall).symm hnumber
        · exact fun hall => absurd (TargetSlave.all.inj hall).symm hnumber

/-- A slave with zeros in its memory. -/
def zeroSlave : SlaveMemory := ⟨1, fun _ => 0⟩

/-- **A trace of earlier traffic.**  A broadcast read of one slave, whose AL status register is zero,
over a buffer with two bytes of an earlier request. -/
theorem broadcastRead_leavesTrace :
    readRegister [zeroSlave] (.all 1) 0x0130 2 [0, 0] = .ok (.ok [0, 0]) ∧
      readRegister [zeroSlave] (.all 1) 0x0130 2 [0xAB, 0xCD] = .ok (.ok [0xAB, 0xCD]) ∧
      SlaveMemory.orAll [zeroSlave] 0x0130 2 = [0, 0] ∧
      ¬ GivesMemory [zeroSlave] (.all 1) 0x0130 2 [0, 0] [0xAB, 0xCD] := by
  have hzero : readRegister [zeroSlave] (.all 1) 0x0130 2 [0, 0] = .ok (.ok [0, 0]) := by
    decide +kernel
  have htrace : readRegister [zeroSlave] (.all 1) 0x0130 2 [0xAB, 0xCD] =
      .ok (.ok [0xAB, 0xCD]) := by
    decide +kernel
  refine ⟨hzero, htrace, by decide +kernel, fun h => ?_⟩
  have hsame := h.same
  rw [hzero, htrace] at hsame
  revert hsame
  decide

/-- A single slave gives its memory over any buffer. -/
theorem singleRead_givesMemory :
    GivesMemory [zeroSlave] (.single (.stationAddress 1)) 0x0130 2 [0, 0] [0xAB, 0xCD] :=
  (readRegister_gives_iff (by decide) (by decide)).mpr
    ⟨fun hall => (by cases hall), fun hall => (by cases hall)⟩

end

end EtherCat

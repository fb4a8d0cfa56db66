import EtherCat.Frame.SdoRequest
import EtherCat.Task.PolledCall
import EtherCat.Task.SdoError

/-!
# SDO transfers

`read_sdo` and `write_sdo` write a request into the receive mailbox of the slave and read its answer
from the send mailbox.  A transfer succeeds only if the answer is a response of the right kind with
the count of the request (`sdo_accepts`).  The object that the answer is about is not looked at.
-/

namespace EtherCat

open Rust Rust.Exec BitField CyclicTask

namespace MailboxFrame

lemma length_setMailbox {buffer buffer' : List UInt8} {message : Mailbox}
    {result : Except LengthError Unit} (h : setMailbox buffer message = .ok (result, buffer')) :
    buffer'.length = buffer.length := by
  rcases message with detail | ⟨coeIndex, coe⟩ | mbType
  · cases h
  · rcases coe with frame | sdoReq | res | serviceType
    case sdoReq =>
      obtain ⟨hheaders, s', hs'⟩ := of_setMailbox h
      rcases sdoReq with data | _ | code | specifier
      · obtain ⟨hroom, hdata⟩ := of_setSdoReq_downLoad hs'
        rw [List.length_drop] at hroom
        rw [setMailbox_downLoad (by omega) hdata] at h
        cases h
        simp only [downloadBytes, mailboxHeader, coeHeader, List.length_append, Field.length_put,
          Field.length_putAll, length_overwrite, List.length_take, List.length_drop]
        omega
      · obtain ⟨hroom, -⟩ := four_le_of_setSdoHeader hs'
        rw [List.length_drop] at hroom
        rw [setMailbox_upload (by omega)] at h
        cases h
        simp only [uploadBytes, mailboxHeader, coeHeader, List.length_append, Field.length_put,
          Field.length_putAll, List.length_take, List.length_drop]
        omega
      · cases hs'
      · cases hs'
    all_goals
      obtain ⟨frame, -, h⟩ := bind_eq_ok.mp h
      cases h
  · cases h

end MailboxFrame

namespace SocketInterface

/-! ## The calls -/

/-- The closure that writes a message with its count. -/
def sdoWriter (count : UInt8) (message : Mailbox) : MailboxFrameWriter where
  run mbFrame := do
    let mbFrame ← MailboxFrame.count.set mbFrame count.toNat
    MailboxFrame.setMailbox mbFrame message
  length_run h := by
    obtain ⟨mbFrame, hset, hmessage⟩ := bind_eq_ok.mp h
    obtain ⟨-, rfl⟩ := Field.set_eq_ok_iff.mp hset
    rw [MailboxFrame.length_setMailbox hmessage, Field.length_put]

/-- `unwrap` of a `Result`. -/
def unwrapResult {E α : Type} : Except E α → Exec α
  | .ok a => .ok a
  | .error _ => .error .unwrap

variable {α : Type}

/-- The data of a transfer whose response must have the count of the request. -/
def checkCount (count : UInt8) (mbData : List UInt8) (a : α) : Exec (Except SdoErrorKind α) := do
  let mbCount ← MailboxFrame.count.get mbData
  if UInt8.ofNat mbCount ≠ count then .ok (.error .countUnmatch) else .ok (.ok a)

/-- The answers that are no SDO response, in both transfers. -/
def sdoAnswer (onSdoRes : SdoRes → Exec (Except SdoErrorKind α)) :
    Mailbox → Exec (Except SdoErrorKind α)
  | .error err => .ok (.error (.errorMailbox err))
  | .unsupportedProtocol _ => .ok (.error .unsupportedMailboxProtocol)
  | .coE _ (.emmergency emmF) => do
    let code ← EmmergencyFrame.emmergencyErrorCode emmF
    .ok (.error (.emmergency code))
  | .coE _ (.sdoReq (.abort abortCode)) => .ok (.error (.abortCode abortCode))
  | .coE _ (.sdoReq _) => .ok (.error (.unexpectedSdoType .req))
  | .coE _ (.sdoRes sdoRes) => onSdoRes sdoRes
  | .coE _ (.unsupportedType _) => .ok (.error (.unexpectedSdoType .unsupportedType))

/-- The answer in the buffer of the socket. -/
def decodeAnswer (usizeBits : ℕ) (onSdoRes : SdoRes → Exec (Except SdoErrorKind α))
    (mbData : List UInt8) : Exec (Except (TaskError SdoErrorKind) α) := do
  match ← MailboxFrame.mailbox usizeBits mbData with
  | .error _ => .ok (.error (.taskSpecific (.mailbox .bufferSmall)))
  | .ok mb => do
    let result ← sdoAnswer onSdoRes mb
    .ok (result.mapError .taskSpecific)

/-- The response to a download. -/
def onDownload (count : UInt8) (mbData : List UInt8) : SdoRes → Exec (Except SdoErrorKind Unit)
  | .downLoad => checkCount count mbData ()
  | .upload _ => .ok (.error (.unexpectedSdoType .uploadRes))
  | .other _ => .ok (.error (.unexpectedSdoType .otherRes))

/-- The response to an upload. -/
def onUpload (count : UInt8) (mbData : List UInt8) :
    SdoRes → Exec (Except SdoErrorKind (List UInt8))
  | .downLoad => .ok (.error (.unexpectedSdoType .downLoadRes))
  | .upload res => checkCount count mbData res
  | .other _ => .ok (.error (.unexpectedSdoType .otherRes))

/-- Behind the read of the answer. -/
def finishTransfer (slave : Slave)
    (decode : List UInt8 → Exec (Except (TaskError SdoErrorKind) α))
    (mbData : Except (TaskError MailboxTaskError) (List UInt8)) :
    CallProgram (Except (TaskError SdoErrorKind) α × Slave) := do
  let mbData ← Program.ofExec (unwrapResult mbData)
  let result ← Program.ofExec (decode mbData)
  .ret (result, slave)

/-- Behind the write of the request. -/
def readAnswer (slave : Slave) (decode : List UInt8 → Exec (Except (TaskError SdoErrorKind) α))
    (written : Except (TaskError MailboxTaskError) Unit) :
    CallProgram (Except (TaskError SdoErrorKind) α × Slave) := do
  let () ← Program.ofExec (unwrapResult written)
  .ask (.readMailbox slave.info true) (finishTransfer slave decode)

/-- A request and its answer. -/
def transferSdo (slave : Slave) (message : Mailbox)
    (decode : UInt8 → List UInt8 → Exec (Except (TaskError SdoErrorKind) α)) :
    CallProgram (Except (TaskError SdoErrorKind) α × Slave) :=
  let counted := slave.incrementMbCount
  .ask (.writeMailbox counted.2.info (sdoWriter counted.1 message) false)
    (readAnswer counted.2 (decode counted.1))

/-- A download of data into an object of the slave. -/
def writeSdo (usizeBits : ℕ) (slave : Slave) (index : UInt16) (subIndex : UInt8)
    (data : List UInt8) : CallProgram (Except (TaskError SdoErrorKind) Unit × Slave) :=
  transferSdo slave (.newSdoDownloadRequest index subIndex data) fun count mbData =>
    decodeAnswer usizeBits (onDownload count mbData) mbData

/-- An upload of an object of the slave. -/
def readSdo (usizeBits : ℕ) (slave : Slave) (index : UInt16) (subIndex : UInt8) :
    CallProgram (Except (TaskError SdoErrorKind) (List UInt8) × Slave) :=
  transferSdo slave (.newSdoUploadRequest index subIndex) fun count mbData =>
    decodeAnswer usizeBits (onUpload count mbData) mbData

/-! ## The message that was read -/

/-- The send mailbox of a slave. -/
def txSm (slaveInfo : SlaveInfo) : SyncManager := slaveInfo.mailboxTxSm.getD .default

/-- The command that reads it. -/
def readCommand (slaveInfo : SlaveInfo) : Command :=
  .newRead (.single slaveInfo.slaveAddress) (txSm slaveInfo).startAddress

/-- The buffer begins with what the slave gave for a read of its send mailbox. -/
def ReadFromMailbox (slaveInfo : SlaveInfo) (polls : List Polled) (mbData : List UInt8) : Prop :=
  ∃ polled ∈ polls, ∃ sent dataBuf,
    (polled.respond ⟨readCommand slaveInfo, sent, 0⟩).Echoes (readCommand slaveInfo) ∧
      (polled.respond ⟨readCommand slaveInfo, sent, 0⟩).wkc = 1 ∧
      mbData = overwrite dataBuf (polled.respond ⟨readCommand slaveInfo, sent, 0⟩).data

/-- The invariant of a read of the send mailbox. -/
structure Reading (slaveInfo : SlaveInfo) (reader : MailboxReadTask) (pdu : Option (Command × ℕ)) :
    Prop where
  readCommand_eq : reader.readCommand = readCommand slaveInfo
  not_complete : reader.state ≠ .complete
  reading : reader.state = .read → reader.command = readCommand slaveInfo ∧
    ∀ command size, pdu = some (command, size) → command = readCommand slaveInfo

lemma reading_start (slaveInfo : SlaveInfo) (waitFull : Bool) :
    Reading slaveInfo (MailboxReadTask.new.start slaveInfo.slaveAddress (txSm slaveInfo) waitFull)
      none where
  readCommand_eq := rfl
  not_complete := by rintro ⟨⟩
  reading := by rintro ⟨⟩

/-- The next PDU of a reader that is not done. -/
lemma reading_of_nextPdu {slaveInfo : SlaveInfo} {reader reader' : MailboxReadTask}
    {pdu : Option (Command × ℕ)} {buf buf' : List UInt8}
    (hcommand : reader.readCommand = readCommand slaveInfo) (hcomplete : reader.state ≠ .complete)
    (h : reader.nextPdu buf = .ok ((pdu, buf'), reader')) : Reading slaveInfo reader' pdu := by
  obtain ⟨hsame, hread, hstate⟩ := MailboxReadTask.nextPdu_spec h
  have htarget : reader'.readCommand = readCommand slaveInfo := hsame.readCommand_eq.trans hcommand
  refine ⟨htarget, ?_, fun hreading => ⟨(hread hreading).trans htarget, ?_⟩⟩
  · rcases hstate with hstate | hstate
    · rwa [hstate]
    · rw [hstate]
      rintro ⟨⟩
  · rintro command size rfl
    rcases hstate with hstate | hstate
    · rw [hreading] at hstate
      rw [MailboxReadTask.nextPdu, ← hstate] at h
      unfold MailboxReadTask.nextRead at h
      dsimp only at h
      split at h
      · cases h
      · obtain ⟨filled, -, heq⟩ := bind_eq_ok.mp h
        cases heq
        exact hcommand
    · rw [hreading] at hstate
      cases hstate

/-- A block that reads. -/
def ReadingBlock (slaveInfo : SlaveInfo) (block : Blocked MailboxTask) : Prop :=
  ∃ reader pdu dataBuf, block.driven = ⟨⟨.processing, .reader reader⟩, .store pdu dataBuf⟩ ∧
    Reading slaveInfo reader pdu

/-- **A turn of the read.**  It goes on, or the mailbox was read. -/
lemma ReadingBlock.turn {slaveInfo : SlaveInfo} {block block' : Blocked MailboxTask}
    {polls : List Polled} {polled : Polled}
    {result : Option (Except (TaskError MailboxTaskError) Unit)}
    (h : ReadingBlock slaveInfo block) (hpolled : polled ∈ polls)
    (hturn : block.turn MailboxTaskError polled = .ok (result, block')) :
    (result = none → ReadingBlock slaveInfo block') ∧
      (result = some (.ok ()) → block'.driven.task.waitResult = some (.ok ()) →
        ReadFromMailbox slaveInfo polls block'.driven.socket.dataBuf) := by
  rcases Blocked.turn_eq_ok hturn with ⟨-, rfl, hresult⟩ | ⟨-, hstep, hend⟩
  · exact ⟨fun _ => h, fun hdone => absurd hdone hresult⟩
  obtain ⟨reader, pdu, dataBuf, hdriven, hreading⟩ := h
  rw [hdriven] at hstep
  have hbusy : result = none → isBusy block'.driven.task = true := by
    rintro rfl
    by_contra hidle
    have hdone := hend.mpr (Bool.eq_false_of_not_eq_true hidle)
    cases hdone
  rcases pdu with _ | ⟨command, size⟩
  · -- no response yet
    rw [Driven.step_of_silent] at hstep
    obtain ⟨pdu, dataBuf', hnext, hsocket⟩ := Driven.ask_eq_ok hstep
    obtain ⟨reader', hnext', htask⟩ := MailboxTask.nextPdu_reader hnext
    have hreading' := reading_of_nextPdu hreading.readCommand_eq hreading.not_complete hnext'
    refine ⟨fun _ => ⟨reader', pdu, dataBuf', ?_, hreading'⟩, fun _ hdone => ?_⟩
    · rw [← htask, ← hsocket]
    · rw [htask] at hdone
      cases hdone
  · rw [Driven.step_of_asking (Driven.size_le_of_step hstep)] at hstep
    obtain ⟨task, hrecieve, hask⟩ := bind_eq_ok.mp hstep
    obtain ⟨pdu, dataBuf', hnext, hsocket⟩ := Driven.ask_eq_ok hask
    obtain ⟨reader', hrecieve', rfl⟩ := MailboxTask.recieveAndProcess_reader hrecieve
    obtain ⟨hsame, hcomplete⟩ := MailboxReadTask.recieveAndProcess_spec hrecieve'
    obtain ⟨hgoesOn, hdone⟩ := MailboxTask.stateAfter_reader reader'
    obtain ⟨hstate, hidle⟩ := MailboxTask.nextPdu_spec hnext
    refine ⟨fun hnone => ?_, fun _ hresult => ?_⟩
    · have hprocessing : MailboxTask.stateAfter reader'.waitResult = .processing :=
        hstate.symm.trans (MailboxTask.state_of_busy (hbusy hnone))
      rw [hprocessing] at hnext
      obtain ⟨reader'', hnext', htask⟩ := MailboxTask.nextPdu_reader hnext
      have hcommand : reader'.readCommand = readCommand slaveInfo :=
        hsame.readCommand_eq.trans hreading.readCommand_eq
      refine ⟨reader'', pdu, dataBuf', ?_,
        reading_of_nextPdu hcommand (hgoesOn hprocessing) hnext'⟩
      rw [← htask, ← hsocket]
    · -- the response to the read has completed it
      have hcompleted : MailboxTask.stateAfter reader'.waitResult = .complete := by
        refine hstate.symm.trans ?_
        unfold MailboxTask.waitResult at hresult
        split at hresult
        · next hcomplete => exact hcomplete
        · cases hresult
        · cases hresult
      obtain ⟨-, -, rfl⟩ := hidle (by rw [MailboxTask.isBusy, hcompleted])
      rw [hsocket]
      rcases hcomplete (hdone hcompleted) with hold | ⟨hread, hwkc, hechoes⟩
      · exact absurd hold hreading.not_complete
      · obtain ⟨hown, hout⟩ := hreading.reading hread
        rw [hown] at hechoes
        obtain rfl := hout command size rfl
        exact ⟨polled, hpolled, _, dataBuf, hechoes, hwkc, rfl⟩

/-! ## What a transfer accepts -/

/-- The invariant of a transfer: it writes, it reads, or it has decoded what was read. -/
def Transferring (slave : Slave) (message : Mailbox)
    (decode : UInt8 → List UInt8 → Exec (Except (TaskError SdoErrorKind) α)) (polls : List Polled)
    (s : SocketProgram (Except (TaskError SdoErrorKind) α × Slave)) : Prop :=
  let counted := slave.incrementMbCount
  (∃ block, s = .calling (.writeMailbox counted.2.info (sdoWriter counted.1 message) false)
      (readAnswer counted.2 (decode counted.1)) block) ∨
    (∃ block, s = .calling (.readMailbox counted.2.info true)
      (finishTransfer counted.2 (decode counted.1)) block ∧ ReadingBlock counted.2.info block) ∨
    ∃ result socket, s = .returned (result, counted.2) socket ∧
      decode counted.1 socket.dataBuf = .ok result ∧
      ReadFromMailbox counted.2.info polls socket.dataBuf

/-- A turn that ends a mailbox call leaves no PDU. -/
lemma store_of_turn {block block' : Blocked MailboxTask} {polled : Polled}
    (h : block.turn MailboxTaskError polled = .ok (some (.ok ()), block')) :
    ∃ dataBuf, block'.driven.socket = .store none dataBuf := by
  rcases Blocked.turn_eq_ok h with ⟨-, -, hresult⟩ | ⟨-, hstep, hend⟩
  · exact absurd rfl hresult
  · obtain ⟨task, buf, pdu, dataBuf, hnext, hsocket⟩ := Driven.nextPdu_of_step hstep
    obtain rfl := MailboxTask.pdu_eq_none hnext (hend.mp rfl)
    exact ⟨dataBuf, hsocket⟩

/-- **What a transfer decodes** is what it has read from the mailbox. -/
lemma transferring_of_run {slave : Slave} {message : Mailbox}
    {decode : UInt8 → List UInt8 → Exec (Except (TaskError SdoErrorKind) α)} {dataBuf : List UInt8}
    {polls : List Polled} {s : SocketProgram (Except (TaskError SdoErrorKind) α × Slave)}
    (hrun : SocketProgram.run (transferSdo slave message decode) (.store none dataBuf) polls =
      .ok s) :
    Transferring slave message decode polls s := by
  refine SocketProgram.run_invariant _ (fun s hresume => ?_) (fun s polled s' hpolled h hstep => ?_)
    hrun
  · obtain ⟨started, dataBuf', -, ⟨e, -, hfail⟩ | ⟨unit, -, rfl⟩⟩ :=
      SocketProgram.resume_ask hresume
    · cases hfail
    · exact .inl ⟨_, rfl⟩
  · rcases h with ⟨block, rfl⟩ | ⟨block, rfl, hreading⟩ | ⟨result, socket, rfl, hdecode, hread⟩
    · obtain ⟨result, block', hturn, ⟨-, rfl⟩ | ⟨e, -, hfail⟩ |
        ⟨rfl, answer, hfinish, hresume⟩⟩ := SocketProgram.step_calling hstep
      · exact .inl ⟨block', rfl⟩
      · cases hfail
      · rcases answer with e | _
        · cases hresume
        · -- the request was written, so that the read begins
          obtain ⟨started, dataBuf', hstarted, ⟨e, -, hfail⟩ | ⟨unit, rfl, rfl⟩⟩ :=
            SocketProgram.resume_ask hresume
          · cases hfail
          · obtain ⟨-, -, heq⟩ := bind_eq_ok.mp hstarted
            cases heq
            obtain ⟨buf, hsocket⟩ := store_of_turn hturn
            refine .inr (.inl ⟨_, rfl, _, none, buf, ?_, reading_start _ true⟩)
            rw [hsocket]
            rfl
    · obtain ⟨result, block', hturn, ⟨rfl, rfl⟩ | ⟨e, -, hfail⟩ |
        ⟨rfl, answer, hfinish, hresume⟩⟩ := SocketProgram.step_calling hstep
      · exact .inr (.inl ⟨block', rfl, (hreading.turn hpolled hturn).1 rfl⟩)
      · cases hfail
      · obtain ⟨waited, hwaited, heq⟩ := bind_eq_ok.mp hfinish
        rw [unwrap_eq_ok_iff] at hwaited
        rcases waited with e | _
        · cases heq
          cases hresume
        · cases heq
          have hread := (hreading.turn hpolled hturn).2 rfl hwaited
          change SocketProgram.resume (Program.ofExec (decode _ _) >>= _) _ = _ at hresume
          rcases hdecode : decode slave.incrementMbCount.1 block'.driven.socket.dataBuf
            with e | result
          · rw [hdecode] at hresume
            cases hresume
          · rw [hdecode] at hresume
            cases hresume
            exact .inr (.inr ⟨result, _, rfl, hdecode, hread⟩)
    · cases hstep
      exact .inr (.inr ⟨result, socket, rfl, hdecode, hread⟩)

/-- **What a transfer accepts**: a response that was read from the send mailbox of the slave and has
the count of the request. -/
structure Accepts (usizeBits : ℕ) (slave : Slave) (polls : List Polled) (mbData : List UInt8)
    (sdoRes : SdoRes) : Prop where
  decoded : ∃ coeIndex,
    MailboxFrame.mailbox usizeBits mbData = .ok (.ok (.coE coeIndex (.sdoRes sdoRes)))
  count_eq : MailboxFrame.count.get mbData = .ok slave.incrementMbCount.1.toNat
  read : ReadFromMailbox slave.info polls mbData

lemma checkCount_eq_ok {count : UInt8} {mbData : List UInt8} {a b : α}
    (h : checkCount count mbData a = .ok (.ok b)) :
    b = a ∧ MailboxFrame.count.get mbData = .ok count.toNat := by
  obtain ⟨mbCount, hget, h⟩ := bind_eq_ok.mp h
  obtain ⟨-, rfl⟩ := Field.get_eq_ok_iff.mp hget
  have hlt : MailboxFrame.count.val mbData < 2 ^ 3 := Field.val_lt MailboxFrame.count mbData
  split at h
  · cases h
  · next hcount =>
      cases h
      refine ⟨rfl, hget.trans ?_⟩
      rw [← not_not.mp hcount, UInt8.toNat_ofNat', Nat.mod_eq_of_lt (by omega)]

/-- Only an SDO response is accepted. -/
lemma decodeAnswer_eq_ok {usizeBits : ℕ} {onSdoRes : SdoRes → Exec (Except SdoErrorKind α)}
    {mbData : List UInt8} {a : α} (h : decodeAnswer usizeBits onSdoRes mbData = .ok (.ok a)) :
    ∃ coeIndex sdoRes,
      MailboxFrame.mailbox usizeBits mbData = .ok (.ok (.coE coeIndex (.sdoRes sdoRes))) ∧
        onSdoRes sdoRes = .ok (.ok a) := by
  obtain ⟨decoded, hdecoded, h⟩ := bind_eq_ok.mp h
  rcases decoded with e | mb
  · cases h
  · obtain ⟨result, hresult, heq⟩ := bind_eq_ok.mp h
    rcases result with e | b
    · cases heq
    · cases heq
      unfold sdoAnswer at hresult
      split at hresult
      case h_3 =>
        obtain ⟨code, -, heq⟩ := bind_eq_ok.mp hresult
        cases heq
      case h_6 coeIndex sdoRes => exact ⟨coeIndex, sdoRes, hdecoded, hresult⟩
      all_goals cases hresult

/-- **What SDO transfers accept**, for every message in the send mailbox of the slave: `read_sdo`
returns the data of an upload response with the count of the request, and `write_sdo` returns `Ok`
for a download response with this count. -/
theorem sdo_accepts (usizeBits : ℕ) (slave : Slave) (index : UInt16) (subIndex : UInt8)
    (dataBuf : List UInt8) (polls : List Polled) :
    (∀ data slave' socket, SocketProgram.run (readSdo usizeBits slave index subIndex)
        (.store none dataBuf) polls = .ok (.returned (.ok data, slave') socket) →
      Accepts usizeBits slave polls socket.dataBuf (.upload data)) ∧
    ∀ sent slave' socket, SocketProgram.run (writeSdo usizeBits slave index subIndex sent)
        (.store none dataBuf) polls = .ok (.returned (.ok (), slave') socket) →
      Accepts usizeBits slave polls socket.dataBuf .downLoad := by
  constructor
  · intro data slave' socket hrun
    obtain ⟨block, heq⟩ | ⟨block, heq, -⟩ | ⟨result, socket', heq, hdecode, hread⟩ :=
      transferring_of_run hrun
    · cases heq
    · cases heq
    · cases heq
      obtain ⟨coeIndex, sdoRes, hdecoded, hres⟩ := decodeAnswer_eq_ok hdecode
      rcases sdoRes with _ | res | specifier
      · cases hres
      · obtain ⟨rfl, hcount⟩ := checkCount_eq_ok hres
        exact ⟨⟨coeIndex, hdecoded⟩, hcount, hread⟩
      · cases hres
  · intro sent slave' socket hrun
    obtain ⟨block, heq⟩ | ⟨block, heq, -⟩ | ⟨result, socket', heq, hdecode, hread⟩ :=
      transferring_of_run hrun
    · cases heq
    · cases heq
    · cases heq
      obtain ⟨coeIndex, sdoRes, hdecoded, hres⟩ := decodeAnswer_eq_ok hdecode
      rcases sdoRes with _ | res | specifier
      · obtain ⟨-, hcount⟩ := checkCount_eq_ok hres
        exact ⟨⟨coeIndex, hdecoded⟩, hcount, hread⟩
      · cases hres
      · cases hres

/-! ## A response about another object -/

/-- A slave with two mailboxes of sixteen bytes, which has not been sent a message. -/
def mailboxSlave : Slave :=
  { Slave.default with
    info := { SlaveInfo.default with
      configuredAddress := 0x03E8
      sm := (SlaveInfo.default.sm.setIfInBounds 0 (some (.mailboxRx ⟨0, 16, 0x1000⟩))).setIfInBounds
        1 (some (.mailboxTx ⟨1, 16, 0x1100⟩)) } }

/-- The slave takes the request and gives a message. -/
def answeredWith (message : List UInt8) : List Polled :=
  [⟨.ok true, id⟩, ⟨.ok true, fun pdu => { pdu with data := [0, 0], wkc := 1 }⟩,
    ⟨.ok true, fun pdu => { pdu with wkc := 1 }⟩, ⟨.ok true, id⟩,
    ⟨.ok true, fun pdu => { pdu with data := [0x08, 0], wkc := 1 }⟩,
    ⟨.ok true, fun pdu => { pdu with data := message, wkc := 1 }⟩]

/-- An upload response with the count 1, about the object 0x6000. -/
def otherUpload : List UInt8 := [10, 0, 0, 0, 0, 0x13, 0, 0x30, 0x43, 0x00, 0x60, 0, 1, 2, 3, 4]

/-- A download response with the count 1, about the object 0x6000. -/
def otherDownload : List UInt8 := [10, 0, 0, 0, 0, 0x13, 0, 0x30, 0x60, 0x00, 0x60, 0, 0, 0, 0, 0]

lemma readSdo_otherUpload : ∃ slave' socket, socket.dataBuf = otherUpload ∧
    SocketProgram.run (readSdo 64 mailboxSlave 0x1018 1) (.store none (List.replicate 16 0))
      (answeredWith otherUpload) = .ok (.returned (.ok [1, 2, 3, 4], slave') socket) := by
  have hresult : (SocketProgram.run (readSdo 64 mailboxSlave 0x1018 1)
      (.store none (List.replicate 16 0)) (answeredWith otherUpload)).toOption.bind
        SocketProgram.result = some ((.ok [1, 2, 3, 4], { mailboxSlave with mailboxCount := 1 }),
          .store none otherUpload) := by
    decide +kernel
  exact ⟨_, _, rfl, SocketProgram.eq_of_run_result hresult⟩

lemma writeSdo_otherDownload : ∃ slave' socket, socket.dataBuf = otherDownload ∧
    SocketProgram.run (writeSdo 64 mailboxSlave 0x1018 1 []) (.store none (List.replicate 16 0))
      (answeredWith otherDownload) = .ok (.returned (.ok (), slave') socket) := by
  have hresult : (SocketProgram.run (writeSdo 64 mailboxSlave 0x1018 1 [])
      (.store none (List.replicate 16 0)) (answeredWith otherDownload)).toOption.bind
        SocketProgram.result = some ((.ok (), { mailboxSlave with mailboxCount := 1 }),
          .store none otherDownload) := by
    decide +kernel
  exact ⟨_, _, rfl, SocketProgram.eq_of_run_result hresult⟩

/-- Both are accepted. -/
theorem sdo_accepts_otherObject :
    Accepts 64 mailboxSlave (answeredWith otherUpload) otherUpload (.upload [1, 2, 3, 4]) ∧
      Accepts 64 mailboxSlave (answeredWith otherDownload) otherDownload .downLoad := by
  obtain ⟨slave, socket, hdataBuf, hread⟩ := readSdo_otherUpload
  obtain ⟨slave', socket', hdataBuf', hwrite⟩ := writeSdo_otherDownload
  have hupload := (sdo_accepts 64 mailboxSlave 0x1018 1 (List.replicate 16 0) _).1 _ _ _ hread
  have hdownload := (sdo_accepts 64 mailboxSlave 0x1018 1 (List.replicate 16 0) _).2 _ _ _ hwrite
  rw [hdataBuf] at hupload
  rw [hdataBuf'] at hdownload
  exact ⟨hupload, hdownload⟩

/-- **Not the object that was asked for.**  A transfer of the object 0x1018 accepts a message about
the object 0x6000. -/
theorem sdo_ignores_object :
    (¬ ∀ (slave : Slave) (index : UInt16) (subIndex : UInt8) (dataBuf : List UInt8)
        (polls : List Polled) data slave' socket,
      SocketProgram.run (readSdo 64 slave index subIndex) (.store none dataBuf) polls =
          .ok (.returned (.ok data, slave') socket) →
        MailboxFrame.mailbox 64 socket.dataBuf =
          .ok (.ok (.coE ⟨index, subIndex⟩ (.sdoRes (.upload data))))) ∧
      ¬ ∀ (slave : Slave) (index : UInt16) (subIndex : UInt8) (sent dataBuf : List UInt8)
        (polls : List Polled) slave' socket,
      SocketProgram.run (writeSdo 64 slave index subIndex sent) (.store none dataBuf) polls =
          .ok (.returned (.ok (), slave') socket) →
        MailboxFrame.mailbox 64 socket.dataBuf =
          .ok (.ok (.coE ⟨index, subIndex⟩ (.sdoRes .downLoad))) := by
  constructor
  · intro h
    obtain ⟨slave, socket, hdataBuf, hrun⟩ := readSdo_otherUpload
    have hdecoded := h _ _ _ _ _ _ _ _ hrun
    rw [hdataBuf] at hdecoded
    revert hdecoded
    decide +kernel
  · intro h
    obtain ⟨slave, socket, hdataBuf, hrun⟩ := writeSdo_otherDownload
    have hdecoded := h _ _ _ _ _ _ _ _ hrun
    rw [hdataBuf] at hdecoded
    revert hdecoded
    decide +kernel

end SocketInterface

end EtherCat

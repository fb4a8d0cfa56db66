import EtherCat.Interface.SocketIfSpec
import EtherCat.Master.EtherCatMaster

/-!
# The tasks with their sockets

`CyclicState` is the master without handles and without the PDU interface: each task with its own
socket.  What the interface does to a socket is an event: it takes the PDU of the socket, or brings
a response.  What the master does in a cycle or in a call, it does to this state
(`CyclicState.cycle_master`).
-/

namespace EtherCat

open Rust Rust.Exec CyclicTask

/-- The sockets of the master. -/
inductive SocketName
  | alState
  | rxError
  | dc
  | gp
  | mailbox
  | alTf
  | processData
  deriving DecidableEq, Repr

/-- The tasks with their sockets.  The socket of the process data is there if it is registered. -/
structure CyclicState where
  network : Network
  cycleCount : ℕ
  mailboxManager : MailboxManager
  processDataTask : ProcessTask
  dcTask : Option DcSyncTask
  alStateTask : AlStateReadTask
  rxErrorTask : RxErrorReadTask
  alTfTask : AlStateTransferTask
  isRegistered : Bool
  socket : SocketName → PduSocket
  /-- The PDUs that have been taken and have not come back; the program never looks at them. -/
  underWay : SocketName → Option Pdu

/-- What happens to the sockets and the tasks. -/
inductive CyclicEvent
  /-- The PDU of a socket is taken for transmission. -/
  | take (name : SocketName)
  | recieve (name : SocketName) (response : Pdu)
  /-- A blocking call writes the data of its request. -/
  | fillGp (dataBuf : List UInt8)
  /-- All PDUs have come back, and the task of a blocking call has made a step. -/
  | useGp (socket : PduSocket)
  /-- A blocking call has changed the slaves or the configuration of the process data. -/
  | setImage (image : PdoImage)
  /-- The network has been initialised. -/
  | setAlStateTarget
  /-- The clocks have been initialised. -/
  | setDcTask
  /-- The tasks make their steps. -/
  | cycle (sysTime : ℕ)
  | registerProcessDataBuffer (buf : List UInt8)
  | writePdo (slaveAddress : SlaveAddress) (pdoMapIndex pdoEntryIndex : ℕ) (data : List UInt8)
  | requestMailbox (slave : Slave) (message : Mailbox)
  | requestAlState (alState : AlState)

namespace CyclicState

/-- Another socket for one of the tasks. -/
def setSocket (s : CyclicState) (name : SocketName) (socket : PduSocket) : CyclicState :=
  { s with socket := Function.update s.socket name socket }

/-- The end of `init`. -/
def setAlStateTarget (s : CyclicState) : CyclicState :=
  { s with alStateTask := s.alStateTask.setTarget (.all (.ofNat s.network.numSlaves)) }

/-- The end of `init_dc`. -/
def setDcTask (s : CyclicState) : Exec CyclicState := do
  let dcTask ← EtherCatMaster.newDcTask s.network s.dcTask
  .ok { s with dcTask := dcTask }

/-- The network and the process data task as the configuration leaves them. -/
def setImage (s : CyclicState) (image : PdoImage) : CyclicState :=
  { s with network := image.network, processDataTask := image.processDataTask }

/-- The sockets that are there. -/
def Has (s : CyclicState) (name : SocketName) : Prop := name = .processData → s.isRegistered = true

/-- A step of a task with its own socket. -/
def processTask {T : Type} [CyclicTask T] (s : CyclicState) (name : SocketName) (task : T)
    (sysTime : ℕ) : Exec (T × CyclicState) := do
  let (task, socket) ← CyclicTask.processOneStep task (s.socket name) sysTime
  .ok (task, s.setSocket name socket)

/-- The process data, once a buffer is registered. -/
def processData (s : CyclicState) (sysTime : ℕ) : Exec CyclicState :=
  if s.isRegistered then do
    let (processDataTask, s) ← s.processTask .processData s.processDataTask sysTime
    let (mailboxManager, mbSocket) ←
      s.mailboxManager.processOneStep s.network (s.socket .mailbox) sysTime
    let s := s.setSocket .mailbox mbSocket
    let mailboxManager ← mailboxManager.findSlaveWithMailboxFromProcessData s.network
      logicalStartAddress (s.socket .processData).dataBuf
    .ok { s with processDataTask := processDataTask, mailboxManager := mailboxManager }
  else
    .ok s

/-- The drift of the clocks, if there are any. -/
def compDcDrift (s : CyclicState) (sysTime : ℕ) : Exec CyclicState :=
  match s.dcTask with
  | none => .ok s
  | some task => do
    let (task, s) ← s.processTask .dc task sysTime
    .ok { s with dcTask := some task }

/-- The error counters of the ports. -/
def checkRxError (s : CyclicState) (sysTime : ℕ) : Exec CyclicState := do
  let (task, s) ← s.processTask .rxError s.rxErrorTask sysTime
  .ok { s with rxErrorTask := task }

/-- The AL status. -/
def checkAlState (s : CyclicState) (sysTime : ℕ) : Exec CyclicState := do
  let (task, s) ← s.processTask .alState s.alStateTask sysTime
  .ok { s with alStateTask := task }

/-- The transfer of the AL state. -/
def transferAlState (s : CyclicState) (sysTime : ℕ) : Exec CyclicState := do
  let (task, s) ← s.processTask .alTf s.alTfTask sysTime
  .ok { s with alTfTask := task }

/-- `process` after the poll of the interface: every task makes a step. -/
def cycle (s : CyclicState) (sysTime : ℕ) : Exec CyclicState := do
  let s ← s.processData sysTime
  let s ← s.compDcDrift sysTime
  let s ← s.checkRxError sysTime
  let s ← s.checkAlState sysTime
  let s ← s.transferAlState sysTime
  .ok { s with
    cycleCount := (s.cycleCount + 1) % (usizeMax + 1)
    underWay := fun _ => none }

/-- The buffer of the process data. It is refused if it is shorter than the image. -/
def registerProcessDataBuffer (s : CyclicState) (buf : List UInt8) : Exec (Bool × CyclicState) :=
  if buf.length < s.processDataTask.imageSize then .ok (false, s)
  else if s.isRegistered then .error .unwrap
  else .ok (true, { s.setSocket .processData (.new buf) with isRegistered := true })

/-- The data of an entry go into the image. -/
def writePdo (s : CyclicState) (slaveAddress : SlaveAddress) (pdoMapIndex pdoEntryIndex : ℕ)
    (data : List UInt8) : Exec (Option Unit × CyclicState) :=
  if s.isRegistered then do
    match ← EtherCatMaster.pdoEntry s.network 0 slaveAddress pdoMapIndex pdoEntryIndex with
    | none => .ok (none, s)
    | some pdoEntry => do
      let (result, dataBuf) ← pdoEntry.logicalBits.writeFromBuffer logicalStartAddress
        (s.socket .processData).dataBuf data
      .ok (result, s.setSocket .processData { s.socket .processData with dataBuf := dataBuf })
  else
    .ok (none, s)

/-- A message for a slave, unless another one is under way. -/
def requestMailbox (s : CyclicState) (slave : Slave) (message : Mailbox) :
    Exec (Option MailboxSessionId × CyclicState) :=
  if isBusy s.mailboxManager.task then
    .ok (none, s)
  else do
    let (sessionId, task, _, dataBuf) ←
      s.mailboxManager.task.request slave message (s.socket .mailbox).dataBuf
    .ok (some sessionId, {
      s.setSocket .mailbox { s.socket .mailbox with dataBuf := dataBuf } with
        mailboxManager := { s.mailboxManager with task := task } })

/-- An AL state for all slaves, unless a transfer is under way. -/
def requestAlState (s : CyclicState) (alState : AlState) : Bool × CyclicState :=
  if !isBusy s.alTfTask then
    (true, { s with alTfTask := s.alTfTask.start (.all (.ofNat s.network.numSlaves)) alState })
  else
    (false, s)

/-- One event. -/
def step (s : CyclicState) : CyclicEvent → Exec CyclicState
  | .take name => do
    let (taken, socket) ← (s.socket name).takePdu
    .ok { s.setSocket name socket with
      underWay := Function.update s.underWay name (taken <|> s.underWay name) }
  | .recieve name response =>
    .ok { s.setSocket name ((s.socket name).recieve response) with
      underWay := Function.update s.underWay name none }
  | .fillGp dataBuf => .ok (s.setSocket .gp { s.socket .gp with dataBuf := dataBuf })
  | .useGp socket => .ok { s.setSocket .gp socket with underWay := fun _ => none }
  | .setImage image => .ok (s.setImage image)
  | .setAlStateTarget => .ok s.setAlStateTarget
  | .setDcTask => s.setDcTask
  | .cycle sysTime => s.cycle sysTime
  | .registerProcessDataBuffer buf => do
    let (_, s) ← s.registerProcessDataBuffer buf
    .ok s
  | .writePdo slaveAddress pdoMapIndex pdoEntryIndex data => do
    let (_, s) ← s.writePdo slaveAddress pdoMapIndex pdoEntryIndex data
    .ok s
  | .requestMailbox slave message => do
    let (_, s) ← s.requestMailbox slave message
    .ok s
  | .requestAlState alState => .ok (s.requestAlState alState).2

/-- The PDU of a socket that an event hands to the PDU interface. -/
def handedOver (name : SocketName) (s : CyclicState) : CyclicEvent → List Pdu
  | .take name' =>
    if name' = name then
      match (s.socket name).takePdu with
      | .ok (some pdu, _) => [pdu]
      | _ => []
    else
      []
  | _ => []

/-- The PDUs of a socket that a run hands to the PDU interface. -/
def sentPdus (name : SocketName) (s : CyclicState) (events : List CyclicEvent) : List Pdu :=
  Transition.log step (handedOver name) s events

section
variable {s s' : CyclicState} {name : SocketName}

/-- What happens to the socket of a PDU that is taken. -/
lemma exists_of_take (hstep : s.step (.take name) = .ok s') :
    ∃ taken socket, (s.socket name).takePdu = .ok (taken, socket) ∧ s'.socket name = socket ∧
      s'.underWay name = (taken <|> s.underWay name) ∧ s'.mailboxManager = s.mailboxManager ∧
      s'.isRegistered = s.isRegistered := by
  obtain ⟨⟨taken, socket⟩, htake, heq⟩ := bind_eq_ok.mp hstep
  cases heq
  refine ⟨taken, socket, htake, ?_, ?_, rfl, rfl⟩
  · change Function.update s.socket name socket name = socket
    rw [Function.update_self]
  · change Function.update s.underWay name (taken <|> s.underWay name) name = _
    rw [Function.update_self]

lemma of_recieve {response : Pdu}
    (hstep : s.step (.recieve name response) = .ok s') :
    s'.socket name = (s.socket name).recieve response ∧ s'.underWay name = none ∧
      s'.mailboxManager = s.mailboxManager ∧ s'.isRegistered = s.isRegistered := by
  cases hstep
  refine ⟨?_, ?_, rfl, rfl⟩
  · change Function.update s.socket name ((s.socket name).recieve response) name = _
    rw [Function.update_self]
  · change Function.update s.underWay name none name = none
    rw [Function.update_self]

lemma eq_taken_of_mem_handedOver {event : CyclicEvent} {pdu : Pdu}
    (h : pdu ∈ s.handedOver name event) : event = .take name ∧ (s.socket name).Pending ∧
      ∃ command, (s.socket name).command = some command ∧
        pdu = ⟨command, (s.socket name).dataBuf.take (s.socket name).dataLength, 0⟩ := by
  rcases event with name' | _ | _ | _ | _ | _ | _ | _ | _ | _ | _ | _
  case take =>
    rw [handedOver] at h
    split at h
    · next hname =>
        subst hname
        split at h
        · next taken socket htake =>
            obtain rfl := List.mem_singleton.mp h
            rcases PduSocket.takePdu_eq_ok htake with
              ⟨-, hnone, -⟩ | ⟨command, hpending, hcommand, -, heq, -⟩
            · cases hnone
            · exact ⟨rfl, hpending, command, hcommand, Option.some.inj heq⟩
        · cases h
    · cases h
  all_goals cases h

lemma handedOver_of_not_pending (h : ¬ (s.socket name).Pending) (event : CyclicEvent) :
    s.handedOver name event = [] :=
  List.eq_nil_iff_forall_not_mem.mpr fun _ hpdu => h (eq_taken_of_mem_handedOver hpdu).2.1

lemma handedOver_take {taken : Option Pdu} {socket : PduSocket}
    (h : (s.socket name).takePdu = .ok (taken, socket)) :
    s.handedOver name (.take name) = taken.toList := by
  rw [handedOver, if_pos rfl, h]
  cases taken <;> rfl

lemma sentPdus_append {events events' : List CyclicEvent}
    (hrun : Transition.run step s events = .ok s') :
    s.sentPdus name (events ++ events') = s.sentPdus name events ++ s'.sentPdus name events' :=
  Transition.log_append hrun

/-- A cycle hands nothing over. -/
lemma sentPdus_cycle {sysTime : ℕ} {events : List CyclicEvent}
    (hstep : s.step (.cycle sysTime) = .ok s') :
    s.sentPdus name (.cycle sysTime :: events) = s'.sentPdus name events := by
  rw [sentPdus, Transition.log, hstep]
  rfl

end

end CyclicState

/-! ## The handles -/

namespace SocketName

/-- The handle that `EtherCatMaster::new` and `register_process_data_buffer` are given. -/
def handle : SocketName → ℕ
  | alState => 0
  | rxError => 1
  | dc => 2
  | gp => 3
  | mailbox => 4
  | alTf => 5
  | processData => 6

end SocketName

namespace CyclicState

variable {D : Type}

/-- The sockets in their slots. -/
def socketSet (s : CyclicState) : IndexSet PduSocket numSockets where
  freeIndex := if s.isRegistered then 7 else 6
  items := #v[.exist (s.socket .alState), .exist (s.socket .rxError), .exist (s.socket .dc),
    .exist (s.socket .gp), .exist (s.socket .mailbox), .exist (s.socket .alTf),
    if s.isRegistered then .exist (s.socket .processData) else .nextFreeIndex 7]

/-- The master with this state. -/
def master (s : CyclicState) (iface : PduInterface D) : EtherCatMaster D where
  sif := ⟨iface, s.socketSet⟩
  network := s.network
  gpSocketHandle := SocketName.gp.handle
  cycleCount := s.cycleCount
  mailboxHandle := SocketName.mailbox.handle
  mailboxManager := s.mailboxManager
  processDataHandle := if s.isRegistered then some SocketName.processData.handle else none
  processDataTask := s.processDataTask
  dcHandle := SocketName.dc.handle
  dcTask := s.dcTask
  alStateHandle := SocketName.alState.handle
  alStateTask := s.alStateTask
  rxErrorHandle := SocketName.rxError.handle
  rxErrorTask := s.rxErrorTask
  alTfHandle := SocketName.alTf.handle
  alTfTask := s.alTfTask

lemma getItem_socketSet {s : CyclicState} {name : SocketName} (h : s.Has name) :
    s.socketSet.getItem name.handle = some (s.socket name) := by
  cases name with
  | processData =>
      have hregistered := h rfl
      simp only [socketSet, hregistered]
      rfl
  | _ => rfl

lemma modifyItem_socketSet {s : CyclicState} {name : SocketName} (h : s.Has name)
    (f : PduSocket → PduSocket) : s.socketSet.modifyItem name.handle f =
      (s.setSocket name (f (s.socket name))).socketSet := by
  cases name with
  | processData =>
      have hregistered := h rfl
      simp only [socketSet, setSocket, hregistered]
      rfl
  | _ => rfl

/-- The buffers of the sockets, cut from one. -/
def buffers (socketBuffer : List UInt8) : SocketName → List UInt8
  | .alState => socketBuffer.take AlStateReadTask.requiredBufferSize
  | .rxError => (socketBuffer.drop AlStateReadTask.requiredBufferSize).take
      RxErrorReadTask.requiredBufferSize
  | .dc => ((socketBuffer.drop AlStateReadTask.requiredBufferSize).drop
      RxErrorReadTask.requiredBufferSize).take DcSyncTask.requiredBufferSize
  | .gp => (((socketBuffer.drop AlStateReadTask.requiredBufferSize).drop
      RxErrorReadTask.requiredBufferSize).drop DcSyncTask.requiredBufferSize).take
        SlaveInitTask.maxSmSize.toNat
  | .mailbox => ((((socketBuffer.drop AlStateReadTask.requiredBufferSize).drop
      RxErrorReadTask.requiredBufferSize).drop DcSyncTask.requiredBufferSize).drop
        SlaveInitTask.maxSmSize.toNat).take SlaveInitTask.maxSmSize.toNat
  | .alTf => (((((socketBuffer.drop AlStateReadTask.requiredBufferSize).drop
      RxErrorReadTask.requiredBufferSize).drop DcSyncTask.requiredBufferSize).drop
        SlaveInitTask.maxSmSize.toNat).drop SlaveInitTask.maxSmSize.toNat).take
          AlStateTransferTask.requiredBufferSize
  | .processData => []

/-- The master before the first call. -/
def start (slaveBuf : List (Option Slave × SlaveConfig)) (socketBuffer : List UInt8) :
    CyclicState where
  network := .new slaveBuf
  cycleCount := 0
  mailboxManager := .new .new
  processDataTask := .new logicalStartAddress 0 0
  dcTask := none
  alStateTask := .new
  rxErrorTask := .new
  alTfTask := .new
  isRegistered := false
  socket name := .new (buffers socketBuffer name)
  underWay := fun _ => none

/-- **The start.** -/
lemma new_eq {slaveBuf : List (Option Slave × SlaveConfig)} {socketBuffer : List UInt8}
    {iface : PduInterface D} (hslaves : slaveBuf ≠ [])
    (hlength : EtherCatMaster.minimumRequiredBufferSize < socketBuffer.length) :
    EtherCatMaster.new slaveBuf socketBuffer iface =
      .ok ((start slaveBuf socketBuffer).master iface) := by
  have hsome : assert (slaveBuf ≠ []) = .ok () := assert_eq_ok_iff.mpr hslaves
  have hlarge : assert (EtherCatMaster.minimumRequiredBufferSize < socketBuffer.length) = .ok () :=
    assert_eq_ok_iff.mpr hlength
  unfold EtherCatMaster.minimumRequiredBufferSize at hlength
  rw [EtherCatMaster.new, hsome, ok_bind, hlarge, ok_bind]
  have hsplit : ∀ {buf : List UInt8} {n : ℕ}, n ≤ buf.length →
      splitAt buf n = .ok (buf.take n, buf.drop n) := fun h => check_of h
  rw [hsplit (by omega), ok_bind]
  dsimp only
  rw [hsplit (by rw [List.length_drop]; omega), ok_bind]
  dsimp only
  rw [hsplit (by rw [List.length_drop, List.length_drop]; omega), ok_bind]
  dsimp only
  rw [hsplit (by rw [List.length_drop, List.length_drop, List.length_drop]; omega), ok_bind]
  dsimp only
  rw [hsplit (by simp only [List.length_drop]; omega), ok_bind]
  dsimp only
  rw [hsplit (by simp only [List.length_drop]; omega), ok_bind]
  rfl

section
variable {s : CyclicState} {iface : PduInterface D} {sysTime : ℕ}

lemma processTask_master {T : Type} [CyclicTask T] (iface : PduInterface D) {name : SocketName}
    (h : s.Has name) (task : T) (sysTime : ℕ) :
    (s.master iface).sif.processTask name.handle task sysTime = (do
      let (task, s) ← s.processTask name task sysTime
      .ok (task, (s.master iface).sif)) := by
  have hget : (s.master iface).sif.getSocket name.handle = some (s.socket name) :=
    getItem_socketSet h
  rw [SocketInterface.processTask, hget, unwrap_some, ok_bind, processTask]
  rcases CyclicTask.processOneStep task (s.socket name) sysTime with e | ⟨task', socket⟩
  · rfl
  · change Except.ok (task', (⟨iface, _⟩ : SocketInterface D numSockets)) = _
    rw [show (s.master iface).sif.socketSet = s.socketSet from rfl, modifyItem_socketSet h]
    rfl

lemma compDcDrift_master : (s.master iface).compDcDrift sysTime = (do
    let s ← s.compDcDrift sysTime
    .ok (s.master iface)) := by
  have htask : (s.master iface).dcTask = s.dcTask := rfl
  rw [EtherCatMaster.compDcDrift, compDcDrift, htask]
  rcases s.dcTask with _ | task
  · rfl
  · have hhas : s.Has .dc := by rintro ⟨⟩
    have hprocess := processTask_master iface hhas task sysTime
    dsimp only
    change SocketInterface.processTask _ SocketName.dc.handle task sysTime >>= _ = _
    rw [hprocess, processTask]
    rcases CyclicTask.processOneStep task (s.socket .dc) sysTime with e | ⟨task', socket⟩ <;> rfl

lemma checkRxError_master : (s.master iface).checkRxError sysTime = (do
    let s ← s.checkRxError sysTime
    .ok (s.master iface)) := by
  have hhas : s.Has .rxError := by rintro ⟨⟩
  have hprocess := processTask_master iface hhas s.rxErrorTask sysTime
  rw [checkRxError]
  change SocketInterface.processTask _ SocketName.rxError.handle s.rxErrorTask sysTime >>= _ = _
  rw [hprocess, processTask]
  rcases CyclicTask.processOneStep s.rxErrorTask (s.socket .rxError) sysTime
    with e | ⟨task', socket⟩ <;> rfl

lemma checkAlState_master : (s.master iface).checkAlState sysTime = (do
    let s ← s.checkAlState sysTime
    .ok (s.master iface)) := by
  have hhas : s.Has .alState := by rintro ⟨⟩
  have hprocess := processTask_master iface hhas s.alStateTask sysTime
  rw [checkAlState]
  change SocketInterface.processTask _ SocketName.alState.handle s.alStateTask sysTime >>= _ = _
  rw [hprocess, processTask]
  rcases CyclicTask.processOneStep s.alStateTask (s.socket .alState) sysTime
    with e | ⟨task', socket⟩ <;> rfl

lemma transferAlState_master : (s.master iface).transferAlState sysTime = (do
    let s ← s.transferAlState sysTime
    .ok (s.master iface)) := by
  have hhas : s.Has .alTf := by rintro ⟨⟩
  have hprocess := processTask_master iface hhas s.alTfTask sysTime
  rw [transferAlState]
  change SocketInterface.processTask _ SocketName.alTf.handle s.alTfTask sysTime >>= _ = _
  rw [hprocess, processTask]
  rcases CyclicTask.processOneStep s.alTfTask (s.socket .alTf) sysTime
    with e | ⟨task', socket⟩ <;> rfl

lemma processData_master : (s.master iface).processData sysTime = (do
    let s ← s.processData sysTime
    .ok (s.master iface)) := by
  cases hregistered : s.isRegistered with
  | false =>
      have hhandle : (s.master iface).processDataHandle = none := by
        rw [master, hregistered]
        rfl
      rw [EtherCatMaster.processData, hhandle, processData, hregistered]
      rfl
  | true =>
      have hhandle : (s.master iface).processDataHandle = some SocketName.processData.handle := by
        rw [master, hregistered]
        rfl
      rw [EtherCatMaster.processData, hhandle, processData, if_pos hregistered]
      have hhas : s.Has .processData := fun _ => hregistered
      have hprocess := processTask_master iface hhas s.processDataTask sysTime
      dsimp only
      change SocketInterface.processTask _ SocketName.processData.handle s.processDataTask
        sysTime >>= _ = _
      rw [hprocess, processTask]
      rcases CyclicTask.processOneStep s.processDataTask (s.socket .processData) sysTime
        with e | ⟨task, socket⟩
      · rfl
      have hmailbox : (s.setSocket .processData socket).Has .mailbox := by rintro ⟨⟩
      have hget : ((s.setSocket .processData socket).master iface).sif.getSocket
          (s.master iface).mailboxHandle = some (s.socket .mailbox) := getItem_socketSet hmailbox
      dsimp only [ok_bind]
      rw [hget, unwrap_some, ok_bind]
      change s.mailboxManager.processOneStep s.network (s.socket .mailbox) sysTime >>= _ =
        (s.mailboxManager.processOneStep s.network (s.socket .mailbox) sysTime >>= _) >>= _
      rcases s.mailboxManager.processOneStep s.network (s.socket .mailbox) sysTime
        with e | ⟨manager, mbSocket⟩
      · rfl
      have hmodified : ((s.setSocket .processData socket).master iface).sif.modifySocket
          (s.master iface).mailboxHandle (fun _ => mbSocket) =
          (((s.setSocket .processData socket).setSocket .mailbox mbSocket).master iface).sif :=
        congrArg (SocketInterface.mk iface) (modifyItem_socketSet hmailbox _)
      have hprocessData :
          ((s.setSocket .processData socket).setSocket .mailbox mbSocket).Has .processData :=
        fun _ => hregistered
      have hget' : (((s.setSocket .processData socket).setSocket .mailbox mbSocket).master
          iface).sif.getSocket SocketName.processData.handle = some socket :=
        getItem_socketSet hprocessData
      dsimp only [ok_bind]
      rw [hmodified, hget', unwrap_some, ok_bind]
      change manager.findSlaveWithMailboxFromProcessData s.network logicalStartAddress
        socket.dataBuf >>= _ = (manager.findSlaveWithMailboxFromProcessData s.network
          logicalStartAddress socket.dataBuf >>= _) >>= _
      rcases manager.findSlaveWithMailboxFromProcessData s.network logicalStartAddress
        socket.dataBuf with e | manager'
      · rfl
      · have hsome : some SocketName.processData.handle =
            if s.isRegistered then some SocketName.processData.handle else none :=
          (if_pos hregistered).symm
        rw [hsome]
        rfl

/-- **The steps of the tasks.** -/
lemma cycle_master : (s.master iface).cycle sysTime = (do
    let s ← s.cycle sysTime
    .ok (s.master iface)) := by
  rw [EtherCatMaster.cycle, processData_master, cycle]
  rcases s.processData sysTime with e | s
  · rfl
  rw [ok_bind, ok_bind, ok_bind, compDcDrift_master]
  rcases s.compDcDrift sysTime with e | s
  · rfl
  rw [ok_bind, ok_bind, ok_bind, checkRxError_master]
  rcases s.checkRxError sysTime with e | s
  · rfl
  rw [ok_bind, ok_bind, ok_bind, checkAlState_master]
  rcases s.checkAlState sysTime with e | s
  · rfl
  rw [ok_bind, ok_bind, ok_bind, transferAlState_master]
  rcases s.transferAlState sysTime with e | s <;> rfl

/-! ## The calls of the user -/

lemma registerProcessDataBuffer_master (buf : List UInt8) :
    (s.master iface).registerProcessDataBuffer buf = (do
      let (isTaken, s) ← s.registerProcessDataBuffer buf
      .ok (isTaken, s.master iface)) := by
  change (if buf.length < s.processDataTask.imageSize then _ else _) = _
  rw [registerProcessDataBuffer]
  split
  · rfl
  · cases hregistered : s.isRegistered with
    | true =>
        have hfull : (s.master iface).sif.addBuffer buf = .error .unwrap := by
          rw [master, socketSet, hregistered]
          rfl
        rw [hfull, if_pos rfl]
        rfl
    | false =>
        have hadded : (s.master iface).sif.addBuffer buf = .ok (SocketName.processData.handle,
            (CyclicState.master { s.setSocket .processData (.new buf) with isRegistered := true }
              iface).sif) := by
          rw [master, socketSet, hregistered]
          rfl
        rw [hadded, if_neg Bool.false_ne_true]
        rfl

lemma writePdo_master (slaveAddress : SlaveAddress) (pdoMapIndex pdoEntryIndex : ℕ)
    (data : List UInt8) :
    (s.master iface).writePdo slaveAddress pdoMapIndex pdoEntryIndex data = (do
      let (result, s) ← s.writePdo slaveAddress pdoMapIndex pdoEntryIndex data
      .ok (result, s.master iface)) := by
  cases hregistered : s.isRegistered with
  | false =>
      have hhandle : (s.master iface).processDataHandle = none := by
        rw [master, hregistered]
        rfl
      rw [EtherCatMaster.writePdo, hhandle, writePdo, hregistered]
      rfl
  | true =>
      have hhandle : (s.master iface).processDataHandle = some SocketName.processData.handle := by
        rw [master, hregistered]
        rfl
      have hhas : s.Has .processData := fun _ => hregistered
      have hget : (s.master iface).sif.getSocket SocketName.processData.handle =
          some (s.socket .processData) := getItem_socketSet hhas
      have hmodified : ∀ f, (s.master iface).sif.modifySocket SocketName.processData.handle f =
          ((s.setSocket .processData (f (s.socket .processData))).master iface).sif := fun f =>
        congrArg (SocketInterface.mk iface) (modifyItem_socketSet hhas f)
      rw [EtherCatMaster.writePdo, hhandle, writePdo, if_pos hregistered]
      dsimp only
      rw [hget]
      dsimp only
      change EtherCatMaster.pdoEntry s.network 0 slaveAddress pdoMapIndex pdoEntryIndex >>= _ =
        (EtherCatMaster.pdoEntry s.network 0 slaveAddress pdoMapIndex pdoEntryIndex >>= _) >>= _
      rcases EtherCatMaster.pdoEntry s.network 0 slaveAddress pdoMapIndex pdoEntryIndex
        with e | _ | pdoEntry
      · rfl
      · rfl
      dsimp only [ok_bind]
      rcases pdoEntry.logicalBits.writeFromBuffer logicalStartAddress
        (s.socket .processData).dataBuf data with e | ⟨result, dataBuf⟩
      · rfl
      · dsimp only [ok_bind]
        rw [hmodified]
        have hsome : some SocketName.processData.handle =
            if s.isRegistered then some SocketName.processData.handle else none :=
          (if_pos hregistered).symm
        rw [hsome]
        rfl

lemma requestMailbox_master (slave : Slave) (message : Mailbox) :
    (s.master iface).requestMailbox slave message = (do
      let (sessionId, s) ← s.requestMailbox slave message
      .ok (sessionId, s.master iface)) := by
  have hhas : s.Has .mailbox := by rintro ⟨⟩
  have hget : (s.master iface).sif.getSocket (s.master iface).mailboxHandle =
      some (s.socket .mailbox) := getItem_socketSet hhas
  have hmodified : ∀ f, (s.master iface).sif.modifySocket (s.master iface).mailboxHandle f =
      ((s.setSocket .mailbox (f (s.socket .mailbox))).master iface).sif := fun f =>
    congrArg (SocketInterface.mk iface) (modifyItem_socketSet hhas f)
  rw [EtherCatMaster.requestMailbox, requestMailbox]
  change (if isBusy s.mailboxManager.task then _ else _) = _
  split
  · rfl
  · rw [hget, unwrap_some, ok_bind]
    change s.mailboxManager.task.request slave message (s.socket .mailbox).dataBuf >>= _ =
      (s.mailboxManager.task.request slave message (s.socket .mailbox).dataBuf >>= _) >>= _
    rcases s.mailboxManager.task.request slave message (s.socket .mailbox).dataBuf
      with e | ⟨sessionId, task, slave', dataBuf⟩
    · rfl
    · dsimp only [ok_bind]
      rw [hmodified]
      rfl

lemma requestAlState_master (alState : AlState) :
    (s.master iface).requestAlState alState =
      ((s.requestAlState alState).1, (s.requestAlState alState).2.master iface) := by
  rw [requestAlState]
  change (if !isBusy s.alTfTask then _ else _) = _
  split <;> rfl

end

end CyclicState

end EtherCat

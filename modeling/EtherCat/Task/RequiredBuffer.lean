import EtherCat.Task.AlStateTransferSteps
import EtherCat.Task.DcMeasurement
import EtherCat.Task.DcStartReturns
import EtherCat.Task.LoopTasks
import EtherCat.Task.RequestTasks
import EtherCat.Task.SiiReadFailures

/-!
# The buffers that the tasks ask for

Eight tasks publish the size of the buffer that `next_pdu` needs.  Seven of them publish the
largest size that any of their states needs, those of their inner tasks included.  The eighth,
`NetworkInitTask`, publishes only what its own first state needs: the inner `SlaveInitTask` needs
more (`requiredBuffers_iff`).
-/

namespace EtherCat

open Rust Rust.Exec BitField CyclicTask

/-! ## The published sizes -/

/-- The size of the buffer that the task asks for. -/
def SlaveInitTask.requiredBufferSize : ℕ :=
  [DlControl.size, RxErrorCounter.size, WatchDogDivider.size, DlUserWatchDog.size,
    SyncManagerChannelWatchDog.size, DlStatus.size, DlInformation.size, FmmuRegister.size,
    SyncManagerControl.size + SyncManagerStatus.size + SyncManagerActivation.size,
    FixedStationAddress.size, PdiControl.size, DcActivation.size, CyclicOperationStartTime.size,
    Sync0CycleTime.size, Sync1CycleTime.size, LatchEdge.size, LatchEvent.size,
    Latch0PositiveEdgeValue.size, Latch0NegativeEdgeValue.size, Latch1PositiveEdgeValue.size,
    Latch1NegativeEdgeValue.size, Latch0NegativeEdgeValue.size,
    Latch0NegativeEdgeValue.size].foldl max 0

/-- The size of the buffer that the task asks for. -/
def NetworkInitTask.requiredBufferSize : ℕ := DlControl.size

namespace CyclicTask

/-! ## What a task may do with a buffer -/

/-- The outcome of `next_pdu` with a buffer of `n` bytes: no access was outside the buffer, and
the PDU is not longer than it. -/
def StaysWithin {T : Type} (n : ℕ) : Exec ((Option (Command × ℕ) × List UInt8) × T) → Prop
  | .ok ((pdu, _), _) => ∀ size ∈ pdu.map Prod.snd, size ≤ n
  | .error e => e ≠ .index

section

variable {T : Type}

lemma staysWithin_none {n : ℕ} (buf : List UInt8) (task : T) :
    StaysWithin n (.ok ((none, buf), task)) := by
  rintro size ⟨⟩

lemma staysWithin_bind {α : Type} {n : ℕ} {x : Exec α}
    {f : α → Exec ((Option (Command × ℕ) × List UInt8) × T)} (hx : x ≠ .error .index)
    (hf : ∀ a, x = .ok a → StaysWithin n (f a)) : StaysWithin n (x >>= f) := by
  rcases x with e | a
  · exact fun he => hx (congrArg Except.error he)
  · exact hf a rfl

lemma unwrap_ne_index {α : Type} (o : Option α) : unwrap o ≠ .error .index := by
  rcases o with _ | a <;> rintro ⟨⟩

/-- What is noted beside the PDU does not matter. -/
lemma staysWithin_note {S : Type} {n : ℕ} {x : Exec ((Option (Command × ℕ) × List UInt8) × S)}
    {f : (Option (Command × ℕ) × List UInt8) × S →
      Exec ((Option (Command × ℕ) × List UInt8) × T)}
    (hx : StaysWithin n x) (hf : ∀ pdu inner, ∃ task, f (pdu, inner) = .ok (pdu, task)) :
    StaysWithin n (x >>= f) := by
  rcases x with e | ⟨pdu, inner⟩
  · exact hx
  · obtain ⟨task, htask⟩ := hf pdu inner
    rw [ok_bind, htask]
    exact hx

/-- A PDU that is written with fields inside of it. -/
lemma staysWithin_request {command : Command} {size : ℕ} {assignments : List (Field × ℕ)}
    {buf : List UInt8} {note : Option (Command × ℕ) × List UInt8 → T}
    (hsize : size ≤ buf.length) (hfields : ∀ f ∈ assignments.map Prod.fst, f.msb / 8 < size) :
    StaysWithin buf.length ((do
      let pdu ← request command size (fun data => Field.setAll data assignments) buf
      .ok (pdu, note pdu)) : Exec ((Option (Command × ℕ) × List UInt8) × T)) := by
  obtain ⟨buf', hrequest⟩ := request_eq_ok command hsize fun data hdata =>
    ⟨_, Field.setAll_eq_ok_iff.mpr
      ⟨fun f hf => Field.fits_of_le (hfields f hf) hdata.ge, rfl⟩⟩
  rw [hrequest, ok_bind]
  intro size' hsize'
  obtain rfl : size = size' := Option.some.inj hsize'
  exact hsize

/-- A PDU of zeros. -/
lemma staysWithin_fill {command : Command} {size : ℕ} {buf : List UInt8} {task : T}
    (hsize : size ≤ buf.length) :
    StaysWithin buf.length ((do
      let buf ← fillTo buf size 0
      .ok ((some (command, size), buf), task)) :
        Exec ((Option (Command × ℕ) × List UInt8) × T)) := by
  rw [fillTo_eq_ok_iff.mpr ⟨hsize, rfl⟩, ok_bind]
  intro size' hsize'
  obtain rfl : size = size' := Option.some.inj hsize'
  exact hsize

end

variable {T : Type} [CyclicTask T]

/-- The states of a task: as it is made, after calls of its own methods, and after all calls of
`next_pdu` and `recieve_and_process` that return, in any order. -/
inductive Reachable (Made : T → Prop) (Called : T → T → Prop) : T → Prop
  | made {task : T} : Made task → Reachable Made Called task
  | called {task task' : T} :
    Reachable Made Called task → Called task task' → Reachable Made Called task'
  | asked {task task' : T} {buf : List UInt8} {pdu : Option (Command × ℕ) × List UInt8} :
    Reachable Made Called task → nextPdu task buf = .ok (pdu, task') →
      Reachable Made Called task'
  | processed {task task' : T} {recvData : Pdu} {sysTime : ℕ} :
    Reachable Made Called task → recieveAndProcess task recvData sysTime = .ok task' →
      Reachable Made Called task'

/-- What every call keeps holds in every state. -/
theorem Reachable.invariant {Made : T → Prop} {Called : T → T → Prop} {P : T → Prop} {task : T}
    (h : Reachable Made Called task) (hmade : ∀ task, Made task → P task)
    (hcalled : ∀ task task', P task → Called task task' → P task')
    (hasked : ∀ task task' buf pdu, P task → nextPdu task buf = .ok (pdu, task') → P task')
    (hprocessed : ∀ task task' recvData sysTime, P task →
      recieveAndProcess task recvData sysTime = .ok task' → P task') : P task := by
  induction h with
  | made h => exact hmade _ h
  | called _ h ih => exact hcalled _ _ ih h
  | asked _ h ih => exact hasked _ _ _ _ ih h
  | processed _ h ih => exact hprocessed _ _ _ _ ih h

/-- In all these states, if a buffer of `n` bytes has the published size, it is enough. -/
def Suffices (States : T → Prop) (required n : ℕ) : Prop :=
  required ≤ n → ∀ task, States task → ∀ buf : List UInt8, buf.length = n →
    StaysWithin n (nextPdu task buf)

end CyclicTask

/-! ## Tasks without inner tasks -/

lemma AlStateTransferTask.staysWithin_nextPdu (task : AlStateTransferTask) {buf : List UInt8}
    (h : requiredBufferSize ≤ buf.length) : StaysWithin buf.length (task.nextPdu buf) := by
  rcases hbusy : task.isBusy with _ | _
  · have hnext : task.nextPdu buf = .ok ((none, buf), task) := by
      rw [isBusy] at hbusy
      rw [AlStateTransferTask.nextPdu]
      split at hbusy
      all_goals simp_all
    rw [hnext]
    exact staysWithin_none buf task
  · obtain ⟨command, size, buf', hsize, hnext, -⟩ := exists_nextPdu hbusy h
    rw [hnext]
    intro size' hsize'
    obtain rfl : size = size' := Option.some.inj hsize'
    exact hsize.trans h

lemma SiiReader.staysWithin_nextPdu (task : SiiReader) {buf : List UInt8}
    (h : requiredBufferSize ≤ buf.length) : StaysWithin buf.length (task.nextPdu buf) := by
  obtain ⟨⟨pdu, buf'⟩, task', hnext, -⟩ := task.nextPdu_of_length buf h
  have hsend : ∀ {command size write}, task.send command size write buf =
      .ok ((pdu, buf'), task') → ∀ size ∈ pdu.map Prod.snd, size ≤ buf.length := by
    intro command size write hsend size' hsize'
    obtain ⟨pdu', hrequest, heq⟩ := bind_eq_ok.mp hsend
    cases heq
    obtain rfl := request_pdu hrequest
    obtain rfl : size = size' := Option.some.inj hsize'
    obtain ⟨filled, hfill, -⟩ := bind_eq_ok.mp hrequest
    exact (fillTo_eq_ok_iff.mp hfill).1
  change SiiReader.nextPdu task buf = .ok ((pdu, buf'), task') at hnext
  rw [hnext]
  unfold SiiReader.nextPdu at hnext
  dsimp only at hnext
  split at hnext
  case h_1 | h_2 | h_10 =>
    cases hnext
    rintro size ⟨⟩
  all_goals exact hsend hnext

lemma AlStateReadTask.staysWithin_nextPdu (task : AlStateReadTask) {buf : List UInt8}
    (h : requiredBufferSize ≤ buf.length) : StaysWithin buf.length (task.nextPdu buf) :=
  staysWithin_fill h

lemma RxErrorReadTask.staysWithin_nextPdu (task : RxErrorReadTask) {buf : List UInt8}
    (h : requiredBufferSize ≤ buf.length) : StaysWithin buf.length (task.nextPdu buf) :=
  staysWithin_fill h

lemma DcSyncTask.staysWithin_nextPdu (task : DcSyncTask) {buf : List UInt8}
    (h : requiredBufferSize ≤ buf.length) : StaysWithin buf.length (task.nextPdu buf) :=
  staysWithin_fill h

/-! ## The setup of the clocks -/

namespace DcInitTask.OnNetwork

/-- Every slave that was pushed is in its slot. -/
def HasSlaves (dc : OnNetwork) : Prop :=
  ∀ i < dc.network.pushCount, (dc.network.slaveAt i).isSome

lemma hasSlaves_of_reachable {dc : OnNetwork} (h : dc.network.Reachable) : dc.HasSlaves := by
  intro i hi
  rcases h with hzero | hfilled
  · omega
  · exact (hfilled.isSome_iff i).mpr hi

lemma HasSlaves.of_sameSlaves {dc dc' : OnNetwork} (h : dc.HasSlaves)
    (hsame : SameSlaves dc.network dc'.network) : dc'.HasSlaves := by
  intro i hi
  have hinfo := congrArg Option.isSome (hsame.info i)
  rw [Option.isSome_map, Option.isSome_map] at hinfo
  rw [hinfo]
  exact h i (hsame.pushCount ▸ hi)

/-- The position of a task names a slave or no slave, but never a place outside of the slots. -/
lemma HasSlaves.slaveOf_ne {dc : OnNetwork} (h : dc.HasSlaves) (pos : ℕ) :
    slaveOf dc.network pos ≠ .error .index := by
  have hfound : ∃ found, dc.network.slave (.slavePosition (.ofNat pos)) = .ok found := by
    rw [Network.slave, Network.position]
    dsimp only
    split
    · next hlt =>
        obtain ⟨slave, hslave⟩ := Option.isSome_iff_exists.mp (h _ hlt)
        obtain ⟨config, hslot⟩ := Network.slaveAt_eq_some_iff.mp hslave
        exact ⟨_, by rw [index_eq_ok_iff.mpr hslot, ok_bind, unwrap_some, ok_bind]⟩
    · exact ⟨_, rfl⟩
  obtain ⟨_ | ⟨slave, config⟩, hfound⟩ := hfound
  · rw [slaveOf, hfound]
    rintro ⟨⟩
  · rw [slaveOf, hfound]
    rintro ⟨⟩

lemma staysWithin_nextPdu {dc : OnNetwork} (hslaves : dc.HasSlaves) {buf : List UInt8}
    (h : requiredBufferSize ≤ buf.length) : StaysWithin buf.length (dc.nextPdu buf) := by
  have hsend : ∀ {command size assignments}, size ≤ requiredBufferSize →
      (∀ f ∈ assignments.map Prod.fst, f.msb / 8 < size) →
      StaysWithin buf.length (dc.send command size assignments buf) :=
    fun hsize hfields => staysWithin_request (hsize.trans h) hfields
  unfold nextPdu
  split
  case h_1 | h_2 | h_3 => exact staysWithin_none buf dc
  case h_8 | h_9 =>
    refine staysWithin_bind (hslaves.slaveOf_ne _) fun slave _ => hsend (by decide) ?_
    simp only [List.map_cons, List.map_nil, List.forall_mem_singleton]
    decide
  case h_10 =>
    refine staysWithin_bind ?_ fun slave _ => hsend (by decide) (by simp)
    rcases dc.task.firstDcSlave with _ | first <;> rintro ⟨⟩
  all_goals exact hsend (by decide) (by simp)

end DcInitTask.OnNetwork

/-! ## The initialisation of a slave -/

namespace SlaveInitTask

/-- The states that look at a sync manager name one of the four. -/
def State.SmInRange : State → Prop
  | setSmControl num | setSmActivation num => num < 4
  | _ => True

lemma smAt_ne {num : ℕ} (h : num < 4) (task : SlaveInitTask) : task.smAt num ≠ .error .index := by
  rcases hinfo : task.slaveInfo with _ | info
  · rw [smAt, hinfo]
    rintro ⟨⟩
  · rw [smAt, hinfo, unwrap_some, ok_bind, index_of_lt (by rw [Vector.length_toList]; exact h)]
    rintro ⟨⟩

lemma stationAddress_ne (slaveAddress : SlaveAddress) :
    stationAddress slaveAddress ≠ .error .index := by
  cases slaveAddress with
  | slavePosition addr =>
      intro h
      rcases hadd : addUpTo 16 addr.toNat 1 with e | sum
      · rw [stationAddress, hadd] at h
        cases h
        rw [addUpTo, check] at hadd
        split at hadd <;> cases hadd
      · rw [stationAddress, hadd] at h
        cases h
  | stationAddress addr => rintro ⟨⟩

lemma staysWithin_nextAlStateTransfer (task : SlaveInitTask) (isFirst : Bool) {buf : List UInt8}
    (h : AlStateTransferTask.requiredBufferSize ≤ buf.length) :
    StaysWithin buf.length (task.nextAlStateTransfer isFirst buf) :=
  staysWithin_bind (unwrap_ne_index _) fun _ _ =>
    staysWithin_note (AlStateTransferTask.staysWithin_nextPdu _ h) fun _ _ => ⟨_, rfl⟩

lemma staysWithin_nextSii (task : SlaveInitTask) (isFirst : Bool) (siiAddress : UInt16)
    {buf : List UInt8} (h : SiiReader.requiredBufferSize ≤ buf.length) :
    StaysWithin buf.length (task.nextSii isFirst siiAddress buf) :=
  staysWithin_bind (unwrap_ne_index _) fun _ _ =>
    staysWithin_note (SiiReader.staysWithin_nextPdu _ h) fun _ _ => ⟨_, rfl⟩

lemma smControl_fits (sm : Option SyncManagerType) :
    ∀ f ∈ (smControl sm).map Prod.fst, f.msb / 8 < SyncManagerControl.size := by
  have hfields : ∀ f ∈ [SyncManagerControl.physicalStartAddress, SyncManagerControl.length,
      SyncManagerControl.bufferType, SyncManagerControl.direction,
      SyncManagerControl.dlsUserEventEnable], f.msb / 8 < SyncManagerControl.size := by decide
  rcases sm with _ | sm | sm | _ | _
  case some.mailboxRx | some.mailboxTx => exact hfields
  all_goals exact fun f hf => absurd hf List.not_mem_nil

lemma smActivation_fits (sm : Option SyncManagerType) :
    ∀ f ∈ (smActivation sm).map Prod.fst, f.msb / 8 < SyncManagerActivation.size := by
  have hfields : ∀ f ∈ [SyncManagerActivation.channelEnable, SyncManagerActivation.repeatBit],
      f.msb / 8 < SyncManagerActivation.size := by decide
  rcases sm with _ | sm | sm | _ | _
  case some.mailboxRx | some.mailboxTx => exact hfields
  all_goals exact fun f hf => absurd hf List.not_mem_nil

/-- The sizes of the inner tasks are no larger than the published one. -/
lemma inner_le_requiredBufferSize :
    AlStateTransferTask.requiredBufferSize ≤ requiredBufferSize ∧
      SiiReader.requiredBufferSize ≤ requiredBufferSize := by
  decide

lemma staysWithin_nextPdu {task : SlaveInitTask} (hsm : task.state.SmInRange) {buf : List UInt8}
    (h : requiredBufferSize ≤ buf.length) : StaysWithin buf.length (task.nextPdu buf) := by
  have hsend : ∀ (task : SlaveInitTask) {command size assignments}, size ≤ requiredBufferSize →
      (∀ f ∈ assignments.map Prod.fst, f.msb / 8 < size) →
      StaysWithin buf.length (task.send command size assignments buf) :=
    fun _ _ _ _ hsize hfields => staysWithin_request (hsize.trans h) hfields
  have hsii := fun (task : SlaveInitTask) isFirst siiAddress =>
    task.staysWithin_nextSii isFirst siiAddress (inner_le_requiredBufferSize.2.trans h)
  unfold nextPdu
  dsimp only
  split
  case h_1 | h_2 | h_3 => exact staysWithin_none buf task
  case h_5 isFirst _ =>
    exact task.staysWithin_nextAlStateTransfer isFirst (inner_le_requiredBufferSize.1.trans h)
  case h_14 | h_15 | h_16 | h_17 | h_18 | h_19 | h_20 | h_21 => exact hsii _ _ _
  case h_22 num hstate =>
    rw [hstate] at hsm
    exact staysWithin_bind (smAt_ne hsm task) fun sm _ =>
      hsend _ (by decide) (smControl_fits sm)
  case h_23 num hstate =>
    rw [hstate] at hsm
    exact staysWithin_bind (smAt_ne hsm task) fun sm _ =>
      hsend _ (by decide) (smActivation_fits sm)
  case h_24 =>
    have hfield : ∀ f ∈ [FixedStationAddress.configuredStationAddress],
        f.msb / 8 < FixedStationAddress.size := by decide
    exact staysWithin_bind (stationAddress_ne _) fun addr _ =>
      staysWithin_bind (unwrap_ne_index _) fun info _ => hsend _ (by decide) hfield
  all_goals exact hsend _ (by decide) (by decide)

/-! ## What the calls keep of it -/

lemma state_nextPdu {task task' : SlaveInitTask} {buf : List UInt8}
    {pdu : Option (Command × ℕ) × List UInt8} (h : task.nextPdu buf = .ok (pdu, task')) :
    task'.state = task.state := by
  rcases nextPdu_cases h with ⟨-, -, rfl⟩ | ⟨-, task₁, hstate, -, _, _, _, hsend⟩ |
    ⟨_, -, hnext⟩ | ⟨_, -, task₁, hstate, -, _, hnext⟩
  · rfl
  · obtain ⟨-, -, rfl⟩ := send_eq_ok hsend
    exact hstate
  · obtain ⟨_, _, -, -, rfl⟩ := nextAlStateTransfer_eq_ok hnext
    exact noteCommand_state _ _
  · obtain ⟨_, _, -, -, rfl⟩ := nextSii_eq_ok hnext
    exact (noteCommand_state _ _).trans hstate

lemma smInRange_processSii {task task' : SlaveInitTask} {recvData : Pdu} {sysTime : ℕ}
    {again next : State} {done : SlaveInfo → List UInt8 → Exec SlaveInfo}
    (h : task.processSii recvData sysTime again next done = .ok task')
    (hagain : again.SmInRange) (hnext : next.SmInRange) : task'.state.SmInRange := by
  obtain ⟨reader, -, h⟩ := bind_eq_ok.mp h
  obtain ⟨reader', -, h⟩ := bind_eq_ok.mp h
  dsimp only at h
  split at h
  · obtain ⟨info, -, h⟩ := bind_eq_ok.mp h
    obtain ⟨info', -, heq⟩ := bind_eq_ok.mp h
    cases heq
    exact hnext
  · cases h
    exact hagain
  · cases h
    trivial

lemma smInRange_processState {task task' : SlaveInitTask} {recvData : Pdu} {sysTime : ℕ}
    (hsm : task.state.SmInRange) (h : task.processState recvData sysTime = .ok task') :
    task'.state.SmInRange := by
  unfold processState at h
  dsimp only at h
  split at h
  case h_1 hstate | h_2 hstate | h_3 hstate =>
    cases h
    exact hsm
  case h_5 =>
    obtain ⟨_, -, h⟩ := bind_eq_ok.mp h
    obtain ⟨⟨next, _⟩, -, heq⟩ := bind_eq_ok.mp h
    cases heq
    cases next <;> trivial
  case h_10 =>
    obtain ⟨pdiOperational, -, h⟩ := bind_eq_ok.mp h
    split at h
    · cases h
      trivial
    · simp only [bind_eq_ok] at h
      obtain ⟨_, -, _, -, _, -, _, -, _, -, heq⟩ := h
      cases heq
      trivial
  case h_11 =>
    simp only [processDlInfo, bind_eq_ok] at h
    obtain ⟨_, -, _, -, _, -, _, -, _, -, _, -, _, -, _, -, _, -, _, -, _, -, _, -, _, -, _, -,
      heq⟩ := h
    cases heq
    trivial
  case h_12 | h_13 =>
    cases h
    dsimp only
    split <;> trivial
  case h_14 | h_15 | h_16 | h_17 | h_18 | h_19 | h_20 =>
    exact smInRange_processSii h trivial trivial
  case h_21 => exact smInRange_processSii h trivial (Nat.zero_lt_succ 3)
  case h_22 num hstate =>
    cases h
    rw [hstate] at hsm
    exact hsm
  case h_23 num hstate =>
    cases h
    rw [hstate] at hsm
    dsimp only
    split
    · trivial
    · next hlt => exact Nat.succ_lt_succ (Nat.lt_of_not_le hlt)
  case h_25 =>
    obtain ⟨info, -, h⟩ := bind_eq_ok.mp h
    obtain ⟨strictAlControl, -, heq⟩ := bind_eq_ok.mp h
    cases heq
    dsimp only
    split <;> trivial
  all_goals
    cases h
    trivial

lemma smInRange_recieveAndProcess {task task' : SlaveInitTask} {recvData : Pdu} {sysTime : ℕ}
    (hsm : task.state.SmInRange) (h : task.recieveAndProcess recvData sysTime = .ok task') :
    task'.state.SmInRange := by
  refine smInRange_processState ?_ h
  by_cases haccepted : recvData.Echoes task.command ∧ recvData.wkc = 1
  · rw [checked, checkedState_of_accepted _ haccepted]
    exact hsm
  · obtain ⟨e, he⟩ := checkedState_of_not_accepted .error haccepted task.state
    rw [checked, he]
    trivial

lemma state_waitResult (task : SlaveInitTask) : task.waitResult.2.state = task.state := by
  unfold waitResult
  split <;> rfl

/-- The states from `new` on. -/
def States : SlaveInitTask → Prop :=
  Reachable (· = .new) fun task task' =>
    (∃ slavePosition, task' = task.start slavePosition) ∨ task' = task.waitResult.2

lemma smInRange_of_states {task : SlaveInitTask} (h : task.States) : task.state.SmInRange := by
  refine Reachable.invariant (P := fun task : SlaveInitTask => task.state.SmInRange) h ?_ ?_ ?_ ?_
  · rintro task rfl
    trivial
  · rintro task task' hsm (⟨slavePosition, rfl⟩ | rfl)
    · trivial
    · rw [state_waitResult]
      exact hsm
  · intro task task' buf pdu hsm hnext
    rw [state_nextPdu hnext]
    exact hsm
  · intro task task' recvData sysTime hsm hprocess
    exact smInRange_recieveAndProcess hsm hprocess

end SlaveInitTask

/-! ## The initialisation of the network -/

namespace NetworkInitTask

/-- The states from `new` on. -/
def States : NetworkInitTask → Prop :=
  Reachable (fun task => ∃ network, task = new network) fun task task' => task' = task.start

/-- The inner task looks at sync managers that there are. -/
def SmInRange (task : NetworkInitTask) : Prop := task.initilizer.state.SmInRange

lemma smInRange_nextInitilizer {task task' : NetworkInitTask} {buf : List UInt8}
    {pdu : Option (Command × ℕ) × List UInt8}
    (h : task.nextInitilizer buf = .ok (pdu, task')) (hsm : task.SmInRange) : task'.SmInRange := by
  obtain ⟨initilizer, hnext, rfl⟩ := nextInitilizer_eq_ok h
  rw [SmInRange, SlaveInitTask.state_nextPdu hnext]
  exact hsm

lemma smInRange_nextPdu {task task' : NetworkInitTask} {buf : List UInt8}
    {pdu : Option (Command × ℕ) × List UInt8} (hsm : task.SmInRange)
    (h : task.nextPdu buf = .ok (pdu, task')) : task'.SmInRange := by
  unfold nextPdu at h
  split at h
  case h_1 | h_2 | h_6 =>
    cases h
    exact hsm
  case h_3 =>
    obtain ⟨_, -, heq⟩ := bind_eq_ok.mp h
    cases heq
    exact hsm
  case h_4 => exact smInRange_nextInitilizer h trivial
  case h_5 => exact smInRange_nextInitilizer h hsm

lemma initilizer_checked (task : NetworkInitTask) (recvData : Pdu) :
    (task.checked recvData).initilizer = task.initilizer := by
  unfold checked
  split <;> rfl

lemma initilizer_pushInitialized {task task' : NetworkInitTask} {count : UInt16}
    {info : SlaveInfo} (h : task.pushInitialized count info = .ok task') :
    task'.initilizer = task.initilizer := by
  obtain ⟨⟨pushed, network⟩, -, h⟩ := bind_eq_ok.mp h
  dsimp only at h
  split at h
  · cases h
    rfl
  · obtain ⟨next, -, heq⟩ := bind_eq_ok.mp h
    cases heq
    rfl

lemma smInRange_recieveAndProcess {task task' : NetworkInitTask} {recvData : Pdu} {sysTime : ℕ}
    (hsm : task.SmInRange) (h : task.recieveAndProcess recvData sysTime = .ok task') :
    task'.SmInRange := by
  have hchecked : (task.checked recvData).SmInRange := by
    rw [SmInRange, initilizer_checked]
    exact hsm
  unfold recieveAndProcess processState at h
  split at h
  case h_1 | h_2 | h_6 =>
    cases h
    exact hchecked
  case h_3 =>
    cases h
    exact hchecked
  case h_4 =>
    obtain ⟨initilizer, hprocess, heq⟩ := bind_eq_ok.mp h
    cases heq
    exact SlaveInitTask.smInRange_recieveAndProcess hchecked hprocess
  case h_5 =>
    obtain ⟨initilizer, hprocess, h⟩ := bind_eq_ok.mp h
    have hwait : initilizer.waitResult.2.state.SmInRange := by
      rw [SlaveInitTask.state_waitResult]
      exact SlaveInitTask.smInRange_recieveAndProcess hchecked hprocess
    generalize initilizer.waitResult = waited at h hwait
    obtain ⟨_ | _ | _ | info, initilizer'⟩ := waited
    · cases h
      exact hwait
    · cases h
      exact hwait
    · cases h
    · rw [SmInRange, initilizer_pushInitialized h]
      exact hwait

lemma smInRange_of_states {task : NetworkInitTask} (h : task.States) : task.SmInRange := by
  refine Reachable.invariant h ?_ ?_ ?_ ?_
  · rintro task ⟨network, rfl⟩
    trivial
  · rintro task task' hsm rfl
    exact hsm
  · exact fun task task' buf pdu hsm hnext => smInRange_nextPdu hsm hnext
  · exact fun task task' recvData sysTime hsm hprocess => smInRange_recieveAndProcess hsm hprocess

lemma staysWithin_nextInitilizer {task : NetworkInitTask} (hsm : task.SmInRange)
    {buf : List UInt8} (h : SlaveInitTask.requiredBufferSize ≤ buf.length) :
    StaysWithin buf.length (task.nextInitilizer buf) :=
  staysWithin_note (SlaveInitTask.staysWithin_nextPdu hsm h) fun _ _ => ⟨_, rfl⟩

/-- The size that the inner task publishes would be enough. -/
lemma staysWithin_nextPdu {task : NetworkInitTask} (hsm : task.SmInRange) {buf : List UInt8}
    (h : SlaveInitTask.requiredBufferSize ≤ buf.length) :
    StaysWithin buf.length (task.nextPdu buf) := by
  unfold nextPdu
  split
  case h_1 | h_2 | h_6 => exact staysWithin_none buf task
  case h_3 =>
    have hsize : DlControl.size ≤ SlaveInitTask.requiredBufferSize := by decide
    exact staysWithin_request (hsize.trans h) (by decide)
  case h_4 count _ =>
    have hsm : SmInRange { task with initilizer := task.initilizer.start count } := trivial
    exact staysWithin_nextInitilizer hsm h
  case h_5 => exact staysWithin_nextInitilizer hsm h

/-! ## A state that needs more -/

/-- A run of a task in one of its states ends in one of its states. -/
lemma states_of_run {d d' : Driven NetworkInitTask} {replies : List Reply} (h : d.task.States)
    (hrun : Transition.run Driven.step d replies = .ok d') : d'.task.States := by
  refine Transition.run_invariant (P := fun _ _ => True) (fun d : Driven NetworkInitTask =>
    d.task.States) ?_ h (Transition.along_of_forall (fun _ _ => trivial) _ _) hrun
  rintro d₁ reply d₂ hstates - hstep
  rcases hseen : d₁.seen reply with _ | recv
  · obtain ⟨_, _, _, -, hnext, -⟩ := Driven.step_eq_ok_of_unseen hseen hstep
    exact .asked hstates hnext
  · obtain ⟨_, _, _, _, -, hprocess, hnext, -⟩ := Driven.step_eq_ok_of_seen hseen hstep
    exact .asked (.processed hstates hprocess) hnext

/-- The first slave has answered until its FMMUs are to be cleared. -/
lemma exists_clearFmmu :
    ∃ task : NetworkInitTask, task.States ∧ task.state = .waitInitSlaves 0 ∧
      task.initilizer.state = .clearFmmu 0 := by
  obtain ⟨d, hrun, hstate, hinner⟩ : ∃ d : Driven NetworkInitTask,
      Transition.run Driven.step ⟨(new (.new [])).start, .new (List.replicate 16 0)⟩
        [counted 1 [], counted 1 [], counted 1 [], counted 1 [1], counted 1 [], counted 1 [],
          counted 1 [], counted 1 [], counted 1 [1], counted 1 []] = .ok d ∧
      d.task.state = .waitInitSlaves 0 ∧ d.task.initilizer.state = .clearFmmu 0 :=
    ⟨_, rfl, rfl, rfl⟩
  exact ⟨d.task, states_of_run (.called (.made ⟨_, rfl⟩) rfl) hrun, hstate, hinner⟩

/-- To clear an FMMU takes a PDU of the published size of the inner task. -/
lemma nextPdu_clearFmmu {task : NetworkInitTask} (hstate : task.state = .waitInitSlaves 0)
    (hinner : task.initilizer.state = .clearFmmu 0) {buf : List UInt8}
    (h : buf.length < SlaveInitTask.requiredBufferSize) : task.nextPdu buf = .error .index := by
  have hfill : fillTo buf FmmuRegister.size 0 = .error .index := if_neg (Nat.not_le_of_lt h)
  rw [nextPdu, hstate]
  dsimp only
  rw [nextInitilizer, SlaveInitTask.nextPdu, hinner]
  dsimp only
  rw [SlaveInitTask.send, request, hfill]
  rfl

lemma suffices_iff (n : ℕ) :
    Suffices States requiredBufferSize n ↔
      n < requiredBufferSize ∨ SlaveInitTask.requiredBufferSize ≤ n := by
  constructor
  · intro h
    by_contra hnot
    obtain ⟨hle, hlt⟩ := not_or.mp hnot
    obtain ⟨task, hstates, hstate, hinner⟩ := exists_clearFmmu
    have hlength : (List.replicate n (0 : UInt8)).length = n := List.length_replicate
    have hstays := h (Nat.le_of_not_lt hle) task hstates _ hlength
    change StaysWithin n (task.nextPdu _) at hstays
    rw [nextPdu_clearFmmu hstate hinner (by omega)] at hstays
    exact hstays rfl
  · rintro (hlt | hle) hrequired task hstates buf rfl
    · omega
    · exact staysWithin_nextPdu (smInRange_of_states hstates) hle

end NetworkInitTask

/-! ## All tasks -/

/-- The states from `new` on, with a network that the task shares. -/
def DcInitTask.OnNetwork.States : DcInitTask.OnNetwork → Prop :=
  Reachable (fun dc => dc.task = .new ∧ dc.network.Reachable) fun dc dc' =>
    DcInitTask.start dc.network = .ok (dc'.task, dc'.network)

lemma DcInitTask.OnNetwork.hasSlaves_of_states {dc : DcInitTask.OnNetwork} (h : dc.States) :
    dc.HasSlaves := by
  refine Reachable.invariant h ?_ ?_ ?_ ?_
  · exact fun dc hmade => hasSlaves_of_reachable hmade.2
  · exact fun dc dc' hslaves hstart => hslaves.of_sameSlaves (start_sameSlaves hstart).1
  · rintro dc dc' buf ⟨pdu, buf'⟩ hslaves hnext
    obtain ⟨⟨command, rfl⟩, -⟩ := nextPdu_command hnext
    exact hslaves
  · exact fun dc dc' recvData sysTime hslaves hprocess =>
      hslaves.of_sameSlaves (moved_recieveAndProcess hprocess).slaves

/-- **What the tasks publish** for buffers of `n` bytes.  Five of the tasks stay within them in
all states that can be written down, the others in those from `new` on. -/
structure RequiredBuffers (n : ℕ) : Prop where
  alStateTransfer :
    Suffices (fun _ : AlStateTransferTask => True) AlStateTransferTask.requiredBufferSize n
  siiReader : Suffices (fun _ : SiiReader => True) SiiReader.requiredBufferSize n
  slaveInit : Suffices SlaveInitTask.States SlaveInitTask.requiredBufferSize n
  networkInit : Suffices NetworkInitTask.States NetworkInitTask.requiredBufferSize n
  dcInit : Suffices DcInitTask.OnNetwork.States DcInitTask.requiredBufferSize n
  alStateRead : Suffices (fun _ : AlStateReadTask => True) AlStateReadTask.requiredBufferSize n
  rxErrorRead : Suffices (fun _ : RxErrorReadTask => True) RxErrorReadTask.requiredBufferSize n
  dcSync : Suffices (fun _ : DcSyncTask => True) DcSyncTask.requiredBufferSize n

/-- **The published sizes are enough** except between that of `NetworkInitTask` and that of its
inner `SlaveInitTask`. -/
theorem requiredBuffers_iff (n : ℕ) :
    RequiredBuffers n ↔
      n < NetworkInitTask.requiredBufferSize ∨ SlaveInitTask.requiredBufferSize ≤ n := by
  rw [← NetworkInitTask.suffices_iff]
  constructor
  · exact RequiredBuffers.networkInit
  · intro h
    refine ⟨?_, ?_, ?_, h, ?_, ?_, ?_, ?_⟩
    · rintro hle task - buf rfl
      exact task.staysWithin_nextPdu hle
    · rintro hle task - buf rfl
      exact task.staysWithin_nextPdu hle
    · rintro hle task hstates buf rfl
      exact SlaveInitTask.staysWithin_nextPdu (SlaveInitTask.smInRange_of_states hstates) hle
    · rintro hle dc hstates buf rfl
      exact DcInitTask.OnNetwork.staysWithin_nextPdu
        (DcInitTask.OnNetwork.hasSlaves_of_states hstates) hle
    · rintro hle task - buf rfl
      exact task.staysWithin_nextPdu hle
    · rintro hle task - buf rfl
      exact task.staysWithin_nextPdu hle
    · rintro hle task - buf rfl
      exact task.staysWithin_nextPdu hle

/-- A socket with a buffer of the published size: the network cannot be initialised if it has a
slave. -/
theorem networkInit_outsideBuffer :
    NetworkInitTask.requiredBufferSize = 4 ∧
      Transition.run Driven.step
        ⟨(NetworkInitTask.new (.new [])).start, .new (List.replicate 4 0)⟩
        [counted 1 [], counted 1 [], counted 1 []] = .error .index :=
  ⟨rfl, rfl⟩

end EtherCat

import EtherCat.Foundation.Transition
import EtherCat.Interface.PollSinglePdu
import EtherCat.Task.BlockingCall

/-!
# The traffic of a blocking call is its own

A socket keeps its PDU, and the PDU interface keeps its datagrams, when `block_on` gives up.  The
next call then sends them and takes their responses for its own.  If no call gives up, all traffic
of a call belongs to its own task.
-/

namespace EtherCat

open Rust Rust.Exec CyclicTask EtherCatPdu

variable {D : Type} [RawEthernetDevice D] {N : ℕ}

namespace BlockOn

variable {T : Type} [CyclicTask T] {E : Type}

/-- A turn in which the task makes a step: `sif` is the interface after the poll. -/
structure Steps (b : BlockOn T D N) (sif : SocketInterface D N) (b' : BlockOn T D N)
    (socket : PduSocket) (recvData : Option Pdu) (unit : T) (pdu : Option (Command × ℕ))
    (dataBuf : List UInt8) : Prop where
  getSocket_eq : sif.getSocket b.handle = some socket
  getRecievedPdu_eq : socket.getRecievedPdu = .ok recvData
  shown_eq : b.shown = recvData
  unit_eq : recvData = none → unit = b.unit
  nextPdu_eq : nextPdu unit socket.dataBuf = .ok ((pdu, dataBuf), b'.unit)
  given_eq : b.given = pdu.map fun pdu => (pdu.1, dataBuf.take pdu.2)
  handle_eq : b'.handle = b.handle
  sif_eq : b'.sif = sif.modifySocket b.handle (fun _ => .store pdu dataBuf)

/-- Everything a turn can do. -/
lemma turn_eq_ok {b b' : BlockOn T D N} {result : Option (Except (TaskError E) Unit)}
    (h : b.turn E = .ok (result, b')) :
    ∃ polled sif, b.sif.pollTxRx = .ok (polled, sif) ∧
      ((Waits polled ∧ result = none ∨ GivesUp polled ∧ ∃ e, result = some (.error e)) ∧
          b' = { b with sif := sif } ∧ b.shown = none ∧ b.given = none ∨
        polled = .ok true ∧
          (∃ socket recvData unit pdu dataBuf,
            b.Steps sif b' socket recvData unit pdu dataBuf) ∧
          (result = some (.ok ()) ∧ isBusy b'.unit = false ∨
            result ≠ some (.ok ()) ∧ isBusy b'.unit = true)) := by
  obtain ⟨⟨polled, sif⟩, hpoll, h⟩ := bind_eq_ok.mp h
  refine ⟨polled, sif, hpoll, ?_⟩
  by_cases hpolled : polled = .ok true
  · subst hpolled
    refine .inr ⟨rfl, ?_⟩
    obtain ⟨socket, hsocket, h⟩ := bind_eq_ok.mp h
    obtain ⟨⟨unit', socket'⟩, hprocess, h⟩ := bind_eq_ok.mp h
    obtain ⟨unit, hresponse, hprocess⟩ := bind_eq_ok.mp hprocess
    obtain ⟨⟨⟨pdu, dataBuf⟩, unit''⟩, hnext, heq⟩ := bind_eq_ok.mp hprocess
    obtain ⟨recvData, hrecv, hunit⟩ := bind_eq_ok.mp hresponse
    have hgot : sif.getSocket b.handle = some socket := unwrap_eq_ok_iff.mp hsocket
    cases heq
    have hshown : b.shown = recvData := by
      simp [shown, hpoll, hgot, hrecv, Except.toOption]
    have hgiven : b.given = pdu.map fun pdu => (pdu.1, dataBuf.take pdu.2) := by
      simp [given, hpoll, hgot, hresponse, hnext, Except.toOption]
    have hunit' : recvData = none → unit = b.unit := by
      rintro rfl
      exact (Except.ok.inj hunit).symm
    dsimp only at h
    split at h
    · next hidle =>
        cases h
        exact ⟨⟨socket, recvData, unit, pdu, dataBuf,
          ⟨hgot, hrecv, hshown, hunit', hnext, hgiven, rfl, rfl⟩⟩, .inl ⟨rfl, by simpa using hidle⟩⟩
    · next hbusy =>
        split at h
        all_goals
          cases h
          exact ⟨⟨socket, recvData, unit, pdu, dataBuf,
            ⟨hgot, hrecv, hshown, hunit', hnext, hgiven, rfl, rfl⟩⟩, .inr ⟨by simp, by simpa using hbusy⟩⟩
  · have hshown : b.shown = none := by
      unfold shown
      rw [hpoll]
      split
      · next heq =>
          cases heq
          exact absurd rfl hpolled
      · rfl
    have hgiven : b.given = none := by
      unfold given
      rw [hpoll]
      split
      · next heq =>
          cases heq
          exact absurd rfl hpolled
      · rfl
    left
    rcases polled with err | isOk
    · rcases err
      case txNotAvailable =>
        cases h
        exact ⟨.inl ⟨.inr (.inl rfl), rfl⟩, rfl, hshown, hgiven⟩
      case rxNotAvailable =>
        cases h
        exact ⟨.inl ⟨.inr (.inr rfl), rfl⟩, rfl, hshown, hgiven⟩
      case txError =>
        cases h
        exact ⟨.inr ⟨.inl rfl, _, rfl⟩, rfl, hshown, hgiven⟩
      case rxError =>
        cases h
        exact ⟨.inr ⟨.inr rfl, _, rfl⟩, rfl, hshown, hgiven⟩
    · rcases isOk with _ | _
      · cases h
        exact ⟨.inl ⟨.inl rfl, rfl⟩, rfl, hshown, hgiven⟩
      · exact absurd rfl hpolled

end BlockOn

/-! ## The promise and its condition -/

/-- **What belongs to the call.**  The frames handed to the device since the call began carry only
PDUs that its task has produced, and its task has processed only responses to these. -/
structure CallRecord.OwnTraffic (dev : FallibleDevice D) (record : CallRecord D) (ethdev : D) :
    Prop where
  transmitted : ∀ frame ∈ (dev.sent ethdev).drop (dev.sent record.ethdevBefore).length,
    ∀ pdu ∈ datagramsOf frame, (datagram pdu).content ∈ record.produced
  processed : ∀ recv ∈ record.processed, ∃ content ∈ record.produced,
    dev.Answers (dev.sent record.ethdevBefore).length content recv ethdev

namespace SocketUse

/-- The traffic of the call that runs, or of the last one, is its own. -/
def OwnTraffic (dev : FallibleDevice D) (s : SocketUse D N) : Prop :=
  s.record.OwnTraffic dev s.sif.iface.ethdev

omit [RawEthernetDevice D] in
/-- A call is only started if the one before was not aborted. -/
def AfterCompleted : SocketUse D N → CallStep → Prop
  | free _ last _, .start _ => last.Completed
  | _, _ => True

omit [RawEthernetDevice D] in
instance : (s : SocketUse D N) → (i : CallStep) → Decidable (s.AfterCompleted i)
  | free _ last _, .start _ => inferInstanceAs (Decidable last.Completed)
  | free .., .turn | busy .., _ => .isTrue trivial

end SocketUse

/-! ## The invariant -/

namespace CallRecord

variable {dev : FallibleDevice D} {record : CallRecord D} {d d' : D}

/-- A new record promises nothing. -/
lemma ownTraffic_new (dev : FallibleDevice D) (d : D) :
    (⟨d, [], []⟩ : CallRecord D).OwnTraffic dev d where
  transmitted := by
    intro frame hframe
    rw [List.drop_length] at hframe
    exact absurd hframe List.not_mem_nil
  processed := fun _ hrecv => absurd hrecv List.not_mem_nil

/-- The promise is kept while the device sends PDUs of the task. -/
lemma OwnTraffic.evolves (h : record.OwnTraffic dev d) {content : Command × List UInt8}
    (hcontent : content ∈ record.produced) (hle : (dev.sent record.ethdevBefore).length ≤
      (dev.sent d).length) (hevolves : dev.Evolves content d d') : record.OwnTraffic dev d' where
  transmitted := by
    obtain ⟨frames, hsent, hframes⟩ := hevolves.sent
    intro frame hframe pdu hpdu
    rw [hsent, List.drop_append_of_le_length hle] at hframe
    rcases List.mem_append.mp hframe with hframe | hframe
    · exact h.transmitted frame hframe pdu hpdu
    · rw [hframes frame hframe pdu hpdu]
      exact hcontent
  processed := by
    intro recv hrecv
    obtain ⟨content', hcontent', hanswers⟩ := h.processed recv hrecv
    exact ⟨content', hcontent', hanswers.mono hevolves⟩

/-- A step of the task that processes an answer and gives its next PDU. -/
lemma OwnTraffic.extend (h : record.OwnTraffic dev d) {recvData : Option Pdu}
    (given : Option (Command × List UInt8))
    (hrecv : ∀ recv ∈ recvData, ∃ content ∈ record.produced,
      dev.Answers (dev.sent record.ethdevBefore).length content recv d) :
    CallRecord.OwnTraffic dev { record with
      produced := record.produced ++ given.toList
      processed := record.processed ++ recvData.toList } d where
  transmitted := fun frame hframe pdu hpdu =>
    List.mem_append_left _ (h.transmitted frame hframe pdu hpdu)
  processed := by
    intro recv hmem
    rcases List.mem_append.mp hmem with hmem | hmem
    · obtain ⟨content, hcontent, hanswers⟩ := h.processed recv hmem
      exact ⟨content, List.mem_append_left _ hcontent, hanswers⟩
    · obtain ⟨content, hcontent, hanswers⟩ := hrecv recv (Option.mem_toList.mp hmem)
      exact ⟨content, List.mem_append_left _ hcontent, hanswers⟩

end CallRecord

/-- Nothing is on its way, or one of these PDUs is, or it has been answered. -/
def SocketInterface.Busied (dev : FallibleDevice D) (start handle : ℕ)
    (produced : List (Command × List UInt8)) (sif : SocketInterface D N) : Prop :=
  sif.Resting dev handle ∨ ∃ content ∈ produced,
    sif.Awaiting dev start handle content ∨ sif.Received dev start handle content

/-- The invariant of a call that runs. -/
structure Running (dev : FallibleDevice D) (handle : ℕ) (call : BlockingCall)
    (block : BlockOn call.Task D N) (record : CallRecord D) : Prop where
  handle_eq : block.handle = handle
  own : record.OwnTraffic dev block.sif.iface.ethdev
  start_le : (dev.sent record.ethdevBefore).length ≤ (dev.sent block.sif.iface.ethdev).length
  busied : block.sif.Busied dev (dev.sent record.ethdevBefore).length handle record.produced
  /-- `read_al_state` ends with its first step. -/
  first : call.IsCyclic → block.sif.Resting dev handle ∧ call.Unanswered block.unit

/-- The invariant of a program that makes blocking calls. -/
def SocketUse.Inv (dev : FallibleDevice D) (handle : ℕ) : SocketUse D N → Prop
  | free sif last record =>
    record.OwnTraffic dev sif.iface.ethdev ∧ (last.Completed → sif.Resting dev handle)
  | busy call block record => Running dev handle call block record

/-! ## Steps -/

namespace SocketInterface

variable {dev : FallibleDevice D} {start handle : ℕ} {sif sif' : SocketInterface D N}
  {socket : PduSocket} {f : PduSocket → PduSocket}

omit [RawEthernetDevice D] in
lemma getSocket_modifySocket_self (hsocket : sif.getSocket handle = some socket) :
    (sif.modifySocket handle f).getSocket handle = some (f socket) := by
  rw [getSocket_modifySocket, if_pos rfl, hsocket]
  rfl

omit [RawEthernetDevice D] in
lemma not_holdsPending_modifySocket (hidle : ∀ slot, ¬ sif.HoldsPending slot) :
    ∀ slot, slot ≠ handle → ¬ (sif.modifySocket handle f).HoldsPending slot :=
  not_holdsPending_of_eq (fun slot _ => hidle slot) fun slot hslot => by
    rw [getSocket_modifySocket, if_neg hslot]

/-- The socket is left without a PDU. -/
lemma Settled.resting (h : sif.Settled dev) (hsocket : sif.getSocket handle = some socket)
    (hcommand : (f socket).command = none) : (sif.modifySocket handle f).Resting dev handle where
  clear := h.clear
  idle := by
    intro slot
    by_cases hslot : slot = handle
    · rintro ⟨other, hother, -, hpending⟩
      rw [hslot, Option.mem_def, getSocket_modifySocket_self hsocket] at hother
      cases hother
      rw [hcommand] at hpending
      cases hpending
    · exact not_holdsPending_modifySocket h.idle slot hslot
  command_eq := ⟨f socket, getSocket_modifySocket_self hsocket, hcommand⟩

/-- The socket is given a PDU. -/
lemma Settled.awaiting (h : sif.Settled dev) (hsocket : sif.getSocket handle = some socket)
    {content : Command × List UInt8} (hasks : (f socket).Asks content)
    (hstart : start ≤ (dev.sent sif.iface.ethdev).length) :
    (sif.modifySocket handle f).Awaiting dev start handle content where
  others := not_holdsPending_modifySocket h.idle
  start_le := hstart
  position := ⟨f socket, getSocket_modifySocket_self hsocket, .inl ⟨h.clear, hasks⟩⟩

omit [RawEthernetDevice D] in
lemma asks_store (command : Command) (size : ℕ) (dataBuf : List UInt8) :
    (PduSocket.store (some (command, size)) dataBuf).Asks (command, dataBuf.take size) :=
  ⟨rfl, rfl, rfl⟩

/-- What a poll leaves for the step of the task: the socket may show it an answer. -/
def Shows (dev : FallibleDevice D) (start handle : ℕ) (produced : List (Command × List UInt8))
    (sif : SocketInterface D N) : Prop :=
  sif.Settled dev ∧ ∃ socket recvData, sif.getSocket handle = some socket ∧
    socket.getRecievedPdu = .ok recvData ∧
    ∀ recv ∈ recvData, ∃ content ∈ produced, dev.Answers start content recv sif.iface.ethdev

lemma Resting.shows (h : sif.Resting dev handle) (produced : List (Command × List UInt8)) :
    sif.Shows dev start handle produced := by
  obtain ⟨socket, hsocket, hcommand⟩ := h.command_eq
  exact ⟨h.toSettled, socket, none, hsocket, PduSocket.getRecievedPdu_of_command hcommand,
    by rintro _ ⟨⟩⟩

lemma Received.shows {content : Command × List UInt8} (h : sif.Received dev start handle content)
    {produced : List (Command × List UInt8)} (hcontent : content ∈ produced) :
    sif.Shows dev start handle produced := by
  obtain ⟨socket, recvData, hsocket, hrecv, hanswers⟩ := h.answers
  exact ⟨h.toSettled, socket, recvData, hsocket, hrecv,
    fun recv hmem => ⟨content, hcontent, hanswers recv hmem⟩⟩

end SocketInterface

namespace Running

variable {dev : FallibleDevice D} {handle : ℕ} {call : BlockingCall}
  {block : BlockOn call.Task D N} {record : CallRecord D}

/-- **The poll of a turn.** -/
lemma pollTxRx (h : Running dev handle call block record) {polled : Except PhyError Bool}
    {sif : SocketInterface D N} (hpoll : block.sif.pollTxRx = .ok (polled, sif)) :
    record.OwnTraffic dev sif.iface.ethdev ∧
      (dev.sent record.ethdevBefore).length ≤ (dev.sent sif.iface.ethdev).length ∧
      (GivesUp polled ∨
        Waits polled ∧
          sif.Busied dev (dev.sent record.ethdevBefore).length handle record.produced ∨
        polled = .ok true ∧
          sif.Shows dev (dev.sent record.ethdevBefore).length handle record.produced) := by
  rcases h.busied with hresting | ⟨content, hcontent, hawaiting | hreceived⟩
  · obtain ⟨rfl, htrue | hwaits⟩ := hresting.toSettled.pollTxRx hpoll
    · exact ⟨h.own, h.start_le, .inr (.inr ⟨htrue, hresting.shows _⟩)⟩
    · exact ⟨h.own, h.start_le, .inr (.inl ⟨hwaits, .inl hresting⟩)⟩
  · obtain ⟨hevolves, hcases⟩ := hawaiting.pollTxRx hpoll
    refine ⟨h.own.evolves hcontent h.start_le hevolves, h.start_le.trans hevolves.length_le, ?_⟩
    rcases hcases with hgives | ⟨hwaits, hawaiting'⟩ | ⟨htrue | hwaits, hreceived⟩
    · exact .inl hgives
    · exact .inr (.inl ⟨hwaits, .inr ⟨content, hcontent, .inl hawaiting'⟩⟩)
    · exact .inr (.inr ⟨htrue, hreceived.shows hcontent⟩)
    · exact .inr (.inl ⟨hwaits, .inr ⟨content, hcontent, .inr hreceived⟩⟩)
  · obtain ⟨rfl, htrue | hwaits⟩ := hreceived.toSettled.pollTxRx hpoll
    · exact ⟨h.own, h.start_le, .inr (.inr ⟨htrue, hreceived.shows hcontent⟩)⟩
    · exact ⟨h.own, h.start_le, .inr (.inl ⟨hwaits, .inr ⟨content, hcontent, .inr hreceived⟩⟩)⟩

/-- **The step of a turn**: `record'` is the record after it. -/
lemma step {block' : BlockOn call.Task D N} {sif : SocketInterface D N} {socket : PduSocket}
    {recvData : Option Pdu} {unit : call.Task} {pdu : Option (Command × ℕ)} {dataBuf : List UInt8}
    (h : Running dev handle call block record)
    (hsteps : block.Steps sif block' socket recvData unit pdu dataBuf)
    (hown : record.OwnTraffic dev sif.iface.ethdev)
    (hle : (dev.sent record.ethdevBefore).length ≤ (dev.sent sif.iface.ethdev).length)
    (hshows : sif.Shows dev (dev.sent record.ethdevBefore).length handle record.produced) :
    let record' : CallRecord D := { record with
      produced := record.produced ++ block.given.toList
      processed := record.processed ++ block.shown.toList }
    record'.OwnTraffic dev block'.sif.iface.ethdev ∧
      (dev.sent record.ethdevBefore).length ≤ (dev.sent block'.sif.iface.ethdev).length ∧
      block'.sif.Busied dev (dev.sent record.ethdevBefore).length handle record'.produced ∧
      (pdu = none → block'.sif.Resting dev handle) := by
  obtain ⟨hsettled, socket', recvData', hsocket, hrecv, hanswers⟩ := hshows
  have hsame := hsteps.getSocket_eq
  rw [h.handle_eq, hsocket] at hsame
  cases hsame
  cases hrecv.symm.trans hsteps.getRecievedPdu_eq
  have hethdev : block'.sif.iface.ethdev = sif.iface.ethdev := by rw [hsteps.sif_eq]; rfl
  have hresting : pdu = none → block'.sif.Resting dev handle := by
    rintro rfl
    rw [hsteps.sif_eq, h.handle_eq]
    exact hsettled.resting hsocket rfl
  dsimp only
  rw [hethdev, hsteps.shown_eq]
  refine ⟨hown.extend _ hanswers, hle, ?_, hresting⟩
  rcases pdu with _ | ⟨command, size⟩
  · exact .inl (hresting rfl)
  · refine .inr ⟨(command, dataBuf.take size), ?_, .inl ?_⟩
    · rw [hsteps.given_eq]
      exact List.mem_append_right _ (List.mem_singleton_self _)
    · rw [hsteps.sif_eq, h.handle_eq]
      exact hsettled.awaiting hsocket (SocketInterface.asks_store command size dataBuf) hle

/-- The task of `read_al_state` sees no response, so that the call panics after its step. -/
lemma finish_panics {block' : BlockOn call.Task D N} {sif : SocketInterface D N}
    {polled : Except PhyError Bool} {socket : PduSocket} {recvData : Option Pdu}
    {unit : call.Task} {pdu : Option (Command × ℕ)} {dataBuf : List UInt8}
    (h : Running dev handle call block record) (hcyclic : call.IsCyclic)
    (hpoll : block.sif.pollTxRx = .ok (polled, sif))
    (hsteps : block.Steps sif block' socket recvData unit pdu dataBuf) (buf : List UInt8) :
    call.finish block'.unit buf = .error .unwrap := by
  obtain ⟨hresting, hunanswered⟩ := h.first hcyclic
  obtain ⟨rfl, -⟩ := hresting.toSettled.pollTxRx hpoll
  obtain ⟨socket', hsocket, hcommand⟩ := hresting.command_eq
  have hsame := hsteps.getSocket_eq
  rw [h.handle_eq, hsocket] at hsame
  cases hsame
  have hrecv := hsteps.getRecievedPdu_eq
  rw [PduSocket.getRecievedPdu_of_command hcommand] at hrecv
  rw [← hsteps.unit_eq (Except.ok.inj hrecv).symm] at hunanswered
  exact BlockingCall.finish_of_unanswered hcyclic hunanswered hsteps.nextPdu_eq buf

/-- **A turn keeps the invariant**, also the last one. -/
lemma turnCall (h : Running dev handle call block record) {s' : SocketUse D N}
    (hturn : SocketUse.turnCall handle call block record = .ok s') : s'.Inv dev handle := by
  obtain ⟨⟨result, block'⟩, hblock, hrest⟩ := bind_eq_ok.mp hturn
  obtain ⟨polled, sif, hpoll, hcases⟩ := BlockOn.turn_eq_ok hblock
  obtain ⟨hown, hle, hpolled⟩ := h.pollTxRx hpoll
  rcases hcases with ⟨hwait, rfl, hshown, hgiven⟩ | ⟨rfl, ⟨socket, recvData, unit, pdu, dataBuf,
    hsteps⟩, hend⟩
  · -- the task makes no step
    simp only [hshown, hgiven, Option.toList_none, List.append_nil] at hrest
    rcases hwait with ⟨hwaits, rfl⟩ | ⟨hgives, e, rfl⟩
    · cases hrest
      refine ⟨h.handle_eq, hown, hle, ?_, fun hcyclic => ?_⟩
      · rcases hpolled with hgives | ⟨-, hbusied⟩ | ⟨rfl, -⟩
        · exact absurd hgives hwaits.not_givesUp
        · exact hbusied
        · exact absurd hwaits not_waits_ok
      · obtain ⟨hresting, hunanswered⟩ := h.first hcyclic
        obtain ⟨rfl, -⟩ := hresting.toSettled.pollTxRx hpoll
        exact ⟨hresting, hunanswered⟩
    · cases hrest
      exact ⟨hown, False.elim⟩
  · have hshows : sif.Shows dev (dev.sent record.ethdevBefore).length handle record.produced := by
      rcases hpolled with hgives | ⟨hwaits, -⟩ | ⟨-, hshows⟩
      · rcases hgives with heq | heq <;> cases heq
      · exact absurd hwaits not_waits_ok
      · exact hshows
    obtain ⟨hown', hle', hbusied', hresting'⟩ := h.step hsteps hown hle hshows
    rcases hend with ⟨rfl, hidle⟩ | ⟨hne, hbusy⟩
    · obtain ⟨socket', hsocket', hrest⟩ := bind_eq_ok.mp hrest
      obtain ⟨value, hfinish, hrest⟩ := bind_eq_ok.mp hrest
      cases hrest
      refine ⟨hown', fun _ => hresting' ?_⟩
      by_cases hcyclic : call.IsCyclic
      · rw [h.finish_panics hcyclic hpoll hsteps] at hfinish
        cases hfinish
      · exact BlockingCall.nextPdu_of_not_busy hcyclic hsteps.nextPdu_eq hidle
    · rcases result with _ | (e | u)
      · cases hrest
        refine ⟨hsteps.handle_eq.trans h.handle_eq, hown', hle', hbusied', fun hcyclic => ?_⟩
        rw [BlockingCall.isBusy_of_isCyclic hcyclic] at hbusy
        cases hbusy
      · cases hrest
        exact ⟨hown', False.elim⟩
      · exact absurd rfl hne

end Running

namespace SocketUse

variable {dev : FallibleDevice D} {handle : ℕ}

/-- **A call starts on a socket that rests.** -/
lemma inv_startCall {sif : SocketInterface D N} (h : sif.Resting dev handle) {call : BlockingCall}
    {s' : SocketUse D N} (hstart : startCall handle sif call = .ok s') : s'.Inv dev handle := by
  obtain ⟨socket, hsocket, hrest⟩ := bind_eq_ok.mp hstart
  obtain ⟨⟨started, dataBuf⟩, hstarted, hrest⟩ := bind_eq_ok.mp hrest
  rw [unwrap_eq_ok_iff] at hsocket
  have hcommand : socket.command = none := by
    obtain ⟨socket', hsocket', hcommand⟩ := h.command_eq
    cases hsocket.symm.trans hsocket'
    exact hcommand
  have hresting := h.toSettled.resting hsocket
    (f := fun socket => { socket with dataBuf := dataBuf }) hcommand
  rcases started with e | unit
  · cases hrest
    exact ⟨CallRecord.ownTraffic_new dev _, fun _ => hresting⟩
  · cases hrest
    exact ⟨rfl, CallRecord.ownTraffic_new dev _, Nat.le_refl _, .inl hresting,
      fun _ => ⟨hresting, BlockingCall.unanswered_of_start hstarted⟩⟩

/-- **One step keeps the invariant.** -/
lemma Inv.step {s s' : SocketUse D N} {i : CallStep} (h : s.Inv dev handle)
    (hcondition : s.AfterCompleted i) (hstep : s.step handle i = .ok s') : s'.Inv dev handle := by
  rcases s with ⟨sif, last, record⟩ | ⟨call, block, record⟩
  · cases i with
    | start call => exact inv_startCall (h.2 hcondition) hstep
    | turn =>
        cases hstep
        exact h
  · cases i with
    | start call' =>
        cases hstep
        exact h
    | turn => exact Running.turnCall h hstep

lemma Inv.ownTraffic {s : SocketUse D N} (h : s.Inv dev handle) : s.OwnTraffic dev := by
  rcases s with ⟨sif, last, record⟩ | ⟨call, block, record⟩
  · exact h.1
  · exact h.own

/-- **The traffic of a call is its own**: in every history of blocking calls on a socket, on a
device that may fail at any time, if no call is started after one that was aborted. -/
theorem ownTraffic_of_afterCompleted (dev : FallibleDevice D) (handle : ℕ)
    {sif : SocketInterface D N} {steps : List CallStep} {s : SocketUse D N}
    (hresting : sif.Resting dev handle)
    (hcondition : Transition.Along (step handle) AfterCompleted (new sif) steps)
    (hrun : Transition.run (step handle) (new sif) steps = .ok s) : s.OwnTraffic dev := by
  have hinv : (new sif).Inv dev handle :=
    ⟨CallRecord.ownTraffic_new dev _, fun _ => hresting⟩
  exact (Transition.run_invariant (Inv dev handle) (fun _ _ _ => Inv.step) hinv hcondition
    hrun).ownTraffic

end SocketUse

/-- The constructors leave an interface that rests. -/
lemma SocketInterface.resting_of_new (dev : FallibleDevice D) {sif : SocketInterface D N} {handle : ℕ}
    {ethdev : D} {buffer : List UInt8} (hiface : sif.iface = .new ethdev buffer)
    (hreturned : dev.ReturnedBelow ethdev (dev.sent ethdev).length)
    (hsockets : ∀ slot, ∀ socket ∈ sif.getSocket slot, ∃ buf, socket = .new buf)
    (hhandle : (sif.getSocket handle).isSome) : sif.Resting dev handle where
  clear := by
    rw [hiface]
    exact ⟨PduInterface.new_wellSized ethdev buffer, rfl, rfl, rfl, rfl, hreturned⟩
  idle := by
    rintro slot ⟨socket, hsocket, -, hcommand⟩
    obtain ⟨buf, rfl⟩ := hsockets slot socket hsocket
    cases hcommand
  command_eq := by
    obtain ⟨socket, hsocket⟩ := Option.isSome_iff_exists.mp hhandle
    obtain ⟨buf, rfl⟩ := hsockets handle socket hsocket
    exact ⟨_, hsocket, rfl⟩

/-! ## Two reads in a row -/

namespace TwoReads

/-- An interface with one socket of sixteen bytes, on a segment without slaves. -/
def sif (refusals : List Bool) : SocketInterface (Refusing Loopback) 1 where
  iface := .new ⟨refusals, .new [] []⟩ (List.replicate 64 0)
  socketSet := ⟨1, #v[.exist (.new (List.replicate 16 0))]⟩

/-- A loopback that refuses some frames. -/
def dev : FallibleDevice (Refusing Loopback) := Refusing.fallible Loopback.returning

/-- Each call makes its first step, and then a poll brings the frame back or fails. -/
def steps (turns : ℕ) : List CallStep :=
  [.start (.readRegister (.all 0) 0x0000 2), .turn, .turn,
    .start (.readRegister (.all 0) 0x0130 2)] ++ List.replicate turns .turn

lemma resting (refusals : List Bool) : (sif refusals).Resting dev 0 := by
  apply SocketInterface.resting_of_new dev rfl (by simp [FallibleDevice.ReturnedBelow, dev,
    Refusing.fallible, Loopback.returning, Loopback.new])
  · intro slot socket hsocket
    have hslot : slot = 0 := Nat.lt_one_iff.mp (SocketInterface.lt_of_getSocket hsocket)
    subst hslot
    cases hsocket
    exact ⟨_, rfl⟩
  · rfl

/-- The last call has failed with `UnexpectedCommand`. -/
def failsUnexpectedly : SocketUse (Refusing Loopback) 1 → Bool
  | .free _ (.finished _ (.error .unexpectedCommand)) _ => true
  | _ => false

/-- What can be seen of the second call: what its task has produced and processed, the registers
that all frames have asked for, and whether it fails with `UnexpectedCommand`. -/
def seen (s : SocketUse (Refusing Loopback) 1) :
    List (Command × List UInt8) × List Pdu × List UInt16 × Bool :=
  (s.record.produced, s.record.processed,
    ((dev.sent s.sif.iface.ethdev).flatMap datagramsOf).map fun pdu => (datagram pdu).ado,
    failsUnexpectedly s)

/-- Two reads of a register on it. -/
def run (refusals : List Bool) (turns : ℕ) : Exec (SocketUse (Refusing Loopback) 1) :=
  Transition.run (SocketUse.step 0) (.new (sif refusals)) (steps turns)

end TwoReads

/-- Without a refusal, two reads in a row. -/
theorem ownTraffic_of_two_reads :
    ∃ s, TwoReads.run [] 2 = .ok s ∧ s.OwnTraffic TwoReads.dev := by
  rcases hrun : TwoReads.run [] 2 with e | s
  · have hok : (TwoReads.run [] 2).toBool = true := by decide +kernel
    rw [hrun] at hok
    cases hok
  · exact ⟨s, rfl, SocketUse.ownTraffic_of_afterCompleted TwoReads.dev 0 (TwoReads.resting [])
      (by decide +kernel) hrun⟩

/-- **A stale request.**  The token for the first read is refused, and this read is aborted.  The
second read produces no PDU, as its first poll sends the PDU of the first one, whose response makes
it fail with `UnexpectedCommand`. -/
theorem staleRequest_sent :
    ∃ s, TwoReads.run [true] 1 = .ok s ∧ ¬ s.OwnTraffic TwoReads.dev ∧
      TwoReads.seen s = ([], [⟨⟨.brd, 0, 0x0000⟩, [0, 0], 0⟩], [0x0000], true) := by
  have hseen : (TwoReads.run [true] 1).map TwoReads.seen =
      .ok ([], [⟨⟨.brd, 0, 0x0000⟩, [0, 0], 0⟩], [0x0000], true) := by
    decide +kernel
  rcases hrun : TwoReads.run [true] 1 with e | s
  · rw [hrun] at hseen
    cases hseen
  · rw [hrun] at hseen
    have hs := Except.ok.inj hseen
    refine ⟨s, rfl, fun hown => ?_, hs⟩
    have hproduced : s.record.produced = [] := congrArg Prod.fst hs
    have hprocessed : s.record.processed = [⟨⟨.brd, 0, 0x0000⟩, [0, 0], 0⟩] :=
      congrArg (fun t => t.2.1) hs
    obtain ⟨content, hcontent, -⟩ := hown.processed _ (by
      rw [hprocessed]
      exact List.mem_singleton_self _)
    rw [hproduced] at hcontent
    cases hcontent

end EtherCat

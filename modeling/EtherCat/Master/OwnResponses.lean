import EtherCat.Interface.Delivery
import EtherCat.Master.CycleReturns

/-!
# Each response answers a PDU of its socket

On a device that returns its frames, the datagrams in the PDU interface are PDUs that are under
way, and the index byte of each is the number of its socket (`CyclicState.Linked`).  So a socket is
only brought the response to its own PDU, and it has the length of that PDU
(`EtherCatMaster.responses_answer`).  This is what the tasks rely on; what is left are the responses
that they cannot decode, and the interface itself (`EtherCatMaster.process_returns_iff`).
-/

namespace EtherCat

open Rust Rust.Exec BitField EtherCatPdu CyclicTask

/-! ## The ledger -/

/-- Datagrams are not empty. -/
lemma Ledger.eq_nil_of_total {D : Type} [RawEthernetDevice D] {dev : ReturningDevice D}
    {iface : PduInterface D} {inFlight unsent : List (List UInt8)}
    (h : Ledger dev iface inFlight unsent) (htotal : iface.pdusTotalSize = 0) :
    inFlight ++ unsent = [] := by
  rw [h.buffered.total_eq] at htotal
  rcases hpdus : inFlight ++ unsent with _ | ⟨pdu, pdus⟩
  · rfl
  · have hlength := (h.buffered.isDatagram pdu (by rw [hpdus]; exact List.mem_cons_self ..)).2
    have hheader : 0 < headerSize := by decide
    rw [hpdus, List.flatten_cons, List.length_append] at htotal
    omega

lemma length_data_datagram {pdu : List UInt8} (h : IsDatagram pdu) :
    (datagram pdu).data.length = length.val pdu := by
  have hlength := h.2
  change ((pdu.drop headerSize).take (length.val pdu)).length = _
  rw [List.length_take, List.length_drop]
  omega

namespace SocketName

lemma handle_injective : Function.Injective handle := by
  rintro ⟨⟩ ⟨⟩ h <;> first | rfl | cases h

lemma handle_lt (name : SocketName) : name.handle < numSockets := by
  cases name <;> decide

/-- A handle fits into the index byte of a datagram. -/
lemma toNat_ofNat_handle (name : SocketName) : (UInt8.ofNat name.handle).toNat = name.handle := by
  cases name <;> rfl

end SocketName

namespace CyclicState

variable {D : Type} [RawEthernetDevice D]

/-! ## The PDUs under way -/

/-- Every PDU that is taken has data. -/
def Filled (s : CyclicState) : CyclicEvent → Prop
  | .take name => (s.socket name).Pending → 0 < (s.socket name).dataLength
  | _ => True

/-- A response comes only for a PDU that is under way, and has its length. -/
def AnsweredInFull (s : CyclicState) : CyclicEvent → Prop
  | .recieve name response =>
    ∃ sent, s.underWay name = some sent ∧ response.data.length = sent.data.length
  | _ => True

/-- The datagram in the PDU interface is the PDU of this socket that is under way. -/
structure IsUnderWay (s : CyclicState) (name : SocketName) (pdu : List UInt8) : Prop where
  index_eq : index.val pdu = name.handle
  has : s.Has name
  command_eq : (s.socket name).command = none
  sent : ∃ sent, s.underWay name = some sent ∧ (datagram pdu).content = (sent.command, sent.data)

/-- The datagram that has come back answers the PDU of this socket that is under way. -/
def AnswersPdu (s : CyclicState) (name : SocketName) (pdu : List UInt8) : Prop :=
  index.val pdu = name.handle ∧ s.Has name ∧
    ∃ sent, s.underWay name = some sent ∧ (datagram pdu).data.length = sent.data.length

/-- What ties the sockets to the frames: the datagrams on the wire and in the interface are those of
the PDUs under way. -/
structure LinkedWith (dev : ReturningDevice D) (s : CyclicState) (iface : PduInterface D)
    (inFlight unsent : List (List UInt8)) (names : List SocketName) : Prop where
  ledger : Ledger dev iface inFlight unsent
  nodup : names.Nodup
  underWay : List.Forall₂ s.IsUnderWay names (inFlight ++ unsent)

/-- **The invariant**: the datagrams in the PDU interface are PDUs of different sockets that are
under way. -/
def Linked (dev : ReturningDevice D) (s : CyclicState) (iface : PduInterface D) : Prop :=
  ∃ inFlight unsent names, LinkedWith dev s iface inFlight unsent names

/-- Each response answers a PDU of its socket, as long as the PDUs have data. -/
def ownResponses (dev : ReturningDevice D) : Contract D := ⟨Filled, AnsweredInFull, Linked dev⟩

section
variable {dev : ReturningDevice D} {s s' : CyclicState} {iface : PduInterface D}
  {inFlight unsent : List (List UInt8)} {names : List SocketName}

omit [RawEthernetDevice D] in
lemma AnsweredInFull.answered {event : CyclicEvent} (h : s.AnsweredInFull event) :
    s.Answered event := by
  cases event with
  | recieve name response =>
      obtain ⟨sent, hsent, -⟩ := h
      exact Option.isSome_iff_exists.mpr ⟨sent, hsent⟩
  | _ => trivial

omit [RawEthernetDevice D] in
lemma IsUnderWay.congr {pdu : List UInt8} {name : SocketName} (hsame : SamePdus s s')
    (h : s.IsUnderWay name pdu) : s'.IsUnderWay name pdu where
  index_eq := h.index_eq
  has := hsame.has name h.has
  command_eq := by
    obtain ⟨dataBuf, heq⟩ := hsame.socket_eq name h.has
    rw [heq]
    exact h.command_eq
  sent := by
    rw [hsame.underWay_eq]
    exact h.sent

lemma linked_of_ledger_nil (h : Ledger dev iface [] []) (s : CyclicState) : Linked dev s iface :=
  ⟨[], [], [], h, .nil, .nil⟩

/-- A PDU is taken from a socket that has none under way. -/
lemma LinkedWith.addPdu (h : LinkedWith dev s iface inFlight unsent names)
    {iface' : PduInterface D} {name : SocketName} {pdu : Pdu} {socket : PduSocket}
    (hhas : s.Has name) (htake : (s.socket name).takePdu = .ok (some pdu, socket))
    (hfilled : s.Filled (.take name))
    (hadd : iface.addPdu (UInt8.ofNat name.handle) pdu.command (s.socket name).pduLength
      (SocketInterface.copyWriter pdu.data) = .ok (.ok (), iface')) :
    Linked dev { s.setSocket name socket with
      underWay := Function.update s.underWay name (some pdu) } iface' := by
  rcases PduSocket.takePdu_eq_ok htake with
    ⟨-, heq, -⟩ | ⟨command, hpending, hcommand, hle, heq, rfl⟩
  · cases heq
  cases heq
  have hlength := PduSocket.pduLength_of_pending hpending
  obtain ⟨new, hnew, hbuffered, hsize, hiface, -⟩ :=
    PduInterface.addPdu_eq_ok h.ledger.buffered h.ledger.wellSized
      ((s.socket name).dataBuf.take (s.socket name).dataLength)
      (by rw [List.length_take, hlength]; omega) (by rw [hlength]; exact hfilled hpending)
      (fun target htarget => overwrite_of_length_eq (by
        rw [List.length_take, htarget, hlength]
        omega)) hadd
  have hindex : index.val new = name.handle := by
    have hval := congrArg (fun d : Datagram => d.index.toNat) hnew
    dsimp only at hval
    rw [← index_val_eq] at hval
    rw [hval]
    exact name.toNat_ofNat_handle
  -- the sockets with a PDU under way have no command, so this is another one
  have hother : ∀ name' ∈ names, name' ≠ name := by
    have hnone := ((List.forall₂_and_left _ _).mp
      (h.underWay.imp fun name' pdu hunderWay => ⟨hunderWay.command_eq, hunderWay⟩)).1
    rintro name' hmem rfl
    have hsome := hpending.2
    rw [hnone name' hmem] at hsome
    cases hsome
  refine ⟨inFlight, unsent ++ [new], names ++ [name], ⟨?_, ?_, ?_, ?_, ?_, ?_⟩, ?_, ?_⟩
  · rw [← List.append_assoc]
    exact hbuffered
  · exact hsize
  · rw [hiface]
    exact h.ledger.recvDataSize_eq
  · rw [hiface]
    exact h.ledger.txCount_eq
  · rw [hiface, List.length_append, List.length_singleton, ← h.ledger.pduCount_eq]
  · rw [hiface]
    exact h.ledger.frames
  · exact List.nodup_append.mpr ⟨h.nodup, List.nodup_singleton name, fun a ha b hb heq =>
      hother a ha (heq.trans (List.mem_singleton.mp hb))⟩
  · have hold : List.Forall₂ (IsUnderWay { s.setSocket name (s.socket name).taken with
        underWay := Function.update s.underWay name
          (some ⟨command, (s.socket name).dataBuf.take (s.socket name).dataLength, 0⟩) })
        names (inFlight ++ unsent) := by
      refine ((List.forall₂_and_left _ _).mpr ⟨hother, h.underWay⟩).imp ?_
      rintro name' pdu ⟨hne, hindex, hhas', hcommand', hsent⟩
      refine ⟨hindex, hhas', ?_, ?_⟩
      · change (Function.update s.socket name _ name').command = none
        rwa [Function.update_of_ne hne]
      · change ∃ sent, Function.update s.underWay name _ name' = some sent ∧ _
        rwa [Function.update_of_ne hne]
    rw [← List.append_assoc]
    refine List.rel_append hold (.cons ⟨hindex, hhas, ?_, ?_⟩ .nil)
    · change (Function.update s.socket name (s.socket name).taken name).command = none
      rw [Function.update_self]
      rfl
    · refine ⟨_, Function.update_self .., ?_⟩
      rw [Datagram.content, hnew]

/-! ## The exchange -/

omit [RawEthernetDevice D] in
/-- What has become of the datagrams answers the PDUs. -/
lemma answersPdu_of_underWay {ps qs pdus : List (List UInt8)}
    (hps : ∀ p ∈ ps, IsDatagram p) (hqs : ∀ q ∈ qs, IsDatagram q)
    (hsame : ps.map datagram = pdus.map datagram) (hanswers : List.Forall₂ Answers ps qs)
    (h : List.Forall₂ s.IsUnderWay names pdus) : List.Forall₂ s.AnswersPdu names qs := by
  induction hanswers generalizing pdus names with
  | nil =>
      obtain rfl : pdus = [] := by simpa using hsame.symm
      cases h
      exact .nil
  | @cons p q ps qs hpq _ ih =>
      cases h with
      | nil => cases hsame
      | @cons name pdu names pdus hname hnames =>
          rw [List.forall_mem_cons] at hps hqs
          rw [List.map_cons, List.map_cons, List.cons.injEq] at hsame
          refine .cons ⟨?_, hname.has, ?_⟩ (ih hps.2 hqs.2 hsame.2 hnames)
          · rw [hpq.1, index_val_eq, hsame.1, ← index_val_eq, hname.index_eq]
          · obtain ⟨sent, hsent, hcontent⟩ := hname.sent
            have hdata : (datagram pdu).data = sent.data := congrArg Prod.snd hcontent
            refine ⟨sent, hsent, ?_⟩
            rw [length_data_datagram hqs.1, hpq.2, ← length_data_datagram hps.1, hsame.1, hdata]

/-- The responses to PDUs of different sockets. -/
def responses (names : List SocketName) (pdus : List (List UInt8)) : List CyclicEvent :=
  (names.zip pdus).map fun answer => .recieve answer.1 (SocketInterface.response answer.2)

omit [RawEthernetDevice D] in
/-- **The responses answer the PDUs**, and each socket gets those that carry its number. -/
lemma run_responses {pdus : List (List UInt8)} (h : List.Forall₂ s.AnswersPdu names pdus)
    (hnodup : names.Nodup) :
    ∃ s', Transition.run step s (responses names pdus) = .ok s' ∧
      Transition.Along step AnsweredInFull s (responses names pdus) ∧
      s'.isRegistered = s.isRegistered ∧
      ∀ name, s'.socket name = SocketInterface.recieveAll (s.socket name)
        (pdus.filter fun pdu => index.val pdu = name.handle) := by
  induction names generalizing s pdus with
  | nil =>
      cases h
      exact ⟨s, rfl, trivial, rfl, fun _ => rfl⟩
  | cons name names ih =>
      rcases h with _ | @⟨_, pdu, _, pdus, hname, hnames⟩
      rw [List.nodup_cons] at hnodup
      obtain ⟨hindex, hhas, sent, hsent, hlength⟩ := hname
      set s₁ : CyclicState :=
        { s.setSocket name ((s.socket name).recieve (SocketInterface.response pdu)) with
          underWay := Function.update s.underWay name none } with hs₁
      have hne : ∀ name' ∈ names, name' ≠ name := by
        rintro name' hmem rfl
        exact hnodup.1 hmem
      have hrest : List.Forall₂ s₁.AnswersPdu names pdus := by
        refine (((List.forall₂_and_left _ _).mpr ⟨hne, hnames⟩).imp ?_)
        rintro name' pdu' ⟨hne, hindex', hhas', hsent'⟩
        refine ⟨hindex', hhas', ?_⟩
        change ∃ sent, Function.update s.underWay name none name' = some sent ∧ _
        rwa [Function.update_of_ne hne]
      obtain ⟨s', hrun, halong, hregistered, hsockets⟩ := ih hrest hnodup.2
      refine ⟨s', Transition.run_cons_eq_ok_iff.mpr ⟨s₁, rfl, hrun⟩, ⟨⟨sent, hsent, hlength⟩, ?_⟩,
        hregistered, fun name' => ?_⟩
      · intro t ht
        cases ht
        exact halong
      · rw [hsockets name', List.filter_cons]
        by_cases hname' : name' = name
        · subst hname'
          rw [if_pos (by simpa using hindex)]
          change SocketInterface.recieveAll (Function.update s.socket name' _ name') _ = _
          rw [Function.update_self]
          rfl
        · have hhandle : index.val pdu ≠ name'.handle := by
            rw [hindex]
            exact fun heq => hname' (SocketName.handle_injective heq).symm
          rw [if_neg (by simpa using hhandle)]
          change SocketInterface.recieveAll (Function.update s.socket name _ name') _ = _
          rw [Function.update_of_ne hname']

omit [RawEthernetDevice D] in
lemma socketSet_congr (hregistered : s'.isRegistered = s.isRegistered)
    (hsocket : ∀ name, s.Has name → s'.socket name = s.socket name) :
    s'.socketSet = s.socketSet := by
  have hfixed : ∀ name, name ≠ .processData → s'.socket name = s.socket name :=
    fun name hname => hsocket name fun heq => absurd heq hname
  rw [socketSet, socketSet, hregistered, hfixed .alState (by rintro ⟨⟩),
    hfixed .rxError (by rintro ⟨⟩), hfixed .dc (by rintro ⟨⟩), hfixed .gp (by rintro ⟨⟩),
    hfixed .mailbox (by rintro ⟨⟩), hfixed .alTf (by rintro ⟨⟩)]
  cases hprocessData : s.isRegistered with
  | false => rfl
  | true => rw [hsocket .processData fun _ => hprocessData]

/-- **An exchange** brings responses to PDUs that are under way. -/
lemma LinkedWith.exchange (h : LinkedWith dev s iface inFlight unsent names)
    {result : Except PhyError Bool} {sif : SocketInterface D numSockets}
    (hexchange : (s.master iface).sif.transmitAndReceive = .ok (result, sif)) :
    ∃ events s', (∀ event ∈ events, s.Polls event) ∧ Transition.run step s events = .ok s' ∧
      Transition.Along step AnsweredInFull s events ∧ sif = (s'.master sif.iface).sif ∧
      Linked dev s' sif.iface ∧ (result = .ok true → Ledger dev sif.iface [] []) := by
  obtain ⟨events₀, s₀, hpolls₀, hrun₀, hsif₀, htotal⟩ := transmitAndReceive_master hexchange
  have hledger : Ledger dev (s.master iface).sif.iface inFlight unsent := h.ledger
  -- the exchange returned, so it was not the trap
  have hfree : inFlight = [] ∨ unsent = [] ∨
      ∃ d', RawEthernetDevice.transmit (s.master iface).sif.iface.ethdev = .none d' := by
    by_contra hnot
    simp only [not_or, not_exists] at hnot
    obtain ⟨hflight, hunsent, hdev⟩ := hnot
    cases htransmit : RawEthernetDevice.transmit (s.master iface).sif.iface.ethdev with
    | none d' => exact hdev d' htransmit
    | some token =>
        cases (SocketInterface.transmitAndReceive_trap hledger hflight hunsent htransmit).symm.trans
          hexchange
  obtain ⟨result', sif', hexchange', houtcome⟩ :=
    SocketInterface.transmitAndReceive_eq hledger hfree
  cases hexchange.symm.trans hexchange'
  rcases houtcome with ⟨hset, -, hout⟩ |
    ⟨frames, frame, bytes, -, -, -, hdata, hecho, hledger', hsockets⟩
  · -- nothing came back
    refine ⟨[], s, by simp, rfl, trivial, congrArg (SocketInterface.mk sif.iface) hset, ?_, ?_⟩
    · rcases hout with ⟨-, hledger', -⟩ | ⟨_, -, -, rfl, hledger'⟩
      · exact ⟨inFlight, unsent, names, hledger', h.nodup, h.underWay⟩
      · refine ⟨unsent, [], names, hledger', h.nodup, ?_⟩
        rw [List.append_nil]
        exact h.underWay
    · intro hresult
      rcases hout with ⟨-, hledger', -⟩ | ⟨_, -, -, rfl, hledger'⟩
      · obtain ⟨rfl, rfl⟩ :=
          List.append_eq_nil_iff.mp (hledger'.eq_nil_of_total (htotal hresult))
        exact hledger'
      · obtain ⟨rfl, -⟩ :=
          List.append_eq_nil_iff.mp (hledger'.eq_nil_of_total (htotal hresult))
        exact hledger'
  · -- the frame came back
    have hanswers := answersPdu_of_underWay (forall_isDatagram_datagramsOf frame)
      (forall_isDatagram_datagramsOf bytes) hdata hecho.answers h.underWay
    obtain ⟨s', hrun, halong, hregistered, hsockets'⟩ := run_responses hanswers h.nodup
    refine ⟨responses names (datagramsOf bytes), s', ?_, hrun, halong, ?_,
      linked_of_ledger_nil hledger' s', fun _ => hledger'⟩
    · intro event hevent
      obtain ⟨answer, -, rfl⟩ := List.mem_map.mp hevent
      trivial
    · have hregistered₀ : s₀.isRegistered = s.isRegistered := by
        rw [eq_of_blocking (fun event hevent => (hpolls₀ event hevent).isTraffic.isBlocking) hrun₀]
      have hsame : s₀.socketSet = s'.socketSet := by
        refine socketSet_congr (hregistered₀.trans hregistered.symm) fun name hhas => ?_
        have hhas₀ : s₀.Has name := fun hname => (hregistered₀.trans hregistered.symm).trans
          (hhas hname)
        have hhas' : s.Has name := fun hname => hregistered.symm.trans (hhas hname)
        have hget := hsockets name.handle
        rw [hsif₀] at hget
        have hget₀ : (s₀.master sif.iface).sif.getSocket name.handle = some (s₀.socket name) :=
          getItem_socketSet hhas₀
        have hget' : (s.master iface).sif.getSocket name.handle = some (s.socket name) :=
          getItem_socketSet hhas'
        rw [hget₀, hget', Option.map_some, Option.some.injEq] at hget
        rw [hget, hsockets' name]
      rw [hsif₀]
      exact congrArg (SocketInterface.mk sif.iface) hsame

/-- **The contract is kept** on a device that returns its frames. -/
lemma ownResponses_kept (dev : ReturningDevice D) : (ownResponses dev).Kept where
  addPdu hhas htake hadd := by
    refine ⟨Contract.run_take htake, ?_⟩
    rintro ⟨inFlight, unsent, names, h⟩ hfilled
    exact ⟨⟨trivial, fun _ _ => trivial⟩, h.addPdu hhas htake hfilled.1 hadd⟩
  exchange {s iface result sif} hexchange := by
    by_cases hlinked : Linked dev s iface
    · obtain ⟨inFlight, unsent, names, h⟩ := hlinked
      obtain ⟨events, s', hpolls, hrun, halong, hsif, hlinked', hledger⟩ := h.exchange hexchange
      exact ⟨events, s', hpolls, ⟨hrun, fun _ _ => ⟨halong, hlinked'⟩⟩, hsif,
        fun hresult _ _ s'' _ => linked_of_ledger_nil (hledger hresult) s''⟩
    · obtain ⟨events, s', hpolls, hrun, hsif, -⟩ := transmitAndReceive_master hexchange
      exact ⟨events, s', hpolls, ⟨hrun, fun hinv => absurd hinv hlinked⟩, hsif,
        fun _ hinv => absurd hinv hlinked⟩
  ensures s event hevent := by
    cases event with
    | recieve name response => exact absurd trivial hevent
    | _ => trivial
  congr hsame := by
    rintro ⟨inFlight, unsent, names, hledger, hnodup, hunderWay⟩
    exact ⟨inFlight, unsent, names, hledger, hnodup,
      hunderWay.imp fun name pdu hname => hname.congr hsame⟩

end

end CyclicState

/-! ## The cyclic operation -/

/-- Every PDU that waits in a socket has data. -/
def SocketInterface.HoldsData {D : Type} {N : ℕ} (sif : SocketInterface D N) : Prop :=
  ∀ slot < N, ∀ socket ∈ sif.getSocket slot, socket.Pending → 0 < socket.dataLength

instance {D : Type} {N : ℕ} (sif : SocketInterface D N) : Decidable sif.HoldsData :=
  inferInstanceAs (Decidable (∀ slot < N, ∀ socket ∈ sif.getSocket slot, _))

/-- The calls of the cyclic operation.  `process` finds data in every PDU that waits. -/
def EtherCatMaster.InCycle {D : Type} (master : EtherCatMaster D) : MasterCall → Prop
  | .process _ => master.sif.HoldsData
  | .registerProcessDataBuffer _ | .writePdo _ _ _ _ | .requestMailbox _ _ | .requestAlState _ =>
    True
  | _ => False

instance {D : Type} (master : EtherCatMaster D) : ∀ call, Decidable (master.InCycle call)
  | .process _ => inferInstanceAs (Decidable master.sif.HoldsData)
  | .registerProcessDataBuffer _ | .writePdo _ _ _ _ | .requestMailbox _ _ | .requestAlState _ =>
    .isTrue trivial
  | .init _ | .initDc _ | .configureSlavesForOperation _ _ | .block _ _ | .readSdo _ _ _ _
  | .writeSdo _ _ _ _ _ => .isFalse not_false

namespace CyclicState

variable {D : Type} [RawEthernetDevice D]

/-- Every task has the socket that it needs, and nothing is under way. -/
structure AtRest (dev : ReturningDevice D) (s : CyclicState) (iface : PduInterface D) : Prop where
  sound : s.Sound
  ledger : Ledger dev iface [] []

section
variable {dev : ReturningDevice D} {s s' : CyclicState} {iface : PduInterface D}
  {master : EtherCatMaster D} {c : Contract D}

/-- A new master is at rest. -/
lemma atRest_start (dev : ReturningDevice D) {ethdev : D} (hsent : dev.sent ethdev = [])
    (hreturned : dev.returned ethdev = []) (buffer : List UInt8)
    (slaveBuf : List (Option Slave × SlaveConfig)) {socketBuffer : List UInt8}
    (hlength : EtherCatMaster.minimumRequiredBufferSize < socketBuffer.length) :
    AtRest dev (start slaveBuf socketBuffer) (.new ethdev buffer) where
  sound := sound_start hlength
  ledger := (Session.new_accounts (N := 0) dev hsent hreturned buffer).ledger

omit [RawEthernetDevice D] in
/-- The PDUs that a poll takes have data. -/
lemma along_filled {events : List CyclicEvent} (hpolls : ∀ event ∈ events, s.Polls event)
    (hdata : ∀ name, s.Has name → (s.socket name).Pending → 0 < (s.socket name).dataLength) :
    Transition.Along step Filled s events := by
  induction events generalizing s with
  | nil => trivial
  | cons event events ih =>
      rw [List.forall_mem_cons] at hpolls
      have hother : ∀ (name : SocketName) (socket : PduSocket) {s' : CyclicState},
          ¬ socket.Pending → s'.socket = Function.update s.socket name socket →
          s'.isRegistered = s.isRegistered → Transition.Along step Filled s' events := by
        intro name socket s' hpending hsocket hregistered
        have hhas : ∀ name', s'.Has name' ↔ s.Has name' := by
          intro name'
          rw [Has, Has, hregistered]
        refine ih (fun event hevent => ?_) fun name' hhas' => ?_
        · have hpoll := hpolls.2 event hevent
          cases event with
          | take name' => exact (hhas name').mpr hpoll
          | _ => exact hpoll
        · rw [hsocket]
          by_cases hname : name' = name
          · subst hname
            rw [Function.update_self]
            exact fun h => absurd h hpending
          · rw [Function.update_of_ne hname]
            exact hdata name' ((hhas name').mp hhas')
      cases event with
      | take name =>
          refine ⟨hdata name hpolls.1, fun s' hstep => ?_⟩
          obtain ⟨⟨taken, socket⟩, htake, heq⟩ := bind_eq_ok.mp hstep
          cases heq
          refine hother name socket ?_ rfl rfl
          rcases PduSocket.takePdu_eq_ok htake with ⟨hnot, -, rfl⟩ | ⟨command, -, -, -, -, rfl⟩
          · exact hnot
          · exact PduSocket.not_pending_taken _
      | recieve name response =>
          refine ⟨trivial, fun s' hstep => ?_⟩
          cases hstep
          refine hother name ((s.socket name).recieve response) ?_ rfl rfl
          rintro ⟨hflag, -⟩
          cases hflag
      | _ => exact hpolls.1.elim

omit [RawEthernetDevice D] in
lemma data_of_holdsData (hdata : (s.master iface).sif.HoldsData) (name : SocketName)
    (hhas : s.Has name) (hpending : (s.socket name).Pending) :
    0 < (s.socket name).dataLength :=
  hdata name.handle name.handle_lt (s.socket name) (getItem_socketSet hhas) hpending

/-- A call of the cyclic operation. -/
lemma inCycle_moves (hkept : c.Kept) {call : MasterCall}
    (hcycle : (s.master iface).InCycle call) (h : (s.master iface).call call = .ok master) :
    ∃ events s', call.Does events ∧ c.Moves s iface events s' master.sif.iface ∧
      Transition.Along step Filled s events ∧ master = s'.master master.sif.iface := by
  cases call with
  | process sysTime =>
      obtain ⟨result, hprocess⟩ := EtherCatMaster.of_behind h
      obtain ⟨traffic, events, s', hpolls, hevents, hmoves, hmaster⟩ :=
        process_master hkept hprocess
      have hfilled := along_filled hpolls (data_of_holdsData hcycle)
      refine ⟨events, s', ⟨traffic, fun event hevent => (hpolls event hevent).isTraffic, hevents⟩,
        hmoves, ?_, hmaster⟩
      rcases hevents with rfl | rfl
      · exact hfilled
      · exact Transition.along_append_iff.mpr
          ⟨hfilled, fun _ _ => ⟨trivial, fun _ _ => trivial⟩⟩
  | registerProcessDataBuffer | writePdo | requestMailbox | requestAlState =>
      obtain ⟨events, s', rfl, hmoves, hmaster⟩ := EtherCatMaster.call_isCyclic hkept h
      exact ⟨_, s', rfl, hmoves, ⟨trivial, fun _ _ => trivial⟩, hmaster⟩
  | _ => exact hcycle.elim

/-- Runs of the cyclic operation. -/
lemma exists_moves_of_inCycle (hkept : c.Kept) {calls : List MasterCall}
    (hcycle : Transition.Along EtherCatMaster.call EtherCatMaster.InCycle (s.master iface) calls)
    (h : Transition.run EtherCatMaster.call (s.master iface) calls = .ok master) :
    ∃ pieces s', List.Forall₂ MasterCall.Does calls pieces ∧
      c.Moves s iface pieces.flatten s' master.sif.iface ∧
      Transition.Along step Filled s pieces.flatten ∧ master = s'.master master.sif.iface := by
  induction calls generalizing s iface with
  | nil =>
      cases h
      exact ⟨[], s, .nil, .refl s iface, trivial, rfl⟩
  | cons call calls ih =>
      obtain ⟨next, hcall, hrest⟩ := Transition.run_cons_eq_ok_iff.mp h
      obtain ⟨events, s', hdoes, hmoves, hfilled, hmaster⟩ := inCycle_moves hkept hcycle.1 hcall
      have hcycle' := hcycle.2 next hcall
      rw [hmaster] at hrest hcycle'
      obtain ⟨pieces, s'', hpieces, hmoves', hfilled', hmaster'⟩ := ih hcycle' hrest
      refine ⟨events :: pieces, s'', .cons hdoes hpieces, hmoves.trans hmoves',
        Transition.along_append_iff.mpr ⟨hfilled, fun t ht => ?_⟩, hmaster'⟩
      cases hmoves.run.symm.trans ht
      exact hfilled'

omit [RawEthernetDevice D] in
lemma Sound.of_answeredInFull {events : List CyclicEvent} (h : s.Sound)
    (hanswered : Transition.Along CyclicState.step AnsweredInFull s events)
    (hrun : Transition.run CyclicState.step s events = .ok s') : s'.Sound :=
  Transition.run_invariant Sound
    (fun _ _ _ hsound hanswered hstep => hsound.step hanswered hstep) h
    (Transition.along_mono (fun _ _ hanswered => hanswered.answered) hanswered) hrun

/-- What a run of the cyclic operation leaves. -/
lemma AtRest.run (h : AtRest dev s iface) {calls : List MasterCall}
    (hcycle : Transition.Along EtherCatMaster.call EtherCatMaster.InCycle (s.master iface) calls)
    (hrun : Transition.run EtherCatMaster.call (s.master iface) calls = .ok master) :
    ∃ pieces s', List.Forall₂ MasterCall.Does calls pieces ∧
      Transition.run step s pieces.flatten = .ok s' ∧
      Transition.Along step AnsweredInFull s pieces.flatten ∧
      master = s'.master master.sif.iface ∧ s'.Sound ∧ Linked dev s' master.sif.iface := by
  obtain ⟨pieces, s', hpieces, hmoves, hfilled, hmaster⟩ :=
    exists_moves_of_inCycle (ownResponses_kept dev) hcycle hrun
  obtain ⟨hanswered, hlinked⟩ := hmoves.kept (linked_of_ledger_nil h.ledger s) hfilled
  exact ⟨pieces, s', hpieces, hmoves.run, hanswered, hmaster,
    h.sound.of_answeredInFull hanswered hmoves.run, hlinked⟩

end

end CyclicState

/-! ## The poll -/

namespace SocketInterface

variable {D : Type} [RawEthernetDevice D] {N : ℕ}

/-- No frame is handed to the device while another one is out: nothing is in flight, or the
device takes no frame, or there is nothing to send. -/
def HoldsBack (sif : SocketInterface D N) : Prop :=
  sif.iface.txCount = 0 ∨ Session.Refuses sif.iface.ethdev ∨
    (sif.iface.pduCount = 0 ∧ ∀ slot < N, ¬ sif.Takes slot)

omit [RawEthernetDevice D] in
lemma HoldsData.takesData {sif : SocketInterface D N} (h : sif.HoldsData) : sif.TakesData := by
  intro slot hslot htakes socket hsocket
  obtain ⟨socket', hsocket', hpending⟩ := htakes.1
  cases hsocket.symm.trans hsocket'
  exact h slot hslot socket hsocket hpending

omit [RawEthernetDevice D] in
lemma filterMap_request_eq_nil_iff (sif : SocketInterface D N) :
    (List.range N).filterMap sif.request = [] ↔ ∀ slot < N, ¬ sif.Takes slot := by
  rw [List.filterMap_eq_nil_iff]
  refine forall_congr' fun slot => ?_
  rw [List.mem_range]
  refine imp_congr_right fun _ => ?_
  rw [request]
  split
  · next htakes =>
      obtain ⟨socket, hsocket, hpending⟩ := htakes.1
      obtain ⟨command, hcommand⟩ := Option.isSome_iff_exists.mp hpending.2
      rw [Option.mem_def] at hsocket
      refine iff_of_false ?_ (not_not.mpr htakes)
      rw [hsocket]
      dsimp only
      rw [hcommand]
      rintro ⟨⟩
  · next htakes => exact iff_of_true rfl htakes

/-- **When a poll returns.** -/
theorem exists_pollTxRx_iff {dev : ReturningDevice D} {sif : SocketInterface D N}
    {inFlight unsent : List (List UInt8)} (h : Ledger dev sif.iface inFlight unsent)
    (hdata : sif.TakesData) :
    (∃ r, sif.pollTxRx = .ok r) ↔ (∃ r, sif.enqueuePdus = .ok r) ∧ sif.HoldsBack := by
  rcases henqueue : sif.enqueuePdus with e | ⟨complete, enqueued⟩
  · refine iff_of_false ?_ ?_
    · rintro ⟨r, hpoll⟩
      rw [pollTxRx, henqueue] at hpoll
      cases hpoll
    · rintro ⟨⟨r, hr⟩, -⟩
      cases hr
  obtain ⟨new, hnew, hbuffered, hsize, hcount, hiface, -⟩ :=
    enqueuePdus_eq_ok hdata h.buffered h.wellSized henqueue
  have hethdev : enqueued.iface.ethdev = sif.iface.ethdev := by rw [hiface]
  have hledger : Ledger dev enqueued.iface inFlight (unsent ++ new) := {
    buffered := by rw [← List.append_assoc]; exact hbuffered
    wellSized := hsize
    recvDataSize_eq := by rw [hiface]; exact h.recvDataSize_eq
    txCount_eq := by rw [hiface]; exact h.txCount_eq
    pduCount_eq := by rw [hcount, h.pduCount_eq, List.length_append]
    frames := by rw [hethdev]; exact h.frames }
  have hnone : unsent ++ new = [] ↔
      sif.iface.pduCount = 0 ∧ ∀ slot < N, ¬ sif.Takes slot := by
    rw [List.append_eq_nil_iff, h.pduCount_eq_zero_iff, ← filterMap_request_eq_nil_iff, ← hnew,
      List.map_eq_nil_iff]
  have hpoll : (∃ r, sif.pollTxRx = .ok r) ↔ ∃ r, enqueued.transmitAndReceive = .ok r := by
    rw [pollTxRx, henqueue, ok_bind]
    dsimp only
    constructor
    · rintro ⟨r, hr⟩
      obtain ⟨r', hexchange, -⟩ := bind_eq_ok.mp hr
      exact ⟨r', hexchange⟩
    · rintro ⟨⟨result, sif'⟩, hexchange⟩
      rw [hexchange]
      rcases result with e | isProcessed <;> exact ⟨_, rfl⟩
  rw [hpoll]
  constructor
  · rintro ⟨r, hexchange⟩
    refine ⟨⟨_, rfl⟩, ?_⟩
    by_contra hnot
    simp only [HoldsBack, not_or] at hnot
    obtain ⟨htx, hdev, hsend⟩ := hnot
    have hflight : inFlight ≠ [] := fun hnil => htx (h.txCount_eq_zero_iff.mpr hnil)
    have hunsent : unsent ++ new ≠ [] := fun hnil => hsend (hnone.mp hnil)
    cases htransmit : RawEthernetDevice.transmit enqueued.iface.ethdev with
    | none d' =>
        rw [hethdev] at htransmit
        exact hdev (by simp [Session.Refuses, htransmit, TokenOption.isNone])
    | some token =>
        cases (transmitAndReceive_trap hledger hflight hunsent htransmit).symm.trans hexchange
  · rintro ⟨-, hholds⟩
    have hfree : inFlight = [] ∨ unsent ++ new = [] ∨
        ∃ d', RawEthernetDevice.transmit enqueued.iface.ethdev = .none d' := by
      rcases hholds with htx | hdev | hsend
      · exact .inl (h.txCount_eq_zero_iff.mp htx)
      · refine .inr (.inr ?_)
        rw [hethdev]
        unfold Session.Refuses at hdev
        cases htransmit : RawEthernetDevice.transmit sif.iface.ethdev with
        | none d' => exact ⟨d', rfl⟩
        | some token => simp [htransmit, TokenOption.isNone] at hdev
      · exact .inr (.inl (hnone.mpr hsend))
    obtain ⟨r, sif', hexchange, -⟩ := transmitAndReceive_eq hledger hfree
    exact ⟨_, hexchange⟩

end SocketInterface

namespace EtherCatMaster

variable {D : Type}

/-- The steps of the tasks can decode the responses in their sockets. -/
structure Decodable (master : EtherCatMaster D) : Prop where
  statuses : ∀ handle ∈ master.processDataHandle, ∀ socket ∈ master.sif.getSocket handle,
    ∀ slave ∈ master.network.slaves.filterMap Prod.fst,
      slave.StatusReadable logicalStartAddress socket.dataBuf
  alState : ∀ socket ∈ master.sif.getSocket master.alStateHandle, ∀ recv,
    socket.getRecievedPdu = .ok (some recv) → AlStatus.KnownCode recv.data
  alTf : ∀ socket ∈ master.sif.getSocket master.alTfHandle, ∀ recv,
    socket.getRecievedPdu = .ok (some recv) → master.alTfTask.DecodesStatus recv

lemma decodable_master {s : CyclicState} {iface : PduInterface D} :
    (s.master iface).Decodable ↔ s.Decodable := by
  have hget : ∀ name, s.Has name →
      (s.master iface).sif.getSocket name.handle = some (s.socket name) :=
    fun name hhas => CyclicState.getItem_socketSet hhas
  have halState := hget .alState (by rintro ⟨⟩)
  have halTf := hget .alTf (by rintro ⟨⟩)
  constructor
  · rintro ⟨hstatuses, halState', halTf'⟩
    refine ⟨fun hregistered => ?_, halState' _ halState, halTf' _ halTf⟩
    refine hstatuses SocketName.processData.handle ?_ _ (hget .processData fun _ => hregistered)
    change (if s.isRegistered then _ else _) = _
    rw [if_pos hregistered]
  · rintro ⟨hstatuses, halState', halTf'⟩
    refine ⟨fun handle hhandle socket hsocket => ?_, fun socket hsocket => ?_,
      fun socket hsocket => ?_⟩
    · change (if s.isRegistered then some SocketName.processData.handle else none) = some handle
        at hhandle
      split at hhandle
      · next hregistered =>
          cases hhandle
          cases (hget .processData fun _ => hregistered).symm.trans hsocket
          exact hstatuses hregistered
      · cases hhandle
    · cases halState.symm.trans hsocket
      exact halState'
    · cases halTf.symm.trans hsocket
      exact halTf'

end EtherCatMaster

/-- **When `process` returns** behind a poll that has brought all PDUs back. -/
lemma CyclicState.exists_process_iff {D : Type} [RawEthernetDevice D] {dev : ReturningDevice D}
    {s : CyclicState} {iface : PduInterface D} {sif : SocketInterface D numSockets}
    (hsound : s.Sound) (hlinked : Linked dev s iface) (hdata : (s.master iface).sif.HoldsData)
    (sysTime : ℕ) (hpoll : (s.master iface).sif.pollTxRx = .ok (.ok true, sif)) :
    (∃ r, (s.master iface).process sysTime = .ok r) ↔
      { s.master iface with sif := sif }.Decodable := by
  obtain ⟨events, s', hpolls, hmoves, hsif, -⟩ := pollTxRx_moves (ownResponses_kept dev) hpoll
  have htraffic : ∀ event ∈ events, IsTraffic event :=
    fun event hevent => (hpolls event hevent).isTraffic
  have hfilled := along_filled hpolls (data_of_holdsData hdata)
  -- the responses of the poll are those of PDUs under way
  have hanswered := (hmoves.kept hlinked hfilled).1
  have hsound' : s'.Sound := hsound.of_answeredInFull hanswered hmoves.run
  have hmaster := master_of_traffic iface sif.iface htraffic hmoves.run
  rw [← hsif] at hmaster
  rw [process_of_polled sysTime hpoll htraffic hmoves.run hsif, hmaster,
    EtherCatMaster.decodable_master, ← exists_cycle_iff hsound'.settled sysTime]
  dsimp only
  constructor
  · rintro ⟨r, hr⟩
    obtain ⟨s'', hcycle, -⟩ := bind_eq_ok.mp hr
    exact ⟨s'', hcycle⟩
  · rintro ⟨s'', hcycle⟩
    exact ⟨_, bind_eq_ok.mpr ⟨s'', hcycle, rfl⟩⟩

namespace EtherCatMaster

section
variable {D : Type} [RawEthernetDevice D] (dev : ReturningDevice D) (s : CyclicState)
  (iface : PduInterface D) (master : EtherCatMaster D) (calls : List MasterCall)

/-- **Each response answers the PDU of its socket**: in every run of the cyclic operation from rest,
on a device that returns its frames, a socket gets a response only if a PDU of it is under way, and
the response has the length of that PDU. -/
theorem responses_answer (hrest : CyclicState.AtRest dev s iface)
    (hcycle : Transition.Along call InCycle (s.master iface) calls)
    (hrun : Transition.run call (s.master iface) calls = .ok master) :
    ∃ pieces s', List.Forall₂ MasterCall.Does calls pieces ∧
      Transition.run CyclicState.step s pieces.flatten = .ok s' ∧
      Transition.Along CyclicState.step CyclicState.AnsweredInFull s pieces.flatten ∧
      master = s'.master master.sif.iface := by
  obtain ⟨pieces, s', hpieces, hevents, hanswered, hmaster, -, -⟩ := hrest.run hcycle hrun
  exact ⟨pieces, s', hpieces, hevents, hanswered, hmaster⟩

/-- Cycles with a request between them.  The second `process` leaves a frame on its way. -/
def requestedCycles : List MasterCall :=
  [.process 0, .process 0, .requestAlState .preOperational, .process 1, .process 1]

lemma loopback_atRest :
    CyclicState.AtRest Loopback.returning (.start [(none, .default)] (List.replicate 1024 0))
      (.new (.new [] [false]) (List.replicate 256 0)) := by
  refine CyclicState.atRest_start Loopback.returning rfl rfl _ _ ?_
  rw [List.length_replicate]
  decide

theorem responses_answer_loopback :
    ∃ master pieces s', Transition.run call loopbackMaster requestedCycles = .ok master ∧
      master.cycleCount = 3 ∧
      Transition.run CyclicState.step (.start [(none, .default)] (List.replicate 1024 0))
        (List.flatten pieces) = .ok s' ∧
      Transition.Along CyclicState.step CyclicState.AnsweredInFull
        (.start [(none, .default)] (List.replicate 1024 0)) pieces.flatten := by
  have hcount : (Transition.run call loopbackMaster requestedCycles).toOption.map cycleCount =
      some 3 := by
    decide +kernel
  rcases hrun : Transition.run call loopbackMaster requestedCycles with e | master
  · rw [hrun] at hcount
    cases hcount
  · rw [hrun] at hcount
    obtain ⟨pieces, s', -, hevents, hanswered, -⟩ :=
      responses_answer Loopback.returning (.start [(none, .default)] (List.replicate 1024 0))
        (.new (.new [] [false]) (List.replicate 256 0)) master requestedCycles loopback_atRest
        (by decide +kernel) hrun
    exact ⟨master, pieces, s', rfl, Option.some.inj hcount, hevents, hanswered⟩

/-- **When `process` returns**, after every run of the cyclic operation from rest: when the sockets
can give their PDUs to the interface, no frame is handed to the device while another one is out,
and the tasks can decode the responses that they find in their sockets if all have come back. -/
theorem process_returns_iff (sysTime : ℕ) (hrest : CyclicState.AtRest dev s iface)
    (hcycle : Transition.Along call InCycle (s.master iface) calls)
    (hrun : Transition.run call (s.master iface) calls = .ok master)
    (hdata : master.sif.HoldsData) :
    (∃ r, master.process sysTime = .ok r) ↔ (∃ r, master.sif.enqueuePdus = .ok r) ∧
      master.sif.HoldsBack ∧
      ∀ sif, master.sif.pollTxRx = .ok (.ok true, sif) → { master with sif := sif }.Decodable := by
  obtain ⟨pieces, s', -, hevents, hanswered, hmaster, hsound, hlinked⟩ := hrest.run hcycle hrun
  obtain ⟨inFlight, unsent, names, hledger, -, -⟩ := id hlinked
  have hreturns := SocketInterface.exists_pollTxRx_iff hledger hdata.takesData
  rw [← and_assoc, ← hreturns]
  rcases hpoll : master.sif.pollTxRx with e | ⟨polled, sif⟩
  · -- the poll panics
    refine iff_of_false ?_ ?_
    · rintro ⟨r, hprocess⟩
      rw [process, hpoll] at hprocess
      cases hprocess
    · rintro ⟨⟨r, hr⟩, -⟩
      cases hr
  rcases polled with e | _ | _
  · refine iff_of_true ⟨_, by rw [process, hpoll]; rfl⟩ ⟨⟨_, rfl⟩, ?_⟩
    rintro sif' ⟨⟩
  · refine iff_of_true ⟨_, by rw [process, hpoll]; rfl⟩ ⟨⟨_, rfl⟩, ?_⟩
    rintro sif' ⟨⟩
  · -- all PDUs have come back, and the tasks make a step
    rw [hmaster] at hpoll hdata ⊢
    rw [CyclicState.exists_process_iff hsound hlinked hdata sysTime hpoll]
    constructor
    · refine fun hdecodable => ⟨⟨_, rfl⟩, ?_⟩
      rintro sif' ⟨⟩
      exact hdecodable
    · exact fun h => h.2 sif rfl

/-- A frame is on its way, and `process` returns: it holds the next one back. -/
theorem process_returns_holdsBack :
    ∃ master, Transition.run call loopbackMaster (requestedCycles.take 3) = .ok master ∧
      0 < master.sif.iface.txCount ∧ master.sif.HoldsBack := by
  have hmaster : (Transition.run call loopbackMaster (requestedCycles.take 3)).toOption.map
      (fun master => decide (0 < master.sif.iface.txCount ∧ master.sif.HoldsData ∧
        (master.process 1).isOk)) = some true := by
    decide +kernel
  rcases hrun : Transition.run call loopbackMaster (requestedCycles.take 3) with e | master
  · rw [hrun] at hmaster
    cases hmaster
  · rw [hrun] at hmaster
    obtain ⟨hcount, hdata, hprocess⟩ := of_decide_eq_true (Option.some.inj hmaster)
    have hreturns : ∃ r, master.process 1 = .ok r := by
      rcases hprocess' : master.process 1 with e | r
      · rw [hprocess'] at hprocess
        cases hprocess
      · exact ⟨r, rfl⟩
    have hiff := process_returns_iff Loopback.returning
      (.start [(none, .default)] (List.replicate 1024 0))
      (.new (.new [] [false]) (List.replicate 256 0)) master (requestedCycles.take 3) 1
      loopback_atRest (by decide +kernel) hrun hdata
    exact ⟨master, rfl, hcount, (hiff.mp hreturns).2.1⟩

end

end EtherCatMaster

end EtherCat

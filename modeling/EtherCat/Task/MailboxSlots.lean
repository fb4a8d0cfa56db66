import EtherCat.Task.SmTable

/-!
# The mailboxes of an initialised slave

What a complete run of `SlaveInitTask` makes of the EEPROM.  The mailbox sync managers follow the
words that were asked for exactly in the runs whose size answers are zero as a whole if their first
word is, and two such runs with the same words have the same sync managers
(`CompleteRun.smTable_followsWords`).
-/

namespace EtherCat

open Rust BitField SlaveInitTask

/-- The sync manager belongs to a mailbox. -/
def SyncManagerType.isMailbox : SyncManagerType → Bool
  | mailboxRx _ | mailboxTx _ => true
  | processDataRx | processDataTx => false

/-- The mailbox in a slot. -/
def SlaveInfo.mailboxAt (info : SlaveInfo) (slot : Fin 4) : Option SyncManagerType :=
  info.sm[slot].filter SyncManagerType.isMailbox

/-- The mailbox that a size word and an offset word describe. -/
def mailboxOfWords (mailbox : SyncManager → SyncManagerType) (number numberOfSm : UInt8)
    (size offset : UInt16) : Option SyncManagerType :=
  if 4 ≤ numberOfSm ∧ size ≠ 0 then some (mailbox ⟨number, min size maxSmSize, offset⟩) else none

/-- A run of the task from its start to its end. -/
structure CompleteRun where
  first : Driven SlaveInitTask
  replies : List Reply
  last : Driven SlaveInitTask
  info : SlaveInfo
  started : ∃ (task : SlaveInitTask) (position : UInt16),
    task.ReaderWide ∧ first.task = task.start position
  run_eq : Transition.run Driven.step first replies = .ok last
  complete : last.task.waitResult.1 = some (.ok (some info))

namespace CompleteRun

/-- The responses that the task has seen. -/
def seen (r : CompleteRun) : List (SlaveInitTask × Pdu) :=
  Transition.log Driven.step shown r.first r.replies

/-- The answers of the EEPROM. -/
def answers (r : CompleteRun) : List (UInt16 × List UInt8) := r.seen.filterMap siiAnswer

/-- The word at an address that was asked for. -/
def wordAt (r : CompleteRun) (address : UInt16) : UInt16 :=
  ((r.answers.lookup address).map firstWord).getD 0

/-- **What the EEPROM is for.**  There is a mailbox in the first or second slot exactly if there are
four sync managers and its size word is not zero, and then the words tell where it is. -/
structure FollowsWords (r : CompleteRun) : Prop where
  rx : r.info.mailboxAt 0 = mailboxOfWords .mailboxRx 0 r.info.numberOfSm
    (r.wordAt Sii.standardRxMailboxSize) (r.wordAt Sii.standardRxMailboxOffset)
  tx : r.info.mailboxAt 1 = mailboxOfWords .mailboxTx 1 r.info.numberOfSm
    (r.wordAt Sii.standardTxMailboxSize) (r.wordAt Sii.standardTxMailboxOffset)
  nonempty : ∀ sm, r.info.mailboxAt 0 = some (.mailboxRx sm) ∨
    r.info.mailboxAt 1 = some (.mailboxTx sm) → 1 ≤ sm.size

/-- With four sync managers, an answer for a size is zero if its first word is. -/
def SizesAreWords (r : CompleteRun) : Prop :=
  4 ≤ r.info.numberOfSm → ∀ answer ∈ r.answers,
    answer.1 = Sii.standardRxMailboxSize ∨ answer.1 = Sii.standardTxMailboxSize →
      firstWord answer.2 = 0 → SiiData.siiData.val answer.2 = 0

/-- The two runs have seen the same words, and the same DL information. -/
def AgreesWith (r r' : CompleteRun) : Prop :=
  r.seen.filterMap dlInformation = r'.seen.filterMap dlInformation ∧
    List.Forall₂ (fun answer answer' => answer.2.take 2 = answer'.2.take 2) r.answers r'.answers

/-- The table of a complete run. -/
lemma reads (r : CompleteRun) :
    r.answers.map Prod.fst = siiAddresses ∧
      r.info.sm = r.answers.foldl (noteSm r.info.numberOfSm) (Vector.replicate 4 none) ∧
      ∃ data, r.seen.filterMap dlInformation = [data] ∧
        r.info.numberOfSm = .ofNat (DlInformation.numberOfSupportedSmChannels.val data) := by
  obtain ⟨task, position, hwide, hstart⟩ := r.started
  have hheld : Held r.first [] := by
    refine ⟨by rw [hstart]; trivial, ⟨by rw [hstart]; rfl, ⟨.default, by rw [hstart]; rfl, rfl, ?_⟩,
      fun _ => rfl⟩, by rw [hstart]; exact hwide, ?_, ?_⟩
    · rw [hstart]
      rintro ⟨⟩
    · rw [hstart]
      rintro isFirst ⟨⟩
    · rw [hstart]
      rintro isFirst reader ⟨⟩
  have hlast := Transition.run_log_invariant
    (fun d seen => d.task.failure.isSome = true ∨ Held d seen)
    (fun d reply d' seen h hstep => held_step h hstep) (.inr hheld) r.run_eq
  rw [List.nil_append] at hlast
  have hcomplete : r.last.task.state = .complete ∧ r.last.task.slaveInfo = some r.info := by
    have hdone := r.complete
    unfold waitResult at hdone
    split at hdone
    · next hstate => exact ⟨hstate, Except.ok.inj (Option.some.inj hdone)⟩
    · cases hdone
    · cases hdone
  rcases hlast with hfailure | hlast
  · rw [SlaveInitTask.failure, hcomplete.1] at hfailure
    cases hfailure
  · obtain ⟨haddresses, ⟨info, hinfo, hsm, hnumber⟩, -⟩ := hlast.reads
    obtain rfl : info = r.info := Option.some.inj (hinfo.symm.trans hcomplete.2)
    rw [hcomplete.1] at haddresses hnumber
    exact ⟨haddresses, hsm, hnumber rfl⟩

/-- The eight answers. -/
lemma exists_answers (r : CompleteRun) : ∃ v p n m rxSize rxOffset txSize txOffset,
    r.answers = [(Sii.venderId, v), (Sii.productCode, p), (Sii.revisionNumber, n),
      (Sii.mailboxProtocol, m), (Sii.standardRxMailboxSize, rxSize),
      (Sii.standardRxMailboxOffset, rxOffset), (Sii.standardTxMailboxSize, txSize),
      (Sii.standardTxMailboxOffset, txOffset)] := by
  have haddresses := r.reads.1
  generalize r.answers = answers at haddresses
  simp only [siiAddresses, List.map_eq_cons_iff, List.map_eq_nil_iff] at haddresses
  obtain ⟨⟨_, v⟩, _, rfl, rfl, ⟨_, p⟩, _, rfl, rfl, ⟨_, n⟩, _, rfl, rfl, ⟨_, m⟩, _, rfl, rfl,
    ⟨_, rxSize⟩, _, rfl, rfl, ⟨_, rxOffset⟩, _, rfl, rfl, ⟨_, txSize⟩, _, rfl, rfl,
    ⟨_, txOffset⟩, _, rfl, rfl, rfl⟩ := haddresses
  exact ⟨v, p, n, m, rxSize, rxOffset, txSize, txOffset, rfl⟩

end CompleteRun

/-- The slots of the mailboxes and of the process data, as a function of the answers. -/
def slotsOf (numberOfSm : UInt8) (mailbox : SyncManager → SyncManagerType)
    (processData : SyncManagerType) (number : UInt8) (size offset : List UInt8) :
    Option SyncManagerType × Option SyncManagerType :=
  if 4 ≤ numberOfSm ∧ SiiData.siiData.val size ≠ 0 then
    (some (mailbox ⟨number, min (firstWord size) maxSmSize, firstWord offset⟩), some processData)
  else if 2 ≤ numberOfSm then (some processData, none)
  else (none, none)

lemma noteSm_rx (numberOfSm : UInt8) (size offset : List UInt8) :
    noteSm numberOfSm (noteSm numberOfSm (Vector.replicate 4 none)
        (Sii.standardRxMailboxSize, size)) (Sii.standardRxMailboxOffset, offset) =
      let rx := slotsOf numberOfSm .mailboxRx .processDataRx 0 size offset
      #v[rx.1, none, rx.2, none] := by
  have hsize (sm : SmTable) : noteSm numberOfSm sm (Sii.standardRxMailboxSize, size) =
      noteSize 0 .mailboxRx .processDataRx numberOfSm sm size := rfl
  rw [hsize, noteSize, slotsOf]
  split_ifs <;> rfl

lemma noteSm_tx (numberOfSm : UInt8) (slot0 slot2 : Option SyncManagerType)
    (size offset : List UInt8) :
    noteSm numberOfSm (noteSm numberOfSm #v[slot0, none, slot2, none]
        (Sii.standardTxMailboxSize, size)) (Sii.standardTxMailboxOffset, offset) =
      let tx := slotsOf numberOfSm .mailboxTx .processDataTx 1 size offset
      #v[slot0, tx.1, slot2, tx.2] := by
  have hsize (sm : SmTable) : noteSm numberOfSm sm (Sii.standardTxMailboxSize, size) =
      noteSize 1 .mailboxTx .processDataTx numberOfSm sm size := rfl
  rw [hsize, noteSize, slotsOf]
  split_ifs <;> rfl

/-- The table of eight answers. -/
lemma foldl_noteSm (numberOfSm : UInt8) (v p n m rxSize rxOffset txSize txOffset : List UInt8) :
    [(Sii.venderId, v), (Sii.productCode, p), (Sii.revisionNumber, n), (Sii.mailboxProtocol, m),
        (Sii.standardRxMailboxSize, rxSize), (Sii.standardRxMailboxOffset, rxOffset),
        (Sii.standardTxMailboxSize, txSize), (Sii.standardTxMailboxOffset, txOffset)].foldl
          (noteSm numberOfSm) (Vector.replicate 4 none) =
      let rx := slotsOf numberOfSm .mailboxRx .processDataRx 0 rxSize rxOffset
      let tx := slotsOf numberOfSm .mailboxTx .processDataTx 1 txSize txOffset
      #v[rx.1, tx.1, rx.2, tx.2] := by
  simp (disch := decide) only [List.foldl_cons, List.foldl_nil, noteSm_of_ne]
  rw [noteSm_rx, noteSm_tx]

/-! ## Words and answers -/

/-- The slots of a mailbox follow the words if the size answer is zero when its word is, and only
then. -/
lemma slotsOf_filter_iff {mailbox : SyncManager → SyncManagerType} {processData : SyncManagerType}
    (hmailbox : ∀ sm, (mailbox sm).isMailbox = true) (hdata : processData.isMailbox = false)
    (numberOfSm number : UInt8) (size offset : List UInt8) :
    (slotsOf numberOfSm mailbox processData number size offset).1.filter
          SyncManagerType.isMailbox =
        mailboxOfWords mailbox number numberOfSm (firstWord size) (firstWord offset) ↔
      (4 ≤ numberOfSm → firstWord size = 0 → SiiData.siiData.val size = 0) := by
  have hother : (if 2 ≤ numberOfSm then (some processData, none) else (none, none)
      : Option SyncManagerType × Option SyncManagerType).1.filter SyncManagerType.isMailbox =
        none := by
    split <;> simp [hdata]
  rw [slotsOf, mailboxOfWords]
  by_cases hfour : 4 ≤ numberOfSm
  · by_cases hvalue : SiiData.siiData.val size = 0
    · have hword : firstWord size = 0 := by rw [firstWord_eq, hvalue]; rfl
      have hsize : ¬ (4 ≤ numberOfSm ∧ SiiData.siiData.val size ≠ 0) := fun h => h.2 hvalue
      have hempty : ¬ (4 ≤ numberOfSm ∧ firstWord size ≠ 0) := fun h => h.2 hword
      rw [if_neg hsize, if_neg hempty, hother]
      simp [hvalue]
    · rw [if_pos ⟨hfour, hvalue⟩, Option.filter_some_pos (hmailbox _)]
      by_cases hword : firstWord size = 0
      · simp [hfour, hvalue, hword]
      · simp [hfour, hword]
  · have hsize : ¬ (4 ≤ numberOfSm ∧ SiiData.siiData.val size ≠ 0) := fun h => hfour h.1
    have hempty : ¬ (4 ≤ numberOfSm ∧ firstWord size ≠ 0) := fun h => hfour h.1
    rw [if_neg hsize, if_neg hempty, hother]
    simp [hfour]

lemma one_le_of_mailboxOfWords {mailbox : SyncManager → SyncManagerType}
    (hinj : Function.Injective mailbox) {number numberOfSm : UInt8} {size offset : UInt16}
    {sm : SyncManager} (h : mailboxOfWords mailbox number numberOfSm size offset = some (mailbox sm)) :
    1 ≤ sm.size := by
  unfold mailboxOfWords at h
  split_ifs at h with hcond
  obtain rfl := hinj (Option.some.inj h)
  have hpos : 1 ≤ size := by
    rw [UInt16.le_iff_toNat_le, UInt16.toNat_one, Nat.one_le_iff_ne_zero]
    exact fun hzero => hcond.2 (UInt16.toNat_inj.mp hzero)
  change 1 ≤ if size ≤ maxSmSize then size else maxSmSize
  split
  · exact hpos
  · decide

lemma slotsOf_congr {numberOfSm : UInt8} {size size' offset offset' : List UInt8}
    (hsize : firstWord size = firstWord size') (hoffset : firstWord offset = firstWord offset')
    (h : 4 ≤ numberOfSm → firstWord size = 0 → SiiData.siiData.val size = 0)
    (h' : 4 ≤ numberOfSm → firstWord size' = 0 → SiiData.siiData.val size' = 0)
    (mailbox : SyncManager → SyncManagerType) (processData : SyncManagerType) (number : UInt8) :
    slotsOf numberOfSm mailbox processData number size offset =
      slotsOf numberOfSm mailbox processData number size' offset' := by
  have hzero {data : List UInt8} (h : SiiData.siiData.val data = 0) : firstWord data = 0 := by
    rw [firstWord_eq, h]
    rfl
  have hiff : (4 ≤ numberOfSm ∧ SiiData.siiData.val size ≠ 0) ↔
      (4 ≤ numberOfSm ∧ SiiData.siiData.val size' ≠ 0) := by
    refine and_congr_right fun hfour => not_congr ⟨fun hvalue => ?_, fun hvalue => ?_⟩
    · exact h' hfour (hsize ▸ hzero hvalue)
    · exact h hfour (hsize ▸ hzero hvalue)
  rw [slotsOf, slotsOf, hsize, hoffset]
  exact if_congr hiff rfl rfl

namespace CompleteRun

section
variable {r : CompleteRun} {v p n m rxSize rxOffset txSize txOffset : List UInt8}

lemma sizesAreWords_iff (hanswers : r.answers = [(Sii.venderId, v), (Sii.productCode, p),
      (Sii.revisionNumber, n), (Sii.mailboxProtocol, m), (Sii.standardRxMailboxSize, rxSize),
      (Sii.standardRxMailboxOffset, rxOffset), (Sii.standardTxMailboxSize, txSize),
      (Sii.standardTxMailboxOffset, txOffset)]) :
    r.SizesAreWords ↔
      (4 ≤ r.info.numberOfSm → firstWord rxSize = 0 → SiiData.siiData.val rxSize = 0) ∧
        (4 ≤ r.info.numberOfSm → firstWord txSize = 0 → SiiData.siiData.val txSize = 0) := by
  rw [SizesAreWords, hanswers]
  constructor
  · intro h
    exact ⟨fun hfour => h hfour (Sii.standardRxMailboxSize, rxSize) (by simp) (.inl rfl),
      fun hfour => h hfour (Sii.standardTxMailboxSize, txSize) (by simp) (.inr rfl)⟩
  · rintro ⟨hrx, htx⟩ hfour answer hmem haddress
    simp only [List.mem_cons, List.not_mem_nil, or_false] at hmem
    rcases hmem with rfl | rfl | rfl | rfl | rfl | rfl | rfl | rfl
    case inr.inr.inr.inr.inl => exact hrx hfour
    case inr.inr.inr.inr.inr.inr.inl => exact htx hfour
    all_goals rcases haddress with h | h <;> cases h

end

/-- The mailboxes of a run follow the words exactly if the size answers are zero with their words. -/
lemma followsWords_iff (r : CompleteRun) : r.FollowsWords ↔ r.SizesAreWords := by
  obtain ⟨-, hsm, -⟩ := r.reads
  obtain ⟨v, p, n, m, rxSize, rxOffset, txSize, txOffset, hanswers⟩ := r.exists_answers
  rw [hanswers, foldl_noteSm] at hsm
  have hrx : r.info.mailboxAt 0 = (slotsOf r.info.numberOfSm .mailboxRx .processDataRx 0 rxSize
      rxOffset).1.filter SyncManagerType.isMailbox := by
    rw [SlaveInfo.mailboxAt, hsm]
    rfl
  have htx : r.info.mailboxAt 1 = (slotsOf r.info.numberOfSm .mailboxTx .processDataTx 1 txSize
      txOffset).1.filter SyncManagerType.isMailbox := by
    rw [SlaveInfo.mailboxAt, hsm]
    rfl
  have hwords : r.wordAt Sii.standardRxMailboxSize = firstWord rxSize ∧
      r.wordAt Sii.standardRxMailboxOffset = firstWord rxOffset ∧
      r.wordAt Sii.standardTxMailboxSize = firstWord txSize ∧
      r.wordAt Sii.standardTxMailboxOffset = firstWord txOffset := by
    refine ⟨?_, ?_, ?_, ?_⟩ <;> rw [wordAt, hanswers] <;> rfl
  obtain ⟨hrxSize, hrxOffset, htxSize, htxOffset⟩ := hwords
  have hrxIff := slotsOf_filter_iff (fun sm => rfl : ∀ sm, (SyncManagerType.mailboxRx sm).isMailbox =
    true) (rfl : SyncManagerType.processDataRx.isMailbox = false) r.info.numberOfSm 0 rxSize rxOffset
  have htxIff := slotsOf_filter_iff (fun sm => rfl : ∀ sm, (SyncManagerType.mailboxTx sm).isMailbox =
    true) (rfl : SyncManagerType.processDataTx.isMailbox = false) r.info.numberOfSm 1 txSize txOffset
  rw [← hrx, ← hrxSize, ← hrxOffset] at hrxIff
  rw [← htx, ← htxSize, ← htxOffset] at htxIff
  rw [sizesAreWords_iff hanswers, ← hrxSize, ← htxSize, ← hrxIff, ← htxIff]
  constructor
  · exact fun h => ⟨h.rx, h.tx⟩
  · rintro ⟨hrx, htx⟩
    refine ⟨hrx, htx, ?_⟩
    rintro sm (hsm | hsm)
    · exact one_le_of_mailboxOfWords (fun _ _ => SyncManagerType.mailboxRx.inj) (hrx.symm.trans hsm)
    · exact one_le_of_mailboxOfWords (fun _ _ => SyncManagerType.mailboxTx.inj) (htx.symm.trans hsm)

/-- **The sync managers follow the words.**  A complete run asks for eight words; its mailboxes
follow them exactly if the size answers are zero as a whole with their words; and two such runs that
have seen the same words have the same sync managers. -/
theorem smTable_followsWords (r r' : CompleteRun) :
    r.answers.map Prod.fst = siiAddresses ∧ (r.FollowsWords ↔ r.SizesAreWords) ∧
      (r.AgreesWith r' → r.SizesAreWords → r'.SizesAreWords → r.info.sm = r'.info.sm) := by
  refine ⟨r.reads.1, r.followsWords_iff, fun ⟨hinformation, hwords⟩ hsizes hsizes' => ?_⟩
  obtain ⟨-, hsm, data, hdata, hnumber⟩ := r.reads
  obtain ⟨-, hsm', data', hdata', hnumber'⟩ := r'.reads
  have hsame : r'.info.numberOfSm = r.info.numberOfSm := by
    rw [hdata, hdata'] at hinformation
    cases hinformation
    rw [hnumber, hnumber']
  obtain ⟨v, p, n, m, rxSize, rxOffset, txSize, txOffset, hanswers⟩ := r.exists_answers
  obtain ⟨v', p', n', m', rxSize', rxOffset', txSize', txOffset', hanswers'⟩ := r'.exists_answers
  rw [sizesAreWords_iff hanswers] at hsizes
  rw [sizesAreWords_iff hanswers', hsame] at hsizes'
  rw [hanswers, hanswers'] at hwords
  rw [hanswers, foldl_noteSm] at hsm
  rw [hanswers', foldl_noteSm, hsame] at hsm'
  have hword {data data' : List UInt8} (h : data.take 2 = data'.take 2) :
      firstWord data = firstWord data' := by
    rw [firstWord, firstWord, Field.val_eq_of_take_eq h (by decide)]
  simp only [List.forall₂_cons, List.forall₂_nil_right_iff, and_true] at hwords
  obtain ⟨-, -, -, -, hrxSize, hrxOffset, htxSize, htxOffset⟩ := hwords
  rw [hsm, hsm', slotsOf_congr (hword hrxSize) (hword hrxOffset) hsizes.1 hsizes'.1,
    slotsOf_congr (hword htxSize) (hword htxOffset) hsizes.2 hsizes'.2]

end CompleteRun

/-! ## Two EEPROMs with the same words -/

/-- A slave with four sync managers and an EEPROM that gives the same answer at every address. -/
def eepromReply (answer : List UInt8) : Reply where
  respond pdu :=
    { pdu with
      wkc := 1
      data :=
        if pdu.command.ado = SiiData.address then answer
        else if pdu.command.ado = DlStatus.address then [1, 0]
        else if pdu.command.ado = AlStatus.address then [1, 0, 0, 0]
        else if pdu.command.ado = DlInformation.address then [0, 0, 0, 0, 2, 4, 1, 0, 0, 0]
        else List.replicate 16 0 }
  time := 0

/-- The replies of an EEPROM with the word `0x1080` and, for the size of the first mailbox, any
answer. -/
def eepromReplies (rxSize : List UInt8) : List Reply :=
  List.replicate 46 (eepromReply [0x80, 0x10, 0, 0, 0, 0, 0, 0]) ++
    List.replicate 7 (eepromReply rxSize) ++
    List.replicate 33 (eepromReply [0x80, 0x10, 0, 0, 0, 0, 0, 0])

/-- The words of an EEPROM whose receive mailbox has this size. -/
def eepromAnswers (rxSize : List UInt8) : List (UInt16 × List UInt8) :=
  siiAddresses.map fun address =>
    (address, if address = Sii.standardRxMailboxSize then rxSize
      else [0x80, 0x10, 0, 0, 0, 0, 0, 0])

/-- A new task with a socket of 24 bytes. -/
def firstSlave : Driven SlaveInitTask where
  task := SlaveInitTask.new.start 0
  socket := .store none (List.replicate 24 0)

/-- The task ends with a slave after these replies. -/
def completes (replies : List Reply) : Bool :=
  match Transition.run Driven.step firstSlave replies with
  | .ok last =>
    match last.task.waitResult.1 with
    | some (.ok (some _)) => true
    | _ => false
  | .error _ => false

lemma exists_completeRun {replies : List Reply} (h : completes replies = true) :
    ∃ r : CompleteRun, r.first = firstSlave ∧ r.replies = replies := by
  unfold completes at h
  split at h
  · next last hrun =>
      split at h
      · next info hdone =>
          exact ⟨⟨firstSlave, replies, last, info, ⟨.new, 0, by rintro reader ⟨⟩, rfl⟩, hrun, hdone⟩,
            rfl, rfl⟩
      · cases h
  · cases h

/-- **The same words, two tables.**  The upper bytes of an answer make a mailbox of no bytes. -/
theorem sameWords_differ :
    ∃ r r' : CompleteRun, r.AgreesWith r' ∧ r.info.sm ≠ r'.info.sm ∧ ¬ r.FollowsWords := by
  have hcompletes : completes (eepromReplies [0, 0, 1, 0, 0, 0, 0, 0]) = true := by decide +kernel
  have hcompletes' : completes (eepromReplies [0, 0, 0, 0, 0, 0, 0, 0]) = true := by decide +kernel
  obtain ⟨r, hfirst, hreplies⟩ := exists_completeRun hcompletes
  obtain ⟨r', hfirst', hreplies'⟩ := exists_completeRun hcompletes'
  have hanswers : r.answers = eepromAnswers [0, 0, 1, 0, 0, 0, 0, 0] := by
    rw [CompleteRun.answers, CompleteRun.seen, hfirst, hreplies]
    decide +kernel
  have hanswers' : r'.answers = eepromAnswers [0, 0, 0, 0, 0, 0, 0, 0] := by
    rw [CompleteRun.answers, CompleteRun.seen, hfirst', hreplies']
    decide +kernel
  have hinformation : r.seen.filterMap dlInformation = [[0, 0, 0, 0, 2, 4, 1, 0, 0, 0]] := by
    rw [CompleteRun.seen, hfirst, hreplies]
    decide +kernel
  have hinformation' : r'.seen.filterMap dlInformation = [[0, 0, 0, 0, 2, 4, 1, 0, 0, 0]] := by
    rw [CompleteRun.seen, hfirst', hreplies']
    decide +kernel
  obtain ⟨-, hsm, data, hdata, hnumber⟩ := r.reads
  obtain ⟨-, hsm', data', hdata', hnumber'⟩ := r'.reads
  cases hinformation.symm.trans hdata
  cases hinformation'.symm.trans hdata'
  refine ⟨r, r', ⟨hinformation.trans hinformation'.symm, ?_⟩, ?_, ?_⟩
  · rw [hanswers, hanswers']
    decide +kernel
  · rw [hsm, hsm', hnumber, hnumber', hanswers, hanswers']
    decide +kernel
  · rw [r.followsWords_iff, CompleteRun.SizesAreWords, hnumber, hanswers]
    decide +kernel

end EtherCat

import EtherCat.Foundation.Program
import EtherCat.Master.Error
import EtherCat.Slave.Network

/-!
# Access to the slaves

The configuration of the slaves is a program whose questions are the blocking calls of the socket
interface.  The answer to a call is its result, or the panic in which it ends.
-/

namespace EtherCat

open Rust

/-- The blocking calls that the configuration makes. -/
inductive Access
  | readSdo (slave : Slave) (index : UInt16) (subIndex : UInt8)
  | writeSdo (slave : Slave) (index : UInt16) (subIndex : UInt8) (data : List UInt8)
  | readRegister (targetSlave : TargetSlave) (registerAddress : UInt16) (dataSize : ℕ)
  | writeRegister (targetSlave : TargetSlave) (registerAddress : UInt16) (data : List UInt8)
  deriving DecidableEq, Repr

/-- What a call returns. -/
def Access.Answer : Access → Type
  | readSdo .. => Exec (Except (TaskError SdoErrorKind) (List UInt8))
  | writeSdo .. => Exec (Except (TaskError SdoErrorKind) Unit)
  | readRegister .. => Exec (Except (TaskError Unit) (List UInt8))
  | writeRegister .. => Exec (Except (TaskError Unit) Unit)

/-- The call has returned `Ok`. -/
def Access.Succeeds : (access : Access) → access.Answer → Prop
  | readSdo .., (answer : Exec (Except (TaskError SdoErrorKind) (List UInt8))) =>
    ∃ data, answer = .ok (.ok data)
  | writeSdo .., (answer : Exec (Except (TaskError SdoErrorKind) Unit)) => answer = .ok (.ok ())
  | readRegister .., (answer : Exec (Except (TaskError Unit) (List UInt8))) =>
    ∃ data, answer = .ok (.ok data)
  | writeRegister .., (answer : Exec (Except (TaskError Unit) Unit)) => answer = .ok (.ok ())

/-- The answer of an environment in which every call succeeds and every read returns `data`. -/
def Access.okWith (data : List UInt8) : (access : Access) → access.Answer
  | readSdo .. => (.ok (.ok data) : Exec (Except (TaskError SdoErrorKind) (List UInt8)))
  | writeSdo .. => (.ok (.ok ()) : Exec (Except (TaskError SdoErrorKind) Unit))
  | readRegister .. => (.ok (.ok data) : Exec (Except (TaskError Unit) (List UInt8)))
  | writeRegister .. => (.ok (.ok ()) : Exec (Except (TaskError Unit) Unit))

lemma Access.succeeds_okWith (data : List UInt8) (access : Access) :
    access.Succeeds (Access.okWith data access) := by
  cases access with
  | readSdo => exact ⟨data, rfl⟩
  | writeSdo => rfl
  | readRegister => exact ⟨data, rfl⟩
  | writeRegister => rfl

/-- The slave that an SDO transfer is addressed to. -/
def Access.sdoSlave : Access → Option Slave
  | readSdo slave _ _ => some slave
  | writeSdo slave _ _ _ => some slave
  | _ => none

/-- A step of the configuration that changes something of the type `S` in place. -/
abbrev Configure (S α : Type) : Type := Method Access Access.Answer S ConfigError α

namespace Configure

variable {α β S : Type}

/-- `map_err` and `?`: an error of a call is returned as a `ConfigError`. -/
def orReturn {E : Type} (slave : Slave) (kind : E → ConfigErrorKind) :
    Exec (Except E α) → Configure S α
  | .ok (.ok a) => pure a
  | .ok (.error e) => .throw ⟨slave.info.slaveAddress, kind e⟩
  | .error e => .ofExec (.error e)

/-- `sif.read_sdo`, which counts the message in the slave. -/
def readSdo (kind : SdoError → ConfigErrorKind) (index : UInt16) (subIndex : UInt8) :
    Configure Slave (List UInt8) := do
  let slave ← .get
  let answer ← .ask (Access.readSdo slave index subIndex)
  .modify fun slave => slave.incrementMbCount.2
  orReturn slave (fun e => kind ⟨index, subIndex, e⟩) answer

/-- `sif.write_sdo`, which counts the message in the slave. -/
def writeSdo (kind : SdoError → ConfigErrorKind) (index : UInt16) (subIndex : UInt8)
    (data : List UInt8) : Configure Slave Unit := do
  let slave ← .get
  let answer ← .ask (Access.writeSdo slave index subIndex data)
  .modify fun slave => slave.incrementMbCount.2
  orReturn slave (fun e => kind ⟨index, subIndex, e⟩) answer

/-- `sif.read_register`.  The address in the error is given by itself. -/
def readRegister (kind : RegisterError → ConfigErrorKind) (errorAddress registerAddress : UInt16)
    (dataSize : ℕ) : Configure Slave (List UInt8) := do
  let slave ← .get
  let answer ← .ask (Access.readRegister (.single slave.info.slaveAddress) registerAddress dataSize)
  orReturn slave (fun e => kind ⟨errorAddress, e⟩) answer

/-- `sif.write_register`. -/
def writeRegister (kind : RegisterError → ConfigErrorKind) (registerAddress : UInt16)
    (data : List UInt8) : Configure Slave Unit := do
  let slave ← .get
  let answer ← .ask (Access.writeRegister (.single slave.info.slaveAddress) registerAddress data)
  orReturn slave (fun e => kind ⟨registerAddress, e⟩) answer

/-- `sif.write_register` with an `unwrap`. -/
def writeRegisterUnwrap (registerAddress : UInt16) (data : List UInt8) :
    Configure Slave Unit := do
  let slave ← .get
  let answer ← .ask (Access.writeRegister (.single slave.info.slaveAddress) registerAddress data)
  match answer with
  | .ok (.ok ()) => pure ()
  | .ok (.error _) => .ofExec (.error .unwrap)
  | .error e => .ofExec (.error e)

lemma follows_writeRegister (kind : RegisterError → ConfigErrorKind) (registerAddress : UInt16)
    (data : List UInt8) (slave : Slave) :
    Method.Follows Access.Succeeds (writeRegister kind registerAddress data) slave
      [.writeRegister (.single slave.info.slaveAddress) registerAddress data] () slave := by
  refine ⟨[], rfl, fun answer => ⟨fun hgood => ?_, fun hbad => ?_⟩⟩
  · obtain rfl : answer = .ok (.ok ()) := hgood
    exact ⟨rfl, rfl⟩
  · rcases answer with e | (e | ⟨⟩)
    · trivial
    · exact ⟨_, rfl⟩
    · exact absurd rfl hbad

/-! ## Calls that return -/

section Returns

open Method

variable {σ : Type} {h : σ → (access : Access) → access.Answer × σ} {w w' : σ}

lemma returns_readSdo (kind : SdoError → ConfigErrorKind) {index : UInt16} {subIndex : UInt8}
    {data : List UInt8} {slave : Slave}
    (hop : h w (.readSdo slave index subIndex) =
      ((.ok (.ok data) : Exec (Except (TaskError SdoErrorKind) (List UInt8))), w')) :
    Returns h (readSdo kind index subIndex) slave w [.readSdo slave index subIndex] data
      slave.incrementMbCount.2 w' :=
  (returns_get slave w).bind_nil
    ((returns_ask hop slave).bind ((returns_modify _ slave w').bind (returns_pure data _ w')))

lemma throws_readSdo (kind : SdoError → ConfigErrorKind) {index : UInt16} {subIndex : UInt8}
    {e : TaskError SdoErrorKind} {slave : Slave}
    (hop : h w (.readSdo slave index subIndex) =
      ((.ok (.error e) : Exec (Except (TaskError SdoErrorKind) (List UInt8))), w')) :
    Throws h (readSdo kind index subIndex) slave w :=
  (returns_get slave w).bind_throws ((returns_ask hop slave).bind_throws
    ((returns_modify _ slave w').bind_throws (throws_throw _ _ w')))

lemma returns_writeSdo (kind : SdoError → ConfigErrorKind) {index : UInt16} {subIndex : UInt8}
    {data : List UInt8} {slave : Slave}
    (hop : h w (.writeSdo slave index subIndex data) =
      ((.ok (.ok ()) : Exec (Except (TaskError SdoErrorKind) Unit)), w')) :
    Returns h (writeSdo kind index subIndex data) slave w [.writeSdo slave index subIndex data] ()
      slave.incrementMbCount.2 w' :=
  (returns_get slave w).bind_nil
    ((returns_ask hop slave).bind ((returns_modify _ slave w').bind (returns_pure () _ w')))

lemma returns_writeRegisterUnwrap {registerAddress : UInt16} {data : List UInt8} {slave : Slave}
    (hop : h w (.writeRegister (.single slave.info.slaveAddress) registerAddress data) =
      ((.ok (.ok ()) : Exec (Except (TaskError Unit) Unit)), w')) :
    Returns h (writeRegisterUnwrap registerAddress data) slave w
      [.writeRegister (.single slave.info.slaveAddress) registerAddress data] () slave w' :=
  (returns_get slave w).bind_nil ((returns_ask hop slave).bind (returns_pure () slave w'))

end Returns

/-! ## What the calls keep -/

section Keeps

open Method

variable {P : Access → Prop} {I : Slave → Prop}

lemma keeps_orReturn {E : Type} (slave : Slave) (kind : E → ConfigErrorKind) {J : S → Prop}
    (answer : Exec (Except E α)) : Keeps P J (fun _ => True) (orReturn slave kind answer) := by
  rcases answer with e | (e | a)
  · exact keeps_ofExec fun _ _ => trivial
  · exact keeps_throw _
  · exact keeps_pure trivial

lemma keeps_readSdo {kind : SdoError → ConfigErrorKind} {index : UInt16} {subIndex : UInt8}
    (hP : ∀ slave, I slave → P (.readSdo slave index subIndex))
    (hI : ∀ slave, I slave → I slave.incrementMbCount.2) :
    Keeps P I (fun _ => True) (readSdo kind index subIndex) := by
  refine keeps_get.bind fun slave hslave => ?_
  refine (keeps_ask (hP slave hslave)).bind_any fun answer => ?_
  refine (keeps_modify hI).bind_any fun _ => ?_
  exact keeps_orReturn slave _ answer

lemma keeps_writeSdo {kind : SdoError → ConfigErrorKind} {index : UInt16} {subIndex : UInt8}
    {data : List UInt8} (hP : ∀ slave, I slave → P (.writeSdo slave index subIndex data))
    (hI : ∀ slave, I slave → I slave.incrementMbCount.2) :
    Keeps P I (fun _ => True) (writeSdo kind index subIndex data) := by
  refine keeps_get.bind fun slave hslave => ?_
  refine (keeps_ask (hP slave hslave)).bind_any fun answer => ?_
  refine (keeps_modify hI).bind_any fun _ => ?_
  exact keeps_orReturn slave _ answer

lemma keeps_readRegister {kind : RegisterError → ConfigErrorKind}
    {errorAddress registerAddress : UInt16} {dataSize : ℕ}
    (hP : ∀ slave, I slave →
      P (.readRegister (.single slave.info.slaveAddress) registerAddress dataSize)) :
    Keeps P I (fun _ => True) (readRegister kind errorAddress registerAddress dataSize) := by
  refine keeps_get.bind fun slave hslave => ?_
  refine (keeps_ask (hP slave hslave)).bind_any fun answer => ?_
  exact keeps_orReturn slave _ answer

lemma keeps_writeRegister {kind : RegisterError → ConfigErrorKind} {registerAddress : UInt16}
    {data : List UInt8}
    (hP : ∀ slave, I slave →
      P (.writeRegister (.single slave.info.slaveAddress) registerAddress data)) :
    Keeps P I (fun _ => True) (writeRegister kind registerAddress data) := by
  refine keeps_get.bind fun slave hslave => ?_
  refine (keeps_ask (hP slave hslave)).bind_any fun answer => ?_
  exact keeps_orReturn slave _ answer

lemma keeps_writeRegisterUnwrap {registerAddress : UInt16} {data : List UInt8}
    (hP : ∀ slave, I slave →
      P (.writeRegister (.single slave.info.slaveAddress) registerAddress data)) :
    Keeps P I (fun _ => True) (writeRegisterUnwrap registerAddress data) := by
  refine keeps_get.bind fun slave hslave => ?_
  refine (keeps_ask (hP slave hslave)).bind_any fun answer => ?_
  rcases answer with e | (e | ⟨⟩)
  · exact keeps_ofExec fun _ _ => trivial
  · exact keeps_ofExec fun _ _ => trivial
  · exact keeps_pure trivial

end Keeps

/-! ## Loops over the slaves -/

/-- The loop over the slots of a network, from the first slave on until one returns an error. -/
def forSlots (body : SlaveConfig → Configure Slave Unit) :
    List (Option Slave × SlaveConfig) →
      Program Access Access.Answer
        (Except ConfigError Unit × List (Option Slave × SlaveConfig))
  | [] => .ret (.ok (), [])
  | (none, config) :: slots => do
    let (result, slots) ← forSlots body slots
    .ret (result, (none, config) :: slots)
  | (some slave, config) :: slots => do
    let (result, slave) ← body config slave
    match result with
    | .error e => .ret (.error e, (some slave, config) :: slots)
    | .ok () => do
      let (result, slots) ← forSlots body slots
      .ret (result, (some slave, config) :: slots)

/-- `for (slave, config) in network.slaves_mut()`, with a body that leaves the configuration. -/
def forSlaves (body : SlaveConfig → Configure Slave Unit) : Configure Network Unit :=
  fun network => do
    let (result, slots) ← forSlots body network.slaves
    .ret (result, { network with slaves := slots })

/-- What a body does to a slave, in every slot. -/
def SlotRel (R : Slave → Slave → Prop) (slot slot' : Option Slave × SlaveConfig) : Prop :=
  slot'.2 = slot.2 ∧ Option.Rel R slot.1 slot'.1

lemma forall₂_slotRel_refl {R : Slave → Slave → Prop} (hR : ∀ slave, R slave slave)
    (slots : List (Option Slave × SlaveConfig)) : List.Forall₂ (SlotRel R) slots slots := by
  refine List.forall₂_same.mpr fun slot _ => ⟨rfl, ?_⟩
  rcases slot.1 with _ | slave
  · exact .none
  · exact .some (hR slave)

lemma exists_mem_of_slotRel {R : Slave → Slave → Prop}
    {slots slots' : List (Option Slave × SlaveConfig)} (h : List.Forall₂ (SlotRel R) slots slots')
    {slot' : Option Slave × SlaveConfig} (hmem : slot' ∈ slots') :
    ∃ slot ∈ slots, SlotRel R slot slot' := by
  induction h with
  | nil => cases hmem
  | @cons slot slot₁ slots slots' hslot hslots ih =>
      rcases List.mem_cons.mp hmem with rfl | hmem
      · exact ⟨slot, List.mem_cons_self .., hslot⟩
      · obtain ⟨slot, hslot, hrel⟩ := ih hmem
        exact ⟨slot, List.mem_cons_of_mem _ hslot, hrel⟩

lemma exists_of_slotRel {R : Slave → Slave → Prop}
    {slots slots' : List (Option Slave × SlaveConfig)} (h : List.Forall₂ (SlotRel R) slots slots')
    {slave' : Slave} (hslave' : slave' ∈ slavesOf slots') :
    ∃ slave ∈ slavesOf slots, R slave slave' := by
  obtain ⟨config', hmem⟩ := mem_slavesOf.mp hslave'
  obtain ⟨⟨slave | slave, config⟩, hslot, -, hrel⟩ := exists_mem_of_slotRel h hmem
  · cases hrel
  · refine ⟨slave, mem_slavesOf.mpr ⟨config, hslot⟩, ?_⟩
    rcases hrel with hrel | -
    exact hrel

lemma exists_slotRel_of_mem {R : Slave → Slave → Prop}
    {slots slots' : List (Option Slave × SlaveConfig)} (h : List.Forall₂ (SlotRel R) slots slots')
    {slave : Slave} (hslave : slave ∈ slavesOf slots) : ∃ slave' ∈ slavesOf slots', R slave slave' := by
  obtain ⟨config, hmem⟩ := mem_slavesOf.mp hslave
  obtain ⟨i, hi, hget⟩ := List.mem_iff_getElem.mp hmem
  obtain ⟨hlength, hslots⟩ := List.forall₂_iff_get.mp h
  have hrel := hslots i hi (hlength ▸ hi)
  rw [List.get_eq_getElem, hget] at hrel
  rcases hslot : slots'.get ⟨i, hlength ▸ hi⟩ with ⟨slave' | slave', config'⟩
  · rw [hslot] at hrel
    cases hrel.2
  · rw [hslot] at hrel
    refine ⟨slave', mem_slavesOf.mpr ⟨config', ?_⟩, ?_⟩
    · rw [← hslot]
      exact List.get_mem _ _
    · rcases hrel.2 with hrel | -
      exact hrel

/-- The loop does to every slave what its body does, or nothing. -/
lemma forSlots_ensures {P : Access → Prop} {R : Slave → Slave → Prop}
    {body : SlaveConfig → Configure Slave Unit} (hR : ∀ slave, R slave slave)
    {slots : List (Option Slave × SlaveConfig)}
    (hbody : ∀ slave config, (some slave, config) ∈ slots →
      (body config slave).Ensures P fun r => R slave r.2) :
    (forSlots body slots).Ensures P fun r => List.Forall₂ (SlotRel R) slots r.2 := by
  induction slots with
  | nil => exact .nil
  | cons slot slots ih =>
      have hrest := ih fun slave config h => hbody slave config (List.mem_cons_of_mem _ h)
      obtain ⟨slave | slave, config⟩ := slot
      · exact hrest.bind fun r hr => .cons ⟨rfl, .none⟩ hr
      · refine (hbody slave config (List.mem_cons_self ..)).bind fun r hr => ?_
        obtain ⟨result, slave'⟩ := r
        rcases result with e | ⟨⟩
        · exact .cons ⟨rfl, .some hr⟩ (forall₂_slotRel_refl hR slots)
        · exact hrest.bind fun r hrest => .cons ⟨rfl, .some hr⟩ hrest

end Configure

end EtherCat

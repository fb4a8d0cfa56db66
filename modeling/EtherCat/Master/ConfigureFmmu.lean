import EtherCat.Frame.Ethercat
import EtherCat.Master.SlaveAccess
import EtherCat.Register.Datalink

/-!
# Configuration for operation: FMMUs

The FMMUs of all slaves get consecutive ranges of the logical address space
(`set_logical_address_to_fmmu_config`), and their registers are written (`configure_fmmu`).
-/

namespace EtherCat

open Rust Rust.Exec BitField Configure

/-- Where the image begins. -/
def logicalStartAddress : UInt32 := 0x1000

/-! ## Logical addresses -/

/-- The variables of the loop over the slots of a slave. -/
structure FmmuScan where
  bitAddress : ℕ
  hasTxData : Bool
  hasRxData : Bool

/-- The body of the loop over the slots: a slot that maps no bits is left as it is. -/
def assignFmmu (scan : FmmuScan) : Option FmmuConfig → Exec (Option FmmuConfig × FmmuScan)
  | none => .ok (none, scan)
  | some fmmu =>
    if fmmu.bitLength = 0 then
      .ok (some fmmu, scan)
    else do
      let fmmu := (fmmu.setLogicalAddress (some (.ofNat (scan.bitAddress / 8)))).setStartBit
        (.ofNat (scan.bitAddress % 8))
      let bitAddress ← addUpTo 64 scan.bitAddress fmmu.bitLength.toNat
      .ok (some fmmu,
        { bitAddress := bitAddress
          hasTxData := scan.hasTxData || fmmu.direction = .input
          hasRxData := scan.hasRxData || fmmu.direction = .output })

/-- The loop over the three slots. -/
def assignFmmus (fmmu : Vector (Option FmmuConfig) 3) (bitAddress : ℕ) :
    Exec (Vector (Option FmmuConfig) 3 × FmmuScan) := do
  let (fmmu0, scan) ← assignFmmu ⟨bitAddress, false, false⟩ (fmmu.get 0)
  let (fmmu1, scan) ← assignFmmu scan (fmmu.get 1)
  let (fmmu2, scan) ← assignFmmu scan (fmmu.get 2)
  .ok (#v[fmmu0, fmmu1, fmmu2], scan)

/-- What a slave adds to the expected working counter. -/
def FmmuScan.wkc (scan : FmmuScan) (expectedWkc : ℕ) : Exec ℕ := do
  let expectedWkc ← if scan.hasTxData then addUpTo 16 expectedWkc 1 else .ok expectedWkc
  if scan.hasRxData then addUpTo 16 expectedWkc 2 else .ok expectedWkc

/-- The loop over the slaves, with the next bit address and the expected working counter. -/
def assignSlots : List (Option Slave × SlaveConfig) → ℕ → ℕ →
    Exec (List (Option Slave × SlaveConfig) × ℕ × ℕ)
  | [], bitAddress, expectedWkc => .ok ([], bitAddress, expectedWkc)
  | (none, config) :: slots, bitAddress, expectedWkc => do
    let (slots, last) ← assignSlots slots bitAddress expectedWkc
    .ok ((none, config) :: slots, last)
  | (some slave, config) :: slots, bitAddress, expectedWkc => do
    let (fmmu, scan) ← assignFmmus slave.fmmu bitAddress
    let expectedWkc ← scan.wkc expectedWkc
    let (slots, last) ← assignSlots slots scan.bitAddress expectedWkc
    .ok ((some { slave with fmmu := fmmu }, config) :: slots, last)

/-- The image size and the expected working counter. -/
def setLogicalAddressToFmmuConfig (network : Network) : Exec ((ℕ × ℕ) × Network) := do
  let start ← mulUpTo 32 logicalStartAddress.toNat 8
  let (slots, bitAddress, expectedWkc) ← assignSlots network.slaves start 0
  let size ←
    if bitAddress % 8 = 0 then sub (bitAddress / 8) logicalStartAddress.toNat
    else sub (bitAddress / 8 + 1) logicalStartAddress.toNat
  assert (size ≤ maxPduDatagram)
  .ok ((size, expectedWkc), { network with slaves := slots })

/-! ## Registers -/

/-- The register of an FMMU. -/
def FmmuConfig.register (fmmu : FmmuConfig) (logicalAddress : UInt32) (byteLength endBit : ℕ) :
    Exec (List UInt8) :=
  Field.setAll (List.replicate FmmuRegister.size 0)
    [(FmmuRegister.logicalStartAddress, logicalAddress.toNat), (FmmuRegister.length, byteLength),
      (FmmuRegister.logicalEndBit, endBit),
      (FmmuRegister.physicalStartAddress, fmmu.physicalAddress.toNat),
      (FmmuRegister.physicalStartBit, 0),
      (FmmuRegister.readEnable, if fmmu.direction = .input then 1 else 0),
      (FmmuRegister.writeEnable, if fmmu.direction = .output then 1 else 0),
      (FmmuRegister.enable, 1)]

/-- The body of the loop over the slots of a slave. -/
def configureSlot (i : Fin 3) : Configure Slave Unit := do
  let slave ← .get
  match slave.fmmu.get i with
  | none => pure ()
  | some fmmu =>
    match fmmu.logicalAddress with
    | none => pure ()
    | some logicalAddress => do
      let byteLength ← .ofExec fmmu.byteLength
      if byteLength = 0 then
        pure ()
      else do
        let endBit ← .ofExec fmmu.endBit
        let register ← .ofExec (fmmu.register logicalAddress byteLength endBit)
        writeRegister .setFmmuRegister
          (FmmuRegister.address + .ofNat i.val * .ofNat FmmuRegister.size) register

/-- The body of the loop over the slaves. -/
def configureFmmuSlave (_slaveConfig : SlaveConfig) : Configure Slave Unit := do
  configureSlot 0
  configureSlot 1
  configureSlot 2

/-- The image size and the expected working counter. -/
def configureFmmu : Configure Network (ℕ × ℕ) := do
  let network ← .get
  let ((imageSize, expectedWkc), network) ← .ofExec (setLogicalAddressToFmmuConfig network)
  .modify fun _ => network
  forSlaves configureFmmuSlave
  pure (imageSize, expectedWkc)

end EtherCat

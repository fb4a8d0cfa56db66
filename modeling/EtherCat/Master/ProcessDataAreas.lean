import EtherCat.Master.ConfigureSlaves
import EtherCat.Master.ReadDictionary
import EtherCat.Task.ProcessDataRam

/-!
# Where the process data of a slave lies

`set_pdo_to_sm` gives each direction three buffers, the inputs behind the outputs, from the address
on that the initialisation has computed.  It does not compare their length with the memory that
there is, and it panics on objects that are too short or have values it does not expect
(`programsAreas_iff`).
-/

namespace EtherCat

open Rust Rust.Exec Rust.Method BitField Configure Layout

/-- The three buffers that a write of the control register gives to a sync manager. -/
def Access.area (smNumber : UInt8) : Access → Option Range
  | .writeRegister _ address data =>
    if address = SyncManagerControl.address + 0x08 * smNumber.toUInt16 then
      some ⟨SyncManagerControl.physicalStartAddress.val data,
        3 * SyncManagerControl.length.val data⟩
    else none
  | _ => none

/-- The table of a slave with both mailboxes. -/
def mailboxTable (rx tx : SyncManager) : Vector (Option SyncManagerType) 4 :=
  #v[some (.mailboxRx rx), some (.mailboxTx tx), some .processDataRx, some .processDataTx]

section

variable {σ : Type} {h : σ → (access : Access) → access.Answer × σ} {w : σ} {info : SlaveInfo}
  {od : Dictionary} {rx tx : SyncManager} {outputBits inputBits : ℕ} {ramAddress : UInt16}

/-- The outputs and behind them the inputs. -/
lemma returns_of_directions {slave slave' : Slave} {accesses : List Access} (config : SlaveConfig)
    (hstart : slave.info.pdoStartAddress = some ramAddress)
    (hreturns : Returns h (setPdoToSmUtility .output ramAddress >>= fun next =>
      setPdoToSmUtility .input next >>= fun _ => pure ()) slave w accesses () slave' w) :
    Returns h (setPdoToSmSlave config) slave w accesses () slave' w := by
  refine (returns_get slave w).bind_nil ?_
  rw [hstart]
  exact hreturns

lemma panics_of_directions {slave : Slave} (config : SlaveConfig)
    (hstart : slave.info.pdoStartAddress = some ramAddress)
    (hpanics : Panics h (setPdoToSmUtility .output ramAddress >>= fun next =>
      setPdoToSmUtility .input next >>= fun _ => pure ()) slave w) :
    Panics h (setPdoToSmSlave config) slave w := by
  refine (returns_get slave w).bind_panics ?_
  rw [hstart]
  exact hpanics

end

/-! ## Process data that can be read -/

section
variable {ods : Dictionaries} {info : SlaveInfo} {rx tx : SyncManager} {ramAddress : UInt16}
  {outputBits inputBits : ℕ}

end

/-- Its second mailbox ends one byte before the end of its kilobyte. -/
def smallRam : SlaveInfo :=
  { SlaveInfo.default with
    configuredAddress := 1
    supportCoe := true
    numberOfSm := 4
    ramSizeKb := 1
    sm := mailboxTable ⟨0, 0x80, 0x1000⟩ ⟨1, 0x100, 0x12FF⟩
    pdoStartAddress := some 0x13FF
    pdoRamSize := 1 }

/-- One byte of outputs. -/
def byteOutput : Dictionary := fun index subIndex =>
  match index, subIndex with
  | 0x1C00, 0 => some [4]
  | 0x1C00, 3 => some [3]
  | 0x1C00, 4 => some [4]
  | 0x1600, 0 => some [1]
  | 0x1600, 1 => some [8, 1, 0, 0x70]
  | 0x1C32, 2 | 0x1C33, 2 => some [0, 0, 0, 0, 0]
  | 0x1C32, 4 | 0x1C33, 4 => some [1]
  | 0x1C32, 5 | 0x1C33, 5 => some [0, 0, 0, 0]
  | _, _ => none

/-- The dictionary after the mapping was assigned. -/
def byteAssigned : Dictionary :=
  ((byteOutput.write 0x1C12 0 [1]).write 0x1C12 1 [0, 0x16]).write 0x1C13 0 [0]

end EtherCat

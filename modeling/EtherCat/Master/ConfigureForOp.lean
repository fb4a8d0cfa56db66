import EtherCat.Slave.Network

/-!
# Configuration for operation: logical addresses of the process data entries

Each FMMU of a slave maps a range of the logical address space onto the process data of one
direction.  The entries of that direction get their places in the range one after another.
-/

namespace EtherCat

open Rust Rust.Exec

/-- One turn of the innermost loop: the entry with the place for a running total of bits. -/
def PdoEntry.assign (entry : PdoEntry) (totalBits : ℕ) : PdoEntry :=
  let mod8 := totalBits % 8
  let (addr, sBit) := if mod8 = 0 then (totalBits / 8, 0) else (totalBits / 8 + 1, mod8)
  (entry.setStartBit (UInt8.ofNat sBit)).setLogicalAddress (some (UInt32.ofNat addr))

/-- The loop over the entries of a mapping, with the running total of bits. -/
def assignEntries : List PdoEntry → ℕ → Exec (List PdoEntry × ℕ)
  | [], totalBits => .ok ([], totalBits)
  | pdoEntry :: entries, totalBits => do
    let pdoEntry := pdoEntry.assign totalBits
    let totalBits ← addUpTo 64 totalBits pdoEntry.bitLength.toNat
    let (entries, totalBits) ← assignEntries entries totalBits
    .ok (pdoEntry :: entries, totalBits)

/-- The loop over the mappings of a direction. -/
def assignMappings : List PdoMapping → ℕ → Exec (List PdoMapping × ℕ)
  | [], totalBits => .ok ([], totalBits)
  | pdoMap :: pdoMaps, totalBits => do
    let (entries, totalBits) ← assignEntries pdoMap.entries totalBits
    let (pdoMaps, totalBits) ← assignMappings pdoMaps totalBits
    .ok ({ pdoMap with entries := entries } :: pdoMaps, totalBits)

/-- The body of the loop over the two directions: `i` is the FMMU slot. -/
def assignDirection (slave : Slave) (i : Fin 2) (config : SlaveConfig) : Exec SlaveConfig :=
  match slave.fmmu.get i.castSucc with
  | none => .ok config
  | some fmmuConfig =>
    match fmmuConfig.logicalAddress with
    | none => .ok config
    | some startAddress => do
      let startBits ← mulUpTo 32 startAddress.toNat 8
      let start ← addUpTo 64 startBits fmmuConfig.startBit.toNat
      let pdoMaps := config.mappings i
      if pdoMaps.isEmpty then
        .ok config
      else do
        let (pdoMaps, totalBits) ← assignMappings pdoMaps start
        let length ← sub totalBits start
        assert (fmmuConfig.bitLength.toNat = length)
        .ok (config.setMappings i pdoMaps)

/-- The body of the loop over the slaves. -/
def assignSlave (slot : Slave × SlaveConfig) : Exec (Slave × SlaveConfig) := do
  let config ← assignDirection slot.1 0 slot.2
  let config ← assignDirection slot.1 1 config
  .ok (slot.1, config)

/-- Every entry gets its place in the image. -/
def setLogicalAddressToPdoEntryConfig (network : Network) : Exec Network :=
  network.mapSlaves assignSlave

end EtherCat

import EtherCat.Master.ConfigureFmmu
import EtherCat.Master.ConfigureForOp
import EtherCat.Master.ConfigureSyncMode
import EtherCat.Task.LoopTasks

/-!
# Configuration for operation

`configure_slaves_for_operation` configures the process data image and the synchronisation of all
slaves.
-/

namespace EtherCat

open Rust Rust.Exec Configure

/-- The fields of the master that the configuration changes. -/
structure PdoImage where
  network : Network
  processDataTask : ProcessTask
  deriving DecidableEq, Repr

namespace PdoImage

/-- A part of the configuration that looks at the slaves only. -/
def onNetwork {α : Type} (m : Configure Network α) : Configure PdoImage α :=
  .zoom network (fun network image => { image with network := network }) m

/-- The last step of `configure_pdo_image`. -/
def setLogicalAddressToPdoEntryConfig : Configure PdoImage Unit := do
  let image ← .get
  let network ← .ofExec (EtherCat.setLogicalAddressToPdoEntryConfig image.network)
  .modify fun image => { image with network := network }

/-- The process data image is configured, from the dictionaries to the FMMUs. -/
def configurePdoImage : Configure PdoImage Unit := do
  onNetwork setPdoConfigToOd
  onNetwork setPdoToSm
  let (imageSize, expectedWkc) ← onNetwork configureFmmu
  .modify fun image =>
    { image with
      processDataTask :=
        (image.processDataTask.setImageSize imageSize).setExpectedWkc (.ofNat expectedWkc) }
  setLogicalAddressToPdoEntryConfig

/-- The loop that waits for the start of the clock signals is followed for `polls` turns. -/
def configureSlavesForOperation (polls : ℕ) : Configure PdoImage Unit := do
  configurePdoImage
  onNetwork (configureSyncMode polls)

end PdoImage

end EtherCat

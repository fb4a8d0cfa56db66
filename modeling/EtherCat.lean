import EtherCat.Frame.AddCommand
import EtherCat.Frame.LeftOver
import EtherCat.Frame.ReadBack
import EtherCat.Frame.SdoRequest
import EtherCat.Interface.Delivery
import EtherCat.Interface.EnqueuePdus
import EtherCat.Interface.ReceiveOneFrame
import EtherCat.Master.FmmuCount
import EtherCat.Master.FmmuLayout
import EtherCat.Master.FullMailbox
import EtherCat.Master.ImageCompletes
import EtherCat.Master.PdoAgreement
import EtherCat.Master.PdoLayout
import EtherCat.Master.ProcessDataAreas
import EtherCat.Master.SdoReads
import EtherCat.Master.SdoTraffic
import EtherCat.Master.SessionId
import EtherCat.Slave.EntryBits
import EtherCat.Task.SiiReadFailures
import EtherCat.Task.AlStateTransferRun
import EtherCat.Task.MailboxSlots
import EtherCat.Interface.FailedTransmit
import EtherCat.Task.DcInitRun
import EtherCat.Task.MailboxOutcome
import EtherCat.Task.MailboxRepeat
import EtherCat.Task.MailboxSentFrame
import EtherCat.Task.NetworkInitRun
import EtherCat.Task.OwnTraffic
import EtherCat.Task.RegisterRead
import EtherCat.Task.RequestChecks
import EtherCat.Task.DcLineRun
import EtherCat.Task.DcOffsetRun
import EtherCat.Task.TimedWaits
import EtherCat.Task.ReadAlState
import EtherCat.Interface.AddPdus
import EtherCat.Util.IndexSetRun
import EtherCat.Frame.AnnouncedData
import EtherCat.Slave.EntryAccess
import EtherCat.Task.DcSyncOffset
import EtherCat.Foundation.WalkEnds
import EtherCat.Task.DcStartReturns
import EtherCat.Task.RequiredBuffer
import EtherCat.Task.PolledCall
import EtherCat.Task.SdoTransfer
import EtherCat.Task.MailboxCall
import EtherCat.Task.SdoFailures
import EtherCat.Task.SdoQueue
import EtherCat.Master.CyclicOperation
import EtherCat.Master.CycleReturns
import EtherCat.Master.OutputImage
import EtherCat.Master.RequestProgress
import EtherCat.Master.OwnResponses

import EtherCat.Frame.Mailbox
import EtherCat.Task.Mailbox

/-!
# Errors of SDO transfers
-/

namespace EtherCat

/-- The kinds of SDO messages. -/
inductive SdoType
  | req
  | uploadRes
  | downLoadRes
  | otherRes
  | unsupportedType
  deriving DecidableEq, Repr

/-- What can go wrong with an SDO transfer. -/
inductive SdoErrorKind
  | mailbox (error : MailboxTaskError)
  | abortCode (code : AbortCode)
  | errorMailbox (detail : MailboxErrorDetail)
  | emmergency (code : EmmergencyErrorCode)
  | unexpectedSdoType (sdoType : SdoType)
  | countUnmatch
  | unsupportedMailboxProtocol
  deriving DecidableEq, Repr

end EtherCat

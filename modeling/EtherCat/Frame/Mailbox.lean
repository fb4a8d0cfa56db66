import EtherCat.Frame.Coe
import EtherCat.Frame.FrameUtil

/-!
# Mailbox messages

A mailbox message is a header of six bytes, with the length of what follows, the protocol and a
count, and a payload.  `mailbox` decodes a message of the protocols the master knows; everything
else is an unsupported protocol or type.  `set_mailbox` encodes SDO requests.

The width of `usize` is a parameter: the decoder adds four to a size that the message announces
in 32 bits.
-/

namespace EtherCat

open Rust Rust.Exec BitField

/-- The protocols of a mailbox. -/
inductive MailboxType
  | error | aoE | eoE | coE | foE | soE | voE | other
  deriving DecidableEq, Repr

namespace MailboxType

/-- The code of a protocol. -/
def toU8 : MailboxType → UInt8
  | error => 0 | aoE => 1 | eoE => 2 | coE => 3 | foE => 4 | soE => 5 | voE => 0xF | other => 0x10

/-- The protocol of a code. -/
def ofU8 (code : UInt8) : MailboxType :=
  match code with
  | 0 => error | 1 => aoE | 2 => eoE | 3 => coE | 4 => foE | 5 => soE | 0xF => voE | _ => other

end MailboxType

/-- The errors that a slave reports with a mailbox message. -/
inductive MailboxErrorDetail
  | unspecified | syntaxDetail | unsupportedProtocol | invalidChannel | serviceNotSupported
  | invalidHeader | sizeTooShort | noMoreMemory | invalidSize
  deriving DecidableEq, Repr

/-- The error of a code. -/
def MailboxErrorDetail.ofU16 (code : UInt16) : MailboxErrorDetail :=
  match code with
  | 0x01 => syntaxDetail | 0x02 => unsupportedProtocol | 0x03 => invalidChannel
  | 0x04 => serviceNotSupported | 0x05 => invalidHeader | 0x06 => sizeTooShort
  | 0x07 => noMoreMemory | 0x08 => invalidSize | _ => unspecified

namespace MailboxErrorFrame

def size : ℕ := 4
def detail : Field := ⟨31, 16, .lsb0⟩

/-- The error that a frame reports. -/
def errorDetail (frame : List UInt8) : Exec MailboxErrorDetail := do
  let code ← detail.get frame
  .ok (.ofU16 (.ofNat code))

end MailboxErrorFrame

/-- A frame is too short for what it announces, or too short for what is written into it. -/
structure LengthError where
  deriving DecidableEq, Repr

/-- A command specifier that the decoder does not know. -/
structure CommandSpecifier where
  val : UInt8
  deriving DecidableEq, Repr

/-- The index and the subindex of an object. -/
structure CoeIndex where
  index : UInt16
  subIndex : UInt8
  deriving DecidableEq, Repr

/-- An SDO request. -/
inductive SdoReq
  | downLoad (data : List UInt8)
  | upload
  | abort (code : AbortCode)
  | other (specifier : CommandSpecifier)
  deriving DecidableEq, Repr

/-- An SDO response. -/
inductive SdoRes
  | downLoad
  | upload (data : List UInt8)
  | other (specifier : CommandSpecifier)
  deriving DecidableEq, Repr

/-- What a CoE message carries. -/
inductive CoE
  /-- The bytes of an `EmmergencyFrame`. -/
  | emmergency (frame : List UInt8)
  | sdoReq (req : SdoReq)
  | sdoRes (res : SdoRes)
  | unsupportedType (serviceType : CoeServiceType)
  deriving DecidableEq, Repr

/-- What a mailbox message carries. -/
inductive Mailbox
  | error (detail : MailboxErrorDetail)
  | coE (index : CoeIndex) (coe : CoE)
  | unsupportedProtocol (mbType : MailboxType)
  deriving DecidableEq, Repr

namespace Mailbox

/-- The request that writes data into an object. -/
def newSdoDownloadRequest (index : UInt16) (subIndex : UInt8) (data : List UInt8) : Mailbox :=
  .coE ⟨index, subIndex⟩ (.sdoReq (.downLoad data))

/-- The request that reads an object. -/
def newSdoUploadRequest (index : UInt16) (subIndex : UInt8) : Mailbox :=
  .coE ⟨index, subIndex⟩ (.sdoReq .upload)

/-- The object data a message carries. -/
def sdoData : Mailbox → Option (List UInt8)
  | .coE _ (.sdoReq (.downLoad data)) => some data
  | .coE _ (.sdoRes (.upload data)) => some data
  | _ => none

end Mailbox

namespace MailboxFrame

def headerSize : ℕ := 6
def length : Field := ⟨15, 0, .lsb0⟩
def mailboxType : Field := ⟨43, 40, .lsb0⟩
def count : Field := ⟨46, 44, .lsb0⟩

/-- The protocol of a message. -/
def mbType (frame : List UInt8) : Exec MailboxType := do
  let code ← mailboxType.get frame
  .ok (.ofU8 (.ofNat code))

/-- What is behind the mailbox header. -/
def withoutHeader (frame : List UInt8) : Exec (List UInt8) := sliceFrom frame headerSize

/-! ## Decoding -/

/-- The number of data bytes of an expedited transfer. -/
def expeditedSize (dataSetSize : ℕ) : ℕ :=
  match dataSetSize with
  | 0 => 4
  | 1 => 3
  | 2 => 2
  | 3 => 1
  | _ => 0

/-- The object data of a download request and of an upload response. -/
def transferData (usizeBits : ℕ) (sdoHeader sdoPayload : List UInt8) :
    Exec (Except LengthError (List UInt8)) := do
  let expedited ← SdoFrame.transferType.getBool sdoHeader
  if expedited then do
    let dataSetSize ← SdoFrame.dataSetSize.get sdoHeader
    let size := expeditedSize dataSetSize
    let last ← Exec.sub size 1
    if sdoPayload.length ≤ last then
      .ok (.error ⟨⟩)
    else do
      let data ← sliceTo sdoPayload size
      .ok (.ok data)
  else if sdoPayload.length ≤ 4 - 1 then
    .ok (.error ⟨⟩)
  else do
    let completeSize ← sliceTo sdoPayload 4
    let stop ← Exec.addUpTo usizeBits (fromLeBytes completeSize) 4
    if sdoPayload.length ≤ stop - 1 then
      .ok (.error ⟨⟩)
    else do
      let data ← slice sdoPayload 4 stop
      .ok (.ok data)

/-- An SDO request, by its command specifier. -/
def decodeSdoReq (usizeBits : ℕ) (sdoHeader sdoPayload : List UInt8) :
    Exec (Except LengthError SdoReq) := do
  let specifier ← SdoFrame.commandSpecifier.get sdoHeader
  match specifier with
  | 1 => do
    let data ← transferData usizeBits sdoHeader sdoPayload
    .ok (data.map .downLoad)
  | 2 => .ok (.ok .upload)
  | 4 =>
    if sdoHeader.length ≤ SdoFrame.headerSize + 4 - 1 then
      .ok (.error ⟨⟩)
    else
      let code := fromLeBytes (overwrite (List.replicate 4 0) (sdoHeader.drop SdoFrame.headerSize))
      .ok (.ok (.abort (.ofU32 (.ofNat code))))
  | _ => .ok (.ok (.other ⟨.ofNat specifier⟩))

/-- An SDO response, by its command specifier. -/
def decodeSdoRes (usizeBits : ℕ) (sdoHeader sdoPayload : List UInt8) :
    Exec (Except LengthError SdoRes) := do
  let specifier ← SdoFrame.commandSpecifier.get sdoHeader
  match specifier with
  | 2 => do
    let data ← transferData usizeBits sdoHeader sdoPayload
    .ok (data.map .upload)
  | 3 => .ok (.ok .downLoad)
  | _ => .ok (.ok (.other ⟨.ofNat specifier⟩))

/-- A CoE message, by its service. -/
def decodeCoE (usizeBits : ℕ) (serviceType : CoeServiceType) (sdoFrame sdoPayload : List UInt8) :
    Exec (Except LengthError CoE) :=
  match serviceType with
  | .emmergency =>
    if sdoPayload.length ≤ EmmergencyFrame.size - 1 then
      .ok (.error ⟨⟩)
    else
      .ok (.ok (.emmergency sdoPayload))
  | .sdoReq => do
    let req ← decodeSdoReq usizeBits sdoFrame sdoPayload
    .ok (req.map .sdoReq)
  | .sdoRes => do
    let res ← decodeSdoRes usizeBits sdoFrame sdoPayload
    .ok (res.map .sdoRes)
  | _ => .ok (.ok (.unsupportedType serviceType))

/-- The arm of a CoE message. -/
def decodeCoEMailbox (usizeBits : ℕ) (frame coeFrame : List UInt8) :
    Exec (Except LengthError Mailbox) :=
  if frame.length < headerSize + CoeFrame.headerSize + SdoFrame.headerSize then
    .ok (.error ⟨⟩)
  else do
    let sdoFrame ← CoeFrame.withoutHeader coeFrame
    let sdoPayload ← SdoFrame.withoutHeader sdoFrame
    let index ← SdoFrame.index.get sdoFrame
    let subIndex ← SdoFrame.subIndex.get sdoFrame
    let serviceType ← CoeFrame.coeServiceType coeFrame
    let coe ← decodeCoE usizeBits serviceType sdoFrame sdoPayload
    .ok (coe.map (.coE ⟨.ofNat index, .ofNat subIndex⟩))

/-- The decoder of mailbox messages. -/
def mailbox (usizeBits : ℕ) (frame : List UInt8) : Exec (Except LengthError Mailbox) :=
  if frame.length < headerSize then
    .ok (.error ⟨⟩)
  else do
    let coeFrame ← withoutHeader frame
    let mbType ← mbType frame
    match mbType with
    | .error =>
      if coeFrame.length ≤ MailboxErrorFrame.size - 1 then
        .ok (.error ⟨⟩)
      else do
        let detail ← MailboxErrorFrame.errorDetail coeFrame
        .ok (.ok (.error detail))
    | .coE => decodeCoEMailbox usizeBits frame coeFrame
    | _ => .ok (.ok (.unsupportedProtocol mbType))

/-! ## Encoding -/

/-- The header of an SDO request.  `complete_access` and `data_set_size` are zero and the transfer
is a normal one. -/
def setSdoHeader (specifier : ℕ) (sizeIndicator : Bool) (coeIndex : CoeIndex)
    (sdoFrame : List UInt8) : Exec (List UInt8) := do
  let sdoFrame ← SdoFrame.completeAccess.setBool sdoFrame false
  let sdoFrame ← SdoFrame.dataSetSize.set sdoFrame 0
  let sdoFrame ← SdoFrame.commandSpecifier.set sdoFrame specifier
  let sdoFrame ← SdoFrame.transferType.setBool sdoFrame false
  let sdoFrame ← SdoFrame.sizeIndicator.setBool sdoFrame sizeIndicator
  let sdoFrame ← SdoFrame.index.set sdoFrame coeIndex.index.toNat
  SdoFrame.subIndex.set sdoFrame coeIndex.subIndex.toNat

/-- The payload length of a download request. -/
def downLoadLength (data : List UInt8) : ℕ :=
  CoeFrame.headerSize + SdoFrame.headerSize + SdoDownloadNormalRequestFrame.headerSize + data.length

/-- The SDO frame of a request. -/
def setSdoReq (coeIndex : CoeIndex) (sdoReq : SdoReq) (sdoFrame : List UInt8) :
    Exec (List UInt8) :=
  match sdoReq with
  | .downLoad data => do
    let sdoFrame ← setSdoHeader 1 true coeIndex sdoFrame
    let sdoFrame ← onSuffix sdoFrame SdoFrame.headerSize fun downloadFrame =>
      SdoDownloadNormalRequestFrame.completeSize.set downloadFrame (data.length % 2 ^ 32)
    Exec.assert (downLoadLength data ≤ 2 ^ 16 - 1)
    onSuffix sdoFrame (SdoFrame.headerSize + SdoDownloadNormalRequestFrame.headerSize)
      fun payload => .ok (overwrite payload data)
  | .upload => setSdoHeader 2 false coeIndex sdoFrame
  | .abort _ => .error .explicit
  | .other _ => .error .explicit

/-- The length that the mailbox header of a request announces. -/
def sdoReqLength : SdoReq → ℕ
  | .downLoad data => downLoadLength data
  | _ => CoeFrame.headerSize + SdoFrame.headerSize + 4

/-- The encoder of mailbox messages. Only SDO requests can be written. -/
def setMailbox (frame : List UInt8) (mailbox : Mailbox) :
    Exec (Except LengthError Unit × List UInt8) :=
  match mailbox with
  | .error _ => .error .explicit
  | .coE coeIndex coe => do
    let frame ← mailboxType.set frame MailboxType.coE.toU8.toNat
    match coe with
    | .emmergency _ => .error .explicit
    | .sdoReq sdoReq => do
      let frame ← onSuffix frame headerSize fun coeFrame => do
        let coeFrame ← CoeFrame.number.set coeFrame 0
        let coeFrame ← CoeFrame.serviceType.set coeFrame CoeServiceType.sdoReq.toU8.toNat
        onSuffix coeFrame CoeFrame.headerSize (setSdoReq coeIndex sdoReq)
      let frame ← length.set frame (sdoReqLength sdoReq % 2 ^ 16)
      .ok (.ok (), frame)
    | .sdoRes _ => .error .explicit
    | .unsupportedType _ => .error .explicit
  | .unsupportedProtocol _ => .error .explicit

end MailboxFrame

end EtherCat

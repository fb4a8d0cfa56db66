import Mathlib.Tactic.Common

/-!
# The raw Ethernet device

A device hands out tokens.  A transmit token asks for a buffer of a given length, lets the
caller fill it and sends it; a receive token hands over one received frame.  Both may fail, and
a device may have no token to give.  The device is passed through every call as a state.
-/

namespace EtherCat

/-- An error of the device, or of the function that it was given. -/
inductive DeviceError
  | device
  | function
  deriving DecidableEq, Repr

/-- The answer of a device that is asked for a token. -/
inductive TokenOption (D τ : Type)
  | none (device : D)
  | some (token : τ)

/-- The device has no token to give. -/
def TokenOption.isNone {D τ : Type} : TokenOption D τ → Bool
  | none _ => true
  | some _ => false

/-- `TxToken::consume`: it fails before the caller's closure has run, or it lets the closure fill
a buffer and then sends what the closure left there. -/
inductive TxConsume (D : Type)
  | refused (error : DeviceError) (device : D)
  | filled (buffer : List UInt8) (send : List UInt8 → Except DeviceError Unit × D)

/-- A transmit token, to be consumed with the length of the frame. -/
abbrev TxToken (D : Type) := ℕ → TxConsume D

/-- `RxToken::consume`: it fails before the caller's closure has run, or it hands over a frame
and then returns `result`. -/
inductive RxToken (D : Type)
  | refused (error : DeviceError) (device : D)
  | frame (bytes : List UInt8) (result : Except DeviceError Unit) (device : D)

/-- A smoltcp-like raw network interface. -/
class RawEthernetDevice (D : Type) where
  transmit : D → TokenOption D (TxToken D)
  receive : D → TokenOption D (RxToken D)

end EtherCat

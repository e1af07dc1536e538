import PandaGen.Lib.Codec

/-!
# Protocol frames

The frames of `services_network/src/lib.rs` and the registry of their handlers. A frame is read only after its length
is known to be at least that of a header, so no index into it panics.
-/

namespace PandaGen.Network

open Lib

inductive AdvancedProtocol where
  | reliableDatagram
  | streamMux
  | secureChannel
  deriving DecidableEq

inductive ProtocolError where
  | unsupportedProtocol (protocol : AdvancedProtocol)
  | invalidFrame (msg : String)
  | validationFailed (msg : String)

/-- `protocol as u8` -/
def AdvancedProtocol.tag : AdvancedProtocol → UInt8
  | .reliableDatagram => 0
  | .streamMux => 1
  | .secureChannel => 2

def AdvancedProtocol.ofTag (tag : UInt8) : Except ProtocolError AdvancedProtocol :=
  if tag = 0 then .ok .reliableDatagram
  else if tag = 1 then .ok .streamMux
  else if tag = 2 then .ok .secureChannel
  else .error (.invalidFrame ("unknown protocol tag " ++ toString tag))

structure ProtocolHeader where
  protocol : AdvancedProtocol
  sessionId : UInt64
  sequence : UInt64

structure ProtocolFrame where
  header : ProtocolHeader
  payload : List UInt8

namespace ProtocolFrame

/-- "PGNP" -/
def magic : List UInt8 := [0x50, 0x47, 0x4e, 0x50]

def version : UInt8 := 1

def headerLen : Nat := 4 + 1 + 1 + 2 + 8 + 8 + 4

def encode (self : ProtocolFrame) : List UInt8 :=
  magic ++ [version] ++ [self.header.protocol.tag] ++ leBytes 2 0 ++ leBytes 8 self.header.sessionId.toNat ++
    leBytes 8 self.header.sequence.toNat ++ leBytes 4 self.payload.length ++ self.payload

/-- `uN::from_le_bytes(bytes[start..start + n].try_into().unwrap())` -/
def number (bytes : List UInt8) (start n : Nat) : Nat :=
  Nat.ofDigits 256 (((bytes.drop start).take n).map UInt8.toNat)

def decode (bytes : List UInt8) : Except ProtocolError ProtocolFrame := do
  if bytes.length < headerLen then throw (.invalidFrame "frame too short")
  if bytes.take 4 ≠ magic then throw (.invalidFrame "bad magic")
  if bytes.getD 4 0 ≠ version then throw (.invalidFrame "unsupported version")
  let protocol ← AdvancedProtocol.ofTag (bytes.getD 5 0)
  if bytes.length ≠ headerLen + number bytes 24 4 then throw (.invalidFrame "payload length mismatch")
  return ⟨⟨protocol, UInt64.ofNat (number bytes 8 8), UInt64.ofNat (number bytes 16 8)⟩, bytes.drop 28⟩

end ProtocolFrame

/-! ## Handlers -/

structure ProtocolHandler where
  protocol : AdvancedProtocol
  validate : ProtocolFrame → Except ProtocolError Unit

structure ProtocolRegistry where
  handlers : AdvancedProtocol → Option ProtocolHandler

namespace ProtocolRegistry

def new : ProtocolRegistry := ⟨fun _ => none⟩

def register (self : ProtocolRegistry) (handler : ProtocolHandler) : ProtocolRegistry :=
  ⟨Function.update self.handlers handler.protocol (some handler)⟩

def reliableDatagramHandler : ProtocolHandler where
  protocol := .reliableDatagram
  validate frame :=
    if frame.payload.length > 1200 then .error (.validationFailed "reliable datagram payload exceeds 1200 bytes")
    else .ok ()

def streamMuxHandler : ProtocolHandler where
  protocol := .streamMux
  validate frame :=
    if frame.header.sessionId = 0 then .error (.validationFailed "stream mux session id must be non-zero") else .ok ()

def secureChannelHandler : ProtocolHandler where
  protocol := .secureChannel
  validate frame :=
    if frame.payload.length < 16 then .error (.validationFailed "secure channel payload must be at least 16 bytes")
    else .ok ()

def withDefaults : ProtocolRegistry :=
  ((new.register reliableDatagramHandler).register streamMuxHandler).register secureChannelHandler

def validate (self : ProtocolRegistry) (frame : ProtocolFrame) : Except ProtocolError Unit :=
  match self.handlers frame.header.protocol with
  | none => .error (.unsupportedProtocol frame.header.protocol)
  | some handler => handler.validate frame

def encodeFrame (self : ProtocolRegistry) (frame : ProtocolFrame) : Except ProtocolError (List UInt8) := do
  self.validate frame
  return frame.encode

def decodeFrame (self : ProtocolRegistry) (bytes : List UInt8) : Except ProtocolError ProtocolFrame := do
  let frame ← ProtocolFrame.decode bytes
  self.validate frame
  return frame

end ProtocolRegistry

end PandaGen.Network

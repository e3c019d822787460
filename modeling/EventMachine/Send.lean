import EventMachine.Interest
import EventMachine.Outbound

/-!
# Queueing outbound data

A stream queues raw bytes in `_SendRawOutboundData`; with TLS running, `SendOutboundData`
feeds plaintext to the engine and `_DispatchCiphertext` queues the ciphertext it produces. A
datagram socket queues one page per datagram, with its destination. Every enqueue path
refuses new data once a close is scheduled. A sink whose queue would pass the threshold of
its proxy pauses the source first.
-/

namespace EventMachine

/-- A `(const char *data, unsigned long length)` argument: a pointer to `length` readable
bytes, or a null pointer with a length. -/
inductive OutboundData
  | bytes (data : List Byte)
  | null (length : Nat)
  deriving DecidableEq, Repr

/-- The `length` argument. -/
def OutboundData.length : OutboundData → Nat
  | bytes data => data.length
  | null length => length

/-- The bytes `memcpy` copies: a null pointer with length `0` copies nothing. -/
def OutboundData.toBytes : OutboundData → List Byte
  | bytes data => data
  | null _ => []

/-- `(unsigned int) n`: the value modulo `2^32` (= 4294967296). -/
def unsignedInt (n : Int) : Nat := (n % 4294967296).toNat

/-- The parameters `SetTlsParms` leaves: a null or empty string keeps the old value. -/
def TlsParms.update (old new : TlsParms) : TlsParms :=
  let pick (a b : String) := if b = "" then a else b
  { privateKeyFilename := pick old.privateKeyFilename new.privateKeyFilename
    privateKey := pick old.privateKey new.privateKey
    privateKeyPass := pick old.privateKeyPass new.privateKeyPass
    certChainFilename := pick old.certChainFilename new.certChainFilename
    cert := pick old.cert new.cert
    bSslVerifyPeer := new.bSslVerifyPeer
    bSslFailIfNoPeerCert := new.bSslFailIfNoPeerCert
    sniHostName := pick old.sniHostName new.sniHostName
    cipherList := pick old.cipherList new.cipherList
    ecdhCurve := pick old.ecdhCurve new.ecdhCurve
    dhParam := pick old.dhParam new.dhParam
    protocols := new.protocols }

namespace SslBox

/-- `CanGetCiphertext`. -/
def canGetCiphertext (box : SslBox) : Bool × SslBox :=
  match box.replies with
  | .ciphertext _ :: _ => (true, box)
  | _ => (false, box)

/-- `GetCiphertext`: the next chunk of ciphertext. -/
def getCiphertext (box : SslBox) : List Byte × SslBox :=
  match box.replies with
  | .ciphertext chunk :: rest => (chunk, { box with replies := rest })
  | _ => ([], box)

/-- `PutPlaintext`: positive when the engine took plaintext, negative on a fatal error. -/
def putPlaintext (box : SslBox) : Int × SslBox :=
  match box.replies with
  | .pumped :: rest => (1, { box with replies := rest })
  | .failed :: rest => (-1, { box with replies := rest })
  | _ => (0, box)

/-- `GetPlaintext`: a chunk of plaintext and its length, `-2` on a handshake failure, `0`
when nothing is ready. -/
def getPlaintext (box : SslBox) : (Int × List Byte) × SslBox :=
  match box.replies with
  | .plaintext chunk :: rest => ((chunk.length, chunk), { box with replies := rest })
  | .failed :: rest => ((-2, []), { box with replies := rest })
  | _ => ((0, []), box)

/-- `IsHandshakeCompleted`. -/
def isHandshakeCompleted (box : SslBox) : Bool × SslBox :=
  match box.replies with
  | .handshakeCompleted :: rest => (true, { replies := rest, handshakeCompleted := true })
  | _ => (box.handshakeCompleted, box)

end SslBox

namespace ConnectionDescriptor

/-- Ask the connection's TLS engine; `assert (SslBox)` guards every caller. -/
def sslCall {α : Type} (self : Binding) (query : SslBox → α × SslBox) : EM α := do
  match (← connection self).sslBox with
  | some box =>
    let (a, box) := query box
    modifyConnection self fun c => { c with sslBox := some box }
    return a
  | none => throw (.assertionFailed "SslBox")

/-- `ConnectionDescriptor::ScheduleClose`: a watch-only connection is not closed by
EventMachine. -/
def scheduleClose (self : Binding) (afterWriting : Bool) : EM Unit := do
  if (← descriptor self).bWatchOnly then
    throw (.runtimeError "cannot close 'watch only' connections")
  EventableDescriptor.scheduleClose self afterWriting

/-- `_SendRawOutboundData`: nothing is queued once a close is scheduled, and an empty write
is ignored; otherwise the bytes are copied into a new page at the back of the queue. -/
def sendRawOutboundData (self : Binding) (data : OutboundData) : EM Int := do
  if (← descriptor self).isCloseScheduled then return 0
  if data.length = 0 then return 0
  match data with
  | .null _ => throw (.runtimeError "bad outbound data")
  | .bytes bytes =>
    if !(← malloc) then
      throw (.runtimeError "no allocation for outbound data")
    modifyConnection self fun c => { c with
      outboundPages := c.outboundPages ++ [⟨bytes, 0⟩]
      outboundDataSize := c.outboundDataSize + bytes.length }
    updateEvents self false true
    return bytes.length

/-- The first inner loop of `_DispatchCiphertext`: queue ciphertext while the engine has
some. Returns whether it did work. -/
def drainCiphertext (self : Binding) : Nat → EM Bool
  | 0 => pure false
  | fuel + 1 => do
    if !(← sslCall self SslBox.canGetCiphertext) then return false
    let chunk ← sslCall self SslBox.getCiphertext
    if chunk.length = 0 then throw (.assertionFailed "r > 0")
    discard <| sendRawOutboundData self (.bytes chunk)
    discard <| drainCiphertext self fuel
    return true

/-- The second inner loop: pump plaintext the engine holds back while it accepts some; a
fatal error schedules an immediate close. Returns whether it did work. -/
def pumpPlaintext (self : Binding) : Nat → EM Bool
  | 0 => pure false
  | fuel + 1 => do
    let w ← sslCall self SslBox.putPlaintext
    if w > 0 then
      discard <| pumpPlaintext self fuel
      return true
    if w < 0 then scheduleClose self false
    return false

/-- The outer loop of `_DispatchCiphertext`, repeated while either inner loop did work. -/
def dispatchCiphertextLoop (self : Binding) (fuel : Nat) : Nat → EM Unit
  | 0 => pure ()
  | passes + 1 => do
    let drained ← drainCiphertext self fuel
    let pumped ← pumpPlaintext self fuel
    if drained || pumped then dispatchCiphertextLoop self fuel passes

/-- `_DispatchCiphertext`. Every loop iteration that does work consumes one of the engine's
scripted answers, so one more pass than there are answers bounds each loop. -/
def dispatchCiphertext (self : Binding) : EM Unit := do
  match (← connection self).sslBox with
  | some box =>
    dispatchCiphertextLoop self (box.replies.length + 1) (box.replies.length + 1)
  | none => throw (.assertionFailed "SslBox")

/-- The TLS branch of `SendOutboundData`: hand the plaintext to the engine piece by piece,
dispatching ciphertext after each accepted piece. -/
def putPlaintextPieces (self : Binding) (data : OutboundData) : EM Unit := do
  let pieces := (data.length + sslboxInputChunksize - 1) / sslboxInputChunksize
  for _ in List.range pieces do
    if data matches .null _ then throw (.undefinedBehaviour "null plaintext")
    let w ← sslCall self SslBox.putPlaintext
    if w < 0 then scheduleClose self false
    else dispatchCiphertext self

/-- `ConnectionDescriptor::SendOutboundData`. -/
def sendOutboundData (self : Binding) (data : OutboundData) : EM Int := do
  let d ← descriptor self
  if d.bWatchOnly then
    throw (.runtimeError "cannot send data on a 'watch only' connection")
  if let some src := d.proxiedFrom then
    if d.maxOutboundBufSize ≠ 0 ∧
        unsignedInt (d.getOutboundDataSize + data.length) > d.maxOutboundBufSize then
      discard <| Virtual.pause src
  if (← connection self).sslBox.isSome then
    if data.length > 0 then
      putPlaintextPieces self data
    return 1
  sendRawOutboundData self data

/-- `StartTls`: create the engine and dispatch whatever it produces first. -/
def startTls (self : Binding) (box : SslBox) : EM Unit := do
  if (← connection self).sslBox.isSome then
    throw (.runtimeError "SSL/TLS already running on connection")
  modifyConnection self fun c => { c with sslBox := some box }
  dispatchCiphertext self

/-- `SetTlsParms`: only before `StartTls`. -/
def setTlsParms (self : Binding) (parms : TlsParms) : EM Unit := do
  if (← connection self).sslBox.isSome then
    throw (.runtimeError "call SetTlsParms before calling StartTls")
  modifyConnection self fun c => { c with tlsParms := TlsParms.update c.tlsParms parms }

end ConnectionDescriptor

namespace DatagramDescriptor

/-- Queue one datagram for `dest`: copy the bytes, count them, and arm both readiness bits. -/
def queueDatagram (self : Binding) (data : OutboundData) (dest : SockAddr) : EM Int := do
  if data matches .null (_ + 1) then
    throw (.runtimeError "bad outbound data")
  if !(← malloc) then
    throw (.runtimeError "no allocation for outbound data")
  modifyDatagram self fun g => { g with
    outboundPages := g.outboundPages ++ [⟨data.toBytes, dest⟩]
    outboundDataSize := g.outboundDataSize + data.length }
  modifyDescriptor self fun d => { d with epollEvents := epollIn ||| epollOut }
  modifyInterest self
  return data.length

/-- `DatagramDescriptor::SendOutboundData`: a reply to the last sender. Empty datagrams are
queued. -/
def sendOutboundData (self : Binding) (data : OutboundData) : EM Int := do
  if (← descriptor self).isCloseScheduled then return 0
  queueDatagram self data (← datagram self).returnAddress

/-- `SendOutboundDatagram`: a datagram to an explicit address. `resolved` is what
`EventMachine_t::name2address` (em.cpp, not under src/) made of `address` and `port`. -/
def sendOutboundDatagram (self : Binding) (data : OutboundData) (address : Option String)
    (port : Int) (resolved : Option SockAddr) : EM Int := do
  if (← descriptor self).isCloseScheduled then return 0
  if address.getD "" = "" ∨ port = 0 then return 0
  match resolved with
  | none => return -1
  | some addrHere => queueDatagram self data addrHere

end DatagramDescriptor

namespace EventableDescriptor

/-- Modelled from the spec: the base class's `SendOutboundData`, inline in ed.h (not under
src/), queues nothing and returns `-1`; only streams and datagram sockets have a queue. -/
def sendOutboundData (_self : Binding) (_data : OutboundData) : EM Int := return -1

end EventableDescriptor

namespace Virtual

/-- `SendOutboundData` through a base pointer, as a proxy source forwards to its target. -/
def sendOutboundData (self : Binding) (data : OutboundData) : EM Int := do
  match (← descriptor self).sub with
  | .connection _ => ConnectionDescriptor.sendOutboundData self data
  | .datagram _ => DatagramDescriptor.sendOutboundData self data
  | _ => EventableDescriptor.sendOutboundData self data

end Virtual

end EventMachine

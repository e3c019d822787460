import Mathlib.Logic.Function.Basic

/-!
# Descriptors and the reactor

The objects of `ed.cpp` as Lean records. An `EventableDescriptor` holds the members of the
base class together with those of its subclass (`ConnectionDescriptor`, `DatagramDescriptor`,
or one of the subclasses without members of their own). The reactor `EventMachine_t` is
outside `ed.cpp`; of it we keep what the descriptors read and write: the descriptor table
keyed by binding, the pending-close counter, the heartbeat queue, the clocks, and a trace of
the calls a descriptor makes on the poller and the kernel. The allocator's answers are part
of the state too: `mallocResults` lists the outcomes of the coming `malloc` calls.

Methods run in `EM`, a state monad over the reactor whose exceptions keep the state reached
at the `throw`, as a C++ exception does: nothing is rolled back.
-/

namespace EventMachine

/-- A byte of socket data, a `char` of the source. -/
abbrev Byte := UInt8

/-- The opaque handle `Bindable_t` gives each descriptor. Bindings come from a counter and
are never reused, so a stale one finds nothing. -/
abbrev Binding := Nat

/-- A socket address as `recvfrom` or `name2address` fills it in. -/
structure SockAddr where
  bytes : List Byte
  deriving DecidableEq, Repr

/-- The all-zero address `memset` leaves in `ReturnAddress`. -/
def SockAddr.zero : SockAddr := ⟨[]⟩

/-! ## Constants of the platform headers (Linux values) -/

/-- `INVALID_SOCKET` on Unix. -/
def invalidSocket : Int := -1

def epollIn : UInt32 := 0x001
def epollOut : UInt32 := 0x004

def eintr : Int := 4
def eagain : Int := 11
def ewouldblock : Int := 11
def eproto : Int := 71
def etimedout : Int := 110
def einprogress : Int := 115

/-- The size of the stack buffer `_WriteOutboundData` gathers into when `writev` is
unavailable, `sizeof (output_buffer)`. -/
def outputBufferSize : Nat := 16 * 1024

/-- The most pages one `writev` gathers. -/
def maxIovecs : Nat := 16

/-- The reads (or datagrams) one `Read` attempts before yielding to other descriptors. -/
def readBurst : Nat := 10

/-- Modelled from the spec: `SSLBOX_INPUT_CHUNKSIZE` is declared in ssl.h (not under src/);
the spec only says outbound plaintext goes to the TLS engine in fixed-size pieces. -/
def sslboxInputChunksize : Nat := 2019

/-! ## Outcomes and events -/

/-- How a call can end other than by returning: a `std::runtime_error`, which the caller may
catch, a failed `assert`, which aborts the process, or undefined behaviour, such as following
a pointer to a deleted descriptor. -/
inductive Fault
  | runtimeError (what : String)
  | assertionFailed (what : String)
  | undefinedBehaviour (what : String)
  deriving DecidableEq, Repr

/-- The event codes of `eventmachine.h` that `ed.cpp` passes to the callback. -/
inductive EventKind
  | connectionRead
  | connectionUnbound
  | connectionAccepted
  | connectionCompleted
  | connectionNotifyReadable
  | connectionNotifyWritable
  | sslHandshakeCompleted
  | proxyTargetUnbound
  | proxyCompleted
  | loopbreakSignal
  deriving DecidableEq, Repr

/-- One invocation of `EventCallback (binding, event, data, value)`. -/
structure CallbackEvent where
  binding : Binding
  kind : EventKind
  data : List Byte
  value : Int
  deriving DecidableEq, Repr

/-- The calls a descriptor makes on the reactor and on the kernel: poll registration, handle
release, reads, and the bytes a send accepted. -/
inductive TraceEntry
  | deregister (binding : Binding)
  | modify (binding : Binding)
  | add (binding : Binding)
  | shutdown (fd : Int)
  | close (fd : Int)
  | recv (fd : Int)
  | send (fd : Int) (bytes : List Byte)
  deriving DecidableEq, Repr

/-! ## Descriptor records -/

/-- A queued piece of stream output. `Length` is the length of `buffer`, and
`buffer[offset, Length)` is still to be sent. -/
structure OutboundPage where
  buffer : List Byte
  offset : Nat
  deriving DecidableEq, Repr

def OutboundPage.length (p : OutboundPage) : Nat := p.buffer.length

/-- The bytes of a page that are still to be sent. -/
def OutboundPage.unsent (p : OutboundPage) : List Byte := p.buffer.drop p.offset

/-- A queued datagram and the address it goes to. -/
structure DatagramPage where
  buffer : List Byte
  fromAddress : SockAddr
  deriving DecidableEq, Repr

/-- The strings and flags `SetTlsParms` records for `StartTls`. -/
structure TlsParms where
  privateKeyFilename : String := ""
  privateKey : String := ""
  privateKeyPass : String := ""
  certChainFilename : String := ""
  cert : String := ""
  bSslVerifyPeer : Bool := false
  bSslFailIfNoPeerCert : Bool := false
  sniHostName : String := ""
  cipherList : String := ""
  ecdhCurve : String := ""
  dhParam : String := ""
  protocols : Int := 0
  deriving DecidableEq, Repr

/-- What the TLS engine `SslBox_t` (ssl.cpp, not under src/) answers, in the order the
descriptor asks. A query whose answer is not next gets the idle answer: no ciphertext ready,
nothing pumped, no plaintext, handshake not complete. -/
inductive SslReply
  /-- `CanGetCiphertext` holds and `GetCiphertext` yields `chunk`. -/
  | ciphertext (chunk : List Byte)
  /-- `PutPlaintext` accepted bytes. -/
  | pumped
  /-- `PutPlaintext` failed, or `GetPlaintext` returned `-2`. -/
  | failed
  /-- `GetPlaintext` yields `chunk`. -/
  | plaintext (chunk : List Byte)
  /-- `IsHandshakeCompleted` becomes true. -/
  | handshakeCompleted
  deriving DecidableEq, Repr

/-- A TLS engine: the answers it will give, and whether its handshake is complete. -/
structure SslBox where
  replies : List SslReply
  handshakeCompleted : Bool := false
  deriving DecidableEq, Repr

/-- The members `ConnectionDescriptor` adds, with the values its constructor gives them.
`sslBox` is `none` for a null `SslBox`. -/
structure ConnectionDescriptor where
  bConnectPending : Bool := false
  bNotifyReadable : Bool := false
  bNotifyWritable : Bool := false
  bReadAttemptedAfterClose : Bool := false
  bWriteAttemptedAfterClose : Bool := false
  outboundPages : List OutboundPage := []
  outboundDataSize : Int := 0
  sslBox : Option SslBox := none
  bHandshakeSignaled : Bool := false
  bIsServer : Bool := false
  tlsParms : TlsParms := {}
  deriving DecidableEq, Repr

/-- The members `DatagramDescriptor` adds. -/
structure DatagramDescriptor where
  outboundPages : List DatagramPage := []
  outboundDataSize : Int := 0
  returnAddress : SockAddr := SockAddr.zero
  deriving DecidableEq, Repr

/-- The subclass of a descriptor, with its own members. -/
inductive Subclass
  | connection (c : ConnectionDescriptor)
  | datagram (g : DatagramDescriptor)
  | acceptor
  | loopbreak
  | inotify
  deriving DecidableEq, Repr

/-- An `EventableDescriptor` with the members of its subclass. Defaults are the values of the
base constructor's initialiser list; `BytesToProxy` is left uninitialised there and starts at
`0` here. -/
structure EventableDescriptor where
  bCloseNow : Bool := false
  bCloseAfterWriting : Bool := false
  mySocket : Int
  bAttached : Bool := false
  bWatchOnly : Bool := false
  bCallbackUnbind : Bool := true
  unbindReasonCode : Int := 0
  proxyTarget : Option Binding := none
  proxiedFrom : Option Binding := none
  bytesToProxy : Nat := 0
  proxiedBytes : Nat := 0
  maxOutboundBufSize : Nat := 0
  createdAt : UInt64
  lastActivity : UInt64
  pendingConnectTimeout : UInt64 := 20000000
  inactivityTimeout : UInt64 := 0
  nextHeartbeat : UInt64 := 0
  bPaused : Bool := false
  epollEvents : UInt32 := 0
  sub : Subclass
  deriving DecidableEq, Repr

/-- The reactor state the descriptors see. `descriptors` is the `Bindable_t` table: a
binding maps to its live object, and a deleted object's binding maps to nothing. -/
structure Reactor where
  descriptors : Binding → Option EventableDescriptor
  nextBinding : Binding
  numCloseScheduled : Int
  heartbeats : List (UInt64 × Binding)
  currentLoopTime : UInt64
  realTime : UInt64
  timerQuantum : UInt64
  simultaneousAcceptCount : Nat
  callbacks : List CallbackEvent
  trace : List TraceEntry
  mallocResults : List Bool

/-- A method of a descriptor, or of the reactor, run against the reactor state. -/
abbrev EM := EStateM Fault Reactor

/-! ## Reading and writing the descriptor table -/

namespace Subclass

/-- Apply `f` to the members of a connection; other subclasses are unchanged. -/
def mapConnection (f : ConnectionDescriptor → ConnectionDescriptor) : Subclass → Subclass
  | connection c => connection (f c)
  | s => s

/-- Apply `f` to the members of a datagram socket; other subclasses are unchanged. -/
def mapDatagram (f : DatagramDescriptor → DatagramDescriptor) : Subclass → Subclass
  | datagram g => datagram (f g)
  | s => s

end Subclass

/-- Dereference the object behind a binding. -/
def descriptor (b : Binding) : EM EventableDescriptor := fun r =>
  match r.descriptors b with
  | some d => .ok d r
  | none => .error (.undefinedBehaviour "dangling descriptor") r

/-- Write the members of the object behind a binding. -/
def modifyDescriptor (b : Binding) (f : EventableDescriptor → EventableDescriptor) :
    EM Unit := fun r =>
  match r.descriptors b with
  | some d => .ok () { r with descriptors := Function.update r.descriptors b (some (f d)) }
  | none => .error (.undefinedBehaviour "dangling descriptor") r

/-- The `ConnectionDescriptor` members of the object behind a binding; an object of another
class is a bad cast. -/
def connection (b : Binding) : EM ConnectionDescriptor := do
  match (← descriptor b).sub with
  | .connection c => pure c
  | _ => throw (.undefinedBehaviour "bad cast")

/-- The `DatagramDescriptor` members of the object behind a binding. -/
def datagram (b : Binding) : EM DatagramDescriptor := do
  match (← descriptor b).sub with
  | .datagram g => pure g
  | _ => throw (.undefinedBehaviour "bad cast")

def modifyConnection (b : Binding) (f : ConnectionDescriptor → ConnectionDescriptor) :
    EM Unit :=
  modifyDescriptor b fun d => { d with sub := d.sub.mapConnection f }

def modifyDatagram (b : Binding) (f : DatagramDescriptor → DatagramDescriptor) : EM Unit :=
  modifyDescriptor b fun d => { d with sub := d.sub.mapDatagram f }

/-- Append a call to the trace. -/
def emit (e : TraceEntry) : EM Unit :=
  modify fun r => { r with trace := r.trace ++ [e] }

/-- `(*EventCallback)(binding, kind, data, value)`, as recorded; what the application does
in response is added by `invokeCallback`. -/
def callback (b : Binding) (kind : EventKind) (data : List Byte) (value : Int) : EM Unit :=
  modify fun r => { r with callbacks := r.callbacks ++ [⟨b, kind, data, value⟩] }

/-- `malloc`: the allocator's next scripted answer, success when none is left. -/
def malloc : EM Bool :=
  modifyGet fun r => (r.mallocResults.headD true, { r with mallocResults := r.mallocResults.tail })

def getCurrentLoopTime : EM UInt64 := return (← get).currentLoopTime
def getRealTime : EM UInt64 := return (← get).realTime
def getTimerQuantum : EM UInt64 := return (← get).timerQuantum

end EventMachine

import EventMachine.Send

/-!
# Public operations and the application's callback

The operations an application may call on a descriptor, from a callback or from anywhere else
on the reactor thread, and what happens when the reactor invokes the callback: the event is
recorded and the application makes whatever calls it chooses, rescuing the
`std::runtime_error`s they throw. Nothing is assumed about the application's choices.
-/

namespace EventMachine

namespace ConnectionDescriptor

/-- `ConnectionDescriptor::SetCommInactivityTimeout`: milliseconds, stored in microseconds;
`0` turns the timeout off. -/
def setCommInactivityTimeout (self : Binding) (value : UInt64) : EM Int := do
  modifyDescriptor self fun d => { d with inactivityTimeout := value * 1000 }
  queueHeartbeat self
  return 1

end ConnectionDescriptor

namespace DatagramDescriptor

/-- `DatagramDescriptor::SetCommInactivityTimeout`: a zero value is refused. -/
def setCommInactivityTimeout (self : Binding) (value : UInt64) : EM Int := do
  if value > 0 then
    modifyDescriptor self fun d => { d with inactivityTimeout := value * 1000 }
    queueHeartbeat self
    return 1
  return 0

end DatagramDescriptor

namespace AcceptorDescriptor

/-- `StopAcceptor`: schedule an immediate close of the acceptor behind a binding. -/
def stopAcceptor (binding : Binding) : EM Unit := do
  match (← get).descriptors binding with
  | some d =>
    if d.sub = .acceptor then EventableDescriptor.scheduleClose binding false
    else throw (.runtimeError "failed to close nonexistent acceptor")
  | none => throw (.runtimeError "failed to close nonexistent acceptor")

end AcceptorDescriptor

namespace Virtual

/-- `ScheduleClose` through a base pointer. -/
def scheduleClose (self : Binding) (afterWriting : Bool) : EM Unit := do
  match (← descriptor self).sub with
  | .connection _ => ConnectionDescriptor.scheduleClose self afterWriting
  | _ => EventableDescriptor.scheduleClose self afterWriting

/-- `SetCommInactivityTimeout` through a base pointer. Modelled from the spec for the
subclasses without a timeout: the base class's version, inline in ed.h (not under src/),
returns `0`. -/
def setCommInactivityTimeout (self : Binding) (value : UInt64) : EM Int := do
  match (← descriptor self).sub with
  | .connection _ => ConnectionDescriptor.setCommInactivityTimeout self value
  | .datagram _ => DatagramDescriptor.setCommInactivityTimeout self value
  | _ => return 0

end Virtual

/-- Modelled from the spec: `EventMachine_t::DetachFD` (em.cpp, not under src/) takes the
descriptor out of the poll set and marks its socket invalid without closing the handle, so
that the reactor deletes the object and the application keeps the handle. -/
def detachFd (b : Binding) : EM Int := do
  let d ← descriptor b
  modifyDescriptor b fun d => { d with mySocket := invalidSocket }
  return d.mySocket

/-- The public operations on descriptors. -/
inductive ApiCall
  | scheduleClose (b : Binding) (afterWriting : Bool)
  | sendOutboundData (b : Binding) (data : OutboundData)
  | sendOutboundDatagram (b : Binding) (data : OutboundData) (address : Option String)
      (port : Int) (resolved : Option SockAddr)
  | startProxy (b target : Binding) (bufsize length : Nat)
  | stopProxy (b : Binding)
  | pause (b : Binding)
  | resume (b : Binding)
  | setNotifyReadable (b : Binding) (readable : Bool)
  | setNotifyWritable (b : Binding) (writable : Bool)
  | setCommInactivityTimeout (b : Binding) (value : UInt64)
  | setPendingConnectTimeout (b : Binding) (value : UInt64)
  | startTls (b : Binding) (box : SslBox)
  | setTlsParms (b : Binding) (parms : TlsParms)
  | stopAcceptor (b : Binding)
  | detach (b : Binding)

/-- Run `x` on a live descriptor; a stale binding fails closed. -/
def onDescriptor (b : Binding) (x : EM Unit) : EM Unit := do
  match (← get).descriptors b with
  | some _ => x
  | none => throw (.runtimeError "unknown descriptor")

theorem onDescriptor_run {s : Reactor} {b : Binding} {d : EventableDescriptor} {x : EM Unit}
    (hd : s.descriptors b = some d) : onDescriptor b x s = x s := by
  simp only [onDescriptor, bind, EStateM.bind, get, getThe, MonadStateOf.get, EStateM.get, hd]

/-- Run `x` on a live descriptor of a subclass that `ofClass` accepts. -/
def onClass (b : Binding) (ofClass : Subclass → Bool) (x : EM Unit) : EM Unit := do
  match (← get).descriptors b with
  | some d => if ofClass d.sub then x else throw (.runtimeError "unknown descriptor")
  | none => throw (.runtimeError "unknown descriptor")

def Subclass.isConnection : Subclass → Bool
  | .connection _ => true
  | _ => false

def Subclass.isDatagram : Subclass → Bool
  | .datagram _ => true
  | _ => false

/-- Modelled from the spec: the `evma_*` entry points (cmain.cpp, not under src/) look the
binding up and call the method; a stale binding, or one naming an object of the wrong class,
fails closed with an exception before anything changes. -/
def runApiCall : ApiCall → EM Unit
  | .scheduleClose b afterWriting => onDescriptor b (Virtual.scheduleClose b afterWriting)
  | .sendOutboundData b data => onDescriptor b (discard <| Virtual.sendOutboundData b data)
  | .sendOutboundDatagram b data address port resolved =>
    onClass b Subclass.isDatagram <| discard <|
      DatagramDescriptor.sendOutboundDatagram b data address port resolved
  | .startProxy b target bufsize length =>
    onDescriptor b (EventableDescriptor.startProxy b target bufsize length)
  | .stopProxy b => onDescriptor b (EventableDescriptor.stopProxy b)
  | .pause b => onDescriptor b (discard <| Virtual.pause b)
  | .resume b => onDescriptor b (discard <| Virtual.resume b)
  | .setNotifyReadable b readable =>
    onClass b Subclass.isConnection (ConnectionDescriptor.setNotifyReadable b readable)
  | .setNotifyWritable b writable =>
    onClass b Subclass.isConnection (ConnectionDescriptor.setNotifyWritable b writable)
  | .setCommInactivityTimeout b value =>
    onDescriptor b (discard <| Virtual.setCommInactivityTimeout b value)
  | .setPendingConnectTimeout b value =>
    onDescriptor b (discard <| EventableDescriptor.setPendingConnectTimeout b value)
  | .startTls b box => onClass b Subclass.isConnection (ConnectionDescriptor.startTls b box)
  | .setTlsParms b parms =>
    onClass b Subclass.isConnection (ConnectionDescriptor.setTlsParms b parms)
  | .stopAcceptor b => AcceptorDescriptor.stopAcceptor b
  | .detach b => onDescriptor b (discard <| detachFd b)

/-- The application: the calls it makes when its callback receives an event, chosen from the
reactor state and the event. -/
abbrev App := Reactor → CallbackEvent → List ApiCall

/-- A call whose `std::runtime_error` the caller rescues; the state reached at the `throw`
stays. -/
def rescue (x : EM Unit) : EM Unit := fun s =>
  match x s with
  | .error (.runtimeError _) s' => .ok () s'
  | r => r

@[simp] theorem wp_rescue {x : EM Unit} {Q : Unit → Reactor → Prop} {E : Reactor → Prop}
    {s : Reactor} : wp (rescue x) Q E s ↔ wp x Q (Q ()) s := by
  unfold wp rescue
  rcases x s with ⟨a, s'⟩ | ⟨⟨⟩, s'⟩ <;> rfl

theorem Guarantee.rescue {R : Reactor → Reactor → Prop} {x : EM Unit} (h : Guarantee R x) :
    Guarantee R (rescue x) := fun s =>
  wp_rescue.2 (h s)

theorem Succeeds.rescue {x : EM Unit} {Q : Unit → Reactor → Prop} {s : Reactor}
    (h : Succeeds x Q s) : Succeeds (rescue x) Q s := by
  obtain ⟨a, s', hx, hq⟩ := h.run
  simp only [Succeeds, EventMachine.rescue, hx]
  exact hq

/-- Make the calls in order, rescuing each one's exception. -/
def runCalls : List ApiCall → EM Unit
  | [] => pure ()
  | c :: cs => do
    rescue (runApiCall c)
    runCalls cs

/-- `(*EventCallback)(binding, kind, data, value)`: record the event, then let the
application react. -/
def invokeCallback (app : App) (b : Binding) (kind : EventKind) (data : List Byte)
    (value : Int) : EM Unit := do
  callback b kind data value
  runCalls (app (← get) ⟨b, kind, data, value⟩)

end EventMachine

import EventMachine.Evolution

/-!
# The proxy byte limit

`StartProxy (target, bufsize, length)` forwards at most `length` bytes (`0`: no limit) of what
arrives on a descriptor to `target`. `_GenericInboundDispatch` forwards each chunk while the
limit allows. At the chunk where the limit is reached it stops the proxy, fires
`EM_PROXY_COMPLETED`, and delivers the rest of that chunk to the application as
`EM_CONNECTION_READ`, as it does every later chunk.

`proxyPlan` says this chunk by chunk, as the events an observer sees: bytes handed to the
target's `SendOutboundData`, the completion, bytes delivered to the callback. The plan forwards
exactly the first `length` bytes and delivers the rest, in order (`proxyPlan_limitSplit`). A run
of dispatches is the plan performed, call for call, as long as the application's callbacks make
no proxy operation (`dispatchChunks_eq_performPlan`): every other public operation, and every
`SendOutboundData` on the target, leaves the proxy members of every descriptor as they are
(`KeepsProxies`).
-/

namespace EventMachine

/-! ## Frames: operations that leave the proxy members alone -/

/-- The proxy members of a descriptor: its target and source, the bytes still to forward and
forwarded so far, and the threshold it holds as a target. -/
def EventableDescriptor.proxyState (d : EventableDescriptor) :
    Option Binding × Option Binding × Nat × Nat × Nat :=
  (d.proxyTarget, d.proxiedFrom, d.bytesToProxy, d.proxiedBytes, d.maxOutboundBufSize)

/-- The proxy members of every descriptor; `none` for a binding with no live object. -/
def proxyView (s : Reactor) (b : Binding) :
    Option (Option Binding × Option Binding × Nat × Nat × Nat) :=
  (s.descriptors b).map EventableDescriptor.proxyState

/-- `s'` has the live descriptors of `s`, with the same proxy members. -/
def SameProxies (s s' : Reactor) : Prop := proxyView s' = proxyView s

instance : IsRefl Reactor SameProxies := ⟨fun _ => rfl⟩

instance : IsTrans Reactor SameProxies := ⟨fun _ _ _ h h' => h'.trans h⟩

/-- Every run of `x` the reactor survives keeps the proxy members of every descriptor. -/
abbrev KeepsProxies {α : Type} (x : EM α) : Prop := Guarantee SameProxies x

theorem sameProxies_of_update {s s' : Reactor} {b : Binding} {d d' : EventableDescriptor}
    (hd : s.descriptors b = some d) (hs' : s'.descriptors = Function.update s.descriptors b (some d'))
    (h : d'.proxyState = d.proxyState) : SameProxies s s' := by
  funext b'
  by_cases hb : b' = b
  · subst hb
    simp [proxyView, hs', hd, h]
  · simp [proxyView, hs', Function.update_noteq hb]

section Primitives

theorem keepsProxies_modify {f : Reactor → Reactor} (hf : ∀ s, (f s).descriptors = s.descriptors) :
    KeepsProxies (modify f : EM Unit) := fun s => by
  show proxyView (f s) = proxyView s
  unfold proxyView
  rw [hf]

theorem keepsProxies_emit (e : TraceEntry) : KeepsProxies (emit e) :=
  keepsProxies_modify fun _ => rfl

theorem keepsProxies_callback (b : Binding) (kind : EventKind) (data : List Byte) (value : Int) :
    KeepsProxies (callback b kind data value) :=
  keepsProxies_modify fun _ => rfl

theorem keepsProxies_malloc : KeepsProxies malloc := fun _ => rfl

theorem keepsProxies_modifyDescriptor (b : Binding) {f : EventableDescriptor → EventableDescriptor}
    (hf : ∀ d, (f d).proxyState = d.proxyState) : KeepsProxies (modifyDescriptor b f) := fun s =>
  preserves_modifyDescriptor b hf s

theorem keepsProxies_modifyConnection (b : Binding) (f : ConnectionDescriptor → ConnectionDescriptor) :
    KeepsProxies (modifyConnection b f) :=
  keepsProxies_modifyDescriptor b fun _ => rfl

theorem keepsProxies_modifyDatagram (b : Binding) (f : DatagramDescriptor → DatagramDescriptor) :
    KeepsProxies (modifyDatagram b f) :=
  keepsProxies_modifyDescriptor b fun _ => rfl

end Primitives

/-! ### The base class and poll interest -/

namespace EventableDescriptor

theorem keepsProxies_scheduleClose (self : Binding) (afterWriting : Bool) :
    KeepsProxies (scheduleClose self afterWriting) := by
  unfold scheduleClose
  exact (preserves_descriptor _).guarantee.bind fun _ =>
    .ite (.ite (keepsProxies_modifyDescriptor _ fun _ => by rfl) (guarantee_pure _))
      ((keepsProxies_modify fun _ => by rfl).bind fun _ =>
        .ite (keepsProxies_modifyDescriptor _ fun _ => by rfl)
          (keepsProxies_modifyDescriptor _ fun _ => by rfl))

end EventableDescriptor

theorem keepsProxies_queueHeartbeat (self : Binding) : KeepsProxies (queueHeartbeat self) := by
  intro s
  by_cases hlive : ∃ d, s.descriptors self = some d
  · obtain ⟨d, hd⟩ := hlive
    exact wp_mono (queueHeartbeat_spec hd) (fun _ _ h => sameProxies_of_update hd h.1 rfl)
      fun _ h => h.elim
  · simp only [queueHeartbeat, EventableDescriptor.getNextHeartbeat, wp_bind, wp_descriptor]
    exact fun d hd => absurd ⟨d, hd⟩ hlive

theorem EventableDescriptor.keepsProxies_setPendingConnectTimeout (self : Binding) (value : UInt64) :
    KeepsProxies (EventableDescriptor.setPendingConnectTimeout self value) := by
  unfold EventableDescriptor.setPendingConnectTimeout
  exact .ite ((keepsProxies_modifyDescriptor _ fun _ => by rfl).bind fun _ =>
    (keepsProxies_queueHeartbeat _).bind fun _ => guarantee_pure _) (guarantee_pure _)

namespace ConnectionDescriptor

theorem keepsProxies_updateEvents (self : Binding) (read write : Bool) :
    KeepsProxies (updateEvents self read write) := by
  simp only [updateEvents, pure_bind]
  exact (preserves_descriptor _).guarantee.bind fun _ => .ite (guarantee_pure _) <|
    .ite (guarantee_pure _) <| (preserves_connection _).guarantee.bind fun _ =>
      (keepsProxies_modifyDescriptor _ fun _ => by rfl).bind fun _ =>
        .ite (keepsProxies_emit _) (guarantee_pure _)

theorem keepsProxies_setNotifyReadable (self : Binding) (readable : Bool) :
    KeepsProxies (setNotifyReadable self readable) := by
  unfold setNotifyReadable
  exact (preserves_descriptor _).guarantee.bind fun _ => .when (guarantee_throw_runtimeError _) <|
    (keepsProxies_modifyConnection _ _).bind fun _ => keepsProxies_updateEvents _ _ _

theorem keepsProxies_setNotifyWritable (self : Binding) (writable : Bool) :
    KeepsProxies (setNotifyWritable self writable) := by
  unfold setNotifyWritable
  exact (preserves_descriptor _).guarantee.bind fun _ => .when (guarantee_throw_runtimeError _) <|
    (keepsProxies_modifyConnection _ _).bind fun _ => keepsProxies_updateEvents _ _ _

theorem keepsProxies_pause (self : Binding) : KeepsProxies (pause self) := by
  unfold pause
  exact (preserves_descriptor _).guarantee.bind fun _ => .when (guarantee_throw_runtimeError _) <|
    (keepsProxies_modifyDescriptor _ fun _ => by rfl).bind fun _ =>
      (keepsProxies_updateEvents _ _ _).bind fun _ => guarantee_pure _

theorem keepsProxies_resume (self : Binding) : KeepsProxies (resume self) := by
  unfold resume
  exact (preserves_descriptor _).guarantee.bind fun _ => .when (guarantee_throw_runtimeError _) <|
    (keepsProxies_modifyDescriptor _ fun _ => by rfl).bind fun _ =>
      (keepsProxies_updateEvents _ _ _).bind fun _ => guarantee_pure _

end ConnectionDescriptor

namespace Virtual

theorem keepsProxies_pause (self : Binding) : KeepsProxies (pause self) := by
  unfold pause EventableDescriptor.pause
  refine (preserves_descriptor _).guarantee.bind fun d => ?_
  split
  · exact ConnectionDescriptor.keepsProxies_pause _
  · exact (keepsProxies_modifyDescriptor _ fun _ => by rfl).bind fun _ => guarantee_pure _

theorem keepsProxies_resume (self : Binding) : KeepsProxies (resume self) := by
  unfold resume EventableDescriptor.resume
  refine (preserves_descriptor _).guarantee.bind fun d => ?_
  split
  · exact ConnectionDescriptor.keepsProxies_resume _
  · exact (keepsProxies_modifyDescriptor _ fun _ => by rfl).bind fun _ => guarantee_pure _

end Virtual

/-! ### Queueing outbound data -/

namespace ConnectionDescriptor

theorem keepsProxies_sslCall {α : Type} (self : Binding) (query : SslBox → α × SslBox) :
    KeepsProxies (sslCall self query) := by
  unfold sslCall
  refine (preserves_connection _).guarantee.bind fun c => ?_
  split
  · exact (keepsProxies_modifyConnection _ _).bind fun _ => guarantee_pure _
  · exact guarantee_throw_assertionFailed _

theorem keepsProxies_scheduleClose (self : Binding) (afterWriting : Bool) :
    KeepsProxies (scheduleClose self afterWriting) := by
  unfold scheduleClose
  exact (preserves_descriptor _).guarantee.bind fun _ => .when (guarantee_throw_runtimeError _) <|
    EventableDescriptor.keepsProxies_scheduleClose _ _

theorem keepsProxies_sendRawOutboundData (self : Binding) (data : OutboundData) :
    KeepsProxies (sendRawOutboundData self data) := by
  unfold sendRawOutboundData
  refine (preserves_descriptor _).guarantee.bind fun _ => .ite (guarantee_pure _) ?_
  refine .ite (guarantee_pure _) ?_
  split
  · exact guarantee_throw_runtimeError _
  · refine (guarantee_pure _).bind fun _ => keepsProxies_malloc.bind fun _ => ?_
    lift_lets
    intro jp
    have hjp : ∀ y, KeepsProxies (jp y) := fun _ => (keepsProxies_modifyConnection _ _).bind
      fun _ => (keepsProxies_updateEvents _ _ _).bind fun _ => guarantee_pure _
    exact .ite ((guarantee_throw_runtimeError _).bind hjp) ((guarantee_pure _).bind hjp)

theorem keepsProxies_drainCiphertext (self : Binding) :
    ∀ fuel, KeepsProxies (drainCiphertext self fuel)
  | 0 => guarantee_pure _
  | fuel + 1 => by
    simp only [drainCiphertext]
    exact (keepsProxies_sslCall _ _).bind fun _ => .ite (guarantee_pure _) <|
      (keepsProxies_sslCall _ _).bind fun _ => .when (guarantee_throw_assertionFailed _) <|
        (keepsProxies_sendRawOutboundData _ _).discard.bind fun _ =>
          (keepsProxies_drainCiphertext self fuel).discard.bind fun _ => guarantee_pure _

theorem keepsProxies_pumpPlaintext (self : Binding) :
    ∀ fuel, KeepsProxies (pumpPlaintext self fuel)
  | 0 => guarantee_pure _
  | fuel + 1 => by
    simp only [pumpPlaintext]
    exact (keepsProxies_sslCall _ _).bind fun _ =>
      .ite ((keepsProxies_pumpPlaintext self fuel).discard.bind fun _ => guarantee_pure _) <|
        .when (keepsProxies_scheduleClose _ _) (guarantee_pure _)

theorem keepsProxies_dispatchCiphertextLoop (self : Binding) (fuel : Nat) :
    ∀ passes, KeepsProxies (dispatchCiphertextLoop self fuel passes)
  | 0 => guarantee_pure _
  | passes + 1 => by
    simp only [dispatchCiphertextLoop]
    exact (keepsProxies_drainCiphertext _ _).bind fun _ => (keepsProxies_pumpPlaintext _ _).bind
      fun _ => .ite (keepsProxies_dispatchCiphertextLoop self fuel passes) (guarantee_pure _)

theorem keepsProxies_dispatchCiphertext (self : Binding) :
    KeepsProxies (dispatchCiphertext self) := by
  unfold dispatchCiphertext
  refine (preserves_connection _).guarantee.bind fun c => ?_
  split
  · exact keepsProxies_dispatchCiphertextLoop _ _ _
  · exact guarantee_throw_assertionFailed _

theorem keepsProxies_putPlaintextPieces (self : Binding) (data : OutboundData) :
    KeepsProxies (putPlaintextPieces self data) := by
  unfold putPlaintextPieces
  lift_lets
  intro _ col jp
  have hjp : ∀ y, KeepsProxies (jp y) := fun _ => (keepsProxies_sslCall _ _).bind fun _ =>
    .ite ((keepsProxies_scheduleClose _ _).bind fun _ => guarantee_pure _)
      ((keepsProxies_dispatchCiphertext _).bind fun _ => guarantee_pure _)
  exact (Guarantee.forIn col PUnit.unit fun _ _ => .ite
    ((guarantee_throw_undefinedBehaviour _).bind hjp) ((guarantee_pure _).bind hjp)).bind fun _ =>
      guarantee_pure _

theorem keepsProxies_sendOutboundData (self : Binding) (data : OutboundData) :
    KeepsProxies (sendOutboundData self data) := by
  unfold sendOutboundData
  refine (preserves_descriptor _).guarantee.bind fun d => .when (guarantee_throw_runtimeError _) ?_
  lift_lets
  intro raw one tls
  have hraw : ∀ y, KeepsProxies (raw y) := fun _ => keepsProxies_sendRawOutboundData _ _
  have hone : ∀ y, KeepsProxies (one y) := fun _ => guarantee_pure _
  have htls : ∀ y, KeepsProxies (tls y) := fun _ =>
    (preserves_connection _).guarantee.bind fun _ => .ite
      (.ite ((keepsProxies_putPlaintextPieces _ _).bind hone) ((guarantee_pure _).bind hone))
      ((guarantee_pure _).bind hraw)
  split
  · exact .ite ((Virtual.keepsProxies_pause _).discard.bind htls) ((guarantee_pure _).bind htls)
  · exact (guarantee_pure _).bind htls

theorem keepsProxies_startTls (self : Binding) (box : SslBox) :
    KeepsProxies (startTls self box) := by
  unfold startTls
  exact (preserves_connection _).guarantee.bind fun _ => .when (guarantee_throw_runtimeError _) <|
    (keepsProxies_modifyConnection _ _).bind fun _ => keepsProxies_dispatchCiphertext _

theorem keepsProxies_setTlsParms (self : Binding) (parms : TlsParms) :
    KeepsProxies (setTlsParms self parms) := by
  unfold setTlsParms
  exact (preserves_connection _).guarantee.bind fun _ => .when (guarantee_throw_runtimeError _) <|
    keepsProxies_modifyConnection _ _

theorem keepsProxies_setCommInactivityTimeout (self : Binding) (value : UInt64) :
    KeepsProxies (setCommInactivityTimeout self value) :=
  (keepsProxies_modifyDescriptor _ fun _ => by rfl).bind fun _ =>
    (keepsProxies_queueHeartbeat _).bind fun _ => guarantee_pure _

end ConnectionDescriptor

namespace DatagramDescriptor

theorem keepsProxies_queueDatagram (self : Binding) (data : OutboundData) (dest : SockAddr) :
    KeepsProxies (queueDatagram self data dest) := by
  unfold queueDatagram
  exact .when (guarantee_throw_runtimeError _) <| keepsProxies_malloc.bind fun _ =>
    .when (guarantee_throw_runtimeError _) <| (keepsProxies_modifyDatagram _ _).bind fun _ =>
      (keepsProxies_modifyDescriptor _ fun _ => by rfl).bind fun _ =>
        (keepsProxies_emit _).bind fun _ => guarantee_pure _

theorem keepsProxies_sendOutboundData (self : Binding) (data : OutboundData) :
    KeepsProxies (sendOutboundData self data) := by
  unfold sendOutboundData
  exact (preserves_descriptor _).guarantee.bind fun _ => .ite (guarantee_pure _) <|
    (preserves_datagram _).guarantee.bind fun _ => keepsProxies_queueDatagram _ _ _

theorem keepsProxies_sendOutboundDatagram (self : Binding) (data : OutboundData)
    (address : Option String) (port : Int) (resolved : Option SockAddr) :
    KeepsProxies (sendOutboundDatagram self data address port resolved) := by
  unfold sendOutboundDatagram
  refine (preserves_descriptor _).guarantee.bind fun _ => .ite (guarantee_pure _) <|
    .ite (guarantee_pure _) ?_
  split
  · exact guarantee_pure _
  · exact keepsProxies_queueDatagram _ _ _

theorem keepsProxies_setCommInactivityTimeout (self : Binding) (value : UInt64) :
    KeepsProxies (setCommInactivityTimeout self value) := by
  unfold setCommInactivityTimeout
  exact .ite ((keepsProxies_modifyDescriptor _ fun _ => by rfl).bind fun _ =>
    (keepsProxies_queueHeartbeat _).bind fun _ => guarantee_pure _) (guarantee_pure _)

end DatagramDescriptor

namespace Virtual

theorem keepsProxies_sendOutboundData (self : Binding) (data : OutboundData) :
    KeepsProxies (sendOutboundData self data) := by
  unfold sendOutboundData EventableDescriptor.sendOutboundData
  refine (preserves_descriptor _).guarantee.bind fun d => ?_
  split
  · exact ConnectionDescriptor.keepsProxies_sendOutboundData _ _
  · exact DatagramDescriptor.keepsProxies_sendOutboundData _ _
  · exact guarantee_pure _

theorem keepsProxies_scheduleClose (self : Binding) (afterWriting : Bool) :
    KeepsProxies (scheduleClose self afterWriting) := by
  unfold scheduleClose
  refine (preserves_descriptor _).guarantee.bind fun d => ?_
  split
  · exact ConnectionDescriptor.keepsProxies_scheduleClose _ _
  · exact EventableDescriptor.keepsProxies_scheduleClose _ _

theorem keepsProxies_setCommInactivityTimeout (self : Binding) (value : UInt64) :
    KeepsProxies (setCommInactivityTimeout self value) := by
  unfold setCommInactivityTimeout
  refine (preserves_descriptor _).guarantee.bind fun d => ?_
  split
  · exact ConnectionDescriptor.keepsProxies_setCommInactivityTimeout _ _
  · exact DatagramDescriptor.keepsProxies_setCommInactivityTimeout _ _
  · exact guarantee_pure _

end Virtual

/-! ### The public operations and the application -/

/-- `StartProxy` and `StopProxy`, the public operations that change a proxy link. -/
def ApiCall.isProxyCall : ApiCall → Bool
  | .startProxy .. => true
  | .stopProxy _ => true
  | _ => false

/-- An application whose callbacks make no proxy operation. -/
def App.NoProxyCalls (app : App) : Prop := ∀ r e, ∀ c ∈ app r e, c.isProxyCall = false

theorem AcceptorDescriptor.keepsProxies_stopAcceptor (binding : Binding) :
    KeepsProxies (AcceptorDescriptor.stopAcceptor binding) := by
  unfold AcceptorDescriptor.stopAcceptor
  refine preserves_get.guarantee.bind fun r => ?_
  split
  · exact .ite (EventableDescriptor.keepsProxies_scheduleClose _ _) (guarantee_throw_runtimeError _)
  · exact guarantee_throw_runtimeError _

theorem keepsProxies_detachFd (b : Binding) : KeepsProxies (detachFd b) :=
  (preserves_descriptor _).guarantee.bind fun _ =>
    (keepsProxies_modifyDescriptor _ fun _ => by rfl).bind fun _ => guarantee_pure _

theorem keepsProxies_onDescriptor (b : Binding) {x : EM Unit} (hx : KeepsProxies x) :
    KeepsProxies (onDescriptor b x) := by
  unfold onDescriptor
  refine preserves_get.guarantee.bind fun r => ?_
  split
  · exact hx
  · exact guarantee_throw_runtimeError _

theorem keepsProxies_onClass (b : Binding) (ofClass : Subclass → Bool) {x : EM Unit}
    (hx : KeepsProxies x) : KeepsProxies (onClass b ofClass x) := by
  unfold onClass
  refine preserves_get.guarantee.bind fun r => ?_
  split
  · exact .ite hx (guarantee_throw_runtimeError _)
  · exact guarantee_throw_runtimeError _

/-- Every public operation other than `StartProxy` and `StopProxy` keeps the proxy members. -/
theorem keepsProxies_runApiCall {c : ApiCall} (hc : c.isProxyCall = false) :
    KeepsProxies (runApiCall c) := by
  cases c with
  | startProxy => simp [ApiCall.isProxyCall] at hc
  | stopProxy => simp [ApiCall.isProxyCall] at hc
  | scheduleClose b afterWriting =>
    exact keepsProxies_onDescriptor _ (Virtual.keepsProxies_scheduleClose _ _)
  | sendOutboundData b data =>
    exact keepsProxies_onDescriptor _ (Virtual.keepsProxies_sendOutboundData _ _).discard
  | sendOutboundDatagram b data address port resolved =>
    exact keepsProxies_onClass _ _
      (DatagramDescriptor.keepsProxies_sendOutboundDatagram _ _ _ _ _).discard
  | pause b => exact keepsProxies_onDescriptor _ (Virtual.keepsProxies_pause _).discard
  | resume b => exact keepsProxies_onDescriptor _ (Virtual.keepsProxies_resume _).discard
  | setNotifyReadable b readable =>
    exact keepsProxies_onClass _ _ (ConnectionDescriptor.keepsProxies_setNotifyReadable _ _)
  | setNotifyWritable b writable =>
    exact keepsProxies_onClass _ _ (ConnectionDescriptor.keepsProxies_setNotifyWritable _ _)
  | setCommInactivityTimeout b value =>
    exact keepsProxies_onDescriptor _ (Virtual.keepsProxies_setCommInactivityTimeout _ _).discard
  | setPendingConnectTimeout b value =>
    exact keepsProxies_onDescriptor _
      (EventableDescriptor.keepsProxies_setPendingConnectTimeout _ _).discard
  | startTls b box => exact keepsProxies_onClass _ _ (ConnectionDescriptor.keepsProxies_startTls _ _)
  | setTlsParms b parms =>
    exact keepsProxies_onClass _ _ (ConnectionDescriptor.keepsProxies_setTlsParms _ _)
  | stopAcceptor b => exact AcceptorDescriptor.keepsProxies_stopAcceptor _
  | detach b => exact keepsProxies_onDescriptor _ (keepsProxies_detachFd _).discard

theorem keepsProxies_runCalls :
    ∀ calls : List ApiCall, (∀ c ∈ calls, c.isProxyCall = false) → KeepsProxies (runCalls calls)
  | [], _ => guarantee_pure _
  | c :: calls, h => (keepsProxies_runApiCall (h c (.head _))).rescue.bind fun _ =>
    keepsProxies_runCalls calls fun c' hc' => h c' (.tail _ hc')

theorem keepsProxies_invokeCallback {app : App} (happ : app.NoProxyCalls) (b : Binding)
    (kind : EventKind) (data : List Byte) (value : Int) :
    KeepsProxies (invokeCallback app b kind data value) :=
  (keepsProxies_callback _ _ _ _).bind fun _ => preserves_get.guarantee.bind fun r =>
    keepsProxies_runCalls _ (happ r _)

/-! ## The events of a proxied stream -/

/-- What `_GenericInboundDispatch` does that an observer sees: bytes handed to the proxy
target's `SendOutboundData`, the end of the proxy with `EM_PROXY_COMPLETED`, and bytes
delivered to the callback as `EM_CONNECTION_READ`. -/
inductive ProxyEvent
  | forward (bytes : List Byte)
  | completed
  | deliver (bytes : List Byte)
  deriving DecidableEq, Repr

/-- The bytes an event hands to the target. -/
def ProxyEvent.forwardedBytes : ProxyEvent → List Byte
  | forward bytes => bytes
  | _ => []

/-- The bytes an event delivers to the application. -/
def ProxyEvent.deliveredBytes : ProxyEvent → List Byte
  | deliver bytes => bytes
  | _ => []

/-- The bytes a list of events hands to the target, in order. -/
def forwarded (events : List ProxyEvent) : List Byte :=
  (events.map ProxyEvent.forwardedBytes).flatten

/-- The bytes a list of events delivers to the application, in order. -/
def delivered (events : List ProxyEvent) : List Byte :=
  (events.map ProxyEvent.deliveredBytes).flatten

/-- The events of one chunk, as the spec describes them. With `some L`, `L` bytes are still to
be forwarded (`0`: no limit): the chunk is forwarded up to the limit, and when the limit is
reached the proxy completes and the rest of the chunk is delivered. With `none` no proxy is
attached and the chunk is delivered whole. Returns the events and what is left of the limit. -/
def chunkEvents : Option Nat → List Byte → List ProxyEvent × Option Nat
  | none, c => ([.deliver c], none)
  | some 0, c => ([.forward c], some 0)
  | some (k + 1), c =>
    if k + 1 ≤ c.length then
      (.forward (c.take (k + 1)) :: .completed ::
        (if k + 1 < c.length then [.deliver (c.drop (k + 1))] else []), none)
    else ([.forward c], some (k + 1 - c.length))

/-- The events of each chunk in turn. -/
def proxyPlan : Option Nat → List (List Byte) → List (List ProxyEvent)
  | _, [] => []
  | left, c :: cs => (chunkEvents left c).1 :: proxyPlan (chunkEvents left c).2 cs

/-- What the spec asks of the events `plan` of the chunks `cs` with byte limit `L` (`0`: no
limit): the first `L` bytes (all of them without a limit) go to the target and the rest to the
application, in order; the proxy completes once, in the chunk where the running total of bytes
reaches `L`. -/
structure LimitSplit (L : Nat) (cs : List (List Byte)) (plan : List (List ProxyEvent)) :
    Prop where
  forwarded_eq : forwarded plan.flatten = if L = 0 then cs.flatten else cs.flatten.take L
  delivered_eq : delivered plan.flatten = if L = 0 then [] else cs.flatten.drop L
  forwarded_append_delivered : forwarded plan.flatten ++ delivered plan.flatten = cs.flatten
  completes_once :
    plan.flatten.count .completed = if 0 < L ∧ L ≤ cs.flatten.length then 1 else 0
  completes_at : ∀ i : Nat, ProxyEvent.completed ∈ plan[i]?.getD [] ↔
    0 < L ∧ (cs.take i).flatten.length < L ∧ L ≤ (cs.take (i + 1)).flatten.length

section Plan

@[simp] theorem forwarded_append (es es' : List ProxyEvent) :
    forwarded (es ++ es') = forwarded es ++ forwarded es' := by
  simp [forwarded]

@[simp] theorem delivered_append (es es' : List ProxyEvent) :
    delivered (es ++ es') = delivered es ++ delivered es' := by
  simp [delivered]

@[simp] theorem forwarded_cons (e : ProxyEvent) (es : List ProxyEvent) :
    forwarded (e :: es) = e.forwardedBytes ++ forwarded es := rfl

@[simp] theorem delivered_cons (e : ProxyEvent) (es : List ProxyEvent) :
    delivered (e :: es) = e.deliveredBytes ++ delivered es := rfl

@[simp] theorem forwarded_nil : forwarded [] = [] := rfl

@[simp] theorem delivered_nil : delivered [] = [] := rfl

@[simp] theorem proxyPlan_cons (left : Option Nat) (c : List Byte) (cs : List (List Byte)) :
    proxyPlan left (c :: cs) = (chunkEvents left c).1 :: proxyPlan (chunkEvents left c).2 cs :=
  rfl

/-- Once the proxy is stopped every chunk is delivered whole. -/
theorem proxyPlan_none (cs : List (List Byte)) :
    forwarded (proxyPlan none cs).flatten = [] ∧ delivered (proxyPlan none cs).flatten = cs.flatten ∧
      ∀ i : Nat, ProxyEvent.completed ∉ (proxyPlan none cs)[i]?.getD [] := by
  induction cs with
  | nil => simp [proxyPlan]
  | cons c cs ih =>
    refine ⟨by simp [chunkEvents, ProxyEvent.forwardedBytes, ih.1],
      by simp [chunkEvents, ProxyEvent.deliveredBytes, ih.2.1], fun i => ?_⟩
    cases i with
    | zero => simp [chunkEvents]
    | succ i => simpa [chunkEvents] using ih.2.2 i

/-- Without a limit every chunk is forwarded whole. -/
theorem proxyPlan_unlimited (cs : List (List Byte)) :
    forwarded (proxyPlan (some 0) cs).flatten = cs.flatten ∧
      delivered (proxyPlan (some 0) cs).flatten = [] ∧
      ∀ i : Nat, ProxyEvent.completed ∉ (proxyPlan (some 0) cs)[i]?.getD [] := by
  induction cs with
  | nil => simp [proxyPlan]
  | cons c cs ih =>
    refine ⟨by simp [chunkEvents, ProxyEvent.forwardedBytes, ih.1],
      by simp [chunkEvents, ProxyEvent.deliveredBytes, ih.2.1], fun i => ?_⟩
    cases i with
    | zero => simp [chunkEvents]
    | succ i => simpa [chunkEvents] using ih.2.2 i

/-- With a limit, the plan forwards the first `k + 1` bytes and delivers the rest. -/
theorem proxyPlan_limited (k : Nat) (cs : List (List Byte)) :
    forwarded (proxyPlan (some (k + 1)) cs).flatten = cs.flatten.take (k + 1) ∧
      delivered (proxyPlan (some (k + 1)) cs).flatten = cs.flatten.drop (k + 1) := by
  induction cs generalizing k with
  | nil => simp [proxyPlan]
  | cons c cs ih =>
    by_cases hc : k + 1 ≤ c.length
    · have hrest := proxyPlan_none cs
      have hsplit : ∀ rest : List Byte, (c ++ rest).drop (k + 1) =
          (if k + 1 < c.length then c.drop (k + 1) else []) ++ rest := fun rest => by
        rw [List.drop_append_of_le_length hc]
        split_ifs with hlt
        · rfl
        · rw [List.drop_of_length_le (by omega)]
      simp only [proxyPlan_cons, chunkEvents, if_pos hc, List.flatten_cons, forwarded_append,
        delivered_append, forwarded_cons, delivered_cons, hrest.1, hrest.2.1,
        List.take_append_of_le_length hc, hsplit]
      split_ifs <;> simp [ProxyEvent.forwardedBytes, ProxyEvent.deliveredBytes]
    · obtain ⟨j, hj⟩ : ∃ j, k + 1 - c.length = j + 1 := ⟨k - c.length, by omega⟩
      have hle : c.length ≤ k + 1 := by omega
      simp [chunkEvents, hc, hj, (ih j).1, (ih j).2, ProxyEvent.forwardedBytes,
        ProxyEvent.deliveredBytes, List.take_append_eq_append_take, List.take_of_length_le hle,
        List.drop_append_eq_append_drop, List.drop_of_length_le hle]

/-- The completion comes in the chunk where the running total first reaches the limit. -/
theorem completed_mem_proxyPlan (L : Nat) (cs : List (List Byte)) (i : Nat) :
    ProxyEvent.completed ∈ (proxyPlan (some L) cs)[i]?.getD [] ↔
      0 < L ∧ (cs.take i).flatten.length < L ∧ L ≤ (cs.take (i + 1)).flatten.length := by
  induction cs generalizing L i with
  | nil => simp [proxyPlan]; omega
  | cons c cs ih =>
    cases L with
    | zero => simpa using (proxyPlan_unlimited (c :: cs)).2.2 i
    | succ k =>
      cases i with
      | zero =>
        by_cases hc : k + 1 ≤ c.length <;> simp [chunkEvents, hc]
      | succ i =>
        by_cases hc : k + 1 ≤ c.length
        · have := (proxyPlan_none cs).2.2 i
          simp only [proxyPlan_cons, chunkEvents, if_pos hc, List.getElem?_cons_succ] at this ⊢
          simp only [this, false_iff, List.take_succ_cons, List.flatten_cons, List.length_append]
          omega
        · obtain ⟨j, hj⟩ : ∃ j, k + 1 - c.length = j + 1 := ⟨k - c.length, by omega⟩
          simp only [proxyPlan_cons, chunkEvents, if_neg hc, List.getElem?_cons_succ, hj, ih,
            List.take_succ_cons, List.flatten_cons, List.length_append]
          omega

/-- A plan none of whose chunks completes the proxy has no completion at all. -/
theorem count_completed_eq_zero {plan : List (List ProxyEvent)}
    (h : ∀ i : Nat, ProxyEvent.completed ∉ plan[i]?.getD []) :
    plan.flatten.count .completed = 0 :=
  List.count_eq_zero.2 fun hmem => by
    obtain ⟨es, hes, hmem⟩ := List.mem_flatten.1 hmem
    obtain ⟨i, hi⟩ := List.getElem?_of_mem hes
    exact h i (by simpa [hi] using hmem)

/-- The proxy completes once when the chunks reach the limit, and never otherwise. -/
theorem count_completed_proxyPlan (L : Nat) (cs : List (List Byte)) :
    (proxyPlan (some L) cs).flatten.count .completed =
      if 0 < L ∧ L ≤ cs.flatten.length then 1 else 0 := by
  induction cs generalizing L with
  | nil =>
    rw [if_neg (by simp only [List.flatten_nil, List.length_nil]; omega)]
    rfl
  | cons c cs ih =>
    cases L with
    | zero => simpa using count_completed_eq_zero (proxyPlan_unlimited (c :: cs)).2.2
    | succ k =>
      by_cases hc : k + 1 ≤ c.length
      · have h0 := count_completed_eq_zero (proxyPlan_none cs).2.2
        rw [if_pos ⟨k.succ_pos, by simp; omega⟩]
        by_cases hlt : k + 1 < c.length <;> simp [chunkEvents, hc, hlt, h0]
      · obtain ⟨j, hj⟩ : ∃ j, k + 1 - c.length = j + 1 := ⟨k - c.length, by omega⟩
        have hiff : 0 < j + 1 ∧ j + 1 ≤ cs.flatten.length ↔
            0 < k + 1 ∧ k + 1 ≤ c.length + cs.flatten.length := by omega
        simp only [proxyPlan_cons, chunkEvents, if_neg hc, hj, List.flatten_cons,
          List.count_append, ih, List.length_append]
        rw [show [ProxyEvent.forward c].count .completed = 0 from rfl, Nat.zero_add]
        exact if_congr hiff rfl rfl

/-- The plan meets the spec for every limit and every chunking. -/
theorem proxyPlan_limitSplit (L : Nat) (cs : List (List Byte)) :
    LimitSplit L cs (proxyPlan (some L) cs) := by
  have hsplit : forwarded (proxyPlan (some L) cs).flatten =
        (if L = 0 then cs.flatten else cs.flatten.take L) ∧
      delivered (proxyPlan (some L) cs).flatten = if L = 0 then [] else cs.flatten.drop L := by
    cases L with
    | zero => simp [(proxyPlan_unlimited cs).1, (proxyPlan_unlimited cs).2.1]
    | succ k => simp [(proxyPlan_limited k cs).1, (proxyPlan_limited k cs).2]
  refine ⟨hsplit.1, hsplit.2, ?_, count_completed_proxyPlan L cs, completed_mem_proxyPlan L cs⟩
  rw [hsplit.1, hsplit.2]
  split_ifs <;> simp

end Plan

/-! ## A run of dispatches is the plan performed -/

/-- An event as `_GenericInboundDispatch` on the source `self` performs it, with target `t`: a
forward is a `SendOutboundData` on the target followed by the byte counts, completion is
`StopProxy` then `EM_PROXY_COMPLETED`, delivery is `EM_CONNECTION_READ`. -/
def ProxyEvent.perform (app : App) (self t : Binding) : ProxyEvent → EM Unit
  | forward bytes => do
    discard <| Virtual.sendOutboundData t (.bytes bytes)
    modifyDescriptor self fun d => { d with
      proxiedBytes := d.proxiedBytes + bytes.length, bytesToProxy := d.bytesToProxy - bytes.length }
  | completed => do
    EventableDescriptor.stopProxy self
    invokeCallback app self .proxyCompleted [] 0
  | deliver bytes => invokeCallback app self .connectionRead bytes bytes.length

/-- The events in turn. -/
def performEvents (app : App) (self t : Binding) : List ProxyEvent → EM Unit
  | [] => pure ()
  | e :: es => do
    e.perform app self t
    performEvents app self t es

/-- The events of each chunk in turn. -/
def performPlan (app : App) (self t : Binding) : List (List ProxyEvent) → EM Unit
  | [] => pure ()
  | es :: plan => do
    performEvents app self t es
    performPlan app self t plan

/-- `_GenericInboundDispatch` on each chunk in turn, as the reads of a burst deliver them. -/
def dispatchChunks (app : App) (self : Binding) : List (List Byte) → EM Unit
  | [] => pure ()
  | c :: cs => do
    EventableDescriptor.genericInboundDispatch app self c
    dispatchChunks app self cs

/-- The source `self` is live and has forwarded `n` bytes. With `some L` it proxies to `t`
with `L` bytes left to forward (`0`: no limit); with `none` it proxies to nothing. -/
def LinkAt (self t : Binding) (left : Option Nat) (n : Nat) (s : Reactor) : Prop :=
  ∃ d, s.descriptors self = some d ∧ d.proxiedBytes = n ∧
    match left with
    | none => d.proxyTarget = none
    | some L => d.proxyTarget = some t ∧ d.bytesToProxy = L

section Run

variable {app : App} {self t : Binding} {left : Option Nat} {n : Nat} {s : Reactor}

@[simp] theorem wp_performEvents_nil {Q : Unit → Reactor → Prop} {E : Reactor → Prop} :
    wp (performEvents app self t []) Q E = Q () := rfl

@[simp] theorem wp_performEvents_cons (e : ProxyEvent) (es : List ProxyEvent)
    {Q : Unit → Reactor → Prop} {E : Reactor → Prop} :
    wp (performEvents app self t (e :: es)) Q E =
      wp (e.perform app self t) (fun _ => wp (performEvents app self t es) Q E) E :=
  wp_bind_eq _

theorem LinkAt.of_same (h : LinkAt self t left n s) {s' : Reactor} (h' : SameProxies s s') :
    LinkAt self t left n s' := by
  obtain ⟨d, hd, hn, hl⟩ := h
  have hv := congrFun h' self
  simp only [proxyView, hd, Option.map_some'] at hv
  obtain ⟨d', hd', hp⟩ := Option.map_eq_some'.1 hv
  simp only [EventableDescriptor.proxyState, Prod.mk.injEq] at hp
  refine ⟨d', hd', hp.2.2.2.1.trans hn, ?_⟩
  cases left <;> simpa only [hp.1, hp.2.2.1] using hl

theorem LinkAt.wp_of_keeps {α : Type} {x : EM α} (hx : KeepsProxies x)
    (h : LinkAt self t left n s) : wp x (fun _ => LinkAt self t left n) (fun _ => True) s :=
  wp_mono (hx s) (fun _ _ h' => h.of_same h') fun _ _ => trivial

/-- A forward counts its bytes and leaves the link to the target. -/
theorem forward_linkAt (bytes : List Byte) {L : Nat} (h : LinkAt self t (some L) n s) :
    wp ((ProxyEvent.forward bytes).perform app self t)
      (fun _ => LinkAt self t (some (L - bytes.length)) (n + bytes.length)) (fun _ => True) s := by
  simp only [ProxyEvent.perform, wp_bind, wp_discard]
  refine wp_mono (h.wp_of_keeps (Virtual.keepsProxies_sendOutboundData t _))
    (fun _ s₁ h₁ => ?_) fun _ _ => trivial
  obtain ⟨d, hd, hn, ht, hL⟩ := h₁
  rw [wp_modifyDescriptor]
  intro d' hd'
  obtain rfl := Option.some.inj (hd.symm.trans hd')
  exact ⟨_, Function.update_same _ _ _, by simp [hn], ht, by simp [hL]⟩

/-- `StopProxy` drops the target and keeps the count of forwarded bytes. -/
theorem stopProxy_linkAt {d : EventableDescriptor} (hd : s.descriptors self = some d) :
    wp (EventableDescriptor.stopProxy self) (fun _ => LinkAt self t none d.proxiedBytes)
      (fun _ => True) s := by
  simp only [EventableDescriptor.stopProxy, wp_bind, wp_descriptor]
  intro d₀ hd₀
  obtain rfl := Option.some.inj (hd.symm.trans hd₀)
  split
  next t' _ =>
    simp only [EventableDescriptor.setProxiedFrom, wp_bind, wp_descriptor, Option.isSome_none,
      Bool.false_eq_true, false_and, if_false, pure_bind, wp_modifyDescriptor]
    intro _ _ d₁ hd₁ d₂ hd₂
    refine ⟨_, Function.update_same _ _ _, ?_, rfl⟩
    by_cases h : self = t'
    · subst h
      obtain rfl := Option.some.inj (hd₁.symm.trans hd)
      simp only [Function.update_same, Option.some.injEq] at hd₂
      simp [← hd₂]
    · simp only [Function.update_noteq h, hd, Option.some.injEq] at hd₂
      simp [← hd₂]
  next hnone => exact ⟨d, hd, rfl, Option.eq_none_iff_forall_not_mem.2 hnone⟩

/-- Completion stops the proxy; the callback the application gets leaves it stopped. -/
theorem completed_linkAt (happ : app.NoProxyCalls) (h : LinkAt self t left n s) :
    wp (ProxyEvent.completed.perform app self t) (fun _ => LinkAt self t none n)
      (fun _ => True) s := by
  obtain ⟨d, hd, rfl, -⟩ := h
  simp only [ProxyEvent.perform, wp_bind]
  exact wp_mono (stopProxy_linkAt hd)
    (fun _ _ h' => h'.wp_of_keeps (keepsProxies_invokeCallback happ _ _ _ _)) fun _ _ => trivial

/-- What one chunk's events leave: what is left of the limit, and its bytes counted. -/
theorem chunkEvents_linkAt (happ : app.NoProxyCalls) (c : List Byte)
    (h : LinkAt self t left n s) :
    wp (performEvents app self t (chunkEvents left c).1)
      (fun _ => LinkAt self t (chunkEvents left c).2 (n + (forwarded (chunkEvents left c).1).length))
      (fun _ => True) s := by
  have hdeliver : ∀ {left n s} (bytes : List Byte), LinkAt self t left n s →
      wp ((ProxyEvent.deliver bytes).perform app self t) (fun _ => LinkAt self t left n)
        (fun _ => True) s :=
    fun _ h => h.wp_of_keeps (keepsProxies_invokeCallback happ _ _ _ _)
  rcases left with _ | _ | k
  · simpa [chunkEvents, ProxyEvent.forwardedBytes] using hdeliver c h
  · simpa [chunkEvents, ProxyEvent.forwardedBytes] using forward_linkAt c h
  · by_cases hc : k + 1 ≤ c.length
    · have hlen : (c.take (k + 1)).length = k + 1 := by simp [hc]
      simp only [chunkEvents, if_pos hc, wp_performEvents_cons]
      refine wp_mono (forward_linkAt _ h) (fun _ s₁ h₁ => ?_) fun _ _ => trivial
      refine wp_mono (completed_linkAt happ h₁) (fun _ s₂ h₂ => ?_) fun _ _ => trivial
      split_ifs
      · simpa [ProxyEvent.forwardedBytes, hlen] using hdeliver _ h₂
      · simpa [ProxyEvent.forwardedBytes, hlen] using h₂
    · simpa [chunkEvents, hc, ProxyEvent.forwardedBytes] using forward_linkAt c h

/-- One dispatch is its chunk's events performed, call for call: the same `SendOutboundData`
on the target, the same counts, the same `StopProxy` and callbacks, in the same order. -/
theorem genericInboundDispatch_eq_chunkEvents (c : List Byte) (h : LinkAt self t left n s) :
    EventableDescriptor.genericInboundDispatch app self c s =
      performEvents app self t (chunkEvents left c).1 s := by
  obtain ⟨d, hd, -, hl⟩ := id h
  have hsend : ∀ bytes, wp (discard (Virtual.sendOutboundData t (.bytes bytes)))
      (fun _ => LinkAt self t left n) (fun _ => True) s := fun _ =>
    h.wp_of_keeps (Virtual.keepsProxies_sendOutboundData t _).discard
  rcases left with _ | _ | k
  · simp only [EventableDescriptor.genericInboundDispatch, bind_run_ok (descriptor_run hd),
      show d.proxyTarget = none from hl, chunkEvents, performEvents, ProxyEvent.perform,
      bind_pure_unit]
  · obtain ⟨ht, hk⟩ := hl
    simp only [EventableDescriptor.genericInboundDispatch, bind_run_ok (descriptor_run hd), ht,
      hk, gt_iff_lt, lt_self_iff_false, if_false, chunkEvents, performEvents, ProxyEvent.perform,
      bind_pure_unit]
    refine bind_run_congr (hsend c) fun _ s₁ h₁ => ?_
    obtain ⟨d₁, hd₁, -, -, hk₁⟩ := h₁
    simp only [modifyDescriptor_run hd₁, hk₁, Nat.zero_sub]
  · obtain ⟨ht, hk⟩ := hl
    simp only [EventableDescriptor.genericInboundDispatch, bind_run_ok (descriptor_run hd), ht,
      hk, gt_iff_lt, Nat.zero_lt_succ, if_true]
    by_cases hc : k + 1 ≤ c.length
    · simp only [Nat.min_eq_left hc, chunkEvents, if_pos hc, performEvents, ProxyEvent.perform,
        List.length_take, bind_assoc]
      refine bind_run_congr (hsend _) fun _ s₁ h₁ => ?_
      obtain ⟨d₁, hd₁, -, -, hk₁⟩ := h₁
      rw [bind_run_ok (modifyDescriptor_run hd₁), bind_run_ok (modifyDescriptor_run hd₁),
        bind_run_ok (descriptor_run (Function.update_same _ _ _))]
      simp only [hk₁, Nat.sub_self, if_true]
      split_ifs with hlt
      · have hv : (((c.drop (k + 1)).length : Nat) : Int) = (c.length : Int) - ((k + 1 : Nat) : Int) := by
          simp only [List.length_drop]
          omega
        simp only [performEvents, ProxyEvent.perform, bind_pure_unit, hv]
      · rfl
    · have hle : c.length ≤ k + 1 := by omega
      simp only [Nat.min_eq_right hle, List.take_of_length_le (le_refl _), chunkEvents, if_neg hc,
        performEvents, ProxyEvent.perform, bind_pure_unit]
      refine bind_run_congr (hsend c) fun _ s₁ h₁ => ?_
      obtain ⟨d₁, hd₁, -, -, hk₁⟩ := h₁
      rw [bind_run_ok (modifyDescriptor_run hd₁), modifyDescriptor_run hd₁,
        bind_run_ok (descriptor_run (Function.update_same _ _ _))]
      simp only [hk₁]
      rw [if_neg (by omega)]
      rfl

/-- A run of dispatches from a linked source is its plan performed, and counts the bytes the
plan forwards. -/
theorem dispatchChunks_eq_performPlan (happ : app.NoProxyCalls) :
    ∀ (cs : List (List Byte)) {left : Option Nat} {n : Nat} {s : Reactor},
      LinkAt self t left n s →
      dispatchChunks app self cs s = performPlan app self t (proxyPlan left cs) s ∧
      wp (dispatchChunks app self cs) (fun _ s' => ∃ left',
        LinkAt self t left' (n + (forwarded (proxyPlan left cs).flatten).length) s')
        (fun _ => True) s
  | [], _, _, _, h => ⟨rfl, _, by simpa [proxyPlan] using h⟩
  | c :: cs, left, n, s, h => by
    have hchunk := chunkEvents_linkAt happ c h
    refine ⟨?_, ?_⟩
    · show (EventableDescriptor.genericInboundDispatch app self c >>= fun _ =>
          dispatchChunks app self cs) s = (performEvents app self t (chunkEvents left c).1 >>=
          fun _ => performPlan app self t (proxyPlan (chunkEvents left c).2 cs)) s
      rw [bind_run_eq (genericInboundDispatch_eq_chunkEvents c h)]
      exact bind_run_congr hchunk fun _ _ h' => (dispatchChunks_eq_performPlan happ cs h').1
    · show wp (EventableDescriptor.genericInboundDispatch app self c >>= fun _ =>
          dispatchChunks app self cs) _ _ s
      rw [wp_bind, wp_of_run_eq (genericInboundDispatch_eq_chunkEvents c h)]
      refine wp_mono hchunk (fun _ _ h' => wp_mono (dispatchChunks_eq_performPlan happ cs h').2
        (fun _ _ ⟨left', h''⟩ => ⟨left', ?_⟩) fun _ _ => trivial) fun _ _ => trivial
      simpa [Nat.add_assoc] using h''

/-- `StartProxy` that returns leaves the source linked to its target, with the whole limit
left and nothing forwarded. -/
theorem startProxy_linkAt (bufsize L : Nat) :
    wp (EventableDescriptor.startProxy self t bufsize L) (fun _ => LinkAt self t (some L) 0)
      (fun _ => True) s := by
  simp only [EventableDescriptor.startProxy, wp_bind, wp_get]
  split
  · rw [wp_bind]
    refine wp_mono (wp_true _ s) (fun _ s₁ _ => ?_) fun _ _ => trivial
    simp only [wp_bind, wp_modifyDescriptor, EventableDescriptor.setProxiedFrom, wp_descriptor]
    intro d _ dt hdt
    simp only [Option.isSome_some, true_and, wp_ite, wp_throw_runtimeError, pure_bind,
      wp_modifyDescriptor]
    refine ⟨fun _ => trivial, fun _ dt' hdt' => ?_⟩
    obtain rfl := Option.some.inj (hdt.symm.trans hdt')
    by_cases hst : self = t
    · subst hst
      simp only [Function.update_same, Option.some.injEq] at hdt
      subst hdt
      exact ⟨_, Function.update_same _ _ _, rfl, rfl, rfl⟩
    · exact ⟨_, (Function.update_noteq hst _ _).trans (Function.update_same _ _ _), rfl, rfl, rfl⟩
  · trivial

end Run

/-- The proxy byte limit. Once `StartProxy (t, bufsize, L)` has attached `self`, a run of
dispatches of the chunks `cs` whose callbacks make no proxy operation is the plan of `cs`
performed, call for call: the target's `SendOutboundData` gets exactly the plan's forwards, in
order. The plan forwards the first `L` bytes (all of them when `L = 0`), completes the proxy
once, in the chunk where the running total reaches `L`, and delivers the rest to the
application. A run that returns leaves `ProxiedBytes` at the number of bytes forwarded. -/
theorem proxy_limit_forwards_prefix {app : App} (happ : app.NoProxyCalls) {self t : Binding}
    {s s₀ : Reactor} {bufsize L : Nat}
    (hstart : EventableDescriptor.startProxy self t bufsize L s = .ok () s₀)
    (cs : List (List Byte)) :
    dispatchChunks app self cs s₀ = performPlan app self t (proxyPlan (some L) cs) s₀ ∧
      LimitSplit L cs (proxyPlan (some L) cs) ∧
      ∀ s', dispatchChunks app self cs s₀ = .ok () s' →
        (s'.descriptors self).map EventableDescriptor.proxiedBytes =
          some (forwarded (proxyPlan (some L) cs).flatten).length := by
  obtain ⟨heq, hwp⟩ :=
    dispatchChunks_eq_performPlan happ cs (state_of_ok hstart (startProxy_linkAt bufsize L))
  refine ⟨heq, proxyPlan_limitSplit L cs, fun s' hs' => ?_⟩
  obtain ⟨_, d, hd, hn, -⟩ := post_of_ok hs' hwp
  simp [hd, hn]

/-- Two connections, on sockets 5 and 6, as `AttachFD` makes them. -/
def twoConnections : Reactor := after (attachFd 6 false) (after (attachFd 5 false) Reactor.empty)

theorem proxy_limit_forwards_prefix_three_chunks :
    silentApp.NoProxyCalls ∧
      EventableDescriptor.startProxy 0 1 0 2 twoConnections =
        .ok () (after (EventableDescriptor.startProxy 0 1 0 2) twoConnections) ∧
      (dispatchChunks silentApp 0 [[1], [2, 3], [4]]
          (after (EventableDescriptor.startProxy 0 1 0 2) twoConnections) =
        performPlan silentApp 0 1 (proxyPlan (some 2) [[1], [2, 3], [4]])
          (after (EventableDescriptor.startProxy 0 1 0 2) twoConnections) ∧
        LimitSplit 2 [[1], [2, 3], [4]] (proxyPlan (some 2) [[1], [2, 3], [4]]) ∧
        ∀ s', dispatchChunks silentApp 0 [[1], [2, 3], [4]]
            (after (EventableDescriptor.startProxy 0 1 0 2) twoConnections) = .ok () s' →
          (s'.descriptors 0).map EventableDescriptor.proxiedBytes =
            some (forwarded (proxyPlan (some 2) [[1], [2, 3], [4]]).flatten).length) :=
  ⟨fun _ _ c h => absurd h (List.not_mem_nil c), run_eq_ok_after (by decide),
    proxy_limit_forwards_prefix (fun _ _ c h => absurd h (List.not_mem_nil c)) (run_eq_ok_after (by decide)) _⟩

end EventMachine

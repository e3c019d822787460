import EventMachine.Evolution
import Mathlib.Data.Int.Order.Basic

/-!
# The handshake event fires once

`_CheckHandshakeStatus` signals `EM_SSL_HANDSHAKE_COMPLETED` only while `bHandshakeSignaled` is
clear, and sets the flag just before it runs the callback. Nothing clears the flag again, a
connection never stops being one, and a binding is never handed out twice. So over any run of
the reactor, whatever the application does from its callbacks and however many plaintext
chunks one `Read` pumps, a binding gets at most one handshake event, and none once it has been
handed out to anything but a connection still waiting for its signal
(`handshake_completed_at_most_once`).

The argument is a tally that no method raises (`Signals`): the handshake events logged for a
binding, plus the events it may still get (`Reactor.handshakeBudget`), one while it names a
connection that has not signalled and one while it has not been handed out. Every method but
`_CheckHandshakeStatus` leaves both parts or lowers the budget; that one spends the unit of its
connection as it logs the event. The tally is proved of every method, in the order of
`Evolution`, and then of every step of the reactor.

One connection is also followed through `StartTls` and two reads: the read that finds the
handshake complete logs its event (`read_completes_handshake`), and a later read logs none
(`read_after_handshake`).
-/

namespace EventMachine

/-! ## The tally -/

/-- Whether a descriptor is a connection that has not signalled its handshake. -/
def EventableDescriptor.awaitingHandshake (d : EventableDescriptor) : Bool :=
  match d.sub with
  | .connection c => !c.bHandshakeSignaled
  | _ => false

/-- Setting `bHandshakeSignaled` ends the wait. -/
theorem EventableDescriptor.awaitingHandshake_signalled (d : EventableDescriptor) :
    ({ d with sub := d.sub.mapConnection fun c => { c with bHandshakeSignaled := true } } :
      EventableDescriptor).awaitingHandshake = false := by
  unfold awaitingHandshake
  cases d.sub <;> rfl

/-- A write of a connection's members that keeps `bHandshakeSignaled` keeps the wait. -/
theorem EventableDescriptor.awaitingHandshake_mapConnection (d : EventableDescriptor)
    {f : ConnectionDescriptor → ConnectionDescriptor}
    (hf : ∀ c, (f c).bHandshakeSignaled = c.bHandshakeSignaled) :
    ({ d with sub := d.sub.mapConnection f } : EventableDescriptor).awaitingHandshake =
      d.awaitingHandshake := by
  unfold awaitingHandshake
  cases d.sub with
  | connection c => simp [Subclass.mapConnection, hf]
  | _ => rfl

/-- The handshake events for `b` in a callback log. -/
def handshakeEvents (b : Binding) (log : List CallbackEvent) : Nat :=
  log.countP fun e => e.binding = b ∧ e.kind = .sslHandshakeCompleted

@[simp] theorem handshakeEvents_append (b : Binding) (log log' : List CallbackEvent) :
    handshakeEvents b (log ++ log') = handshakeEvents b log + handshakeEvents b log' :=
  List.countP_append _ _ _

/-- How many more handshake events `b` may get: one while it names a connection that has not
signalled, and one while it has not been handed out, since a new connection may take it. -/
def Reactor.handshakeBudget (s : Reactor) (b : Binding) : Nat :=
  (if s.nextBinding ≤ b then 1 else 0) +
    ((s.descriptors b).any EventableDescriptor.awaitingHandshake).toNat

/-- The part of the budget for a binding not handed out only shrinks as bindings are handed
out. -/
theorem fresh_part_antitone {m n : Binding} (h : m ≤ n) (b : Binding) :
    (if n ≤ b then 1 else 0) ≤ (if m ≤ b then 1 else 0) := by
  by_cases hb : n ≤ b
  · rw [if_pos hb, if_pos (h.trans hb)]
  · rw [if_neg hb]
    exact Nat.zero_le _

/-- What the tally reads of the reactor. -/
def signalView (s : Reactor) : (Binding → Bool) × Binding × List CallbackEvent :=
  (fun b => (s.descriptors b).any EventableDescriptor.awaitingHandshake, s.nextBinding,
    s.callbacks)

/-- What every method guarantees between the state before a call and a state after it: the
callback log only grows, and for every binding the handshake events logged plus its budget do
not grow. -/
structure Signals (s s' : Reactor) : Prop where
  log : ∃ new, s'.callbacks = s.callbacks ++ new
  tally : ∀ b, handshakeEvents b s'.callbacks + s'.handshakeBudget b ≤
    handshakeEvents b s.callbacks + s.handshakeBudget b

namespace Signals

variable {s s₁ s₂ : Reactor}

theorem refl (s : Reactor) : Signals s s := ⟨⟨[], (List.append_nil _).symm⟩, fun _ => le_rfl⟩

theorem trans (h : Signals s s₁) (h' : Signals s₁ s₂) : Signals s s₂ where
  log := by
    obtain ⟨n₁, h₁⟩ := h.log
    obtain ⟨n₂, h₂⟩ := h'.log
    exact ⟨n₁ ++ n₂, by rw [h₂, h₁, List.append_assoc]⟩
  tally b := (h'.tally b).trans (h.tally b)

instance : IsRefl Reactor Signals := ⟨refl⟩

instance : IsTrans Reactor Signals := ⟨fun _ _ _ => trans⟩

/-- A state that shows the tally what `s` shows it. -/
theorem of_signalView (h : signalView s₁ = signalView s) : Signals s s₁ := by
  simp only [signalView, Prod.mk.injEq] at h
  obtain ⟨hd, hn, hc⟩ := h
  refine ⟨⟨[], by rw [hc, List.append_nil]⟩, fun b => le_of_eq ?_⟩
  simp only [Reactor.handshakeBudget, hc, hn, congrFun hd b]

/-- The handshake event of `b`, logged as its connection stops waiting. -/
theorem signal {b : Binding} {d d' : EventableDescriptor} (hd : s.descriptors b = some d)
    (ha : d.awaitingHandshake = true) (ha' : d'.awaitingHandshake = false) (data : List Byte)
    (value : Int) :
    Signals s { s with
      descriptors := Function.update s.descriptors b (some d')
      callbacks := s.callbacks ++ [⟨b, .sslHandshakeCompleted, data, value⟩] } := by
  refine ⟨⟨_, rfl⟩, fun b' => ?_⟩
  simp only [handshakeEvents_append, Reactor.handshakeBudget]
  by_cases hb : b' = b
  · subst hb
    simp [handshakeEvents, hd, ha, ha']
    omega
  · simp [handshakeEvents, Function.update_noteq hb, Ne.symm hb]

end Signals

/-! ## The primitive steps -/

section Primitives

theorem Preserves.signals {α : Type} {x : EM α} (h : Preserves signalView x) :
    Guarantee Signals x := fun _ =>
  h.wp (fun _ _ h => .of_signalView h) fun _ h => .of_signalView h

theorem preserves_signalView_modify {f : Reactor → Reactor}
    (hd : ∀ s, (f s).descriptors = s.descriptors) (hn : ∀ s, (f s).nextBinding = s.nextBinding)
    (hc : ∀ s, (f s).callbacks = s.callbacks) : Preserves signalView (modify f : EM Unit) :=
  fun s => by simp only [wp_modify, signalView, hd, hn, hc]

theorem signals_modify {f : Reactor → Reactor} (hd : ∀ s, (f s).descriptors = s.descriptors)
    (hn : ∀ s, (f s).nextBinding = s.nextBinding) (hc : ∀ s, (f s).callbacks = s.callbacks) :
    Guarantee Signals (modify f : EM Unit) :=
  (preserves_signalView_modify hd hn hc).signals

theorem signals_emit (e : TraceEntry) : Guarantee Signals (emit e) :=
  signals_modify (fun _ => by rfl) (fun _ => by rfl) fun _ => by rfl

theorem signals_malloc : Guarantee Signals malloc := fun _ => .of_signalView rfl

/-- A write of one descriptor that keeps whether it waits for its handshake signal. -/
theorem preserves_signalView_modifyDescriptor (b : Binding)
    {f : EventableDescriptor → EventableDescriptor}
    (hf : ∀ d, (f d).awaitingHandshake = d.awaitingHandshake) :
    Preserves signalView (modifyDescriptor b f) := by
  intro s
  rw [wp_modifyDescriptor]
  intro d hd
  simp only [signalView, Prod.mk.injEq, and_true]
  funext b'
  by_cases hb : b' = b
  · subst hb
    simp [hd, hf]
  · simp [Function.update_noteq hb]

theorem signals_modifyDescriptor (b : Binding) {f : EventableDescriptor → EventableDescriptor}
    (hf : ∀ d, (f d).awaitingHandshake = d.awaitingHandshake) :
    Guarantee Signals (modifyDescriptor b f) :=
  (preserves_signalView_modifyDescriptor b hf).signals

theorem preserves_signalView_modifyConnection (b : Binding)
    {f : ConnectionDescriptor → ConnectionDescriptor}
    (hf : ∀ c, (f c).bHandshakeSignaled = c.bHandshakeSignaled) :
    Preserves signalView (modifyConnection b f) :=
  preserves_signalView_modifyDescriptor b fun d => d.awaitingHandshake_mapConnection hf

theorem signals_modifyConnection (b : Binding) {f : ConnectionDescriptor → ConnectionDescriptor}
    (hf : ∀ c, (f c).bHandshakeSignaled = c.bHandshakeSignaled) :
    Guarantee Signals (modifyConnection b f) :=
  (preserves_signalView_modifyConnection b hf).signals

theorem signals_modifyDatagram (b : Binding) (f : DatagramDescriptor → DatagramDescriptor) :
    Guarantee Signals (modifyDatagram b f) := by
  refine signals_modifyDescriptor b fun d => ?_
  unfold EventableDescriptor.awaitingHandshake
  cases d.sub <;> rfl

/-- A callback other than the handshake event leaves every tally as it was. -/
theorem signals_callback (b : Binding) {kind : EventKind} (hk : kind ≠ .sslHandshakeCompleted)
    (data : List Byte) (value : Int) : Guarantee Signals (callback b kind data value) := by
  intro s
  rw [wp_callback]
  refine ⟨⟨_, rfl⟩, fun b' => le_of_eq ?_⟩
  simp [handshakeEvents, Reactor.handshakeBudget, hk]

/-- A new descriptor takes the next binding, which had a unit of budget for it to take. -/
theorem signals_newDescriptor (sd : Int) (sub : Subclass) (events : UInt32)
    (callbackUnbind : Bool) : Guarantee Signals (newDescriptor sd sub events callbackUnbind) := by
  intro s
  simp only [newDescriptor, wp_bind, wp_ite, wp_throw_runtimeError, wp_getCurrentLoopTime, wp_get,
    wp_set, wp_pure]
  refine ⟨fun _ => .refl s, fun _ => ⟨⟨[], (List.append_nil _).symm⟩, fun b => ?_⟩⟩
  simp only [Reactor.handshakeBudget, Nat.add_le_add_iff_left]
  by_cases hb : b = s.nextBinding
  · subst hb
    simp only [Function.update_same, Nat.not_succ_le_self, if_false, le_refl, if_true, Nat.zero_add]
    exact (Bool.toNat_le _).trans (Nat.le_add_right _ _)
  · rw [Function.update_noteq hb]
    exact Nat.add_le_add_right (fresh_part_antitone (Nat.le_succ _) b) _

/-- Forgetting a binding spends what was left of its budget. -/
theorem signals_forgetBinding (b : Binding) : Guarantee Signals (forgetBinding b) := by
  intro s
  refine ⟨⟨[], (List.append_nil _).symm⟩, fun b' => ?_⟩
  simp only [Reactor.handshakeBudget, Nat.add_le_add_iff_left]
  by_cases hb : b' = b
  · subst hb
    simp
  · simp [Function.update_noteq hb]

theorem signals_clearHeartbeat (key : UInt64) (b : Binding) :
    Guarantee Signals (clearHeartbeat key b) :=
  signals_modify (fun _ => by rfl) (fun _ => by rfl) fun _ => by rfl

end Primitives

/-! ## The base class -/

namespace EventableDescriptor

theorem signals_close (self : Binding) : Guarantee Signals (close self) := by
  simp only [close, pure_bind]
  exact (preserves_descriptor _).guarantee.bind fun _ => .ite ((signals_emit _).bind fun _ =>
    .ite ((signals_emit _).bind fun _ => (signals_emit _).bind fun _ =>
      signals_modifyDescriptor _ fun _ => by rfl) (signals_modifyDescriptor _ fun _ => by rfl))
    (guarantee_pure _)

theorem signals_scheduleClose (self : Binding) (afterWriting : Bool) :
    Guarantee Signals (scheduleClose self afterWriting) := by
  unfold scheduleClose
  exact (preserves_descriptor _).guarantee.bind fun _ =>
    .ite (.ite (signals_modifyDescriptor _ fun _ => by rfl) (guarantee_pure _))
      ((signals_modify (fun _ => by rfl) (fun _ => by rfl) fun _ => by rfl).bind fun _ =>
        .ite (signals_modifyDescriptor _ fun _ => by rfl) (signals_modifyDescriptor _ fun _ => by rfl))

end EventableDescriptor

/-- `QueueHeartbeat` writes only deadlines and the heartbeat queue. -/
theorem signals_queueHeartbeat (self : Binding) : Guarantee Signals (queueHeartbeat self) := by
  unfold queueHeartbeat EventableDescriptor.getNextHeartbeat
  refine ((preserves_descriptor _).guarantee.bind fun _ => ?_).bind fun _ =>
    .ite (signals_modify (fun _ => by rfl) (fun _ => by rfl) fun _ => by rfl) (guarantee_pure _)
  lift_lets
  intro read arm clear
  have hread : ∀ y, Guarantee Signals (read y) := fun _ =>
    (preserves_descriptor _).guarantee.bind fun _ => guarantee_pure _
  have harm : ∀ y, Guarantee Signals (arm y) := fun _ =>
    preserves_getRealTime.guarantee.bind fun _ =>
      (signals_modifyDescriptor _ fun _ => by rfl).bind hread
  have hclear : ∀ y, Guarantee Signals (clear y) := fun _ =>
    (signals_modifyDescriptor _ fun _ => by rfl).bind fun _ => (preserves_descriptor _).guarantee.bind
      fun _ => .ite (.ite (guarantee_pure _) ((guarantee_pure _).bind harm))
        ((guarantee_pure _).bind hread)
  exact .ite ((signals_clearHeartbeat _ _).bind hclear) ((guarantee_pure _).bind hclear)

namespace EventableDescriptor

theorem signals_setPendingConnectTimeout (self : Binding) (value : UInt64) :
    Guarantee Signals (setPendingConnectTimeout self value) := by
  unfold setPendingConnectTimeout
  exact .ite ((signals_modifyDescriptor _ fun _ => by rfl).bind fun _ =>
    (signals_queueHeartbeat _).bind fun _ => guarantee_pure _) (guarantee_pure _)

theorem signals_setProxiedFrom (self : Binding) (src : Option Binding) (bufsize : Nat) :
    Guarantee Signals (setProxiedFrom self src bufsize) := by
  unfold setProxiedFrom
  exact (preserves_descriptor _).guarantee.bind fun _ =>
    .when (guarantee_throw_runtimeError _) (signals_modifyDescriptor _ fun _ => by rfl)

theorem signals_stopProxy (self : Binding) : Guarantee Signals (stopProxy self) := by
  unfold stopProxy
  refine (preserves_descriptor _).guarantee.bind fun d => ?_
  split
  · exact (signals_setProxiedFrom _ _ _).bind fun _ => signals_modifyDescriptor _ fun _ => by rfl
  · exact guarantee_pure _

theorem signals_startProxy (self target : Binding) (bufsize length : Nat) :
    Guarantee Signals (startProxy self target bufsize length) := by
  unfold startProxy
  refine preserves_get.guarantee.bind fun r => ?_
  split
  · exact (signals_stopProxy _).bind fun _ => (signals_modifyDescriptor _ fun _ => by rfl).bind
      fun _ => signals_setProxiedFrom _ _ _
  · exact guarantee_throw_runtimeError _

end EventableDescriptor

/-! ## Poll interest -/

namespace ConnectionDescriptor

theorem signals_updateEvents (self : Binding) (read write : Bool) :
    Guarantee Signals (updateEvents self read write) := by
  simp only [updateEvents, pure_bind]
  exact (preserves_descriptor _).guarantee.bind fun _ => .ite (guarantee_pure _) <|
    .ite (guarantee_pure _) <| (preserves_connection _).guarantee.bind fun _ =>
      (signals_modifyDescriptor _ fun _ => by rfl).bind fun _ => .ite (signals_emit _) (guarantee_pure _)

theorem signals_setConnectPending (self : Binding) (f : Bool) :
    Guarantee Signals (setConnectPending self f) :=
  (signals_modifyConnection _ fun _ => by rfl).bind fun _ =>
    (signals_queueHeartbeat _).bind fun _ => signals_updateEvents _ _ _

theorem signals_setAttached (self : Binding) (state : Bool) :
    Guarantee Signals (setAttached self state) :=
  signals_modifyDescriptor _ fun _ => by rfl

theorem signals_setWatchOnly (self : Binding) (watching : Bool) :
    Guarantee Signals (setWatchOnly self watching) :=
  (signals_modifyDescriptor _ fun _ => by rfl).bind fun _ => signals_updateEvents _ _ _

theorem signals_setNotifyReadable (self : Binding) (readable : Bool) :
    Guarantee Signals (setNotifyReadable self readable) := by
  unfold setNotifyReadable
  exact (preserves_descriptor _).guarantee.bind fun _ => .when (guarantee_throw_runtimeError _) <|
    (signals_modifyConnection _ fun _ => by rfl).bind fun _ => signals_updateEvents _ _ _

theorem signals_setNotifyWritable (self : Binding) (writable : Bool) :
    Guarantee Signals (setNotifyWritable self writable) := by
  unfold setNotifyWritable
  exact (preserves_descriptor _).guarantee.bind fun _ => .when (guarantee_throw_runtimeError _) <|
    (signals_modifyConnection _ fun _ => by rfl).bind fun _ => signals_updateEvents _ _ _

theorem signals_pause (self : Binding) : Guarantee Signals (pause self) := by
  unfold pause
  exact (preserves_descriptor _).guarantee.bind fun _ => .when (guarantee_throw_runtimeError _) <|
    (signals_modifyDescriptor _ fun _ => by rfl).bind fun _ =>
      (signals_updateEvents _ _ _).bind fun _ => guarantee_pure _

theorem signals_resume (self : Binding) : Guarantee Signals (resume self) := by
  unfold resume
  exact (preserves_descriptor _).guarantee.bind fun _ => .when (guarantee_throw_runtimeError _) <|
    (signals_modifyDescriptor _ fun _ => by rfl).bind fun _ =>
      (signals_updateEvents _ _ _).bind fun _ => guarantee_pure _

end ConnectionDescriptor

namespace Virtual

theorem signals_pause (self : Binding) : Guarantee Signals (pause self) := by
  unfold pause EventableDescriptor.pause
  refine (preserves_descriptor _).guarantee.bind fun _ => ?_
  split
  · exact ConnectionDescriptor.signals_pause _
  · exact (signals_modifyDescriptor _ fun _ => by rfl).bind fun _ => guarantee_pure _

theorem signals_resume (self : Binding) : Guarantee Signals (resume self) := by
  unfold resume EventableDescriptor.resume
  refine (preserves_descriptor _).guarantee.bind fun _ => ?_
  split
  · exact ConnectionDescriptor.signals_resume _
  · exact (signals_modifyDescriptor _ fun _ => by rfl).bind fun _ => guarantee_pure _

end Virtual

/-! ## Queueing outbound data -/

namespace ConnectionDescriptor

/-- A query of the TLS engine writes only the engine. -/
theorem preserves_signalView_sslCall {α : Type} (self : Binding) (query : SslBox → α × SslBox) :
    Preserves signalView (sslCall self query) := by
  unfold sslCall
  refine (preserves_connection _).bind fun _ => ?_
  split
  · exact (preserves_signalView_modifyConnection _ fun _ => by rfl).bind fun _ => preserves_pure _
  · exact fun _ => trivial

theorem signals_sslCall {α : Type} (self : Binding) (query : SslBox → α × SslBox) :
    Guarantee Signals (sslCall self query) :=
  (preserves_signalView_sslCall self query).signals

theorem signals_scheduleClose (self : Binding) (afterWriting : Bool) :
    Guarantee Signals (scheduleClose self afterWriting) := by
  unfold scheduleClose
  exact (preserves_descriptor _).guarantee.bind fun _ =>
    .when (guarantee_throw_runtimeError _) (EventableDescriptor.signals_scheduleClose _ _)

theorem signals_sendRawOutboundData (self : Binding) (data : OutboundData) :
    Guarantee Signals (sendRawOutboundData self data) := by
  simp only [sendRawOutboundData, pure_bind]
  refine (preserves_descriptor _).guarantee.bind fun _ => .ite (guarantee_pure _) <|
    .ite (guarantee_pure _) ?_
  cases data with
  | null => exact guarantee_throw_runtimeError _
  | bytes bytes =>
    exact signals_malloc.bind fun _ => .when (guarantee_throw_runtimeError _) <|
      (signals_modifyConnection _ fun _ => by rfl).bind fun _ =>
        (signals_updateEvents _ _ _).bind fun _ => guarantee_pure _

theorem signals_drainCiphertext (self : Binding) :
    ∀ fuel, Guarantee Signals (drainCiphertext self fuel)
  | 0 => guarantee_pure _
  | fuel + 1 => by
    simp only [drainCiphertext]
    exact (signals_sslCall _ _).bind fun _ => .ite (guarantee_pure _) <|
      (signals_sslCall _ _).bind fun _ => .when (guarantee_throw_assertionFailed _) <|
        (signals_sendRawOutboundData _ _).discard.bind fun _ =>
          (signals_drainCiphertext self fuel).discard.bind fun _ => guarantee_pure _

theorem signals_pumpPlaintext (self : Binding) :
    ∀ fuel, Guarantee Signals (pumpPlaintext self fuel)
  | 0 => guarantee_pure _
  | fuel + 1 => by
    simp only [pumpPlaintext]
    exact (signals_sslCall _ _).bind fun _ =>
      .ite ((signals_pumpPlaintext self fuel).discard.bind fun _ => guarantee_pure _) <|
        .when (signals_scheduleClose _ _) (guarantee_pure _)

theorem signals_dispatchCiphertextLoop (self : Binding) (fuel : Nat) :
    ∀ passes, Guarantee Signals (dispatchCiphertextLoop self fuel passes)
  | 0 => guarantee_pure _
  | passes + 1 => by
    simp only [dispatchCiphertextLoop]
    exact (signals_drainCiphertext _ _).bind fun _ => (signals_pumpPlaintext _ _).bind fun _ =>
      .ite (signals_dispatchCiphertextLoop self fuel passes) (guarantee_pure _)

theorem signals_dispatchCiphertext (self : Binding) :
    Guarantee Signals (dispatchCiphertext self) := by
  unfold dispatchCiphertext
  refine (preserves_connection _).guarantee.bind fun _ => ?_
  split
  · exact signals_dispatchCiphertextLoop _ _ _
  · exact guarantee_throw_assertionFailed _

theorem signals_putPlaintextPieces (self : Binding) (data : OutboundData) :
    Guarantee Signals (putPlaintextPieces self data) := by
  unfold putPlaintextPieces
  lift_lets
  intro _ col jp
  have hjp : ∀ y, Guarantee Signals (jp y) := fun _ => (signals_sslCall _ _).bind fun _ =>
    .ite ((signals_scheduleClose _ _).bind fun _ => guarantee_pure _)
      ((signals_dispatchCiphertext _).bind fun _ => guarantee_pure _)
  exact (Guarantee.forIn col PUnit.unit fun _ _ => .ite
    ((guarantee_throw_undefinedBehaviour _).bind hjp) ((guarantee_pure _).bind hjp)).bind fun _ =>
      guarantee_pure _

theorem signals_sendOutboundData (self : Binding) (data : OutboundData) :
    Guarantee Signals (sendOutboundData self data) := by
  unfold sendOutboundData
  refine (preserves_descriptor _).guarantee.bind fun d => .when (guarantee_throw_runtimeError _) ?_
  lift_lets
  intro raw one tls
  have hraw : ∀ y, Guarantee Signals (raw y) := fun _ => signals_sendRawOutboundData _ _
  have hone : ∀ y, Guarantee Signals (one y) := fun _ => guarantee_pure _
  have htls : ∀ y, Guarantee Signals (tls y) := fun _ =>
    (preserves_connection _).guarantee.bind fun _ => .ite
      (.ite ((signals_putPlaintextPieces _ _).bind hone) ((guarantee_pure _).bind hone))
      ((guarantee_pure _).bind hraw)
  split
  · exact .ite ((Virtual.signals_pause _).discard.bind htls) ((guarantee_pure _).bind htls)
  · exact (guarantee_pure _).bind htls

/-- `StartTls` gives the connection an engine and leaves `bHandshakeSignaled`. -/
theorem signals_startTls (self : Binding) (box : SslBox) :
    Guarantee Signals (startTls self box) := by
  unfold startTls
  exact (preserves_connection _).guarantee.bind fun _ => .when (guarantee_throw_runtimeError _) <|
    (signals_modifyConnection _ fun _ => by rfl).bind fun _ => signals_dispatchCiphertext _

theorem signals_setTlsParms (self : Binding) (parms : TlsParms) :
    Guarantee Signals (setTlsParms self parms) := by
  unfold setTlsParms
  exact (preserves_connection _).guarantee.bind fun _ => .when (guarantee_throw_runtimeError _) <|
    signals_modifyConnection _ fun _ => by rfl

end ConnectionDescriptor

namespace DatagramDescriptor

theorem signals_queueDatagram (self : Binding) (data : OutboundData) (dest : SockAddr) :
    Guarantee Signals (queueDatagram self data dest) := by
  unfold queueDatagram
  exact .when (guarantee_throw_runtimeError _) <| signals_malloc.bind fun _ =>
    .when (guarantee_throw_runtimeError _) <| (signals_modifyDatagram _ _).bind fun _ =>
      (signals_modifyDescriptor _ fun _ => by rfl).bind fun _ => (signals_emit _).bind fun _ =>
        guarantee_pure _

theorem signals_sendOutboundData (self : Binding) (data : OutboundData) :
    Guarantee Signals (sendOutboundData self data) := by
  unfold sendOutboundData
  exact (preserves_descriptor _).guarantee.bind fun _ => .ite (guarantee_pure _) <|
    (preserves_datagram _).guarantee.bind fun _ => signals_queueDatagram _ _ _

theorem signals_sendOutboundDatagram (self : Binding) (data : OutboundData)
    (address : Option String) (port : Int) (resolved : Option SockAddr) :
    Guarantee Signals (sendOutboundDatagram self data address port resolved) := by
  unfold sendOutboundDatagram
  refine (preserves_descriptor _).guarantee.bind fun _ => .ite (guarantee_pure _) <|
    .ite (guarantee_pure _) ?_
  cases resolved with
  | none => exact guarantee_pure _
  | some dest => exact signals_queueDatagram _ _ _

end DatagramDescriptor

namespace Virtual

theorem signals_sendOutboundData (self : Binding) (data : OutboundData) :
    Guarantee Signals (sendOutboundData self data) := by
  unfold sendOutboundData EventableDescriptor.sendOutboundData
  refine (preserves_descriptor _).guarantee.bind fun _ => ?_
  split
  · exact ConnectionDescriptor.signals_sendOutboundData _ _
  · exact DatagramDescriptor.signals_sendOutboundData _ _
  · exact guarantee_pure _

end Virtual

/-! ## The public operations and the application -/

theorem ConnectionDescriptor.signals_setCommInactivityTimeout (self : Binding) (value : UInt64) :
    Guarantee Signals (ConnectionDescriptor.setCommInactivityTimeout self value) :=
  (signals_modifyDescriptor _ fun _ => by rfl).bind fun _ =>
    (signals_queueHeartbeat _).bind fun _ => guarantee_pure _

theorem DatagramDescriptor.signals_setCommInactivityTimeout (self : Binding) (value : UInt64) :
    Guarantee Signals (DatagramDescriptor.setCommInactivityTimeout self value) := by
  unfold DatagramDescriptor.setCommInactivityTimeout
  exact .ite ((signals_modifyDescriptor _ fun _ => by rfl).bind fun _ =>
    (signals_queueHeartbeat _).bind fun _ => guarantee_pure _) (guarantee_pure _)

theorem AcceptorDescriptor.signals_stopAcceptor (binding : Binding) :
    Guarantee Signals (AcceptorDescriptor.stopAcceptor binding) := by
  unfold AcceptorDescriptor.stopAcceptor
  refine preserves_get.guarantee.bind fun _ => ?_
  split
  · exact .ite (EventableDescriptor.signals_scheduleClose _ _) (guarantee_throw_runtimeError _)
  · exact guarantee_throw_runtimeError _

namespace Virtual

theorem signals_scheduleClose (self : Binding) (afterWriting : Bool) :
    Guarantee Signals (scheduleClose self afterWriting) := by
  unfold scheduleClose
  refine (preserves_descriptor _).guarantee.bind fun _ => ?_
  split
  · exact ConnectionDescriptor.signals_scheduleClose _ _
  · exact EventableDescriptor.signals_scheduleClose _ _

theorem signals_setCommInactivityTimeout (self : Binding) (value : UInt64) :
    Guarantee Signals (setCommInactivityTimeout self value) := by
  unfold setCommInactivityTimeout
  refine (preserves_descriptor _).guarantee.bind fun _ => ?_
  split
  · exact ConnectionDescriptor.signals_setCommInactivityTimeout _ _
  · exact DatagramDescriptor.signals_setCommInactivityTimeout _ _
  · exact guarantee_pure _

end Virtual

theorem signals_detachFd (b : Binding) : Guarantee Signals (detachFd b) :=
  (preserves_descriptor _).guarantee.bind fun _ =>
    (signals_modifyDescriptor _ fun _ => by rfl).bind fun _ => guarantee_pure _

theorem signals_onDescriptor (b : Binding) {x : EM Unit} (hx : Guarantee Signals x) :
    Guarantee Signals (onDescriptor b x) := by
  unfold onDescriptor
  refine preserves_get.guarantee.bind fun _ => ?_
  split
  · exact hx
  · exact guarantee_throw_runtimeError _

theorem signals_onClass (b : Binding) (ofClass : Subclass → Bool) {x : EM Unit}
    (hx : Guarantee Signals x) : Guarantee Signals (onClass b ofClass x) := by
  unfold onClass
  refine preserves_get.guarantee.bind fun _ => ?_
  split
  · exact .ite hx (guarantee_throw_runtimeError _)
  · exact guarantee_throw_runtimeError _

/-- No public operation logs an event or clears `bHandshakeSignaled`. -/
theorem signals_runApiCall (c : ApiCall) : Guarantee Signals (runApiCall c) := by
  cases c with
  | scheduleClose b afterWriting => exact signals_onDescriptor _ (Virtual.signals_scheduleClose _ _)
  | sendOutboundData b data =>
    exact signals_onDescriptor _ (Virtual.signals_sendOutboundData _ _).discard
  | sendOutboundDatagram b data address port resolved =>
    exact signals_onClass _ _ (DatagramDescriptor.signals_sendOutboundDatagram _ _ _ _ _).discard
  | startProxy b target bufsize length =>
    exact signals_onDescriptor _ (EventableDescriptor.signals_startProxy _ _ _ _)
  | stopProxy b => exact signals_onDescriptor _ (EventableDescriptor.signals_stopProxy _)
  | pause b => exact signals_onDescriptor _ (Virtual.signals_pause _).discard
  | resume b => exact signals_onDescriptor _ (Virtual.signals_resume _).discard
  | setNotifyReadable b readable =>
    exact signals_onClass _ _ (ConnectionDescriptor.signals_setNotifyReadable _ _)
  | setNotifyWritable b writable =>
    exact signals_onClass _ _ (ConnectionDescriptor.signals_setNotifyWritable _ _)
  | setCommInactivityTimeout b value =>
    exact signals_onDescriptor _ (Virtual.signals_setCommInactivityTimeout _ _).discard
  | setPendingConnectTimeout b value =>
    exact signals_onDescriptor _ (EventableDescriptor.signals_setPendingConnectTimeout _ _).discard
  | startTls b box => exact signals_onClass _ _ (ConnectionDescriptor.signals_startTls _ _)
  | setTlsParms b parms => exact signals_onClass _ _ (ConnectionDescriptor.signals_setTlsParms _ _)
  | stopAcceptor b => exact AcceptorDescriptor.signals_stopAcceptor _
  | detach b => exact signals_onDescriptor _ (signals_detachFd _).discard

theorem signals_runCalls : ∀ calls, Guarantee Signals (runCalls calls)
  | [] => guarantee_pure _
  | c :: calls => (signals_runApiCall c).rescue.bind fun _ => signals_runCalls calls

/-- A callback other than the handshake event, with what the application does from it. -/
theorem signals_invokeCallback (app : App) (b : Binding) {kind : EventKind}
    (hk : kind ≠ .sslHandshakeCompleted) (data : List Byte) (value : Int) :
    Guarantee Signals (invokeCallback app b kind data value) :=
  (signals_callback _ hk _ _).bind fun _ => preserves_get.guarantee.bind fun _ =>
    signals_runCalls _

/-! ## Reading a connection -/

namespace EventableDescriptor

theorem signals_genericInboundDispatch (app : App) (self : Binding) (buf : List Byte) :
    Guarantee Signals (genericInboundDispatch app self buf) := by
  simp only [genericInboundDispatch]
  refine (preserves_descriptor _).guarantee.bind fun _ => ?_
  split
  · exact .ite ((Virtual.signals_sendOutboundData _ _).discard.bind fun _ =>
      (signals_modifyDescriptor _ fun _ => by rfl).bind fun _ =>
        (preserves_descriptor _).guarantee.bind fun _ => .ite ((signals_stopProxy _).bind fun _ =>
          (signals_invokeCallback _ _ (by decide) _ _).bind fun _ =>
            .ite (signals_invokeCallback _ _ (by decide) _ _) (guarantee_pure _)) (guarantee_pure _))
      ((Virtual.signals_sendOutboundData _ _).discard.bind fun _ =>
        signals_modifyDescriptor _ fun _ => by rfl)
  · exact signals_invokeCallback _ _ (by decide) _ _

end EventableDescriptor

namespace ConnectionDescriptor

/-- `_CheckHandshakeStatus` logs the handshake event only for a connection that was waiting
for it, and stops the wait first: the event uses up the connection's unit of budget. -/
theorem signals_checkHandshakeStatus (app : App) (self : Binding) :
    Guarantee Signals (checkHandshakeStatus app self) := by
  intro s
  simp only [checkHandshakeStatus, wp_bind, wp_connection]
  intro d hd c hc
  split_ifs with hwait
  swap
  · exact .refl s
  rw [wp_bind]
  refine (preserves_signalView_sslCall self _).wp (fun done s₁ h₁ => ?_) fun _ h => .of_signalView h
  split_ifs
  swap
  · exact .of_signalView h₁
  rw [wp_bind, modifyConnection, wp_modifyDescriptor]
  intro d₁ hd₁
  have ha : d₁.awaitingHandshake = true := by
    have h := congrArg (fun v => v.1 self) h₁
    simp only [signalView, hd₁, hd, Option.any_some] at h
    rw [h, EventableDescriptor.awaitingHandshake, hc]
    simpa using hwait.2
  simp only [invokeCallback, wp_bind, wp_callback, wp_get]
  exact (signals_runCalls _).wp_of_rel
    ((Signals.of_signalView h₁).trans (.signal hd₁ ha d₁.awaitingHandshake_signalled [] 0))

theorem signals_plaintextLoop (app : App) (self : Binding) :
    ∀ fuel, Guarantee Signals (plaintextLoop app self fuel)
  | 0 => guarantee_pure _
  | fuel + 1 => by
    simp only [plaintextLoop]
    exact (signals_sslCall _ _).bind fun ⟨_, _⟩ => .ite ((signals_checkHandshakeStatus _ _).bind
      fun _ => (EventableDescriptor.signals_genericInboundDispatch _ _ _).bind fun _ =>
        signals_plaintextLoop app self fuel) (guarantee_pure _)

theorem signals_dispatchInboundData (app : App) (self : Binding) (buffer : List Byte) :
    Guarantee Signals (dispatchInboundData app self buffer) := by
  unfold dispatchInboundData
  refine (preserves_connection _).guarantee.bind fun _ => ?_
  split
  · exact (signals_plaintextLoop _ _ _).bind fun _ => .ite
      ((signals_modifyDescriptor _ fun _ => by rfl).bind fun _ =>
        (signals_scheduleClose _ _).bind fun _ => guarantee_pure _)
      ((signals_checkHandshakeStatus _ _).bind fun _ => signals_dispatchCiphertext _)
  · exact EventableDescriptor.signals_genericInboundDispatch _ _ _

theorem signals_readLoop (app : App) (self : Binding) (sd : Int) :
    ∀ n results total, Guarantee Signals (readLoop app self sd n results total)
  | 0, _, _ => guarantee_pure _
  | n + 1, results, total => by
    simp only [readLoop]
    refine (signals_emit _).bind fun _ => ?_
    split
    · exact guarantee_pure _
    · exact (signals_dispatchInboundData _ _ _).bind fun _ =>
        (preserves_descriptor _).guarantee.bind fun _ =>
          .ite (guarantee_pure _) (signals_readLoop app self sd n _ _)
    · exact .ite ((signals_modifyDescriptor _ fun _ => by rfl).bind fun _ =>
        (EventableDescriptor.signals_close _).bind fun _ => guarantee_pure _) (guarantee_pure _)

theorem signals_read (app : App) (self : Binding) (results : List ReadResult) :
    Guarantee Signals (read app self results) := by
  simp only [read, pure_bind]
  exact (preserves_descriptor _).guarantee.bind fun _ =>
    .ite ((preserves_connection _).guarantee.bind fun _ =>
      .when (guarantee_throw_assertionFailed _)
        ((signals_modifyConnection _ fun _ => by rfl).bind fun _ => guarantee_pure _)) <|
    .ite ((preserves_connection _).guarantee.bind fun _ =>
      .ite ((signals_invokeCallback _ _ (by decide) _ _).bind fun _ => guarantee_pure _)
        (guarantee_pure _)) <|
    preserves_getCurrentLoopTime.guarantee.bind fun _ =>
      (signals_modifyDescriptor _ fun _ => by rfl).bind fun _ =>
        (signals_readLoop _ _ _ _ _ _).bind fun _ =>
          .ite (signals_scheduleClose _ _) (guarantee_pure _)

/-! ## Writing, errors and timeouts of a connection -/

theorem signals_releaseSource (self : Binding) : Guarantee Signals (releaseSource self) := by
  unfold releaseSource
  refine (preserves_descriptor _).guarantee.bind fun _ => ?_
  split
  · exact .ite ((preserves_descriptor _).guarantee.bind fun _ =>
      .ite (Virtual.signals_resume _).discard (guarantee_pure _)) (guarantee_pure _)
  · exact guarantee_pure _

theorem signals_consumeOutbound (build : Build) (self : Binding) (pages : List OutboundPage)
    (buffer : List Byte) (bytesWritten : Nat) (err : Bool) :
    Guarantee Signals (consumeOutbound build self pages buffer bytesWritten err) := by
  cases build <;> simp only [consumeOutbound]
  · exact .ite (signals_modifyConnection _ fun _ => by rfl) (guarantee_pure _)
  · exact .ite (signals_malloc.bind fun _ => .when (guarantee_throw_runtimeError _)
      (signals_modifyConnection _ fun _ => by rfl)) (guarantee_pure _)

theorem signals_writeOutboundData (build : Build) (self : Binding) (r : SyscallResult) :
    Guarantee Signals (writeOutboundData build self r) := by
  simp only [writeOutboundData, pure_bind]
  exact (preserves_descriptor _).guarantee.bind fun _ =>
    .ite ((preserves_connection _).guarantee.bind fun _ =>
      .when (guarantee_throw_assertionFailed _) (signals_modifyConnection _ fun _ => by rfl)) <|
    preserves_getCurrentLoopTime.guarantee.bind fun _ =>
      (signals_modifyDescriptor _ fun _ => by rfl).bind fun _ =>
        (preserves_connection _).guarantee.bind fun _ =>
          (signals_modifyConnection _ fun _ => by rfl).bind fun _ =>
            .when (guarantee_throw_assertionFailed _) <| (signals_emit _).bind fun _ =>
              (signals_modifyConnection _ fun _ => by rfl).bind fun _ =>
                (signals_releaseSource _).bind fun _ => (signals_consumeOutbound _ _ _ _ _ _).bind
                  fun _ => (signals_updateEvents _ _ _).bind fun _ =>
                    .ite ((signals_modifyDescriptor _ fun _ => by rfl).bind fun _ =>
                      EventableDescriptor.signals_close _) (guarantee_pure _)

theorem signals_write (app : App) (build : Build) (self : Binding) (status : ConnectStatus)
    (r : SyscallResult) : Guarantee Signals (write app build self status r) := by
  simp only [write, pure_bind]
  exact (preserves_connection _).guarantee.bind fun _ =>
    .ite (.ite ((signals_invokeCallback _ _ (by decide) _ _).bind fun _ =>
        signals_setConnectPending _ _)
      (.when (signals_modifyDescriptor _ fun _ => by rfl) (signals_scheduleClose _ _))) <|
    .ite ((signals_invokeCallback _ _ (by decide) _ _).bind fun _ =>
      (signals_updateEvents _ _ _).bind fun _ => guarantee_pure _) <|
    (preserves_descriptor _).guarantee.bind fun _ => .when (guarantee_throw_assertionFailed _)
      (signals_writeOutboundData _ _ _)

theorem signals_handleError (app : App) (build : Build) (self : Binding)
    (results : List ReadResult) (status : ConnectStatus) (r : SyscallResult) :
    Guarantee Signals (handleError app build self results status r) := by
  simp only [handleError, pure_bind]
  have hwrite : Guarantee Signals (connection self >>= fun c =>
      if c.bNotifyWritable = true then write app build self status r else pure ()) :=
    (preserves_connection _).guarantee.bind fun _ =>
      .ite (signals_write _ _ _ _ _) (guarantee_pure _)
  exact (preserves_descriptor _).guarantee.bind fun _ =>
    .ite (.ite (guarantee_pure _) ((preserves_connection _).guarantee.bind fun _ =>
      .ite ((signals_read _ _ _).bind fun _ => hwrite) hwrite)) (signals_scheduleClose _ _)

theorem signals_heartbeat (self : Binding) : Guarantee Signals (heartbeat self) := by
  unfold heartbeat
  exact preserves_getTimerQuantum.guarantee.bind fun _ => (preserves_descriptor _).guarantee.bind
    fun _ => preserves_getCurrentLoopTime.guarantee.bind fun _ =>
      (preserves_connection _).guarantee.bind fun _ =>
        .ite (.ite ((signals_modifyDescriptor _ fun _ => by rfl).bind fun _ =>
          signals_scheduleClose _ _) (guarantee_pure _))
        (.ite ((signals_modifyDescriptor _ fun _ => by rfl).bind fun _ =>
          signals_scheduleClose _ _) (guarantee_pure _))

end ConnectionDescriptor

/-! ## The poll-driven methods of a datagram socket -/

namespace DatagramDescriptor

theorem signals_readLoop (app : App) (self : Binding) (sd : Int) :
    ∀ n results, Guarantee Signals (readLoop app self sd n results)
  | 0, _ => guarantee_pure _
  | n + 1, results => by
    simp only [readLoop]
    refine (signals_emit _).bind fun _ => ?_
    split
    · exact (signals_modifyDatagram _ _).bind fun _ =>
        (EventableDescriptor.signals_genericInboundDispatch _ _ _).bind fun _ =>
          signals_readLoop app self sd n _
    · exact guarantee_pure _

theorem signals_read (app : App) (self : Binding) (results : List RecvResult) :
    Guarantee Signals (read app self results) := by
  simp only [read, pure_bind]
  exact (preserves_descriptor _).guarantee.bind fun _ => .when (guarantee_throw_assertionFailed _) <|
    preserves_getCurrentLoopTime.guarantee.bind fun _ =>
      (signals_modifyDescriptor _ fun _ => by rfl).bind fun _ => signals_readLoop _ _ _ _ _

theorem signals_writeLoop (self : Binding) (sd : Int) :
    ∀ n results, Guarantee Signals (writeLoop self sd n results)
  | 0, _ => guarantee_pure _
  | n + 1, results => by
    simp only [writeLoop]
    refine (preserves_datagram _).guarantee.bind fun _ => ?_
    split
    · exact guarantee_pure _
    · exact .when (signals_emit _) <| (signals_modifyDatagram _ _).bind fun _ =>
        .ite ((signals_modifyDescriptor _ fun _ => by rfl).bind fun _ =>
          EventableDescriptor.signals_close _) (signals_writeLoop self sd n _)

theorem signals_write (self : Binding) (results : List SyscallResult) :
    Guarantee Signals (write self results) := by
  simp only [write, pure_bind]
  exact (preserves_descriptor _).guarantee.bind fun _ => .when (guarantee_throw_assertionFailed _) <|
    preserves_getCurrentLoopTime.guarantee.bind fun _ =>
      (signals_modifyDescriptor _ fun _ => by rfl).bind fun _ =>
        (preserves_datagram _).guarantee.bind fun _ => .when (guarantee_throw_assertionFailed _) <|
          (signals_writeLoop _ _ _ _).bind fun _ => (preserves_datagram _).guarantee.bind fun _ =>
            (signals_modifyDescriptor _ fun _ => by rfl).bind fun _ => signals_emit _

theorem signals_heartbeat (self : Binding) : Guarantee Signals (heartbeat self) := by
  unfold heartbeat
  exact (preserves_descriptor _).guarantee.bind fun _ =>
    preserves_getCurrentLoopTime.guarantee.bind fun _ =>
      .ite (EventableDescriptor.signals_scheduleClose _ _) (guarantee_pure _)

end DatagramDescriptor

/-! ## Creating and destroying descriptors -/

theorem signals_addDescriptor (b : Binding) : Guarantee Signals (addDescriptor b) :=
  signals_emit _

/-- `~EventableDescriptor` runs the unbind callbacks; none of them is the handshake event. -/
theorem EventableDescriptor.signals_destructor (app : App) (self : Binding) :
    Guarantee Signals (destructor app self) := by
  unfold destructor
  refine (preserves_descriptor _).guarantee.bind fun _ => ?_
  lift_lets
  intro tail unbound callback
  have htail : ∀ y, Guarantee Signals (tail y) := fun _ =>
    (signals_modify (fun _ => by rfl) (fun _ => by rfl) fun _ => by rfl).bind fun _ =>
      (signals_stopProxy _).bind fun _ => signals_close _
  have hunbound : ∀ y, Guarantee Signals (unbound y) := fun _ => by
    refine (preserves_descriptor _).guarantee.bind fun _ => ?_
    split
    · refine (preserves_descriptor _).guarantee.discard.bind fun _ =>
        (signals_invokeCallback _ _ (by decide) _ _).bind fun _ =>
          (preserves_descriptor _).guarantee.bind fun _ => ?_
      split
      · exact (signals_stopProxy _).bind htail
      · exact (guarantee_throw_undefinedBehaviour _).bind htail
    · exact (guarantee_pure _).bind htail
  have hcallback : ∀ y, Guarantee Signals (callback y) := fun _ =>
    .ite ((signals_invokeCallback _ _ (by decide) _ _).bind hunbound)
      ((guarantee_pure _).bind hunbound)
  exact .ite ((signals_clearHeartbeat _ _).bind hcallback) ((guarantee_pure _).bind hcallback)

theorem signals_destroy (app : App) (self : Binding) : Guarantee Signals (destroy app self) := by
  unfold destroy
  refine (preserves_descriptor _).guarantee.bind fun _ => ?_
  lift_lets
  intro rest
  have hrest : ∀ y, Guarantee Signals (rest y) := fun _ =>
    (EventableDescriptor.signals_destructor _ _).bind fun _ => signals_forgetBinding _
  exact .ite ((signals_emit _).bind fun _ => (signals_modifyDescriptor _ fun _ => by rfl).bind hrest)
    ((guarantee_pure _).bind hrest)

namespace AcceptorDescriptor

theorem signals_readLoop (app : App) (self : Binding) :
    ∀ n results, Guarantee Signals (readLoop app self n results)
  | 0, _ => guarantee_pure _
  | n + 1, results => by
    simp only [readLoop]
    split
    · exact guarantee_pure _
    · exact (signals_emit _).bind fun _ => (signals_emit _).bind fun _ =>
        signals_readLoop app self n _
    · exact (signals_newDescriptor _ _ _ _).bind fun _ =>
        (signals_modifyConnection _ fun _ => by rfl).bind fun _ =>
          (signals_invokeCallback _ _ (by decide) _ _).bind fun _ =>
            (preserves_descriptor _).guarantee.bind fun _ =>
              (preserves_connection _).guarantee.bind fun _ =>
                (signals_modifyDescriptor _ fun _ => by rfl).bind fun _ =>
                  (signals_addDescriptor _).bind fun _ => signals_readLoop app self n _

theorem signals_read (app : App) (self : Binding) (results : List AcceptResult) :
    Guarantee Signals (read app self results) :=
  preserves_get.guarantee.bind fun _ => signals_readLoop _ _ _ _

end AcceptorDescriptor

theorem InotifyDescriptor.signals_create (app : App) (fd : Int) :
    Guarantee Signals (InotifyDescriptor.create app fd) := by
  unfold InotifyDescriptor.create
  exact (signals_newDescriptor _ _ _ _).bind fun _ =>
    .ite ((EventableDescriptor.signals_destructor _ _).bind fun _ =>
      (signals_forgetBinding _).bind fun _ => guarantee_throw_runtimeError _)
    ((signals_modifyDescriptor _ fun _ => by rfl).bind fun _ => guarantee_pure _)

/-! ## The reactor's steps -/

namespace Virtual

theorem signals_read (app : App) (self : Binding) (k : Kernel) :
    Guarantee Signals (read app self k) := by
  unfold read AcceptorDescriptor.read LoopbreakDescriptor.read InotifyDescriptor.read
  refine (preserves_descriptor _).guarantee.bind fun _ => ?_
  split
  · exact ConnectionDescriptor.signals_read _ _ _
  · exact DatagramDescriptor.signals_read _ _ _
  · exact AcceptorDescriptor.signals_read _ _ _
  · exact signals_invokeCallback _ _ (by decide) _ _
  · exact signals_invokeCallback _ _ (by decide) _ _

theorem signals_write (app : App) (build : Build) (self : Binding) (k : Kernel) :
    Guarantee Signals (write app build self k) := by
  unfold write AcceptorDescriptor.write LoopbreakDescriptor.write InotifyDescriptor.write
  refine (preserves_descriptor _).guarantee.bind fun _ => ?_
  split
  · exact ConnectionDescriptor.signals_write _ _ _ _ _
  · exact DatagramDescriptor.signals_write _ _
  all_goals exact guarantee_throw_runtimeError _

theorem signals_handleError (app : App) (build : Build) (self : Binding) (k : Kernel) :
    Guarantee Signals (handleError app build self k) := by
  unfold handleError
  refine (preserves_descriptor _).guarantee.bind fun _ => ?_
  split
  · exact ConnectionDescriptor.signals_handleError _ _ _ _ _ _
  · exact EventableDescriptor.signals_scheduleClose _ _

theorem signals_heartbeat (self : Binding) : Guarantee Signals (heartbeat self) := by
  unfold heartbeat
  refine (preserves_descriptor _).guarantee.bind fun _ => ?_
  split
  · exact ConnectionDescriptor.signals_heartbeat _
  · exact DatagramDescriptor.signals_heartbeat _
  · exact guarantee_pure _

end Virtual

theorem signals_dispatchHeartbeat (self : Binding) : Guarantee Signals (dispatchHeartbeat self) :=
  (Virtual.signals_heartbeat _).bind fun _ => signals_queueHeartbeat _

theorem signals_connectToServer (sd : Int) : Guarantee Signals (connectToServer sd) :=
  (signals_newDescriptor _ _ _ _).bind fun _ =>
    (ConnectionDescriptor.signals_setConnectPending _ _).bind fun _ =>
      (signals_addDescriptor _).bind fun _ => guarantee_pure _

theorem signals_attachFd (fd : Int) (watchMode : Bool) : Guarantee Signals (attachFd fd watchMode) :=
  (signals_newDescriptor _ _ _ _).bind fun _ => (ConnectionDescriptor.signals_setAttached _ _).bind
    fun _ => (ConnectionDescriptor.signals_setWatchOnly _ _).bind fun _ =>
      (ConnectionDescriptor.signals_setConnectPending _ _).bind fun _ =>
        (signals_addDescriptor _).bind fun _ => guarantee_pure _

theorem signals_openDatagramSocket (sd : Int) : Guarantee Signals (openDatagramSocket sd) :=
  (signals_newDescriptor _ _ _ _).bind fun _ => (signals_addDescriptor _).bind fun _ =>
    guarantee_pure _

theorem signals_createTcpServer (sd : Int) : Guarantee Signals (createTcpServer sd) :=
  (signals_newDescriptor _ _ _ _).bind fun _ => (signals_addDescriptor _).bind fun _ =>
    guarantee_pure _

theorem signals_initializeLoopBreaker (sd : Int) :
    Guarantee Signals (initializeLoopBreaker sd) :=
  (signals_newDescriptor _ _ _ _).bind fun _ => (signals_addDescriptor _).bind fun _ =>
    guarantee_pure _

theorem signals_openInotify (app : App) (fd : Int) : Guarantee Signals (openInotify app fd) :=
  (InotifyDescriptor.signals_create _ _).bind fun _ => (signals_addDescriptor _).bind fun _ =>
    guarantee_pure _

/-! ## Runs -/

theorem Completes.signals {α : Type} {x : EM α} {s s' : Reactor} (hx : Guarantee Signals x)
    (h : Completes x s s') : Signals s s' := by
  rcases h.of_wp (hx s) with ⟨_, h⟩ | h <;> exact h

/-- Every step of the reactor keeps the tally. -/
theorem Step.signals {app : App} {build : Build} {s s' : Reactor} (h : Step app build s s') :
    Signals s s' := by
  cases h with
  | call c h => exact h.signals (signals_runApiCall c)
  | read b k h => exact h.signals (Virtual.signals_read _ _ _)
  | write b k _ h => exact h.signals (Virtual.signals_write _ _ _ _)
  | handleError b k _ h => exact h.signals (Virtual.signals_handleError _ _ _ _)
  | heartbeat b key _ _ h => exact h.signals (signals_dispatchHeartbeat _)
  | delete b d _ _ h => exact h.signals (signals_destroy _ _)
  | connect sd h => exact h.signals (signals_connectToServer _)
  | attach fd watchMode h => exact h.signals (signals_attachFd _ _)
  | openDatagram sd h => exact h.signals (signals_openDatagramSocket _)
  | listen sd h => exact h.signals (signals_createTcpServer _)
  | loopBreaker sd h => exact h.signals (signals_initializeLoopBreaker _)
  | inotify fd h => exact h.signals (signals_openInotify _ _)
  | tick now real => exact .of_signalView rfl

/-- A run of steps keeps the tally. -/
theorem Step.signals_of_run {app : App} {build : Build} {s s' : Reactor}
    (h : Relation.ReflTransGen (Step app build) s s') : Signals s s' := by
  induction h with
  | refl => exact .refl s
  | tail _ hstep ih => exact ih.trans hstep.signals

/-- Where the bindings from `nextBinding` on name nothing, a binding may get at most one more
handshake event. -/
theorem Reactor.handshakeBudget_le_one {s : Reactor} (hf : Fresh s) (b : Binding) :
    s.handshakeBudget b ≤ 1 := by
  unfold Reactor.handshakeBudget
  by_cases hb : s.nextBinding ≤ b
  · simp [hb, hf b hb]
  · rw [if_neg hb, Nat.zero_add]
    exact Bool.toNat_le _

/-- A binding already handed out, whose descriptor, if it still has one, is not a connection
waiting for its signal, may get no more. -/
theorem Reactor.handshakeBudget_eq_zero {s : Reactor} {b : Binding} (hb : b < s.nextBinding)
    (hd : ∀ d, s.descriptors b = some d → d.awaitingHandshake = false) :
    s.handshakeBudget b = 0 := by
  unfold Reactor.handshakeBudget
  rw [if_neg (Nat.not_le_of_lt hb), Nat.zero_add]
  cases h : s.descriptors b with
  | none => rfl
  | some d => simp [hd d h]

/-! ## One connection through its handshake

The lemmas below follow one TLS connection through `StartTls` and two reads, composing a lemma
for each call rather than unfolding the burst of `Read`. -/

namespace ConnectionDescriptor

/-- A read of one nonempty chunk on a connection with an open socket: the burst records the
read, hands the chunk to `_DispatchInboundData` on the descriptor stamped with the loop time,
and, the connection not paused, reads the socket again and stops on `EAGAIN`. -/
theorem succeeds_read_chunk {app : App} {s : Reactor} {b : Binding} {d : EventableDescriptor}
    {c : ConnectionDescriptor} {data : List Byte} {Q : Unit → Reactor → Prop}
    (hd : s.descriptors b = some d) (hc : d.sub = .connection c)
    (hsock : d.mySocket ≠ invalidSocket) (hwatch : d.bWatchOnly = false) (hdata : data ≠ [])
    (h : ∀ s₁ : Reactor, s₁.descriptors b = some { d with lastActivity := s.currentLoopTime } →
      s₁.callbacks = s.callbacks → Succeeds (dispatchInboundData app b data)
        (fun _ s' => (s'.descriptors b).map EventableDescriptor.bPaused = some false ∧
          Q () { s' with trace := s'.trace ++ [.recv d.mySocket] }) s₁) :
    Succeeds (Virtual.read app b { reads := [.bytes data] }) Q s := by
  obtain ⟨x, xs, rfl⟩ := List.exists_cons_of_ne_nil hdata
  have hburst : readBurst = 8 + 2 := rfl
  have heagain : transientReadErrno eagain = true := rfl
  simp only [Virtual.read, succeeds_bind, succeeds_descriptor, hd, Option.some.injEq,
    exists_eq_left', hc, ConnectionDescriptor.read, hsock, hwatch, Bool.false_eq_true, ↓reduceIte,
    pure_bind, succeeds_getCurrentLoopTime, succeeds_modifyDescriptor, Function.update_same, hburst,
    ConnectionDescriptor.readLoop, succeeds_emit, List.headD_cons, List.tail_cons, List.headD_nil,
    heagain, Bool.not_true, succeeds_pure]
  have h := h { s with
    descriptors := Function.update s.descriptors b (some { d with lastActivity := s.currentLoopTime })
    trace := s.trace ++ [.recv d.mySocket] } (Function.update_same _ _ _) rfl
  simp only [hc, hwatch] at h
  refine h.mono fun _ s' ⟨hp, hq⟩ => ?_
  obtain ⟨d', hd', hp⟩ := Option.map_eq_some'.1 hp
  have htotal : (0 : Int) + ((x :: xs).length : Nat) ≠ 0 := by rw [List.length_cons]; omega
  simp only [succeeds_bind, succeeds_descriptor, hd', Option.some.injEq, exists_eq_left', hp,
    Bool.false_eq_true, ↓reduceIte, succeeds_emit, succeeds_pure, htotal]
  exact hq
/-- `_DispatchInboundData` on a connection whose engine has only a completed handshake to report:
no plaintext comes out, `_CheckHandshakeStatus` logs the handshake event and sets the flag, and
`_DispatchCiphertext` finds nothing to send. -/
theorem dispatchInboundData_completes_handshake {s : Reactor} {b : Binding}
    {d : EventableDescriptor} {c : ConnectionDescriptor} {data : List Byte}
    (hd : s.descriptors b = some d) (hc : d.sub = .connection c)
    (hbox : c.sslBox = some ⟨[.handshakeCompleted], false⟩) (hfresh : c.bHandshakeSignaled = false) :
    Succeeds (dispatchInboundData silentApp b data)
      (fun _ s' => s'.callbacks = s.callbacks ++ [⟨b, .sslHandshakeCompleted, [], 0⟩] ∧
        s'.descriptors b = some { d with
          sub := .connection { c with sslBox := some ⟨[], true⟩, bHandshakeSignaled := true } }) s := by
  simp only [dispatchInboundData, succeeds_bind, succeeds_connection, hd, hc, hbox, Option.some.injEq,
    exists_eq_left', Subclass.connection.injEq, List.length_singleton, plaintextLoop, sslCall,
    modifyConnection, succeeds_modifyDescriptor, Function.update_same, Subclass.mapConnection,
    SslBox.getPlaintext, succeeds_pure, gt_iff_lt, lt_self_iff_false, ↓reduceIte, checkHandshakeStatus,
    Option.isSome_some, hfresh, Bool.not_false, and_self, SslBox.isHandshakeCompleted, invokeCallback,
    succeeds_callback, succeeds_get, silentApp, runCalls, dispatchCiphertext, dispatchCiphertextLoop,
    drainCiphertext, pumpPlaintext, SslBox.canGetCiphertext, SslBox.putPlaintext, Int.reduceEq,
    Int.reduceNeg, Bool.or_self, Bool.false_eq_true, Function.update_idem, and_true]

/-- `_DispatchInboundData` on a connection that has signalled its handshake and whose engine has
nothing left to answer logs nothing and leaves the descriptor as it was. -/
theorem dispatchInboundData_idle {app : App} {s : Reactor} {b : Binding}
    {d : EventableDescriptor} {c : ConnectionDescriptor} {data : List Byte}
    (hd : s.descriptors b = some d) (hc : d.sub = .connection c)
    (hbox : c.sslBox = some ⟨[], true⟩) (hsignalled : c.bHandshakeSignaled = true) :
    Succeeds (dispatchInboundData app b data)
      (fun _ s' => s'.callbacks = s.callbacks ∧ s'.descriptors b = some d) s := by
  simp only [dispatchInboundData, succeeds_bind, succeeds_connection, hd, hc, hbox, Option.some.injEq,
    exists_eq_left', Subclass.connection.injEq, List.length_nil, plaintextLoop, sslCall,
    modifyConnection, succeeds_modifyDescriptor, Function.update_same, Subclass.mapConnection,
    SslBox.getPlaintext, succeeds_pure, gt_iff_lt, lt_self_iff_false, ↓reduceIte, checkHandshakeStatus,
    Option.isSome_some, hsignalled, Bool.not_true, Bool.not_false, and_false, dispatchCiphertext, dispatchCiphertextLoop,
    drainCiphertext, pumpPlaintext, SslBox.canGetCiphertext, SslBox.putPlaintext,
    Int.reduceEq, Int.reduceNeg, Bool.or_self, Bool.false_eq_true, Function.update_idem, true_and]
  rw [← hbox, ← hsignalled]
  cases d
  subst hc
  rfl

end ConnectionDescriptor

/-- `StartTls` with an engine that will only report a completed handshake returns with the engine
installed and nothing logged. -/
theorem startTls_handshake_engine {s : Reactor} {b : Binding} {d : EventableDescriptor}
    {c : ConnectionDescriptor} (hd : s.descriptors b = some d) (hc : d.sub = .connection c)
    (hnone : c.sslBox = none) :
    Succeeds (runApiCall (.startTls b ⟨[.handshakeCompleted], false⟩))
      (fun _ s' => s'.callbacks = s.callbacks ∧ s'.descriptors b = some
        { d with sub := .connection { c with sslBox := some ⟨[.handshakeCompleted], false⟩ } }) s := by
  simp only [runApiCall, onClass, succeeds_bind, succeeds_get, hd, hc, Subclass.isConnection,
    ↓reduceIte, ConnectionDescriptor.startTls, succeeds_connection, Option.some.injEq,
    exists_eq_left', Subclass.connection.injEq, hnone, Option.isSome_none, Bool.false_eq_true,
    pure_bind, modifyConnection, succeeds_modifyDescriptor, Function.update_same,
    Subclass.mapConnection, ConnectionDescriptor.dispatchCiphertext,
    ConnectionDescriptor.dispatchCiphertextLoop, ConnectionDescriptor.drainCiphertext,
    ConnectionDescriptor.pumpPlaintext, ConnectionDescriptor.sslCall, SslBox.canGetCiphertext,
    SslBox.putPlaintext, List.length_singleton, succeeds_pure, Function.update_idem,
    lt_self_iff_false, true_and, Bool.not_false, Int.reduceLT, and_self, Bool.or_self]

/-- A read of one chunk on a connection whose engine has only a completed handshake to report
logs the handshake event and nothing else, and leaves the connection signalled. -/
theorem read_completes_handshake {s : Reactor} {b : Binding} {d : EventableDescriptor}
    {c : ConnectionDescriptor} {data : List Byte}
    (hd : s.descriptors b = some d) (hc : d.sub = .connection c)
    (hbox : c.sslBox = some ⟨[.handshakeCompleted], false⟩)
    (hfresh : c.bHandshakeSignaled = false) (hsock : d.mySocket ≠ invalidSocket)
    (hwatch : d.bWatchOnly = false) (hpaused : d.bPaused = false) (hdata : data ≠ []) :
    Succeeds (Virtual.read silentApp b { reads := [.bytes data] })
      (fun _ s' => s'.callbacks = s.callbacks ++ [⟨b, .sslHandshakeCompleted, [], 0⟩] ∧
        ∃ d', s'.descriptors b = some d' ∧ d'.mySocket = d.mySocket ∧ d'.bWatchOnly = false ∧
          d'.bPaused = false ∧
          d'.sub = .connection { c with sslBox := some ⟨[], true⟩, bHandshakeSignaled := true }) s := by
  refine ConnectionDescriptor.succeeds_read_chunk hd hc hsock hwatch hdata fun s₁ hd₁ hcb₁ =>
    (ConnectionDescriptor.dispatchInboundData_completes_handshake hd₁ hc hbox hfresh).mono
      fun _ s' ⟨hcb, hd'⟩ => ?_
  exact ⟨by rw [hd']; exact congrArg some hpaused, hcb.trans (by rw [hcb₁]), _, hd', rfl, hwatch,
    hpaused, rfl⟩

/-- A read of one chunk on a connection that has signalled its handshake, with nothing left in
its engine, logs nothing. -/
theorem read_after_handshake {app : App} {s : Reactor} {b : Binding} {d : EventableDescriptor}
    {c : ConnectionDescriptor} {data : List Byte}
    (hd : s.descriptors b = some d) (hc : d.sub = .connection c)
    (hbox : c.sslBox = some ⟨[], true⟩) (hsignalled : c.bHandshakeSignaled = true)
    (hsock : d.mySocket ≠ invalidSocket) (hwatch : d.bWatchOnly = false)
    (hpaused : d.bPaused = false) (hdata : data ≠ []) :
    Succeeds (Virtual.read app b { reads := [.bytes data] })
      (fun _ s' => s'.callbacks = s.callbacks) s :=
  ConnectionDescriptor.succeeds_read_chunk hd hc hsock hwatch hdata fun _ hd₁ hcb₁ =>
    (ConnectionDescriptor.dispatchInboundData_idle hd₁ hc hbox hsignalled).mono
      fun _ _ ⟨hcb, hd'⟩ => ⟨by rw [hd']; exact congrArg some hpaused, hcb.trans hcb₁⟩

/-! ## The handshake event fires once -/

/-- From any reachable state, along any run of the reactor, the callback log only grows, and what
it gains holds at most one `EM_SSL_HANDSHAKE_COMPLETED` event for each binding; none for a binding
already handed out whose descriptor is gone or is not a connection still waiting for its
signal. -/
theorem handshake_completed_at_most_once {app : App} {build : Build} {s₀ s : Reactor}
    (hs₀ : Reachable app build s₀) (h : Relation.ReflTransGen (Step app build) s₀ s) :
    ∃ new, s.callbacks = s₀.callbacks ++ new ∧ ∀ b, handshakeEvents b new ≤ 1 ∧
      (b < s₀.nextBinding → (∀ d, s₀.descriptors b = some d → d.awaitingHandshake = false) →
        handshakeEvents b new = 0) := by
  obtain ⟨⟨new, hnew⟩, htally⟩ := Step.signals_of_run h
  refine ⟨new, hnew, fun b => ?_⟩
  have hb := htally b
  rw [hnew, handshakeEvents_append] at hb
  have hle := s₀.handshakeBudget_le_one hs₀.fresh b
  exact ⟨by omega, fun hlt hd => by have := s₀.handshakeBudget_eq_zero hlt hd; omega⟩

/-- A connection attached, given an engine that completes its handshake, and read twice: the
first read logs the one handshake event, and the second read logs nothing. -/
theorem handshake_completed_at_most_once_two_reads :
    ∃ s₀ s₁ s, Reachable silentApp .writev s₀ ∧ Relation.ReflTransGen (Step silentApp .writev) s₀ s₁ ∧
      s₁.callbacks = [⟨0, .sslHandshakeCompleted, [], 0⟩] ∧
      Completes (Virtual.read silentApp 0 { reads := [.bytes [9]] }) s₁ s ∧
      s.callbacks = [⟨0, .sslHandshakeCompleted, [], 0⟩] ∧
      ∃ new, s.callbacks = s₀.callbacks ++ new ∧ ∀ b, handshakeEvents b new ≤ 1 ∧
        (b < s₀.nextBinding → (∀ d, s₀.descriptors b = some d → d.awaitingHandshake = false) →
          handshakeEvents b new = 0) := by
  obtain ⟨s, hattach, hcb, d, c, hd, hc, hnone, hfresh, hsock, hwatch, hpaused⟩ :
      ∃ s, Relation.ReflTransGen (Step silentApp .writev) Reactor.empty s ∧ s.callbacks = [] ∧
        ∃ d c, s.descriptors 0 = some d ∧ d.sub = .connection c ∧ c.sslBox = none ∧
          c.bHandshakeSignaled = false ∧ d.mySocket = 5 ∧ d.bWatchOnly = false ∧ d.bPaused = false :=
    ⟨_, .single (.attach 5 false (.of_survives (by decide))), rfl, _, _, rfl, rfl, rfl, rfl, rfl,
      rfl, rfl⟩
  obtain ⟨hstart, -, hcb₁, hd₁⟩ := (startTls_handshake_engine hd hc hnone).after_spec
  have hsock₁ : d.mySocket ≠ invalidSocket := by rw [hsock]; decide
  obtain ⟨hread₁, -, hcb₂, d₂, hd₂, hsock₂, hwatch₂, hpaused₂, hc₂⟩ :=
    (read_completes_handshake hd₁ rfl rfl hfresh hsock₁ hwatch hpaused
      (List.cons_ne_nil 9 [])).after_spec
  obtain ⟨hread₂, -, hcb₃⟩ :=
    (read_after_handshake hd₂ hc₂ rfl rfl (hsock₂ ▸ hsock₁) hwatch₂ hpaused₂
      (List.cons_ne_nil 9 [])).after_spec
  have hrun := (hattach.tail (.call _ hstart)).tail (.read 0 _ hread₁)
  have hone : (after (Virtual.read silentApp 0 { reads := [.bytes [9]] })
      (after (runApiCall (.startTls 0 ⟨[.handshakeCompleted], false⟩)) s)).callbacks =
      [⟨0, .sslHandshakeCompleted, [], 0⟩] := by rw [hcb₂, hcb₁, hcb]; rfl
  exact ⟨_, _, _, .init Reactor.empty_initial, hrun, hone, hread₂, hcb₃.trans hone,
    handshake_completed_at_most_once (.init Reactor.empty_initial) (hrun.tail (.read 0 _ hread₂))⟩

end EventMachine

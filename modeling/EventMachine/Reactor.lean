import EventMachine.Lifecycle

/-!
# The reactor's steps

The reactor is outside `ed.cpp`; the spec fixes its contract with the descriptors. It invokes
`Read`, `Write` and `HandleError` on readiness, `Heartbeat` (then `QueueHeartbeat`) when a
queued deadline is due, and deletes a descriptor once `ShouldDelete` holds. It creates
descriptors on its connect, attach, listen and datagram paths, and the application calls the
public operations at any time. `Step` is one of these, and `Reachable` is what a run of steps
from a reactor without descriptors can reach.

The kernel, the TLS engine, the allocator and the application are arbitrary: their answers
are arguments of the steps. The kernel's only promise is that a write takes no more bytes
than it was given (`WriteTakesAtMost`).
-/

namespace EventMachine

/-- The kernel's answers to the system calls of one method call. -/
structure Kernel where
  reads : List ReadResult := []
  recvs : List RecvResult := []
  accepts : List AcceptResult := []
  sends : List SyscallResult := []
  write : SyscallResult := ⟨-1, eagain⟩
  connect : ConnectStatus := ⟨0, 0⟩

namespace Virtual

/-- `Read` through a base pointer. -/
def read (app : App) (self : Binding) (k : Kernel) : EM Unit := do
  match (← descriptor self).sub with
  | .connection _ => ConnectionDescriptor.read app self k.reads
  | .datagram _ => DatagramDescriptor.read app self k.recvs
  | .acceptor => AcceptorDescriptor.read app self k.accepts
  | .loopbreak => LoopbreakDescriptor.read app
  | .inotify => InotifyDescriptor.read app self

/-- `Write` through a base pointer. -/
def write (app : App) (build : Build) (self : Binding) (k : Kernel) : EM Unit := do
  match (← descriptor self).sub with
  | .connection _ => ConnectionDescriptor.write app build self k.connect k.write
  | .datagram _ => DatagramDescriptor.write self k.sends
  | .acceptor => AcceptorDescriptor.write
  | .loopbreak => LoopbreakDescriptor.write
  | .inotify => InotifyDescriptor.write

/-- `HandleError` through a base pointer. Modelled from the spec for the subclasses other
than a connection: the base class's version, inline in ed.h (not under src/), schedules an
immediate close. -/
def handleError (app : App) (build : Build) (self : Binding) (k : Kernel) : EM Unit := do
  match (← descriptor self).sub with
  | .connection _ => ConnectionDescriptor.handleError app build self k.reads k.connect k.write
  | _ => EventableDescriptor.scheduleClose self false

/-- `Heartbeat` through a base pointer. Modelled from the spec for the loop breaker and the
change-notification descriptor: their versions, inline in ed.h (not under src/), do nothing,
as the acceptor's does. -/
def heartbeat (self : Binding) : EM Unit := do
  match (← descriptor self).sub with
  | .connection _ => ConnectionDescriptor.heartbeat self
  | .datagram _ => DatagramDescriptor.heartbeat self
  | _ => pure ()

end Virtual

/-! ## The reactor's own paths (em.cpp, not under src/) -/

/-- Modelled from the spec: the heartbeat dispatch of the reactor runs `Heartbeat` on a
descriptor whose deadline is due, then queues its next deadline. -/
def dispatchHeartbeat (self : Binding) : EM Unit := do
  Virtual.heartbeat self
  queueHeartbeat self

/-- Modelled from the spec: `ConnectToServer` wraps a socket with a connect in progress. -/
def connectToServer (sd : Int) : EM Binding := do
  let cd ← newDescriptor sd (.connection {}) 0 true
  ConnectionDescriptor.setConnectPending cd true
  addDescriptor cd
  return cd

/-- Modelled from the spec: `AttachFD` wraps a handle the application owns, optionally in
watch-only mode. -/
def attachFd (fd : Int) (watchMode : Bool) : EM Binding := do
  let cd ← newDescriptor fd (.connection {}) 0 true
  ConnectionDescriptor.setAttached cd true
  ConnectionDescriptor.setWatchOnly cd watchMode
  ConnectionDescriptor.setConnectPending cd false
  addDescriptor cd
  return cd

/-- Modelled from the spec: `OpenDatagramSocket` wraps a bound datagram socket. -/
def openDatagramSocket (sd : Int) : EM Binding := do
  let b ← newDescriptor sd (.datagram {}) epollIn true
  addDescriptor b
  return b

/-- Modelled from the spec: `CreateTcpServer` wraps a listening socket. -/
def createTcpServer (sd : Int) : EM Binding := do
  let b ← AcceptorDescriptor.create sd
  addDescriptor b
  return b

/-- Modelled from the spec: the loop breaker is created with the reactor. -/
def initializeLoopBreaker (sd : Int) : EM Binding := do
  let b ← LoopbreakDescriptor.create sd
  addDescriptor b
  return b

/-- Modelled from the spec: the change-notification descriptor is created with the first
file watch. -/
def openInotify (app : App) (fd : Int) : EM Binding := do
  let b ← InotifyDescriptor.create app fd
  addDescriptor b
  return b

/-! ## Runs -/

/-- A run of `x` from `s` that the reactor survives ends in `s'`: it returns, or throws a
`std::runtime_error`. -/
def Completes {α : Type} (x : EM α) (s s' : Reactor) : Prop :=
  match x s with
  | .ok _ t => t = s'
  | .error (.runtimeError _) t => t = s'
  | .error _ _ => False

theorem Completes.of_wp {α : Type} {x : EM α} {Q : α → Reactor → Prop} {E : Reactor → Prop}
    {s s' : Reactor} (h : Completes x s s') (hwp : wp x Q E s) : (∃ a, Q a s') ∨ E s' := by
  unfold Completes wp at *
  rcases hx : x s with ⟨a, t⟩ | ⟨⟨w⟩ | ⟨w⟩ | ⟨w⟩, t⟩ <;> simp only [hx] at h hwp
  · exact .inl ⟨a, h ▸ hwp⟩
  · exact .inr (h ▸ hwp)

/-- An invariant of `x` holds after every run of `x` the reactor survives. -/
theorem Keeps.completes {α : Type} {I : Reactor → Prop} {x : EM α} {s s' : Reactor}
    (hx : Keeps I x) (hs : I s) (h : Completes x s s') : I s' := by
  rcases h.of_wp (hx s hs) with ⟨_, h⟩ | h <;> exact h

/-- The kernel's promise to a stream's flush: a write takes at most the bytes it is given. -/
def WriteTakesAtMost (build : Build) (s : Reactor) (b : Binding) (k : Kernel) : Prop :=
  ∀ d c, s.descriptors b = some d → d.sub = .connection c →
    k.write.ret ≤ ((gather build c.outboundPages).1.length : Int)

/-- One step of the reactor, for an application `app` and a build of `_WriteOutboundData`. -/
inductive Step (app : App) (build : Build) : Reactor → Reactor → Prop
  | call {s s'} (c : ApiCall) : Completes (runApiCall c) s s' → Step app build s s'
  | read {s s'} (b : Binding) (k : Kernel) :
      Completes (Virtual.read app b k) s s' → Step app build s s'
  | write {s s'} (b : Binding) (k : Kernel) : WriteTakesAtMost build s b k →
      Completes (Virtual.write app build b k) s s' → Step app build s s'
  | handleError {s s'} (b : Binding) (k : Kernel) : WriteTakesAtMost build s b k →
      Completes (Virtual.handleError app build b k) s s' → Step app build s s'
  | heartbeat {s s'} (b : Binding) (key : UInt64) : (key, b) ∈ s.heartbeats →
      key ≤ s.currentLoopTime → Completes (dispatchHeartbeat b) s s' → Step app build s s'
  | delete {s s'} (b : Binding) (d : EventableDescriptor) : s.descriptors b = some d →
      d.shouldDelete → Completes (destroy app b) s s' → Step app build s s'
  | connect {s s'} (sd : Int) : Completes (connectToServer sd) s s' → Step app build s s'
  | attach {s s'} (fd : Int) (watchMode : Bool) :
      Completes (attachFd fd watchMode) s s' → Step app build s s'
  | openDatagram {s s'} (sd : Int) :
      Completes (openDatagramSocket sd) s s' → Step app build s s'
  | listen {s s'} (sd : Int) : Completes (createTcpServer sd) s s' → Step app build s s'
  | loopBreaker {s s'} (sd : Int) :
      Completes (initializeLoopBreaker sd) s s' → Step app build s s'
  | inotify {s s'} (fd : Int) : Completes (openInotify app fd) s s' → Step app build s s'
  | tick {s} (now real : UInt64) :
      Step app build s { s with currentLoopTime := now, realTime := real }

/-- A reactor before any descriptor exists: nothing is queued or counted. -/
structure Reactor.Initial (s : Reactor) : Prop where
  no_descriptors : ∀ b, s.descriptors b = none
  no_heartbeats : s.heartbeats = []
  no_closes : s.numCloseScheduled = 0

/-- A reactor before any descriptor exists, with its clocks at zero. -/
def Reactor.empty : Reactor where
  descriptors := fun _ => none
  nextBinding := 0
  numCloseScheduled := 0
  heartbeats := []
  currentLoopTime := 0
  realTime := 0
  timerQuantum := 0
  simultaneousAcceptCount := 10
  callbacks := []
  trace := []
  mallocResults := []

theorem Reactor.empty_initial : Reactor.empty.Initial := ⟨fun _ => rfl, rfl, rfl⟩

/-- The states a run of steps reaches from an initial reactor. -/
inductive Reachable (app : App) (build : Build) : Reactor → Prop
  | init {s} : s.Initial → Reachable app build s
  | step {s s'} : Reachable app build s → Step app build s s' → Reachable app build s'

/-! ## Runs on concrete inputs

For a run on concrete inputs, `after` computes the state `Completes` asks for, and `survives`
decides that the reactor survived it; both evaluate by `decide`. -/

/-- An application that makes no calls from its callback. -/
def silentApp : App := fun _ _ => []

/-- The state a run of `x` from `s` ends in. -/
def after {α : Type} (x : EM α) (s : Reactor) : Reactor :=
  match x s with
  | .ok _ t => t
  | .error _ t => t

/-- Whether a run of `x` from `s` returns or throws a `std::runtime_error`. -/
def survives {α : Type} (x : EM α) (s : Reactor) : Bool :=
  match x s with
  | .ok _ _ => true
  | .error (.runtimeError _) _ => true
  | .error _ _ => false

/-- Whether a run of `x` from `s` returns. -/
def returns {α : Type} (x : EM α) (s : Reactor) : Bool :=
  match x s with
  | .ok _ _ => true
  | .error _ _ => false

theorem run_eq_ok_after {x : EM Unit} {s : Reactor} (h : returns x s = true) :
    x s = .ok () (after x s) := by
  unfold returns at h
  unfold after
  split <;> simp_all

theorem ok_after {α : Type} {x : EM α} {s : Reactor} (h : returns x s = true) :
    ∃ a, x s = .ok a (after x s) := by
  unfold returns at h
  unfold after
  split <;> simp_all

theorem Completes.of_survives {α : Type} {x : EM α} {s : Reactor} (h : survives x s = true) :
    Completes x s (after x s) := by
  unfold survives at h
  unfold Completes after
  split <;> simp_all

/-- A run that returns ends in `after`, where its postcondition holds. -/
theorem Succeeds.after_spec {α : Type} {x : EM α} {Q : α → Reactor → Prop} {s : Reactor}
    (h : Succeeds x Q s) : Completes x s (after x s) ∧ ∃ a, Q a (after x s) := by
  obtain ⟨a, s', hx, hq⟩ := h.run
  simp only [Completes, after, hx]
  exact ⟨trivial, a, hq⟩

theorem Succeeds.completes {α : Type} {x : EM α} {Q : α → Reactor → Prop} {s : Reactor}
    (h : Succeeds x Q s) : Succeeds x (fun a s' => Completes x s s' ∧ Q a s') s := by
  obtain ⟨a, s', hx, hq⟩ := h.run
  simp only [Succeeds, Completes, hx]
  exact ⟨trivial, hq⟩

/-- `WriteTakesAtMost` on concrete inputs: the kernel's answer to a stream's flush is at most
what the flush gathers. -/
def writeFits (build : Build) (s : Reactor) (b : Binding) (k : Kernel) : Bool :=
  match (s.descriptors b).map EventableDescriptor.sub with
  | some (.connection c) => decide (k.write.ret ≤ ((gather build c.outboundPages).1.length : Int))
  | _ => true

theorem WriteTakesAtMost.of_writeFits {build : Build} {s : Reactor} {b : Binding} {k : Kernel}
    (h : writeFits build s b k = true) : WriteTakesAtMost build s b k := by
  intro d c hd hc
  simpa [writeFits, hd, hc] using h

/-- The reactor deletes the descriptor behind `b` when it is one that `ShouldDelete`. -/
theorem Step.delete_of_shouldDelete {app : App} {build : Build} {s s' : Reactor} (b : Binding)
    (h : (s.descriptors b).any EventableDescriptor.shouldDelete = true)
    (hc : Completes (destroy app b) s s') : Step app build s s' := by
  cases hd : s.descriptors b with
  | none => simp [hd] at h
  | some d => exact .delete b d hd (by simpa [hd] using h) hc

end EventMachine

import EventMachine.PollSteps

/-!
# The poll interest over a run

A constructor leaves a new connection's mask for someone else to compute. `ConnectToServer` and
`AttachFD` compute it with `SetConnectPending` and `SetWatchOnly`, and the acceptor computes it
from the selectors once the application has seen the connection; until then only the new
connection's two bits are stale (`NewStale`). The other descriptors have no bits to keep.

With the methods of the two modules before, every step of the reactor keeps every fact of every
descriptor (`Step.pollSound`). A reactor with no descriptors has them all, so in every reachable
state a connection with a valid socket has `EPOLLIN` exactly when `SelectForRead ()` holds and
`EPOLLOUT` exactly when `SelectForWrite ()` does (`poll_interest_current`).
-/

namespace EventMachine

/-! ## Creating descriptors -/

/-- What a new descriptor can have stale: the two bits of a new connection, whose mask the
constructor does not compute. -/
def NewStale (sub : Subclass) (b b' : Binding) (a : Aspect) : Prop :=
  b' = b ∧ (∃ c, sub = .connection c) ∧ ∃ i, a = .bit i

/-- The base constructor keeps every other descriptor's facts. The new one is not paused and,
if it is a connection, has nothing queued; only its bits may be stale. -/
theorem newDescriptor_keptBut {s : Reactor} (sd : Int) (sub : Subclass) (events : UInt32)
    (callbackUnbind : Bool) (hsub : ∀ c, sub = .connection c → c = {}) :
    wp (newDescriptor sd sub events callbackUnbind)
      (fun b s' => KeptBut (NewStale sub b) s s' ∧
        s'.Holds (fun d => d.sub = sub ∧ d.bPaused = false) b)
      (InterestKept s) s := by
  simp only [newDescriptor, wp_bind, wp_ite, wp_throw_runtimeError, wp_getCurrentLoopTime, wp_get,
    wp_set, wp_pure]
  refine ⟨fun _ => .refl _ s, fun _ => ⟨keptBut_of_set rfl fun a ha _ => ?_, fun d hd => ?_⟩⟩
  · cases a with
    | pause => exact fun _ _ _ => rfl
    | size =>
      intro c hc
      obtain rfl := hsub c hc
      exact Int.le_refl 0
    | bit i => exact fun c hc _ => absurd ⟨rfl, ⟨c, hc⟩, i, rfl⟩ ha
  · simp only [Function.update_same, Option.some.injEq] at hd
    exact hd ▸ ⟨rfl, rfl⟩

theorem keepsInterest_addDescriptor (b : Binding) : KeepsInterest (addDescriptor b) :=
  keepsInterest_emit _

/-- A mask computed from the selectors makes both bits current. -/
theorem Bit.current_withEvents {d : EventableDescriptor} {c : ConnectionDescriptor} {e : UInt32}
    (i : Bit) (hc : d.sub = .connection c) (he : i.of e = i.select d c) :
    i.Current { d with epollEvents := e } := fun c' hc' _ => by
  obtain rfl := Subclass.connection.inj (hc.symm.trans hc')
  exact he.trans (Bit.select_withEvents i d e c).symm

/-- Setting a mask computed from the selectors ends a stretch in which the bits of `self` went
stale. -/
theorem setEvents_repairs {st : Binding → Aspect → Prop} {s₀ s : Reactor} {self : Binding}
    {d : EventableDescriptor} {c : ConnectionDescriptor} {e : UInt32} {E : Reactor → Prop}
    (h : KeptBut st s₀ s) (hst : ∀ b a, st b a → b = self ∧ ∃ i, a = .bit i)
    (hd : s.descriptors self = some d) (hc : d.sub = .connection c)
    (he : ∀ i : Bit, i.of e = i.select d c) :
    wp (modifyDescriptor self fun d => { d with epollEvents := e }) (fun _ => InterestKept s₀) E
      s := by
  rw [wp_modifyDescriptor]
  intro d' hd'
  obtain rfl := Option.some.inj (hd.symm.trans hd')
  have hbits : ∀ i : Bit, i.Current { d with epollEvents := e } := fun i =>
    i.current_withEvents hc (he i)
  refine h.repair (keptBut_of_update hd rfl fun a _ ha => ?_) fun b a hba => ?_
  · cases a with
    | pause => exact ha
    | size => exact ha
    | bit i => exact hbits i
  · obtain ⟨rfl, i, rfl⟩ := hst b a hba
    intro d₁ hd₁
    simp only [Function.update_same, Option.some.injEq] at hd₁
    exact hd₁ ▸ hbits i

/-- Inside a stale stretch, a method that keeps the interest and cannot throw keeps the
stretch. -/
theorem KeepsInterest.triple {α : Type} {x : EM α} (hx : KeepsInterest x) (hn : NoThrow x)
    {st : Binding → Aspect → Prop} {s₀ : Reactor} {E : Reactor → Prop} :
    Triple (KeptBut st s₀) x (fun _ => KeptBut st s₀) E := fun _ h =>
  wp_mono (wp_and (hx.keptBut h) (hn _)) (fun _ _ h => h.1) fun _ h => h.2.elim

/-- The bits of a new connection are the only stale facts, so both selectors' bits end the
stretch. -/
theorem NewStale.asked {b b' : Binding} {a : Aspect} {c : ConnectionDescriptor}
    (h : NewStale (.connection c) b b' a) : b' = b ∧ a.asked true true = true := by
  obtain ⟨hb, -, i, rfl⟩ := h
  exact ⟨hb, by cases i <;> rfl⟩

/-- `ConnectToServer`: `SetConnectPending` computes the new connection's mask. -/
theorem keepsInterest_connectToServer (sd : Int) : KeepsInterest (connectToServer sd) := fun s => by
  rw [connectToServer, wp_bind]
  refine wp_mono (newDescriptor_keptBut sd _ 0 true fun _ h => (Subclass.connection.inj h).symm)
    (fun cd s₁ h => ?_) fun _ h => h
  rw [wp_bind]
  exact wp_mono (ConnectionDescriptor.setConnectPending_repairs h.1 fun _ _ h => h.asked)
    (fun _ _ h₂ => ((keepsInterest_addDescriptor _).bind fun _ => guarantee_pure _).wp_of_rel h₂)
    fun _ h => h

/-- `AttachFD`: `SetWatchOnly` computes the new connection's mask, which is not paused. -/
theorem keepsInterest_attachFd (fd : Int) (watchMode : Bool) :
    KeepsInterest (attachFd fd watchMode) := fun s => by
  rw [attachFd, wp_bind]
  refine wp_mono (newDescriptor_keptBut fd _ 0 true fun _ h => (Subclass.connection.inj h).symm)
    (fun cd s₁ ⟨h, hnew⟩ => ?_) fun _ h => h
  rw [wp_bind, ConnectionDescriptor.setAttached, wp_modifyDescriptor]
  intro d hd
  rw [wp_bind]
  refine wp_mono (ConnectionDescriptor.setWatchOnly_repairs
    (h.interestKept (interestKept_of_update hd rfl (by rfl))) (fun _ _ h => h.asked)
    (fun d' hd' => ?_) watchMode) (fun _ _ h₂ => ?_) fun _ h => h
  · simp only [Function.update_same, Option.some.injEq] at hd'
    exact hd' ▸ (hnew d hd).2
  · exact ((ConnectionDescriptor.keepsInterest_setConnectPending _ _).bind fun _ =>
      (keepsInterest_addDescriptor _).bind fun _ => guarantee_pure _).wp_of_rel h₂

namespace AcceptorDescriptor

/-- The accept loop computes an accepted connection's mask from its selectors once the
application has seen it, which ends the stretch in which its bits were stale. -/
theorem keepsInterest_readLoop (app : App) (self : Binding) :
    ∀ n results, KeepsInterest (readLoop app self n results)
  | 0, _ => guarantee_pure _
  | n + 1, results => by
    rw [readLoop]
    split
    · exact guarantee_pure _
    · exact (keepsInterest_emit _).bind fun _ => (keepsInterest_emit _).bind fun _ =>
        keepsInterest_readLoop app self n _
    intro s
    rw [wp_bind]
    refine wp_mono (newDescriptor_keptBut _ _ 0 true fun _ h => (Subclass.connection.inj h).symm)
      (fun cd s₁ h => ?_) fun _ h => h
    refine ((keepsInterest_modifyConnection _ fun _ => by rfl).triple
      (noThrow_modifyDescriptor _ _)).bind (fun _ =>
      ((keepsInterest_invokeCallback _ _ _ _ _).triple
        (noThrow_invokeCallback _ _ _ _ _)).bind fun _ =>
      (triple_descriptor cd).bind fun d => (triple_connection cd).bind fun c => ?_) s₁ h.1
    rintro s₄ ⟨⟨h₄, hd⟩, d', hd', hc⟩
    obtain rfl := Option.some.inj (hd.symm.trans hd')
    dsimp only
    rw [wp_bind]
    refine wp_mono (setEvents_repairs h₄ (fun _ _ h => ⟨h.1, h.2.2⟩) hd hc fun i => ?_)
      (fun _ _ h₅ => ((keepsInterest_addDescriptor _).bind fun _ =>
        keepsInterest_readLoop app self n _).wp_of_rel h₅) fun _ h => h
    cases i <;> cases hr : ConnectionDescriptor.selectForRead d c <;>
      cases hw : ConnectionDescriptor.selectForWrite d c <;> simp [Bit.of, Bit.select, hr, hw]

theorem keepsInterest_read (app : App) (self : Binding) (results : List AcceptResult) :
    KeepsInterest (read app self results) :=
  preserves_get.keepsInterest.bind fun _ => keepsInterest_readLoop _ _ _ _

end AcceptorDescriptor

/-- A new descriptor that is not a connection has no bits to compute. -/
theorem keepsInterest_newDescriptor (sd : Int) (sub : Subclass) (events : UInt32)
    (callbackUnbind : Bool) (hsub : ∀ c, sub ≠ .connection c) :
    KeepsInterest (newDescriptor sd sub events callbackUnbind) := fun _ =>
  wp_mono (newDescriptor_keptBut sd sub events callbackUnbind fun c h => absurd h (hsub c))
    (fun _ _ h => h.1.mono fun _ _ ⟨_, ⟨c, hc⟩, _⟩ => absurd hc (hsub c)) fun _ h => h

/-! ## Destroying descriptors -/

theorem keepsInterest_clearHeartbeat (key : UInt64) (b : Binding) :
    KeepsInterest (clearHeartbeat key b) :=
  keepsInterest_modify fun _ => rfl

theorem keepsInterest_forgetBinding (b : Binding) : KeepsInterest (forgetBinding b) := fun _ =>
  interestKept_of_erase rfl

theorem EventableDescriptor.keepsInterest_destructor (app : App) (self : Binding) :
    KeepsInterest (EventableDescriptor.destructor app self) := by
  unfold EventableDescriptor.destructor
  refine (preserves_descriptor _).keepsInterest.bind fun d => ?_
  lift_lets
  intro tail unbound callback
  have htail : ∀ y, KeepsInterest (tail y) := fun _ =>
    (keepsInterest_modify fun _ => by rfl).bind fun _ =>
      (EventableDescriptor.keepsInterest_stopProxy _).bind fun _ =>
        EventableDescriptor.keepsInterest_close _
  have hunbound : ∀ y, KeepsInterest (unbound y) := fun _ => by
    refine (preserves_descriptor _).keepsInterest.bind fun _ => ?_
    split
    · refine (preserves_descriptor _).keepsInterest.discard.bind fun _ =>
        (keepsInterest_invokeCallback _ _ _ _ _).bind fun _ =>
          (preserves_descriptor _).keepsInterest.bind fun _ => ?_
      split
      · exact (EventableDescriptor.keepsInterest_stopProxy _).bind htail
      · exact guarantee_throw_undefinedBehaviour _
    · exact (guarantee_pure _).bind htail
  have hcallback : ∀ y, KeepsInterest (callback y) := fun _ =>
    .ite ((keepsInterest_invokeCallback _ _ _ _ _).bind hunbound) ((guarantee_pure _).bind hunbound)
  exact .ite ((keepsInterest_clearHeartbeat _ _).bind hcallback) ((guarantee_pure _).bind hcallback)

/-- `delete`: the change-notification descriptor closes its own handle, which leaves no interest,
and the destructor keeps the interest. -/
theorem keepsInterest_destroy (app : App) (self : Binding) : KeepsInterest (destroy app self) := by
  unfold destroy
  exact (preserves_descriptor _).keepsInterest.bind fun _ =>
    .when ((keepsInterest_emit _).bind fun _ => keepsInterest_invalidate _)
      ((EventableDescriptor.keepsInterest_destructor _ _).bind fun _ =>
        keepsInterest_forgetBinding _)

/-- `new InotifyDescriptor`: a change-notification descriptor has no interest to keep, and a
failed constructor destroys it. -/
theorem InotifyDescriptor.keepsInterest_create (app : App) (fd : Int) :
    KeepsInterest (InotifyDescriptor.create app fd) := fun s => by
  rw [InotifyDescriptor.create, wp_bind]
  refine wp_mono (newDescriptor_keptBut 0 .inotify 0 false fun _ h => nomatch h)
    (fun b s₁ ⟨h, hnew⟩ => ?_) fun _ h => h
  have h₁ : InterestKept s s₁ := h.mono fun _ _ ⟨_, ⟨_, hc⟩, _⟩ => nomatch hc
  simp only [wp_ite, throw_bind]
  refine ⟨fun _ => ?_, fun _ => ?_⟩
  · exact ((EventableDescriptor.keepsInterest_destructor _ _).bind fun _ =>
      (keepsInterest_forgetBinding _).bind fun _ => guarantee_throw_runtimeError _).wp_of_rel h₁
  · simp only [wp_bind, wp_modifyDescriptor, wp_pure]
    intro d hd
    have hnc : ∀ c, d.sub = .connection c → False := fun _ hc => nomatch (hnew d hd).1.symm.trans hc
    exact h₁.interestKept (interestKept_of_update hd rfl
      (EventableDescriptor.pollState_of_not_connection hnc hnc))

/-! ## The reactor's steps -/

namespace Virtual

theorem keepsInterest_read (app : App) (self : Binding) (k : Kernel) :
    KeepsInterest (read app self k) := by
  unfold read LoopbreakDescriptor.read InotifyDescriptor.read
  refine (preserves_descriptor _).keepsInterest.bind fun _ => ?_
  split
  · exact ConnectionDescriptor.keepsInterest_read _ _ _
  · exact DatagramDescriptor.keepsInterest_read _ _ _
  · exact AcceptorDescriptor.keepsInterest_read _ _ _
  all_goals exact keepsInterest_invokeCallback _ _ _ _ _

/-- `Write` through a base pointer keeps the interest from a state whose pause checks and count
of `self` are sound, with a kernel that takes at most what it is given. -/
theorem write_keepsInterest {s₀ : Reactor} (app : App) (build : Build) (self : Binding)
    (k : Kernel) (hpause : ∀ b, s₀.Holds EventableDescriptor.PauseSound b)
    (hsize : s₀.Holds EventableDescriptor.SizeSound self) (hk : WriteTakesAtMost build s₀ self k) :
    wp (write app build self k) (fun _ => InterestKept s₀) (InterestKept s₀) s₀ := by
  unfold write AcceptorDescriptor.write LoopbreakDescriptor.write InotifyDescriptor.write
  rw [wp_bind, wp_descriptor]
  intro _ _
  split
  · exact ConnectionDescriptor.write_keepsInterest _ _ hpause hsize hk
  · exact DatagramDescriptor.keepsInterest_write _ _ s₀
  all_goals exact guarantee_throw_runtimeError _ s₀

theorem keepsInterest_handleError (app : App) (build : Build) (self : Binding) (k : Kernel) :
    KeepsInterest (handleError app build self k) := by
  unfold handleError
  refine (preserves_descriptor _).keepsInterest.bind fun _ => ?_
  split
  · exact ConnectionDescriptor.keepsInterest_handleError _ _ _ _ _ _
  · exact EventableDescriptor.keepsInterest_scheduleClose _ _

theorem keepsInterest_heartbeat (self : Binding) : KeepsInterest (heartbeat self) := by
  unfold heartbeat
  refine (preserves_descriptor _).keepsInterest.bind fun _ => ?_
  split
  · exact ConnectionDescriptor.keepsInterest_heartbeat _
  · exact DatagramDescriptor.keepsInterest_heartbeat _
  · exact guarantee_pure _

end Virtual

theorem keepsInterest_dispatchHeartbeat (self : Binding) :
    KeepsInterest (dispatchHeartbeat self) :=
  (Virtual.keepsInterest_heartbeat _).bind fun _ => keepsInterest_queueHeartbeat _

theorem keepsInterest_openDatagramSocket (sd : Int) : KeepsInterest (openDatagramSocket sd) :=
  (keepsInterest_newDescriptor sd (.datagram {}) epollIn true fun _ h => nomatch h).bind fun _ =>
    (keepsInterest_addDescriptor _).bind fun _ => guarantee_pure _

theorem keepsInterest_createTcpServer (sd : Int) : KeepsInterest (createTcpServer sd) :=
  (keepsInterest_newDescriptor sd .acceptor epollIn true fun _ h => nomatch h).bind fun _ =>
    (keepsInterest_addDescriptor _).bind fun _ => guarantee_pure _

theorem keepsInterest_initializeLoopBreaker (sd : Int) :
    KeepsInterest (initializeLoopBreaker sd) :=
  (keepsInterest_newDescriptor sd .loopbreak epollIn false fun _ h => nomatch h).bind fun _ =>
    (keepsInterest_addDescriptor _).bind fun _ => guarantee_pure _

theorem keepsInterest_openInotify (app : App) (fd : Int) : KeepsInterest (openInotify app fd) :=
  (InotifyDescriptor.keepsInterest_create _ _).bind fun _ =>
    (keepsInterest_addDescriptor _).bind fun _ => guarantee_pure _

/-! ## Runs -/

/-- Every fact kept of a descriptor holds of all of them: the pause checks and the byte counts
are sound, and every connection's bits are current. -/
def Reactor.PollSound (s : Reactor) : Prop := ∀ b (a : Aspect), s.Holds a.Holds b

theorem Reactor.PollSound.of_interestKept {s s' : Reactor} (hs : s.PollSound)
    (h : InterestKept s s') : s'.PollSound := fun b a =>
  h b a id (hs b a)

theorem Completes.interestKept {α : Type} {x : EM α} {s s' : Reactor}
    (hx : wp x (fun _ => InterestKept s) (InterestKept s) s) (h : Completes x s s') :
    InterestKept s s' := by
  rcases h.of_wp hx with ⟨_, h⟩ | h <;> exact h

/-- Every step of the reactor keeps the interest of a sound state. -/
theorem Step.pollSound {app : App} {build : Build} {s s' : Reactor} (hs : s.PollSound)
    (h : Step app build s s') : s'.PollSound := by
  refine hs.of_interestKept ?_
  cases h with
  | call c h => exact h.interestKept (keepsInterest_runApiCall c s)
  | read b k h => exact h.interestKept (Virtual.keepsInterest_read _ _ _ s)
  | write b k hk h =>
    exact h.interestKept
      (Virtual.write_keepsInterest _ _ _ _ (fun b => hs b .pause) (hs b .size) hk)
  | handleError b k _ h => exact h.interestKept (Virtual.keepsInterest_handleError _ _ _ _ s)
  | heartbeat b key _ _ h => exact h.interestKept (keepsInterest_dispatchHeartbeat _ s)
  | delete b d _ _ h => exact h.interestKept (keepsInterest_destroy _ _ s)
  | connect sd h => exact h.interestKept (keepsInterest_connectToServer _ s)
  | attach fd watchMode h => exact h.interestKept (keepsInterest_attachFd _ _ s)
  | openDatagram sd h => exact h.interestKept (keepsInterest_openDatagramSocket _ s)
  | listen sd h => exact h.interestKept (keepsInterest_createTcpServer _ s)
  | loopBreaker sd h => exact h.interestKept (keepsInterest_initializeLoopBreaker _ s)
  | inotify fd h => exact h.interestKept (keepsInterest_openInotify _ _ s)
  | tick now real => exact fun _ _ _ h => h

theorem Reachable.pollSound {app : App} {build : Build} {s : Reactor}
    (h : Reachable app build s) : s.PollSound := by
  induction h with
  | init hi => exact fun b _ d hd => absurd hd (by simp [hi.no_descriptors b])
  | step _ hstep ih => exact hstep.pollSound ih

/-- In every reachable state of the epoll build, a connection with a valid socket has in its
mask the `EPOLLIN` bit `SelectForRead` asks for and the `EPOLLOUT` bit `SelectForWrite` asks
for. -/
theorem poll_interest_current {app : App} {build : Build} {s : Reactor}
    (hs : Reachable app build s) {b : Binding} {d : EventableDescriptor}
    {c : ConnectionDescriptor} (hd : s.descriptors b = some d) (hc : d.sub = .connection c)
    (hsock : d.mySocket ≠ invalidSocket) :
    d.epollEvents &&& (epollIn ||| epollOut) =
      (if ConnectionDescriptor.selectForRead d c then epollIn else 0) |||
        (if ConnectionDescriptor.selectForWrite d c then epollOut else 0) := by
  have hread : hasEpollIn d.epollEvents = ConnectionDescriptor.selectForRead d c :=
    hs.pollSound b (.bit .read) d hd c hc hsock
  have hwrite : hasEpollOut d.epollEvents = ConnectionDescriptor.selectForWrite d c :=
    hs.pollSound b (.bit .write) d hd c hc hsock
  rw [interestBits_eq, hread, hwrite]

/-- A connection the application attached: its mask asks for reads only, as its selectors do. -/
theorem poll_interest_current_attached :
    ∃ d c, (after (attachFd 5 false) Reactor.empty).descriptors 0 = some d ∧
      d.sub = .connection c ∧ d.mySocket ≠ invalidSocket ∧
      d.epollEvents &&& (epollIn ||| epollOut) = epollIn ∧
      d.epollEvents &&& (epollIn ||| epollOut) =
        (if ConnectionDescriptor.selectForRead d c then epollIn else 0) |||
          (if ConnectionDescriptor.selectForWrite d c then epollOut else 0) :=
  ⟨_, _, rfl, rfl, by decide, by decide, poll_interest_current
    (show Reachable silentApp .writev _ from
      .step (.init Reactor.empty_initial) (.attach 5 false (.of_survives (by decide))))
    (b := 0) rfl rfl (by decide)⟩

end EventMachine

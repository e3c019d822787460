import EventMachine.PollInterest

/-!
# The poll interest through the poll-driven methods

The poll-driven methods keep every fact of the poll interest (`KeepsInterest`), with one
exception: `_WriteOutboundData`. It lowers `OutboundDataSize` by the bytes the kernel took
before it resumes a proxy source and before it drops the sent bytes from the queue. In the
`writev` build the count is then below the bytes still queued until the queue catches up, and in
the copy build a failed allocation throws before `_UpdateEvents`. Both are harmless only from a
state in which no watch-only connection is paused, the writing connection's count is sound and
the kernel takes at most what it is given (`FlushAt.writeOutboundData_keepsInterest`). `FlushAt`
carries through the flush the facts kept since its start, the ones gone stale, and what the
writing connection's members are.

`Write` flushes only when no connect is pending and no watch-only notification is asked for;
`HandleError` writes only for a watch-only connection that asked to hear of writability, so it
keeps the interest from any state.
-/

namespace EventMachine

/-! ## Reading -/

namespace EventableDescriptor

theorem keepsInterest_genericInboundDispatch (app : App) (self : Binding) (buf : List Byte) :
    KeepsInterest (genericInboundDispatch app self buf) := by
  simp only [genericInboundDispatch]
  refine (preserves_descriptor _).keepsInterest.bind fun d => ?_
  split
  · exact .ite ((Virtual.keepsInterest_sendOutboundData _ _).discard.bind fun _ =>
      (keepsInterest_modifyDescriptor _ fun _ => by rfl).bind fun _ =>
        (preserves_descriptor _).keepsInterest.bind fun _ => .ite ((keepsInterest_stopProxy _).bind
          fun _ => (keepsInterest_invokeCallback _ _ _ _ _).bind fun _ =>
            .ite (keepsInterest_invokeCallback _ _ _ _ _) (guarantee_pure _)) (guarantee_pure _))
      ((Virtual.keepsInterest_sendOutboundData _ _).discard.bind fun _ =>
        keepsInterest_modifyDescriptor _ fun _ => by rfl)
  · exact keepsInterest_invokeCallback _ _ _ _ _

end EventableDescriptor

namespace ConnectionDescriptor

theorem keepsInterest_checkHandshakeStatus (app : App) (self : Binding) :
    KeepsInterest (checkHandshakeStatus app self) := by
  unfold checkHandshakeStatus
  exact (preserves_connection _).keepsInterest.bind fun _ => .ite ((keepsInterest_sslCall _ _).bind
    fun _ => .ite ((keepsInterest_modifyConnection _ fun _ => by rfl).bind fun _ =>
      keepsInterest_invokeCallback _ _ _ _ _) (guarantee_pure _)) (guarantee_pure _)

theorem keepsInterest_plaintextLoop (app : App) (self : Binding) :
    ∀ fuel, KeepsInterest (plaintextLoop app self fuel)
  | 0 => guarantee_pure _
  | fuel + 1 => by
    simp only [plaintextLoop]
    exact (keepsInterest_sslCall _ _).bind fun ⟨_, _⟩ =>
      .ite ((keepsInterest_checkHandshakeStatus _ _).bind fun _ =>
        (EventableDescriptor.keepsInterest_genericInboundDispatch _ _ _).bind fun _ =>
          keepsInterest_plaintextLoop app self fuel) (guarantee_pure _)

theorem keepsInterest_dispatchInboundData (app : App) (self : Binding) (buffer : List Byte) :
    KeepsInterest (dispatchInboundData app self buffer) := by
  unfold dispatchInboundData
  refine (preserves_connection _).keepsInterest.bind fun c => ?_
  split
  · exact (keepsInterest_plaintextLoop _ _ _).bind fun _ => .ite
      ((keepsInterest_modifyDescriptor _ fun _ => by rfl).bind fun _ =>
        (keepsInterest_scheduleClose _ _).bind fun _ => guarantee_pure _)
      ((keepsInterest_checkHandshakeStatus _ _).bind fun _ => keepsInterest_dispatchCiphertext _)
  · exact EventableDescriptor.keepsInterest_genericInboundDispatch _ _ _

theorem keepsInterest_readLoop (app : App) (self : Binding) (sd : Int) :
    ∀ n results total, KeepsInterest (readLoop app self sd n results total)
  | 0, _, _ => guarantee_pure _
  | n + 1, results, total => by
    simp only [readLoop]
    refine (keepsInterest_emit _).bind fun _ => ?_
    split
    · exact guarantee_pure _
    · exact (keepsInterest_dispatchInboundData _ _ _).bind fun _ =>
        (preserves_descriptor _).keepsInterest.bind fun _ =>
          .ite (guarantee_pure _) (keepsInterest_readLoop app self sd n _ _)
    · exact .ite ((keepsInterest_modifyDescriptor _ fun _ => by rfl).bind fun _ =>
        (EventableDescriptor.keepsInterest_close _).bind fun _ => guarantee_pure _)
        (guarantee_pure _)

theorem keepsInterest_read (app : App) (self : Binding) (results : List ReadResult) :
    KeepsInterest (read app self results) := by
  simp only [read, pure_bind]
  exact (preserves_descriptor _).keepsInterest.bind fun _ =>
    .ite ((preserves_connection _).keepsInterest.bind fun _ =>
      .when (guarantee_throw_assertionFailed _)
        ((keepsInterest_modifyConnection _ fun _ => by rfl).bind fun _ => guarantee_pure _)) <|
    .ite ((preserves_connection _).keepsInterest.bind fun _ =>
      .ite ((keepsInterest_invokeCallback _ _ _ _ _).bind fun _ => guarantee_pure _)
        (guarantee_pure _)) <|
    preserves_getCurrentLoopTime.keepsInterest.bind fun _ =>
      (keepsInterest_modifyDescriptor _ fun _ => by rfl).bind fun _ =>
        (keepsInterest_readLoop _ _ _ _ _ _).bind fun _ =>
          .ite (keepsInterest_scheduleClose _ _) (guarantee_pure _)

theorem keepsInterest_heartbeat (self : Binding) : KeepsInterest (heartbeat self) := by
  unfold heartbeat
  exact preserves_getTimerQuantum.keepsInterest.bind fun _ =>
    (preserves_descriptor _).keepsInterest.bind fun _ =>
      preserves_getCurrentLoopTime.keepsInterest.bind fun _ =>
        (preserves_connection _).keepsInterest.bind fun _ =>
          .ite (.ite ((keepsInterest_modifyDescriptor _ fun _ => by rfl).bind fun _ =>
            keepsInterest_scheduleClose _ _) (guarantee_pure _))
          (.ite ((keepsInterest_modifyDescriptor _ fun _ => by rfl).bind fun _ =>
            keepsInterest_scheduleClose _ _) (guarantee_pure _))

end ConnectionDescriptor

namespace DatagramDescriptor

theorem keepsInterest_readLoop (app : App) (self : Binding) (sd : Int) :
    ∀ n results, KeepsInterest (readLoop app self sd n results)
  | 0, _ => guarantee_pure _
  | n + 1, results => by
    simp only [readLoop]
    refine (keepsInterest_emit _).bind fun _ => ?_
    split
    · exact (keepsInterest_modifyDatagram _ _).bind fun _ =>
        (EventableDescriptor.keepsInterest_genericInboundDispatch _ _ _).bind fun _ =>
          keepsInterest_readLoop app self sd n _
    · exact guarantee_pure _

theorem keepsInterest_read (app : App) (self : Binding) (results : List RecvResult) :
    KeepsInterest (read app self results) := by
  simp only [read, pure_bind]
  exact (preserves_descriptor _).keepsInterest.bind fun _ =>
    .when (guarantee_throw_assertionFailed _) <|
      preserves_getCurrentLoopTime.keepsInterest.bind fun _ =>
        (keepsInterest_modifyDescriptor _ fun _ => by rfl).bind fun _ =>
          keepsInterest_readLoop _ _ _ _ _

theorem keepsInterest_heartbeat (self : Binding) : KeepsInterest (heartbeat self) := by
  unfold heartbeat
  exact (preserves_descriptor _).keepsInterest.bind fun _ =>
    preserves_getCurrentLoopTime.keepsInterest.bind fun _ =>
      .ite (EventableDescriptor.keepsInterest_scheduleClose _ _) (guarantee_pure _)

theorem keepsInterest_writeLoop (self : Binding) (sd : Int) :
    ∀ n results, KeepsInterest (writeLoop self sd n results)
  | 0, _ => guarantee_pure _
  | n + 1, results => by
    simp only [writeLoop]
    refine (preserves_datagram _).keepsInterest.bind fun g => ?_
    split
    · exact guarantee_pure _
    · exact .when (keepsInterest_emit _) <| (keepsInterest_modifyDatagram _ _).bind fun _ =>
        .ite ((keepsInterest_modifyDescriptor _ fun _ => by rfl).bind fun _ =>
          EventableDescriptor.keepsInterest_close _) (keepsInterest_writeLoop self sd n _)

/-- After `datagram self` returns, `self` is a datagram socket, whose mask is no selector's. -/
theorem keepsInterest_setEvents (self : Binding) (e : DatagramDescriptor → UInt32) :
    KeepsInterest (datagram self >>= fun g =>
      modifyDescriptor self (fun d => { d with epollEvents := e g }) >>= fun _ =>
        modifyInterest self) := by
  intro s
  simp only [wp_bind, wp_datagram, wp_modifyDescriptor, modifyInterest, wp_emit]
  intro d hd g hg d' hd'
  obtain rfl := Option.some.inj (hd.symm.trans hd')
  exact interestKept_of_update hd rfl (EventableDescriptor.pollState_of_not_connection
    (fun _ h => nomatch hg.symm.trans h) fun _ h => nomatch hg.symm.trans h)

theorem keepsInterest_write (self : Binding) (results : List SyscallResult) :
    KeepsInterest (write self results) := by
  simp only [write, pure_bind]
  exact (preserves_descriptor _).keepsInterest.bind fun _ =>
    .when (guarantee_throw_assertionFailed _) <|
      preserves_getCurrentLoopTime.keepsInterest.bind fun _ =>
        (keepsInterest_modifyDescriptor _ fun _ => by rfl).bind fun _ =>
          (preserves_datagram _).keepsInterest.bind fun _ =>
            .when (guarantee_throw_assertionFailed _) <|
              (keepsInterest_writeLoop _ _ _ _).bind fun _ => keepsInterest_setEvents _ _

end DatagramDescriptor

/-! ## What `_WriteOutboundData` calls on the way -/

/-- The subclass members of every descriptor. -/
def subView (s : Reactor) (b : Binding) : Option Subclass :=
  (s.descriptors b).map EventableDescriptor.sub

section SubView

theorem preserves_subView_emit (e : TraceEntry) : Preserves subView (emit e) := fun _ => rfl

theorem preserves_subView_updateEvents (self : Binding) (read write : Bool) :
    Preserves subView (ConnectionDescriptor.updateEvents self read write) := by
  simp only [ConnectionDescriptor.updateEvents, pure_bind]
  exact (preserves_descriptor _).bind fun d => .ite (preserves_pure _) <| .ite (preserves_pure _) <|
    (preserves_connection _).bind fun c => (preserves_modifyDescriptor _ fun _ => by rfl).bind
      fun _ => .ite (preserves_subView_emit _) (preserves_pure _)

theorem preserves_subView_resume (self : Binding) : Preserves subView (Virtual.resume self) := by
  simp only [Virtual.resume, ConnectionDescriptor.resume, EventableDescriptor.resume, pure_bind]
  refine (preserves_descriptor _).bind fun d => ?_
  split
  · exact (preserves_descriptor _).bind fun d => .ite (preserves_throw_runtimeError _) <|
      (preserves_modifyDescriptor _ fun _ => by rfl).bind fun _ =>
        (preserves_subView_updateEvents _ _ _).bind fun _ => preserves_pure _
  · exact (preserves_modifyDescriptor _ fun _ => by rfl).bind fun _ => preserves_pure _

/-- Releasing backpressure changes the pause state and the mask of a source, and no queue. -/
theorem preserves_subView_releaseSource (self : Binding) :
    Preserves subView (ConnectionDescriptor.releaseSource self) := by
  simp only [ConnectionDescriptor.releaseSource, pure_bind]
  refine (preserves_descriptor _).bind fun d => ?_
  split
  · exact .ite ((preserves_descriptor _).bind fun _ => .ite
      ((preserves_subView_resume _).discard) (preserves_pure _)) (preserves_pure _)
  · exact preserves_pure _

end SubView

theorem noThrow_connection (b : Binding) : NoThrow (connection b) := fun _ =>
  (wp_connection b).2 fun _ _ _ _ => trivial

theorem ConnectionDescriptor.noThrow_updateEvents (self : Binding) (read write : Bool) :
    NoThrow (ConnectionDescriptor.updateEvents self read write) := by
  simp only [ConnectionDescriptor.updateEvents, pure_bind]
  exact (noThrow_descriptor _).bind fun _ => .ite (noThrow_pure _) <| .ite (noThrow_pure _) <|
    (noThrow_connection _).bind fun _ => (noThrow_modifyDescriptor _ _).bind fun _ =>
      .ite (noThrow_modify _) (noThrow_pure _)

namespace ConnectionDescriptor

theorem keepsInterest_releaseSource (self : Binding) : KeepsInterest (releaseSource self) := by
  unfold releaseSource
  refine (preserves_descriptor _).keepsInterest.bind fun d => ?_
  split
  · exact .ite ((preserves_descriptor _).keepsInterest.bind fun _ =>
      .ite (Virtual.keepsInterest_resume _).discard (guarantee_pure _)) (guarantee_pure _)
  · exact guarantee_pure _

/-- With every pause check sound, the source `releaseSource` resumes is paused and therefore not
watch-only, so the resume does not throw. -/
theorem releaseSource_noThrow {s : Reactor}
    (hpause : ∀ b, s.Holds EventableDescriptor.PauseSound b) (self : Binding) :
    wp (releaseSource self) (fun _ _ => True) (fun _ => False) s := by
  simp only [releaseSource, wp_bind, wp_descriptor]
  intro d _
  split
  · simp only [wp_ite, wp_bind, wp_descriptor, wp_discard, wp_pure]
    refine ⟨fun _ d' hd' => ⟨fun hpaused => ?_, fun _ => trivial⟩, fun _ => trivial⟩
    simp only [Virtual.resume, wp_bind, wp_descriptor]
    intro d₁ hd₁
    obtain rfl := Option.some.inj (hd'.symm.trans hd₁)
    split
    · next c hc =>
      simp only [resume, wp_bind, wp_descriptor, wp_ite, throw_bind, wp_throw_runtimeError,
        wp_modifyDescriptor, wp_pure]
      intro d₂ hd₂
      obtain rfl := Option.some.inj (hd'.symm.trans hd₂)
      refine ⟨fun hw => absurd (hpause _ _ hd' c hc hw) (by simp [hpaused]), fun _ _ _ => ?_⟩
      exact noThrow_updateEvents _ _ _ _
    · simp [EventableDescriptor.resume]
  · trivial

end ConnectionDescriptor

/-! ## What the gather leaves -/

/-- The copy build takes the gathered bytes out of the queue. -/
theorem length_gather_copy (pages : List OutboundPage) :
    (gather .copy pages).1.length + (unsentBytes (gather .copy pages).2).length =
      (unsentBytes pages).length := by
  simpa using congrArg List.length (gatherCopy_append 0 pages)

/-- A flush gathers no more than the queued bytes. -/
theorem length_gather_le (build : Build) (pages : List OutboundPage) :
    (gather build pages).1.length ≤ (unsentBytes pages).length := by
  cases build with
  | writev =>
    have h := congrArg List.length (iovecs_flatten_append pages)
    simp only [List.length_append] at h
    simp only [gather]
    omega
  | copy =>
    have h := length_gather_copy pages
    omega

/-- A fact of a descriptor that is not a connection: it has no poll interest. -/
theorem Aspect.holds_of_not_connection {a : Aspect} {d : EventableDescriptor}
    (h : ∀ c, d.sub = .connection c → False) : a.Holds d := by
  cases a <;> exact fun c hc => (h c hc).elim

/-- A write of a connection's members keeps a fact whose inputs it keeps. -/
theorem Aspect.Holds.withConnection {a : Aspect} {d : EventableDescriptor}
    {c c' : ConnectionDescriptor} (hc : d.sub = .connection c) (hd : a.Holds d)
    (hsize : a = .size → ((unsentBytes c.outboundPages).length : Int) ≤ c.outboundDataSize →
      ((unsentBytes c'.outboundPages).length : Int) ≤ c'.outboundDataSize)
    (hbit : ∀ i, a = .bit i → i.select d c' = i.select d c) :
    a.Holds { d with sub := .connection c' } := by
  cases a with
  | pause =>
    intro _ hc'
    cases hc'
    exact hd c hc
  | size =>
    intro _ hc'
    cases hc'
    exact hsize rfl (hd c hc)
  | bit i =>
    refine Bit.Current.of_eq hd rfl rfl fun _ hc' => ?_
    cases hc'
    exact ⟨c, hc, by cases i <;> exact hbit _ rfl⟩

theorem Aspect.size_withConnection {d : EventableDescriptor} {c : ConnectionDescriptor}
    (h : ((unsentBytes c.outboundPages).length : Int) ≤ c.outboundDataSize) :
    Aspect.size.Holds { d with sub := .connection c } := fun _ hc => by
  cases hc
  exact h

/-! ## The flush of `_WriteOutboundData` -/

/-- A state of a flush of `self` begun at `s₀`: every fact of `s₀` but the `stale` ones still
holds, and the members of `self` satisfy `φ`. -/
def FlushAt (s₀ : Reactor) (self : Binding) (stale : Binding → Aspect → Prop)
    (φ : ConnectionDescriptor → Prop) (s : Reactor) : Prop :=
  KeptBut stale s₀ s ∧ s.Holds (fun d => ∀ c, d.sub = .connection c → φ c) self

namespace FlushAt

variable {s₀ : Reactor} {self : Binding} {st st' : Binding → Aspect → Prop}
  {φ φ' : ConnectionDescriptor → Prop} {E : Reactor → Prop}

/-- A call that keeps the interest and every queue keeps the flush where it is. -/
theorem frame {α : Type} {x : EM α} (hx : KeepsInterest x) (hv : Preserves subView x) :
    Triple (FlushAt s₀ self st φ) x (fun _ => FlushAt s₀ self st φ) (FlushAt s₀ self st φ) := by
  rintro s ⟨hk, hφ⟩
  have hsub : ∀ s', subView s' = subView s →
      s'.Holds (fun d => ∀ c, d.sub = .connection c → φ c) self := fun s' h d' hd' c hc => by
    have h' := congrFun h self
    simp only [subView, hd'] at h'
    cases hd : s.descriptors self with
    | none => simp [hd] at h'
    | some d =>
      simp only [hd, Option.map_some', Option.some.injEq] at h'
      exact hφ d hd c (h'.symm.trans hc)
  exact wp_mono (wp_and (hx s) (hv s)) (fun _ s' h => ⟨hk.interestKept h.1, hsub s' h.2⟩)
    fun s' h => ⟨hk.interestKept h.1, hsub s' h.2⟩

/-- A frame that throws nothing keeps the flush where it is. -/
theorem frame_noThrow {α : Type} {x : EM α} (hx : KeepsInterest x) (hv : Preserves subView x)
    (hn : NoThrow x) : Triple (FlushAt s₀ self st φ) x (fun _ => FlushAt s₀ self st φ) E :=
  fun s hs => wp_mono (wp_and (frame hx hv s hs) (hn s)) (fun _ _ h => h.1) fun _ h => h.2.elim

/-- Reading the members of `self` finds them as `φ` says. -/
theorem connection :
    Triple (FlushAt s₀ self st φ) (EventMachine.connection self)
      (fun c s => FlushAt s₀ self st (fun c' => c' = c) s ∧ φ c) E := by
  rintro s ⟨hk, hφ⟩
  simp only [wp_connection]
  intro d hd c hc
  refine ⟨⟨hk, fun d' hd' c' hc' => ?_⟩, hφ d hd c hc⟩
  obtain rfl := Option.some.inj (hd.symm.trans hd')
  exact Subclass.connection.inj (hc'.symm.trans hc)

/-- A write of the members of `self`: another descriptor keeps its facts, and `self` the facts
`ha` shows it keeps; the ones `st'` names may go stale. -/
theorem modifyConnection {f : ConnectionDescriptor → ConnectionDescriptor}
    (st' : Binding → Aspect → Prop) (φ' : ConnectionDescriptor → Prop) (hφ : ∀ c, φ c → φ' (f c))
    (hst : ∀ b a, st b a → b ≠ self → st' b a)
    (ha : ∀ a d c, ¬st' self a → d.sub = .connection c → φ c → (¬st self a → a.Holds d) →
      a.Holds { d with sub := .connection (f c) }) :
    Triple (FlushAt s₀ self st φ) (EventMachine.modifyConnection self f)
      (fun _ => FlushAt s₀ self st' φ') E := by
  rintro s ⟨hk, hφs⟩
  simp only [EventMachine.modifyConnection, wp_modifyDescriptor]
  intro d hd
  refine ⟨fun b a hs h₀ d' hd' => ?_, fun d' hd' c' hc' => ?_⟩ <;> dsimp only at hd'
  · by_cases hb : b = self
    · subst hb
      rw [Function.update_same] at hd'
      obtain rfl := Option.some.inj hd'
      cases hc : d.sub with
      | connection c =>
        exact ha a d c hs hc (hφs d hd c hc) fun hns => hk b a hns h₀ d hd
      | _ =>
        exact Aspect.holds_of_not_connection fun _ h => by simp [hc, Subclass.mapConnection] at h
    · rw [Function.update_noteq hb] at hd'
      exact hk b a (fun h => hs (hst b a h hb)) h₀ d' hd'
  · rw [Function.update_same] at hd'
    obtain rfl := Option.some.inj hd'
    obtain ⟨c, hc, rfl⟩ := Subclass.exists_of_mapConnection hc'
    exact hφ c (hφs d hd c hc)

/-- A stale byte count of `self` that the members show sound is no longer stale. -/
theorem repair_size {s : Reactor} (hs : FlushAt s₀ self st φ s) (h : ∀ c, φ c → φ' c)
    (hφ' : ∀ c, φ' c → ((unsentBytes c.outboundPages).length : Int) ≤ c.outboundDataSize)
    (hst : ∀ b a, st b a → st' b a ∨ (b = self ∧ a = .size)) : FlushAt s₀ self st' φ' s := by
  have hs' : s.Holds (fun d => ∀ c, d.sub = .connection c → φ' c) self :=
    fun d hd c hc => h c (hs.2 d hd c hc)
  refine ⟨fun b a hns h₀ => ?_, hs'⟩
  by_cases hb : st b a
  · rcases hst b a hb with h' | ⟨rfl, rfl⟩
    · exact absurd h' hns
    · exact fun d hd c hc => hφ' c (hs' d hd c hc)
  · exact hs.1 b a hb h₀

/-- A write of the queue of `self` that leaves no more bytes queued than the count says: the
count is sound again, and of the facts gone stale only the write bit of `self` may still be. -/
theorem setPages {f : List OutboundPage → List OutboundPage}
    (hsize : ∀ c, φ c → ((unsentBytes (f c.outboundPages)).length : Int) ≤ c.outboundDataSize)
    (hst : ∀ b a, st b a → b = self ∧ (a = .size ∨ a = .bit .write)) :
    Triple (FlushAt s₀ self st φ)
      (EventMachine.modifyConnection self fun c => { c with outboundPages := f c.outboundPages })
      (fun _ => FlushAt s₀ self (fun b a => b = self ∧ a = .bit .write)
        (fun c => ((unsentBytes c.outboundPages).length : Int) ≤ c.outboundDataSize)) E := by
  have hkept : ∀ a, a ≠ .size → a ≠ .bit .write → ¬st self a := fun a hs hw h =>
    (hst _ a h).2.elim hs hw
  refine modifyConnection _ _ hsize (fun b a h hb => absurd (hst b a h).1 hb)
    fun a d c hs hc hφc hold => ?_
  cases a with
  | pause => exact (hold (hkept _ nofun nofun)).withConnection hc nofun nofun
  | size => exact Aspect.size_withConnection (hsize c hφc)
  | bit i =>
    cases i
    · exact (hold (hkept _ nofun nofun)).withConnection hc nofun fun _ h => by cases h; rfl
    · exact absurd ⟨rfl, rfl⟩ hs

/-- With the pause checks of `s₀` kept, `releaseSource` keeps the flush where it is and
returns. -/
theorem releaseSource (hpause : ∀ b, s₀.Holds EventableDescriptor.PauseSound b)
    (hst : ∀ b, ¬st b .pause) :
    Triple (FlushAt s₀ self st φ) (ConnectionDescriptor.releaseSource self)
      (fun _ => FlushAt s₀ self st φ) (fun _ => False) := fun s hs =>
  wp_mono (wp_and ((frame (ConnectionDescriptor.keepsInterest_releaseSource self)
    (preserves_subView_releaseSource self)) s hs)
    (ConnectionDescriptor.releaseSource_noThrow (fun b => hs.1 b .pause (hst b) (hpause b)) self))
    (fun _ _ h => h.1) fun _ h => h.2

/-- `_UpdateEvents (false, true)` ends a flush whose only stale fact is the write bit of
`self`. -/
theorem updateEvents (hst : ∀ b a, st b a → b = self ∧ a = .bit .write) :
    Triple (FlushAt s₀ self st φ) (ConnectionDescriptor.updateEvents self false true)
      (fun _ => InterestKept s₀) E := fun _ hs =>
  updateEvents_repairs hs.1 fun b a h => by
    obtain ⟨rfl, rfl⟩ := hst b a h
    exact ⟨rfl, rfl⟩

/-- A flush with nothing stale keeps the interest through a method that keeps it. -/
theorem keepsInterest {α : Type} {x : EM α} (hx : KeepsInterest x) :
    Triple (FlushAt s₀ self (fun _ _ => False) φ) x (fun _ => InterestKept s₀)
      (InterestKept s₀) := fun _ hs =>
  hx.wp_of_rel hs.1

end FlushAt

/-- What lowering the count makes stale: the byte count and the write bit of `self`, unless the
copy build keeps back part of what it gathered, which keeps the count positive. -/
def flushStale (self : Binding) (build : Build) (w gathered : Nat) (b : Binding) (a : Aspect) :
    Prop :=
  b = self ∧ (a = .size ∨ a = .bit .write) ∧ ¬(build = .copy ∧ w < gathered)

/-- After a flush that took `w` of the bytes gathered from `pages`, the queue left behind holds
`w` fewer bytes. -/
theorem length_unsent_consumedPages (build : Build) (pages : List OutboundPage) {S : Int}
    {w : Nat} {err : Bool} (hU : ((unsentBytes pages).length : Int) ≤ S)
    (hw : w ≤ (gather build pages).1.length) (herr : err = true → w = 0) :
    ((unsentBytes (consumedPages build pages (gather build pages).1 w err
      (gather build pages).2)).length : Int) ≤ S - w := by
  rw [(gather_consumedPages build pages err hw herr).2, List.length_drop]
  have := length_gather_le build pages
  omega

namespace FlushAt

variable {s₀ : Reactor} {self : Binding} {E : Reactor → Prop}

/-- The gather leaves in the queue what the build does not take, which the count still covers. -/
theorem takeGathered (build : Build) (c : ConnectionDescriptor)
    (hU : ((unsentBytes c.outboundPages).length : Int) ≤ c.outboundDataSize) :
    Triple (FlushAt s₀ self (fun _ _ => False) (· = c))
      (EventMachine.modifyConnection self fun c' =>
        { c' with outboundPages := (gather build c.outboundPages).2 })
      (fun _ => FlushAt s₀ self (fun _ _ => False) (fun c' =>
        c'.outboundPages = (gather build c.outboundPages).2 ∧
          c'.outboundDataSize = c.outboundDataSize)) E := by
  -- the copy build takes the gathered bytes out of the queue, and the writev build nothing
  have hQ : ((unsentBytes (gather build c.outboundPages).2).length : Int) ≤ c.outboundDataSize := by
    cases build with
    | writev => exact hU
    | copy => have := length_gather_copy c.outboundPages; omega
  refine modifyConnection _ _ (fun _ h => ⟨rfl, h ▸ rfl⟩) (fun _ _ h _ => h)
    fun _ _ _ _ hc hc' hold => ?_
  subst hc'
  exact (hold id).withConnection hc (fun _ _ => hQ) fun i _ => by cases i <;> rfl

/-- Subtracting the `w` bytes the kernel took stales the count and the write bit of `self`,
unless the copy build keeps back part of what it gathered: then the count stays positive and
covers what is queued. -/
theorem lowerCount (build : Build) (pages : List OutboundPage) {S : Int} (w : Nat)
    (hU : ((unsentBytes pages).length : Int) ≤ S) :
    Triple (FlushAt s₀ self (fun _ _ => False)
        (fun c => c.outboundPages = (gather build pages).2 ∧ c.outboundDataSize = S))
      (EventMachine.modifyConnection self fun c =>
        { c with outboundDataSize := c.outboundDataSize - w })
      (fun _ => FlushAt s₀ self (flushStale self build w (gather build pages).1.length)
        (fun c => c.outboundPages = (gather build pages).2 ∧ c.outboundDataSize = S - w)) E := by
  refine modifyConnection _ _ (fun _ ⟨hq, hS⟩ => ⟨hq, hS ▸ rfl⟩) (fun _ _ h _ => h.elim)
    fun a d c hs hc ⟨hq, hS⟩ hold => ?_
  have hkeep : a = .size ∨ a = .bit .write →
      build = .copy ∧ w < (gather build pages).1.length :=
    fun h => by_contra fun hn => hs ⟨rfl, h, hn⟩
  cases a with
  | pause => exact (hold id).withConnection hc nofun nofun
  | size =>
    obtain ⟨rfl, hlt⟩ := hkeep (.inl rfl)
    have := length_gather_copy pages
    exact Aspect.size_withConnection (by simp only [hq, hS]; omega)
  | bit i =>
    cases i
    · exact (hold id).withConnection hc nofun fun _ h => by cases h; rfl
    · obtain ⟨rfl, hlt⟩ := hkeep (.inr rfl)
      have := length_gather_copy pages
      have hpos : c.outboundDataSize - w > 0 ∧ c.outboundDataSize > 0 := by omega
      refine (hold id).withConnection hc nofun fun _ h => ?_
      cases h
      simp only [Bit.select, ConnectionDescriptor.selectForWrite, hpos.1, hpos.2]

/-- The end of the flush for the queue: whatever the build, the count is sound again, and only the
write bit of `self` is still stale. Only the copy build's allocation for the unsent tail can
throw, and then nothing is stale. -/
theorem consumeOutbound (build : Build) (pages : List OutboundPage) {S : Int} {w : Nat}
    {err : Bool} (hU : ((unsentBytes pages).length : Int) ≤ S)
    (hw : w ≤ (gather build pages).1.length) (herr : err = true → w = 0) :
    Triple (FlushAt s₀ self (flushStale self build w (gather build pages).1.length)
        (fun c => c.outboundPages = (gather build pages).2 ∧ c.outboundDataSize = S - w))
      (ConnectionDescriptor.consumeOutbound build self pages (gather build pages).1 w err)
      (fun _ => FlushAt s₀ self (fun b a => b = self ∧ a = .bit .write)
        (fun c => ((unsentBytes c.outboundPages).length : Int) ≤ c.outboundDataSize))
      (fun s => FlushAt s₀ self (flushStale self build w (gather build pages).1.length)
        (fun c => c.outboundPages = (gather build pages).2 ∧ c.outboundDataSize = S - w) s ∧
        build = .copy ∧ w < (gather build pages).1.length) := by
  have hsize := length_unsent_consumedPages build pages hU hw herr
  have hstale : ∀ b a, flushStale self build w (gather build pages).1.length b a →
      (b = self ∧ a = .bit .write) ∨ (b = self ∧ a = .size) := by
    rintro b a ⟨rfl, ha | ha, -⟩
    exacts [.inr ⟨rfl, ha⟩, .inl ⟨rfl, ha⟩]
  have hqueue : ∀ b a, flushStale self build w (gather build pages).1.length b a →
      b = self ∧ (a = .size ∨ a = .bit .write) := fun _ _ h => ⟨h.1, h.2.1⟩
  cases build with
  | writev =>
    simp only [ConnectionDescriptor.consumeOutbound]
    refine .ite (fun hok => ?_) fun hok => triple_pure _ fun s hs => hs.repair_size
      (fun c ⟨hpc, hS⟩ => by simp only [consumedPages, hok, ↓reduceIte] at hsize; rwa [hpc, hS])
      (fun _ h => h) hstale
    simp only [consumedPages, hok, ↓reduceIte] at hsize
    exact setPages (fun c ⟨hpc, hS⟩ => by rwa [hpc, hS]) hqueue
  | copy =>
    dsimp only [ConnectionDescriptor.consumeOutbound]
    refine .ite (fun hlt => ?_) fun hlt => triple_pure _ fun s hs => hs.repair_size
      (fun c ⟨hpc, hS⟩ => by
        simp only [consumedPages, requeue, hlt, ↓reduceIte] at hsize; rwa [hpc, hS])
      (fun _ h => h) hstale
    simp only [consumedPages, requeue, hlt, ↓reduceIte] at hsize
    refine ((frame keepsInterest_malloc fun _ => rfl).mono (fun _ h => h) (fun _ _ h => h)
      fun _ hs => ⟨hs, rfl, hlt⟩).bind fun ok => .ite (fun _ => ?_) fun _ => ?_
    · exact (triple_throw_runtimeError _).mono (fun _ h => h) (fun _ _ h => h)
        fun _ hs => ⟨hs, rfl, hlt⟩
    rw [pure_bind]
    exact setPages (fun c ⟨hpc, hS⟩ => by rwa [hpc, hS]) hqueue

/-- `_WriteOutboundData` keeps the interest from a state in which no watch-only connection is
paused and the count of the writing connection is sound, with a kernel that takes at most the
bytes it is given. -/
theorem writeOutboundData_keepsInterest {s₀ : Reactor} {self : Binding} {build : Build}
    {r : SyscallResult} (hpause : ∀ b, s₀.Holds EventableDescriptor.PauseSound b)
    (hsize : s₀.Holds EventableDescriptor.SizeSound self)
    (hr : ∀ d c, s₀.descriptors self = some d → d.sub = .connection c →
      r.ret ≤ ((gather build c.outboundPages).1.length : Int)) :
    wp (ConnectionDescriptor.writeOutboundData build self r) (fun _ => InterestKept s₀)
      (InterestKept s₀) s₀ := by
  suffices h : Triple (FlushAt s₀ self (fun _ _ => False) fun c =>
      ((unsentBytes c.outboundPages).length : Int) ≤ c.outboundDataSize ∧
        r.ret ≤ ((gather build c.outboundPages).1.length : Int))
      (ConnectionDescriptor.writeOutboundData build self r) (fun _ => InterestKept s₀)
      (InterestKept s₀) from
    h s₀ ⟨.refl _ _, fun d hd c hc => ⟨hsize d hd c hc, hr d c hd hc⟩⟩
  simp only [ConnectionDescriptor.writeOutboundData, pure_bind, throw_bind]
  refine (triple_descriptor self).bind fun d => .ite (fun _ => ?_) fun _ => ?_
  · -- a write on a closed socket only marks the attempt
    refine (keepsInterest ?_).mono (fun _ h => h.1) (fun _ _ h => h) fun _ h => h
    exact (preserves_connection _).keepsInterest.bind fun _ =>
      .when (guarantee_throw_assertionFailed _) (keepsInterest_modifyConnection _ fun _ => by rfl)
  refine Triple.mono ?_ (fun _ h => h.1) (fun _ _ h => h) fun _ h => h
  refine (frame_noThrow preserves_getCurrentLoopTime.keepsInterest
    preserves_getCurrentLoopTime fun _ => trivial).bind fun _ => ?_
  refine (frame_noThrow (keepsInterest_modifyDescriptor _ fun _ => by rfl)
    (preserves_modifyDescriptor _ fun _ => by rfl) (noThrow_modifyDescriptor _ _)).bind fun _ => ?_
  refine connection.bind fun c => Triple.of_fact fun ⟨hU, hR⟩ => ?_
  have hw : bytesTaken r ≤ (gather build c.outboundPages).1.length := by
    unfold bytesTaken
    split <;> omega
  refine (takeGathered build c hU).bind fun _ =>
    .ite (fun _ => triple_assertionFailed _) fun _ => ?_
  rw [show (if decide (r.ret < 0) = true then 0 else r.ret.toNat) = bytesTaken r from rfl]
  refine (frame_noThrow (keepsInterest_emit _) (preserves_subView_emit _)
    (noThrow_modify _)).bind fun _ => (lowerCount build c.outboundPages _ hU).bind fun _ => ?_
  refine ((releaseSource hpause fun _ ⟨_, h, _⟩ => h.elim nofun nofun).mono (fun _ h => h)
    (fun _ _ h => h) fun _ h => h.elim).bind fun _ => ?_
  refine ((consumeOutbound build c.outboundPages hU hw fun h => by
    simp only [bytesTaken, h, if_true]).mono (fun _ h => h) (fun _ _ h => h)
    fun _ ⟨hs, hlt⟩ => hs.1.mono fun _ _ h => h.2.2 hlt).bind fun _ => ?_
  refine (updateEvents fun _ _ h => h).bind fun _ s hs => Guarantee.wp_of_rel ?_ hs
  exact .ite ((keepsInterest_modifyDescriptor _ fun _ => by rfl).bind fun _ =>
    EventableDescriptor.keepsInterest_close self) (guarantee_pure _)

end FlushAt

/-! ## Write and error readiness -/

namespace ConnectionDescriptor

variable {s₀ : Reactor} {build : Build} {self : Binding} {r : SyscallResult}

/-- `Write` keeps the interest when its flush does: a pending connect and a watch-only
notification do not flush. -/
theorem write_keepsInterest_of (app : App) (status : ConnectStatus)
    (hflush : ∀ d c, s₀.descriptors self = some d → d.sub = .connection c →
      c.bConnectPending = false → c.bNotifyWritable = false →
      wp (writeOutboundData build self r) (fun _ => InterestKept s₀) (InterestKept s₀) s₀) :
    wp (write app build self status r) (fun _ => InterestKept s₀) (InterestKept s₀) s₀ := by
  simp only [write, wp_bind, wp_connection]
  intro d hd c hc
  split
  · exact Guarantee.wp_of_rel (.ite ((keepsInterest_invokeCallback _ _ _ _ _).bind fun _ =>
      keepsInterest_setConnectPending _ _) (.when (keepsInterest_modifyDescriptor _ fun _ => by rfl)
      (keepsInterest_scheduleClose _ _))) (.refl _ _)
  rename_i hpending
  split
  · exact Guarantee.wp_of_rel ((keepsInterest_invokeCallback _ _ _ _ _).bind fun _ =>
      (keepsInterest_updateEvents _ _ _).bind fun _ => guarantee_pure _) (.refl _ _)
  rename_i hnotify
  simp only [pure_bind, throw_bind, wp_bind, wp_descriptor, wp_ite, wp_throw_assertionFailed]
  exact fun _ _ => ⟨fun _ => trivial, fun _ =>
    hflush d c hd hc (by simpa using hpending) (by simpa using hnotify)⟩

/-- `Write` keeps the interest from a state that `_WriteOutboundData` keeps it from. -/
theorem write_keepsInterest (app : App) (status : ConnectStatus)
    (hpause : ∀ b, s₀.Holds EventableDescriptor.PauseSound b)
    (hsize : s₀.Holds EventableDescriptor.SizeSound self)
    (hr : ∀ d c, s₀.descriptors self = some d → d.sub = .connection c →
      r.ret ≤ ((gather build c.outboundPages).1.length : Int)) :
    wp (write app build self status r) (fun _ => InterestKept s₀) (InterestKept s₀) s₀ :=
  write_keepsInterest_of app status fun _ _ _ _ _ _ =>
    FlushAt.writeOutboundData_keepsInterest hpause hsize hr

/-- A watch-only notification of writability does not flush, so `Write` keeps the interest. -/
theorem write_keepsInterest_of_notifyWritable (app : App) (status : ConnectStatus)
    (hw : ∀ d c, s₀.descriptors self = some d → d.sub = .connection c → c.bNotifyWritable = true) :
    wp (write app build self status r) (fun _ => InterestKept s₀) (InterestKept s₀) s₀ :=
  write_keepsInterest_of app status fun d c hd hc _ hn => absurd (hw d c hd hc) (by simp [hn])

/-- `HandleError` keeps the interest: it writes only for a watch-only connection that asked to
hear of writability. -/
theorem keepsInterest_handleError (app : App) (build : Build) (self : Binding)
    (results : List ReadResult) (status : ConnectStatus) (r : SyscallResult) :
    KeepsInterest (handleError app build self results status r) := by
  unfold handleError
  refine (preserves_descriptor _).keepsInterest.bind fun d =>
    .ite (.ite (guarantee_pure _) ?_) (keepsInterest_scheduleClose _ _)
  refine (preserves_connection _).keepsInterest.bind fun _ => .when (keepsInterest_read _ _ _) ?_
  intro s
  simp only [wp_bind, wp_connection]
  intro d hd c hc
  split
  · exact write_keepsInterest_of_notifyWritable app status fun d' c' hd' hc' => by
      obtain rfl := Option.some.inj (hd.symm.trans hd')
      obtain rfl := Subclass.connection.inj (hc.symm.trans hc')
      assumption
  · exact guarantee_pure _ s

end ConnectionDescriptor

end EventMachine

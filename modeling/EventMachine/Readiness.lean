import EventMachine.LedgerRuns

/-!
# What a readiness event finds

The reactor calls `Write` for the `EPOLLOUT` events `epoll_wait` reported, and deletes a
descriptor whose `ShouldDelete ()` holds. The poll interest (`Reachable.pollSound`) and the ledger
(`Reachable.ledgerSound`) say what a descriptor looks like in every reachable state; the results
that read `OutboundDataSize` are stated over the runs within the range of `int`.

A connection whose registered mask still asks for `EPOLLOUT` when `Write` flushes it is not
watch-only and, in the `writev` build, has bytes to gather, so neither `assert (!bWatchOnly)` nor
`assert (nbytes > 0)` fails (`writev_flush_asserts_hold`). The reported event can be stale,
though: a callback earlier in the same batch can stop the write notifications of a watch-only
connection, and `Write` then fails `assert (!bWatchOnly)` (`stale_write_fails_assert`). A
connection with bytes queued, unless paused or watch-only, has `EPOLLOUT` armed
(`queued_output_armed`). A connection deleted while its socket is open and no immediate close was
asked for has no byte left to send (`graceful_delete_drained`). No watch-only connection is ever
paused (`watch_only_never_paused`).

`Pause` clears both readiness bits of a connection and `Resume` recomputes them, touching no
other bit of the mask (`otherBits_updatedEvents`). Since the bits were current, `Resume` right
after `Pause` gives back the connection exactly as it was (`pause_resume_restores`); this is
what a proxy relies on when it pauses a source and resumes it later.
-/

namespace EventMachine

/-- A counted stream with a positive count has bytes to gather: its first page has some. -/
theorem ConnectionDescriptor.Counted.gather_ne_nil {c : ConnectionDescriptor} (hc : c.Counted)
    (hpos : 0 < c.outboundDataSize) : (gather .writev c.outboundPages).1 ≠ [] := by
  have hsize := hc.size_eq
  cases hp : c.outboundPages with
  | nil =>
    rw [hp] at hsize
    simp only [unsentBytes_nil, List.length_nil, Nat.cast_zero] at hsize
    omega
  | cons p pages =>
    have hu : 0 < p.unsentLength := hc.unspent p (hp ▸ List.mem_cons_self p pages)
    intro h
    have hlen := congrArg List.length h
    simp only [gather, iovecs, maxIovecs, List.take_succ_cons, List.map_cons, List.flatten_cons,
      List.length_append, OutboundPage.length_unsent, List.length_nil] at hlen
    omega

/-- In the `writev` build, in every state reached within the range of `int`, a `Write` that
finds `EPOLLOUT` in the connection's registered mask and flushes it finds a connection that is not
watch-only and bytes to gather: `assert (!bWatchOnly)` in `Write` and `assert (nbytes > 0)` in
`_WriteOutboundData` hold. -/
theorem writev_flush_asserts_hold {app : App} {s : Reactor} (hs : ReachableInRange app .writev s)
    {b : Binding} {d : EventableDescriptor} {c : ConnectionDescriptor}
    (hd : s.descriptors b = some d) (hc : d.sub = .connection c)
    (hsock : d.mySocket ≠ invalidSocket) (hout : hasEpollOut d.epollEvents = true)
    (hpending : c.bConnectPending = false) (hnotify : c.bNotifyWritable = false) :
    d.bWatchOnly = false ∧ (gather .writev c.outboundPages).1 ≠ [] := by
  have hsel : ConnectionDescriptor.selectForWrite d c = true :=
    (hs.reachable.pollSound b (.bit .write) d hd c hc hsock).symm.trans hout
  have hcount : c.Counted := hs.reachable.ledgerSound b .stream d hd rfl c hc
  simp only [ConnectionDescriptor.selectForWrite, hpending, hnotify] at hsel
  cases hpaused : d.bPaused <;> cases hwatch : d.bWatchOnly <;>
    simp only [hpaused, hwatch, if_true, if_false, Bool.false_eq_true, decide_eq_true_eq] at hsel
  exact ⟨rfl, hcount.gather_ne_nil hsel⟩

/-- A connection that queued three bytes: `Write` flushes it, and both asserts hold. -/
theorem writev_flush_asserts_hold_after_send :
    ∃ s d c, ReachableInRange silentApp .writev s ∧ s.descriptors 0 = some d ∧
      d.sub = .connection c ∧ d.mySocket ≠ invalidSocket ∧ hasEpollOut d.epollEvents = true ∧
      c.bConnectPending = false ∧ c.bNotifyWritable = false ∧
      (d.bWatchOnly = false ∧ (gather .writev c.outboundPages).1 ≠ []) := by
  have hr : ReachableInRange silentApp .writev _ :=
    .step (.step (.init Reactor.empty_initial) (.attach 5 false (.of_survives (by decide)))
      (by decide)) (.call (.sendOutboundData 0 (.bytes [1, 2, 3])) (.of_survives (by decide)))
      (by decide)
  exact ⟨_, _, _, hr, rfl, rfl, by decide, by decide, rfl, rfl,
    writev_flush_asserts_hold hr (b := 0) rfl rfl (by decide) (by decide) rfl rfl⟩

/-- In every state reached within the range of `int`, in either build, a connection with bytes
queued and an open socket that is neither paused nor watch-only has `EPOLLOUT` armed: queued
output is never left without write interest. -/
theorem queued_output_armed {app : App} {build : Build} {s : Reactor}
    (hs : ReachableInRange app build s) {b : Binding} {d : EventableDescriptor}
    {c : ConnectionDescriptor} (hd : s.descriptors b = some d) (hc : d.sub = .connection c)
    (hsock : d.mySocket ≠ invalidSocket) (hpaused : d.bPaused = false)
    (hwatch : d.bWatchOnly = false) (hqueued : unsentBytes c.outboundPages ≠ []) :
    hasEpollOut d.epollEvents = true := by
  have hsize : ((unsentBytes c.outboundPages).length : Int) ≤ c.outboundDataSize :=
    hs.reachable.pollSound b .size d hd c hc
  have hpos : 0 < (unsentBytes c.outboundPages).length := List.length_pos.2 hqueued
  refine (hs.reachable.pollSound b (.bit .write) d hd c hc hsock).trans ?_
  simp only [Bit.select, ConnectionDescriptor.selectForWrite, hpaused, hwatch, if_false,
    Bool.false_eq_true]
  split
  · rfl
  · exact decide_eq_true (by omega)

/-- A connection that queued three bytes has `EPOLLOUT` armed. -/
theorem queued_output_armed_after_send :
    ∃ s d c, ReachableInRange silentApp .copy s ∧ s.descriptors 0 = some d ∧
      d.sub = .connection c ∧ d.mySocket ≠ invalidSocket ∧ d.bPaused = false ∧
      d.bWatchOnly = false ∧ unsentBytes c.outboundPages ≠ [] ∧
      hasEpollOut d.epollEvents = true := by
  have hr : ReachableInRange silentApp .copy _ :=
    .step (.step (.init Reactor.empty_initial) (.attach 5 false (.of_survives (by decide)))
      (by decide)) (.call (.sendOutboundData 0 (.bytes [1, 2, 3])) (.of_survives (by decide)))
      (by decide)
  exact ⟨_, _, _, hr, rfl, rfl, by decide, rfl, rfl, by decide,
    queued_output_armed hr (b := 0) rfl rfl (by decide) rfl rfl (by decide)⟩

/-- In every state reached within the range of `int`, in either build, a connection that the
reactor may delete while its socket is open and no immediate close was asked for has no byte
left to send: a close after writing drops nothing. -/
theorem graceful_delete_drained {app : App} {build : Build} {s : Reactor}
    (hs : ReachableInRange app build s) {b : Binding} {d : EventableDescriptor}
    {c : ConnectionDescriptor} (hd : s.descriptors b = some d) (hc : d.sub = .connection c)
    (hdelete : d.shouldDelete = true) (hsock : d.mySocket ≠ invalidSocket)
    (hnow : d.bCloseNow = false) : unsentBytes c.outboundPages = [] := by
  have hsize : ((unsentBytes c.outboundPages).length : Int) ≤ c.outboundDataSize :=
    hs.reachable.pollSound b .size d hd c hc
  have hdrained : c.outboundDataSize ≤ 0 := by
    simp only [EventableDescriptor.shouldDelete, EventableDescriptor.getOutboundDataSize, hc, hnow,
      beq_false_of_ne hsock, Bool.or_false, Bool.false_or, Bool.and_eq_true, decide_eq_true_eq]
      at hdelete
    exact hdelete.2
  exact List.length_eq_zero.1 (by omega)

/-- A connection closed after writing with nothing queued may be deleted, and has nothing to
send. -/
theorem graceful_delete_drained_after_close :
    ∃ s d c, ReachableInRange silentApp .writev s ∧ s.descriptors 0 = some d ∧
      d.sub = .connection c ∧ d.shouldDelete = true ∧ d.mySocket ≠ invalidSocket ∧
      d.bCloseNow = false ∧ unsentBytes c.outboundPages = [] := by
  have hr : ReachableInRange silentApp .writev _ :=
    .step (.step (.init Reactor.empty_initial) (.attach 5 false (.of_survives (by decide)))
      (by decide)) (.call (.scheduleClose 0 true) (.of_survives (by decide))) (by decide)
  exact ⟨_, _, _, hr, rfl, rfl, by decide, by decide, rfl,
    graceful_delete_drained hr (b := 0) rfl rfl (by decide) (by decide) rfl⟩

/-- In every reachable state, in either build, a watch-only connection is not paused: `Pause`
refuses one, and only a new connection is made watch-only. -/
theorem watch_only_never_paused {app : App} {build : Build} {s : Reactor}
    (hs : Reachable app build s) {b : Binding} {d : EventableDescriptor}
    {c : ConnectionDescriptor} (hd : s.descriptors b = some d) (hc : d.sub = .connection c)
    (hwatch : d.bWatchOnly = true) : d.bPaused = false :=
  hs.pollSound b .pause d hd c hc hwatch

/-- A connection attached in watch-only mode is not paused. -/
theorem watch_only_never_paused_attached :
    ∃ s d c, Reachable silentApp .writev s ∧ s.descriptors 0 = some d ∧ d.sub = .connection c ∧
      d.bWatchOnly = true ∧ d.bPaused = false := by
  have hr : Reachable silentApp .writev _ :=
    .step (.init Reactor.empty_initial) (.attach 5 true (.of_survives (by decide)))
  exact ⟨_, _, _, hr, rfl, rfl, rfl, watch_only_never_paused hr (b := 0) rfl rfl rfl⟩

/-! ## Pause and resume -/

theorem getLsbD_epollIn (k : Nat) : epollIn.toBitVec.getLsbD k = decide (k = 0) := by
  cases k <;> simp [epollIn, BitVec.getLsbD_ofNat, Nat.testBit_succ]

theorem getLsbD_epollOut (k : Nat) : epollOut.toBitVec.getLsbD k = decide (k = 2) := by
  rcases k with _ | _ | _ | k <;> simp [epollOut, BitVec.getLsbD_ofNat, Nat.testBit_succ]

/-- The bits of a mask other than `EPOLLIN` and `EPOLLOUT`. -/
def otherBits (x : UInt32) : UInt32 := x &&& ~~~(epollIn ||| epollOut)

theorem getLsbD_otherBits (x : UInt32) {k : Nat} (hk : k < 32) :
    (otherBits x).toBitVec.getLsbD k = (x.toBitVec.getLsbD k && !(k = 0 || k = 2)) := by
  show (x.toBitVec &&& ~~~(epollIn.toBitVec ||| epollOut.toBitVec)).getLsbD k = _
  simp [getLsbD_epollIn, getLsbD_epollOut, hk]

/-- A mask is its two bits and the others. -/
theorem mask_ext {x y : UInt32} (hin : hasEpollIn x = hasEpollIn y)
    (hout : hasEpollOut x = hasEpollOut y) (hrest : otherBits x = otherBits y) : x = y := by
  apply UInt32.eq_of_toBitVec_eq
  apply BitVec.eq_of_getLsbD_eq
  intro ⟨k, hk⟩
  have h := congrArg (fun z : UInt32 => z.toBitVec.getLsbD k) hrest
  simp only [getLsbD_otherBits _ hk] at h
  by_cases h0 : k = 0
  · subst h0
    exact hin
  by_cases h2 : k = 2
  · subst h2
    exact hout
  simpa [h0, h2] using h

namespace ConnectionDescriptor

/-- `_UpdateEvents` touches no bit but `EPOLLIN` and `EPOLLOUT`. -/
theorem otherBits_updatedEvents (d : EventableDescriptor) (c : ConnectionDescriptor)
    (read write : Bool) (old : UInt32) :
    otherBits (updatedEvents d c read write old) = otherBits old := by
  have hor : ∀ a b : UInt32, (a ||| b).toBitVec = a.toBitVec ||| b.toBitVec := fun _ _ => rfl
  have hand : ∀ a b : UInt32, (a &&& b).toBitVec = a.toBitVec &&& b.toBitVec := fun _ _ => rfl
  have hnot : ∀ a : UInt32, (~~~a).toBitVec = ~~~a.toBitVec := fun _ => rfl
  apply UInt32.eq_of_toBitVec_eq
  apply BitVec.eq_of_getLsbD_eq
  intro ⟨k, hk⟩
  simp only [getLsbD_otherBits _ hk]
  unfold updatedEvents
  cases read <;> cases write <;> cases selectForRead d c <;> cases selectForWrite d c <;>
    simp [hor, hand, hnot, getLsbD_epollIn, getLsbD_epollOut, hk] <;>
    cases old.toBitVec.getLsbD k <;> cases decide (k = 0) <;> cases decide (k = 2) <;> rfl

/-- A mask whose two bits are the selectors' answers is what `_UpdateEvents (true, true)`
computes from it. -/
theorem updatedEvents_eq_self {d : EventableDescriptor} {c : ConnectionDescriptor} {old : UInt32}
    (hin : hasEpollIn old = selectForRead d c) (hout : hasEpollOut old = selectForWrite d c) :
    updatedEvents d c true true old = old :=
  mask_ext (by simp [hin]) (by simp [hout]) (otherBits_updatedEvents ..)

/-- Of two `_UpdateEvents (true, true)` in a row, the second decides the mask. -/
theorem updatedEvents_updatedEvents (d d' : EventableDescriptor) (c c' : ConnectionDescriptor)
    (old : UInt32) :
    updatedEvents d' c' true true (updatedEvents d c true true old) =
      updatedEvents d' c' true true old :=
  mask_ext (by simp) (by simp) (by simp only [otherBits_updatedEvents])

/-- The descriptor `_UpdateEvents (true, true)` leaves: both bits recomputed on an open socket,
nothing changed on a closed one. -/
def afterUpdateEvents (d : EventableDescriptor) (c : ConnectionDescriptor) : EventableDescriptor :=
  { d with epollEvents := if d.mySocket = invalidSocket then d.epollEvents
      else updatedEvents d c true true d.epollEvents }

variable {s : Reactor} {b : Binding} {d : EventableDescriptor} {c : ConnectionDescriptor}

theorem updateEvents_run (hd : s.descriptors b = some d) (hc : d.sub = .connection c) :
    ∃ s', updateEvents b true true s = .ok () s' ∧
      s'.descriptors = Function.update s.descriptors b (some (afterUpdateEvents d c)) := by
  by_cases hsock : d.mySocket = invalidSocket
  · refine ⟨s, ?_, ?_⟩
    · simp only [updateEvents, bind_run_ok (descriptor_run hd), hsock, if_true]
      rfl
    · rw [afterUpdateEvents, if_pos hsock, ← hd, Function.update_eq_self]
  · simp only [updateEvents, bind_run_ok (descriptor_run hd), hsock, if_false, pure_bind,
      Bool.not_true, Bool.and_self, Bool.false_eq_true, bind_run_ok (connection_run hd hc),
      bind_run_ok (modifyDescriptor_run hd), afterUpdateEvents]
    split <;> exact ⟨_, rfl, rfl⟩

theorem pause_virtual (hd : s.descriptors b = some d) (hc : d.sub = .connection c) :
    Virtual.pause b s = pause b s := by
  simp only [Virtual.pause, bind_run_ok (descriptor_run hd), hc]

theorem resume_virtual (hd : s.descriptors b = some d) (hc : d.sub = .connection c) :
    Virtual.resume b s = resume b s := by
  simp only [Virtual.resume, bind_run_ok (descriptor_run hd), hc]

/-- `Pause` on a connection that is not watch-only: marked paused, then `_UpdateEvents`. -/
theorem pause_run (hd : s.descriptors b = some d) (hc : d.sub = .connection c)
    (hwatch : d.bWatchOnly = false) :
    ∃ s', Virtual.pause b s = .ok (!d.bPaused) s' ∧ s'.descriptors =
      Function.update s.descriptors b (some (afterUpdateEvents { d with bPaused := true } c)) := by
  obtain ⟨s', h, hs'⟩ := updateEvents_run
    (s := { s with descriptors := Function.update s.descriptors b (some { d with bPaused := true }) })
    (Function.update_same ..) hc
  refine ⟨s', ?_, by rw [hs', Function.update_idem]⟩
  have hw : ¬d.bWatchOnly = true := by simp [hwatch]
  rw [pause_virtual hd hc]
  simp only [pause, bind_run_ok (descriptor_run hd), if_neg hw, pure_bind,
    bind_run_ok (modifyDescriptor_run hd), bind_run_ok h]
  rfl

/-- `Resume` on a connection that is not watch-only: marked running, then `_UpdateEvents`. -/
theorem resume_run (hd : s.descriptors b = some d) (hc : d.sub = .connection c)
    (hwatch : d.bWatchOnly = false) :
    ∃ s', Virtual.resume b s = .ok d.bPaused s' ∧ s'.descriptors =
      Function.update s.descriptors b (some (afterUpdateEvents { d with bPaused := false } c)) := by
  obtain ⟨s', h, hs'⟩ := updateEvents_run
    (s := { s with descriptors := Function.update s.descriptors b (some { d with bPaused := false }) })
    (Function.update_same ..) hc
  refine ⟨s', ?_, by rw [hs', Function.update_idem]⟩
  have hw : ¬d.bWatchOnly = true := by simp [hwatch]
  rw [resume_virtual hd hc]
  simp only [resume, bind_run_ok (descriptor_run hd), if_neg hw, pure_bind,
    bind_run_ok (modifyDescriptor_run hd), bind_run_ok h]
  rfl

/-- `Resume` right after `Pause` gives back a running connection as it was, when its two bits
were current: `Pause` clears them, and `Resume` sets them back from the same selectors. -/
theorem afterUpdateEvents_resume_pause {d₁ : EventableDescriptor} (hpaused : d.bPaused = false)
    (hcur : d.mySocket ≠ invalidSocket → hasEpollIn d.epollEvents = selectForRead d c ∧
      hasEpollOut d.epollEvents = selectForWrite d c)
    (h₁ : d₁ = afterUpdateEvents { d with bPaused := true } c) :
    afterUpdateEvents { d₁ with bPaused := false } c = d := by
  subst h₁
  unfold afterUpdateEvents
  by_cases hsock : d.mySocket = invalidSocket
  · cases d
    simp_all
  · obtain ⟨hin, hout⟩ := hcur hsock
    simp only [hsock, if_false, updatedEvents_updatedEvents]
    rw [updatedEvents_eq_self (by rw [hin]; simp [selectForRead, hpaused])
      (by rw [hout]; simp [selectForWrite, hpaused])]
    cases d
    simp_all

end ConnectionDescriptor

open ConnectionDescriptor in
/-- In every reachable state, in either build, `Resume` right after `Pause` gives back a running
connection exactly as it was, its epoll mask included, and both report the change: `Pause`
clears both readiness bits, `Resume` recomputes them, and they were current. -/
theorem pause_resume_restores {app : App} {build : Build} {s : Reactor}
    (hs : Reachable app build s) {b : Binding} {d : EventableDescriptor}
    {c : ConnectionDescriptor} (hd : s.descriptors b = some d) (hc : d.sub = .connection c)
    (hwatch : d.bWatchOnly = false) (hpaused : d.bPaused = false) :
    ∃ s₁ s₂, Virtual.pause b s = .ok true s₁ ∧ Virtual.resume b s₁ = .ok true s₂ ∧
      s₂.descriptors = s.descriptors := by
  obtain ⟨s₁, h₁, hs₁⟩ := pause_run hd hc hwatch
  obtain ⟨s₂, h₂, hs₂⟩ := resume_run (d := afterUpdateEvents { d with bPaused := true } c)
    (by rw [hs₁, Function.update_same]) hc hwatch
  refine ⟨s₁, s₂, by simpa [hpaused] using h₁, h₂, ?_⟩
  have hcur := fun hsock => And.intro (hs.pollSound b (.bit .read) d hd c hc hsock)
    (hs.pollSound b (.bit .write) d hd c hc hsock)
  rw [hs₂, hs₁, Function.update_idem, afterUpdateEvents_resume_pause hpaused hcur rfl, ← hd,
    Function.update_eq_self]

/-- A connection that queued three bytes, with `EPOLLIN` and `EPOLLOUT` armed, paused and
resumed. -/
theorem pause_resume_restores_after_send :
    ∃ s d c, Reachable silentApp .writev s ∧ s.descriptors 0 = some d ∧ d.sub = .connection c ∧
      d.bWatchOnly = false ∧ d.bPaused = false ∧
      ∃ s₁ s₂, Virtual.pause 0 s = .ok true s₁ ∧ Virtual.resume 0 s₁ = .ok true s₂ ∧
        s₂.descriptors = s.descriptors := by
  have hr : Reachable silentApp .writev _ :=
    .step (.step (.init Reactor.empty_initial) (.attach 5 false (.of_survives (by decide))))
      (.call (.sendOutboundData 0 (.bytes [1, 2, 3])) (.of_survives (by decide)))
  exact ⟨_, _, _, hr, rfl, rfl, rfl, rfl, pause_resume_restores hr (b := 0) rfl rfl rfl rfl⟩

end EventMachine

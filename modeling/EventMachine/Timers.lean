import EventMachine.Evolution

/-!
# Heartbeats

A connection's `Heartbeat` schedules an immediate close once its inactivity timeout has passed,
through the `ScheduleClose` the application calls; on a watch-only connection that call throws,
and the exception leaves the poll-driven `Heartbeat` (`heartbeat_throws_on_watch_only`).

`QueueHeartbeat` and `~EventableDescriptor` keep the heartbeat queue exact: every step keeps,
for each binding, the entries naming it equal to the deadline of its live descriptor
(`Evolves.beats`), so the queue of a reachable state holds one entry per live descriptor with a
deadline and nothing else (`heartbeat_queue_exact`).
-/

namespace EventMachine

/-- On a watch-only connection whose inactivity timeout has passed, `Heartbeat` throws the
refusal of `ScheduleClose`. -/
theorem heartbeat_throws_on_watch_only {s : Reactor} {self : Binding} {d : EventableDescriptor}
    {c : ConnectionDescriptor} (hd : s.descriptors self = some d) (hc : d.sub = .connection c)
    (hwatch : d.bWatchOnly = true) (hpending : c.bConnectPending = false)
    (htimeout : d.inactivityTimeout ≠ 0)
    (hidle : d.inactivityTimeout ≤ s.timerQuantum + s.currentLoopTime - d.lastActivity) :
    Throws (Virtual.heartbeat self) "cannot close 'watch only' connections" s := by
  have hq : getTimerQuantum s = .ok s.timerQuantum s := rfl
  have hnow : getCurrentLoopTime s = .ok s.currentLoopTime s := rfl
  unfold Throws
  simp only [Virtual.heartbeat, ConnectionDescriptor.heartbeat, ConnectionDescriptor.scheduleClose,
    bind_run_ok (descriptor_run hd), hc, bind_run_ok hq, bind_run_ok hnow,
    bind_run_ok (connection_run hd hc), hpending]
  rw [if_neg Bool.false_ne_true, if_pos ⟨htimeout, hidle⟩]
  simp only [bind, EStateM.bind, modifyDescriptor, hd, descriptor, Function.update_same, hwatch,
    if_true]
  exact ⟨_, rfl⟩

/-- A connection attached in watch-only mode with a 1 ms inactivity timeout: once the loop
clock passes its deadline, the reactor's `Heartbeat` on it throws. -/
theorem watch_only_heartbeat_throws :
    ∃ s, Reachable silentApp .writev s ∧ ((1000 : UInt64), (0 : Binding)) ∈ s.heartbeats ∧
      (1000 : UInt64) ≤ s.currentLoopTime ∧
      Throws (Virtual.heartbeat 0) "cannot close 'watch only' connections" s := by
  obtain ⟨s, hs, hqueued, hdue, d, c, hd, hc, hwatch, hpending, htimeout, hidle⟩ :
      ∃ s, Reachable silentApp .writev s ∧ ((1000 : UInt64), (0 : Binding)) ∈ s.heartbeats ∧
        (1000 : UInt64) ≤ s.currentLoopTime ∧ ∃ d c, s.descriptors 0 = some d ∧
        d.sub = .connection c ∧ d.bWatchOnly = true ∧ c.bConnectPending = false ∧
        d.inactivityTimeout ≠ 0 ∧
        d.inactivityTimeout ≤ s.timerQuantum + s.currentLoopTime - d.lastActivity :=
    ⟨_, .step (.step (.step (.init Reactor.empty_initial) (.attach 5 true (.of_survives (by decide))))
      (.call (.setCommInactivityTimeout 0 1) (.of_survives (by decide)))) (.tick 2000 2000),
      by decide, by decide, _, _, rfl, rfl, rfl, rfl, by decide, by decide⟩
  exact ⟨s, hs, hqueued, hdue, heartbeat_throws_on_watch_only hd hc hwatch hpending htimeout hidle⟩

/-! ## The heartbeat queue -/

/-- In every reachable state the entries of the heartbeat queue that name a binding are exactly
the deadline of its live descriptor, when that deadline is nonzero: one entry for a descriptor
with a deadline, none for a descriptor without one, none for a deleted descriptor. -/
theorem heartbeat_queue_exact {app : App} {build : Build} {s : Reactor}
    (hs : Reachable app build s) (b : Binding) : s.beatsOf b = s.dueBeats b := by
  induction hs with
  | init hi => simp [Reactor.beatsOf, Reactor.dueBeats, hi.no_heartbeats, hi.no_descriptors b]
  | step hs hstep ih => exact hstep.evolves.beats hs.fresh b ih

/-- A connection given a 1 ms inactivity timeout: its deadline is the one entry of the queue. -/
theorem heartbeat_queue_exact_after_timeout :
    ∃ s, Reachable silentApp .writev s ∧ s.beatsOf 0 = s.dueBeats 0 ∧
      s.heartbeats = [((1000 : UInt64), (0 : Binding))] :=
  let hs : Reachable silentApp .writev _ := .step (.step (.init Reactor.empty_initial)
    (.attach 5 false (.of_survives (by decide))))
    (.call (.setCommInactivityTimeout 0 1) (.of_survives (by decide)))
  ⟨_, hs, heartbeat_queue_exact hs 0, by decide⟩

/-! ## Timeouts in microseconds

`SetCommInactivityTimeout` stores `value * 1000` in a `uint64_t`, which wraps for a value above
`2^64 / 1000`. -/

/-- A connection given an inactivity timeout of `18446744073709552` ms, some 584 million
years: `value * 1000` wraps to `384` µs, and the heartbeat closes the connection for inactivity
1 ms after its last activity. -/
theorem inactivity_timeout_wraps :
    ∃ s, Reachable silentApp .writev s ∧ s.currentLoopTime = 1000 ∧
      (s.descriptors 0).map (fun d => (d.inactivityTimeout, d.lastActivity, d.bCloseNow,
        d.unbindReasonCode)) = some (384, 0, true, etimedout) :=
  ⟨_, .step (.step (.step (.step (.init Reactor.empty_initial)
    (.attach 5 false (.of_survives (by decide))))
    (.call (.setCommInactivityTimeout 0 18446744073709552) (.of_survives (by decide))))
    (.tick 1000 1000)) (.heartbeat 0 384 (by decide) (by decide) (.of_survives (by decide))),
    rfl, by decide⟩

end EventMachine

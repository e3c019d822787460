import EventMachine.Evolution

/-!
# The proxy link

`StartProxy` records the new target in `ProxyTarget` before `SetProxiedFrom` checks that the
target is free, so a busy target leaves the source half linked
(`startProxy_onto_busy_target`), and nothing clears that link when the target is destroyed
(`proxy_target_dangles`). `StopProxy` drops the link and leaves the source's pause as it is,
while only the sink's writes resume a source (`stopProxy_strands_source`).
-/

namespace EventMachine

/-- `StartProxy` from a descriptor with no target onto a target that already has a source
throws, after the source has recorded the target. -/
theorem startProxy_onto_busy_target {s : Reactor} {self target src : Binding}
    (bufsize length : Nat) (hne : self ≠ target)
    (hself : (s.descriptors self).map EventableDescriptor.proxyTarget = some none)
    (hbusy : (s.descriptors target).map EventableDescriptor.proxiedFrom = some (some src)) :
    Throws (runApiCall (.startProxy self target bufsize length))
        "Tried to proxy to a busy target" s ∧
      ((after (runApiCall (.startProxy self target bufsize length)) s).descriptors self).map
        EventableDescriptor.proxyTarget = some (some target) := by
  obtain ⟨d, hd, hnone⟩ := Option.map_eq_some'.1 hself
  obtain ⟨dt, ht, hfrom⟩ := Option.map_eq_some'.1 hbusy
  suffices h : ∃ s', runApiCall (.startProxy self target bufsize length) s =
      .error (.runtimeError "Tried to proxy to a busy target") s' ∧
      (s'.descriptors self).map EventableDescriptor.proxyTarget = some (some target) by
    obtain ⟨s', hrun, hs'⟩ := h
    exact ⟨⟨s', hrun⟩, by simp only [after, hrun]; exact hs'⟩
  have hget : (get : EM Reactor) s = .ok s s := rfl
  simp only [runApiCall, onDescriptor_run hd, EventableDescriptor.startProxy, bind_run_ok hget, ht,
    EventableDescriptor.stopProxy, bind_run_ok (descriptor_run hd), hnone]
  simp only [bind, EStateM.bind, pure, EStateM.pure, modifyDescriptor, hd,
    EventableDescriptor.setProxiedFrom, descriptor, hnone, Function.update_noteq hne.symm, ht, hfrom]
  exact ⟨_, rfl, by simp⟩

/-- A source proxies to a busy target, and the target is then destroyed: the source still
points at it. -/
theorem proxy_target_dangles :
    ∃ s, Reachable silentApp .writev s ∧
      (s.descriptors 0).map EventableDescriptor.proxyTarget = some (some 1) ∧
      s.descriptors 1 = none :=
  ⟨_, .step (.step (.step (.step (.step (.step (.step (.init Reactor.empty_initial)
    (.attach 5 false (.of_survives (by decide)))) (.attach 6 false (.of_survives (by decide))))
    (.attach 7 false (.of_survives (by decide))))
    (.call (.startProxy 2 1 0 0) (.of_survives (by decide))))
    (.call (.startProxy 0 1 0 0) (.of_survives (by decide))))
    (.call (.scheduleClose 1 false) (.of_survives (by decide))))
    (.delete_of_shouldDelete 1 (by decide) (.of_survives (by decide))), by decide, by decide⟩

/-- `StopProxy` on a source whose target is live returns with the source unlinked and its
pause flag as it was, and the former target with no source: a paused source is left with no
sink whose writes would resume it. -/
theorem stopProxy_strands_source {s : Reactor} {self t : Binding} {paused : Bool}
    (hself : (s.descriptors self).map (fun d => (d.proxyTarget, d.bPaused)) = some (some t, paused))
    (hlive : (s.descriptors t).isSome) :
    Succeeds (runApiCall (.stopProxy self))
      (fun _ s' => (s'.descriptors self).map (fun d => (d.proxyTarget, d.bPaused)) =
          some (none, paused) ∧
        (s'.descriptors t).bind EventableDescriptor.proxiedFrom = none) s := by
  obtain ⟨d, hd, hdt⟩ := Option.map_eq_some'.1 hself
  obtain ⟨ht, rfl⟩ := Prod.mk.inj hdt
  obtain ⟨dt, hlive⟩ := Option.isSome_iff_exists.1 hlive
  simp only [runApiCall, onDescriptor, succeeds_bind, succeeds_get, hd,
    EventableDescriptor.stopProxy, succeeds_descriptor, ht, EventableDescriptor.setProxiedFrom, hlive,
    Option.some.injEq, exists_eq_left', Option.isSome_none, Bool.false_eq_true, false_and,
    ↓reduceIte, pure_bind, succeeds_modifyDescriptor, Function.update_same, Option.map_some',
    Option.bind_eq_none]
  by_cases h : self = t
  · subst h
    simp_all only [Option.some.injEq, Function.update_same, Option.isSome_none, Bool.false_eq_true,
      false_and, ↓reduceIte, pure_bind, succeeds_bind, succeeds_descriptor, exists_eq_left',
      succeeds_modifyDescriptor, Option.map_some', Option.bind_eq_none, forall_eq', and_true]
  · simp only [Function.update_noteq h, Function.update_noteq (Ne.symm h), hd, hlive,
      Option.map_some', Option.bind_eq_none, forall_eq', and_true, Option.some.injEq, true_and,
      exists_eq_left', Function.update_same, and_self]

/-- A sink over its threshold pauses its source, then the application stops the proxy: the source
stays paused and no descriptor has it as its source. -/
theorem paused_source_stranded :
    ∃ s, Reachable silentApp .writev s ∧
      (s.descriptors 0).any EventableDescriptor.bPaused = true ∧
      ∀ k < s.nextBinding, (s.descriptors k).bind EventableDescriptor.proxiedFrom ≠ some 0 := by
  obtain ⟨s, hs, hlinked, hlive, hunlinked⟩ : ∃ s, Reachable silentApp .writev s ∧
      (s.descriptors 0).map (fun d => (d.proxyTarget, d.bPaused)) = some (some 1, true) ∧
      (s.descriptors 1).isSome ∧ ∀ k < (after (runApiCall (.stopProxy 0)) s).nextBinding,
        ((after (runApiCall (.stopProxy 0)) s).descriptors k).bind
          EventableDescriptor.proxiedFrom ≠ some 0 :=
    ⟨_, .step (.step (.step (.step (.init Reactor.empty_initial)
      (.attach 5 false (.of_survives (by decide)))) (.attach 6 false (.of_survives (by decide))))
      (.call (.startProxy 0 1 1 0) (.of_survives (by decide))))
      (.call (.sendOutboundData 1 (.bytes [1, 2])) (.of_survives (by decide))),
      by decide, by decide, by decide⟩
  obtain ⟨hstop, -, hpaused, -⟩ := (stopProxy_strands_source hlinked hlive).after_spec
  obtain ⟨d, hd, hdp⟩ := Option.map_eq_some'.1 hpaused
  exact ⟨_, .step hs (.call (.stopProxy 0) hstop), by simp [hd, (Prod.mk.inj hdp).2], hunlinked⟩

/-- Two rejected calls that change a descriptor before they throw: `StartProxy` from `0` onto
the busy target `1` leaves `0` pointing at `1`, and a null buffer of 2 bytes sent to the sink
`1`, whose threshold is 1 byte, leaves its source `0` paused. -/
theorem rejected_calls_change_state :
    (∃ s, Reachable silentApp .writev s ∧
      Throws (runApiCall (.startProxy 0 1 0 0)) "Tried to proxy to a busy target" s ∧
      (s.descriptors 0).map EventableDescriptor.proxyTarget = some none ∧
      ((after (runApiCall (.startProxy 0 1 0 0)) s).descriptors 0).map
        EventableDescriptor.proxyTarget = some (some 1)) ∧
    ∃ s, Reachable silentApp .writev s ∧
      Throws (runApiCall (.sendOutboundData 1 (.null 2))) "bad outbound data" s ∧
      (s.descriptors 0).map EventableDescriptor.bPaused = some false ∧
      ((after (runApiCall (.sendOutboundData 1 (.null 2))) s).descriptors 0).map
        EventableDescriptor.bPaused = some true := by
  obtain ⟨s, hs, hfree, hbusy⟩ : ∃ s, Reachable silentApp .writev s ∧
      (s.descriptors 0).map EventableDescriptor.proxyTarget = some none ∧
      (s.descriptors 1).map EventableDescriptor.proxiedFrom = some (some 2) :=
    ⟨_, .step (.step (.step (.step (.init Reactor.empty_initial)
      (.attach 5 false (.of_survives (by decide)))) (.attach 6 false (.of_survives (by decide))))
      (.attach 7 false (.of_survives (by decide))))
      (.call (.startProxy 2 1 0 0) (.of_survives (by decide))), by decide, by decide⟩
  have hrejected := startProxy_onto_busy_target 0 0 (by decide) hfree hbusy
  exact ⟨⟨s, hs, hrejected.1, hfree, hrejected.2⟩,
    ⟨_, .step (.step (.step (.init Reactor.empty_initial)
      (.attach 5 false (.of_survives (by decide)))) (.attach 6 false (.of_survives (by decide))))
      (.call (.startProxy 0 1 1 0) (.of_survives (by decide))), ⟨_, rfl⟩, by decide, by decide⟩⟩

/-! ## The backpressure thresholds

The sink pauses its source when `(unsigned int)(GetOutboundDataSize () + length)` passes the
threshold, and a write resumes it when `(unsigned int) GetOutboundDataSize ()` is strictly below
it. A queue left exactly at the threshold keeps the source paused, and a sum that reaches
`2^32` wraps before the comparison. -/

/-- A sink with a threshold of 2 bytes queues 3 and pauses its source; the kernel then takes one
byte, which leaves 2 queued, and the source stays paused. A source proxied into a sink with a
threshold of 1 byte stays running while `2^32` bytes are sent, since the sum wraps to `0` (the
pause test reads only the length, so a null buffer of that length shows it). -/
theorem backpressure_thresholds_off :
    (∃ s, Reachable silentApp .writev s ∧
      (s.descriptors 0).map EventableDescriptor.bPaused = some true ∧
      (s.descriptors 1).map (fun d => (d.proxiedFrom, d.maxOutboundBufSize,
        d.getOutboundDataSize)) = some (some 0, 2, 2)) ∧
    ∃ s, Reachable silentApp .writev s ∧
      (s.descriptors 1).map (fun d => (d.proxiedFrom, d.maxOutboundBufSize,
        d.getOutboundDataSize)) = some (some 0, 1, 0) ∧
      ((after (runApiCall (.sendOutboundData 1 (.null 4294967296))) s).descriptors 0).map
        EventableDescriptor.bPaused = some false :=
  ⟨⟨_, .step (.step (.step (.step (.step (.init Reactor.empty_initial)
      (.attach 5 false (.of_survives (by decide)))) (.attach 6 false (.of_survives (by decide))))
      (.call (.startProxy 0 1 2 0) (.of_survives (by decide))))
      (.call (.sendOutboundData 1 (.bytes [1, 2, 3])) (.of_survives (by decide))))
      (.write 1 { write := ⟨1, 0⟩ } (.of_writeFits (by decide)) (.of_survives (by decide))),
      by decide, by decide⟩,
    ⟨_, .step (.step (.step (.init Reactor.empty_initial)
      (.attach 5 false (.of_survives (by decide)))) (.attach 6 false (.of_survives (by decide))))
      (.call (.startProxy 0 1 1 0) (.of_survives (by decide))), by decide, by decide⟩⟩

end EventMachine

import EventMachine.Evolution

/-!
# Scheduled closes

`NumCloseScheduled` is raised by `ScheduleClose`, for a first request only, and lowered by
`~EventableDescriptor`, for every descriptor the reactor deletes. A descriptor is also deleted
when its socket is invalid, as a detach leaves it, and then the counter is lowered for a close
that was never counted: the destructor lowers the counter whatever the close state
(`destroy_lowers_count`), and a detached descriptor drives it below zero
(`detach_drives_count_negative`).

`ShouldDelete` reads the byte count of the outbound queue, while a datagram socket also queues
empty datagrams: `DatagramDescriptor::SelectForWrite` tests the page list instead, and its
comment warns that the superclass check "may be wrong". An empty datagram counts no byte, so a
close after writing makes the socket due for deletion with the datagram still queued
(`DatagramDescriptor.closes_with_empty_datagram_queued`).
-/

namespace EventMachine

/-! ## The close counter -/

section Counter

/-- Every run of `x` the reactor survives leaves the close counter as it was. -/
abbrev KeepsCount {α : Type} (x : EM α) : Prop := Preserves Reactor.numCloseScheduled x

theorem keepsCount_emit (e : TraceEntry) : KeepsCount (emit e) := fun _ => rfl

theorem keepsCount_clearHeartbeat (key : UInt64) (b : Binding) :
    KeepsCount (clearHeartbeat key b) := fun _ => rfl

theorem keepsCount_forgetBinding (b : Binding) : KeepsCount (forgetBinding b) := fun _ => rfl

theorem keepsCount_modifyDescriptor (b : Binding) (f : EventableDescriptor → EventableDescriptor) :
    KeepsCount (modifyDescriptor b f) := fun _ =>
  (wp_modifyDescriptor b f).2 fun _ _ => rfl

/-- The silent application makes no call that could schedule a close. -/
theorem keepsCount_invokeCallback (b : Binding) (kind : EventKind) (data : List Byte)
    (value : Int) : KeepsCount (invokeCallback silentApp b kind data value) := by
  intro s
  simp [invokeCallback, silentApp, runCalls]

namespace EventableDescriptor

theorem keepsCount_setProxiedFrom (self : Binding) (src : Option Binding) (bufsize : Nat) :
    KeepsCount (setProxiedFrom self src bufsize) := by
  unfold setProxiedFrom
  exact (preserves_descriptor _).bind fun _ => .ite
    ((preserves_throw_runtimeError _).bind fun _ => keepsCount_modifyDescriptor _ _)
    (keepsCount_modifyDescriptor _ _)

theorem keepsCount_stopProxy (self : Binding) : KeepsCount (stopProxy self) := by
  unfold stopProxy
  refine (preserves_descriptor _).bind fun d => ?_
  split
  · exact (keepsCount_setProxiedFrom _ _ _).bind fun _ => keepsCount_modifyDescriptor _ _
  · exact preserves_pure _

theorem keepsCount_close (self : Binding) : KeepsCount (close self) := by
  simp only [close, pure_bind]
  refine (preserves_descriptor _).bind fun d => .ite ?_ (preserves_pure _)
  exact (keepsCount_emit _).bind fun _ => .ite ((keepsCount_emit _).bind fun _ =>
    (keepsCount_emit _).bind fun _ => keepsCount_modifyDescriptor _ _)
    (keepsCount_modifyDescriptor _ _)

end EventableDescriptor

/-- Every run of `x` that returns lowers the close counter by one. -/
def LowersCount {α : Type} (x : EM α) : Prop :=
  ∀ s, wp x (fun _ s' => s'.numCloseScheduled = s.numCloseScheduled - 1) (fun _ => True) s

theorem Preserves.bind_lowers {α β : Type} {x : EM α} {f : α → EM β} (hx : KeepsCount x)
    (hf : ∀ a, LowersCount (f a)) : LowersCount (x >>= f) := fun _ =>
  (wp_bind f).2 <| hx.wp (fun a s' (h : _ = _) => h ▸ hf a s') fun _ _ => trivial

theorem LowersCount.bind_keeps {α β : Type} {x : EM α} {f : α → EM β} (hx : LowersCount x)
    (hf : ∀ a, KeepsCount (f a)) : LowersCount (x >>= f) := fun s =>
  (wp_bind f).2 <| wp_mono (hx s) (fun a _ h => (hf a).wp (fun _ _ h' => h'.trans h)
    fun _ _ => trivial) fun _ _ => trivial

theorem LowersCount.ite {α : Type} {c : Prop} [Decidable c] {x y : EM α} (hx : LowersCount x)
    (hy : LowersCount y) : LowersCount (if c then x else y) := by
  split <;> assumption

theorem lowersCount_throw_undefinedBehaviour {α : Type} (what : String) :
    LowersCount (throw (.undefinedBehaviour what) : EM α) := fun _ => trivial

/-- The destructor's own decrement: the one write of the counter on the way out. -/
theorem lowersCount_decrement :
    LowersCount (modify fun r => { r with numCloseScheduled := r.numCloseScheduled - 1 }) :=
  fun _ => rfl

/-- `~EventableDescriptor` lowers the counter once, whatever the descriptor's close state. -/
theorem EventableDescriptor.destructor_lowers_count (self : Binding) :
    LowersCount (EventableDescriptor.destructor silentApp self) := by
  unfold EventableDescriptor.destructor
  refine (preserves_descriptor _).bind_lowers fun d => ?_
  lift_lets
  intro tail unbound callback
  have htail : ∀ y, LowersCount (tail y) := fun _ =>
    lowersCount_decrement.bind_keeps fun _ =>
      (EventableDescriptor.keepsCount_stopProxy _).bind fun _ => EventableDescriptor.keepsCount_close _
  have hunbound : ∀ y, LowersCount (unbound y) := fun _ => by
    refine (preserves_descriptor _).bind_lowers fun _ => ?_
    split
    · refine (preserves_descriptor _).discard.bind_lowers fun _ =>
        (keepsCount_invokeCallback _ _ _ _).bind_lowers fun _ =>
          (preserves_descriptor _).bind_lowers fun _ => ?_
      split
      · exact (EventableDescriptor.keepsCount_stopProxy _).bind_lowers htail
      · exact lowersCount_throw_undefinedBehaviour _
    · exact (preserves_pure _).bind_lowers htail
  have hcallback : ∀ y, LowersCount (callback y) := fun _ =>
    .ite ((keepsCount_invokeCallback _ _ _ _).bind_lowers hunbound)
      ((preserves_pure _).bind_lowers hunbound)
  exact .ite ((keepsCount_clearHeartbeat _ _).bind_lowers hcallback)
    ((preserves_pure _).bind_lowers hcallback)

/-- Deleting a descriptor lowers the counter once, whether or not its close was counted. -/
theorem destroy_lowers_count (self : Binding) : LowersCount (destroy silentApp self) := by
  unfold destroy
  have hrest := (EventableDescriptor.destructor_lowers_count self).bind_keeps fun _ =>
    keepsCount_forgetBinding self
  exact (preserves_descriptor _).bind_lowers fun _ =>
    .ite ((keepsCount_emit _).bind_lowers fun _ =>
      (keepsCount_modifyDescriptor _ _).bind_lowers fun _ => hrest) hrest

end Counter

/-- A descriptor attached and then detached: the reactor deletes it for its invalid socket,
and the counter falls below zero with no descriptor left. -/
theorem detach_drives_count_negative :
    ∃ s, Reachable silentApp .writev s ∧ s.numCloseScheduled = -1 ∧
      ∀ k < s.nextBinding, s.descriptors k = none := by
  obtain ⟨s, hs, hdelete, hreturns, hcount, hgone⟩ : ∃ s, Reachable silentApp .writev s ∧
      Step silentApp .writev s (after (destroy silentApp 0) s) ∧
      returns (destroy silentApp 0) s = true ∧ s.numCloseScheduled = 0 ∧
      ∀ k < (after (destroy silentApp 0) s).nextBinding,
        (after (destroy silentApp 0) s).descriptors k = none :=
    ⟨_, .step (.step (.init Reactor.empty_initial)
      (.attach 5 false (.of_survives (by decide)))) (.call (.detach 0) (.of_survives (by decide))),
      .delete_of_shouldDelete 0 (by decide) (.of_survives (by decide)), by decide, by decide,
      by decide⟩
  have hlowered := destroy_lowers_count 0 s
  simp only [wp, run_eq_ok_after hreturns, hcount] at hlowered
  exact ⟨_, .step hs hdelete, hlowered, hgone⟩

/-! ## Empty datagrams -/

/-- `SelectForWrite` of a datagram socket: a page is queued. No other descriptor has one. -/
def EventableDescriptor.hasQueuedDatagram (d : EventableDescriptor) : Bool :=
  match d.sub with
  | .datagram g => DatagramDescriptor.selectForWrite g
  | _ => false

/-- An empty datagram sent to a datagram socket with no bytes queued, then a close after
writing: the socket is due for deletion with the datagram still queued, since the datagram is
queued as a page and counted as no byte. -/
theorem DatagramDescriptor.closes_with_empty_datagram_queued {s : Reactor} {self : Binding}
    {d : EventableDescriptor} {g : DatagramDescriptor} (hd : s.descriptors self = some d)
    (hg : d.sub = .datagram g) (hopen : d.isCloseScheduled = false)
    (hcount : d.getOutboundDataSize = 0) (hsock : d.mySocket ≠ invalidSocket)
    (hmalloc : s.mallocResults.headD true = true) :
    Succeeds (runApiCall (.sendOutboundData self (.bytes [])))
      (fun _ => Succeeds (runApiCall (.scheduleClose self true)) fun _ s' =>
        (s'.descriptors self).any (fun d => d.shouldDelete && !d.bCloseNow &&
          d.mySocket != invalidSocket && d.hasQueuedDatagram) = true) s := by
  simp only [EventableDescriptor.getOutboundDataSize, hg] at hcount
  simp only [EventableDescriptor.isCloseScheduled, Bool.or_eq_false_iff] at hopen
  simp only [runApiCall, onDescriptor, Virtual.sendOutboundData, sendOutboundData,
    EventableDescriptor.isCloseScheduled, Bool.or_eq_true, queueDatagram, Bool.false_eq_true,
    ↓reduceIte, Bool.not_true, modifyDatagram, Subclass.mapDatagram, OutboundData.length,
    List.length_nil, Int.Nat.cast_ofNat_Int, Int.add_zero, modifyInterest, Virtual.scheduleClose,
    EventableDescriptor.scheduleClose, EventableDescriptor.shouldDelete,
    EventableDescriptor.getOutboundDataSize, EventableDescriptor.hasQueuedDatagram, selectForWrite,
    succeeds_bind, succeeds_get, hd, succeeds_discard, succeeds_descriptor, Option.some.injEq,
    exists_eq_left', hg, succeeds_pure, Option.any_some, hopen, hcount, Int.le_refl, Bool.not_false,
    Bool.and_eq_true, hsock, bne_iff_ne, ne_eq, not_false_eq_true, decide_eq_true_eq,
    succeeds_modify, succeeds_modifyDescriptor, Function.update_same, or_self, or_true, true_and,
    succeeds_datagram, succeeds_malloc, hmalloc, succeeds_emit, List.length_append,
    List.length_singleton, Nat.zero_lt_succ, Subclass.datagram.injEq]

/-- A datagram socket queues an empty datagram, then the application closes it after writing:
the reactor may delete it with the datagram still queued. -/
theorem datagram_deleted_with_queued_datagram :
    ∃ s, Reachable silentApp .writev s ∧
      (s.descriptors 0).any (fun d => d.shouldDelete && !d.bCloseNow &&
        d.mySocket != invalidSocket && d.hasQueuedDatagram) = true := by
  obtain ⟨s, hs, d, g, hd, hg, hopen, hcount, hsock, hmalloc⟩ : ∃ s, Reachable silentApp .writev s ∧
      ∃ d g, s.descriptors 0 = some d ∧ d.sub = .datagram g ∧ d.isCloseScheduled = false ∧
        d.getOutboundDataSize = 0 ∧ d.mySocket ≠ invalidSocket ∧ s.mallocResults.headD true = true :=
    ⟨_, .step (.init Reactor.empty_initial) (.openDatagram 5 (.of_survives (by decide))),
      _, _, rfl, rfl, rfl, rfl, by decide, rfl⟩
  obtain ⟨hsend, -, hclose⟩ :=
    (DatagramDescriptor.closes_with_empty_datagram_queued hd hg hopen hcount hsock hmalloc).after_spec
  obtain ⟨hclosed, -, hdue⟩ := hclose.after_spec
  exact ⟨_, .step (.step hs (.call _ hsend)) (.call _ hclosed), hdue⟩

end EventMachine

import EventMachine.Reactor
import Mathlib.Tactic.LiftLets
import Mathlib.Logic.Relation

/-!
# The close state only escalates

A descriptor's close state moves one way. `bCloseNow` and `bCloseAfterWriting` are never
cleared, an invalid socket is never made valid again, and once a close is scheduled the queued
byte count never grows, because every enqueue path checks `IsCloseScheduled` first. So
`IsCloseScheduled` and `ShouldDelete`, once they hold, hold in every later state
(`close_state_escalates`).

`Evolves s s'` is what every method guarantees between the state before a call and any state
after it: the descriptors that existed escalate, bindings are never reused, and a descriptor
that `ShouldDelete` gets no new heartbeat entry. The heartbeat invariant relies on the last
fact while the destructor runs the application's callbacks.
-/

namespace EventMachine

/-! ## One descriptor -/

/-- How a descriptor may change over a run: its close flags stay set, an invalid socket stays
invalid, and once a close is scheduled its queued byte count never grows. -/
structure Escalates (d d' : EventableDescriptor) : Prop where
  closeNow : d.bCloseNow = true → d'.bCloseNow = true
  closeAfterWriting : d.bCloseAfterWriting = true → d'.bCloseAfterWriting = true
  socket : d.mySocket = invalidSocket → d'.mySocket = invalidSocket
  drains : d.isCloseScheduled = true → d'.getOutboundDataSize ≤ d.getOutboundDataSize

/-- The members `Escalates` constrains. -/
def EventableDescriptor.closeState (d : EventableDescriptor) : Bool × Bool × Int × Int :=
  (d.bCloseNow, d.bCloseAfterWriting, d.mySocket, d.getOutboundDataSize)

namespace Escalates

variable {d d' d'' : EventableDescriptor}

theorem refl (d : EventableDescriptor) : Escalates d d := ⟨id, id, id, fun _ => Int.le_refl _⟩

theorem isCloseScheduled (h : Escalates d d') (hd : d.isCloseScheduled = true) :
    d'.isCloseScheduled = true := by
  simp only [EventableDescriptor.isCloseScheduled, Bool.or_eq_true] at hd ⊢
  exact hd.imp h.closeNow h.closeAfterWriting

theorem trans (h : Escalates d d') (h' : Escalates d' d'') : Escalates d d'' :=
  ⟨h'.closeNow ∘ h.closeNow, h'.closeAfterWriting ∘ h.closeAfterWriting, h'.socket ∘ h.socket,
    fun hd => Int.le_trans (h'.drains (h.isCloseScheduled hd)) (h.drains hd)⟩

theorem shouldDelete (h : Escalates d d') (hd : d.shouldDelete = true) :
    d'.shouldDelete = true := by
  simp only [EventableDescriptor.shouldDelete, Bool.or_eq_true, beq_iff_eq, Bool.and_eq_true,
    decide_eq_true_eq] at hd ⊢
  rcases hd with (hsock | hnow) | ⟨hafter, hsize⟩
  · exact .inl (.inl (h.socket hsock))
  · exact .inl (.inr (h.closeNow hnow))
  · have hsched : d.isCloseScheduled = true := by
      simp [EventableDescriptor.isCloseScheduled, hafter]
    exact .inr ⟨h.closeAfterWriting hafter, Int.le_trans (h.drains hsched) hsize⟩

/-- A write that leaves the close flags, the socket and the queued byte count alone. -/
theorem of_closeState (h : d'.closeState = d.closeState) : Escalates d d' := by
  simp only [EventableDescriptor.closeState, Prod.mk.injEq] at h
  obtain ⟨h₁, h₂, h₃, h₄⟩ := h
  exact ⟨fun h => h₁ ▸ h, fun h => h₂ ▸ h, fun h => h₃ ▸ h, fun _ => h₄ ▸ Int.le_refl _⟩

theorem invalidate : Escalates d { d with mySocket := invalidSocket } :=
  ⟨id, id, fun _ => rfl, fun _ => Int.le_refl _⟩

theorem closeNow_set : Escalates d { d with bCloseNow := true } :=
  ⟨fun _ => rfl, id, id, fun _ => Int.le_refl _⟩

theorem closeAfterWriting_set : Escalates d { d with bCloseAfterWriting := true } :=
  ⟨id, fun _ => rfl, id, fun _ => Int.le_refl _⟩

/-- A write of a connection's members that does not grow its queued byte count. -/
theorem mapConnection {f : ConnectionDescriptor → ConnectionDescriptor}
    (hf : ∀ c, (f c).outboundDataSize ≤ c.outboundDataSize) :
    Escalates d { d with sub := d.sub.mapConnection f } := by
  refine ⟨id, id, id, fun _ => ?_⟩
  unfold EventableDescriptor.getOutboundDataSize
  cases d.sub <;> simp [Subclass.mapConnection, hf]

/-- A write of a datagram socket's members that does not grow its queued byte count. -/
theorem mapDatagram {f : DatagramDescriptor → DatagramDescriptor}
    (hf : ∀ g, (f g).outboundDataSize ≤ g.outboundDataSize) :
    Escalates d { d with sub := d.sub.mapDatagram f } := by
  refine ⟨id, id, id, fun _ => ?_⟩
  unfold EventableDescriptor.getOutboundDataSize
  cases d.sub <;> simp [Subclass.mapDatagram, hf]

end Escalates

/-! ## One write -/

/-- The members a method writes only for a reason: those `Escalates` constrains, and the
heartbeat deadline, which only `GetNextHeartbeat` sets. -/
def EventableDescriptor.view (d : EventableDescriptor) : (Bool × Bool × Int × Int) × UInt64 :=
  (d.closeState, d.nextHeartbeat)

/-- What one write of a descriptor by a method may do: escalate it, and keep its deadline. -/
structure Write (d d' : EventableDescriptor) : Prop where
  escalates : Escalates d d'
  nextHeartbeat : d'.nextHeartbeat = d.nextHeartbeat

namespace Write

variable {d d' : EventableDescriptor}

/-- A write of members that `view` does not show. -/
theorem of_view (h : d'.view = d.view) : Write d d' :=
  ⟨.of_closeState (congrArg Prod.fst h), congrArg Prod.snd h⟩

theorem invalidate : Write d { d with mySocket := invalidSocket } := ⟨.invalidate, rfl⟩

theorem closeNow_set : Write d { d with bCloseNow := true } := ⟨.closeNow_set, rfl⟩

theorem closeAfterWriting_set : Write d { d with bCloseAfterWriting := true } :=
  ⟨.closeAfterWriting_set, rfl⟩

theorem mapConnection {f : ConnectionDescriptor → ConnectionDescriptor}
    (hf : ∀ c, (f c).outboundDataSize ≤ c.outboundDataSize) :
    Write d { d with sub := d.sub.mapConnection f } :=
  ⟨.mapConnection hf, rfl⟩

theorem mapDatagram {f : DatagramDescriptor → DatagramDescriptor}
    (hf : ∀ g, (f g).outboundDataSize ≤ g.outboundDataSize) :
    Write d { d with sub := d.sub.mapDatagram f } :=
  ⟨.mapDatagram hf, rfl⟩

end Write

/-! ## The heartbeat queue -/

/-- Bindings from `nextBinding` on name nothing yet. -/
def Fresh (s : Reactor) : Prop := ∀ b, s.nextBinding ≤ b → s.descriptors b = none

/-- No heartbeat entry names `b`. -/
def Unbeating (b : Binding) (s : Reactor) : Prop := ∀ e ∈ s.heartbeats, e.2 ≠ b

/-- `b` names nothing, or a descriptor that `ShouldDelete`. -/
def Doomed (b : Binding) (s : Reactor) : Prop :=
  ∀ d, s.descriptors b = some d → d.shouldDelete = true

namespace Reactor

/-- The heartbeat entries that name `b`. -/
def beatsOf (s : Reactor) (b : Binding) : List (UInt64 × Binding) :=
  s.heartbeats.filter fun e => e.2 == b

/-- The entries the queue should hold for `b`: the deadline of a live descriptor that has one. -/
def dueBeats (s : Reactor) (b : Binding) : List (UInt64 × Binding) :=
  match s.descriptors b with
  | some d => if d.nextHeartbeat = 0 then [] else [(d.nextHeartbeat, b)]
  | none => []

end Reactor

/-- The queue holds exactly the deadline of `b`. -/
def BeatsExact (s : Reactor) (b : Binding) : Prop := s.beatsOf b = s.dueBeats b

theorem unbeating_iff {b : Binding} {s : Reactor} : Unbeating b s ↔ s.beatsOf b = [] := by
  unfold Unbeating Reactor.beatsOf
  rw [List.filter_eq_nil_iff]
  simp

/-- Erasing an entry of another binding leaves the entries of `b`. -/
theorem beatsOf_erase_of_ne {s : Reactor} {k : UInt64} {x b : Binding} (h : x ≠ b) :
    Reactor.beatsOf { s with heartbeats := s.heartbeats.erase (k, x) } b = s.beatsOf b := by
  rw [Reactor.beatsOf, ← List.erase_filter, List.erase_of_not_mem]
  · rfl
  · exact fun hm => h (by simpa using (List.mem_filter.1 hm).2)

/-- A write that keeps a descriptor's deadline keeps the entries due. -/
theorem dueBeats_update {s : Reactor} {b : Binding} {d d' : EventableDescriptor}
    (hd : s.descriptors b = some d) (hn : d'.nextHeartbeat = d.nextHeartbeat) :
    Reactor.dueBeats { s with descriptors := Function.update s.descriptors b (some d') } =
      s.dueBeats := by
  funext b'
  by_cases h : b' = b
  · subst h
    simp [Reactor.dueBeats, hd, hn]
  · simp [Reactor.dueBeats, Function.update_noteq h]

/-- The queue once the entry of `d`'s deadline is cleared, as `GetNextHeartbeat` and the
destructor clear it. -/
def dropBeat (d : EventableDescriptor) (self : Binding) (hbs : List (UInt64 × Binding)) :
    List (UInt64 × Binding) :=
  if d.nextHeartbeat ≠ 0 then hbs.erase (d.nextHeartbeat, self) else hbs

/-- Clearing the entry of `self`'s deadline leaves the entries of every other binding. -/
theorem beatsOf_dropBeat {s : Reactor} {self : Binding} {d : EventableDescriptor} (b : Binding) :
    Reactor.beatsOf { s with heartbeats := dropBeat d self s.heartbeats } b =
      if b = self then dropBeat d self (s.beatsOf b) else s.beatsOf b := by
  unfold dropBeat
  split_ifs with h0 hb hb
  · subst hb
    exact (List.erase_filter _ _).symm
  · exact beatsOf_erase_of_ne (Ne.symm hb)
  all_goals rfl

/-! ## The whole reactor -/

/-- What every method guarantees between the state before a call and a state after it. -/
structure Evolves (s s' : Reactor) : Prop where
  nextBinding_le : s.nextBinding ≤ s'.nextBinding
  escalates : ∀ b < s.nextBinding, ∀ d', s'.descriptors b = some d' →
    ∃ d, s.descriptors b = some d ∧ Escalates d d'
  fresh : Fresh s → Fresh s'
  unbeating : ∀ b < s.nextBinding, Unbeating b s → Doomed b s → Unbeating b s'
  beats : Fresh s → ∀ b, BeatsExact s b → BeatsExact s' b

namespace Evolves

variable {s s₁ s₂ : Reactor}

theorem refl (s : Reactor) : Evolves s s :=
  ⟨le_rfl, fun _ _ d h => ⟨d, h, .refl d⟩, id, fun _ _ h _ => h, fun _ _ h => h⟩

theorem doomed (h : Evolves s s₁) {b : Binding} (hb : b < s.nextBinding) (hd : Doomed b s) :
    Doomed b s₁ := fun d₁ hd₁ =>
  let ⟨d, hd', he⟩ := h.escalates b hb d₁ hd₁
  he.shouldDelete (hd d hd')

theorem trans (h : Evolves s s₁) (h' : Evolves s₁ s₂) : Evolves s s₂ where
  nextBinding_le := h.nextBinding_le.trans h'.nextBinding_le
  escalates b hb d₂ hd₂ := by
    obtain ⟨d₁, hd₁, h₁₂⟩ := h'.escalates b (lt_of_lt_of_le hb h.nextBinding_le) d₂ hd₂
    obtain ⟨d, hd, h₀₁⟩ := h.escalates b hb d₁ hd₁
    exact ⟨d, hd, h₀₁.trans h₁₂⟩
  fresh := h'.fresh ∘ h.fresh
  unbeating b hb hu hd :=
    h'.unbeating b (lt_of_lt_of_le hb h.nextBinding_le) (h.unbeating b hb hu hd) (h.doomed hb hd)
  beats hf b hb := h'.beats (h.fresh hf) b (h.beats hf b hb)

instance : IsRefl Reactor Evolves := ⟨refl⟩

instance : IsTrans Reactor Evolves := ⟨fun _ _ _ => trans⟩

/-- A change outside the descriptor table, the binding counter and the heartbeat queue. -/
theorem of_eq (hd : s₁.descriptors = s.descriptors) (hn : s₁.nextBinding = s.nextBinding)
    (hh : s₁.heartbeats = s.heartbeats) : Evolves s s₁ where
  nextBinding_le := hn.ge
  escalates _ _ d h := ⟨d, hd ▸ h, .refl d⟩
  fresh hf b hb := by rw [hd]; exact hf b (hn ▸ hb)
  unbeating _ _ hu _ := by rw [Unbeating, hh]; exact hu
  beats _ b h := by simpa only [BeatsExact, Reactor.beatsOf, Reactor.dueBeats, hd, hh] using h

/-- A write of a descriptor created since `s` that keeps its deadline. -/
theorem updateNew (h : Evolves s s₁) {b : Binding} {d d' : EventableDescriptor}
    (hb : s.nextBinding ≤ b) (hd : s₁.descriptors b = some d)
    (hn : d'.nextHeartbeat = d.nextHeartbeat) :
    Evolves s { s₁ with descriptors := Function.update s₁.descriptors b (some d') } where
  nextBinding_le := h.nextBinding_le
  escalates b' hb' d₁ hd₁ := by
    have hne : b' ≠ b := Nat.ne_of_lt (Nat.lt_of_lt_of_le hb' hb)
    simp only [Function.update_noteq hne] at hd₁
    exact h.escalates b' hb' d₁ hd₁
  fresh hf b' hb' := by
    have hne : b' ≠ b := by
      rintro rfl
      simp [h.fresh hf b' hb'] at hd
    simp only [Function.update_noteq hne]
    exact h.fresh hf b' hb'
  unbeating := h.unbeating
  beats hf b' hb' := by
    unfold BeatsExact
    rw [dueBeats_update hd hn]
    exact h.beats hf b' hb'

/-- The binding `b` is forgotten once no heartbeat entry names it. -/
theorem forget (h : Evolves s s₁) {b : Binding} (hu : Fresh s → BeatsExact s b → Unbeating b s₁) :
    Evolves s { s₁ with descriptors := Function.update s₁.descriptors b none } where
  nextBinding_le := h.nextBinding_le
  escalates b' hb' d' hd' := by
    have hne : b' ≠ b := by
      rintro rfl
      simp at hd'
    simp only [Function.update_noteq hne] at hd'
    exact h.escalates b' hb' d' hd'
  fresh hf b' hb' := by
    by_cases hne : b' = b
    · subst hne
      simp
    · simp only [Function.update_noteq hne]
      exact h.fresh hf b' hb'
  unbeating := h.unbeating
  beats hf b' hb' := by
    have h₁ := h.beats hf b' hb'
    by_cases hne : b' = b
    · subst hne
      show s₁.beatsOf b' = _
      simp [Reactor.dueBeats, unbeating_iff.1 (hu hf hb')]
    · simpa only [BeatsExact, Reactor.beatsOf, Reactor.dueBeats, Function.update_noteq hne]
        using h₁

end Evolves

/-! ## The primitive steps -/

section Primitives

theorem evolves_modify {f : Reactor → Reactor} (hd : ∀ s, (f s).descriptors = s.descriptors)
    (hn : ∀ s, (f s).nextBinding = s.nextBinding) (hh : ∀ s, (f s).heartbeats = s.heartbeats) :
    Guarantee Evolves (modify f : EM Unit) := fun s => .of_eq (hd s) (hn s) (hh s)

theorem evolves_emit (e : TraceEntry) : Guarantee Evolves (emit e) :=
  evolves_modify (fun _ => rfl) (fun _ => rfl) fun _ => rfl

theorem evolves_callback (b : Binding) (kind : EventKind) (data : List Byte) (value : Int) :
    Guarantee Evolves (callback b kind data value) :=
  evolves_modify (fun _ => rfl) (fun _ => rfl) fun _ => rfl

theorem evolves_malloc : Guarantee Evolves malloc := fun _ => .of_eq rfl rfl rfl

/-- A write of one descriptor that escalates it and keeps its deadline. -/
theorem Evolves.update {s : Reactor} {b : Binding} {d d' : EventableDescriptor}
    (hd : s.descriptors b = some d) (h : Write d d') :
    Evolves s { s with descriptors := Function.update s.descriptors b (some d') } := by
  refine ⟨le_rfl, fun b' _ d₁ hd₁ => ?_, fun hfresh b' hb' => ?_, fun _ _ hu _ => hu,
    fun _ b' hb' => ?_⟩
  · by_cases hb : b' = b
    · subst hb
      simp only [Function.update_same, Option.some.injEq] at hd₁
      exact ⟨d, hd, hd₁ ▸ h.escalates⟩
    · simp only [Function.update_noteq hb] at hd₁
      exact ⟨d₁, hd₁, .refl d₁⟩
  · have hne : b' ≠ b := by
      rintro rfl
      simp [hfresh b' hb'] at hd
    simp only [Function.update_noteq hne]
    exact hfresh b' hb'
  · unfold BeatsExact
    rw [dueBeats_update hd h.nextHeartbeat]
    exact hb'

theorem evolves_modifyDescriptor (b : Binding) {f : EventableDescriptor → EventableDescriptor}
    (hf : ∀ d, Write d (f d)) : Guarantee Evolves (modifyDescriptor b f) := by
  intro s
  simp only [wp_modifyDescriptor]
  exact fun d hd => .update hd (hf d)

theorem evolves_modifyConnection (b : Binding) {f : ConnectionDescriptor → ConnectionDescriptor}
    (hf : ∀ c, (f c).outboundDataSize ≤ c.outboundDataSize) :
    Guarantee Evolves (modifyConnection b f) :=
  evolves_modifyDescriptor b fun _ => .mapConnection hf

theorem evolves_modifyDatagram (b : Binding) {f : DatagramDescriptor → DatagramDescriptor}
    (hf : ∀ g, (f g).outboundDataSize ≤ g.outboundDataSize) :
    Guarantee Evolves (modifyDatagram b f) :=
  evolves_modifyDescriptor b fun _ => .mapDatagram hf

/-- A new descriptor takes the next binding, with no deadline, no proxy link, and the queue
unchanged. -/
theorem newDescriptor_spec {s : Reactor} (sd : Int) (sub : Subclass) (events : UInt32)
    (callbackUnbind : Bool) :
    wp (newDescriptor sd sub events callbackUnbind)
      (fun b s' => b = s.nextBinding ∧ s'.heartbeats = s.heartbeats ∧ ∃ d,
        s'.descriptors b = some d ∧ d.nextHeartbeat = 0 ∧ d.bCallbackUnbind = callbackUnbind ∧
          d.proxiedFrom = none ∧ d.proxyTarget = none)
      (fun _ => True) s := by
  simp only [newDescriptor, wp_bind, wp_ite, wp_throw_runtimeError, wp_getCurrentLoopTime, wp_get,
    wp_set, wp_pure]
  exact ⟨fun _ => trivial, fun _ => ⟨trivial, trivial, _, Function.update_same _ _ _, rfl, rfl, rfl, rfl⟩⟩

theorem evolves_newDescriptor (sd : Int) (sub : Subclass) (events : UInt32)
    (callbackUnbind : Bool) : Guarantee Evolves (newDescriptor sd sub events callbackUnbind) := by
  intro s
  simp only [newDescriptor, wp_bind, wp_ite, wp_throw_runtimeError, wp_getCurrentLoopTime, wp_get,
    wp_set, wp_pure]
  refine ⟨fun _ => .refl s, fun _ => ⟨Nat.le_succ _, fun b hb d' hd' => ?_, fun hfresh b hb => ?_,
    fun _ _ hu _ => hu, fun hfresh b hb => ?_⟩⟩
  · dsimp only at hd'
    rw [Function.update_noteq hb.ne] at hd'
    exact ⟨d', hd', .refl d'⟩
  · dsimp only at hb ⊢
    rw [Function.update_noteq (Nat.lt_of_succ_le hb).ne']
    exact hfresh b (Nat.le_of_succ_le hb)
  · by_cases h : b = s.nextBinding
    · subst h
      have hnone := hfresh _ le_rfl
      simp only [BeatsExact, Reactor.dueBeats, hnone] at hb
      simp [BeatsExact, Reactor.dueBeats, Reactor.beatsOf, ← hb]
    · simpa only [BeatsExact, Reactor.beatsOf, Reactor.dueBeats, Function.update_noteq h] using hb

end Primitives

/-! ## The base class -/

namespace EventableDescriptor

theorem evolves_close (self : Binding) : Guarantee Evolves (close self) := by
  simp only [close, pure_bind]
  refine (preserves_descriptor _).guarantee.bind fun d => .ite ?_ (guarantee_pure _)
  exact (evolves_emit _).bind fun _ => .ite ((evolves_emit _).bind fun _ =>
    (evolves_emit _).bind fun _ => evolves_modifyDescriptor _ fun _ => .invalidate)
    (evolves_modifyDescriptor _ fun _ => .invalidate)

theorem evolves_scheduleClose (self : Binding) (afterWriting : Bool) :
    Guarantee Evolves (scheduleClose self afterWriting) := by
  unfold scheduleClose
  exact (preserves_descriptor _).guarantee.bind fun d =>
    .ite (.ite (evolves_modifyDescriptor _ fun _ => .closeNow_set) (guarantee_pure _))
      ((evolves_modify (fun _ => by rfl) (fun _ => by rfl) fun _ => by rfl).bind fun _ =>
        .ite (evolves_modifyDescriptor _ fun _ => .closeAfterWriting_set)
          (evolves_modifyDescriptor _ fun _ => .closeNow_set))

/-- The deadline `GetNextHeartbeat` sets at real time `now`: none for a descriptor about to be
deleted or without a timeout. -/
def nextDeadline (d : EventableDescriptor) (now : UInt64) : UInt64 :=
  if d.shouldDelete then 0 else if d.timeTilNext = 0 then 0 else d.timeTilNext + now

end EventableDescriptor

/-- `GetNextHeartbeat` clears the entry of the old deadline and stores and returns the deadline
it sets. -/
theorem getNextHeartbeat_spec {s : Reactor} {self : Binding} {d : EventableDescriptor}
    (hd : s.descriptors self = some d) :
    wp (EventableDescriptor.getNextHeartbeat self) (fun t s' => t = d.nextDeadline s.realTime ∧
      s' = { s with
        descriptors := Function.update s.descriptors self
          (some { d with nextHeartbeat := d.nextDeadline s.realTime })
        heartbeats := dropBeat d self s.heartbeats })
      (fun _ => False) s := by
  simp only [EventableDescriptor.getNextHeartbeat, wp_bind, wp_descriptor, hd, Option.some.injEq,
    forall_eq', pure_bind]
  rw [wp_when]
  -- both branches of the first `if` reach the reactor with the old entry cleared
  refine wp_mono (Q := fun _ s' => s' = { s with heartbeats := dropBeat d self s.heartbeats })
    (by by_cases h0 : d.nextHeartbeat = 0 <;> simp [h0, clearHeartbeat, dropBeat])
    (fun _ _ h => ?_) fun _ h => h
  subst h
  have hdel : ({ d with nextHeartbeat := 0 } : EventableDescriptor).shouldDelete =
    d.shouldDelete := rfl
  have htil : ({ d with nextHeartbeat := 0 } : EventableDescriptor).timeTilNext =
    d.timeTilNext := rfl
  simp only [wp_bind, wp_modifyDescriptor, wp_descriptor, wp_ite, wp_pure, wp_getRealTime, hd,
    Function.update_same, Function.update_idem, Option.some.injEq, forall_eq', hdel, htil,
    EventableDescriptor.nextDeadline]
  cases hdl : d.shouldDelete <;> by_cases ht : d.timeTilNext = 0 <;> simp [hdl, ht]

/-- `QueueHeartbeat` replaces the entry of the old deadline by one for the deadline
`GetNextHeartbeat` sets. -/
theorem queueHeartbeat_spec {s : Reactor} {self : Binding} {d : EventableDescriptor}
    (hd : s.descriptors self = some d) :
    wp (queueHeartbeat self) (fun _ s' =>
      s'.descriptors = Function.update s.descriptors self
        (some { d with nextHeartbeat := d.nextDeadline s.realTime }) ∧
      s'.nextBinding = s.nextBinding ∧
      s'.heartbeats = dropBeat d self s.heartbeats ++
        (if d.nextDeadline s.realTime ≠ 0 then [(d.nextDeadline s.realTime, self)] else []))
      (fun _ => False) s := by
  rw [queueHeartbeat, wp_bind]
  refine wp_mono (getNextHeartbeat_spec hd) (fun _ _ ⟨ht, hs⟩ => ?_) fun _ h => h
  subst ht hs
  by_cases h0 : d.nextDeadline s.realTime = 0 <;> simp [h0]

section QueueHeartbeat

variable {s s' : Reactor} {self : Binding} {d : EventableDescriptor}

/-- After `QueueHeartbeat`, a binding without entries that is about to be deleted still has
none: a doomed descriptor's next deadline is 0. -/
theorem unbeating_queueHeartbeat (hd : s.descriptors self = some d)
    (hh : s'.heartbeats = dropBeat d self s.heartbeats ++
      (if d.nextDeadline s.realTime ≠ 0 then [(d.nextDeadline s.realTime, self)] else []))
    {b : Binding} (hu : Unbeating b s) (hbd : Doomed b s) : Unbeating b s' := by
  intro e he
  rw [hh] at he
  rcases List.mem_append.1 he with he | he
  · unfold dropBeat at he
    split_ifs at he
    · exact hu e (List.mem_of_mem_erase he)
    · exact hu e he
  · by_cases h : b = self
    · subst h
      simp [EventableDescriptor.nextDeadline, hbd d hd] at he
    · split_ifs at he
      · rw [List.mem_singleton] at he
        subst he
        exact Ne.symm h
      · simp at he

/-- After `QueueHeartbeat`, the queue holds the new deadline of `self` in place of the old one,
and the entries of every other binding. -/
theorem beatsExact_queueHeartbeat (hd : s.descriptors self = some d)
    (hds : s'.descriptors = Function.update s.descriptors self
      (some { d with nextHeartbeat := d.nextDeadline s.realTime }))
    (hh : s'.heartbeats = dropBeat d self s.heartbeats ++
      (if d.nextDeadline s.realTime ≠ 0 then [(d.nextDeadline s.realTime, self)] else []))
    {b : Binding} (hb : BeatsExact s b) : BeatsExact s' b := by
  unfold BeatsExact at hb ⊢
  have hcleared : (dropBeat d self s.heartbeats).filter (fun e => e.2 == b) =
      if b = self then [] else s.dueBeats b := by
    show Reactor.beatsOf { s with heartbeats := dropBeat d self s.heartbeats } b = _
    rw [beatsOf_dropBeat, hb]
    split_ifs with h
    · subst h
      by_cases h0 : d.nextHeartbeat = 0 <;> simp [dropBeat, Reactor.dueBeats, hd, h0]
    · rfl
  rw [Reactor.beatsOf, hh, List.filter_append, hcleared]
  unfold Reactor.dueBeats
  rw [hds]
  by_cases h : b = self
  · subst h
    by_cases hv : d.nextDeadline s.realTime = 0 <;> simp [hv]
  · rw [if_neg h, Function.update_noteq h]
    split_ifs <;> simp [Ne.symm h]

end QueueHeartbeat

/-- `QueueHeartbeat` keeps the queue exact, and queues nothing for a descriptor about to be
deleted. -/
theorem evolves_queueHeartbeat (self : Binding) : Guarantee Evolves (queueHeartbeat self) := by
  intro s
  by_cases hlive : ∃ d, s.descriptors self = some d
  swap
  · simp only [queueHeartbeat, EventableDescriptor.getNextHeartbeat, wp_bind, wp_descriptor]
    exact fun d hd => absurd ⟨d, hd⟩ hlive
  obtain ⟨d, hd⟩ := hlive
  refine wp_mono (queueHeartbeat_spec hd) (fun _ s' ⟨hds, hn, hh⟩ => ?_) fun _ h => h.elim
  refine ⟨hn.ge, fun b hb d' hd' => ?_, fun hf b hb => ?_,
    fun b _ hu hbd => unbeating_queueHeartbeat hd hh hu hbd,
    fun _ b hb => beatsExact_queueHeartbeat hd hds hh hb⟩
  · by_cases h : b = self
    · subst h
      rw [hds, Function.update_same, Option.some.injEq] at hd'
      exact ⟨d, hd, hd' ▸ .of_closeState rfl⟩
    · rw [hds, Function.update_noteq h] at hd'
      exact ⟨d', hd', .refl d'⟩
  · have hne : b ≠ self := by
      rintro rfl
      simp [hf b (hn ▸ hb)] at hd
    rw [hds, Function.update_noteq hne]
    exact hf b (hn ▸ hb)

namespace EventableDescriptor

theorem evolves_setPendingConnectTimeout (self : Binding) (value : UInt64) :
    Guarantee Evolves (setPendingConnectTimeout self value) := by
  unfold setPendingConnectTimeout
  exact .ite ((evolves_modifyDescriptor _ fun _ => .of_view (by rfl)).bind fun _ =>
    (evolves_queueHeartbeat _).bind fun _ => guarantee_pure _) (guarantee_pure _)

theorem evolves_setProxiedFrom (self : Binding) (src : Option Binding) (bufsize : Nat) :
    Guarantee Evolves (setProxiedFrom self src bufsize) := by
  unfold setProxiedFrom
  exact (preserves_descriptor _).guarantee.bind fun _ =>
    .when (guarantee_throw_runtimeError _) (evolves_modifyDescriptor _ fun _ => .of_view (by rfl))

theorem evolves_stopProxy (self : Binding) : Guarantee Evolves (stopProxy self) := by
  unfold stopProxy
  refine (preserves_descriptor _).guarantee.bind fun d => ?_
  split
  · exact (evolves_setProxiedFrom _ _ _).bind fun _ =>
      evolves_modifyDescriptor _ fun _ => .of_view (by rfl)
  · exact guarantee_pure _

theorem evolves_startProxy (self target : Binding) (bufsize length : Nat) :
    Guarantee Evolves (startProxy self target bufsize length) := by
  unfold startProxy
  refine preserves_get.guarantee.bind fun r => ?_
  split
  · exact (evolves_stopProxy _).bind fun _ =>
      (evolves_modifyDescriptor _ fun _ => .of_view (by rfl)).bind fun _ =>
        evolves_setProxiedFrom _ _ _
  · exact guarantee_throw_runtimeError _

end EventableDescriptor

/-! ## Poll interest -/

namespace ConnectionDescriptor

theorem evolves_updateEvents (self : Binding) (read write : Bool) :
    Guarantee Evolves (updateEvents self read write) := by
  simp only [updateEvents, pure_bind]
  exact (preserves_descriptor _).guarantee.bind fun _ => .ite (guarantee_pure _) <|
    .ite (guarantee_pure _) <| (preserves_connection _).guarantee.bind fun _ =>
      (evolves_modifyDescriptor _ fun _ => .of_view (by rfl)).bind fun _ =>
        .ite (evolves_emit _) (guarantee_pure _)

theorem evolves_setConnectPending (self : Binding) (f : Bool) :
    Guarantee Evolves (setConnectPending self f) :=
  (evolves_modifyConnection _ fun _ => by exact Int.le_refl _).bind fun _ =>
    (evolves_queueHeartbeat _).bind fun _ => evolves_updateEvents _ _ _

theorem evolves_setAttached (self : Binding) (state : Bool) :
    Guarantee Evolves (setAttached self state) :=
  evolves_modifyDescriptor _ fun _ => .of_view (by rfl)

theorem evolves_setWatchOnly (self : Binding) (watching : Bool) :
    Guarantee Evolves (setWatchOnly self watching) :=
  (evolves_modifyDescriptor _ fun _ => .of_view (by rfl)).bind fun _ =>
    evolves_updateEvents _ _ _

theorem evolves_setNotifyReadable (self : Binding) (readable : Bool) :
    Guarantee Evolves (setNotifyReadable self readable) := by
  unfold setNotifyReadable
  exact (preserves_descriptor _).guarantee.bind fun _ => .when (guarantee_throw_runtimeError _) <|
    (evolves_modifyConnection _ fun _ => by exact Int.le_refl _).bind fun _ => evolves_updateEvents _ _ _

theorem evolves_setNotifyWritable (self : Binding) (writable : Bool) :
    Guarantee Evolves (setNotifyWritable self writable) := by
  unfold setNotifyWritable
  exact (preserves_descriptor _).guarantee.bind fun _ => .when (guarantee_throw_runtimeError _) <|
    (evolves_modifyConnection _ fun _ => by exact Int.le_refl _).bind fun _ => evolves_updateEvents _ _ _

theorem evolves_pause (self : Binding) : Guarantee Evolves (pause self) := by
  unfold pause
  exact (preserves_descriptor _).guarantee.bind fun _ => .when (guarantee_throw_runtimeError _) <|
    (evolves_modifyDescriptor _ fun _ => .of_view (by rfl)).bind fun _ =>
      (evolves_updateEvents _ _ _).bind fun _ => guarantee_pure _

theorem evolves_resume (self : Binding) : Guarantee Evolves (resume self) := by
  unfold resume
  exact (preserves_descriptor _).guarantee.bind fun _ => .when (guarantee_throw_runtimeError _) <|
    (evolves_modifyDescriptor _ fun _ => .of_view (by rfl)).bind fun _ =>
      (evolves_updateEvents _ _ _).bind fun _ => guarantee_pure _

end ConnectionDescriptor

namespace Virtual

theorem evolves_pause (self : Binding) : Guarantee Evolves (pause self) := by
  unfold pause EventableDescriptor.pause
  refine (preserves_descriptor _).guarantee.bind fun d => ?_
  split
  · exact ConnectionDescriptor.evolves_pause _
  · exact (evolves_modifyDescriptor _ fun _ => .of_view (by rfl)).bind fun _ =>
      guarantee_pure _

theorem evolves_resume (self : Binding) : Guarantee Evolves (resume self) := by
  unfold resume EventableDescriptor.resume
  refine (preserves_descriptor _).guarantee.bind fun d => ?_
  split
  · exact ConnectionDescriptor.evolves_resume _
  · exact (evolves_modifyDescriptor _ fun _ => .of_view (by rfl)).bind fun _ =>
      guarantee_pure _

end Virtual

/-! ## Queueing outbound data -/

namespace ConnectionDescriptor

theorem evolves_sslCall {α : Type} (self : Binding) (query : SslBox → α × SslBox) :
    Guarantee Evolves (sslCall self query) := by
  unfold sslCall
  refine (preserves_connection _).guarantee.bind fun c => ?_
  split
  · exact (evolves_modifyConnection _ fun _ => by exact Int.le_refl _).bind fun _ =>
      guarantee_pure _
  · exact guarantee_throw_assertionFailed _

theorem evolves_scheduleClose (self : Binding) (afterWriting : Bool) :
    Guarantee Evolves (scheduleClose self afterWriting) := by
  unfold scheduleClose
  exact (preserves_descriptor _).guarantee.bind fun _ => .when (guarantee_throw_runtimeError _) <|
    EventableDescriptor.evolves_scheduleClose _ _

/-- The one stream enqueue: it grows the queue only when no close is scheduled. -/
theorem evolves_sendRawOutboundData (self : Binding) (data : OutboundData) :
    Guarantee Evolves (sendRawOutboundData self data) := by
  intro s
  simp only [sendRawOutboundData, wp_bind, wp_descriptor]
  intro d hd
  by_cases hs : d.isCloseScheduled = true
  · simpa [hs] using Evolves.refl s
  by_cases hlen : data.length = 0
  · simpa [hs, hlen] using Evolves.refl s
  cases data with
  | null => simpa [hs, hlen] using Evolves.refl s
  | bytes bytes =>
    have hm : Evolves s { s with mallocResults := s.mallocResults.tail } := .of_eq rfl rfl rfl
    simp only [hs, hlen, Bool.false_eq_true, if_false, pure_bind, wp_bind, wp_malloc]
    split_ifs
    · exact hm
    · simp only [modifyConnection, wp_bind, wp_modifyDescriptor, wp_pure]
      intro d' hd'
      obtain rfl : d' = d := Option.some.inj (hd'.symm.trans hd)
      refine (evolves_updateEvents self false true).wp_of_rel ?_
      exact hm.trans (.update hd' ⟨⟨id, id, id, fun h => absurd h hs⟩, rfl⟩)

theorem evolves_drainCiphertext (self : Binding) :
    ∀ fuel, Guarantee Evolves (drainCiphertext self fuel)
  | 0 => guarantee_pure _
  | fuel + 1 => by
    simp only [drainCiphertext]
    exact (evolves_sslCall _ _).bind fun _ => .ite (guarantee_pure _) <|
      (evolves_sslCall _ _).bind fun _ => .when (guarantee_throw_assertionFailed _) <|
        (evolves_sendRawOutboundData _ _).discard.bind fun _ =>
          (evolves_drainCiphertext self fuel).discard.bind fun _ => guarantee_pure _

theorem evolves_pumpPlaintext (self : Binding) :
    ∀ fuel, Guarantee Evolves (pumpPlaintext self fuel)
  | 0 => guarantee_pure _
  | fuel + 1 => by
    simp only [pumpPlaintext]
    exact (evolves_sslCall _ _).bind fun _ =>
      .ite ((evolves_pumpPlaintext self fuel).discard.bind fun _ => guarantee_pure _) <|
        .when (evolves_scheduleClose _ _) (guarantee_pure _)

theorem evolves_dispatchCiphertextLoop (self : Binding) (fuel : Nat) :
    ∀ passes, Guarantee Evolves (dispatchCiphertextLoop self fuel passes)
  | 0 => guarantee_pure _
  | passes + 1 => by
    simp only [dispatchCiphertextLoop]
    exact (evolves_drainCiphertext _ _).bind fun _ => (evolves_pumpPlaintext _ _).bind fun _ =>
      .ite (evolves_dispatchCiphertextLoop self fuel passes) (guarantee_pure _)

theorem evolves_dispatchCiphertext (self : Binding) :
    Guarantee Evolves (dispatchCiphertext self) := by
  unfold dispatchCiphertext
  refine (preserves_connection _).guarantee.bind fun c => ?_
  split
  · exact evolves_dispatchCiphertextLoop _ _ _
  · exact guarantee_throw_assertionFailed _

theorem evolves_putPlaintextPieces (self : Binding) (data : OutboundData) :
    Guarantee Evolves (putPlaintextPieces self data) := by
  unfold putPlaintextPieces
  lift_lets
  intro _ col jp
  have hjp : ∀ y, Guarantee Evolves (jp y) := fun _ => (evolves_sslCall _ _).bind fun _ =>
    .ite ((evolves_scheduleClose _ _).bind fun _ => guarantee_pure _)
      ((evolves_dispatchCiphertext _).bind fun _ => guarantee_pure _)
  exact (Guarantee.forIn col PUnit.unit fun _ _ => .ite
    ((guarantee_throw_undefinedBehaviour _).bind hjp) ((guarantee_pure _).bind hjp)).bind fun _ =>
      guarantee_pure _

theorem evolves_sendOutboundData (self : Binding) (data : OutboundData) :
    Guarantee Evolves (sendOutboundData self data) := by
  unfold sendOutboundData
  refine (preserves_descriptor _).guarantee.bind fun d => .when (guarantee_throw_runtimeError _) ?_
  lift_lets
  intro raw one tls
  have hraw : ∀ y, Guarantee Evolves (raw y) := fun _ => evolves_sendRawOutboundData _ _
  have hone : ∀ y, Guarantee Evolves (one y) := fun _ => guarantee_pure _
  have htls : ∀ y, Guarantee Evolves (tls y) := fun _ =>
    (preserves_connection _).guarantee.bind fun _ => .ite
      (.ite ((evolves_putPlaintextPieces _ _).bind hone) ((guarantee_pure _).bind hone))
      ((guarantee_pure _).bind hraw)
  split
  · exact .ite ((Virtual.evolves_pause _).discard.bind htls) ((guarantee_pure _).bind htls)
  · exact (guarantee_pure _).bind htls

theorem evolves_startTls (self : Binding) (box : SslBox) :
    Guarantee Evolves (startTls self box) := by
  unfold startTls
  exact (preserves_connection _).guarantee.bind fun _ => .when (guarantee_throw_runtimeError _) <|
    (evolves_modifyConnection _ fun _ => by exact Int.le_refl _).bind fun _ =>
      evolves_dispatchCiphertext _

theorem evolves_setTlsParms (self : Binding) (parms : TlsParms) :
    Guarantee Evolves (setTlsParms self parms) := by
  unfold setTlsParms
  exact (preserves_connection _).guarantee.bind fun _ => .when (guarantee_throw_runtimeError _) <|
    evolves_modifyConnection _ fun _ => by exact Int.le_refl _

end ConnectionDescriptor

namespace DatagramDescriptor

/-- The datagram enqueue grows the queue; its callers check first that no close is
scheduled. -/
theorem evolves_queueDatagram {s₀ : Reactor} (self : Binding) (data : OutboundData)
    (dest : SockAddr) :
    Triple (fun s => Evolves s₀ s ∧ ∀ d, s.descriptors self = some d → d.isCloseScheduled = false)
      (queueDatagram self data dest) (fun _ => Evolves s₀) (Evolves s₀) := by
  rintro s ⟨h, hopen⟩
  have hm : Evolves s { s with mallocResults := s.mallocResults.tail } := .of_eq rfl rfl rfl
  simp only [queueDatagram, pure_bind, wp_bind]
  split_ifs
  · exact h
  simp only [wp_bind, wp_malloc]
  split_ifs
  · exact h.trans hm
  · rw [wp_bind]
    simp only [modifyDatagram, wp_modifyDescriptor]
    intro d hd
    refine ((evolves_modifyDescriptor _ fun _ => .of_view (by rfl)).bind fun _ =>
      (evolves_emit _).bind fun _ => guarantee_pure _).wp_of_rel ?_
    exact h.trans (hm.trans (.update hd ⟨⟨id, id, id, fun hs => absurd hs (by simp [hopen d hd])⟩, rfl⟩))

theorem evolves_sendOutboundData (self : Binding) (data : OutboundData) :
    Guarantee Evolves (sendOutboundData self data) := by
  intro s
  simp only [sendOutboundData, pure_bind, wp_bind, wp_descriptor, wp_datagram]
  intro d hd
  split_ifs with hs
  · exact Evolves.refl s
  · simp only [wp_bind, wp_datagram]
    exact fun _ _ _ _ => evolves_queueDatagram self data _ s
      ⟨.refl s, fun d' hd' => by
        obtain rfl : d = d' := Option.some.inj (hd.symm.trans hd')
        simpa using hs⟩

theorem evolves_sendOutboundDatagram (self : Binding) (data : OutboundData)
    (address : Option String) (port : Int) (resolved : Option SockAddr) :
    Guarantee Evolves (sendOutboundDatagram self data address port resolved) := by
  intro s
  simp only [sendOutboundDatagram, pure_bind, wp_bind, wp_descriptor]
  intro d hd
  split_ifs with hs
  · exact Evolves.refl s
  · exact Evolves.refl s
  · cases resolved with
    | none => exact Evolves.refl s
    | some dest =>
      refine evolves_queueDatagram self data dest s ⟨.refl s, fun d' hd' => ?_⟩
      obtain rfl : d = d' := Option.some.inj (hd.symm.trans hd')
      simpa using hs

end DatagramDescriptor

namespace Virtual

theorem evolves_sendOutboundData (self : Binding) (data : OutboundData) :
    Guarantee Evolves (sendOutboundData self data) := by
  unfold sendOutboundData EventableDescriptor.sendOutboundData
  refine (preserves_descriptor _).guarantee.bind fun d => ?_
  split
  · exact ConnectionDescriptor.evolves_sendOutboundData _ _
  · exact DatagramDescriptor.evolves_sendOutboundData _ _
  · exact guarantee_pure _

end Virtual

/-! ## The public operations and the application -/

theorem ConnectionDescriptor.evolves_setCommInactivityTimeout (self : Binding) (value : UInt64) :
    Guarantee Evolves (ConnectionDescriptor.setCommInactivityTimeout self value) :=
  (evolves_modifyDescriptor _ fun _ => .of_view (by rfl)).bind fun _ =>
    (evolves_queueHeartbeat _).bind fun _ => guarantee_pure _

theorem DatagramDescriptor.evolves_setCommInactivityTimeout (self : Binding) (value : UInt64) :
    Guarantee Evolves (DatagramDescriptor.setCommInactivityTimeout self value) := by
  unfold DatagramDescriptor.setCommInactivityTimeout
  exact .ite ((evolves_modifyDescriptor _ fun _ => .of_view (by rfl)).bind fun _ =>
    (evolves_queueHeartbeat _).bind fun _ => guarantee_pure _) (guarantee_pure _)

theorem AcceptorDescriptor.evolves_stopAcceptor (binding : Binding) :
    Guarantee Evolves (AcceptorDescriptor.stopAcceptor binding) := by
  unfold AcceptorDescriptor.stopAcceptor
  refine preserves_get.guarantee.bind fun r => ?_
  split
  · exact .ite (EventableDescriptor.evolves_scheduleClose _ _) (guarantee_throw_runtimeError _)
  · exact guarantee_throw_runtimeError _

namespace Virtual

theorem evolves_scheduleClose (self : Binding) (afterWriting : Bool) :
    Guarantee Evolves (scheduleClose self afterWriting) := by
  unfold scheduleClose
  refine (preserves_descriptor _).guarantee.bind fun d => ?_
  split
  · exact ConnectionDescriptor.evolves_scheduleClose _ _
  · exact EventableDescriptor.evolves_scheduleClose _ _

theorem evolves_setCommInactivityTimeout (self : Binding) (value : UInt64) :
    Guarantee Evolves (setCommInactivityTimeout self value) := by
  unfold setCommInactivityTimeout
  refine (preserves_descriptor _).guarantee.bind fun d => ?_
  split
  · exact ConnectionDescriptor.evolves_setCommInactivityTimeout _ _
  · exact DatagramDescriptor.evolves_setCommInactivityTimeout _ _
  · exact guarantee_pure _

end Virtual

theorem evolves_detachFd (b : Binding) : Guarantee Evolves (detachFd b) :=
  (preserves_descriptor _).guarantee.bind fun _ =>
    (evolves_modifyDescriptor _ fun _ => .invalidate).bind fun _ => guarantee_pure _

theorem evolves_onDescriptor (b : Binding) {x : EM Unit} (hx : Guarantee Evolves x) :
    Guarantee Evolves (onDescriptor b x) := by
  unfold onDescriptor
  refine preserves_get.guarantee.bind fun r => ?_
  split
  · exact hx
  · exact guarantee_throw_runtimeError _

theorem evolves_onClass (b : Binding) (ofClass : Subclass → Bool) {x : EM Unit}
    (hx : Guarantee Evolves x) : Guarantee Evolves (onClass b ofClass x) := by
  unfold onClass
  refine preserves_get.guarantee.bind fun r => ?_
  split
  · exact .ite hx (guarantee_throw_runtimeError _)
  · exact guarantee_throw_runtimeError _

theorem evolves_runApiCall (c : ApiCall) : Guarantee Evolves (runApiCall c) := by
  cases c with
  | scheduleClose b afterWriting => exact evolves_onDescriptor _ (Virtual.evolves_scheduleClose _ _)
  | sendOutboundData b data =>
    exact evolves_onDescriptor _ (Virtual.evolves_sendOutboundData _ _).discard
  | sendOutboundDatagram b data address port resolved =>
    exact evolves_onClass _ _ (DatagramDescriptor.evolves_sendOutboundDatagram _ _ _ _ _).discard
  | startProxy b target bufsize length =>
    exact evolves_onDescriptor _ (EventableDescriptor.evolves_startProxy _ _ _ _)
  | stopProxy b => exact evolves_onDescriptor _ (EventableDescriptor.evolves_stopProxy _)
  | pause b => exact evolves_onDescriptor _ (Virtual.evolves_pause _).discard
  | resume b => exact evolves_onDescriptor _ (Virtual.evolves_resume _).discard
  | setNotifyReadable b readable =>
    exact evolves_onClass _ _ (ConnectionDescriptor.evolves_setNotifyReadable _ _)
  | setNotifyWritable b writable =>
    exact evolves_onClass _ _ (ConnectionDescriptor.evolves_setNotifyWritable _ _)
  | setCommInactivityTimeout b value =>
    exact evolves_onDescriptor _ (Virtual.evolves_setCommInactivityTimeout _ _).discard
  | setPendingConnectTimeout b value =>
    exact evolves_onDescriptor _ (EventableDescriptor.evolves_setPendingConnectTimeout _ _).discard
  | startTls b box => exact evolves_onClass _ _ (ConnectionDescriptor.evolves_startTls _ _)
  | setTlsParms b parms => exact evolves_onClass _ _ (ConnectionDescriptor.evolves_setTlsParms _ _)
  | stopAcceptor b => exact AcceptorDescriptor.evolves_stopAcceptor _
  | detach b => exact evolves_onDescriptor _ (evolves_detachFd _).discard

theorem evolves_runCalls : ∀ calls, Guarantee Evolves (runCalls calls)
  | [] => guarantee_pure _
  | c :: calls => (evolves_runApiCall c).rescue.bind fun _ => evolves_runCalls calls

theorem evolves_invokeCallback (app : App) (b : Binding) (kind : EventKind) (data : List Byte)
    (value : Int) : Guarantee Evolves (invokeCallback app b kind data value) :=
  (evolves_callback _ _ _ _).bind fun _ => preserves_get.guarantee.bind fun _ =>
    evolves_runCalls _

/-! ## The poll-driven methods of a connection -/

namespace EventableDescriptor

theorem evolves_genericInboundDispatch (app : App) (self : Binding) (buf : List Byte) :
    Guarantee Evolves (genericInboundDispatch app self buf) := by
  simp only [genericInboundDispatch]
  refine (preserves_descriptor _).guarantee.bind fun d => ?_
  split
  · exact .ite ((Virtual.evolves_sendOutboundData _ _).discard.bind fun _ =>
      (evolves_modifyDescriptor _ fun _ => .of_view (by rfl)).bind fun _ =>
        (preserves_descriptor _).guarantee.bind fun _ => .ite ((evolves_stopProxy _).bind fun _ =>
          (evolves_invokeCallback _ _ _ _ _).bind fun _ =>
            .ite (evolves_invokeCallback _ _ _ _ _) (guarantee_pure _)) (guarantee_pure _))
      ((Virtual.evolves_sendOutboundData _ _).discard.bind fun _ =>
        evolves_modifyDescriptor _ fun _ => .of_view (by rfl))
  · exact evolves_invokeCallback _ _ _ _ _

end EventableDescriptor

namespace ConnectionDescriptor

theorem evolves_checkHandshakeStatus (app : App) (self : Binding) :
    Guarantee Evolves (checkHandshakeStatus app self) := by
  unfold checkHandshakeStatus
  exact (preserves_connection _).guarantee.bind fun _ => .ite ((evolves_sslCall _ _).bind fun _ =>
    .ite ((evolves_modifyConnection _ fun _ => by exact Int.le_refl _).bind fun _ =>
      evolves_invokeCallback _ _ _ _ _) (guarantee_pure _)) (guarantee_pure _)

theorem evolves_plaintextLoop (app : App) (self : Binding) :
    ∀ fuel, Guarantee Evolves (plaintextLoop app self fuel)
  | 0 => guarantee_pure _
  | fuel + 1 => by
    simp only [plaintextLoop]
    exact (evolves_sslCall _ _).bind fun ⟨_, _⟩ => .ite ((evolves_checkHandshakeStatus _ _).bind
      fun _ => (EventableDescriptor.evolves_genericInboundDispatch _ _ _).bind fun _ =>
        evolves_plaintextLoop app self fuel) (guarantee_pure _)

theorem evolves_dispatchInboundData (app : App) (self : Binding) (buffer : List Byte) :
    Guarantee Evolves (dispatchInboundData app self buffer) := by
  unfold dispatchInboundData
  refine (preserves_connection _).guarantee.bind fun c => ?_
  split
  · exact (evolves_plaintextLoop _ _ _).bind fun _ => .ite
      ((evolves_modifyDescriptor _ fun _ => .of_view (by rfl)).bind fun _ =>
        (evolves_scheduleClose _ _).bind fun _ => guarantee_pure _)
      ((evolves_checkHandshakeStatus _ _).bind fun _ => evolves_dispatchCiphertext _)
  · exact EventableDescriptor.evolves_genericInboundDispatch _ _ _

theorem evolves_readLoop (app : App) (self : Binding) (sd : Int) :
    ∀ n results total, Guarantee Evolves (readLoop app self sd n results total)
  | 0, _, _ => guarantee_pure _
  | n + 1, results, total => by
    simp only [readLoop]
    refine (evolves_emit _).bind fun _ => ?_
    split
    · exact guarantee_pure _
    · exact (evolves_dispatchInboundData _ _ _).bind fun _ => (preserves_descriptor _).guarantee.bind
        fun _ => .ite (guarantee_pure _) (evolves_readLoop app self sd n _ _)
    · exact .ite ((evolves_modifyDescriptor _ fun _ => .of_view (by rfl)).bind fun _ =>
        (EventableDescriptor.evolves_close _).bind fun _ => guarantee_pure _) (guarantee_pure _)

theorem evolves_read (app : App) (self : Binding) (results : List ReadResult) :
    Guarantee Evolves (read app self results) := by
  simp only [read, pure_bind]
  exact (preserves_descriptor _).guarantee.bind fun _ =>
    .ite ((preserves_connection _).guarantee.bind fun _ => .when (guarantee_throw_assertionFailed _)
      ((evolves_modifyConnection _ fun _ => by exact Int.le_refl _).bind fun _ =>
        guarantee_pure _)) <|
    .ite ((preserves_connection _).guarantee.bind fun _ =>
      .ite ((evolves_invokeCallback _ _ _ _ _).bind fun _ => guarantee_pure _) (guarantee_pure _)) <|
    preserves_getCurrentLoopTime.guarantee.bind fun _ =>
      (evolves_modifyDescriptor _ fun _ => .of_view (by rfl)).bind fun _ =>
        (evolves_readLoop _ _ _ _ _ _).bind fun _ => .ite (evolves_scheduleClose _ _) (guarantee_pure _)

theorem evolves_releaseSource (self : Binding) : Guarantee Evolves (releaseSource self) := by
  unfold releaseSource
  refine (preserves_descriptor _).guarantee.bind fun d => ?_
  split
  · exact .ite ((preserves_descriptor _).guarantee.bind fun _ =>
      .ite (Virtual.evolves_resume _).discard (guarantee_pure _)) (guarantee_pure _)
  · exact guarantee_pure _

theorem evolves_consumeOutbound (build : Build) (self : Binding) (pages : List OutboundPage)
    (buffer : List Byte) (bytesWritten : Nat) (err : Bool) :
    Guarantee Evolves (consumeOutbound build self pages buffer bytesWritten err) := by
  cases build <;> simp only [consumeOutbound]
  · exact .ite (evolves_modifyConnection _ fun _ => by exact Int.le_refl _) (guarantee_pure _)
  · exact .ite (evolves_malloc.bind fun _ => .when (guarantee_throw_runtimeError _)
      (evolves_modifyConnection _ fun _ => by exact Int.le_refl _)) (guarantee_pure _)

theorem evolves_writeOutboundData (build : Build) (self : Binding) (r : SyscallResult) :
    Guarantee Evolves (writeOutboundData build self r) := by
  simp only [writeOutboundData, pure_bind]
  exact (preserves_descriptor _).guarantee.bind fun _ =>
    .ite ((preserves_connection _).guarantee.bind fun _ => .when (guarantee_throw_assertionFailed _)
      (evolves_modifyConnection _ fun _ => by exact Int.le_refl _)) <|
    preserves_getCurrentLoopTime.guarantee.bind fun _ =>
      (evolves_modifyDescriptor _ fun _ => .of_view (by rfl)).bind fun _ =>
        (preserves_connection _).guarantee.bind fun _ =>
          (evolves_modifyConnection _ fun _ => by exact Int.le_refl _).bind fun _ =>
            .when (guarantee_throw_assertionFailed _) <| (evolves_emit _).bind fun _ =>
              (evolves_modifyConnection _ fun _ => by dsimp only; omega).bind fun _ =>
                (evolves_releaseSource _).bind fun _ => (evolves_consumeOutbound _ _ _ _ _ _).bind
                  fun _ => (evolves_updateEvents _ _ _).bind fun _ =>
                    .ite ((evolves_modifyDescriptor _ fun _ => .of_view (by rfl)).bind fun _ =>
                      EventableDescriptor.evolves_close _) (guarantee_pure _)

theorem evolves_write (app : App) (build : Build) (self : Binding) (status : ConnectStatus)
    (r : SyscallResult) : Guarantee Evolves (write app build self status r) := by
  simp only [write, pure_bind]
  exact (preserves_connection _).guarantee.bind fun _ =>
    .ite (.ite ((evolves_invokeCallback _ _ _ _ _).bind fun _ => evolves_setConnectPending _ _)
      (.when (evolves_modifyDescriptor _ fun _ => .of_view (by rfl))
        (evolves_scheduleClose _ _))) <|
    .ite ((evolves_invokeCallback _ _ _ _ _).bind fun _ => (evolves_updateEvents _ _ _).bind fun _ =>
      guarantee_pure _) <|
    (preserves_descriptor _).guarantee.bind fun _ => .when (guarantee_throw_assertionFailed _)
      (evolves_writeOutboundData _ _ _)

theorem evolves_handleError (app : App) (build : Build) (self : Binding) (results : List ReadResult)
    (status : ConnectStatus) (r : SyscallResult) :
    Guarantee Evolves (handleError app build self results status r) := by
  simp only [handleError, pure_bind]
  have hwrite : Guarantee Evolves (connection self >>= fun c =>
      if c.bNotifyWritable = true then write app build self status r else pure ()) :=
    (preserves_connection _).guarantee.bind fun _ =>
      .ite (evolves_write _ _ _ _ _) (guarantee_pure _)
  exact (preserves_descriptor _).guarantee.bind fun _ =>
    .ite (.ite (guarantee_pure _) ((preserves_connection _).guarantee.bind fun _ =>
      .ite ((evolves_read _ _ _).bind fun _ => hwrite) hwrite)) (evolves_scheduleClose _ _)

theorem evolves_heartbeat (self : Binding) : Guarantee Evolves (heartbeat self) := by
  unfold heartbeat
  exact preserves_getTimerQuantum.guarantee.bind fun _ => (preserves_descriptor _).guarantee.bind
    fun _ => preserves_getCurrentLoopTime.guarantee.bind fun _ =>
      (preserves_connection _).guarantee.bind fun _ =>
        .ite (.ite ((evolves_modifyDescriptor _ fun _ => .of_view (by rfl)).bind fun _ =>
          evolves_scheduleClose _ _) (guarantee_pure _))
        (.ite ((evolves_modifyDescriptor _ fun _ => .of_view (by rfl)).bind fun _ =>
          evolves_scheduleClose _ _) (guarantee_pure _))

end ConnectionDescriptor

/-! ## The poll-driven methods of a datagram socket -/

namespace DatagramDescriptor

theorem evolves_readLoop (app : App) (self : Binding) (sd : Int) :
    ∀ n results, Guarantee Evolves (readLoop app self sd n results)
  | 0, _ => guarantee_pure _
  | n + 1, results => by
    simp only [readLoop]
    refine (evolves_emit _).bind fun _ => ?_
    split
    · exact (evolves_modifyDatagram _ fun _ => by exact Int.le_refl _).bind fun _ =>
        (EventableDescriptor.evolves_genericInboundDispatch _ _ _).bind fun _ =>
          evolves_readLoop app self sd n _
    · exact guarantee_pure _

theorem evolves_read (app : App) (self : Binding) (results : List RecvResult) :
    Guarantee Evolves (read app self results) := by
  simp only [read, pure_bind]
  exact (preserves_descriptor _).guarantee.bind fun _ => .when (guarantee_throw_assertionFailed _) <|
    preserves_getCurrentLoopTime.guarantee.bind fun _ =>
      (evolves_modifyDescriptor _ fun _ => .of_view (by rfl)).bind fun _ =>
        evolves_readLoop _ _ _ _ _

theorem evolves_writeLoop (self : Binding) (sd : Int) :
    ∀ n results, Guarantee Evolves (writeLoop self sd n results)
  | 0, _ => guarantee_pure _
  | n + 1, results => by
    simp only [writeLoop]
    refine (preserves_datagram _).guarantee.bind fun g => ?_
    split
    · exact guarantee_pure _
    · exact .when (evolves_emit _) <|
        (evolves_modifyDatagram _ fun _ => by dsimp only; omega).bind fun _ =>
          .ite ((evolves_modifyDescriptor _ fun _ => .of_view (by rfl)).bind fun _ =>
            EventableDescriptor.evolves_close _) (evolves_writeLoop self sd n _)

theorem evolves_write (self : Binding) (results : List SyscallResult) :
    Guarantee Evolves (write self results) := by
  simp only [write, pure_bind]
  exact (preserves_descriptor _).guarantee.bind fun _ => .when (guarantee_throw_assertionFailed _) <|
    preserves_getCurrentLoopTime.guarantee.bind fun _ =>
      (evolves_modifyDescriptor _ fun _ => .of_view (by rfl)).bind fun _ =>
        (preserves_datagram _).guarantee.bind fun _ => .when (guarantee_throw_assertionFailed _) <|
          (evolves_writeLoop _ _ _ _).bind fun _ => (preserves_datagram _).guarantee.bind fun _ =>
            (evolves_modifyDescriptor _ fun _ => .of_view (by rfl)).bind fun _ =>
              evolves_emit _

theorem evolves_heartbeat (self : Binding) : Guarantee Evolves (heartbeat self) := by
  unfold heartbeat
  exact (preserves_descriptor _).guarantee.bind fun _ =>
    preserves_getCurrentLoopTime.guarantee.bind fun _ =>
      .ite (EventableDescriptor.evolves_scheduleClose _ _) (guarantee_pure _)

end DatagramDescriptor

/-! ## Creating and destroying descriptors -/

theorem evolves_addDescriptor (b : Binding) : Guarantee Evolves (addDescriptor b) :=
  evolves_emit _

/-! ## The destructor

`~EventableDescriptor` clears the heartbeat entry first and then runs the application's
callbacks, which may queue new entries. For a descriptor about to be deleted they cannot, so
once `~Bindable_t` forgets the binding no entry names it. Nothing the destructor calls throws:
the application's exceptions are rescued, and unlinking a proxy never finds a busy target. -/

theorem noThrow_rescue (x : EM Unit) : NoThrow (rescue x) := fun s =>
  wp_rescue.2 (wp_true x s)

theorem noThrow_runCalls : ∀ calls, NoThrow (runCalls calls)
  | [] => noThrow_pure _
  | _ :: calls => (noThrow_rescue _).bind fun _ => noThrow_runCalls calls

theorem noThrow_invokeCallback (app : App) (b : Binding) (kind : EventKind) (data : List Byte)
    (value : Int) : NoThrow (invokeCallback app b kind data value) :=
  (noThrow_modify _).bind fun _ => noThrow_get.bind fun _ => noThrow_runCalls _

section TableFrames

variable {β : Type} {view : Reactor → β}
  (hdesc : ∀ (s : Reactor) ds, view { s with descriptors := ds } = view s)
  (htrace : ∀ (s : Reactor) t, view { s with trace := t } = view s)
include hdesc

/-- A view that ignores the descriptor table is kept by its writes. -/
theorem preserves_modifyDescriptor_of (b : Binding) (f : EventableDescriptor → EventableDescriptor) :
    Preserves view (modifyDescriptor b f) := fun _ =>
  (wp_modifyDescriptor b f).2 fun _ _ => hdesc _ _

theorem EventableDescriptor.preserves_stopProxy_of (self : Binding) :
    Preserves view (stopProxy self) := by
  unfold stopProxy setProxiedFrom
  refine (preserves_descriptor _).bind fun d => ?_
  split
  · exact ((preserves_descriptor _).bind fun _ => .ite ((preserves_throw_runtimeError _).bind
      fun _ => preserves_modifyDescriptor_of hdesc _ _) (preserves_modifyDescriptor_of hdesc _ _)).bind
        fun _ => preserves_modifyDescriptor_of hdesc _ _
  · exact preserves_pure _

include htrace

theorem EventableDescriptor.preserves_close_of (self : Binding) : Preserves view (close self) := by
  have hemit : ∀ e, Preserves view (emit e) := fun _ s => htrace s _
  simp only [close, pure_bind]
  exact (preserves_descriptor _).bind fun _ => .ite ((hemit _).bind fun _ =>
    .ite ((hemit _).bind fun _ => (hemit _).bind fun _ => preserves_modifyDescriptor_of hdesc _ _)
      (preserves_modifyDescriptor_of hdesc _ _)) (preserves_pure _)

end TableFrames

namespace EventableDescriptor

theorem noThrow_stopProxy (self : Binding) : NoThrow (stopProxy self) := by
  unfold stopProxy setProxiedFrom
  refine (noThrow_descriptor _).bind fun d => ?_
  split
  · refine ((noThrow_descriptor _).bind fun _ => ?_).bind fun _ => noThrow_modifyDescriptor _ _
    rw [if_neg (by simp)]
    exact noThrow_modifyDescriptor _ _
  · exact noThrow_pure _

theorem noThrow_close (self : Binding) : NoThrow (close self) := by
  simp only [close, pure_bind]
  exact (noThrow_descriptor _).bind fun _ => .ite ((noThrow_modify _).bind fun _ =>
    .ite ((noThrow_modify _).bind fun _ => (noThrow_modify _).bind fun _ =>
      noThrow_modifyDescriptor _ _) (noThrow_modifyDescriptor _ _)) (noThrow_pure _)

end EventableDescriptor

/-- Clearing the entry of a descriptor about to be deleted, running methods, then forgetting the
binding: no entry names it any more. -/
theorem Evolves.clear_forget {s s₂ : Reactor} {self : Binding} {d : EventableDescriptor}
    (hd : s.descriptors self = some d) (hdoom : d.shouldDelete = true)
    (h : Evolves { s with heartbeats := dropBeat d self s.heartbeats } s₂) :
    Evolves s { s₂ with descriptors := Function.update s₂.descriptors self none } := by
  refine ⟨h.nextBinding_le, fun b hb d₃ hd₃ => ?_, fun hf b hb => ?_,
    fun b hb hu hdm => h.unbeating b hb (fun e he => hu e ?_) hdm, fun hf b hb => ?_⟩
  · have hne : b ≠ self := by
      rintro rfl
      simp at hd₃
    simp only [Function.update_noteq hne] at hd₃
    exact h.escalates b hb d₃ hd₃
  · by_cases hne : b = self
    · subst hne
      simp
    · simp only [Function.update_noteq hne]
      exact h.fresh hf b hb
  · unfold dropBeat at he
    split_ifs at he
    exacts [List.mem_of_mem_erase he, he]
  · unfold BeatsExact at hb ⊢
    by_cases hne : b = self
    · subst hne
      have hself : b < s.nextBinding := Nat.lt_of_not_le fun hle => by simp [hf b hle] at hd
      have hu : Unbeating b { s with heartbeats := dropBeat d b s.heartbeats } := by
        rw [unbeating_iff, beatsOf_dropBeat, if_pos rfl, hb]
        by_cases h0 : d.nextHeartbeat = 0 <;> simp [dropBeat, Reactor.dueBeats, hd, h0]
      show s₂.beatsOf b = _
      rw [unbeating_iff.1 (h.unbeating b hself hu fun d' hd' => by rw [hd] at hd'; cases hd'; exact hdoom)]
      simp [Reactor.dueBeats]
    · have h₂ := h.beats hf b (by
        show Reactor.beatsOf _ b = s.dueBeats b
        rw [beatsOf_dropBeat, if_neg hne, hb])
      simpa only [BeatsExact, Reactor.beatsOf, Reactor.dueBeats, Function.update_noteq hne] using h₂

/-- `~EventableDescriptor` and `~Bindable_t` on a descriptor about to be deleted. -/
theorem EventableDescriptor.destructor_forget (app : App) {self : Binding} {s : Reactor}
    {d : EventableDescriptor} (hd : s.descriptors self = some d) (hdoom : d.shouldDelete = true) :
    wp (destructor app self >>= fun _ => forgetBinding self) (fun _ => Evolves s) (fun _ => False)
      s := by
  unfold destructor
  rw [bind_assoc, wp_bind, wp_descriptor]
  intro d₀ hd₀
  obtain rfl : d = d₀ := Option.some.inj (hd.symm.trans hd₀)
  lift_lets
  intro tail unbound callback
  have hread : ∀ b, Returns Evolves (descriptor b) := fun _ =>
    (preserves_descriptor _).guarantee.returns (noThrow_descriptor _)
  have hinvoke : ∀ b kind data value, Returns Evolves (invokeCallback app b kind data value) :=
    fun _ _ _ _ => (evolves_invokeCallback _ _ _ _ _).returns (noThrow_invokeCallback _ _ _ _ _)
  have hstop : ∀ b, Returns Evolves (stopProxy b) := fun _ =>
    (evolves_stopProxy _).returns (noThrow_stopProxy _)
  have htail : ∀ y, Returns Evolves (tail y) := fun _ =>
    ((evolves_modify (fun _ => by rfl) (fun _ => by rfl) fun _ => by rfl).returns
      (noThrow_modify _)).bind fun _ => (hstop _).bind fun _ =>
        (evolves_close _).returns (noThrow_close _)
  have hunbound : ∀ y, Returns Evolves (unbound y) := fun _ => by
    refine (hread _).bind fun _ => ?_
    split
    · refine ((preserves_descriptor _).guarantee.discard.returns (noThrow_descriptor _).discard).bind
        fun _ => (hinvoke _ _ _ _).bind fun _ => (hread _).bind fun _ => ?_
      split
      · exact (hstop _).bind htail
      · exact ((guarantee_throw_undefinedBehaviour _).returns
          (noThrow_throw_undefinedBehaviour _)).bind htail
    · exact ((guarantee_pure _).returns (noThrow_pure _)).bind htail
  have hcallback : ∀ y, Returns Evolves (callback y) := fun _ =>
    .ite ((hinvoke _ _ _ _).bind hunbound) (((guarantee_pure _).returns (noThrow_pure _)).bind hunbound)
  have hfinish : wp (callback ()) (fun _ => wp (forgetBinding self) (fun _ => Evolves s)
      fun _ => False) (fun _ => False) { s with heartbeats := dropBeat d self s.heartbeats } :=
    wp_mono (hcallback () _) (fun _ _ h => Evolves.clear_forget hd hdoom h) fun _ h => h
  rw [wp_bind]
  by_cases hnz : d.nextHeartbeat ≠ 0
  · rw [if_pos hnz, wp_bind]
    rw [dropBeat, if_pos hnz] at hfinish
    exact (wp_modify _).2 hfinish
  · rw [if_neg hnz]
    rwa [dropBeat, if_neg hnz] at hfinish

/-- The reactor deletes a descriptor once it `ShouldDelete`; the deletion throws nothing. -/
theorem returns_destroy (app : App) {self : Binding} {s : Reactor} (hdoom : Doomed self s) :
    wp (destroy app self) (fun _ => Evolves s) (fun _ => False) s := by
  unfold destroy
  rw [wp_bind, wp_descriptor]
  intro d hd
  split_ifs
  · rw [wp_bind, wp_emit, wp_bind, wp_modifyDescriptor]
    intro d' hd'
    have h₁ := (Evolves.of_eq rfl rfl rfl :
      Evolves s { s with trace := s.trace ++ [.close d.mySocket] }).trans (.update hd' .invalidate)
    exact wp_mono (EventableDescriptor.destructor_forget app (Function.update_same _ _ _)
      (by simp [EventableDescriptor.shouldDelete])) (fun _ _ h => h₁.trans h) fun _ h => h
  · exact EventableDescriptor.destructor_forget app hd (hdoom d hd)

/-- The destructor of a descriptor with no deadline, no unbind callback and no proxy source runs
no callback, and leaves the heartbeat queue as it was. -/
theorem EventableDescriptor.destructor_quiet (app : App) {self : Binding} {s : Reactor}
    {d : EventableDescriptor} (hd : s.descriptors self = some d) (hnh : d.nextHeartbeat = 0)
    (hcb : d.bCallbackUnbind = false) (hpf : d.proxiedFrom = none) :
    wp (destructor app self) (fun _ s' => Evolves s s' ∧ s'.heartbeats = s.heartbeats)
      (fun _ => False) s := by
  unfold destructor
  rw [wp_bind, wp_descriptor]
  intro d₀ hd₀
  obtain rfl : d = d₀ := Option.some.inj (hd.symm.trans hd₀)
  lift_lets
  intro tail unbound callback
  have hkeep : ∀ s₁ : Reactor, s₁.heartbeats = s.heartbeats → Evolves s s₁ →
      wp (tail ()) (fun _ s' => Evolves s s' ∧ s'.heartbeats = s.heartbeats) (fun _ => False) s₁ := by
    intro s₁ hh h
    have hret : Returns Evolves (tail ()) :=
      ((evolves_modify (fun _ => by rfl) (fun _ => by rfl) fun _ => by rfl).returns
        (noThrow_modify _)).bind fun _ => ((evolves_stopProxy _).returns (noThrow_stopProxy _)).bind
          fun _ => (evolves_close _).returns (noThrow_close _)
    have hcount : Preserves Reactor.heartbeats (modify fun r : Reactor =>
        { r with numCloseScheduled := r.numCloseScheduled - 1 } : EM Unit) := fun _ => rfl
    have hpres : Preserves Reactor.heartbeats (tail ()) :=
      hcount.bind fun _ =>
        (@preserves_stopProxy_of _ Reactor.heartbeats (fun _ _ => rfl) _).bind fun _ =>
          @preserves_close_of _ Reactor.heartbeats (fun _ _ => rfl) (fun _ _ => rfl) _
    exact wp_mono (wp_and (hret s₁) (hpres s₁)) (fun _ _ h' => ⟨h.trans h'.1, h'.2.trans hh⟩)
      fun _ h' => h'.1
  rw [if_neg (by simp [hnh])]
  simp only [callback, hcb, Bool.false_eq_true, if_false, pure_bind, unbound, wp_bind, wp_descriptor]
  intro d₁ hd₁
  obtain rfl : d = d₁ := Option.some.inj (hd.symm.trans hd₁)
  simp only [hpf]
  exact hkeep s rfl (.refl s)

namespace AcceptorDescriptor

theorem evolves_readLoop (app : App) (self : Binding) :
    ∀ n results, Guarantee Evolves (readLoop app self n results)
  | 0, _ => guarantee_pure _
  | n + 1, results => by
    simp only [readLoop]
    split
    · exact guarantee_pure _
    · exact (evolves_emit _).bind fun _ => (evolves_emit _).bind fun _ =>
        evolves_readLoop app self n _
    · exact (evolves_newDescriptor _ _ _ _).bind fun _ =>
        (evolves_modifyConnection _ fun _ => by exact Int.le_refl _).bind fun _ =>
          (evolves_invokeCallback _ _ _ _ _).bind fun _ =>
            (preserves_descriptor _).guarantee.bind fun _ =>
              (preserves_connection _).guarantee.bind fun _ =>
                (evolves_modifyDescriptor _ fun _ => .of_view (by rfl)).bind fun _ =>
                  (evolves_addDescriptor _).bind fun _ => evolves_readLoop app self n _

theorem evolves_read (app : App) (self : Binding) (results : List AcceptResult) :
    Guarantee Evolves (read app self results) :=
  preserves_get.guarantee.bind fun _ => evolves_readLoop _ _ _ _

end AcceptorDescriptor

/-- When `inotify_init` fails, the constructor's exception destroys the base part: the new
binding is forgotten with no heartbeat entry. -/
theorem InotifyDescriptor.evolves_create (app : App) (fd : Int) :
    Guarantee Evolves (InotifyDescriptor.create app fd) := by
  intro s
  simp only [InotifyDescriptor.create]
  rw [wp_bind]
  refine wp_mono (wp_and (evolves_newDescriptor 0 .inotify 0 false s) (newDescriptor_spec _ _ _ _))
    (fun b s₁ ⟨h, hb, hh, d, hd, hnh, hcb, hpf, _⟩ => ?_) fun _ h => h.1
  simp only [wp_ite, throw_bind]
  refine ⟨fun _ => ?_, fun _ => ?_⟩
  · rw [wp_bind]
    refine wp_mono (EventableDescriptor.destructor_quiet app hd hnh hcb hpf)
      (fun _ s₂ ⟨h₂, hh₂⟩ => ?_) fun _ h => h.elim
    refine (h.trans h₂).forget fun hf hbeat => ?_
    subst hb
    have hdue : s.dueBeats s.nextBinding = [] := by simp [Reactor.dueBeats, hf _ le_rfl]
    rw [unbeating_iff]
    show s₂.heartbeats.filter _ = []
    rw [hh₂, hh]
    exact hbeat.trans hdue
  · simp only [wp_bind, wp_modifyDescriptor, wp_pure]
    exact fun d' hd' => h.updateNew (hb ▸ le_rfl) hd' rfl

/-! ## The reactor's steps -/

namespace Virtual

theorem evolves_read (app : App) (self : Binding) (k : Kernel) :
    Guarantee Evolves (read app self k) := by
  unfold read AcceptorDescriptor.read LoopbreakDescriptor.read InotifyDescriptor.read
  refine (preserves_descriptor _).guarantee.bind fun d => ?_
  split
  · exact ConnectionDescriptor.evolves_read _ _ _
  · exact DatagramDescriptor.evolves_read _ _ _
  · exact AcceptorDescriptor.evolves_read _ _ _
  · exact evolves_invokeCallback _ _ _ _ _
  · exact evolves_invokeCallback _ _ _ _ _

theorem evolves_write (app : App) (build : Build) (self : Binding) (k : Kernel) :
    Guarantee Evolves (write app build self k) := by
  unfold write AcceptorDescriptor.write LoopbreakDescriptor.write InotifyDescriptor.write
  refine (preserves_descriptor _).guarantee.bind fun d => ?_
  split
  · exact ConnectionDescriptor.evolves_write _ _ _ _ _
  · exact DatagramDescriptor.evolves_write _ _
  all_goals exact guarantee_throw_runtimeError _

theorem evolves_handleError (app : App) (build : Build) (self : Binding) (k : Kernel) :
    Guarantee Evolves (handleError app build self k) := by
  unfold handleError
  refine (preserves_descriptor _).guarantee.bind fun d => ?_
  split
  · exact ConnectionDescriptor.evolves_handleError _ _ _ _ _ _
  · exact EventableDescriptor.evolves_scheduleClose _ _

theorem evolves_heartbeat (self : Binding) : Guarantee Evolves (heartbeat self) := by
  unfold heartbeat
  refine (preserves_descriptor _).guarantee.bind fun d => ?_
  split
  · exact ConnectionDescriptor.evolves_heartbeat _
  · exact DatagramDescriptor.evolves_heartbeat _
  · exact guarantee_pure _

end Virtual

theorem evolves_dispatchHeartbeat (self : Binding) : Guarantee Evolves (dispatchHeartbeat self) :=
  (Virtual.evolves_heartbeat _).bind fun _ => evolves_queueHeartbeat _

theorem evolves_connectToServer (sd : Int) : Guarantee Evolves (connectToServer sd) :=
  (evolves_newDescriptor _ _ _ _).bind fun _ => (ConnectionDescriptor.evolves_setConnectPending _ _).bind
    fun _ => (evolves_addDescriptor _).bind fun _ => guarantee_pure _

theorem evolves_attachFd (fd : Int) (watchMode : Bool) : Guarantee Evolves (attachFd fd watchMode) :=
  (evolves_newDescriptor _ _ _ _).bind fun _ => (ConnectionDescriptor.evolves_setAttached _ _).bind
    fun _ => (ConnectionDescriptor.evolves_setWatchOnly _ _).bind fun _ =>
      (ConnectionDescriptor.evolves_setConnectPending _ _).bind fun _ =>
        (evolves_addDescriptor _).bind fun _ => guarantee_pure _

theorem evolves_openDatagramSocket (sd : Int) : Guarantee Evolves (openDatagramSocket sd) :=
  (evolves_newDescriptor _ _ _ _).bind fun _ => (evolves_addDescriptor _).bind fun _ =>
    guarantee_pure _

theorem evolves_createTcpServer (sd : Int) : Guarantee Evolves (createTcpServer sd) :=
  (evolves_newDescriptor _ _ _ _).bind fun _ => (evolves_addDescriptor _).bind fun _ =>
    guarantee_pure _

theorem evolves_initializeLoopBreaker (sd : Int) : Guarantee Evolves (initializeLoopBreaker sd) :=
  (evolves_newDescriptor _ _ _ _).bind fun _ => (evolves_addDescriptor _).bind fun _ =>
    guarantee_pure _

theorem evolves_openInotify (app : App) (fd : Int) : Guarantee Evolves (openInotify app fd) :=
  (InotifyDescriptor.evolves_create _ _).bind fun _ => (evolves_addDescriptor _).bind fun _ =>
    guarantee_pure _

theorem Completes.evolves {α : Type} {x : EM α} {s s' : Reactor} (hx : Guarantee Evolves x)
    (h : Completes x s s') : Evolves s s' := by
  rcases h.of_wp (hx s) with ⟨_, h⟩ | h <;> exact h

/-- Every step of the reactor moves the state along `Evolves`. -/
theorem Step.evolves {app : App} {build : Build} {s s' : Reactor} (h : Step app build s s') :
    Evolves s s' := by
  cases h with
  | call c h => exact h.evolves (evolves_runApiCall c)
  | read b k h => exact h.evolves (Virtual.evolves_read _ _ _)
  | write b k _ h => exact h.evolves (Virtual.evolves_write _ _ _ _)
  | handleError b k _ h => exact h.evolves (Virtual.evolves_handleError _ _ _ _)
  | heartbeat b key _ _ h => exact h.evolves (evolves_dispatchHeartbeat _)
  | delete b d hd hdel h =>
    rcases h.of_wp (returns_destroy app fun d' hd' => (Option.some.inj (hd.symm.trans hd')) ▸ hdel)
      with ⟨_, h⟩ | h
    exacts [h, h.elim]
  | connect sd h => exact h.evolves (evolves_connectToServer _)
  | attach fd watchMode h => exact h.evolves (evolves_attachFd _ _)
  | openDatagram sd h => exact h.evolves (evolves_openDatagramSocket _)
  | listen sd h => exact h.evolves (evolves_createTcpServer _)
  | loopBreaker sd h => exact h.evolves (evolves_initializeLoopBreaker _)
  | inotify fd h => exact h.evolves (evolves_openInotify _ _)
  | tick now real => exact .of_eq rfl rfl rfl

/-- A run of steps moves the state along `Evolves`. -/
theorem Step.evolves_of_run {app : App} {build : Build} {s s' : Reactor}
    (h : Relation.ReflTransGen (Step app build) s s') : Evolves s s' := by
  induction h with
  | refl => exact .refl s
  | tail _ hstep ih => exact ih.trans hstep.evolves

/-- In a reachable state, the bindings from `nextBinding` on name nothing. -/
theorem Reachable.fresh {app : App} {build : Build} {s : Reactor} (h : Reachable app build s) :
    Fresh s := by
  induction h with
  | init hi => exact fun b _ => hi.no_descriptors b
  | step _ hstep ih => exact hstep.evolves.fresh ih

/-- The close state only escalates: from a reachable state, along any run of the reactor, a
descriptor that is still live has kept its close flags, an invalid socket, and its scheduled
close; it has not queued more bytes since its close was scheduled; and if it was about to be
deleted it still is. -/
theorem close_state_escalates {app : App} {build : Build} {s s' : Reactor}
    (hs : Reachable app build s) (h : Relation.ReflTransGen (Step app build) s s') (b : Binding)
    {d d' : EventableDescriptor} (hd : s.descriptors b = some d) (hd' : s'.descriptors b = some d') :
    Escalates d d' ∧ (d.isCloseScheduled = true → d'.isCloseScheduled = true) ∧
      (d.shouldDelete = true → d'.shouldDelete = true) := by
  have hb : b < s.nextBinding := by
    by_contra hge
    simp [hs.fresh b (Nat.le_of_not_lt hge)] at hd
  obtain ⟨d₀, hd₀, he⟩ := (Step.evolves_of_run h).escalates b hb d' hd'
  obtain rfl : d₀ = d := Option.some.inj (hd₀.symm.trans hd)
  exact ⟨he, he.isCloseScheduled, he.shouldDelete⟩

/-- The connection `AttachFD (5, false)` creates on an empty reactor. -/
def attachedConnection : EventableDescriptor :=
  { mySocket := 5, bAttached := true, createdAt := 0, lastActivity := 0, epollEvents := epollIn,
    sub := .connection {} }

theorem close_state_escalates_after_writing :
    Escalates attachedConnection { attachedConnection with bCloseAfterWriting := true } ∧
      (attachedConnection.isCloseScheduled = true →
        ({ attachedConnection with bCloseAfterWriting := true } : EventableDescriptor).isCloseScheduled
          = true) ∧
      (attachedConnection.shouldDelete = true →
        ({ attachedConnection with bCloseAfterWriting := true } : EventableDescriptor).shouldDelete
          = true) :=
  close_state_escalates
    (show Reachable silentApp .writev _ from
      .step (.init Reactor.empty_initial) (.attach 5 false (.of_survives (by decide))))
    (.single (.call (.scheduleClose 0 true) (.of_survives (by decide)))) 0 (by decide) (by decide)

end EventMachine

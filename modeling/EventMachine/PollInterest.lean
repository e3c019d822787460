import EventMachine.Evolution
import EventMachine.Stream

/-!
# The poll interest of a connection stays current

In the epoll build, the mask a connection registers should say what it wants: `EPOLLIN` exactly
when `SelectForRead ()` holds and `EPOLLOUT` exactly when `SelectForWrite ()` does. Every method
that changes a member the selectors read changes it first and then calls `_UpdateEvents`, which
recomputes the bits that member can change. In between, the mask is stale in those bits of that
connection and nowhere else. `KeptBut stale` says so, and `_UpdateEvents` ends it
(`updateEvents_repairs`).

Two facts the code never checks carry the argument through the methods that can throw before
their `_UpdateEvents`. `_WriteOutboundData` lowers `OutboundDataSize` before it resumes a proxy
source and before the copy build pushes back the unsent tail. A watch-only connection is never
paused (`PauseSound`), so the resume cannot throw; and the count covers at least the bytes
still queued (`SizeSound`), so when the push-back fails the count is still positive and
`SelectForWrite ()` has not changed.

Over every run of the reactor, every connection with a valid socket has its interest current
(`poll_interest_current`).
-/

namespace EventMachine

/-! ## What stays true of one descriptor -/

/-- The two bits of a connection's epoll mask that the selectors decide. -/
inductive Bit
  | read
  | write
  deriving DecidableEq

namespace Bit

/-- The bit in a mask: `EPOLLIN` or `EPOLLOUT`. -/
def of : Bit → UInt32 → Bool
  | read => hasEpollIn
  | write => hasEpollOut

/-- The selector that decides the bit. -/
def select : Bit → EventableDescriptor → ConnectionDescriptor → Bool
  | read => ConnectionDescriptor.selectForRead
  | write => ConnectionDescriptor.selectForWrite

/-- Whether `_UpdateEvents (read, write)` recomputes the bit. -/
def asked (read write : Bool) : Bit → Bool
  | .read => read
  | .write => write

/-- In the epoll build, the bit of a connection with a valid socket is its selector's answer:
`EPOLLIN` is `SelectForRead ()`, `EPOLLOUT` is `SelectForWrite ()`. -/
def Current (i : Bit) (d : EventableDescriptor) : Prop :=
  ∀ c, d.sub = .connection c → d.mySocket ≠ invalidSocket → i.of d.epollEvents = i.select d c

/-- `_UpdateEvents (read, write)` sets the bits it is asked for to their selectors' answers and
leaves the others. -/
theorem of_updatedEvents (i : Bit) (d : EventableDescriptor) (c : ConnectionDescriptor)
    (read write : Bool) (old : UInt32) :
    i.of (ConnectionDescriptor.updatedEvents d c read write old) =
      if i.asked read write then i.select d c else i.of old := by
  cases i <;> simp [of, select, asked]

variable {i : Bit} {d d' : EventableDescriptor}

/-- The selectors do not read the mask. -/
theorem select_withEvents (i : Bit) (d : EventableDescriptor) (e : UInt32) (c : ConnectionDescriptor) :
    i.select { d with epollEvents := e } c = i.select d c := by
  cases i <;> rfl

/-- A bit stays current across a write that keeps the socket, the bit and its selector's
answer. -/
theorem Current.of_eq (hd : i.Current d) (hsock : d'.mySocket = d.mySocket)
    (hev : i.of d'.epollEvents = i.of d.epollEvents)
    (hsel : ∀ c', d'.sub = .connection c' → ∃ c, d.sub = .connection c ∧ i.select d' c' = i.select d c) :
    i.Current d' := fun c' hc' hs => by
  obtain ⟨c, hc, hc'c⟩ := hsel c' hc'
  rw [hev, hc'c]
  exact hd c hc (hsock ▸ hs)

/-- An invalid socket has no interest to keep. -/
theorem current_invalidate (i : Bit) (d : EventableDescriptor) :
    i.Current { d with mySocket := invalidSocket } :=
  fun _ _ hs => absurd rfl hs

/-- The bits `_UpdateEvents` recomputes are current afterwards; the others stay as they were. -/
theorem current_updatedEvents {c : ConnectionDescriptor} (hc : d.sub = .connection c)
    {read write : Bool} (hi : i.asked read write = false → i.Current d) :
    i.Current { d with epollEvents := ConnectionDescriptor.updatedEvents d c read write d.epollEvents } :=
  fun c' hc' hs => by
    obtain rfl : c = c' := Subclass.connection.inj (hc.symm.trans hc')
    rw [select_withEvents]
    show i.of (ConnectionDescriptor.updatedEvents d c read write d.epollEvents) = i.select d c
    rw [of_updatedEvents]
    cases h : i.asked read write
    · exact (if_neg Bool.false_ne_true).trans (hi h c hc hs)
    · exact if_pos rfl

end Bit

namespace EventableDescriptor

/-- `OutboundDataSize` counts at least the bytes still queued. -/
def SizeSound (d : EventableDescriptor) : Prop :=
  ∀ c, d.sub = .connection c → ((unsentBytes c.outboundPages).length : Int) ≤ c.outboundDataSize

/-- A watch-only connection is not paused: `Pause` refuses one, and only a new connection is
made watch-only. -/
def PauseSound (d : EventableDescriptor) : Prop :=
  ∀ c, d.sub = .connection c → d.bWatchOnly = true → d.bPaused = false

/-- What the bits, the byte count and the pause check read of a descriptor; nothing of one that
is not a connection. -/
def pollState (d : EventableDescriptor) :
    Option (Int × UInt32 × Bool × Bool × Bool × Bool × Bool × Int × Nat) :=
  match d.sub with
  | .connection c => some (d.mySocket, d.epollEvents, d.bPaused, d.bWatchOnly, c.bConnectPending,
      c.bNotifyReadable, c.bNotifyWritable, c.outboundDataSize,
      (unsentBytes c.outboundPages).length)
  | _ => none

variable {d d' : EventableDescriptor}

/-- A descriptor with the poll state of a connection is a connection with the same socket, mask,
selectors and counts. -/
theorem pollState_congr (h : d'.pollState = d.pollState) {c' : ConnectionDescriptor}
    (hc' : d'.sub = .connection c') :
    ∃ c, d.sub = .connection c ∧ d'.mySocket = d.mySocket ∧ d'.epollEvents = d.epollEvents ∧
      (∀ i : Bit, i.select d' c' = i.select d c) ∧ d'.bWatchOnly = d.bWatchOnly ∧
      d'.bPaused = d.bPaused ∧
      (unsentBytes c'.outboundPages).length = (unsentBytes c.outboundPages).length ∧
      c'.outboundDataSize = c.outboundDataSize := by
  unfold pollState at h
  rw [hc'] at h
  cases hd : d.sub with
  | connection c =>
    simp only [hd, Option.some.injEq, Prod.mk.injEq] at h
    obtain ⟨h1, h2, h3, h4, h5, h6, h7, h8, h9⟩ := h
    refine ⟨c, rfl, h1, h2, fun i => ?_, h4, h3, h9, h8⟩
    cases i <;> simp only [Bit.select, ConnectionDescriptor.selectForRead,
      ConnectionDescriptor.selectForWrite, h3, h4, h5, h6, h7, h8]
  | _ => simp [hd] at h

theorem pollState_eq_none (h : ∀ c, d.sub = .connection c → False) : d.pollState = none := by
  unfold pollState
  split
  · exact (h _ ‹_›).elim
  · rfl

/-- Nothing that is not a connection has a poll state. -/
theorem pollState_of_not_connection (h' : ∀ c, d'.sub = .connection c → False)
    (h : ∀ c, d.sub = .connection c → False) : d'.pollState = d.pollState :=
  (pollState_eq_none h').trans (pollState_eq_none h).symm

theorem SizeSound.of_pollState (h : d'.pollState = d.pollState) (hd : d.SizeSound) :
    d'.SizeSound := fun _ hc' => by
  obtain ⟨c, hc, -, -, -, -, -, hu, hz⟩ := pollState_congr h hc'
  rw [hu, hz]
  exact hd c hc

theorem PauseSound.of_pollState (h : d'.pollState = d.pollState) (hd : d.PauseSound) :
    d'.PauseSound := fun _ hc' hw => by
  obtain ⟨c, hc, -, -, -, hw', hp, -⟩ := pollState_congr h hc'
  rw [hp]
  exact hd c hc (hw' ▸ hw)

end EventableDescriptor

theorem Bit.Current.of_pollState {i : Bit} {d d' : EventableDescriptor}
    (h : d'.pollState = d.pollState) (hd : i.Current d) : i.Current d' := fun _ hc' hs => by
  obtain ⟨c, hc, hsock, hev, hsel, -⟩ := EventableDescriptor.pollState_congr h hc'
  rw [hev, hsel]
  exact hd c hc (hsock ▸ hs)

/-- The facts kept of every descriptor: the pause check, the byte count, and the two bits. -/
inductive Aspect
  | pause
  | size
  | bit (i : Bit)

namespace Aspect

/-- What the fact says of a descriptor. -/
def Holds : Aspect → EventableDescriptor → Prop
  | pause => EventableDescriptor.PauseSound
  | size => EventableDescriptor.SizeSound
  | bit i => i.Current

/-- Whether `_UpdateEvents (read, write)` recomputes the fact: only the bits it is asked for. -/
def asked (read write : Bool) : Aspect → Bool
  | bit i => i.asked read write
  | _ => false

variable {a : Aspect} {d d' : EventableDescriptor}

theorem Holds.of_pollState (h : d'.pollState = d.pollState) (hd : a.Holds d) : a.Holds d' := by
  cases a with
  | pause => exact EventableDescriptor.PauseSound.of_pollState h hd
  | size => exact EventableDescriptor.SizeSound.of_pollState h hd
  | bit i => exact Bit.Current.of_pollState h hd

/-- `_UpdateEvents` makes the facts it is asked for hold, and keeps the others. -/
theorem holds_updatedEvents {c : ConnectionDescriptor} (hc : d.sub = .connection c)
    {read write : Bool} (h : a.asked read write = false → a.Holds d) :
    a.Holds { d with epollEvents := ConnectionDescriptor.updatedEvents d c read write d.epollEvents } := by
  cases a with
  | pause => exact h rfl
  | size => exact h rfl
  | bit i => exact Bit.current_updatedEvents hc h

/-- Before `_UpdateEvents (true, true)`, a write need keep only the pause check and the byte
count. -/
theorem forall_unasked {P : Aspect → Prop} (hp : P pause) (hs : P size) :
    ∀ a : Aspect, a.asked true true = false → P a
  | pause, _ => hp
  | size, _ => hs
  | bit i, h => absurd h (by cases i <;> decide)

end Aspect

/-! ## What stays true of the reactor -/

/-- `P` holds of the descriptor behind `b`, if there is one. -/
def Reactor.Holds (s : Reactor) (P : EventableDescriptor → Prop) (b : Binding) : Prop :=
  ∀ d, s.descriptors b = some d → P d

/-- What every descriptor shows of its poll state. -/
def pollView (s : Reactor) (b : Binding) :
    Option (Option (Int × UInt32 × Bool × Bool × Bool × Bool × Bool × Int × Nat)) :=
  (s.descriptors b).map EventableDescriptor.pollState

/-- From `s` to `s'`, every fact that held of a descriptor still holds, except the facts `stale`
names. -/
def KeptBut (stale : Binding → Aspect → Prop) (s s' : Reactor) : Prop :=
  ∀ b a, ¬stale b a → s.Holds a.Holds b → s'.Holds a.Holds b

/-- From `s` to `s'` every fact that held of a descriptor still holds. -/
def InterestKept (s s' : Reactor) : Prop := KeptBut (fun _ _ => False) s s'

namespace KeptBut

variable {st st' : Binding → Aspect → Prop} {s s₁ s₂ : Reactor}

theorem refl (st : Binding → Aspect → Prop) (s : Reactor) : KeptBut st s s := fun _ _ _ => id

theorem trans (h : KeptBut st s s₁) (h' : KeptBut st' s₁ s₂) :
    KeptBut (fun b a => st b a ∨ st' b a) s s₂ := fun b a hs hh =>
  h' b a (fun h => hs (.inr h)) (h b a (fun h => hs (.inl h)) hh)

theorem mono (h : KeptBut st s₁ s₂) (hst : ∀ b a, st b a → st' b a) : KeptBut st' s₁ s₂ :=
  fun b a hs => h b a fun h => hs (hst b a h)

/-- A stale fact that holds again is no longer stale. -/
theorem repair (h : KeptBut st s s₁) (h' : InterestKept s₁ s₂)
    (hst : ∀ b a, st b a → s₂.Holds a.Holds b) : InterestKept s s₂ := fun b a _ hh => by
  by_cases hs : st b a
  · exact hst b a hs
  · exact h' b a id (h b a hs hh)

/-- The stretch keeps what a method run inside it keeps. -/
theorem interestKept (h : KeptBut st s s₁) (h' : InterestKept s₁ s₂) : KeptBut st s s₂ :=
  (h.trans h').mono fun _ _ h => h.elim id False.elim

end KeptBut

instance : IsRefl Reactor InterestKept := ⟨KeptBut.refl _⟩

instance : IsTrans Reactor InterestKept := ⟨fun _ _ _ h h' => h.interestKept h'⟩

/-- The relation `Guarantee` asks of every method: `InterestKept`. -/
abbrev KeepsInterest {α : Type} (x : EM α) : Prop := Guarantee InterestKept x

/-! ## Frames and single writes -/

section Frames

variable {s s' : Reactor}

theorem Reactor.Holds.of_pollView {P : EventableDescriptor → Prop} {b : Binding}
    (h : pollView s' b = pollView s b)
    (hP : ∀ d d', d'.pollState = d.pollState → P d → P d') (hs : s.Holds P b) : s'.Holds P b := by
  intro d' hd'
  unfold pollView at h
  rw [hd'] at h
  cases hd : s.descriptors b with
  | none => simp [hd] at h
  | some d =>
    rw [hd] at h
    exact hP d d' (Option.some.inj h) (hs d hd)

/-- A state with the poll view of `s` keeps everything `s` had. -/
theorem interestKept_of_pollView (h : pollView s' = pollView s) : InterestKept s s' :=
  fun b _ _ hh => hh.of_pollView (congrFun h b) fun _ _ => Aspect.Holds.of_pollState

theorem Preserves.keepsInterest {α : Type} {x : EM α} (h : Preserves pollView x) :
    KeepsInterest x := fun _ =>
  h.wp (fun _ _ h => interestKept_of_pollView h) fun _ h => interestKept_of_pollView h

/-- A write of the descriptor behind `b`: the others keep what they had, and `b` what the write
keeps. -/
theorem keptBut_of_set {st : Binding → Aspect → Prop} {b : Binding} {d' : EventableDescriptor}
    (hs' : s'.descriptors = Function.update s.descriptors b (some d'))
    (h : ∀ a, ¬st b a → s.Holds a.Holds b → a.Holds d') : KeptBut st s s' := by
  intro b' a ha hh d₁ hd₁
  rw [hs'] at hd₁
  by_cases hb : b' = b
  · subst hb
    rw [Function.update_same] at hd₁
    exact Option.some.inj hd₁ ▸ h a ha hh
  · rw [Function.update_noteq hb] at hd₁
    exact hh d₁ hd₁

theorem keptBut_of_update {st : Binding → Aspect → Prop} {b : Binding} {d d' : EventableDescriptor}
    (hd : s.descriptors b = some d)
    (hs' : s'.descriptors = Function.update s.descriptors b (some d'))
    (h : ∀ a, ¬st b a → a.Holds d → a.Holds d') : KeptBut st s s' :=
  keptBut_of_set hs' fun a ha hh => h a ha (hh d hd)

/-- A write of the descriptor behind `b` that keeps its poll state. -/
theorem interestKept_of_update {b : Binding} {d d' : EventableDescriptor}
    (hd : s.descriptors b = some d)
    (hs' : s'.descriptors = Function.update s.descriptors b (some d'))
    (h : d'.pollState = d.pollState) : InterestKept s s' :=
  keptBut_of_update hd hs' fun _ _ => .of_pollState h

/-- Forgetting a binding keeps what every other descriptor had. -/
theorem interestKept_of_erase {b : Binding}
    (hs' : s'.descriptors = Function.update s.descriptors b none) : InterestKept s s' := by
  intro b' a _ hh d₁ hd₁
  rw [hs'] at hd₁
  by_cases hb : b' = b
  · subst hb
    simp at hd₁
  · rw [Function.update_noteq hb] at hd₁
    exact hh d₁ hd₁

end Frames

section Primitives

theorem keepsInterest_modify {f : Reactor → Reactor} (hf : ∀ s, (f s).descriptors = s.descriptors) :
    KeepsInterest (modify f : EM Unit) := fun s =>
  interestKept_of_pollView (by unfold pollView; rw [hf])

theorem keepsInterest_emit (e : TraceEntry) : KeepsInterest (emit e) :=
  keepsInterest_modify fun _ => rfl

theorem keepsInterest_callback (b : Binding) (kind : EventKind) (data : List Byte) (value : Int) :
    KeepsInterest (callback b kind data value) :=
  keepsInterest_modify fun _ => rfl

theorem keepsInterest_malloc : KeepsInterest malloc := fun _ => KeptBut.refl _ _

theorem preserves_pollView_modifyDescriptor (b : Binding)
    {f : EventableDescriptor → EventableDescriptor} (hf : ∀ d, (f d).pollState = d.pollState) :
    Preserves pollView (modifyDescriptor b f) :=
  preserves_modifyDescriptor b hf

theorem keepsInterest_modifyDescriptor (b : Binding) {f : EventableDescriptor → EventableDescriptor}
    (hf : ∀ d, (f d).pollState = d.pollState) : KeepsInterest (modifyDescriptor b f) :=
  (preserves_pollView_modifyDescriptor b hf).keepsInterest

/-- What a connection's poll state reads of its own members. -/
def ConnectionDescriptor.pollInputs (c : ConnectionDescriptor) : Bool × Bool × Bool × Int × Nat :=
  (c.bConnectPending, c.bNotifyReadable, c.bNotifyWritable, c.outboundDataSize,
    (unsentBytes c.outboundPages).length)

theorem pollState_mapConnection {d : EventableDescriptor}
    {f : ConnectionDescriptor → ConnectionDescriptor} (hf : ∀ c, (f c).pollInputs = c.pollInputs) :
    ({ d with sub := d.sub.mapConnection f } : EventableDescriptor).pollState = d.pollState := by
  unfold EventableDescriptor.pollState
  cases d.sub with
  | connection c =>
    have := hf c
    simp only [ConnectionDescriptor.pollInputs, Prod.mk.injEq] at this
    simp [Subclass.mapConnection, this]
  | _ => rfl

theorem keepsInterest_modifyConnection (b : Binding) {f : ConnectionDescriptor → ConnectionDescriptor}
    (hf : ∀ c, (f c).pollInputs = c.pollInputs) : KeepsInterest (modifyConnection b f) :=
  keepsInterest_modifyDescriptor b fun _ => pollState_mapConnection hf

theorem Subclass.exists_of_mapConnection {f : ConnectionDescriptor → ConnectionDescriptor}
    {sub : Subclass} {c' : ConnectionDescriptor} (h : sub.mapConnection f = .connection c') :
    ∃ c, sub = .connection c ∧ f c = c' := by
  cases sub <;> simp_all [Subclass.mapConnection]

/-- A write of a connection's members keeps a fact whose inputs it keeps. -/
theorem Aspect.Holds.mapConnection {a : Aspect} {d : EventableDescriptor}
    {f : ConnectionDescriptor → ConnectionDescriptor} (hd : a.Holds d)
    (hsize : a = .size → ∀ c, ((unsentBytes c.outboundPages).length : Int) ≤ c.outboundDataSize →
      ((unsentBytes (f c).outboundPages).length : Int) ≤ (f c).outboundDataSize)
    (hbit : ∀ i, a = .bit i → ∀ c, i.select d (f c) = i.select d c) :
    a.Holds { d with sub := d.sub.mapConnection f } := by
  cases a with
  | pause =>
    intro c' hc'
    obtain ⟨c, hc, -⟩ := Subclass.exists_of_mapConnection hc'
    exact hd c hc
  | size =>
    intro c' hc'
    obtain ⟨c, hc, rfl⟩ := Subclass.exists_of_mapConnection hc'
    exact hsize rfl c (hd c hc)
  | bit i =>
    refine Bit.Current.of_eq hd rfl rfl fun c' hc' => ?_
    obtain ⟨c, hc, rfl⟩ := Subclass.exists_of_mapConnection hc'
    exact ⟨c, hc, by cases i <;> exact hbit _ rfl c⟩

theorem keepsInterest_modifyDatagram (b : Binding) (f : DatagramDescriptor → DatagramDescriptor) :
    KeepsInterest (modifyDatagram b f) := by
  refine keepsInterest_modifyDescriptor b fun d => ?_
  unfold EventableDescriptor.pollState
  cases d.sub <;> rfl

/-- Closing a socket leaves no interest to keep. -/
theorem keepsInterest_invalidate (b : Binding) :
    KeepsInterest (modifyDescriptor b fun d => { d with mySocket := invalidSocket }) := by
  intro s
  rw [wp_modifyDescriptor]
  intro d hd
  refine keptBut_of_update hd rfl fun a _ ha => ?_
  cases a with
  | pause => exact ha
  | size => exact ha
  | bit i => exact Bit.current_invalidate i d

end Primitives

/-! ## `_UpdateEvents` ends a stale stretch -/

/-- Whatever facts of `self` went stale since `s₀`, `_UpdateEvents` recomputes the bits it is
asked for; when those are all the stale facts, every fact of `s₀` holds again. -/
theorem updateEvents_repairs {st : Binding → Aspect → Prop} {s₀ s : Reactor} {self : Binding}
    {read write : Bool} {E : Reactor → Prop} (h : KeptBut st s₀ s)
    (hst : ∀ b a, st b a → b = self ∧ a.asked read write = true) :
    wp (ConnectionDescriptor.updateEvents self read write) (fun _ => InterestKept s₀) E s := by
  simp only [ConnectionDescriptor.updateEvents, pure_bind, wp_bind, wp_descriptor, wp_ite, wp_pure,
    wp_connection, wp_modifyDescriptor, modifyInterest, wp_emit]
  intro d hd
  refine ⟨fun hinv => h.repair (.refl _ _) fun b a hba => ?_,
    fun _ => ⟨fun hrw => h.repair (.refl _ _) fun b a hba => ?_, fun _ d₁ hd₁ c hc d₂ hd₂ => ?_⟩⟩
  · -- a closed socket has no interest to keep
    obtain ⟨rfl, ha⟩ := hst b a hba
    intro d' hd'
    obtain rfl := Option.some.inj (hd.symm.trans hd')
    cases a with
    | bit i => exact fun _ _ hvalid => absurd hinv hvalid
    | _ => cases ha
  · -- nothing is asked, so nothing was stale
    obtain ⟨-, ha⟩ := hst b a hba
    cases a with
    | bit i => cases i <;> simp_all [Aspect.asked, Bit.asked]
    | _ => cases ha
  · obtain rfl := Option.some.inj (hd.symm.trans hd₁)
    obtain rfl := Option.some.inj (hd.symm.trans hd₂)
    have hkeep : ∀ s' : Reactor, s'.descriptors = Function.update s.descriptors self
        (some { d with epollEvents := (ConnectionDescriptor.updatedEvents d c read write
          d.epollEvents) }) → InterestKept s₀ s' := fun s' hs' =>
      h.repair (keptBut_of_update hd hs' fun _ _ ha => Aspect.holds_updatedEvents hc fun _ => ha)
        fun b a hba d' hd' => by
          obtain ⟨rfl, ha⟩ := hst b a hba
          rw [hs', Function.update_same] at hd'
          exact Option.some.inj hd' ▸ Aspect.holds_updatedEvents hc fun h =>
            absurd (h.symm.trans ha) Bool.false_ne_true
    exact ⟨fun _ => hkeep _ rfl, fun _ => hkeep _ rfl⟩

/-- A method that keeps the interest, run inside a stale stretch, keeps the stretch. -/
theorem KeepsInterest.keptBut {α : Type} {x : EM α} (hx : KeepsInterest x)
    {st : Binding → Aspect → Prop} {s₀ s : Reactor} (h : KeptBut st s₀ s) :
    wp x (fun _ => KeptBut st s₀) (KeptBut st s₀) s :=
  wp_mono (hx s) (fun _ _ => h.interestKept) fun _ => h.interestKept

/-- A write of `self` that keeps every fact `_UpdateEvents (read, write)` does not recompute,
followed by that update. -/
theorem updateEvents_after_write {s₀ s : Reactor} {self : Binding} {d d' : EventableDescriptor}
    {read write : Bool} {E : Reactor → Prop} (h₀ : InterestKept s₀ s)
    (hd : s.descriptors self = some d)
    (h : ∀ a : Aspect, a.asked read write = false → a.Holds d → a.Holds d') :
    wp (ConnectionDescriptor.updateEvents self read write) (fun _ => InterestKept s₀) E
      { s with descriptors := Function.update s.descriptors self (some d') } := by
  have h₁ : KeptBut (fun b a => b = self ∧ a.asked read write = true) s
      { s with descriptors := Function.update s.descriptors self (some d') } :=
    keptBut_of_update hd rfl fun a ha => h a (Bool.eq_false_iff.2 fun h => ha ⟨rfl, h⟩)
  exact updateEvents_repairs ((h₀.trans h₁).mono fun _ _ h => h.elim False.elim id)
    fun _ _ h => h

theorem keepsInterest_update_then_updateEvents {self : Binding} {read write : Bool}
    {f : EventableDescriptor → EventableDescriptor}
    (h : ∀ (a : Aspect) d, a.asked read write = false → a.Holds d → a.Holds (f d)) :
    KeepsInterest (modifyDescriptor self f >>= fun _ =>
      ConnectionDescriptor.updateEvents self read write) := fun s => by
  rw [wp_bind, wp_modifyDescriptor]
  exact fun d hd => updateEvents_after_write (.refl _ s) hd fun a ha => h a d ha

/-! ## The base class -/

namespace EventableDescriptor

theorem keepsInterest_close (self : Binding) : KeepsInterest (close self) := by
  simp only [close, pure_bind]
  refine (preserves_descriptor _).keepsInterest.bind fun d => .ite ?_ (guarantee_pure _)
  exact (keepsInterest_emit _).bind fun _ => .ite ((keepsInterest_emit _).bind fun _ =>
    (keepsInterest_emit _).bind fun _ => keepsInterest_invalidate _) (keepsInterest_invalidate _)

theorem keepsInterest_scheduleClose (self : Binding) (afterWriting : Bool) :
    KeepsInterest (scheduleClose self afterWriting) := by
  unfold scheduleClose
  exact (preserves_descriptor _).keepsInterest.bind fun d =>
    .ite (.ite (keepsInterest_modifyDescriptor _ fun _ => by rfl) (guarantee_pure _))
      ((keepsInterest_modify fun _ => by rfl).bind fun _ =>
        .ite (keepsInterest_modifyDescriptor _ fun _ => by rfl)
          (keepsInterest_modifyDescriptor _ fun _ => by rfl))

end EventableDescriptor

/-- `QueueHeartbeat` writes only the deadline, which the poll state does not read. -/
theorem keepsInterest_queueHeartbeat (self : Binding) : KeepsInterest (queueHeartbeat self) := by
  intro s
  by_cases hlive : ∃ d, s.descriptors self = some d
  · obtain ⟨d, hd⟩ := hlive
    exact wp_mono (queueHeartbeat_spec hd) (fun _ _ h => interestKept_of_update hd h.1 rfl)
      fun _ h => h.elim
  · simp only [queueHeartbeat, EventableDescriptor.getNextHeartbeat, wp_bind, wp_descriptor]
    exact fun d hd => absurd ⟨d, hd⟩ hlive

namespace EventableDescriptor

theorem keepsInterest_setPendingConnectTimeout (self : Binding) (value : UInt64) :
    KeepsInterest (setPendingConnectTimeout self value) := by
  unfold setPendingConnectTimeout
  exact .ite ((keepsInterest_modifyDescriptor _ fun _ => by rfl).bind fun _ =>
    (keepsInterest_queueHeartbeat _).bind fun _ => guarantee_pure _) (guarantee_pure _)

theorem keepsInterest_setProxiedFrom (self : Binding) (src : Option Binding) (bufsize : Nat) :
    KeepsInterest (setProxiedFrom self src bufsize) := by
  unfold setProxiedFrom
  exact (preserves_descriptor _).keepsInterest.bind fun _ =>
    .when (guarantee_throw_runtimeError _) (keepsInterest_modifyDescriptor _ fun _ => by rfl)

theorem keepsInterest_stopProxy (self : Binding) : KeepsInterest (stopProxy self) := by
  unfold stopProxy
  refine (preserves_descriptor _).keepsInterest.bind fun d => ?_
  split
  · exact (keepsInterest_setProxiedFrom _ _ _).bind fun _ =>
      keepsInterest_modifyDescriptor _ fun _ => by rfl
  · exact guarantee_pure _

theorem keepsInterest_startProxy (self target : Binding) (bufsize length : Nat) :
    KeepsInterest (startProxy self target bufsize length) := by
  unfold startProxy
  refine preserves_get.keepsInterest.bind fun r => ?_
  split
  · exact (keepsInterest_stopProxy _).bind fun _ =>
      (keepsInterest_modifyDescriptor _ fun _ => by rfl).bind fun _ =>
        keepsInterest_setProxiedFrom _ _ _
  · exact guarantee_throw_runtimeError _

end EventableDescriptor

/-! ## The setters -/

namespace ConnectionDescriptor

theorem keepsInterest_updateEvents (self : Binding) (read write : Bool) :
    KeepsInterest (updateEvents self read write) := fun s =>
  updateEvents_repairs (.refl (fun _ _ => False) s) fun _ _ h => h.elim

theorem keepsInterest_setAttached (self : Binding) (state : Bool) :
    KeepsInterest (setAttached self state) :=
  keepsInterest_modifyDescriptor _ fun _ => by rfl

/-- `SetConnectPending` changes both selectors and recomputes both bits, so it also ends a
stretch in which the bits of `self` went stale; the heartbeat it queues in between writes only
the deadline. -/
theorem setConnectPending_repairs {st : Binding → Aspect → Prop} {s₀ s : Reactor}
    {self : Binding} {f : Bool} {E : Reactor → Prop} (h : KeptBut st s₀ s)
    (hst : ∀ b a, st b a → b = self ∧ a.asked true true = true) :
    wp (setConnectPending self f) (fun _ => InterestKept s₀) E s := by
  simp only [setConnectPending, modifyConnection, wp_bind, wp_modifyDescriptor]
  intro d hd
  let d₁ : EventableDescriptor :=
    { d with sub := d.sub.mapConnection fun c => { c with bConnectPending := f } }
  let s₁ : Reactor := { s with descriptors := Function.update s.descriptors self (some d₁) }
  have hd₁ : s₁.descriptors self = some d₁ := Function.update_same _ _ _
  have h₁ : KeptBut (fun b a => b = self ∧ a.asked true true = true) s s₁ :=
    keptBut_of_update hd rfl fun a ha => Aspect.forall_unasked (P := fun a => a.Holds d → a.Holds d₁)
      (fun hp => Aspect.Holds.mapConnection (a := .pause) hp (fun h => nomatch h) fun _ h => nomatch h)
      (fun hz => Aspect.Holds.mapConnection (a := .size) hz (fun _ _ h => h) fun _ h => nomatch h)
      a (Bool.eq_false_iff.2 fun h => ha ⟨rfl, h⟩)
  refine wp_mono (queueHeartbeat_spec hd₁) (fun _ s₂ h₂ => ?_) fun _ h => h.elim
  exact updateEvents_repairs (((h.trans h₁).interestKept
    (interestKept_of_update hd₁ h₂.1 rfl)).mono fun _ _ h => h.elim (hst _ _) id) fun _ _ h => h

theorem keepsInterest_setConnectPending (self : Binding) (f : Bool) :
    KeepsInterest (setConnectPending self f) := fun s =>
  setConnectPending_repairs (.refl (fun _ _ => False) s) fun _ _ h => h.elim

theorem keepsInterest_setNotifyReadable (self : Binding) (readable : Bool) :
    KeepsInterest (setNotifyReadable self readable) := by
  unfold setNotifyReadable
  exact (preserves_descriptor _).keepsInterest.bind fun _ => .when (guarantee_throw_runtimeError _) <|
    keepsInterest_update_then_updateEvents fun a _ ha hh => hh.mapConnection (fun _ _ h => h)
      fun i hi _ => by
        subst hi
        cases i
        · cases ha
        · rfl

theorem keepsInterest_setNotifyWritable (self : Binding) (writable : Bool) :
    KeepsInterest (setNotifyWritable self writable) := by
  unfold setNotifyWritable
  exact (preserves_descriptor _).keepsInterest.bind fun _ => .when (guarantee_throw_runtimeError _) <|
    keepsInterest_update_then_updateEvents fun a _ ha hh => hh.mapConnection (fun _ _ h => h)
      fun i hi _ => by
        subst hi
        cases i
        · rfl
        · cases ha

/-- `Pause` refuses a watch-only connection, so the one it pauses is not watch-only. -/
theorem keepsInterest_pause (self : Binding) : KeepsInterest (pause self) := by
  intro s
  simp only [pause, wp_bind, wp_descriptor, wp_ite, throw_bind, wp_throw_runtimeError,
    wp_modifyDescriptor, wp_pure]
  intro d hd
  refine ⟨fun _ => .refl _ s, fun hw d' hd' => ?_⟩
  obtain rfl := Option.some.inj (hd.symm.trans hd')
  exact updateEvents_after_write (.refl _ s) hd <| Aspect.forall_unasked
    (fun _ _ _ h => absurd h hw) id

theorem keepsInterest_resume (self : Binding) : KeepsInterest (resume self) := by
  intro s
  simp only [resume, wp_bind, wp_descriptor, wp_ite, throw_bind, wp_throw_runtimeError,
    wp_modifyDescriptor, wp_pure]
  intro d hd
  refine ⟨fun _ => .refl _ s, fun _ d' hd' => ?_⟩
  obtain rfl := Option.some.inj (hd.symm.trans hd')
  exact updateEvents_after_write (.refl _ s) hd <| Aspect.forall_unasked (fun _ _ _ _ => rfl) id

/-- `SetWatchOnly` on a connection that is not paused ends a stretch in which the bits of `self`
went stale. -/
theorem setWatchOnly_repairs {st : Binding → Aspect → Prop} {s₀ s : Reactor} {self : Binding}
    {E : Reactor → Prop} (h : KeptBut st s₀ s)
    (hst : ∀ b a, st b a → b = self ∧ a.asked true true = true)
    (hp : s.Holds (fun d => d.bPaused = false) self) (watching : Bool) :
    wp (setWatchOnly self watching) (fun _ => InterestKept s₀) E s := by
  simp only [setWatchOnly, wp_bind, wp_modifyDescriptor]
  intro d hd
  have h₁ : KeptBut (fun b a => b = self ∧ a.asked true true = true) s
      { s with
        descriptors := (Function.update s.descriptors self (some { d with bWatchOnly := watching })) } :=
    keptBut_of_update hd rfl fun a ha => Aspect.forall_unasked
      (P := fun a => a.Holds d → a.Holds { d with bWatchOnly := watching })
      (fun _ _ _ _ => hp d hd) id a (Bool.eq_false_iff.2 fun h => ha ⟨rfl, h⟩)
  exact updateEvents_repairs ((h.trans h₁).mono fun _ _ h => h.elim (hst _ _) id) fun _ _ h => h

end ConnectionDescriptor

namespace Virtual

/-- A base pointer pauses a connection through its own `Pause`, and sets `bPaused` of anything
else, which has no poll interest to keep. -/
theorem keepsInterest_pause (self : Binding) : KeepsInterest (pause self) := by
  intro s
  simp only [pause, wp_bind, wp_descriptor]
  intro d hd
  split
  · exact ConnectionDescriptor.keepsInterest_pause self s
  · next hsub =>
    simp only [EventableDescriptor.pause, wp_bind, wp_modifyDescriptor, wp_pure]
    intro d' hd'
    obtain rfl := Option.some.inj (hd.symm.trans hd')
    exact interestKept_of_update hd rfl (EventableDescriptor.pollState_of_not_connection hsub hsub)

theorem keepsInterest_resume (self : Binding) : KeepsInterest (resume self) := by
  intro s
  simp only [resume, wp_bind, wp_descriptor]
  intro d hd
  split
  · exact ConnectionDescriptor.keepsInterest_resume self s
  · next hsub =>
    simp only [EventableDescriptor.resume, wp_bind, wp_modifyDescriptor, wp_pure]
    intro d' hd'
    obtain rfl := Option.some.inj (hd.symm.trans hd')
    exact interestKept_of_update hd rfl (EventableDescriptor.pollState_of_not_connection hsub hsub)

end Virtual

/-! ## Queueing outbound data -/

namespace ConnectionDescriptor

theorem keepsInterest_sslCall {α : Type} (self : Binding) (query : SslBox → α × SslBox) :
    KeepsInterest (sslCall self query) := by
  unfold sslCall
  refine (preserves_connection _).keepsInterest.bind fun c => ?_
  split
  · exact (keepsInterest_modifyConnection _ fun _ => by rfl).bind fun _ => guarantee_pure _
  · exact guarantee_throw_assertionFailed _

theorem keepsInterest_scheduleClose (self : Binding) (afterWriting : Bool) :
    KeepsInterest (scheduleClose self afterWriting) := by
  unfold scheduleClose
  exact (preserves_descriptor _).keepsInterest.bind fun _ =>
    .when (guarantee_throw_runtimeError _) (EventableDescriptor.keepsInterest_scheduleClose _ _)

/-- The one stream enqueue adds its bytes to the queue and to the count alike, and recomputes the
write bit. -/
theorem keepsInterest_sendRawOutboundData (self : Binding) (data : OutboundData) :
    KeepsInterest (sendRawOutboundData self data) := by
  intro s
  simp only [sendRawOutboundData, wp_bind, wp_descriptor]
  intro d hd
  by_cases hs : d.isCloseScheduled = true
  · simpa [hs] using KeptBut.refl (fun _ _ => False) s
  by_cases hlen : data.length = 0
  · simpa [hs, hlen] using KeptBut.refl (fun _ _ => False) s
  cases data with
  | null => simpa [hs, hlen] using KeptBut.refl (fun _ _ => False) s
  | bytes bytes =>
    have hm : InterestKept s { s with mallocResults := s.mallocResults.tail } :=
      interestKept_of_pollView rfl
    simp only [hs, hlen, Bool.false_eq_true, if_false, pure_bind, wp_bind, wp_malloc]
    split_ifs
    · exact hm
    · simp only [modifyConnection, wp_bind, wp_modifyDescriptor, wp_pure]
      intro d' hd'
      obtain rfl : d' = d := Option.some.inj (hd'.symm.trans hd)
      refine updateEvents_after_write hm hd' fun a ha hh => hh.mapConnection
        (fun _ c h => ?_) fun i hi c => ?_
      · simp only [unsentBytes_append, List.length_append, unsentBytes_cons, unsentBytes_nil,
          OutboundPage.unsent_fresh, List.append_nil]
        push_cast
        omega
      · subst hi
        cases i
        · rfl
        · cases ha

theorem keepsInterest_drainCiphertext (self : Binding) :
    ∀ fuel, KeepsInterest (drainCiphertext self fuel)
  | 0 => guarantee_pure _
  | fuel + 1 => by
    simp only [drainCiphertext]
    exact (keepsInterest_sslCall _ _).bind fun _ => .ite (guarantee_pure _) <|
      (keepsInterest_sslCall _ _).bind fun _ => .when (guarantee_throw_assertionFailed _) <|
        (keepsInterest_sendRawOutboundData _ _).discard.bind fun _ =>
          (keepsInterest_drainCiphertext self fuel).discard.bind fun _ => guarantee_pure _

theorem keepsInterest_pumpPlaintext (self : Binding) :
    ∀ fuel, KeepsInterest (pumpPlaintext self fuel)
  | 0 => guarantee_pure _
  | fuel + 1 => by
    simp only [pumpPlaintext]
    exact (keepsInterest_sslCall _ _).bind fun _ =>
      .ite ((keepsInterest_pumpPlaintext self fuel).discard.bind fun _ => guarantee_pure _) <|
        .when (keepsInterest_scheduleClose _ _) (guarantee_pure _)

theorem keepsInterest_dispatchCiphertextLoop (self : Binding) (fuel : Nat) :
    ∀ passes, KeepsInterest (dispatchCiphertextLoop self fuel passes)
  | 0 => guarantee_pure _
  | passes + 1 => by
    simp only [dispatchCiphertextLoop]
    exact (keepsInterest_drainCiphertext _ _).bind fun _ => (keepsInterest_pumpPlaintext _ _).bind
      fun _ => .ite (keepsInterest_dispatchCiphertextLoop self fuel passes) (guarantee_pure _)

theorem keepsInterest_dispatchCiphertext (self : Binding) :
    KeepsInterest (dispatchCiphertext self) := by
  unfold dispatchCiphertext
  refine (preserves_connection _).keepsInterest.bind fun c => ?_
  split
  · exact keepsInterest_dispatchCiphertextLoop _ _ _
  · exact guarantee_throw_assertionFailed _

theorem keepsInterest_putPlaintextPieces (self : Binding) (data : OutboundData) :
    KeepsInterest (putPlaintextPieces self data) := by
  unfold putPlaintextPieces
  lift_lets
  intro _ col jp
  have hjp : ∀ y, KeepsInterest (jp y) := fun _ => (keepsInterest_sslCall _ _).bind fun _ =>
    .ite ((keepsInterest_scheduleClose _ _).bind fun _ => guarantee_pure _)
      ((keepsInterest_dispatchCiphertext _).bind fun _ => guarantee_pure _)
  exact (Guarantee.forIn col PUnit.unit fun _ _ => .ite
    ((guarantee_throw_undefinedBehaviour _).bind hjp) ((guarantee_pure _).bind hjp)).bind fun _ =>
      guarantee_pure _

theorem keepsInterest_sendOutboundData (self : Binding) (data : OutboundData) :
    KeepsInterest (sendOutboundData self data) := by
  unfold sendOutboundData
  refine (preserves_descriptor _).keepsInterest.bind fun d =>
    .when (guarantee_throw_runtimeError _) ?_
  lift_lets
  intro raw one tls
  have hraw : ∀ y, KeepsInterest (raw y) := fun _ => keepsInterest_sendRawOutboundData _ _
  have hone : ∀ y, KeepsInterest (one y) := fun _ => guarantee_pure _
  have htls : ∀ y, KeepsInterest (tls y) := fun _ =>
    (preserves_connection _).keepsInterest.bind fun _ => .ite
      (.ite ((keepsInterest_putPlaintextPieces _ _).bind hone) ((guarantee_pure _).bind hone))
      ((guarantee_pure _).bind hraw)
  split
  · exact .ite ((Virtual.keepsInterest_pause _).discard.bind htls) ((guarantee_pure _).bind htls)
  · exact (guarantee_pure _).bind htls

theorem keepsInterest_startTls (self : Binding) (box : SslBox) :
    KeepsInterest (startTls self box) := by
  unfold startTls
  exact (preserves_connection _).keepsInterest.bind fun _ =>
    .when (guarantee_throw_runtimeError _) <|
      (keepsInterest_modifyConnection _ fun _ => by rfl).bind fun _ => keepsInterest_dispatchCiphertext _

theorem keepsInterest_setTlsParms (self : Binding) (parms : TlsParms) :
    KeepsInterest (setTlsParms self parms) := by
  unfold setTlsParms
  exact (preserves_connection _).keepsInterest.bind fun _ =>
    .when (guarantee_throw_runtimeError _) (keepsInterest_modifyConnection _ fun _ => by rfl)

end ConnectionDescriptor

namespace DatagramDescriptor

/-- The datagram enqueue sets the mask of `self` itself, which is no connection's interest when
`self` is not a connection. -/
theorem queueDatagram_keepsInterest {s : Reactor} {self : Binding}
    (hnc : ∀ d, s.descriptors self = some d → ∀ c, d.sub = .connection c → False)
    (data : OutboundData) (dest : SockAddr) :
    wp (queueDatagram self data dest) (fun _ => InterestKept s) (InterestKept s) s := by
  simp only [queueDatagram, pure_bind, wp_bind]
  split_ifs
  · exact .refl _ s
  simp only [wp_bind, wp_malloc]
  split_ifs
  · exact interestKept_of_pollView rfl
  · simp only [modifyDatagram, modifyInterest, wp_bind, wp_modifyDescriptor, wp_emit, wp_pure,
      Function.update_same, Option.some.injEq, forall_eq', Function.update_idem]
    intro d hd
    refine interestKept_of_update hd rfl (EventableDescriptor.pollState_of_not_connection
      (fun c h => ?_) (hnc d hd))
    cases hsub : d.sub <;> simp_all [Subclass.mapDatagram]

theorem keepsInterest_sendOutboundData (self : Binding) (data : OutboundData) :
    KeepsInterest (sendOutboundData self data) := by
  intro s
  simp only [sendOutboundData, pure_bind, wp_bind, wp_descriptor, wp_datagram]
  intro d hd
  split_ifs
  · exact .refl _ s
  · simp only [wp_bind, wp_datagram]
    intro d' hd' g hg
    exact queueDatagram_keepsInterest (fun d'' hd'' c hc => by
      obtain rfl := Option.some.inj (hd'.symm.trans hd'')
      rw [hg] at hc
      cases hc) _ _

/-- `SendOutboundDatagram` on a datagram socket. -/
theorem sendOutboundDatagram_keepsInterest {s : Reactor} {self : Binding}
    (hnc : ∀ d, s.descriptors self = some d → ∀ c, d.sub = .connection c → False)
    (data : OutboundData) (address : Option String) (port : Int) (resolved : Option SockAddr) :
    wp (sendOutboundDatagram self data address port resolved) (fun _ => InterestKept s)
      (InterestKept s) s := by
  simp only [sendOutboundDatagram, pure_bind, wp_bind, wp_descriptor]
  intro d hd
  split_ifs
  · exact .refl _ s
  · exact .refl _ s
  · cases resolved with
    | none => exact .refl _ s
    | some dest => exact queueDatagram_keepsInterest hnc _ _

end DatagramDescriptor

namespace Virtual

theorem keepsInterest_sendOutboundData (self : Binding) (data : OutboundData) :
    KeepsInterest (sendOutboundData self data) := by
  unfold sendOutboundData EventableDescriptor.sendOutboundData
  refine (preserves_descriptor _).keepsInterest.bind fun d => ?_
  split
  · exact ConnectionDescriptor.keepsInterest_sendOutboundData _ _
  · exact DatagramDescriptor.keepsInterest_sendOutboundData _ _
  · exact guarantee_pure _

end Virtual

/-! ## The public operations and the application -/

theorem ConnectionDescriptor.keepsInterest_setCommInactivityTimeout (self : Binding)
    (value : UInt64) : KeepsInterest (ConnectionDescriptor.setCommInactivityTimeout self value) :=
  (keepsInterest_modifyDescriptor _ fun _ => by rfl).bind fun _ =>
    (keepsInterest_queueHeartbeat _).bind fun _ => guarantee_pure _

theorem DatagramDescriptor.keepsInterest_setCommInactivityTimeout (self : Binding)
    (value : UInt64) : KeepsInterest (DatagramDescriptor.setCommInactivityTimeout self value) := by
  unfold DatagramDescriptor.setCommInactivityTimeout
  exact .ite ((keepsInterest_modifyDescriptor _ fun _ => by rfl).bind fun _ =>
    (keepsInterest_queueHeartbeat _).bind fun _ => guarantee_pure _) (guarantee_pure _)

theorem AcceptorDescriptor.keepsInterest_stopAcceptor (binding : Binding) :
    KeepsInterest (AcceptorDescriptor.stopAcceptor binding) := by
  unfold AcceptorDescriptor.stopAcceptor
  refine preserves_get.keepsInterest.bind fun r => ?_
  split
  · exact .ite (EventableDescriptor.keepsInterest_scheduleClose _ _)
      (guarantee_throw_runtimeError _)
  · exact guarantee_throw_runtimeError _

namespace Virtual

theorem keepsInterest_scheduleClose (self : Binding) (afterWriting : Bool) :
    KeepsInterest (scheduleClose self afterWriting) := by
  unfold scheduleClose
  refine (preserves_descriptor _).keepsInterest.bind fun d => ?_
  split
  · exact ConnectionDescriptor.keepsInterest_scheduleClose _ _
  · exact EventableDescriptor.keepsInterest_scheduleClose _ _

theorem keepsInterest_setCommInactivityTimeout (self : Binding) (value : UInt64) :
    KeepsInterest (setCommInactivityTimeout self value) := by
  unfold setCommInactivityTimeout
  refine (preserves_descriptor _).keepsInterest.bind fun d => ?_
  split
  · exact ConnectionDescriptor.keepsInterest_setCommInactivityTimeout _ _
  · exact DatagramDescriptor.keepsInterest_setCommInactivityTimeout _ _
  · exact guarantee_pure _

end Virtual

theorem keepsInterest_detachFd (b : Binding) : KeepsInterest (detachFd b) :=
  (preserves_descriptor _).keepsInterest.bind fun _ =>
    (keepsInterest_invalidate _).bind fun _ => guarantee_pure _

theorem keepsInterest_onDescriptor (b : Binding) {x : EM Unit} (hx : KeepsInterest x) :
    KeepsInterest (onDescriptor b x) := by
  unfold onDescriptor
  refine preserves_get.keepsInterest.bind fun r => ?_
  split
  · exact hx
  · exact guarantee_throw_runtimeError _

/-- `x` keeps the interest whenever the descriptor behind `b` is of a class `ofClass` accepts. -/
theorem keepsInterest_onClass_of (b : Binding) (ofClass : Subclass → Bool) {x : EM Unit}
    (hx : ∀ s d, s.descriptors b = some d → ofClass d.sub = true →
      wp x (fun _ => InterestKept s) (InterestKept s) s) :
    KeepsInterest (onClass b ofClass x) := by
  intro s
  simp only [onClass, wp_bind, wp_get]
  split
  · next d hd =>
    simp only [wp_ite, wp_throw_runtimeError]
    exact ⟨hx s d hd, fun _ => .refl _ s⟩
  · exact .refl _ s

theorem keepsInterest_runApiCall (c : ApiCall) : KeepsInterest (runApiCall c) := by
  have hclass : ∀ b ofClass {x : EM Unit}, KeepsInterest x →
      KeepsInterest (onClass b ofClass x) := fun b ofClass _ hx =>
    keepsInterest_onClass_of b ofClass fun s _ _ _ => hx s
  cases c with
  | scheduleClose b afterWriting =>
    exact keepsInterest_onDescriptor _ (Virtual.keepsInterest_scheduleClose _ _)
  | sendOutboundData b data =>
    exact keepsInterest_onDescriptor _ (Virtual.keepsInterest_sendOutboundData _ _).discard
  | sendOutboundDatagram b data address port resolved =>
    refine keepsInterest_onClass_of _ _ fun s d hd hdg => wp_discard.2 <|
      DatagramDescriptor.sendOutboundDatagram_keepsInterest (fun d' hd' c hc => ?_) _ _ _ _
    obtain rfl := Option.some.inj (hd.symm.trans hd')
    rw [hc] at hdg
    cases hdg
  | startProxy b target bufsize length =>
    exact keepsInterest_onDescriptor _ (EventableDescriptor.keepsInterest_startProxy _ _ _ _)
  | stopProxy b => exact keepsInterest_onDescriptor _ (EventableDescriptor.keepsInterest_stopProxy _)
  | pause b => exact keepsInterest_onDescriptor _ (Virtual.keepsInterest_pause _).discard
  | resume b => exact keepsInterest_onDescriptor _ (Virtual.keepsInterest_resume _).discard
  | setNotifyReadable b readable =>
    exact hclass _ _ (ConnectionDescriptor.keepsInterest_setNotifyReadable _ _)
  | setNotifyWritable b writable =>
    exact hclass _ _ (ConnectionDescriptor.keepsInterest_setNotifyWritable _ _)
  | setCommInactivityTimeout b value =>
    exact keepsInterest_onDescriptor _ (Virtual.keepsInterest_setCommInactivityTimeout _ _).discard
  | setPendingConnectTimeout b value =>
    exact keepsInterest_onDescriptor _
      (EventableDescriptor.keepsInterest_setPendingConnectTimeout _ _).discard
  | startTls b box => exact hclass _ _ (ConnectionDescriptor.keepsInterest_startTls _ _)
  | setTlsParms b parms => exact hclass _ _ (ConnectionDescriptor.keepsInterest_setTlsParms _ _)
  | stopAcceptor b => exact AcceptorDescriptor.keepsInterest_stopAcceptor _
  | detach b => exact keepsInterest_onDescriptor _ (keepsInterest_detachFd _).discard

theorem keepsInterest_runCalls : ∀ calls, KeepsInterest (runCalls calls)
  | [] => guarantee_pure _
  | c :: calls => (keepsInterest_runApiCall c).rescue.bind fun _ => keepsInterest_runCalls calls

theorem keepsInterest_invokeCallback (app : App) (b : Binding) (kind : EventKind)
    (data : List Byte) (value : Int) : KeepsInterest (invokeCallback app b kind data value) :=
  (keepsInterest_callback _ _ _ _).bind fun _ => preserves_get.keepsInterest.bind fun _ =>
    keepsInterest_runCalls _

end EventMachine

import EventMachine.PollRuns
import Mathlib

/-!
# The outbound ledger

A stream and a datagram socket keep `OutboundDataSize` beside the queue it counts, and the
reactor relies on the two agreeing: `SelectForWrite ()` of a stream reads the count, and
`_WriteOutboundData` asserts that a flush it was woken for gathers something. In the `writev`
build the count of a stream is exactly its unsent bytes and no page the kernel has taken in
full stays queued (`ConnectionDescriptor.Counted`). The copy build can leave a spent page at the
front of the queue, and a failed allocation there drops bytes the count still holds, so the
stream's entry is kept for the `writev` build only. A datagram socket counts the bytes of its
queued datagrams, and while its socket is open its mask is `EPOLLIN`, with `EPOLLOUT` exactly
while a datagram is queued (`DatagramDescriptor.armedEvents`): the enqueue arms it, and `Write`
recomputes it after its send loop.

Every method keeps these entries (`KeepsLedger`), though two break an entry of `self` for a
while: `_WriteOutboundData` lowers the count before the sent pages leave the queue, and the send
loop of a datagram socket pops datagrams before `Write` recomputes the mask. `LedgerBut` names
the entries that may be stale, as `KeptBut` does for the poll interest. This module keeps the
ledger through every method but the two poll-driven writes, which `LedgerRuns` takes on.
-/

namespace EventMachine

/-! ## The entries of one descriptor -/

namespace ConnectionDescriptor

/-- The `writev` build's ledger of a stream: `OutboundDataSize` is the number of unsent bytes,
and every queued page still has some. -/
structure Counted (c : ConnectionDescriptor) : Prop where
  size_eq : c.outboundDataSize = (unsentBytes c.outboundPages).length
  unspent : ∀ p ∈ c.outboundPages, 0 < p.unsentLength

/-- What the stream's entry reads: the queue and the count. -/
def ledgerInputs (c : ConnectionDescriptor) : List OutboundPage × Int :=
  (c.outboundPages, c.outboundDataSize)

variable {c c' : ConnectionDescriptor}

theorem Counted.of_ledgerInputs (h : c'.ledgerInputs = c.ledgerInputs) (hc : c.Counted) :
    c'.Counted := by
  obtain ⟨hp, hs⟩ := Prod.mk.inj h
  exact ⟨by rw [hs, hp, hc.size_eq], hp ▸ hc.unspent⟩

/-- A new connection queues nothing and counts nothing. -/
theorem counted_empty : ({} : ConnectionDescriptor).Counted := ⟨rfl, nofun⟩

/-- `_SendRawOutboundData` appends a page of bytes and adds its length. -/
theorem Counted.append (hc : c.Counted) {bytes : List Byte} (hb : bytes ≠ []) :
    ({ c with outboundPages := c.outboundPages ++ [⟨bytes, 0⟩]
              outboundDataSize := c.outboundDataSize + bytes.length } :
      ConnectionDescriptor).Counted where
  size_eq := by
    simp only [unsentBytes_append, unsentBytes_cons, unsentBytes_nil, OutboundPage.unsent_fresh,
      List.append_nil, List.length_append, hc.size_eq]
    push_cast
    rfl
  unspent p hp := by
    rcases List.mem_append.1 hp with hp | hp
    · exact hc.unspent p hp
    · obtain rfl := List.mem_singleton.1 hp
      simpa [OutboundPage.unsentLength, OutboundPage.length, List.length_pos] using hb

end ConnectionDescriptor

/-- The `writev` loop leaves no spent page: a page sent in full is popped, and the first page
sent in part keeps the bytes the kernel did not take. -/
theorem unspent_consumeSent (n sent : Nat) (pages : List OutboundPage)
    (h : ∀ p ∈ pages, 0 < p.unsentLength) : ∀ p ∈ consumeSent n sent pages, 0 < p.unsentLength := by
  induction n, sent, pages using consumeSent.induct with
  | case1 sent pages => simpa [consumeSent] using h
  | case2 n sent => simp [consumeSent]
  | case3 n sent p pages hle ih =>
    rw [consumeSent, if_pos hle]
    exact ih fun q hq => h q (List.mem_cons_of_mem _ hq)
  | case4 n sent p pages hlt =>
    rw [consumeSent, if_neg hlt]
    intro q hq
    rcases List.mem_cons.1 hq with rfl | hq
    · simp only [OutboundPage.unsentLength, OutboundPage.length] at hlt ⊢
      omega
    · exact h q (List.mem_cons_of_mem _ hq)

/-- A `writev` flush that took `w` of the gathered bytes, once the count has dropped by `w` and
the sent pages have left the queue, leaves a counted stream counted. -/
theorem ConnectionDescriptor.Counted.consume {c : ConnectionDescriptor} (hc : c.Counted)
    {w : Nat} {err : Bool} (hw : w ≤ (gather .writev c.outboundPages).1.length)
    (herr : err = true → w = 0) :
    ({ c with
        outboundPages := consumedPages .writev c.outboundPages (gather .writev c.outboundPages).1 w
          err (gather .writev c.outboundPages).2
        outboundDataSize := c.outboundDataSize - w } : ConnectionDescriptor).Counted where
  size_eq := by
    have hle := length_gather_le .writev c.outboundPages
    simp only [(gather_consumedPages .writev c.outboundPages err hw herr).2, List.length_drop,
      hc.size_eq]
    omega
  unspent := by
    simp only [consumedPages, gather]
    split
    · exact unspent_consumeSent _ _ _ hc.unspent
    · exact hc.unspent

namespace DatagramDescriptor

/-- The bytes of the queued datagrams. -/
def queuedBytes (g : DatagramDescriptor) : Nat :=
  (g.outboundPages.map fun p => p.buffer.length).sum

/-- A datagram socket's count is the bytes of its queued datagrams. -/
def Counted (g : DatagramDescriptor) : Prop := g.outboundDataSize = g.queuedBytes

/-- The mask `Write` registers for a datagram socket: `EPOLLIN`, and `EPOLLOUT` while a
datagram is queued. -/
def armedEvents (g : DatagramDescriptor) : UInt32 :=
  if selectForWrite g then epollIn ||| epollOut else epollIn

/-- What the datagram entries read: the queue and the count. -/
def ledgerInputs (g : DatagramDescriptor) : List DatagramPage × Int :=
  (g.outboundPages, g.outboundDataSize)

variable {g g' : DatagramDescriptor}

theorem Counted.of_ledgerInputs (h : g'.ledgerInputs = g.ledgerInputs) (hg : g.Counted) :
    g'.Counted := by
  obtain ⟨hp, hs⟩ := Prod.mk.inj h
  rw [Counted, queuedBytes, hs, hp]
  exact hg

theorem armedEvents_of_ledgerInputs (h : g'.ledgerInputs = g.ledgerInputs) :
    g'.armedEvents = g.armedEvents := by
  rw [armedEvents, armedEvents, selectForWrite, selectForWrite, (Prod.mk.inj h).1]

theorem counted_empty : ({} : DatagramDescriptor).Counted := rfl

/-- A new datagram socket asks only for `EPOLLIN`. -/
theorem armedEvents_empty : ({} : DatagramDescriptor).armedEvents = epollIn := rfl

/-- With a datagram queued, the mask asks for both. -/
theorem armedEvents_of_ne_nil (h : g.outboundPages ≠ []) :
    g.armedEvents = epollIn ||| epollOut := by
  simp [armedEvents, selectForWrite, List.length_pos.2 h]

/-- The enqueue appends the datagram and adds its length; data with a length is refused before,
so the bytes copied are as many as the length says. -/
theorem Counted.push (hg : g.Counted) {data : OutboundData} (hd : ∀ n, data ≠ .null (n + 1))
    (dest : SockAddr) :
    Counted { g with outboundPages := g.outboundPages ++ [⟨data.toBytes, dest⟩]
                     outboundDataSize := g.outboundDataSize + data.length } := by
  have hlen : data.toBytes.length = data.length := by
    cases data with
    | bytes bytes => rfl
    | null n => cases n with
      | zero => rfl
      | succ n => exact absurd rfl (hd n)
  unfold Counted queuedBytes at hg ⊢
  simp only [List.map_append, List.map_cons, List.map_nil, List.sum_append, List.sum_cons,
    List.sum_nil, hlen, hg]
  omega

/-- The send loop pops the front datagram and subtracts its length. -/
theorem Counted.pop (hg : g.Counted) {op : DatagramPage} {rest : List DatagramPage}
    (hp : g.outboundPages = op :: rest) :
    Counted { g with outboundDataSize := g.outboundDataSize - op.buffer.length
                     outboundPages := g.outboundPages.tail } := by
  simp only [Counted, queuedBytes, hp, List.tail_cons] at hg ⊢
  rw [hg, List.map_cons, List.sum_cons]
  push_cast
  omega

end DatagramDescriptor

/-- The entries of the ledger: a stream's count in the `writev` build, a datagram socket's count,
and the mask of a datagram socket whose socket is open. -/
inductive LedgerFact
  | stream
  | datagram
  | armed

namespace LedgerFact

/-- What the entry says of a descriptor. -/
def Holds (build : Build) : LedgerFact → EventableDescriptor → Prop
  | stream, d => build = .writev → ∀ c, d.sub = .connection c → c.Counted
  | datagram, d => ∀ g, d.sub = .datagram g → g.Counted
  | armed, d => ∀ g, d.sub = .datagram g → d.mySocket ≠ invalidSocket →
      d.epollEvents = g.armedEvents

end LedgerFact

namespace EventableDescriptor

/-- What the ledger reads of a descriptor: the queue and count of a stream; the queue, count,
socket and mask of a datagram socket; nothing of the others. -/
def ledgerState (d : EventableDescriptor) :
    Option (List OutboundPage × Int) × Option ((List DatagramPage × Int) × Int × UInt32) :=
  match d.sub with
  | .connection c => (some c.ledgerInputs, none)
  | .datagram g => (none, some (g.ledgerInputs, d.mySocket, d.epollEvents))
  | _ => (none, none)

variable {d d' : EventableDescriptor}

theorem ledgerState_connection (h : d'.ledgerState = d.ledgerState) {c' : ConnectionDescriptor}
    (hc' : d'.sub = .connection c') :
    ∃ c, d.sub = .connection c ∧ c'.ledgerInputs = c.ledgerInputs := by
  unfold ledgerState at h
  rw [hc'] at h
  cases hd : d.sub with
  | connection c =>
    rw [hd] at h
    exact ⟨c, rfl, Option.some.inj (Prod.mk.inj h).1⟩
  | _ => simp [hd] at h

theorem ledgerState_datagram (h : d'.ledgerState = d.ledgerState) {g' : DatagramDescriptor}
    (hg' : d'.sub = .datagram g') :
    ∃ g, d.sub = .datagram g ∧ g'.ledgerInputs = g.ledgerInputs ∧ d'.mySocket = d.mySocket ∧
      d'.epollEvents = d.epollEvents := by
  unfold ledgerState at h
  rw [hg'] at h
  cases hd : d.sub with
  | datagram g =>
    rw [hd] at h
    have h' := Option.some.inj (Prod.mk.inj h).2
    simp only [Prod.mk.injEq] at h'
    exact ⟨g, rfl, h'.1, h'.2.1, h'.2.2⟩
  | _ => simp [hd] at h

end EventableDescriptor

theorem LedgerFact.Holds.of_ledgerState {f : LedgerFact} {build : Build}
    {d d' : EventableDescriptor} (h : d'.ledgerState = d.ledgerState) (hd : f.Holds build d) :
    f.Holds build d' := by
  cases f with
  | stream =>
    intro hb c' hc'
    obtain ⟨c, hc, hi⟩ := EventableDescriptor.ledgerState_connection h hc'
    exact (hd hb c hc).of_ledgerInputs hi
  | datagram =>
    intro g' hg'
    obtain ⟨g, hg, hi, -⟩ := EventableDescriptor.ledgerState_datagram h hg'
    exact (hd g hg).of_ledgerInputs hi
  | armed =>
    intro g' hg' hs
    obtain ⟨g, hg, hi, hsock, hev⟩ := EventableDescriptor.ledgerState_datagram h hg'
    rw [hev, DatagramDescriptor.armedEvents_of_ledgerInputs hi]
    exact hd g hg (hsock ▸ hs)

/-! ## What stays true of the reactor -/

/-- What every descriptor shows of its ledger. -/
def ledgerView (s : Reactor) (b : Binding) :
    Option (Option (List OutboundPage × Int) × Option ((List DatagramPage × Int) × Int × UInt32)) :=
  (s.descriptors b).map EventableDescriptor.ledgerState

/-- From `s` to `s'`, every entry that held of a descriptor still holds, except the entries
`stale` names. -/
def LedgerBut (build : Build) (stale : Binding → LedgerFact → Prop) (s s' : Reactor) : Prop :=
  ∀ b f, ¬stale b f → s.Holds (f.Holds build) b → s'.Holds (f.Holds build) b

/-- From `s` to `s'`, every entry that held of a descriptor still holds. -/
def LedgerKept (build : Build) (s s' : Reactor) : Prop := LedgerBut build (fun _ _ => False) s s'

namespace LedgerBut

variable {build : Build} {st st' : Binding → LedgerFact → Prop} {s s₁ s₂ : Reactor}

theorem refl (st : Binding → LedgerFact → Prop) (s : Reactor) : LedgerBut build st s s :=
  fun _ _ _ => id

theorem trans (h : LedgerBut build st s s₁) (h' : LedgerBut build st s₁ s₂) :
    LedgerBut build st s s₂ := fun b f hs hh => h' b f hs (h b f hs hh)

theorem mono (h : LedgerBut build st s₁ s₂) (hst : ∀ b f, st b f → st' b f) :
    LedgerBut build st' s₁ s₂ :=
  fun b f hs => h b f fun h => hs (hst b f h)

/-- A stale entry that holds again whenever it held at the start is no longer stale. -/
theorem repair (h : LedgerBut build st s s₁)
    (hst : ∀ b f, st b f → s.Holds (f.Holds build) b → s₁.Holds (f.Holds build) b) :
    LedgerKept build s s₁ := fun b f _ hh => by
  by_cases hs : st b f
  · exact hst b f hs hh
  · exact h b f hs hh

end LedgerBut

theorem LedgerKept.ledgerBut {build : Build} {st : Binding → LedgerFact → Prop} {s s' : Reactor}
    (h : LedgerKept build s s') : LedgerBut build st s s' :=
  LedgerBut.mono h fun _ _ h => h.elim

instance (build : Build) (st : Binding → LedgerFact → Prop) : IsRefl Reactor (LedgerBut build st) :=
  ⟨LedgerBut.refl st⟩

instance (build : Build) (st : Binding → LedgerFact → Prop) :
    IsTrans Reactor (LedgerBut build st) := ⟨fun _ _ _ => LedgerBut.trans⟩

instance (build : Build) : IsRefl Reactor (LedgerKept build) := ⟨LedgerBut.refl _⟩

instance (build : Build) : IsTrans Reactor (LedgerKept build) := ⟨fun _ _ _ => LedgerBut.trans⟩

/-- The relation `Guarantee` asks of every method: `LedgerKept`. -/
abbrev KeepsLedger {α : Type} (build : Build) (x : EM α) : Prop := Guarantee (LedgerKept build) x

/-- A guarantee of a relation is a guarantee of any weaker one. -/
theorem Guarantee.mono {α : Type} {R R' : Reactor → Reactor → Prop} {x : EM α}
    (h : Guarantee R x) (hR : ∀ s s', R s s' → R' s s') : Guarantee R' x := fun s =>
  wp_mono (h s) (fun _ _ => hR _ _) (hR _)

/-! ## Frames and single writes -/

section Frames

variable {build : Build} {s s' : Reactor}

theorem Reactor.Holds.of_ledgerView {P : EventableDescriptor → Prop} {b : Binding}
    (h : ledgerView s' b = ledgerView s b)
    (hP : ∀ d d', d'.ledgerState = d.ledgerState → P d → P d') (hs : s.Holds P b) :
    s'.Holds P b := by
  intro d' hd'
  unfold ledgerView at h
  rw [hd'] at h
  cases hd : s.descriptors b with
  | none => simp [hd] at h
  | some d =>
    rw [hd] at h
    exact hP d d' (Option.some.inj h) (hs d hd)

/-- A state with the ledger view of `s` keeps every entry `s` had. -/
theorem ledgerKept_of_ledgerView (h : ledgerView s' = ledgerView s) : LedgerKept build s s' :=
  fun b _ _ hh => hh.of_ledgerView (congrFun h b) fun _ _ => LedgerFact.Holds.of_ledgerState

theorem Preserves.keepsLedger {α : Type} {x : EM α} (h : Preserves ledgerView x) :
    KeepsLedger build x := fun _ =>
  h.wp (fun _ _ h => ledgerKept_of_ledgerView h) fun _ h => ledgerKept_of_ledgerView h

/-- A write of the descriptor behind `b`: the others keep their entries, and `b` what the
write keeps. -/
theorem ledgerBut_of_set {st : Binding → LedgerFact → Prop} {b : Binding}
    {d' : EventableDescriptor} (hs' : s'.descriptors = Function.update s.descriptors b (some d'))
    (h : ∀ f, ¬st b f → s.Holds (f.Holds build) b → f.Holds build d') : LedgerBut build st s s' := by
  intro b' f hf hh d₁ hd₁
  rw [hs'] at hd₁
  by_cases hb : b' = b
  · subst hb
    rw [Function.update_same] at hd₁
    exact Option.some.inj hd₁ ▸ h f hf hh
  · rw [Function.update_noteq hb] at hd₁
    exact hh d₁ hd₁

theorem ledgerBut_of_update {st : Binding → LedgerFact → Prop} {b : Binding}
    {d d' : EventableDescriptor} (hd : s.descriptors b = some d)
    (hs' : s'.descriptors = Function.update s.descriptors b (some d'))
    (h : ∀ f, ¬st b f → f.Holds build d → f.Holds build d') : LedgerBut build st s s' :=
  ledgerBut_of_set hs' fun f hf hh => h f hf (hh d hd)

/-- A write of the descriptor behind `b` that keeps its ledger state. -/
theorem ledgerKept_of_update {b : Binding} {d d' : EventableDescriptor}
    (hd : s.descriptors b = some d)
    (hs' : s'.descriptors = Function.update s.descriptors b (some d'))
    (h : d'.ledgerState = d.ledgerState) : LedgerKept build s s' :=
  ledgerBut_of_update hd hs' fun _ _ => .of_ledgerState h

/-- Forgetting a binding keeps what every other descriptor had. -/
theorem ledgerKept_of_erase {b : Binding}
    (hs' : s'.descriptors = Function.update s.descriptors b none) : LedgerKept build s s' := by
  intro b' f _ hh d₁ hd₁
  rw [hs'] at hd₁
  by_cases hb : b' = b
  · subst hb
    simp at hd₁
  · rw [Function.update_noteq hb] at hd₁
    exact hh d₁ hd₁

/-- The mask of a connection is no entry of the ledger. -/
theorem ledgerKept_setEvents {b : Binding} {d : EventableDescriptor} {c : ConnectionDescriptor}
    (hd : s.descriptors b = some d) (hc : d.sub = .connection c) (e : UInt32) :
    LedgerKept build s
      { s with descriptors := Function.update s.descriptors b (some { d with epollEvents := e }) } :=
  ledgerKept_of_update hd rfl (by simp only [EventableDescriptor.ledgerState, hc])

end Frames

section Primitives

variable {build : Build}

theorem keepsLedger_modify {f : Reactor → Reactor} (hf : ∀ s, (f s).descriptors = s.descriptors) :
    KeepsLedger build (modify f : EM Unit) := fun s =>
  ledgerKept_of_ledgerView (by unfold ledgerView; rw [hf])

theorem keepsLedger_emit (e : TraceEntry) : KeepsLedger build (emit e) :=
  keepsLedger_modify fun _ => rfl

theorem keepsLedger_callback (b : Binding) (kind : EventKind) (data : List Byte) (value : Int) :
    KeepsLedger build (callback b kind data value) :=
  keepsLedger_modify fun _ => rfl

theorem keepsLedger_malloc : KeepsLedger build malloc := fun _ => LedgerBut.refl _ _

theorem keepsLedger_modifyDescriptor (b : Binding) {f : EventableDescriptor → EventableDescriptor}
    (hf : ∀ d, (f d).ledgerState = d.ledgerState) : KeepsLedger build (modifyDescriptor b f) :=
  (preserves_modifyDescriptor b hf).keepsLedger

theorem ledgerState_mapConnection {d : EventableDescriptor}
    {f : ConnectionDescriptor → ConnectionDescriptor} (hf : ∀ c, (f c).ledgerInputs = c.ledgerInputs) :
    ({ d with sub := d.sub.mapConnection f } : EventableDescriptor).ledgerState = d.ledgerState := by
  unfold EventableDescriptor.ledgerState
  cases d.sub with
  | connection c => simp [Subclass.mapConnection, hf]
  | _ => rfl

/-- A write of a connection's members leaves a datagram socket as it is. -/
theorem Subclass.eq_of_mapConnection_datagram {f : ConnectionDescriptor → ConnectionDescriptor}
    {sub : Subclass} {g : DatagramDescriptor} (h : sub.mapConnection f = .datagram g) :
    sub = .datagram g := by
  cases sub with
  | connection c => cases h
  | _ => exact h

/-- A write of a connection's members keeps every entry but the stream's. -/
theorem LedgerFact.Holds.mapConnection {f : LedgerFact} {build : Build} {d : EventableDescriptor}
    {m : ConnectionDescriptor → ConnectionDescriptor} (hd : f.Holds build d) (hf : f ≠ .stream) :
    f.Holds build { d with sub := d.sub.mapConnection m } := by
  cases f with
  | stream => exact absurd rfl hf
  | datagram => exact fun g hg => hd g (Subclass.eq_of_mapConnection_datagram hg)
  | armed => exact fun g hg => hd g (Subclass.eq_of_mapConnection_datagram hg)

theorem keepsLedger_modifyConnection (b : Binding)
    {f : ConnectionDescriptor → ConnectionDescriptor} (hf : ∀ c, (f c).ledgerInputs = c.ledgerInputs) :
    KeepsLedger build (modifyConnection b f) :=
  keepsLedger_modifyDescriptor b fun _ => ledgerState_mapConnection hf

theorem keepsLedger_modifyDatagram (b : Binding) {f : DatagramDescriptor → DatagramDescriptor}
    (hf : ∀ g, (f g).ledgerInputs = g.ledgerInputs) : KeepsLedger build (modifyDatagram b f) := by
  refine keepsLedger_modifyDescriptor b fun d => ?_
  unfold EventableDescriptor.ledgerState
  cases d.sub with
  | datagram g => simp [Subclass.mapDatagram, hf]
  | _ => rfl

/-- Closing a socket ends the mask entry and leaves the counts. -/
theorem keepsLedger_invalidate (b : Binding) :
    KeepsLedger build (modifyDescriptor b fun d => { d with mySocket := invalidSocket }) := by
  intro s
  rw [wp_modifyDescriptor]
  intro d hd
  refine ledgerBut_of_update hd rfl fun f _ hf => ?_
  cases f with
  | stream => exact hf
  | datagram => exact hf
  | armed => exact fun _ _ hs => absurd rfl hs

end Primitives

/-! ## The base class -/

section Methods

variable {build : Build}

namespace EventableDescriptor

theorem keepsLedger_close (self : Binding) : KeepsLedger build (close self) := by
  simp only [close, pure_bind]
  refine (preserves_descriptor _).keepsLedger.bind fun d => .ite ?_ (guarantee_pure _)
  exact (keepsLedger_emit _).bind fun _ => .ite ((keepsLedger_emit _).bind fun _ =>
    (keepsLedger_emit _).bind fun _ => keepsLedger_invalidate _) (keepsLedger_invalidate _)

theorem keepsLedger_scheduleClose (self : Binding) (afterWriting : Bool) :
    KeepsLedger build (scheduleClose self afterWriting) := by
  unfold scheduleClose
  exact (preserves_descriptor _).keepsLedger.bind fun d =>
    .ite (.ite (keepsLedger_modifyDescriptor _ fun _ => by rfl) (guarantee_pure _))
      ((keepsLedger_modify fun _ => by rfl).bind fun _ =>
        .ite (keepsLedger_modifyDescriptor _ fun _ => by rfl)
          (keepsLedger_modifyDescriptor _ fun _ => by rfl))

end EventableDescriptor

/-- `QueueHeartbeat` writes only the deadline. -/
theorem keepsLedger_queueHeartbeat (self : Binding) : KeepsLedger build (queueHeartbeat self) := by
  intro s
  by_cases hlive : ∃ d, s.descriptors self = some d
  · obtain ⟨d, hd⟩ := hlive
    exact wp_mono (queueHeartbeat_spec hd) (fun _ _ h => ledgerKept_of_update hd h.1 rfl)
      fun _ h => h.elim
  · simp only [queueHeartbeat, EventableDescriptor.getNextHeartbeat, wp_bind, wp_descriptor]
    exact fun d hd => absurd ⟨d, hd⟩ hlive

namespace EventableDescriptor

theorem keepsLedger_setPendingConnectTimeout (self : Binding) (value : UInt64) :
    KeepsLedger build (setPendingConnectTimeout self value) := by
  unfold setPendingConnectTimeout
  exact .ite ((keepsLedger_modifyDescriptor _ fun _ => by rfl).bind fun _ =>
    (keepsLedger_queueHeartbeat _).bind fun _ => guarantee_pure _) (guarantee_pure _)

theorem keepsLedger_setProxiedFrom (self : Binding) (src : Option Binding) (bufsize : Nat) :
    KeepsLedger build (setProxiedFrom self src bufsize) := by
  unfold setProxiedFrom
  exact (preserves_descriptor _).keepsLedger.bind fun _ =>
    .when (guarantee_throw_runtimeError _) (keepsLedger_modifyDescriptor _ fun _ => by rfl)

theorem keepsLedger_stopProxy (self : Binding) : KeepsLedger build (stopProxy self) := by
  unfold stopProxy
  refine (preserves_descriptor _).keepsLedger.bind fun d => ?_
  split
  · exact (keepsLedger_setProxiedFrom _ _ _).bind fun _ =>
      keepsLedger_modifyDescriptor _ fun _ => by rfl
  · exact guarantee_pure _

theorem keepsLedger_startProxy (self target : Binding) (bufsize length : Nat) :
    KeepsLedger build (startProxy self target bufsize length) := by
  unfold startProxy
  refine preserves_get.keepsLedger.bind fun r => ?_
  split
  · exact (keepsLedger_stopProxy _).bind fun _ =>
      (keepsLedger_modifyDescriptor _ fun _ => by rfl).bind fun _ => keepsLedger_setProxiedFrom _ _ _
  · exact guarantee_throw_runtimeError _

end EventableDescriptor

/-! ## The setters -/

namespace ConnectionDescriptor

/-- `_UpdateEvents` writes the mask of a connection, which the ledger does not read. -/
theorem keepsLedger_updateEvents (self : Binding) (read write : Bool) :
    KeepsLedger build (updateEvents self read write) := by
  simp only [updateEvents, pure_bind]
  refine (preserves_descriptor _).keepsLedger.bind fun _ => .ite (guarantee_pure _) <|
    .ite (guarantee_pure _) fun s => ?_
  simp only [wp_bind, wp_connection, wp_modifyDescriptor]
  intro d hd c hc d' hd'
  obtain rfl := Option.some.inj (hd.symm.trans hd')
  exact (Guarantee.wp_of_rel (.ite (keepsLedger_emit _) (guarantee_pure _))
    (ledgerKept_setEvents hd hc _))

theorem keepsLedger_setAttached (self : Binding) (state : Bool) :
    KeepsLedger build (setAttached self state) :=
  keepsLedger_modifyDescriptor _ fun _ => by rfl

theorem keepsLedger_setConnectPending (self : Binding) (f : Bool) :
    KeepsLedger build (setConnectPending self f) :=
  (keepsLedger_modifyConnection _ fun _ => by rfl).bind fun _ =>
    (keepsLedger_queueHeartbeat _).bind fun _ => keepsLedger_updateEvents _ _ _

theorem keepsLedger_setWatchOnly (self : Binding) (watching : Bool) :
    KeepsLedger build (setWatchOnly self watching) :=
  (keepsLedger_modifyDescriptor _ fun _ => by rfl).bind fun _ => keepsLedger_updateEvents _ _ _

theorem keepsLedger_setNotifyReadable (self : Binding) (readable : Bool) :
    KeepsLedger build (setNotifyReadable self readable) := by
  unfold setNotifyReadable
  exact (preserves_descriptor _).keepsLedger.bind fun _ => .when (guarantee_throw_runtimeError _) <|
    (keepsLedger_modifyConnection _ fun _ => by rfl).bind fun _ => keepsLedger_updateEvents _ _ _

theorem keepsLedger_setNotifyWritable (self : Binding) (writable : Bool) :
    KeepsLedger build (setNotifyWritable self writable) := by
  unfold setNotifyWritable
  exact (preserves_descriptor _).keepsLedger.bind fun _ => .when (guarantee_throw_runtimeError _) <|
    (keepsLedger_modifyConnection _ fun _ => by rfl).bind fun _ => keepsLedger_updateEvents _ _ _

theorem keepsLedger_pause (self : Binding) : KeepsLedger build (pause self) := by
  unfold pause
  exact (preserves_descriptor _).keepsLedger.bind fun _ => .when (guarantee_throw_runtimeError _) <|
    (keepsLedger_modifyDescriptor _ fun _ => by rfl).bind fun _ =>
      (keepsLedger_updateEvents _ _ _).bind fun _ => guarantee_pure _

theorem keepsLedger_resume (self : Binding) : KeepsLedger build (resume self) := by
  unfold resume
  exact (preserves_descriptor _).keepsLedger.bind fun _ => .when (guarantee_throw_runtimeError _) <|
    (keepsLedger_modifyDescriptor _ fun _ => by rfl).bind fun _ =>
      (keepsLedger_updateEvents _ _ _).bind fun _ => guarantee_pure _

end ConnectionDescriptor

namespace Virtual

theorem keepsLedger_pause (self : Binding) : KeepsLedger build (pause self) := by
  unfold pause EventableDescriptor.pause
  refine (preserves_descriptor _).keepsLedger.bind fun _ => ?_
  split
  · exact ConnectionDescriptor.keepsLedger_pause _
  · exact (keepsLedger_modifyDescriptor _ fun _ => by rfl).bind fun _ => guarantee_pure _

theorem keepsLedger_resume (self : Binding) : KeepsLedger build (resume self) := by
  unfold resume EventableDescriptor.resume
  refine (preserves_descriptor _).keepsLedger.bind fun _ => ?_
  split
  · exact ConnectionDescriptor.keepsLedger_resume _
  · exact (keepsLedger_modifyDescriptor _ fun _ => by rfl).bind fun _ => guarantee_pure _

end Virtual

/-! ## Queueing outbound data -/

namespace ConnectionDescriptor

theorem keepsLedger_sslCall {α : Type} (self : Binding) (query : SslBox → α × SslBox) :
    KeepsLedger build (sslCall self query) := by
  unfold sslCall
  refine (preserves_connection _).keepsLedger.bind fun c => ?_
  split
  · exact (keepsLedger_modifyConnection _ fun _ => by rfl).bind fun _ => guarantee_pure _
  · exact guarantee_throw_assertionFailed _

theorem keepsLedger_scheduleClose (self : Binding) (afterWriting : Bool) :
    KeepsLedger build (scheduleClose self afterWriting) := by
  unfold scheduleClose
  exact (preserves_descriptor _).keepsLedger.bind fun _ =>
    .when (guarantee_throw_runtimeError _) (EventableDescriptor.keepsLedger_scheduleClose _ _)

/-- The one stream enqueue adds its bytes to the queue and to the count alike. -/
theorem keepsLedger_sendRawOutboundData (self : Binding) (data : OutboundData) :
    KeepsLedger build (sendRawOutboundData self data) := by
  intro s
  have hrefl : LedgerKept build s s := LedgerBut.refl _ s
  simp only [sendRawOutboundData, wp_bind, wp_descriptor]
  intro d hd
  by_cases hs : d.isCloseScheduled = true
  · simpa [hs] using hrefl
  by_cases hlen : data.length = 0
  · simpa [hs, hlen] using hrefl
  cases data with
  | null => simpa [hs, hlen] using hrefl
  | bytes bytes =>
    have hm : LedgerKept build s { s with mallocResults := s.mallocResults.tail } :=
      ledgerKept_of_ledgerView rfl
    simp only [hs, hlen, Bool.false_eq_true, if_false, pure_bind, wp_bind, wp_malloc]
    split_ifs
    · exact hm
    · simp only [modifyConnection, wp_bind, wp_modifyDescriptor, wp_pure]
      intro d' hd'
      obtain rfl : d' = d := Option.some.inj (hd'.symm.trans hd)
      refine (keepsLedger_updateEvents _ _ _).wp_of_rel (hm.trans ?_)
      refine ledgerBut_of_update hd' rfl fun f _ hf => ?_
      have hb : bytes ≠ [] := fun h => hlen (by simp [h, OutboundData.length])
      cases f with
      | stream =>
        intro hbuild c' hc'
        obtain ⟨c, hc, rfl⟩ := Subclass.exists_of_mapConnection hc'
        exact (hf hbuild c hc).append hb
      | datagram => exact hf.mapConnection fun h => nomatch h
      | armed => exact hf.mapConnection fun h => nomatch h

theorem keepsLedger_drainCiphertext (self : Binding) :
    ∀ fuel, KeepsLedger build (drainCiphertext self fuel)
  | 0 => guarantee_pure _
  | fuel + 1 => by
    simp only [drainCiphertext]
    exact (keepsLedger_sslCall _ _).bind fun _ => .ite (guarantee_pure _) <|
      (keepsLedger_sslCall _ _).bind fun _ => .when (guarantee_throw_assertionFailed _) <|
        (keepsLedger_sendRawOutboundData _ _).discard.bind fun _ =>
          (keepsLedger_drainCiphertext self fuel).discard.bind fun _ => guarantee_pure _

theorem keepsLedger_pumpPlaintext (self : Binding) :
    ∀ fuel, KeepsLedger build (pumpPlaintext self fuel)
  | 0 => guarantee_pure _
  | fuel + 1 => by
    simp only [pumpPlaintext]
    exact (keepsLedger_sslCall _ _).bind fun _ =>
      .ite ((keepsLedger_pumpPlaintext self fuel).discard.bind fun _ => guarantee_pure _) <|
        .when (keepsLedger_scheduleClose _ _) (guarantee_pure _)

theorem keepsLedger_dispatchCiphertextLoop (self : Binding) (fuel : Nat) :
    ∀ passes, KeepsLedger build (dispatchCiphertextLoop self fuel passes)
  | 0 => guarantee_pure _
  | passes + 1 => by
    simp only [dispatchCiphertextLoop]
    exact (keepsLedger_drainCiphertext _ _).bind fun _ => (keepsLedger_pumpPlaintext _ _).bind
      fun _ => .ite (keepsLedger_dispatchCiphertextLoop self fuel passes) (guarantee_pure _)

theorem keepsLedger_dispatchCiphertext (self : Binding) :
    KeepsLedger build (dispatchCiphertext self) := by
  unfold dispatchCiphertext
  refine (preserves_connection _).keepsLedger.bind fun c => ?_
  split
  · exact keepsLedger_dispatchCiphertextLoop _ _ _
  · exact guarantee_throw_assertionFailed _

theorem keepsLedger_putPlaintextPieces (self : Binding) (data : OutboundData) :
    KeepsLedger build (putPlaintextPieces self data) := by
  unfold putPlaintextPieces
  lift_lets
  intro _ col jp
  have hjp : ∀ y, KeepsLedger build (jp y) := fun _ => (keepsLedger_sslCall _ _).bind fun _ =>
    .ite ((keepsLedger_scheduleClose _ _).bind fun _ => guarantee_pure _)
      ((keepsLedger_dispatchCiphertext _).bind fun _ => guarantee_pure _)
  exact (Guarantee.forIn col PUnit.unit fun _ _ => .ite
    ((guarantee_throw_undefinedBehaviour _).bind hjp) ((guarantee_pure _).bind hjp)).bind fun _ =>
      guarantee_pure _

theorem keepsLedger_sendOutboundData (self : Binding) (data : OutboundData) :
    KeepsLedger build (sendOutboundData self data) := by
  unfold sendOutboundData
  refine (preserves_descriptor _).keepsLedger.bind fun d =>
    .when (guarantee_throw_runtimeError _) ?_
  lift_lets
  intro raw one tls
  have hraw : ∀ y, KeepsLedger build (raw y) := fun _ => keepsLedger_sendRawOutboundData _ _
  have hone : ∀ y, KeepsLedger build (one y) := fun _ => guarantee_pure _
  have htls : ∀ y, KeepsLedger build (tls y) := fun _ =>
    (preserves_connection _).keepsLedger.bind fun _ => .ite
      (.ite ((keepsLedger_putPlaintextPieces _ _).bind hone) ((guarantee_pure _).bind hone))
      ((guarantee_pure _).bind hraw)
  split
  · exact .ite ((Virtual.keepsLedger_pause _).discard.bind htls) ((guarantee_pure _).bind htls)
  · exact (guarantee_pure _).bind htls

theorem keepsLedger_startTls (self : Binding) (box : SslBox) :
    KeepsLedger build (startTls self box) := by
  unfold startTls
  exact (preserves_connection _).keepsLedger.bind fun _ =>
    .when (guarantee_throw_runtimeError _) <|
      (keepsLedger_modifyConnection _ fun _ => by rfl).bind fun _ => keepsLedger_dispatchCiphertext _

theorem keepsLedger_setTlsParms (self : Binding) (parms : TlsParms) :
    KeepsLedger build (setTlsParms self parms) := by
  unfold setTlsParms
  exact (preserves_connection _).keepsLedger.bind fun _ =>
    .when (guarantee_throw_runtimeError _) (keepsLedger_modifyConnection _ fun _ => by rfl)

end ConnectionDescriptor

namespace DatagramDescriptor

/-- The datagram enqueue appends the datagram, adds its length and arms `EPOLLOUT`, so both
entries of a datagram socket hold after it; on any other descriptor it writes a mask the ledger
does not read. -/
theorem keepsLedger_queueDatagram (self : Binding) (data : OutboundData) (dest : SockAddr) :
    KeepsLedger build (queueDatagram self data dest) := by
  intro s
  simp only [queueDatagram, pure_bind, wp_bind]
  split_ifs with hnull
  · exact LedgerBut.refl _ s
  simp only [wp_bind, wp_malloc]
  split_ifs
  · exact ledgerKept_of_ledgerView rfl
  simp only [modifyDatagram, modifyInterest, wp_bind, wp_modifyDescriptor, wp_emit, wp_pure,
    Function.update_same, Option.some.injEq, forall_eq', Function.update_idem]
  intro d hd
  refine ledgerBut_of_update hd rfl fun f _ hf => ?_
  have hd' : ∀ n, data ≠ .null (n + 1) := by
    rintro n rfl
    exact hnull rfl
  cases hsub : d.sub with
  | datagram g =>
    simp only [hsub, Subclass.mapDatagram]
    cases f with
    | stream => exact fun _ _ h => nomatch h
    | datagram => exact fun _ h => by cases h; exact (hf g hsub).push hd' dest
    | armed =>
      intro _ h _
      cases h
      exact (armedEvents_of_ne_nil (by simp)).symm
  | _ =>
    simp only [hsub, Subclass.mapDatagram]
    exact LedgerFact.Holds.of_ledgerState (by simp only [EventableDescriptor.ledgerState, hsub]) hf

theorem keepsLedger_sendOutboundData (self : Binding) (data : OutboundData) :
    KeepsLedger build (sendOutboundData self data) := by
  unfold sendOutboundData
  exact (preserves_descriptor _).keepsLedger.bind fun _ => .ite (guarantee_pure _) <|
    (preserves_datagram _).keepsLedger.bind fun _ => keepsLedger_queueDatagram _ _ _

theorem keepsLedger_sendOutboundDatagram (self : Binding) (data : OutboundData)
    (address : Option String) (port : Int) (resolved : Option SockAddr) :
    KeepsLedger build (sendOutboundDatagram self data address port resolved) := by
  unfold sendOutboundDatagram
  refine (preserves_descriptor _).keepsLedger.bind fun _ => .ite (guarantee_pure _) <|
    .ite (guarantee_pure _) ?_
  cases resolved with
  | none => exact guarantee_pure _
  | some dest => exact keepsLedger_queueDatagram _ _ _

end DatagramDescriptor

namespace Virtual

theorem keepsLedger_sendOutboundData (self : Binding) (data : OutboundData) :
    KeepsLedger build (sendOutboundData self data) := by
  unfold sendOutboundData EventableDescriptor.sendOutboundData
  refine (preserves_descriptor _).keepsLedger.bind fun d => ?_
  split
  · exact ConnectionDescriptor.keepsLedger_sendOutboundData _ _
  · exact DatagramDescriptor.keepsLedger_sendOutboundData _ _
  · exact guarantee_pure _

end Virtual

/-! ## The public operations and the application -/

theorem ConnectionDescriptor.keepsLedger_setCommInactivityTimeout (self : Binding)
    (value : UInt64) : KeepsLedger build (ConnectionDescriptor.setCommInactivityTimeout self value) :=
  (keepsLedger_modifyDescriptor _ fun _ => by rfl).bind fun _ =>
    (keepsLedger_queueHeartbeat _).bind fun _ => guarantee_pure _

theorem DatagramDescriptor.keepsLedger_setCommInactivityTimeout (self : Binding)
    (value : UInt64) : KeepsLedger build (DatagramDescriptor.setCommInactivityTimeout self value) := by
  unfold DatagramDescriptor.setCommInactivityTimeout
  exact .ite ((keepsLedger_modifyDescriptor _ fun _ => by rfl).bind fun _ =>
    (keepsLedger_queueHeartbeat _).bind fun _ => guarantee_pure _) (guarantee_pure _)

theorem AcceptorDescriptor.keepsLedger_stopAcceptor (binding : Binding) :
    KeepsLedger build (AcceptorDescriptor.stopAcceptor binding) := by
  unfold AcceptorDescriptor.stopAcceptor
  refine preserves_get.keepsLedger.bind fun r => ?_
  split
  · exact .ite (EventableDescriptor.keepsLedger_scheduleClose _ _) (guarantee_throw_runtimeError _)
  · exact guarantee_throw_runtimeError _

namespace Virtual

theorem keepsLedger_scheduleClose (self : Binding) (afterWriting : Bool) :
    KeepsLedger build (scheduleClose self afterWriting) := by
  unfold scheduleClose
  refine (preserves_descriptor _).keepsLedger.bind fun d => ?_
  split
  · exact ConnectionDescriptor.keepsLedger_scheduleClose _ _
  · exact EventableDescriptor.keepsLedger_scheduleClose _ _

theorem keepsLedger_setCommInactivityTimeout (self : Binding) (value : UInt64) :
    KeepsLedger build (setCommInactivityTimeout self value) := by
  unfold setCommInactivityTimeout
  refine (preserves_descriptor _).keepsLedger.bind fun d => ?_
  split
  · exact ConnectionDescriptor.keepsLedger_setCommInactivityTimeout _ _
  · exact DatagramDescriptor.keepsLedger_setCommInactivityTimeout _ _
  · exact guarantee_pure _

end Virtual

theorem keepsLedger_detachFd (b : Binding) : KeepsLedger build (detachFd b) :=
  (preserves_descriptor _).keepsLedger.bind fun _ =>
    (keepsLedger_invalidate _).bind fun _ => guarantee_pure _

theorem keepsLedger_onDescriptor (b : Binding) {x : EM Unit} (hx : KeepsLedger build x) :
    KeepsLedger build (onDescriptor b x) := by
  unfold onDescriptor
  refine preserves_get.keepsLedger.bind fun r => ?_
  split
  · exact hx
  · exact guarantee_throw_runtimeError _

theorem keepsLedger_onClass (b : Binding) (ofClass : Subclass → Bool) {x : EM Unit}
    (hx : KeepsLedger build x) : KeepsLedger build (onClass b ofClass x) := by
  unfold onClass
  refine preserves_get.keepsLedger.bind fun r => ?_
  split
  · exact .ite hx (guarantee_throw_runtimeError _)
  · exact guarantee_throw_runtimeError _

theorem keepsLedger_runApiCall (c : ApiCall) : KeepsLedger build (runApiCall c) := by
  cases c with
  | scheduleClose b afterWriting =>
    exact keepsLedger_onDescriptor _ (Virtual.keepsLedger_scheduleClose _ _)
  | sendOutboundData b data =>
    exact keepsLedger_onDescriptor _ (Virtual.keepsLedger_sendOutboundData _ _).discard
  | sendOutboundDatagram b data address port resolved =>
    exact keepsLedger_onClass _ _
      (DatagramDescriptor.keepsLedger_sendOutboundDatagram _ _ _ _ _).discard
  | startProxy b target bufsize length =>
    exact keepsLedger_onDescriptor _ (EventableDescriptor.keepsLedger_startProxy _ _ _ _)
  | stopProxy b => exact keepsLedger_onDescriptor _ (EventableDescriptor.keepsLedger_stopProxy _)
  | pause b => exact keepsLedger_onDescriptor _ (Virtual.keepsLedger_pause _).discard
  | resume b => exact keepsLedger_onDescriptor _ (Virtual.keepsLedger_resume _).discard
  | setNotifyReadable b readable =>
    exact keepsLedger_onClass _ _ (ConnectionDescriptor.keepsLedger_setNotifyReadable _ _)
  | setNotifyWritable b writable =>
    exact keepsLedger_onClass _ _ (ConnectionDescriptor.keepsLedger_setNotifyWritable _ _)
  | setCommInactivityTimeout b value =>
    exact keepsLedger_onDescriptor _ (Virtual.keepsLedger_setCommInactivityTimeout _ _).discard
  | setPendingConnectTimeout b value =>
    exact keepsLedger_onDescriptor _
      (EventableDescriptor.keepsLedger_setPendingConnectTimeout _ _).discard
  | startTls b box => exact keepsLedger_onClass _ _ (ConnectionDescriptor.keepsLedger_startTls _ _)
  | setTlsParms b parms =>
    exact keepsLedger_onClass _ _ (ConnectionDescriptor.keepsLedger_setTlsParms _ _)
  | stopAcceptor b => exact AcceptorDescriptor.keepsLedger_stopAcceptor _
  | detach b => exact keepsLedger_onDescriptor _ (keepsLedger_detachFd _).discard

theorem keepsLedger_runCalls : ∀ calls, KeepsLedger build (runCalls calls)
  | [] => guarantee_pure _
  | c :: calls => (keepsLedger_runApiCall c).rescue.bind fun _ => keepsLedger_runCalls calls

theorem keepsLedger_invokeCallback (app : App) (b : Binding) (kind : EventKind)
    (data : List Byte) (value : Int) : KeepsLedger build (invokeCallback app b kind data value) :=
  (keepsLedger_callback _ _ _ _).bind fun _ => preserves_get.keepsLedger.bind fun _ =>
    keepsLedger_runCalls _

/-! ## Reading -/

namespace EventableDescriptor

theorem keepsLedger_genericInboundDispatch (app : App) (self : Binding) (buf : List Byte) :
    KeepsLedger build (genericInboundDispatch app self buf) := by
  simp only [genericInboundDispatch]
  refine (preserves_descriptor _).keepsLedger.bind fun d => ?_
  split
  · exact .ite ((Virtual.keepsLedger_sendOutboundData _ _).discard.bind fun _ =>
      (keepsLedger_modifyDescriptor _ fun _ => by rfl).bind fun _ =>
        (preserves_descriptor _).keepsLedger.bind fun _ => .ite ((keepsLedger_stopProxy _).bind
          fun _ => (keepsLedger_invokeCallback _ _ _ _ _).bind fun _ =>
            .ite (keepsLedger_invokeCallback _ _ _ _ _) (guarantee_pure _)) (guarantee_pure _))
      ((Virtual.keepsLedger_sendOutboundData _ _).discard.bind fun _ =>
        keepsLedger_modifyDescriptor _ fun _ => by rfl)
  · exact keepsLedger_invokeCallback _ _ _ _ _

end EventableDescriptor

namespace ConnectionDescriptor

theorem keepsLedger_checkHandshakeStatus (app : App) (self : Binding) :
    KeepsLedger build (checkHandshakeStatus app self) := by
  unfold checkHandshakeStatus
  exact (preserves_connection _).keepsLedger.bind fun _ => .ite ((keepsLedger_sslCall _ _).bind
    fun _ => .ite ((keepsLedger_modifyConnection _ fun _ => by rfl).bind fun _ =>
      keepsLedger_invokeCallback _ _ _ _ _) (guarantee_pure _)) (guarantee_pure _)

theorem keepsLedger_plaintextLoop (app : App) (self : Binding) :
    ∀ fuel, KeepsLedger build (plaintextLoop app self fuel)
  | 0 => guarantee_pure _
  | fuel + 1 => by
    simp only [plaintextLoop]
    exact (keepsLedger_sslCall _ _).bind fun ⟨_, _⟩ =>
      .ite ((keepsLedger_checkHandshakeStatus _ _).bind fun _ =>
        (EventableDescriptor.keepsLedger_genericInboundDispatch _ _ _).bind fun _ =>
          keepsLedger_plaintextLoop app self fuel) (guarantee_pure _)

theorem keepsLedger_dispatchInboundData (app : App) (self : Binding) (buffer : List Byte) :
    KeepsLedger build (dispatchInboundData app self buffer) := by
  unfold dispatchInboundData
  refine (preserves_connection _).keepsLedger.bind fun c => ?_
  split
  · exact (keepsLedger_plaintextLoop _ _ _).bind fun _ => .ite
      ((keepsLedger_modifyDescriptor _ fun _ => by rfl).bind fun _ =>
        (keepsLedger_scheduleClose _ _).bind fun _ => guarantee_pure _)
      ((keepsLedger_checkHandshakeStatus _ _).bind fun _ => keepsLedger_dispatchCiphertext _)
  · exact EventableDescriptor.keepsLedger_genericInboundDispatch _ _ _

theorem keepsLedger_readLoop (app : App) (self : Binding) (sd : Int) :
    ∀ n results total, KeepsLedger build (readLoop app self sd n results total)
  | 0, _, _ => guarantee_pure _
  | n + 1, results, total => by
    simp only [readLoop]
    refine (keepsLedger_emit _).bind fun _ => ?_
    split
    · exact guarantee_pure _
    · exact (keepsLedger_dispatchInboundData _ _ _).bind fun _ =>
        (preserves_descriptor _).keepsLedger.bind fun _ =>
          .ite (guarantee_pure _) (keepsLedger_readLoop app self sd n _ _)
    · exact .ite ((keepsLedger_modifyDescriptor _ fun _ => by rfl).bind fun _ =>
        (EventableDescriptor.keepsLedger_close _).bind fun _ => guarantee_pure _)
        (guarantee_pure _)

theorem keepsLedger_read (app : App) (self : Binding) (results : List ReadResult) :
    KeepsLedger build (read app self results) := by
  simp only [read, pure_bind]
  exact (preserves_descriptor _).keepsLedger.bind fun _ =>
    .ite ((preserves_connection _).keepsLedger.bind fun _ =>
      .when (guarantee_throw_assertionFailed _)
        ((keepsLedger_modifyConnection _ fun _ => by rfl).bind fun _ => guarantee_pure _)) <|
    .ite ((preserves_connection _).keepsLedger.bind fun _ =>
      .ite ((keepsLedger_invokeCallback _ _ _ _ _).bind fun _ => guarantee_pure _)
        (guarantee_pure _)) <|
    preserves_getCurrentLoopTime.keepsLedger.bind fun _ =>
      (keepsLedger_modifyDescriptor _ fun _ => by rfl).bind fun _ =>
        (keepsLedger_readLoop _ _ _ _ _ _).bind fun _ =>
          .ite (keepsLedger_scheduleClose _ _) (guarantee_pure _)

theorem keepsLedger_heartbeat (self : Binding) : KeepsLedger build (heartbeat self) := by
  unfold heartbeat
  exact preserves_getTimerQuantum.keepsLedger.bind fun _ =>
    (preserves_descriptor _).keepsLedger.bind fun _ =>
      preserves_getCurrentLoopTime.keepsLedger.bind fun _ =>
        (preserves_connection _).keepsLedger.bind fun _ =>
          .ite (.ite ((keepsLedger_modifyDescriptor _ fun _ => by rfl).bind fun _ =>
            keepsLedger_scheduleClose _ _) (guarantee_pure _))
          (.ite ((keepsLedger_modifyDescriptor _ fun _ => by rfl).bind fun _ =>
            keepsLedger_scheduleClose _ _) (guarantee_pure _))

theorem keepsLedger_releaseSource (self : Binding) : KeepsLedger build (releaseSource self) := by
  unfold releaseSource
  refine (preserves_descriptor _).keepsLedger.bind fun d => ?_
  split
  · exact .ite ((preserves_descriptor _).keepsLedger.bind fun _ =>
      .ite (Virtual.keepsLedger_resume _).discard (guarantee_pure _)) (guarantee_pure _)
  · exact guarantee_pure _

end ConnectionDescriptor

namespace DatagramDescriptor

theorem keepsLedger_readLoop (app : App) (self : Binding) (sd : Int) :
    ∀ n results, KeepsLedger build (readLoop app self sd n results)
  | 0, _ => guarantee_pure _
  | n + 1, results => by
    simp only [readLoop]
    refine (keepsLedger_emit _).bind fun _ => ?_
    split
    · exact (keepsLedger_modifyDatagram _ fun _ => by rfl).bind fun _ =>
        (EventableDescriptor.keepsLedger_genericInboundDispatch _ _ _).bind fun _ =>
          keepsLedger_readLoop app self sd n _
    · exact guarantee_pure _

theorem keepsLedger_read (app : App) (self : Binding) (results : List RecvResult) :
    KeepsLedger build (read app self results) := by
  simp only [read, pure_bind]
  exact (preserves_descriptor _).keepsLedger.bind fun _ =>
    .when (guarantee_throw_assertionFailed _) <|
      preserves_getCurrentLoopTime.keepsLedger.bind fun _ =>
        (keepsLedger_modifyDescriptor _ fun _ => by rfl).bind fun _ =>
          keepsLedger_readLoop _ _ _ _ _

theorem keepsLedger_heartbeat (self : Binding) : KeepsLedger build (heartbeat self) := by
  unfold heartbeat
  exact (preserves_descriptor _).keepsLedger.bind fun _ =>
    preserves_getCurrentLoopTime.keepsLedger.bind fun _ =>
      .ite (EventableDescriptor.keepsLedger_scheduleClose _ _) (guarantee_pure _)

end DatagramDescriptor

end Methods

end EventMachine

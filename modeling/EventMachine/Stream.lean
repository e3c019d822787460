import EventMachine.Reactor

/-!
# The outbound byte stream of a connection

The outbound path of a connection is a FIFO byte stream. `_SendRawOutboundData` appends bytes
at the back of the queue; `_WriteOutboundData` hands the kernel a prefix of the queued bytes
and drops exactly what the kernel took, in either build. Over a whole run of these calls, the
bytes the kernel accepted, followed by the bytes still queued, are the bytes that were sent
(`outbound_fifo`).

What the kernel accepted is read off the trace: a `send` entry carries the bytes one `write`
or `writev` took.
-/

namespace EventMachine

/-! ## What the outbound path observes -/

/-- The bytes a traced call handed to the kernel and the kernel took. -/
def TraceEntry.sent : TraceEntry → List Byte
  | .send _ bytes => bytes
  | _ => []

/-- The bytes the kernel accepted, in call order. -/
def sentBytes (trace : List TraceEntry) : List Byte := (trace.map TraceEntry.sent).flatten

@[simp] theorem sentBytes_append (t t' : List TraceEntry) :
    sentBytes (t ++ t') = sentBytes t ++ sentBytes t' := by
  simp [sentBytes]

@[simp] theorem sentBytes_singleton (e : TraceEntry) : sentBytes [e] = e.sent := by
  simp [sentBytes]

/-- The outbound queue of a connection; the other descriptors have no byte stream. -/
def EventableDescriptor.streamPages (d : EventableDescriptor) : Option (List OutboundPage) :=
  match d.sub with
  | .connection c => some c.outboundPages
  | _ => none

theorem streamPages_mapConnection {d : EventableDescriptor}
    {f : ConnectionDescriptor → ConnectionDescriptor} {g : List OutboundPage → List OutboundPage}
    (hf : ∀ c, (f c).outboundPages = g c.outboundPages) :
    ({ d with sub := d.sub.mapConnection f } : EventableDescriptor).streamPages =
      d.streamPages.map g := by
  unfold EventableDescriptor.streamPages
  cases d.sub <;> simp [Subclass.mapConnection, hf]

/-- Every connection's queue, and the bytes the kernel accepted. -/
def streamView (s : Reactor) : (Binding → Option (Option (List OutboundPage))) × List Byte :=
  (fun b => (s.descriptors b).map EventableDescriptor.streamPages, sentBytes s.trace)

/-- The connection `b` queues `pages`, and the kernel has accepted `sent`. -/
def StreamAt (b : Binding) (pages : List OutboundPage) (sent : List Byte) (s : Reactor) : Prop :=
  (s.descriptors b).map EventableDescriptor.streamPages = some (some pages) ∧
    sentBytes s.trace = sent

/-! ## Frames: calls that neither queue nor send -/

section Frames

variable {α : Type}

theorem streamView_emit (e : TraceEntry) (he : e.sent = []) : Preserves streamView (emit e) := by
  intro s
  simp [streamView, he]

theorem streamView_modifyDescriptor (b : Binding) {f : EventableDescriptor → EventableDescriptor}
    (hf : ∀ d, (f d).streamPages = d.streamPages) :
    Preserves streamView (modifyDescriptor b f) := by
  intro s
  have h := preserves_modifyDescriptor b hf s
  simp only [wp_modifyDescriptor] at h ⊢
  intro d hd
  simp only [streamView, h d hd]

theorem streamView_updateEvents (self : Binding) (read write : Bool) :
    Preserves streamView (ConnectionDescriptor.updateEvents self read write) := by
  simp only [ConnectionDescriptor.updateEvents, pure_bind]
  exact (preserves_descriptor _).bind fun d => .ite (preserves_pure _) <| .ite (preserves_pure _) <|
    (preserves_connection _).bind fun c => (streamView_modifyDescriptor _ fun _ => by rfl).bind
      fun _ => .ite (streamView_emit _ (by rfl)) (preserves_pure _)

theorem streamView_resume (self : Binding) : Preserves streamView (Virtual.resume self) := by
  simp only [Virtual.resume, ConnectionDescriptor.resume, EventableDescriptor.resume, pure_bind]
  refine (preserves_descriptor _).bind fun d => ?_
  split
  · exact (preserves_descriptor _).bind fun d => .ite (preserves_throw_runtimeError _) <|
      (streamView_modifyDescriptor _ fun _ => by rfl).bind fun _ =>
        (streamView_updateEvents _ _ _).bind fun _ => preserves_pure _
  · exact (streamView_modifyDescriptor _ fun _ => by rfl).bind fun _ => preserves_pure _

theorem streamView_releaseSource (self : Binding) :
    Preserves streamView (ConnectionDescriptor.releaseSource self) := by
  simp only [ConnectionDescriptor.releaseSource, pure_bind]
  refine (preserves_descriptor _).bind fun d => ?_
  split
  · exact .ite ((preserves_descriptor _).bind fun _ => .ite
      ((streamView_resume _).bind fun _ => preserves_pure _) (preserves_pure _)) (preserves_pure _)
  · exact preserves_pure _

theorem streamView_malloc : Preserves streamView malloc := fun _ => rfl

theorem streamView_close (self : Binding) :
    Preserves streamView (EventableDescriptor.close self) := by
  simp only [EventableDescriptor.close, pure_bind]
  exact (preserves_descriptor _).bind fun d => .ite ((streamView_emit _ (by rfl)).bind fun _ =>
    .ite ((streamView_emit _ (by rfl)).bind fun _ => (streamView_emit _ (by rfl)).bind fun _ =>
      streamView_modifyDescriptor _ fun _ => by rfl) (streamView_modifyDescriptor _ fun _ => by rfl))
    (preserves_pure _)

end Frames

/-! ## The steps of the outbound path -/

section Steps

variable {b : Binding} {pages : List OutboundPage} {sent : List Byte} {E : Reactor → Prop}

theorem streamAt_frame {α : Type} {x : EM α} (h : Preserves streamView x)
    (hE : ∀ s, StreamAt b pages sent s → E s) :
    Triple (StreamAt b pages sent) x (fun _ => StreamAt b pages sent) E :=
  h.triple (fun v => v.1 b = some (some pages) ∧ v.2 = sent) hE

theorem streamAt_connection :
    Triple (StreamAt b pages sent) (connection b)
      (fun c s => StreamAt b pages sent s ∧ c.outboundPages = pages) E := by
  rintro s ⟨hs, hsent⟩
  simp only [wp_connection]
  intro d hd c hc
  simp [hd, EventableDescriptor.streamPages, hc] at hs
  exact ⟨⟨by simp [hd, EventableDescriptor.streamPages, hc, hs], hsent⟩, hs⟩

theorem streamAt_modifyConnection {f : ConnectionDescriptor → ConnectionDescriptor}
    (g : List OutboundPage → List OutboundPage) (hf : ∀ c, (f c).outboundPages = g c.outboundPages) :
    Triple (StreamAt b pages sent) (modifyConnection b f) (fun _ => StreamAt b (g pages) sent) E := by
  rintro s ⟨hs, hsent⟩
  simp only [modifyConnection, wp_modifyDescriptor]
  intro d hd
  simp only [hd, Option.map_some', Option.some.injEq] at hs
  exact ⟨by simp [streamPages_mapConnection hf, hs], hsent⟩

theorem streamAt_emit (e : TraceEntry) :
    Triple (StreamAt b pages sent) (emit e) (fun _ => StreamAt b pages (sent ++ e.sent)) E := by
  rintro s ⟨hs, rfl⟩
  exact ⟨hs, by simp⟩

/-- The queue `consumeOutbound` leaves behind `queued` once the kernel took `w` bytes of
`buffer`, gathered from `pages`. -/
def consumedPages : Build → List OutboundPage → List Byte → Nat → Bool → List OutboundPage →
    List OutboundPage
  | .writev, pages, _, w, err, queued =>
    if !err then consumeSent (iovecs pages).length w queued else queued
  | .copy, _, buffer, w, _, queued => requeue buffer w queued

/-- What the kernel took is a prefix of the queued bytes, and the queue left holds exactly the
rest, in either build. -/
theorem gather_consumedPages (build : Build) (pages : List OutboundPage) (err : Bool) {w : Nat}
    (hw : w ≤ (gather build pages).1.length) (herr : err = true → w = 0) :
    (gather build pages).1.take w = (unsentBytes pages).take w ∧
      unsentBytes (consumedPages build pages (gather build pages).1 w err (gather build pages).2) =
        (unsentBytes pages).drop w := by
  cases build with
  | writev =>
    have happ := iovecs_flatten_append pages
    simp only [gather] at hw ⊢
    refine ⟨by rw [← happ, List.take_append_of_le_length hw], ?_⟩
    cases err with
    | true => simp [consumedPages, herr rfl]
    | false =>
      have htake : unsentBytes (pages.take (iovecs pages).length) = (iovecs pages).flatten := by
        rw [iovecs, List.length_map, List.length_take, ← List.take_take, List.take_length]
        rfl
      simp only [consumedPages, Bool.not_false, if_true]
      exact unsentBytes_consumeSent _ _ _ (htake ▸ hw)
  | copy =>
    have happ := gatherCopy_append 0 pages
    simp only [gather] at hw ⊢
    exact ⟨by rw [← happ, List.take_append_of_le_length hw],
      by rw [consumedPages, unsentBytes_requeue _ _ hw, happ]⟩

theorem streamAt_consumeOutbound (build : Build) (pages queued : List OutboundPage)
    (buffer : List Byte) (w : Nat) (err : Bool) :
    Triple (StreamAt b queued sent) (ConnectionDescriptor.consumeOutbound build b pages buffer w err)
      (fun _ => StreamAt b (consumedPages build pages buffer w err queued) sent)
      (StreamAt b queued sent) := by
  cases build with
  | writev =>
    refine .ite (fun h => ?_) fun h => triple_pure _ fun _ hs => by simpa [consumedPages, h] using hs
    simpa [consumedPages, h] using streamAt_modifyConnection _ fun _ => rfl
  | copy =>
    refine .ite (fun hw => ?_) fun hw => triple_pure _ fun _ hs => by
      simpa [consumedPages, requeue, hw] using hs
    refine (streamAt_frame streamView_malloc fun _ => id).bind fun ok => .ite
      (fun _ => triple_throw_runtimeError _) fun _ => ?_
    simpa [consumedPages, requeue, hw] using streamAt_modifyConnection _ fun _ => rfl

/-- An accepted `_SendRawOutboundData`, on a connection with no close scheduled, queues its bytes
at the back. -/
theorem streamAt_sendRawOutboundData {data : List Byte} (hdata : data ≠ []) :
    Triple (fun s => StreamAt b pages sent s ∧
        ∀ d, s.descriptors b = some d → d.isCloseScheduled = false)
      (ConnectionDescriptor.sendRawOutboundData b (.bytes data))
      (fun _ => StreamAt b (pages ++ [⟨data, 0⟩]) sent) (fun _ => True) := by
  have hlen : (OutboundData.bytes data).length ≠ 0 := by simpa [OutboundData.length] using hdata
  simp only [ConnectionDescriptor.sendRawOutboundData, pure_bind, throw_bind]
  refine (triple_descriptor b).bind fun d => .ite (fun hd => .of_impossible fun s hs => ?_) fun _ =>
    .ite (fun h0 => absurd h0 hlen) fun _ => ?_
  · simp [hs.1.2 d hs.2] at hd
  refine (streamAt_frame streamView_malloc fun _ _ => trivial).mono (fun _ hs => hs.1.1)
    (fun _ _ h => h) (fun _ h => h) |>.bind fun ok => .ite (fun _ => triple_throw_runtimeError _ |>.mono
      (fun _ h => h) (fun _ _ h => h) fun _ _ => trivial) fun _ => ?_
  exact (streamAt_modifyConnection (· ++ [⟨data, 0⟩]) fun _ => by rfl).bind fun _ =>
    (streamAt_frame (streamView_updateEvents b false true) fun _ _ => trivial).bind fun _ =>
      triple_pure _ fun _ h => h

/-- The socket of `b` is open. -/
def SocketOpen (b : Binding) (s : Reactor) : Prop :=
  ∀ d, s.descriptors b = some d → d.mySocket ≠ invalidSocket

/-- What `_WriteOutboundData` counts as written for a kernel result: nothing on an error. -/
def bytesTaken (r : SyscallResult) : Nat := if decide (r.ret < 0) = true then 0 else r.ret.toNat

/-- `_WriteOutboundData` on an open socket: the kernel takes the first `bytesTaken r` bytes of
what was gathered, and the queue is what the build leaves behind. -/
theorem streamAt_writeOutboundData_open (build : Build) (r : SyscallResult) :
    Triple (fun s => StreamAt b pages sent s ∧ SocketOpen b s)
      (ConnectionDescriptor.writeOutboundData build b r)
      (fun _ => StreamAt b (consumedPages build pages (gather build pages).1 (bytesTaken r)
        (decide (r.ret < 0)) (gather build pages).2)
        (sent ++ (gather build pages).1.take (bytesTaken r))) (fun _ => True) := by
  have hE : ∀ p t s, StreamAt b p t s → True := fun _ _ _ _ => trivial
  simp only [ConnectionDescriptor.writeOutboundData, pure_bind, throw_bind]
  refine (triple_descriptor b).bind fun d => .ite (fun hd => .of_impossible fun s hs =>
    hs.1.2 d hs.2 hd) fun _ => ?_
  refine (streamAt_frame preserves_getCurrentLoopTime (hE _ _)).mono (fun _ hs => hs.1.1)
    (fun _ _ h => h) (fun _ h => h) |>.bind fun now =>
      (streamAt_frame (streamView_modifyDescriptor b fun _ => by rfl) (hE _ _)).bind fun _ =>
        streamAt_connection.bind fun c => .of_fact fun hc => ?_
  simp only [hc]
  refine (streamAt_modifyConnection (fun _ => (gather build pages).2) fun _ => by rfl).bind fun _ =>
    .ite (fun _ => triple_assertionFailed _) fun _ => ?_
  refine (streamAt_emit _).bind fun _ => (streamAt_modifyConnection id fun _ => by rfl).bind
    fun _ => (streamAt_frame (streamView_releaseSource b) (hE _ _)).bind fun _ =>
      ((streamAt_consumeOutbound _ _ _ _ _ _).mono (fun _ h => h) (fun _ _ h => h) (hE _ _)).bind
        fun _ => (streamAt_frame (streamView_updateEvents b false true) (hE _ _)).bind fun _ => ?_
  exact Triple.ite (fun _ => (streamAt_frame (streamView_modifyDescriptor b fun _ => by rfl)
    (hE _ _)).bind fun _ => streamAt_frame (streamView_close b) (hE _ _))
    fun _ => triple_pure _ fun _ h => h

/-- `_WriteOutboundData` on a closed socket tolerates the call, or fails its assertion. -/
theorem streamAt_writeOutboundData_closed (build : Build) (r : SyscallResult) :
    Triple (fun s => StreamAt b pages sent s ∧ ¬SocketOpen b s)
      (ConnectionDescriptor.writeOutboundData build b r)
      (fun _ => StreamAt b pages sent) (fun _ => True) := by
  simp only [ConnectionDescriptor.writeOutboundData, pure_bind, throw_bind]
  refine (triple_descriptor b).bind fun d => .ite (fun _ => ?_) fun hd =>
    .of_impossible fun s hs => hs.1.2 fun d' hd' => ?_
  · exact (streamAt_connection.mono (fun _ hs => hs.1.1) (fun _ _ h => h) fun _ h => h).bind
      fun c => .ite (fun _ => triple_assertionFailed _) fun _ =>
        .of_fact fun _ => streamAt_modifyConnection id fun _ => by rfl
  · rw [hs.2] at hd'
    cases hd'
    exact hd

/-- The kernel has taken a prefix of `pages`, once queued at `b` after `sent`, and the queue
holds exactly the rest. -/
def Flushed (b : Binding) (pages : List OutboundPage) (sent : List Byte) (s : Reactor) : Prop :=
  ∃ w pages', StreamAt b pages' (sent ++ (unsentBytes pages).take w) s ∧
    unsentBytes pages' = (unsentBytes pages).drop w

/-- `_WriteOutboundData` in either build, with a kernel that takes at most the bytes it is
given: the stream advances by what the kernel took. -/
theorem streamAt_writeOutboundData (build : Build) (r : SyscallResult)
    (hr : r.ret ≤ (gather build pages).1.length) :
    Triple (StreamAt b pages sent) (ConnectionDescriptor.writeOutboundData build b r)
      (fun _ => Flushed b pages sent) (fun _ => True) := by
  have hw : bytesTaken r ≤ (gather build pages).1.length := by
    unfold bytesTaken
    split <;> omega
  have hg := gather_consumedPages build pages (decide (r.ret < 0)) hw fun h => by
    simp [bytesTaken, h]
  refine .split (SocketOpen b) ((streamAt_writeOutboundData_open build r).mono (fun _ h => h)
    (fun _ _ h => ⟨_, _, hg.1 ▸ h, hg.2⟩) fun _ h => h)
    ((streamAt_writeOutboundData_closed build r).mono (fun _ h => h)
      (fun _ _ h => ⟨0, pages, by simpa using h, by simp⟩) fun _ h => h)

end Steps

/-! ## Runs of the outbound path -/

/-- A run of the outbound path of the connection `b` from `s`, with the bytes it queued:
accepted `_SendRawOutboundData` calls (some bytes, no close scheduled), and `_WriteOutboundData`
calls in which the kernel takes at most the bytes it is given, or fails. -/
inductive OutboundRun (build : Build) (b : Binding) (s : Reactor) :
    List Byte → Reactor → Prop
  | nil : OutboundRun build b s [] s
  | send {s₁ s₂ : Reactor} {inputs data : List Byte} {d : EventableDescriptor} {n : Int} :
      OutboundRun build b s inputs s₁ → s₁.descriptors b = some d →
      d.isCloseScheduled = false → data ≠ [] →
      ConnectionDescriptor.sendRawOutboundData b (.bytes data) s₁ = .ok n s₂ →
      OutboundRun build b s (inputs ++ data) s₂
  | write {s₁ s₂ : Reactor} {inputs : List Byte} (r : SyscallResult) :
      OutboundRun build b s inputs s₁ →
      (∀ d c, s₁.descriptors b = some d → d.sub = .connection c →
        r.ret ≤ (gather build c.outboundPages).1.length) →
      ConnectionDescriptor.writeOutboundData build b r s₁ = .ok () s₂ →
      OutboundRun build b s inputs s₂

theorem StreamAt.exists_connection {b : Binding} {pages : List OutboundPage} {sent : List Byte}
    {s : Reactor} (h : StreamAt b pages sent s) :
    ∃ d c, s.descriptors b = some d ∧ d.sub = .connection c ∧ c.outboundPages = pages := by
  obtain ⟨h, -⟩ := h
  rcases hd : s.descriptors b with _ | d
  · simp [hd] at h
  · simp only [hd, Option.map_some', Option.some.injEq, EventableDescriptor.streamPages] at h
    split at h <;> simp_all

/-- The outbound path of a connection is a FIFO byte stream, in both builds: along any run from
an empty queue, the bytes the kernel accepted, followed by the unsent remainders of the queued
pages, are the bytes queued, in order. -/
theorem outbound_fifo {build : Build} {b : Binding} {s s' : Reactor} {inputs : List Byte}
    (h : OutboundRun build b s inputs s') {d : EventableDescriptor} {c : ConnectionDescriptor}
    (hb : s.descriptors b = some d) (hc : d.sub = .connection c) (hempty : c.outboundPages = []) :
    ∃ accepted pages, sentBytes s'.trace = sentBytes s.trace ++ accepted ∧
      (s'.descriptors b).map EventableDescriptor.streamPages = some (some pages) ∧
      accepted ++ unsentBytes pages = inputs := by
  suffices ∃ accepted pages, StreamAt b pages (sentBytes s.trace ++ accepted) s' ∧
      accepted ++ unsentBytes pages = inputs by
    obtain ⟨accepted, pages, ⟨hq, hsent⟩, hin⟩ := this
    exact ⟨accepted, pages, hsent, hq, hin⟩
  induction h with
  | nil =>
    exact ⟨[], [], ⟨by simp [hb, EventableDescriptor.streamPages, hc, hempty], by simp⟩, rfl⟩
  | send _ hd hclose hdata hx ih =>
    obtain ⟨accepted, pages, hs, rfl⟩ := ih
    refine ⟨accepted, _, state_of_ok hx (streamAt_sendRawOutboundData hdata _ ⟨hs, ?_⟩), by simp⟩
    intro d' hd'
    simp_all
  | write r _ hr hx ih =>
    obtain ⟨accepted, pages, hs, rfl⟩ := ih
    obtain ⟨d, c, hd, hc, rfl⟩ := hs.exists_connection
    obtain ⟨w, pages', hs', hq⟩ :=
      state_of_ok hx (streamAt_writeOutboundData build r (hr d c hd hc) _ hs)
    refine ⟨accepted ++ (unsentBytes c.outboundPages).take w, pages', by simpa using hs', ?_⟩
    rw [hq, List.append_assoc, List.take_append_drop]

/-- A reactor holding one connection, on socket `7`, with an empty outbound queue. -/
def oneConnection : Reactor :=
  { Reactor.empty with
    descriptors := fun b => if b = 0 then
      some { mySocket := 7, createdAt := 0, lastActivity := 0, sub := .connection {} } else none
    nextBinding := 1 }

theorem outbound_fifo_three_bytes : ∃ s', OutboundRun .writev 0 oneConnection [1, 2, 3] s' ∧
    ∃ accepted pages, sentBytes s'.trace = sentBytes oneConnection.trace ++ accepted ∧
      (s'.descriptors 0).map EventableDescriptor.streamPages = some (some pages) ∧
      accepted ++ unsentBytes pages = [1, 2, 3] := by
  have run : OutboundRun .writev 0 oneConnection [1, 2, 3] _ :=
    .write ⟨2, 0⟩ (.send .nil rfl rfl (by decide) rfl : OutboundRun .writev 0 oneConnection
      ([] ++ [1, 2, 3]) _) (fun d c hd hc => by
        simp [ConnectionDescriptor.sendRawOutboundData, oneConnection] at hd
        subst hd
        cases hc
        decide) rfl
  exact ⟨_, run, outbound_fifo run rfl rfl rfl⟩

/-! ## The spent page of the copy build

The copy build pops a page only when its unsent part fits in `output_buffer` with room to
spare. A page that fills the buffer exactly is cut instead, at its very end: it stays queued
with `Offset = Length`, holding no byte. -/

/-- `SendOutboundData` on a connection with no engine, no source and no close scheduled copies
the bytes into a new page at the back of the queue and counts them. -/
theorem ConnectionDescriptor.sendOutboundData_queues_page {s : Reactor} {b : Binding}
    {d : EventableDescriptor} {c : ConnectionDescriptor} {data : List Byte}
    (hd : s.descriptors b = some d) (hc : d.sub = .connection c) (hwatch : d.bWatchOnly = false)
    (hfrom : d.proxiedFrom = none) (htls : c.sslBox = none) (hopen : d.isCloseScheduled = false)
    (hdata : data ≠ []) (hmalloc : s.mallocResults.headD true = true) :
    Succeeds (runApiCall (.sendOutboundData b (.bytes data)))
      (fun _ s' => sentBytes s'.trace = sentBytes s.trace ∧ ∃ events, s'.descriptors b = some
        { d with epollEvents := events, sub := .connection { c with
            outboundPages := c.outboundPages ++ [⟨data, 0⟩]
            outboundDataSize := c.outboundDataSize + data.length } }) s := by
  simp only [runApiCall, onDescriptor, Virtual.sendOutboundData, sendOutboundData,
    OutboundData.length, sendRawOutboundData, List.length_eq_zero, hdata, Bool.not_eq_eq_eq_not,
    Bool.not_true, modifyConnection, Subclass.mapConnection, updateEvents, Bool.false_eq_true,
    modifyInterest, sentBytes, hwatch, hfrom, htls, succeeds_bind, succeeds_get, hd,
    succeeds_discard, succeeds_descriptor, Option.some.injEq, exists_eq_left', hc, succeeds_ite,
    succeeds_throw, imp_false, Bool.not_eq_true, succeeds_connection, succeeds_pure,
    IsEmpty.forall_iff, succeeds_malloc, hmalloc, Bool.not_eq_false, succeeds_modifyDescriptor,
    Function.update_same, EventableDescriptor.mk.injEq, exists_and_left, succeeds_emit,
    List.map_append, List.map_cons, TraceEntry.sent, List.map_nil, List.flatten_append,
    List.flatten_cons, List.flatten_nil, List.append_nil, and_self, implies_true,
    Subclass.connection.injEq, hopen, Option.isSome_none]

/-- In the copy build, a front page whose unsent part fills `output_buffer` exactly stays queued
with `Offset = Length` after the kernel took all of it, and the count drops by the whole
buffer. -/
theorem ConnectionDescriptor.write_copy_keeps_spent_page {app : App} {s : Reactor} {b : Binding}
    {d : EventableDescriptor} {c : ConnectionDescriptor} {p : OutboundPage}
    {rest : List OutboundPage} (hd : s.descriptors b = some d) (hc : d.sub = .connection c)
    (hpages : c.outboundPages = p :: rest) (hfill : p.unsentLength = outputBufferSize)
    (hsock : d.mySocket ≠ invalidSocket) (hpending : c.bConnectPending = false)
    (hnotify : c.bNotifyWritable = false) (hwatch : d.bWatchOnly = false)
    (hfrom : d.proxiedFrom = none) :
    Succeeds (Virtual.write app .copy b { write := ⟨outputBufferSize, 0⟩ })
      (fun _ s' => StreamAt b ({ p with offset := p.length } :: rest)
          (sentBytes s.trace ++ p.unsent) s' ∧
        (s'.descriptors b).map EventableDescriptor.getOutboundDataSize =
          some (c.outboundDataSize - outputBufferSize)) s := by
  have hlen : p.unsent.length = outputBufferSize := by simpa using hfill
  have hoff : p.offset + outputBufferSize = p.length := by
    unfold OutboundPage.unsentLength at hfill
    unfold outputBufferSize at *
    omega
  have hneg : ¬((outputBufferSize : Int) < 0) := by omega
  have hbuf : outputBufferSize ≠ 0 := by decide
  have hne : p.unsent ≠ [] := List.ne_nil_of_length_pos (by rw [hlen]; decide)
  have htake : p.unsent.take outputBufferSize = p.unsent := List.take_of_length_le hlen.le
  simp only [Virtual.write, write, ↓reduceIte, updateEvents, Bool.false_eq_true, modifyInterest,
    writeOutboundData, modifyConnection, Subclass.mapConnection, gather, List.length_eq_zero, hneg,
    decide_False, Int.toNat_ofNat, releaseSource, EventableDescriptor.getOutboundDataSize,
    consumeOutbound, false_and, StreamAt, Option.map_eq_some', EventableDescriptor.streamPages,
    sentBytes, succeeds_bind, succeeds_descriptor, hd, Option.some.injEq, exists_eq_left', hc,
    succeeds_connection, succeeds_ite, succeeds_modifyDescriptor, Function.update_same, hne,
    succeeds_getCurrentLoopTime, succeeds_emit, Subclass.connection.injEq, hfrom, hwatch, hpending,
    hnotify, succeeds_pure, List.map_append, List.map_cons, TraceEntry.sent, List.map_nil,
    List.flatten_append, List.flatten_cons, List.flatten_nil, List.append_nil, hsock,
    IsEmpty.forall_iff, true_and, hpages, gatherCopy, hfill, Nat.zero_add, lt_self_iff_false,
    Nat.sub_zero, htake, hoff, hlen, implies_true]

/-- A connection attached on socket 5 queues 16 KiB, and the reactor's `Write` in the copy build
returns once the kernel took all of it: the queue holds a spent page while the count is 0. -/
theorem writeOutboundData_copy_spent_page_example :
    ∃ s, Reachable silentApp .copy s ∧ StreamAt 0 [⟨List.replicate outputBufferSize 0, 0⟩] [] s ∧
      Succeeds (Virtual.write silentApp .copy 0 { write := ⟨outputBufferSize, 0⟩ })
        (fun _ s' => Reachable silentApp .copy s' ∧
          StreamAt 0 [⟨List.replicate outputBufferSize 0, outputBufferSize⟩]
            (List.replicate outputBufferSize 0) s' ∧
          (s'.descriptors 0).map EventableDescriptor.getOutboundDataSize = some 0) s := by
  obtain ⟨s, hs, d, c, hd, hc, hwatch, hfrom, htls, hopen, hsock, hpending, hnotify, hpages, hcount,
      hmalloc, hsent⟩ : ∃ s, Reachable silentApp .copy s ∧ ∃ d c, s.descriptors 0 = some d ∧
      d.sub = .connection c ∧ d.bWatchOnly = false ∧ d.proxiedFrom = none ∧ c.sslBox = none ∧
      d.isCloseScheduled = false ∧ d.mySocket ≠ invalidSocket ∧ c.bConnectPending = false ∧
      c.bNotifyWritable = false ∧ c.outboundPages = [] ∧ c.outboundDataSize = 0 ∧
      s.mallocResults.headD true = true ∧ sentBytes s.trace = [] :=
    ⟨_, .step (.init Reactor.empty_initial) (.attach 5 false (.of_survives (by decide))),
      _, _, rfl, rfl, rfl, rfl, rfl, rfl, by decide, rfl, rfl, rfl, rfl, rfl, by decide⟩
  have hdata : List.replicate outputBufferSize (0 : Byte) ≠ [] := by decide
  obtain ⟨hsend, -, hsent', events, hd'⟩ :=
    (ConnectionDescriptor.sendOutboundData_queues_page hd hc hwatch hfrom htls hopen hdata
      hmalloc).after_spec
  have hfill : OutboundPage.unsentLength ⟨List.replicate outputBufferSize (0 : Byte), 0⟩ =
      outputBufferSize := (OutboundPage.length_unsent _).symm.trans (List.length_replicate _ _)
  have hw : Succeeds (Virtual.write silentApp .copy 0 { write := ⟨outputBufferSize, 0⟩ }) _ _ :=
    ConnectionDescriptor.write_copy_keeps_spent_page hd' rfl (by rw [hpages]; rfl) hfill hsock
      hpending hnotify hwatch hfrom
  have hmost : WriteTakesAtMost .copy (after (runApiCall (.sendOutboundData 0
      (.bytes (List.replicate outputBufferSize 0)))) s) 0 { write := ⟨outputBufferSize, 0⟩ } := by
    intro d' c' hd'' hc''
    obtain rfl := Option.some.inj (hd''.symm.trans hd')
    obtain rfl := Subclass.connection.inj hc''.symm
    simp [gather, gatherCopy, hpages, hfill]
  refine ⟨_, .step hs (.call _ hsend), ⟨by simp [hd', EventableDescriptor.streamPages, hpages],
    hsent'.trans hsent⟩, hw.completes.mono ?_⟩
  rintro _ s' ⟨hwrite, hstream, hcount'⟩
  refine ⟨.step (.step hs (.call _ hsend)) (.write 0 _ hmost hwrite), ?_, by simpa [hcount] using hcount'⟩
  simpa [hsent', hsent, OutboundPage.length, OutboundPage.unsent] using hstream

/-! ## A failed allocation in the copy build

The copy build takes the gathered bytes out of the queue before the write, and allocates a page
for the unsent tail of `output_buffer` after it. `OutboundDataSize` is lowered only by what the
kernel took, so when that `malloc` fails the tail is gone from the queue while the size still
counts it. -/

/-- A reactor before any descriptor exists whose second `malloc` fails. -/
def secondMallocFails : Reactor := { Reactor.empty with mallocResults := [true, false] }

theorem secondMallocFails_initial : secondMallocFails.Initial := ⟨fun _ => rfl, rfl, rfl⟩

/-- A connection queues three bytes and the kernel takes one of them in a copy-build flush
whose allocation for the rest fails: the queue is empty, the two bytes the kernel did not take
are nowhere, and `OutboundDataSize` is `2`. -/
theorem writeOutboundData_copy_drops_tail_on_bad_alloc :
    ∃ s, Reachable silentApp .copy s ∧ sentBytes s.trace = [1] ∧
      (s.descriptors 0).map EventableDescriptor.streamPages = some (some []) ∧
      (s.descriptors 0).map EventableDescriptor.getOutboundDataSize = some 2 :=
  ⟨_, .step (.step (.step (.init secondMallocFails_initial)
    (.attach 5 false (.of_survives (by decide))))
    (.call (.sendOutboundData 0 (.bytes [1, 2, 3])) (.of_survives (by decide))))
    (.write 0 { write := ⟨1, 0⟩ } (.of_writeFits (by decide)) (.of_survives (by decide))),
    by decide, by decide, by decide⟩

end EventMachine

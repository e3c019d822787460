import EventMachine.Reactor

/-!
# The outbound queue of a datagram socket

`SendOutboundData` and `SendOutboundDatagram` queue one datagram at the back; `Write` pops
datagrams from the front, hands each to `sendto` whole, and pops it whatever the kernel answers.
So the queue is a FIFO of whole datagrams that may lose some: along any run from an empty queue,
the queue holds the datagrams queued last, in order, and the buffers the kernel took are whole
datagrams of the ones that left before them, in the order they were queued and each at most once
(`datagram_fifo`). Nothing is promised about how many of them the kernel took: a datagram that
`sendto` refuses, with `EWOULDBLOCK` as with any other error, leaves the queue unsent.

What the kernel took is read off the trace: a `send` entry carries the buffer one `sendto` took.
-/

namespace EventMachine

/-! ## What the datagram queue observes -/

/-- The buffer a traced call handed to the kernel and the kernel took. -/
def TraceEntry.sentBuffer : TraceEntry → Option (List Byte)
  | .send _ bytes => some bytes
  | _ => none

/-- The buffers the kernel took, one per call, in call order. -/
def sentBuffers (trace : List TraceEntry) : List (List Byte) :=
  trace.filterMap TraceEntry.sentBuffer

@[simp] theorem sentBuffers_append (t t' : List TraceEntry) :
    sentBuffers (t ++ t') = sentBuffers t ++ sentBuffers t' :=
  List.filterMap_append _ _ _

/-- The datagram queue of a datagram socket; the other descriptors have none. -/
def EventableDescriptor.datagramPages (d : EventableDescriptor) : Option (List DatagramPage) :=
  match d.sub with
  | .datagram g => some g.outboundPages
  | _ => none

theorem datagramPages_mapDatagram {d : EventableDescriptor}
    {f : DatagramDescriptor → DatagramDescriptor} {q : List DatagramPage → List DatagramPage}
    (hf : ∀ g, (f g).outboundPages = q g.outboundPages) :
    ({ d with sub := d.sub.mapDatagram f } : EventableDescriptor).datagramPages =
      d.datagramPages.map q := by
  unfold EventableDescriptor.datagramPages
  cases d.sub <;> simp [Subclass.mapDatagram, hf]

/-- Every datagram socket's queue, and the buffers the kernel took. -/
def datagramView (s : Reactor) :
    (Binding → Option (Option (List DatagramPage))) × List (List Byte) :=
  (fun b => (s.descriptors b).map EventableDescriptor.datagramPages, sentBuffers s.trace)

/-- The socket `b` queues `pages`, and the kernel has taken `sent`. -/
def DatagramAt (b : Binding) (pages : List DatagramPage) (sent : List (List Byte)) (s : Reactor) :
    Prop :=
  (s.descriptors b).map EventableDescriptor.datagramPages = some (some pages) ∧
    sentBuffers s.trace = sent

/-- Of `pages`, queued at `b` once the kernel had taken `sent`, a prefix has left the queue and
the queue holds exactly the rest; since then the kernel has taken whole datagrams of that prefix,
in order. -/
def Departed (b : Binding) (pages : List DatagramPage) (sent : List (List Byte)) (s : Reactor) :
    Prop :=
  ∃ departed queue taken, departed ++ queue = pages ∧ DatagramAt b queue (sent ++ taken) s ∧
    taken.Sublist (departed.map DatagramPage.buffer)

/-! ## Frames: calls that neither queue nor send -/

section Frames

theorem datagramView_emit (e : TraceEntry) (he : e.sentBuffer = none) :
    Preserves datagramView (emit e) := by
  intro s
  simp [datagramView, sentBuffers, he]

theorem datagramView_modifyDescriptor (b : Binding)
    {f : EventableDescriptor → EventableDescriptor}
    (hf : ∀ d, (f d).datagramPages = d.datagramPages) :
    Preserves datagramView (modifyDescriptor b f) := by
  intro s
  have h := preserves_modifyDescriptor b hf s
  simp only [wp_modifyDescriptor] at h ⊢
  intro d hd
  simp only [datagramView, h d hd]

theorem datagramView_malloc : Preserves datagramView malloc := fun _ => rfl

theorem datagramView_close (self : Binding) :
    Preserves datagramView (EventableDescriptor.close self) := by
  simp only [EventableDescriptor.close, deregister, pure_bind]
  exact (preserves_descriptor _).bind fun d => .ite ((datagramView_emit _ (by rfl)).bind fun _ =>
    .ite ((datagramView_emit _ (by rfl)).bind fun _ => (datagramView_emit _ (by rfl)).bind fun _ =>
      datagramView_modifyDescriptor _ fun _ => by rfl)
      (datagramView_modifyDescriptor _ fun _ => by rfl)) (preserves_pure _)

end Frames

/-! ## The steps of the datagram queue -/

section Steps

variable {b : Binding} {pages : List DatagramPage} {sent : List (List Byte)}

/-- `if c then x` followed by `y` in a `do` block, where the join point put `y` in both
branches: `y` runs from what `x` leaves, or from where `x` was skipped. -/
theorem Triple.when {α : Type} {P R : Reactor → Prop} {Q : α → Reactor → Prop}
    {E : Reactor → Prop} {c : Prop} [Decidable c] {x : EM PUnit} {y : EM α}
    (hx : c → Triple P x (fun _ => R) E) (hP : ∀ s, P s → R s) (hy : Triple R y Q E) :
    Triple P (if c then x >>= fun _ => y else y) Q E :=
  .ite (fun h => (hx h).bind fun _ => hy) fun _ => hy.mono hP (fun _ _ h => h) fun _ h => h

theorem datagramAt_frame {α : Type} {x : EM α} (h : Preserves datagramView x) :
    Triple (DatagramAt b pages sent) x (fun _ => DatagramAt b pages sent) (fun _ => True) :=
  h.triple (fun v => v.1 b = some (some pages) ∧ v.2 = sent) fun _ _ => trivial

theorem departed_frame {α : Type} {x : EM α} (h : Preserves datagramView x) :
    Triple (Departed b pages sent) x (fun _ => Departed b pages sent) (fun _ => True) :=
  h.triple (fun v => ∃ departed queue taken, departed ++ queue = pages ∧
    (v.1 b = some (some queue) ∧ v.2 = sent ++ taken) ∧
      taken.Sublist (departed.map DatagramPage.buffer)) fun _ _ => trivial

theorem datagramAt_datagram :
    Triple (DatagramAt b pages sent) (datagram b)
      (fun g s => DatagramAt b pages sent s ∧ g.outboundPages = pages) (fun _ => True) := by
  rintro s ⟨hs, hsent⟩
  simp only [wp_datagram]
  intro d hd g hg
  simp only [hd, Option.map_some', EventableDescriptor.datagramPages, hg,
    Option.some.injEq] at hs
  exact ⟨⟨by simp [hd, EventableDescriptor.datagramPages, hg, hs], hsent⟩, hs⟩

theorem datagramAt_modifyDatagram {f : DatagramDescriptor → DatagramDescriptor}
    (q : List DatagramPage → List DatagramPage) (hf : ∀ g, (f g).outboundPages = q g.outboundPages) :
    Triple (DatagramAt b pages sent) (modifyDatagram b f) (fun _ => DatagramAt b (q pages) sent)
      (fun _ => True) := by
  rintro s ⟨hs, hsent⟩
  simp only [modifyDatagram, wp_modifyDescriptor]
  intro d hd
  simp only [hd, Option.map_some', Option.some.injEq] at hs
  exact ⟨by simp [datagramPages_mapDatagram hf, hs], hsent⟩

theorem datagramAt_emit (e : TraceEntry) :
    Triple (DatagramAt b pages sent) (emit e)
      (fun _ => DatagramAt b pages (sent ++ e.sentBuffer.toList)) (fun _ => True) := by
  rintro s ⟨hs, rfl⟩
  refine ⟨hs, ?_⟩
  cases e <;> simp [sentBuffers, TraceEntry.sentBuffer]

/-- `queueDatagram` that returns has put its datagram at the back of the queue. -/
theorem departed_queueDatagram (data : OutboundData) (dest : SockAddr) :
    Triple (Departed b pages sent) (DatagramDescriptor.queueDatagram b data dest)
      (fun _ => Departed b (pages ++ [⟨data.toBytes, dest⟩]) sent) (fun _ => True) := by
  rintro s ⟨departed, queue, taken, rfl, hs, hsub⟩
  refine (?_ : Triple (DatagramAt b queue (sent ++ taken)) _ _ _) s hs
  simp only [DatagramDescriptor.queueDatagram, modifyInterest, pure_bind, throw_bind]
  refine .ite (fun _ _ _ => trivial) fun _ => (datagramAt_frame datagramView_malloc).bind fun _ =>
    .ite (fun _ _ _ => trivial) fun _ => ?_
  refine (datagramAt_modifyDatagram (· ++ [⟨data.toBytes, dest⟩]) fun _ => by rfl).bind fun _ =>
    (datagramAt_frame (datagramView_modifyDescriptor _ fun _ => by rfl)).bind fun _ =>
      (datagramAt_frame (datagramView_emit _ (by rfl))).bind fun _ => triple_pure _ fun _ h => ?_
  exact ⟨departed, _, taken, by rw [List.append_assoc], h, hsub⟩

/-- One pass of the send loop moves the front datagram to the departed prefix, with its buffer
taken by the kernel or not. -/
theorem departed_of_pop {departed rest : List DatagramPage} {op : DatagramPage}
    {taken e : List (List Byte)} {s : Reactor} (hpages : departed ++ op :: rest = pages)
    (hsub : taken.Sublist (departed.map DatagramPage.buffer)) (he : e.Sublist [op.buffer])
    (hs : DatagramAt b rest (sent ++ taken ++ e) s) : Departed b pages sent s :=
  ⟨departed ++ [op], rest, taken ++ e, by simpa using hpages, by simpa using hs,
    by simpa using hsub.append he⟩

/-- The send loop of `Write` keeps the queue a departed prefix away from what was queued. -/
theorem departed_writeLoop (sd : Int) (n : Nat) : ∀ results,
    Triple (Departed b pages sent) (DatagramDescriptor.writeLoop b sd n results)
      (fun _ => Departed b pages sent) (fun _ => True) := by
  induction n with
  | zero => exact fun _ => triple_pure _ fun _ h => h
  | succ n ih =>
    rintro results s ⟨departed, queue, taken, hpages, hs, hsub⟩
    refine (?_ : Triple (DatagramAt b queue (sent ++ taken)) _ _ _) s hs
    simp only [DatagramDescriptor.writeLoop]
    refine datagramAt_datagram.bind fun g => .of_fact fun hg => ?_
    rw [hg]
    cases queue with
    | nil => exact triple_pure _ fun _ h => ⟨departed, [], taken, hpages, h, hsub⟩
    | cons op rest =>
      refine Triple.when (R := fun s => ∃ e, e.Sublist [op.buffer] ∧
          DatagramAt b (op :: rest) (sent ++ taken ++ e) s)
        (fun _ => (datagramAt_emit _).mono (fun _ h => h)
          (fun _ _ h => ⟨[op.buffer], .refl _, by simpa [TraceEntry.sentBuffer] using h⟩)
          fun _ h => h)
        (fun _ h => ⟨[], List.nil_sublist _, by simpa using h⟩) fun s ⟨e, he, hs⟩ => ?_
      refine ((datagramAt_modifyDatagram List.tail fun _ => by rfl).bind fun _ =>
        Triple.mono (.ite (fun _ => (departed_frame (datagramView_modifyDescriptor _
          fun _ => by rfl)).bind fun _ => departed_frame (datagramView_close _)) fun _ => ih _)
          (fun _ h => departed_of_pop hpages hsub he h) (fun _ _ h => h) fun _ h => h) s hs

/-- `Write`: the send loop, framed by reads, the activity time and the mask. -/
theorem departed_write (results : List SyscallResult) :
    Triple (Departed b pages sent) (DatagramDescriptor.write b results)
      (fun _ => Departed b pages sent) (fun _ => True) := by
  simp only [DatagramDescriptor.write, modifyInterest, pure_bind, throw_bind]
  exact (departed_frame (preserves_descriptor _)).bind fun _ => .ite (fun _ _ _ => trivial)
    fun _ => (departed_frame preserves_getCurrentLoopTime).bind fun _ =>
      (departed_frame (datagramView_modifyDescriptor _ fun _ => by rfl)).bind fun _ =>
        (departed_frame (preserves_datagram _)).bind fun _ => .ite (fun _ _ _ => trivial)
          fun _ => (departed_writeLoop _ _ _).bind fun _ =>
            (departed_frame (preserves_datagram _)).bind fun _ =>
              (departed_frame (datagramView_modifyDescriptor _ fun _ => by rfl)).bind fun _ =>
                departed_frame (datagramView_emit _ (by rfl))

variable {s : Reactor} {d : EventableDescriptor} {data : OutboundData}

/-- An accepted `SendOutboundData` queues a reply to the last sender. -/
theorem sendOutboundData_run {g : DatagramDescriptor} (hd : s.descriptors b = some d)
    (hg : d.sub = .datagram g) (hclose : d.isCloseScheduled = false) :
    DatagramDescriptor.sendOutboundData b data s =
      DatagramDescriptor.queueDatagram b data g.returnAddress s := by
  simp only [DatagramDescriptor.sendOutboundData, datagram, bind_assoc,
    bind_run_ok (descriptor_run hd), hclose, Bool.false_eq_true, if_false, pure_bind, hg]

/-- An accepted `SendOutboundDatagram` queues a datagram to the resolved address. -/
theorem sendOutboundDatagram_run {address : String} {port : Int} {dest : SockAddr}
    (hd : s.descriptors b = some d) (hclose : d.isCloseScheduled = false) (haddr : address ≠ "")
    (hport : port ≠ 0) :
    DatagramDescriptor.sendOutboundDatagram b data (some address) port (some dest) s =
      DatagramDescriptor.queueDatagram b data dest s := by
  simp only [DatagramDescriptor.sendOutboundDatagram, bind_run_ok (descriptor_run hd), hclose,
    Bool.false_eq_true, if_false, Option.getD_some, haddr, hport, or_self]
  rfl

end Steps

/-! ## Runs of the datagram queue -/

/-- A run of the outbound path of the datagram socket `b` from `s`, with the datagrams it
queued: accepted `SendOutboundData` calls (a reply to the last sender) and
`SendOutboundDatagram` calls (to an address that resolved), on a socket with no close
scheduled, and `Write` calls with any answers of the kernel. -/
inductive DatagramRun (b : Binding) (s : Reactor) : List DatagramPage → Reactor → Prop
  | nil : DatagramRun b s [] s
  | reply {s₁ s₂ : Reactor} {queued : List DatagramPage} {d : EventableDescriptor}
      {g : DatagramDescriptor} {n : Int} (data : OutboundData) :
      DatagramRun b s queued s₁ → s₁.descriptors b = some d → d.sub = .datagram g →
      d.isCloseScheduled = false → DatagramDescriptor.sendOutboundData b data s₁ = .ok n s₂ →
      DatagramRun b s (queued ++ [⟨data.toBytes, g.returnAddress⟩]) s₂
  | send {s₁ s₂ : Reactor} {queued : List DatagramPage} {d : EventableDescriptor} {n : Int}
      (data : OutboundData) (address : String) (port : Int) (dest : SockAddr) :
      DatagramRun b s queued s₁ → s₁.descriptors b = some d → d.isCloseScheduled = false →
      address ≠ "" → port ≠ 0 →
      DatagramDescriptor.sendOutboundDatagram b data (some address) port (some dest) s₁ =
        .ok n s₂ →
      DatagramRun b s (queued ++ [⟨data.toBytes, dest⟩]) s₂
  | write {s₁ s₂ : Reactor} {queued : List DatagramPage} (results : List SyscallResult) :
      DatagramRun b s queued s₁ → DatagramDescriptor.write b results s₁ = .ok () s₂ →
      DatagramRun b s queued s₂

/-- The outbound queue of a datagram socket is a FIFO of whole datagrams that may lose some:
along any run from an empty queue, the queue holds the datagrams queued last, in order, and the
buffers the kernel took are whole datagrams of the ones that left before them, in the order they
were queued and each at most once. -/
theorem datagram_fifo {b : Binding} {s s' : Reactor} {queued : List DatagramPage}
    (h : DatagramRun b s queued s') {d : EventableDescriptor} {g : DatagramDescriptor}
    (hb : s.descriptors b = some d) (hg : d.sub = .datagram g) (hempty : g.outboundPages = []) :
    ∃ departed pages taken,
      (s'.descriptors b).map EventableDescriptor.datagramPages = some (some pages) ∧
      departed ++ pages = queued ∧ sentBuffers s'.trace = sentBuffers s.trace ++ taken ∧
      taken.Sublist (departed.map DatagramPage.buffer) := by
  suffices Departed b queued (sentBuffers s.trace) s' by
    obtain ⟨departed, pages, taken, hq, ⟨hs, hsent⟩, hsub⟩ := this
    exact ⟨departed, pages, taken, hs, hq, hsent, hsub⟩
  induction h with
  | nil =>
    exact ⟨[], [], [], rfl,
      ⟨by simp [hb, EventableDescriptor.datagramPages, hg, hempty], by simp⟩, .slnil⟩
  | reply _ _ hd hg' hclose hx ih =>
    rw [sendOutboundData_run hd hg' hclose] at hx
    exact state_of_ok hx (departed_queueDatagram _ _ _ ih)
  | send _ _ _ _ _ hd hclose haddr hport hx ih =>
    rw [sendOutboundDatagram_run hd hclose haddr hport] at hx
    exact state_of_ok hx (departed_queueDatagram _ _ _ ih)
  | write results _ hx ih => exact state_of_ok hx (departed_write results _ ih)

/-- A reactor holding one datagram socket, on socket `7`, with an empty queue. -/
def oneDatagramSocket : Reactor :=
  { Reactor.empty with
    descriptors := fun b => if b = 0 then
      some { mySocket := 7, createdAt := 0, lastActivity := 0, sub := .datagram {} } else none
    nextBinding := 1 }

/-- Two replies queued, then one `Write` in which `sendto` refuses the first with `EWOULDBLOCK`
and takes the second: both leave the queue, and the kernel took only the second. -/
theorem datagram_fifo_first_refused : ∃ s', DatagramRun 0 oneDatagramSocket
      [⟨[1, 2], SockAddr.zero⟩, ⟨[3], SockAddr.zero⟩] s' ∧
    ∃ departed pages taken,
      (s'.descriptors 0).map EventableDescriptor.datagramPages = some (some pages) ∧
      departed ++ pages = [⟨[1, 2], SockAddr.zero⟩, ⟨[3], SockAddr.zero⟩] ∧
      sentBuffers s'.trace = sentBuffers oneDatagramSocket.trace ++ taken ∧
      taken.Sublist (departed.map DatagramPage.buffer) := by
  obtain ⟨_, h₁⟩ := ok_after (x := DatagramDescriptor.sendOutboundData 0 (.bytes [1, 2]))
    (s := oneDatagramSocket) (by decide)
  obtain ⟨_, h₂⟩ := ok_after (x := DatagramDescriptor.sendOutboundData 0 (.bytes [3]))
    (s := after (DatagramDescriptor.sendOutboundData 0 (.bytes [1, 2])) oneDatagramSocket)
    (by decide)
  have run₂ := DatagramRun.reply (.bytes [3])
    (DatagramRun.reply (.bytes [1, 2]) .nil (by rfl) (by rfl) (by rfl) h₁) (by rfl) (by rfl) (by rfl) h₂
  have run := DatagramRun.write [⟨-1, ewouldblock⟩, ⟨1, 0⟩] run₂ (run_eq_ok_after (by decide))
  exact ⟨_, run, datagram_fifo run rfl rfl rfl⟩

end EventMachine

import EventMachine.Reactor

/-!
# The OS handle of a descriptor

`Close` leaves the poll set before it releases the handle, and never releases 0, 1, 2 or an
attached handle. Two paths of `ed.cpp` break that order: `DatagramDescriptor::Write` pushes its
interest to the poller after a fatal `sendto` has closed the socket
(`DatagramDescriptor.write_modifies_after_close`), and `~InotifyDescriptor` releases its handle
before the base destructor's `Close` could deregister it (`destroy_inotify_skips_deregister`).

Both `Read` loops read the handle fetched at the start of the burst. A callback that detaches
the descriptor leaves its socket `INVALID_SOCKET`, and the burst goes on reading the old handle
and dispatching what it reads (`ConnectionDescriptor.readLoop_detachOnRead`).
-/

namespace EventMachine

/-! ## Handles released out of order -/

/-- A fatal `sendto` error on the front datagram closes the socket inside `Write`, and `Write`
then calls `Modify` on the descriptor it has just deregistered. -/
theorem DatagramDescriptor.write_modifies_after_close {s : Reactor} {b : Binding}
    {d : EventableDescriptor} {g : DatagramDescriptor} {op : DatagramPage}
    {rest : List DatagramPage} {e : Int} {results : List SyscallResult}
    (hd : s.descriptors b = some d) (hg : d.sub = .datagram g)
    (hpages : g.outboundPages = op :: rest) (hsock : 2 < d.mySocket)
    (hattached : d.bAttached = false) (hfatal : transientWriteErrno e = false) :
    Succeeds (DatagramDescriptor.write b (⟨-1, e⟩ :: results))
      (fun _ s' => s'.trace =
        s.trace ++ [.deregister b, .shutdown d.mySocket, .close d.mySocket, .modify b]) s := by
  have hinv : d.mySocket ≠ invalidSocket := by unfold invalidSocket; omega
  simp [DatagramDescriptor.write, DatagramDescriptor.writeLoop, readBurst, hd, hg, hpages, hinv,
    hfatal, modifyDatagram, EventableDescriptor.close, deregister, modifyInterest, hsock,
    hattached, Subclass.mapDatagram]

/-- Deleting a change-notification descriptor closes its handle with no `Deregister`:
`~InotifyDescriptor` closes the handle and invalidates the socket, so the base `Close` finds
nothing to deregister. -/
theorem destroy_inotify_skips_deregister {app : App} {s : Reactor} {b : Binding}
    {d : EventableDescriptor} (hd : s.descriptors b = some d) (hsub : d.sub = .inotify)
    (hunbind : d.bCallbackUnbind = false) (hfrom : d.proxiedFrom = none)
    (hto : d.proxyTarget = none) :
    Succeeds (destroy app b)
      (fun _ s' => s'.trace = s.trace ++ [.close d.mySocket] ∧ s'.descriptors b = none) s := by
  simp only [destroy, EventableDescriptor.destructor, clearHeartbeat, EventableDescriptor.stopProxy,
    EventableDescriptor.close, forgetBinding, succeeds_bind, succeeds_descriptor, hd,
    Option.some.injEq, exists_eq_left', succeeds_ite, succeeds_emit, succeeds_modify,
    succeeds_modifyDescriptor, succeeds_pure, Function.update_same, hsub, hunbind, hfrom, hto,
    ite_not, Bool.not_eq_true, Bool.false_eq_true, not_true_eq_false, true_implies, false_implies,
    Classical.imp_and_neg_imp_iff, and_self]

/-- Two runs that release or re-register a handle out of order: a datagram socket whose send
fails fatally, and a change-notification descriptor scheduled for close and deleted. -/
theorem handle_released_out_of_order :
    (∃ s, Reachable silentApp .writev s ∧
      s.trace = [.add 0, .modify 0, .deregister 0, .shutdown 5, .close 5, .modify 0]) ∧
    ∃ s, Reachable silentApp .writev s ∧ s.trace = [.add 0, .close 5] ∧ s.descriptors 0 = none :=
  ⟨⟨_, .step (.step (.step (.init Reactor.empty_initial)
      (.openDatagram 5 (.of_survives (by decide))))
      (.call (.sendOutboundData 0 (.bytes [1])) (.of_survives (by decide))))
      (.write 0 { sends := [⟨-1, 9⟩] } (.of_writeFits (by decide)) (.of_survives (by decide))),
      by decide⟩,
    ⟨_, .step (.step (.step (.init Reactor.empty_initial)
      (.inotify 5 (.of_survives (by decide))))
      (.call (.scheduleClose 0 false) (.of_survives (by decide))))
      (.delete_of_shouldDelete 0 (by decide) (.of_survives (by decide))), by decide, by decide⟩⟩

/-! ## The burst's cached handle -/

/-- An application that detaches a descriptor as soon as data arrives on it, as one does that
takes the handle over. -/
def detachOnRead : App := fun _ e => if e.kind = .connectionRead then [.detach e.binding] else []

/-- A stream burst whose every chunk makes the application detach the descriptor: the socket
ends `INVALID_SOCKET`, yet every chunk is read from `sd` and delivered, and the burst reads `sd`
once more before it stops. -/
theorem ConnectionDescriptor.readLoop_detachOnRead {self : Binding} {sd : Int}
    (chunks : List (List Byte)) :
    ∀ (n : Nat) (total : Int) (s : Reactor) (d : EventableDescriptor)
      (c : ConnectionDescriptor), s.descriptors self = some d → d.sub = .connection c →
      c.sslBox = none → d.proxyTarget = none → d.bPaused = false → (∀ x ∈ chunks, x ≠ []) →
      chunks.length < n →
      Succeeds (ConnectionDescriptor.readLoop detachOnRead self sd n (chunks.map .bytes) total)
        (fun r s' => r = total + (chunks.flatten.length : Nat) ∧
          (s'.descriptors self).map EventableDescriptor.mySocket =
            some (if chunks = [] then d.mySocket else invalidSocket) ∧
          s'.callbacks = s.callbacks ++ chunks.map (fun x => ⟨self, .connectionRead, x, x.length⟩) ∧
          s'.trace = s.trace ++ List.replicate (chunks.length + 1) (.recv sd)) s := by
  induction chunks with
  | nil =>
    rintro (_ | n) total s d c hd hc htls hto hpaused - hlen
    · exact absurd hlen (Nat.lt_irrefl 0)
    have heagain : transientReadErrno eagain = true := rfl
    simp only [ConnectionDescriptor.readLoop, List.map_nil, List.headD_nil, heagain, Bool.not_true,
      Bool.false_eq_true, ↓reduceIte, succeeds_bind, succeeds_emit, pure_bind, succeeds_pure,
      List.flatten_nil, List.length_nil, Int.Nat.cast_ofNat_Int, Int.add_zero, hd, Option.map_some',
      List.append_nil, Nat.zero_add, List.replicate_one, and_self]
  | cons x xs ih =>
    rintro (_ | n) total s d c hd hc htls hto hpaused hne hlen
    · exact absurd hlen (Nat.not_lt_zero _)
    obtain ⟨y, ys, rfl⟩ := List.exists_cons_of_ne_nil (hne x (List.mem_cons_self x xs))
    simp only [ConnectionDescriptor.readLoop, succeeds_bind, succeeds_emit, List.map_cons,
      List.headD_cons, ConnectionDescriptor.dispatchInboundData, succeeds_connection, hd, hc, htls,
      EventableDescriptor.genericInboundDispatch, succeeds_descriptor, hto, invokeCallback,
      succeeds_callback, succeeds_get, detachOnRead, runCalls, Option.some.injEq, exists_eq_left',
      if_true, Subclass.connection.injEq]
    -- the callback detaches the descriptor; the loop goes on with its socket invalid
    refine Succeeds.rescue ?_
    simp only [runApiCall, onDescriptor, succeeds_bind, succeeds_get, hd, succeeds_discard, detachFd,
      succeeds_descriptor, succeeds_modifyDescriptor, Option.some.injEq, exists_eq_left', succeeds_pure,
      Function.update_same, hpaused, Bool.false_eq_true, ↓reduceIte, pure_bind, List.tail_cons]
    refine (ih n _ _ { d with mySocket := invalidSocket, bPaused := false } c
      (Function.update_same _ _ _) hc htls hto rfl (fun x hx => hne x (List.mem_cons_of_mem _ hx))
      (Nat.lt_of_succ_lt_succ hlen)).mono ?_
    rintro r s' ⟨hr, hsock, hcb, htr⟩
    refine ⟨by rw [hr]; simp only [List.flatten_cons, List.length_append]; push_cast; omega,
      by simp only [hsock, ite_self, reduceCtorEq, ↓reduceIte],
      by simp only [hcb, List.map_cons, List.append_assoc, List.singleton_append],
      by simp only [htr, List.length_cons, List.replicate_succ, List.append_assoc,
        List.singleton_append]⟩

/-- A datagram burst whose every datagram makes the application detach the socket: every
datagram is read from `sd` and delivered, and the burst reads `sd` once more. -/
theorem DatagramDescriptor.readLoop_detachOnRead {self : Binding} {sd : Int}
    (datagrams : List (List Byte × SockAddr)) :
    ∀ (n : Nat) (s : Reactor) (d : EventableDescriptor), s.descriptors self = some d →
      d.proxyTarget = none → datagrams.length < n →
      Succeeds (DatagramDescriptor.readLoop detachOnRead self sd n
          (datagrams.map fun p => .datagram p.1 p.2))
        (fun _ s' => (s'.descriptors self).map EventableDescriptor.mySocket =
            some (if datagrams = [] then d.mySocket else invalidSocket) ∧
          s'.callbacks =
            s.callbacks ++ datagrams.map (fun p => ⟨self, .connectionRead, p.1, p.1.length⟩) ∧
          s'.trace = s.trace ++ List.replicate (datagrams.length + 1) (.recv sd)) s := by
  induction datagrams with
  | nil =>
    rintro (_ | n) s d hd hto hlen
    · exact absurd hlen (Nat.lt_irrefl 0)
    simp only [DatagramDescriptor.readLoop, List.map_nil, List.headD_nil, succeeds_bind,
      succeeds_emit, pure_bind, succeeds_pure, hd, Option.map_some', List.append_nil,
      List.length_nil, Nat.zero_add, List.replicate_one, and_self, ↓reduceIte]
  | cons p ps ih =>
    rintro (_ | n) s d hd hto hlen
    · exact absurd hlen (Nat.not_lt_zero _)
    simp only [DatagramDescriptor.readLoop, succeeds_bind, succeeds_emit, List.map_cons,
      List.headD_cons, modifyDatagram, succeeds_modifyDescriptor, hd, Option.some.injEq,
      exists_eq_left', EventableDescriptor.genericInboundDispatch, succeeds_descriptor,
      Function.update_same, hto, invokeCallback, succeeds_callback, succeeds_get, detachOnRead,
      runCalls, if_true]
    refine Succeeds.rescue ?_
    simp only [runApiCall, onDescriptor, succeeds_bind, succeeds_get, Function.update_same,
      succeeds_discard, detachFd, succeeds_descriptor, succeeds_modifyDescriptor, Option.some.injEq,
      exists_eq_left', succeeds_pure, pure_bind, List.tail_cons]
    refine (ih n _ _ (Function.update_same _ _ _) rfl (Nat.lt_of_succ_lt_succ hlen)).mono ?_
    rintro _ s' ⟨hsock, hcb, htr⟩
    exact ⟨by simp only [hsock, ite_self, reduceCtorEq, ↓reduceIte],
      by simp only [hcb, List.map_cons, List.append_assoc, List.singleton_append],
      by simp only [htr, List.length_cons, List.replicate_succ, List.append_assoc,
        List.singleton_append]⟩

/-- A stream and a datagram socket whose first chunk of a burst makes the application detach
them. The stream's burst reads the former handle twice more and delivers the second chunk; the
datagram socket's burst calls `recvfrom` on the former handle again. -/
theorem read_burst_continues_after_detach :
    (∃ s, Reachable detachOnRead .writev s ∧
      (s.descriptors 0).map EventableDescriptor.mySocket = some invalidSocket ∧
      s.callbacks = [⟨0, .connectionRead, [1], 1⟩, ⟨0, .connectionRead, [2], 1⟩] ∧
      s.trace.count (.recv 5) = 3) ∧
    ∃ s, Reachable detachOnRead .writev s ∧
      (s.descriptors 0).map EventableDescriptor.mySocket = some invalidSocket ∧
      s.callbacks = [⟨0, .connectionRead, [1], 1⟩] ∧ s.trace.count (.recv 5) = 2 :=
  ⟨⟨_, .step (.step (.init Reactor.empty_initial) (.attach 5 false (.of_survives (by decide))))
      (.read 0 { reads := [.bytes [1], .bytes [2]] } (.of_survives (by decide))),
      by decide, by decide, by decide⟩,
    ⟨_, .step (.step (.init Reactor.empty_initial) (.openDatagram 5 (.of_survives (by decide))))
      (.read 0 { recvs := [.datagram [1] .zero] } (.of_survives (by decide))),
      by decide, by decide, by decide⟩⟩

end EventMachine

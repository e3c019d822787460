import EventMachine.Ledger

/-!
# The outbound ledger over a run

The two poll-driven writes break an entry of `self` and mend it before they return. The send
loop of a datagram socket pops datagrams and lowers the count with each, so the count stays
exact while the mask goes stale; `Write` then sets the mask from `SelectForWrite ()`
(`DatagramDescriptor.keepsLedger_write`). In the `writev` build `_WriteOutboundData` lowers the
count by what the kernel took, resumes a proxy source, and only then drops the sent pages; in
between, the stream entry of `self` is stale (`LedgerFlush`). The resume cannot throw from a
state whose pause checks are sound, and with a kernel that takes at most what it is given, the
dropped pages hold exactly the bytes the count lost (`writeOutboundData_keepsLedger_writev`). The
copy build has no stream entry to keep.

Every step of the reactor keeps the ledger of a state whose poll interest is sound
(`Step.ledgerSound`), so the ledger holds in every reachable state.
-/

namespace EventMachine

/-! ## The send loop of a datagram socket -/

theorem noThrow_datagram (b : Binding) : NoThrow (datagram b) := fun _ =>
  (wp_datagram b).2 fun _ _ _ _ => trivial

namespace DatagramDescriptor

variable {build : Build}

/-- What the send loop can leave stale: the mask of `self`. -/
def MaskStale (self b : Binding) (f : LedgerFact) : Prop := b = self ∧ f = .armed

theorem noThrow_writeLoop (self : Binding) (sd : Int) :
    ∀ n results, NoThrow (writeLoop self sd n results)
  | 0, _ => noThrow_pure _
  | n + 1, results => by
    simp only [writeLoop]
    refine (noThrow_datagram _).bind fun g => ?_
    split
    · exact noThrow_pure _
    · exact .ite ((noThrow_modify _).bind fun _ => (noThrow_modifyDescriptor _ _).bind fun _ =>
        .ite ((noThrow_modifyDescriptor _ _).bind fun _ => EventableDescriptor.noThrow_close _)
          (noThrow_writeLoop self sd n _))
        ((noThrow_modifyDescriptor _ _).bind fun _ =>
          .ite ((noThrow_modifyDescriptor _ _).bind fun _ => EventableDescriptor.noThrow_close _)
            (noThrow_writeLoop self sd n _))

/-- One pass of the send loop pops the front datagram and lowers the count by its length: the
count of `self` stays exact, and only its mask may go stale. -/
theorem ledgerBut_pop {s s' : Reactor} {self : Binding} {d : EventableDescriptor}
    {g : DatagramDescriptor} {op : DatagramPage} {rest : List DatagramPage}
    (hd : s.descriptors self = some d) (hg : d.sub = .datagram g) (hp : g.outboundPages = op :: rest)
    (hs' : s'.descriptors = Function.update s.descriptors self (some { d with
      sub := d.sub.mapDatagram fun g => { g with
        outboundDataSize := g.outboundDataSize - op.buffer.length
        outboundPages := g.outboundPages.tail } })) :
    LedgerBut build (MaskStale self) s s' := by
  refine ledgerBut_of_update hd hs' fun f hf h => ?_
  cases f with
  | stream =>
    intro _ c hc
    rw [hg] at hc
    cases hc
  | datagram =>
    intro g' hg'
    rw [hg] at hg'
    cases hg'
    exact (h g hg).pop hp
  | armed => exact absurd ⟨rfl, rfl⟩ hf

/-- The send loop keeps every entry but the mask of `self`. -/
theorem writeLoop_ledgerBut (self : Binding) (sd : Int) :
    ∀ n results, Guarantee (LedgerBut build (MaskStale self)) (writeLoop self sd n results)
  | 0, _ => guarantee_pure _
  | n + 1, results => by
    intro s
    simp only [writeLoop, wp_bind, wp_datagram]
    intro d hd g hg
    split
    · exact LedgerBut.refl _ s
    next op rest hp =>
    have hrest : Guarantee (LedgerBut build (MaskStale self))
        (if (results.headD ⟨-1, eagain⟩).ret = -1 ∧ !transientWriteErrno (results.headD
            ⟨-1, eagain⟩).errno then
          modifyDescriptor self (fun d => { d with unbindReasonCode :=
            (results.headD ⟨-1, eagain⟩).errno }) >>= fun _ => EventableDescriptor.close self
        else writeLoop self sd n results.tail) :=
      .ite (((keepsLedger_modifyDescriptor _ fun _ => by rfl).bind fun _ =>
        EventableDescriptor.keepsLedger_close _).mono fun _ _ h => h.ledgerBut)
        (writeLoop_ledgerBut self sd n _)
    have hpop : ∀ s₁ : Reactor, s₁.descriptors = s.descriptors →
        wp (modifyDatagram self (fun g => { g with
            outboundDataSize := g.outboundDataSize - op.buffer.length
            outboundPages := g.outboundPages.tail }) >>= fun _ => _)
          (fun _ => LedgerBut build (MaskStale self) s) (LedgerBut build (MaskStale self) s) s₁ :=
      fun s₁ h₁ => by
        rw [wp_bind, modifyDatagram, wp_modifyDescriptor]
        intro d₁ hd₁
        rw [h₁, hd] at hd₁
        obtain rfl := Option.some.inj hd₁
        exact hrest.wp_of_rel (ledgerBut_pop hd hg hp (by rw [h₁]))
    split
    · rw [wp_bind, wp_emit]
      exact hpop _ rfl
    · exact hpop _ rfl

/-- `Write` sets the mask of `self` from `SelectForWrite ()`, which ends the stretch in which it
was stale. -/
theorem setMask_repairs {s₀ s : Reactor} {self : Binding} {E : Reactor → Prop}
    (h : LedgerBut build (MaskStale self) s₀ s) :
    wp (datagram self >>= fun g => modifyDescriptor self (fun d => { d with
        epollEvents := if selectForWrite g then epollIn ||| epollOut else epollIn }) >>= fun _ =>
      modifyInterest self) (fun _ => LedgerKept build s₀) E s := by
  simp only [wp_bind, wp_datagram, wp_modifyDescriptor, modifyInterest, wp_emit]
  intro d hd g hg d' hd'
  obtain rfl := Option.some.inj (hd.symm.trans hd')
  have hset : ∀ f : LedgerFact, (f ≠ .armed → f.Holds build d) →
      f.Holds build { d with epollEvents := g.armedEvents } := by
    intro f hf
    cases f with
    | stream => exact hf nofun
    | datagram => exact hf nofun
    | armed =>
      intro g' hg' _
      obtain rfl := Subclass.datagram.inj (hg.symm.trans hg')
      rfl
  refine (h.trans (ledgerBut_of_update hd rfl fun f hf h => hset f fun _ => h)).repair
    fun b f ⟨hb, hf⟩ _ d₁ hd₁ => ?_
  subst hb hf
  simp only [Function.update_same, Option.some.injEq] at hd₁
  exact hd₁ ▸ hset .armed fun h => absurd rfl h

theorem keepsLedger_write (self : Binding) (results : List SyscallResult) :
    KeepsLedger build (write self results) := by
  simp only [write, pure_bind]
  refine (preserves_descriptor _).keepsLedger.bind fun _ =>
    .when (guarantee_throw_assertionFailed _) <|
      preserves_getCurrentLoopTime.keepsLedger.bind fun _ =>
        (keepsLedger_modifyDescriptor _ fun _ => by rfl).bind fun _ =>
          (preserves_datagram _).keepsLedger.bind fun _ =>
            .when (guarantee_throw_assertionFailed _) fun s => ?_
  rw [wp_bind]
  exact wp_mono (wp_and (writeLoop_ledgerBut self _ _ _ s) (noThrow_writeLoop self _ _ _ s))
    (fun _ _ h => setMask_repairs h.1) fun _ h => h.2.elim

end DatagramDescriptor

/-! ## The flush of `_WriteOutboundData` in the `writev` build -/

/-- A state of a `writev` flush of `self` begun at `s₀`: every entry of `s₀` but the stream
entry of `self` still holds, and so does every pause check, and the members of `self` satisfy
`φ`. -/
def LedgerFlush (s₀ : Reactor) (self : Binding) (φ : ConnectionDescriptor → Prop) (s : Reactor) :
    Prop :=
  LedgerBut .writev (fun b f => b = self ∧ f = .stream) s₀ s ∧
    KeptBut (fun _ a => a ≠ .pause) s₀ s ∧
    s.Holds (fun d => ∀ c, d.sub = .connection c → φ c) self

/-- The members of a connection are where the subclass view says. -/
theorem Reactor.Holds.of_subView {s s' : Reactor} {b : Binding} {φ : ConnectionDescriptor → Prop}
    (h : subView s' b = subView s b) (hs : s.Holds (fun d => ∀ c, d.sub = .connection c → φ c) b) :
    s'.Holds (fun d => ∀ c, d.sub = .connection c → φ c) b := fun d' hd' c hc => by
  simp only [subView, hd'] at h
  cases hd : s.descriptors b with
  | none => simp [hd] at h
  | some d =>
    simp only [hd, Option.map_some', Option.some.injEq] at h
    exact hs d hd c (h.symm.trans hc)

namespace LedgerFlush

variable {s₀ : Reactor} {self : Binding} {φ φ' : ConnectionDescriptor → Prop} {E : Reactor → Prop}

theorem mono {s : Reactor} (hs : LedgerFlush s₀ self φ s) (h : ∀ c, φ c → φ' c) :
    LedgerFlush s₀ self φ' s :=
  ⟨hs.1, hs.2.1, fun d hd c hc => h c (hs.2.2 d hd c hc)⟩

/-- A call that keeps the ledger, the poll interest and every subclass keeps the flush where it
is. -/
theorem frame {α : Type} {x : EM α} (hl : KeepsLedger .writev x) (hi : KeepsInterest x)
    (hv : Preserves subView x) :
    Triple (LedgerFlush s₀ self φ) x (fun _ => LedgerFlush s₀ self φ) (LedgerFlush s₀ self φ) := by
  rintro s ⟨hk, hp, hφ⟩
  have hnext : ∀ s', LedgerKept .writev s s' ∧ InterestKept s s' ∧ subView s' = subView s →
      LedgerFlush s₀ self φ s' := fun s' ⟨hl', hi', hv'⟩ =>
    ⟨hk.trans hl'.ledgerBut, hp.interestKept hi', hφ.of_subView (congrFun hv' self)⟩
  exact wp_mono (wp_and (hl s) (wp_and (hi s) (hv s))) (fun _ s' h => hnext s' h)
    fun s' h => hnext s' h

theorem frame_noThrow {α : Type} {x : EM α} (hl : KeepsLedger .writev x) (hi : KeepsInterest x)
    (hv : Preserves subView x) (hn : NoThrow x) :
    Triple (LedgerFlush s₀ self φ) x (fun _ => LedgerFlush s₀ self φ) E :=
  fun s hs => wp_mono (wp_and (frame hl hi hv s hs) (hn s)) (fun _ _ h => h.1) fun _ h => h.2.elim

/-- Reading the members of `self` finds them as `φ` says. -/
theorem connection :
    Triple (LedgerFlush s₀ self φ) (EventMachine.connection self)
      (fun c s => LedgerFlush s₀ self (· = c) s ∧ φ c) E := by
  rintro s ⟨hk, hp, hφ⟩
  simp only [wp_connection]
  intro d hd c hc
  refine ⟨⟨hk, hp, fun d' hd' c' hc' => ?_⟩, hφ d hd c hc⟩
  obtain rfl := Option.some.inj (hd.symm.trans hd')
  exact Subclass.connection.inj (hc'.symm.trans hc)

/-- A write of the members of `self` keeps every entry but its stream entry, and every pause
check. -/
theorem modifyConnection {f : ConnectionDescriptor → ConnectionDescriptor}
    (φ' : ConnectionDescriptor → Prop) (hφ : ∀ c, φ c → φ' (f c)) :
    Triple (LedgerFlush s₀ self φ) (EventMachine.modifyConnection self f)
      (fun _ => LedgerFlush s₀ self φ') E := by
  rintro s ⟨hk, hp, hφs⟩
  simp only [EventMachine.modifyConnection, wp_modifyDescriptor]
  intro d hd
  refine ⟨hk.trans (ledgerBut_of_update hd rfl fun f hf h => h.mapConnection fun hs => hf ⟨rfl, hs⟩),
    (hp.trans (keptBut_of_update hd rfl fun a ha h => ?_)).mono fun _ _ h => h.elim id id,
    fun d' hd' c' hc' => ?_⟩
  · obtain rfl : a = .pause := Classical.not_not.1 ha
    exact Aspect.Holds.mapConnection h (fun h => nomatch h) fun _ h => nomatch h
  · dsimp only at hd'
    rw [Function.update_same] at hd'
    obtain rfl := Option.some.inj hd'
    obtain ⟨c, hc, rfl⟩ := Subclass.exists_of_mapConnection hc'
    exact hφ c (hφs d hd c hc)

/-- With the pause checks of `s₀` sound, resuming the proxy source keeps the flush where it is
and returns. -/
theorem releaseSource (hpause : ∀ b, s₀.Holds EventableDescriptor.PauseSound b) :
    Triple (LedgerFlush s₀ self φ) (ConnectionDescriptor.releaseSource self)
      (fun _ => LedgerFlush s₀ self φ) E := fun s hs =>
  wp_mono (wp_and (frame (ConnectionDescriptor.keepsLedger_releaseSource self)
    (ConnectionDescriptor.keepsInterest_releaseSource self) (preserves_subView_releaseSource self) s hs)
    (ConnectionDescriptor.releaseSource_noThrow
      (fun b => hs.2.1 b .pause (fun h => h rfl) (hpause b)) self))
    (fun _ _ h => h.1) fun _ h => h.2.elim

/-- The `writev` end of the flush drops the sent pages. -/
theorem consumeOutbound {pages : List OutboundPage} {size : Int} (buffer : List Byte) (w : Nat)
    (err : Bool) :
    Triple (LedgerFlush s₀ self fun c => c.outboundPages = pages ∧ c.outboundDataSize = size)
      (ConnectionDescriptor.consumeOutbound .writev self pages buffer w err)
      (fun _ => LedgerFlush s₀ self fun c =>
        c.outboundPages = consumedPages .writev pages buffer w err pages ∧
          c.outboundDataSize = size) E := by
  simp only [ConnectionDescriptor.consumeOutbound]
  refine .ite (fun hok => modifyConnection _ fun c ⟨hp, hs⟩ => ⟨?_, hs⟩)
    fun hok => triple_pure _ fun _ hs => hs.mono fun c ⟨hp, hs⟩ => ⟨?_, hs⟩
  · simp [consumedPages, hok, hp]
  · simp [consumedPages, hok, hp]

/-- A stale stream entry of `self` that the members show counted whenever it held at the start
is no longer stale. -/
theorem repair {s : Reactor} (hs : LedgerFlush s₀ self φ s)
    (hφ : ∀ c, φ c → s₀.Holds (LedgerFact.stream.Holds .writev) self → c.Counted) :
    LedgerKept .writev s₀ s :=
  hs.1.repair fun b f ⟨hb, hf⟩ h₀ => by
    subst hb hf
    exact fun d hd _ c hc => hφ c (hs.2.2 d hd c hc) h₀

/-- Once the members of `self` are counted again, the flush keeps the ledger through a method
that keeps it. -/
theorem keepsLedger {α : Type} {x : EM α}
    (hφ : ∀ c, φ c → s₀.Holds (LedgerFact.stream.Holds .writev) self → c.Counted)
    (hx : KeepsLedger .writev x) :
    Triple (LedgerFlush s₀ self φ) x (fun _ => LedgerKept .writev s₀) (LedgerKept .writev s₀) :=
  fun _ hs => hx.wp_of_rel (hs.repair hφ)

end LedgerFlush

/-- `_WriteOutboundData` in the `writev` build keeps the ledger from a state whose pause checks
are sound, with a kernel that takes at most the bytes it is given. -/
theorem writeOutboundData_keepsLedger_writev {s₀ : Reactor} {self : Binding} {r : SyscallResult}
    (hpause : ∀ b, s₀.Holds EventableDescriptor.PauseSound b)
    (hr : ∀ d c, s₀.descriptors self = some d → d.sub = .connection c →
      r.ret ≤ ((gather .writev c.outboundPages).1.length : Int)) :
    wp (ConnectionDescriptor.writeOutboundData .writev self r) (fun _ => LedgerKept .writev s₀)
      (LedgerKept .writev s₀) s₀ := by
  suffices h : Triple (LedgerFlush s₀ self fun c =>
      (s₀.Holds (LedgerFact.stream.Holds .writev) self → c.Counted) ∧
        r.ret ≤ ((gather .writev c.outboundPages).1.length : Int))
      (ConnectionDescriptor.writeOutboundData .writev self r) (fun _ => LedgerKept .writev s₀)
      (LedgerKept .writev s₀) from
    h s₀ ⟨.refl _ _, .refl _ _, fun d hd c hc => ⟨fun h => h d hd rfl c hc, hr d c hd hc⟩⟩
  simp only [ConnectionDescriptor.writeOutboundData, pure_bind, throw_bind]
  refine (triple_descriptor self).bind fun d => .ite (fun _ => ?_) fun _ => ?_
  · -- a write on a closed socket only marks the attempt
    refine (LedgerFlush.keepsLedger (fun _ h => h.1) ?_).mono (fun _ h => h.1) (fun _ _ h => h)
      fun _ h => h
    exact (preserves_connection _).keepsLedger.bind fun _ =>
      .when (guarantee_throw_assertionFailed _) (keepsLedger_modifyConnection _ fun _ => by rfl)
  refine Triple.mono ?_ (fun _ h => h.1) (fun _ _ h => h) fun _ h => h
  refine (LedgerFlush.frame_noThrow preserves_getCurrentLoopTime.keepsLedger
    preserves_getCurrentLoopTime.keepsInterest preserves_getCurrentLoopTime
    fun _ => trivial).bind fun _ => ?_
  refine (LedgerFlush.frame_noThrow (keepsLedger_modifyDescriptor _ fun _ => by rfl)
    (keepsInterest_modifyDescriptor _ fun _ => by rfl)
    (preserves_modifyDescriptor _ fun _ => by rfl) (noThrow_modifyDescriptor _ _)).bind fun _ => ?_
  refine LedgerFlush.connection.bind fun c => Triple.of_fact fun ⟨hC, hR⟩ => ?_
  have hw : bytesTaken r ≤ (gather .writev c.outboundPages).1.length := by
    unfold bytesTaken
    split <;> omega
  refine (LedgerFlush.modifyConnection (fun c' => c'.outboundPages = c.outboundPages ∧
    c'.outboundDataSize = c.outboundDataSize) fun _ h => by subst h; exact ⟨rfl, rfl⟩).bind
    fun _ => .ite (fun _ => triple_assertionFailed _) fun _ => ?_
  rw [show (if decide (r.ret < 0) = true then 0 else r.ret.toNat) = bytesTaken r from rfl]
  refine (LedgerFlush.frame_noThrow (keepsLedger_emit _) (keepsInterest_emit _)
    (preserves_subView_emit _) (noThrow_modify _)).bind fun _ => ?_
  refine (LedgerFlush.modifyConnection (fun c' => c'.outboundPages = c.outboundPages ∧
    c'.outboundDataSize = c.outboundDataSize - bytesTaken r) fun _ ⟨hp, hs⟩ =>
      ⟨hp, by rw [← hs]⟩).bind fun _ => ?_
  refine (LedgerFlush.releaseSource hpause).bind fun _ =>
    (LedgerFlush.consumeOutbound _ _ _).bind fun _ => LedgerFlush.keepsLedger ?_ ?_
  · intro c' ⟨hp, hs⟩ h₀
    refine ((hC h₀).consume hw fun h : decide (r.ret < 0) = true => by
      simp only [bytesTaken, h, if_true]).of_ledgerInputs ?_
    rw [ConnectionDescriptor.ledgerInputs, hp, hs]
    rfl
  · exact (ConnectionDescriptor.keepsLedger_updateEvents _ _ _).bind fun _ =>
      .ite ((keepsLedger_modifyDescriptor _ fun _ => by rfl).bind fun _ =>
        EventableDescriptor.keepsLedger_close _) (guarantee_pure _)

/-! ## The copy build -/

/-- In the copy build a stream has no entry, so any write of a connection's members keeps the
ledger. -/
theorem keepsLedger_modifyConnection_copy (b : Binding)
    (f : ConnectionDescriptor → ConnectionDescriptor) :
    KeepsLedger .copy (modifyConnection b f) := by
  intro s
  rw [modifyConnection, wp_modifyDescriptor]
  intro d hd
  refine ledgerBut_of_update hd rfl fun e _ h => ?_
  cases e with
  | stream => exact fun h => nomatch h
  | _ => exact h.mapConnection fun h => nomatch h

theorem keepsLedger_consumeOutbound_copy (self : Binding) (pages : List OutboundPage)
    (buffer : List Byte) (w : Nat) (err : Bool) :
    KeepsLedger .copy (ConnectionDescriptor.consumeOutbound .copy self pages buffer w err) := by
  simp only [ConnectionDescriptor.consumeOutbound]
  exact .ite (keepsLedger_malloc.bind fun _ => .when (guarantee_throw_runtimeError _)
    (keepsLedger_modifyConnection_copy _ _)) (guarantee_pure _)

theorem keepsLedger_writeOutboundData_copy (self : Binding) (r : SyscallResult) :
    KeepsLedger .copy (ConnectionDescriptor.writeOutboundData .copy self r) := by
  simp only [ConnectionDescriptor.writeOutboundData, pure_bind]
  exact (preserves_descriptor _).keepsLedger.bind fun _ =>
    .ite ((preserves_connection _).keepsLedger.bind fun _ => .when (guarantee_throw_assertionFailed _)
      (keepsLedger_modifyConnection_copy _ _)) <|
    preserves_getCurrentLoopTime.keepsLedger.bind fun _ =>
      (keepsLedger_modifyDescriptor _ fun _ => by rfl).bind fun _ =>
        (preserves_connection _).keepsLedger.bind fun _ =>
          (keepsLedger_modifyConnection_copy _ _).bind fun _ =>
            .when (guarantee_throw_assertionFailed _) <| (keepsLedger_emit _).bind fun _ =>
              (keepsLedger_modifyConnection_copy _ _).bind fun _ =>
                (ConnectionDescriptor.keepsLedger_releaseSource _).bind fun _ =>
                  (keepsLedger_consumeOutbound_copy _ _ _ _ _).bind fun _ =>
                    (ConnectionDescriptor.keepsLedger_updateEvents _ _ _).bind fun _ =>
                      .ite ((keepsLedger_modifyDescriptor _ fun _ => by rfl).bind fun _ =>
                        EventableDescriptor.keepsLedger_close _) (guarantee_pure _)

/-! ## Write and error readiness -/

namespace ConnectionDescriptor

variable {s₀ : Reactor} {build : Build} {self : Binding} {r : SyscallResult}

/-- `Write` keeps the ledger when its flush does: a pending connect and a watch-only notification
do not flush. -/
theorem write_keepsLedger_of (app : App) (status : ConnectStatus)
    (hflush : ∀ d c, s₀.descriptors self = some d → d.sub = .connection c →
      c.bConnectPending = false → c.bNotifyWritable = false →
      wp (writeOutboundData build self r) (fun _ => LedgerKept build s₀) (LedgerKept build s₀) s₀) :
    wp (write app build self status r) (fun _ => LedgerKept build s₀) (LedgerKept build s₀) s₀ := by
  simp only [write, wp_bind, wp_connection]
  intro d hd c hc
  split
  · exact Guarantee.wp_of_rel (.ite ((keepsLedger_invokeCallback _ _ _ _ _).bind fun _ =>
      keepsLedger_setConnectPending _ _) (.when (keepsLedger_modifyDescriptor _ fun _ => by rfl)
      (keepsLedger_scheduleClose _ _))) (LedgerBut.refl _ _)
  rename_i hpending
  split
  · exact Guarantee.wp_of_rel ((keepsLedger_invokeCallback _ _ _ _ _).bind fun _ =>
      (keepsLedger_updateEvents _ _ _).bind fun _ => guarantee_pure _) (LedgerBut.refl _ _)
  rename_i hnotify
  simp only [pure_bind, throw_bind, wp_bind, wp_descriptor, wp_ite, wp_throw_assertionFailed]
  exact fun _ _ => ⟨fun _ => trivial, fun _ =>
    hflush d c hd hc (by simpa using hpending) (by simpa using hnotify)⟩

/-- `Write` keeps the ledger from a state whose pause checks are sound, with a kernel that takes
at most what it is given. -/
theorem write_keepsLedger (app : App) (status : ConnectStatus)
    (hpause : ∀ b, s₀.Holds EventableDescriptor.PauseSound b)
    (hr : ∀ d c, s₀.descriptors self = some d → d.sub = .connection c →
      r.ret ≤ ((gather build c.outboundPages).1.length : Int)) :
    wp (write app build self status r) (fun _ => LedgerKept build s₀) (LedgerKept build s₀) s₀ :=
  write_keepsLedger_of app status fun _ _ _ _ _ _ => by
    cases build with
    | writev => exact writeOutboundData_keepsLedger_writev hpause hr
    | copy => exact keepsLedger_writeOutboundData_copy self r s₀

/-- `HandleError` keeps the ledger: it writes only for a watch-only connection that asked to
hear of writability, which does not flush. -/
theorem keepsLedger_handleError (app : App) (build : Build) (self : Binding)
    (results : List ReadResult) (status : ConnectStatus) (r : SyscallResult) :
    KeepsLedger build (handleError app build self results status r) := by
  unfold handleError
  refine (preserves_descriptor _).keepsLedger.bind fun d =>
    .ite (.ite (guarantee_pure _) ?_) (keepsLedger_scheduleClose _ _)
  refine (preserves_connection _).keepsLedger.bind fun _ => .when (keepsLedger_read _ _ _) ?_
  intro s
  simp only [wp_bind, wp_connection]
  intro d hd c hc
  split
  · next hw =>
    exact write_keepsLedger_of app status fun d' c' hd' hc' _ hn => by
      obtain rfl := Option.some.inj (hd.symm.trans hd')
      obtain rfl := Subclass.connection.inj (hc.symm.trans hc')
      exact absurd hw (by simp [hn])
  · exact guarantee_pure _ s

end ConnectionDescriptor

/-! ## Creating and destroying descriptors -/

section Lifecycle

variable {build : Build}

namespace LedgerFact

/-- A descriptor that is neither a stream nor a datagram socket has no entries. -/
theorem holds_of_other {d : EventableDescriptor} (hc : ∀ c, d.sub ≠ .connection c)
    (hg : ∀ g, d.sub ≠ .datagram g) (f : LedgerFact) : f.Holds build d := by
  cases f with
  | stream => exact fun _ c h => absurd h (hc c)
  | datagram => exact fun g h => absurd h (hg g)
  | armed => exact fun g h => absurd h (hg g)

/-- A new connection queues nothing and counts nothing. -/
theorem holds_of_connection_empty {d : EventableDescriptor} (hd : d.sub = .connection {})
    (f : LedgerFact) : f.Holds build d := by
  cases f with
  | stream =>
    intro _ c hc
    obtain rfl := Subclass.connection.inj (hd.symm.trans hc)
    exact ConnectionDescriptor.counted_empty
  | _ => exact fun g h => nomatch hd.symm.trans h

/-- A new datagram socket queues nothing and asks for `EPOLLIN`. -/
theorem holds_of_datagram_empty {d : EventableDescriptor} (hd : d.sub = .datagram {})
    (he : d.epollEvents = epollIn) (f : LedgerFact) : f.Holds build d := by
  cases f with
  | stream => exact fun _ c h => nomatch hd.symm.trans h
  | datagram =>
    intro g hg
    obtain rfl := Subclass.datagram.inj (hd.symm.trans hg)
    exact DatagramDescriptor.counted_empty
  | armed =>
    intro g hg _
    obtain rfl := Subclass.datagram.inj (hd.symm.trans hg)
    exact he

end LedgerFact

/-- The base constructor keeps every descriptor's entries when the new one has its own. -/
theorem newDescriptor_ledger {s : Reactor} (sd : Int) (sub : Subclass) (events : UInt32)
    (callbackUnbind : Bool)
    (h : ∀ (d : EventableDescriptor) (f : LedgerFact), d.sub = sub → d.epollEvents = events →
      f.Holds build d) :
    wp (newDescriptor sd sub events callbackUnbind)
      (fun b s' => LedgerKept build s s' ∧ s'.Holds (fun d => d.sub = sub) b)
      (LedgerKept build s) s := by
  simp only [newDescriptor, wp_bind, wp_ite, wp_throw_runtimeError, wp_getCurrentLoopTime, wp_get,
    wp_set, wp_pure]
  refine ⟨fun _ => LedgerBut.refl _ s, fun _ => ⟨ledgerBut_of_set rfl fun f _ _ => h _ f rfl rfl,
    fun d hd => ?_⟩⟩
  simp only [Function.update_same, Option.some.injEq] at hd
  exact hd ▸ rfl

theorem keepsLedger_newDescriptor (sd : Int) (sub : Subclass) (events : UInt32)
    (callbackUnbind : Bool)
    (h : ∀ (d : EventableDescriptor) (f : LedgerFact), d.sub = sub → d.epollEvents = events →
      f.Holds build d) :
    KeepsLedger build (newDescriptor sd sub events callbackUnbind) := fun _ =>
  wp_mono (newDescriptor_ledger sd sub events callbackUnbind h) (fun _ _ h => h.1) fun _ h => h

theorem keepsLedger_addDescriptor (b : Binding) : KeepsLedger build (addDescriptor b) :=
  keepsLedger_emit _

theorem keepsLedger_connectToServer (sd : Int) : KeepsLedger build (connectToServer sd) :=
  (keepsLedger_newDescriptor _ _ _ _ fun _ f hd _ => LedgerFact.holds_of_connection_empty hd f).bind
    fun _ => (ConnectionDescriptor.keepsLedger_setConnectPending _ _).bind fun _ =>
      (keepsLedger_addDescriptor _).bind fun _ => guarantee_pure _

theorem keepsLedger_attachFd (fd : Int) (watchMode : Bool) : KeepsLedger build (attachFd fd watchMode) :=
  (keepsLedger_newDescriptor _ _ _ _ fun _ f hd _ => LedgerFact.holds_of_connection_empty hd f).bind
    fun _ => (ConnectionDescriptor.keepsLedger_setAttached _ _).bind fun _ =>
      (ConnectionDescriptor.keepsLedger_setWatchOnly _ _).bind fun _ =>
        (ConnectionDescriptor.keepsLedger_setConnectPending _ _).bind fun _ =>
          (keepsLedger_addDescriptor _).bind fun _ => guarantee_pure _

namespace AcceptorDescriptor

/-- The accept loop computes an accepted connection's mask, which is no entry of the ledger. -/
theorem keepsLedger_readLoop (app : App) (self : Binding) :
    ∀ n results, KeepsLedger build (readLoop app self n results)
  | 0, _ => guarantee_pure _
  | n + 1, results => by
    rw [readLoop]
    split
    · exact guarantee_pure _
    · exact (keepsLedger_emit _).bind fun _ => (keepsLedger_emit _).bind fun _ =>
        keepsLedger_readLoop app self n _
    refine (keepsLedger_newDescriptor _ _ _ _ fun _ f hd _ =>
      LedgerFact.holds_of_connection_empty hd f).bind fun cd =>
        (keepsLedger_modifyConnection _ fun _ => by rfl).bind fun _ =>
          (keepsLedger_invokeCallback _ _ _ _ _).bind fun _ =>
            (preserves_descriptor _).keepsLedger.bind fun _ s => ?_
    dsimp only
    rw [wp_bind, wp_connection]
    intro d hd c hc
    rw [wp_bind, wp_modifyDescriptor]
    intro d' hd'
    obtain rfl := Option.some.inj (hd.symm.trans hd')
    exact ((keepsLedger_addDescriptor _).bind fun _ => keepsLedger_readLoop app self n _).wp_of_rel
      (ledgerKept_setEvents hd hc _)

theorem keepsLedger_read (app : App) (self : Binding) (results : List AcceptResult) :
    KeepsLedger build (read app self results) :=
  preserves_get.keepsLedger.bind fun _ => keepsLedger_readLoop _ _ _ _

end AcceptorDescriptor

theorem keepsLedger_clearHeartbeat (key : UInt64) (b : Binding) :
    KeepsLedger build (clearHeartbeat key b) :=
  keepsLedger_modify fun _ => rfl

theorem keepsLedger_forgetBinding (b : Binding) : KeepsLedger build (forgetBinding b) := fun _ =>
  ledgerKept_of_erase rfl

theorem EventableDescriptor.keepsLedger_destructor (app : App) (self : Binding) :
    KeepsLedger build (EventableDescriptor.destructor app self) := by
  unfold EventableDescriptor.destructor
  refine (preserves_descriptor _).keepsLedger.bind fun d => ?_
  lift_lets
  intro tail unbound callback
  have htail : ∀ y, KeepsLedger build (tail y) := fun _ =>
    (keepsLedger_modify fun _ => by rfl).bind fun _ =>
      (EventableDescriptor.keepsLedger_stopProxy _).bind fun _ =>
        EventableDescriptor.keepsLedger_close _
  have hunbound : ∀ y, KeepsLedger build (unbound y) := fun _ => by
    refine (preserves_descriptor _).keepsLedger.bind fun _ => ?_
    split
    · refine (preserves_descriptor _).keepsLedger.discard.bind fun _ =>
        (keepsLedger_invokeCallback _ _ _ _ _).bind fun _ =>
          (preserves_descriptor _).keepsLedger.bind fun _ => ?_
      split
      · exact (EventableDescriptor.keepsLedger_stopProxy _).bind htail
      · exact guarantee_throw_undefinedBehaviour _
    · exact (guarantee_pure _).bind htail
  have hcallback : ∀ y, KeepsLedger build (callback y) := fun _ =>
    .ite ((keepsLedger_invokeCallback _ _ _ _ _).bind hunbound) ((guarantee_pure _).bind hunbound)
  exact .ite ((keepsLedger_clearHeartbeat _ _).bind hcallback) ((guarantee_pure _).bind hcallback)

theorem keepsLedger_destroy (app : App) (self : Binding) : KeepsLedger build (destroy app self) := by
  unfold destroy
  exact (preserves_descriptor _).keepsLedger.bind fun _ =>
    .when ((keepsLedger_emit _).bind fun _ => keepsLedger_invalidate _)
      ((EventableDescriptor.keepsLedger_destructor _ _).bind fun _ => keepsLedger_forgetBinding _)

/-- `new InotifyDescriptor`: a change-notification descriptor has no entries, and a failed
constructor destroys it. -/
theorem InotifyDescriptor.keepsLedger_create (app : App) (fd : Int) :
    KeepsLedger build (InotifyDescriptor.create app fd) := fun s => by
  have hother : ∀ d : EventableDescriptor, d.sub = .inotify → ∀ f : LedgerFact, f.Holds build d :=
    fun _ hd => LedgerFact.holds_of_other (fun _ h => nomatch hd.symm.trans h)
      fun _ h => nomatch hd.symm.trans h
  rw [InotifyDescriptor.create, wp_bind]
  refine wp_mono (newDescriptor_ledger 0 .inotify 0 false fun d f hd _ => hother d hd f)
    (fun b s₁ ⟨h, hnew⟩ => ?_) fun _ h => h
  simp only [wp_ite, throw_bind]
  refine ⟨fun _ => ?_, fun _ => ?_⟩
  · exact ((EventableDescriptor.keepsLedger_destructor _ _).bind fun _ =>
      (keepsLedger_forgetBinding _).bind fun _ => guarantee_throw_runtimeError _).wp_of_rel h
  · simp only [wp_bind, wp_modifyDescriptor, wp_pure]
    intro d hd
    exact h.trans (ledgerBut_of_update hd rfl fun f _ _ =>
      hother { d with mySocket := fd, epollEvents := epollIn } (hnew d hd) f)

/-! ## The reactor's steps -/

namespace Virtual

theorem keepsLedger_read (app : App) (self : Binding) (k : Kernel) :
    KeepsLedger build (read app self k) := by
  unfold read LoopbreakDescriptor.read InotifyDescriptor.read
  refine (preserves_descriptor _).keepsLedger.bind fun _ => ?_
  split
  · exact ConnectionDescriptor.keepsLedger_read _ _ _
  · exact DatagramDescriptor.keepsLedger_read _ _ _
  · exact AcceptorDescriptor.keepsLedger_read _ _ _
  all_goals exact keepsLedger_invokeCallback _ _ _ _ _

/-- `Write` through a base pointer keeps the ledger from a state whose pause checks are sound,
with a kernel that takes at most what it is given. -/
theorem write_keepsLedger {s₀ : Reactor} (app : App) (build : Build) (self : Binding)
    (k : Kernel) (hpause : ∀ b, s₀.Holds EventableDescriptor.PauseSound b)
    (hk : WriteTakesAtMost build s₀ self k) :
    wp (write app build self k) (fun _ => LedgerKept build s₀) (LedgerKept build s₀) s₀ := by
  unfold write AcceptorDescriptor.write LoopbreakDescriptor.write InotifyDescriptor.write
  rw [wp_bind, wp_descriptor]
  intro _ _
  split
  · exact ConnectionDescriptor.write_keepsLedger _ _ hpause hk
  · exact DatagramDescriptor.keepsLedger_write _ _ s₀
  all_goals exact guarantee_throw_runtimeError _ s₀

theorem keepsLedger_handleError (app : App) (build : Build) (self : Binding) (k : Kernel) :
    KeepsLedger build (handleError app build self k) := by
  unfold handleError
  refine (preserves_descriptor _).keepsLedger.bind fun _ => ?_
  split
  · exact ConnectionDescriptor.keepsLedger_handleError _ _ _ _ _ _
  · exact EventableDescriptor.keepsLedger_scheduleClose _ _

theorem keepsLedger_heartbeat (self : Binding) : KeepsLedger build (heartbeat self) := by
  unfold heartbeat
  refine (preserves_descriptor _).keepsLedger.bind fun _ => ?_
  split
  · exact ConnectionDescriptor.keepsLedger_heartbeat _
  · exact DatagramDescriptor.keepsLedger_heartbeat _
  · exact guarantee_pure _

end Virtual

theorem keepsLedger_dispatchHeartbeat (self : Binding) :
    KeepsLedger build (dispatchHeartbeat self) :=
  (Virtual.keepsLedger_heartbeat _).bind fun _ => keepsLedger_queueHeartbeat _

theorem keepsLedger_openDatagramSocket (sd : Int) : KeepsLedger build (openDatagramSocket sd) :=
  (keepsLedger_newDescriptor _ _ _ _ fun _ f hd he =>
    LedgerFact.holds_of_datagram_empty hd he f).bind fun _ =>
      (keepsLedger_addDescriptor _).bind fun _ => guarantee_pure _

theorem keepsLedger_createTcpServer (sd : Int) : KeepsLedger build (createTcpServer sd) :=
  (keepsLedger_newDescriptor sd .acceptor epollIn true fun _ f hd _ => LedgerFact.holds_of_other
    (fun _ h => nomatch hd.symm.trans h) (fun _ h => nomatch hd.symm.trans h) f).bind fun _ =>
      (keepsLedger_addDescriptor _).bind fun _ => guarantee_pure _

theorem keepsLedger_initializeLoopBreaker (sd : Int) :
    KeepsLedger build (initializeLoopBreaker sd) :=
  (keepsLedger_newDescriptor sd .loopbreak epollIn false fun _ f hd _ => LedgerFact.holds_of_other
    (fun _ h => nomatch hd.symm.trans h) (fun _ h => nomatch hd.symm.trans h) f).bind fun _ =>
      (keepsLedger_addDescriptor _).bind fun _ => guarantee_pure _

theorem keepsLedger_openInotify (app : App) (fd : Int) : KeepsLedger build (openInotify app fd) :=
  (InotifyDescriptor.keepsLedger_create _ _).bind fun _ =>
    (keepsLedger_addDescriptor _).bind fun _ => guarantee_pure _

end Lifecycle

/-! ## Runs -/

/-- Every entry of the ledger holds of every descriptor. -/
def Reactor.LedgerSound (build : Build) (s : Reactor) : Prop :=
  ∀ b (f : LedgerFact), s.Holds (f.Holds build) b

theorem Completes.ledgerKept {α : Type} {build : Build} {x : EM α} {s s' : Reactor}
    (hx : wp x (fun _ => LedgerKept build s) (LedgerKept build s) s) (h : Completes x s s') :
    LedgerKept build s s' := by
  rcases h.of_wp hx with ⟨_, h⟩ | h <;> exact h

/-- Every step of the reactor keeps the ledger of a state whose poll interest is sound. -/
theorem Step.ledgerSound {app : App} {build : Build} {s s' : Reactor} (hp : s.PollSound)
    (hs : s.LedgerSound build) (h : Step app build s s') : s'.LedgerSound build := by
  suffices hk : LedgerKept build s s' from fun b f => hk b f id (hs b f)
  cases h with
  | call c h => exact h.ledgerKept (keepsLedger_runApiCall c s)
  | read b k h => exact h.ledgerKept (Virtual.keepsLedger_read _ _ _ s)
  | write b k hk h =>
    exact h.ledgerKept (Virtual.write_keepsLedger _ _ _ _ (fun b => hp b .pause) hk)
  | handleError b k _ h => exact h.ledgerKept (Virtual.keepsLedger_handleError _ _ _ _ s)
  | heartbeat b key _ _ h => exact h.ledgerKept (keepsLedger_dispatchHeartbeat _ s)
  | delete b d _ _ h => exact h.ledgerKept (keepsLedger_destroy _ _ s)
  | connect sd h => exact h.ledgerKept (keepsLedger_connectToServer _ s)
  | attach fd watchMode h => exact h.ledgerKept (keepsLedger_attachFd _ _ s)
  | openDatagram sd h => exact h.ledgerKept (keepsLedger_openDatagramSocket _ s)
  | listen sd h => exact h.ledgerKept (keepsLedger_createTcpServer _ s)
  | loopBreaker sd h => exact h.ledgerKept (keepsLedger_initializeLoopBreaker _ s)
  | inotify fd h => exact h.ledgerKept (keepsLedger_openInotify _ _ s)
  | tick now real => exact fun _ _ _ h => h

theorem Reachable.ledgerSound {app : App} {build : Build} {s : Reactor}
    (h : Reachable app build s) : s.LedgerSound build := by
  induction h with
  | init hi => exact fun b _ d hd => absurd hd (by simp [hi.no_descriptors b])
  | step hr hstep ih => exact hstep.ledgerSound hr.pollSound ih

/-! ## Runs within the range of `int`

`OutboundDataSize` is a C++ `int`, and `OutboundDataSize += length` stores the sum modulo `2^32`:
past `2^31 - 1` the stored count wraps negative, and `SelectForWrite` and `ShouldDelete` read the
wrapped value. The model keeps the count as an unbounded `Int`, which is the source's count on
the runs along which no count reaches `2^31`. The results that read the count are stated over
those runs. -/

/-- Whether every descriptor's byte count is a value of `int`. Counts are never negative, and the
bindings from `nextBinding` on name nothing (`Reachable.fresh`). -/
def Reactor.countsFit (s : Reactor) : Bool :=
  (List.range s.nextBinding).all fun b =>
    (s.descriptors b).all fun d => decide (d.getOutboundDataSize < 2147483648)

/-- The states reached from an initial reactor by a run after each step of which every count is
a value of `int`. Within a step a count only rises or only falls, so no `+=` or `-=` on
`OutboundDataSize` wrapped. -/
inductive ReachableInRange (app : App) (build : Build) : Reactor → Prop
  | init {s} : s.Initial → ReachableInRange app build s
  | step {s s'} : ReachableInRange app build s → Step app build s s' → s'.countsFit = true →
      ReachableInRange app build s'

theorem ReachableInRange.reachable {app : App} {build : Build} {s : Reactor}
    (h : ReachableInRange app build s) : Reachable app build s := by
  induction h with
  | init hi => exact .init hi
  | step _ hstep _ ih => exact .step ih hstep

/-! ## What the ledger says of every reachable state -/

/-- In the `writev` build, in every state reached within the range of `int`, a stream's
`OutboundDataSize` is the number of bytes still queued, `Buffer[Offset, Length)` of each page, and
no page the kernel has taken in full stays queued. -/
theorem writev_stream_counted {app : App} {s : Reactor} (hs : ReachableInRange app .writev s)
    {b : Binding} {d : EventableDescriptor} {c : ConnectionDescriptor}
    (hd : s.descriptors b = some d) (hc : d.sub = .connection c) :
    c.outboundDataSize = (unsentBytes c.outboundPages).length ∧
      ∀ p ∈ c.outboundPages, p.offset < p.buffer.length := by
  have h := hs.reachable.ledgerSound b .stream d hd rfl c hc
  refine ⟨h.size_eq, fun p hp => ?_⟩
  have := h.unspent p hp
  simp only [OutboundPage.unsentLength, OutboundPage.length] at this
  omega

/-- A stream that queued three bytes and sent one of them: the page stays queued with its offset
advanced, and the count follows. -/
theorem writev_stream_counted_after_partial_write :
    ∃ s d c, ReachableInRange silentApp .writev s ∧ s.descriptors 0 = some d ∧
      d.sub = .connection c ∧ c.outboundPages = [⟨[1, 2, 3], 1⟩] ∧
      (c.outboundDataSize = (unsentBytes c.outboundPages).length ∧
        ∀ p ∈ c.outboundPages, p.offset < p.buffer.length) := by
  have hr : ReachableInRange silentApp .writev _ :=
    .step (.step (.step (.init Reactor.empty_initial)
      (.attach 5 false (.of_survives (by decide))) (by decide))
      (.call (.sendOutboundData 0 (.bytes [1, 2, 3])) (.of_survives (by decide))) (by decide))
      (.write 0 { write := ⟨1, 0⟩ } (.of_writeFits (by decide)) (.of_survives (by decide)))
      (by decide)
  exact ⟨_, _, _, hr, rfl, rfl, rfl, writev_stream_counted hr (b := 0) rfl rfl⟩

/-- In every state reached within the range of `int`, in either build, a datagram socket's
`OutboundDataSize` is the sum of the lengths of its queued datagrams. -/
theorem datagram_count_exact {app : App} {build : Build} {s : Reactor}
    (hs : ReachableInRange app build s) {b : Binding} {d : EventableDescriptor}
    {g : DatagramDescriptor} (hd : s.descriptors b = some d) (hg : d.sub = .datagram g) :
    g.outboundDataSize = ((g.outboundPages.map fun p => p.buffer.length).sum : Nat) :=
  hs.reachable.ledgerSound b .datagram d hd g hg

/-- A datagram socket with two datagrams queued counts their bytes. -/
theorem datagram_count_exact_two_queued :
    ∃ s d g, ReachableInRange silentApp .copy s ∧ s.descriptors 0 = some d ∧
      d.sub = .datagram g ∧ g.outboundPages.length = 2 ∧
      g.outboundDataSize = ((g.outboundPages.map fun p => p.buffer.length).sum : Nat) := by
  have hr : ReachableInRange silentApp .copy _ :=
    .step (.step (.step (.init Reactor.empty_initial)
      (.openDatagram 5 (.of_survives (by decide))) (by decide))
      (.call (.sendOutboundData 0 (.bytes [1, 2])) (.of_survives (by decide))) (by decide))
      (.call (.sendOutboundData 0 (.bytes [3])) (.of_survives (by decide))) (by decide)
  exact ⟨_, _, _, hr, rfl, rfl, rfl, datagram_count_exact hr (b := 0) rfl rfl⟩

/-- In every reachable state, in either build, an open datagram socket registers `EPOLLIN`,
with `EPOLLOUT` exactly while a datagram is queued, the mask `Write` computes; so a write
readiness always finds a datagram to send, as `Write` asserts. -/
theorem datagram_mask_current {app : App} {build : Build} {s : Reactor}
    (hs : Reachable app build s) {b : Binding} {d : EventableDescriptor} {g : DatagramDescriptor}
    (hd : s.descriptors b = some d) (hg : d.sub = .datagram g)
    (hsock : d.mySocket ≠ invalidSocket) :
    d.epollEvents =
        (if DatagramDescriptor.selectForWrite g then epollIn ||| epollOut else epollIn) ∧
      (hasEpollOut d.epollEvents = true → 0 < g.outboundPages.length) := by
  have h : d.epollEvents = g.armedEvents := hs.ledgerSound b .armed d hd g hg hsock
  refine ⟨h, fun hout => ?_⟩
  rw [h, DatagramDescriptor.armedEvents, DatagramDescriptor.selectForWrite] at hout
  split at hout
  · next hlen => exact of_decide_eq_true hlen
  · exact absurd hout (by decide)

/-- A datagram socket with a datagram queued asks for `EPOLLOUT`. -/
theorem datagram_mask_current_queued :
    ∃ s d g, Reachable silentApp .writev s ∧ s.descriptors 0 = some d ∧ d.sub = .datagram g ∧
      d.mySocket ≠ invalidSocket ∧ hasEpollOut d.epollEvents = true ∧
      (d.epollEvents =
          (if DatagramDescriptor.selectForWrite g then epollIn ||| epollOut else epollIn) ∧
        (hasEpollOut d.epollEvents = true → 0 < g.outboundPages.length)) := by
  have hr : Reachable silentApp .writev _ :=
    .step (.step (.init Reactor.empty_initial) (.openDatagram 5 (.of_survives (by decide))))
      (.call (.sendOutboundData 0 (.bytes [1])) (.of_survives (by decide)))
  exact ⟨_, _, _, hr, rfl, rfl, by decide, by decide, datagram_mask_current hr (b := 0) rfl rfl (by decide)⟩

end EventMachine

import EventMachine.Reactor
import Mathlib.Data.Int.Order.Basic

/-!
# The drain-and-pump loop of `_DispatchCiphertext`

`_DispatchCiphertext` repeats a pass of two loops until a pass does no work: it drains the
ciphertext the TLS engine has ready into `_SendRawOutboundData`, then pumps the plaintext the
engine holds back with `PutPlaintext`, scheduling an immediate close on a fatal error. The model
bounds each loop by fuel, one more than the answers the engine has left.

Every call that does work takes one of the engine's answers, so the fuel never ends a loop
early: a run that returns ends after a pass that found `CanGetCiphertext` false and got no
positive count from `PutPlaintext`, as `dispatchCiphertext_spec` records. What the passes took is
accounted for exactly (`dispatchCiphertext_queues_ciphertext`): each chunk of ciphertext is
queued once, in order, at the back of the outbound queue, until a close is scheduled; a failed
`PutPlaintext` schedules one, and the chunks taken after it are dropped.

On a TLS connection `SendOutboundData` hands its plaintext to the engine piece by piece,
dispatching ciphertext after each piece the engine accepts, and returns `1` whatever the engine
did (`sendOutboundData_tls_returns_one`); the same accounting covers it.

These results read runs that return. On a connection that is not watch-only, whose allocations
succeed and whose engine hands out nonempty chunks (`SendReady`), the runs do return: every call
of the loops keeps those conditions (`succeeds_dispatchCiphertext`,
`succeeds_sendOutboundData`).

The argument reads only the send path of the connection (`SendPath`): its engine, its queue,
and whether a close is scheduled. Each call of the loops moves it as its own lemma says, and
`SendPath.Took` composes what the calls took.
-/

namespace EventMachine

/-! ## The engine's answers -/

namespace SslReply

/-- An answer that hands out ciphertext. -/
def isCiphertext : SslReply → Bool
  | ciphertext _ => true
  | _ => false

/-- An answer by which `PutPlaintext` takes plaintext. -/
def isPumped : SslReply → Bool
  | pumped => true
  | _ => false

end SslReply

namespace SslBox

/-- `box'` is `box` after it gave some of its answers. -/
def Later (box' box : SslBox) : Prop :=
  box'.replies <:+ box.replies ∧ box'.handshakeCompleted = box.handshakeCompleted

theorem Later.refl (box : SslBox) : box.Later box := ⟨List.suffix_refl _, rfl⟩

theorem Later.trans {a b c : SslBox} (hab : a.Later b) (hbc : b.Later c) : a.Later c :=
  ⟨hab.1.trans hbc.1, hab.2.trans hbc.2⟩

theorem Later.length_le {a b : SslBox} (h : a.Later b) : a.replies.length ≤ b.replies.length :=
  h.1.length_le

/-- The engine once the drain loop has taken every chunk of ciphertext it had ready. -/
def drained (box : SslBox) : SslBox :=
  { box with replies := box.replies.dropWhile SslReply.isCiphertext }

/-- The engine once the pump loop has stopped: it took the plaintext the engine accepted, and
the failure that ended the loop if one did. -/
def pumped (box : SslBox) : SslBox :=
  ({ box with replies := box.replies.dropWhile SslReply.isPumped } : SslBox).putPlaintext.2

/-- Neither loop of `_DispatchCiphertext` does work on this engine: `CanGetCiphertext` is false
and `PutPlaintext` returns no positive count. -/
def idle (box : SslBox) : Bool :=
  !box.canGetCiphertext.1 && decide (box.putPlaintext.1 ≤ 0)

@[simp] theorem canGetCiphertext_snd (box : SslBox) : box.canGetCiphertext.2 = box := by
  unfold canGetCiphertext
  split <;> rfl

theorem putPlaintext_later (box : SslBox) : box.putPlaintext.2.Later box := by
  obtain ⟨_ | ⟨_ | _ | _ | _ | _, rest⟩, hc⟩ := box <;>
    first | exact .refl _ | exact ⟨List.suffix_cons _ _, rfl⟩

theorem drained_later (box : SslBox) : box.drained.Later box :=
  ⟨List.dropWhile_suffix _, rfl⟩

theorem pumped_later (box : SslBox) : box.pumped.Later box :=
  (putPlaintext_later _).trans ⟨List.dropWhile_suffix _, rfl⟩

/-- With no ciphertext ready the drain loop takes nothing. -/
theorem drained_eq_self {box : SslBox} (h : box.canGetCiphertext.1 = false) :
    box.drained = box := by
  obtain ⟨_ | ⟨_ | _ | _ | _ | _, rest⟩, hc⟩ := box
  case mk.cons.ciphertext => cases h
  all_goals rfl

/-- With ciphertext ready the drain loop takes at least one answer. -/
theorem drained_length_lt {box : SslBox} (h : box.canGetCiphertext.1 = true) :
    box.drained.replies.length < box.replies.length := by
  obtain ⟨_ | ⟨_ | _ | _ | _ | _, rest⟩, hc⟩ := box
  case mk.cons.ciphertext =>
    exact Nat.lt_succ_of_le (List.dropWhile_suffix (l := rest) _).length_le
  all_goals cases h

/-- When `PutPlaintext` takes nothing, the pump loop stops at its first call. -/
theorem pumped_eq_putPlaintext {box : SslBox} (h : ¬0 < box.putPlaintext.1) :
    box.pumped = box.putPlaintext.2 := by
  obtain ⟨_ | ⟨_ | _ | _ | _ | _, rest⟩, hc⟩ := box
  case mk.cons.pumped => exact (h Int.zero_lt_one).elim
  all_goals rfl

/-- When `PutPlaintext` takes plaintext, the pump loop takes at least one answer. -/
theorem pumped_length_lt {box : SslBox} (h : 0 < box.putPlaintext.1) :
    box.pumped.replies.length < box.replies.length := by
  obtain ⟨_ | ⟨_ | _ | _ | _ | _, rest⟩, hc⟩ := box
  case mk.cons.pumped => exact Nat.lt_succ_of_le (pumped_later ⟨rest, hc⟩).length_le
  all_goals simp [putPlaintext] at h

end SslBox

/-! ## The send path of a TLS connection -/

/-- What `_DispatchCiphertext` reads and writes of a connection: its TLS engine, its outbound
queue, and whether a close is scheduled. -/
structure SendPath where
  engine : SslBox
  pages : List OutboundPage
  closing : Bool
  deriving DecidableEq, Repr

/-- The send path of a connection that runs TLS; other descriptors have none. -/
def EventableDescriptor.sendPath (d : EventableDescriptor) : Option SendPath :=
  match d.sub with
  | .connection c => c.sslBox.map fun box => ⟨box, c.outboundPages, d.isCloseScheduled⟩
  | _ => none

theorem EventableDescriptor.sendPath_eq_some {d : EventableDescriptor} {p : SendPath}
    (h : d.sendPath = some p) : ∃ c box, d.sub = .connection c ∧ c.sslBox = some box ∧
      ⟨box, c.outboundPages, d.isCloseScheduled⟩ = p := by
  unfold sendPath at h
  split at h
  · obtain ⟨box, hbox, rfl⟩ := Option.map_eq_some'.1 h
    exact ⟨_, box, ‹_›, hbox, rfl⟩
  · cases h

/-- The send path of a connection, read off its members. -/
theorem EventableDescriptor.sendPath_of_connection {d : EventableDescriptor}
    {c : ConnectionDescriptor} {p : SendPath} (hc : d.sub = .connection c)
    (hbox : c.sslBox = some p.engine) (hpages : c.outboundPages = p.pages)
    (hclosing : d.isCloseScheduled = p.closing) : d.sendPath = some p := by
  simp only [EventableDescriptor.sendPath, hc, hbox, hpages, hclosing, Option.map_some']

/-- A write of a connection's members moves its send path to what they then hold. -/
theorem EventableDescriptor.sendPath_mapConnection {d : EventableDescriptor}
    {c : ConnectionDescriptor} (hc : d.sub = .connection c)
    (f : ConnectionDescriptor → ConnectionDescriptor) :
    ({ d with sub := d.sub.mapConnection f } : EventableDescriptor).sendPath =
      (f c).sslBox.map fun box => ⟨box, (f c).outboundPages, d.isCloseScheduled⟩ := by
  simp only [sendPath, hc, Subclass.mapConnection]
  rfl

/-- The send path behind each binding. -/
def Reactor.sendPath (s : Reactor) (b : Binding) : Option SendPath :=
  (s.descriptors b).bind EventableDescriptor.sendPath

theorem Reactor.sendPath_of_descriptor {s : Reactor} {b : Binding} {d : EventableDescriptor}
    (hd : s.descriptors b = some d) : s.sendPath b = d.sendPath := by
  simp [Reactor.sendPath, hd]

/-! ## What the loops take from the engine -/

/-- The pages `_DispatchCiphertext` queues while it takes the answers `used`, from a state where
a close is scheduled when `closing` holds: each chunk of ciphertext, until a close is
scheduled; a failed `PutPlaintext` schedules one. -/
def queuedPages : Bool → List SslReply → List OutboundPage
  | true, _ => []
  | false, [] => []
  | false, .ciphertext chunk :: rest => ⟨chunk, 0⟩ :: queuedPages false rest
  | false, .failed :: _ => []
  | false, _ :: rest => queuedPages false rest

/-- Whether a close is scheduled once the loops took the answers `used`. -/
def closedAfter (closing : Bool) (used : List SslReply) : Bool :=
  closing || decide (.failed ∈ used)

theorem queuedPages_append (a b : List SslReply) : ∀ closing,
    queuedPages closing (a ++ b) =
      queuedPages closing a ++ queuedPages (closedAfter closing a) b := by
  induction a with
  | nil => intro closing; cases closing <;> rfl
  | cons r a ih =>
    intro closing
    cases closing
    · cases r <;> simp [queuedPages, closedAfter, ih]
    · simp [queuedPages, closedAfter]

theorem closedAfter_append (closing : Bool) (a b : List SslReply) :
    closedAfter (closedAfter closing a) b = closedAfter closing (a ++ b) := by
  simp [closedAfter, Bool.or_assoc]

@[simp] theorem queuedPages_pumped (closing : Bool) : queuedPages closing [.pumped] = [] := by
  cases closing <;> rfl

@[simp] theorem queuedPages_failed (closing : Bool) : queuedPages closing [.failed] = [] := by
  cases closing <;> rfl

/-- `q` is the send path `p` once the loops took the answers `used` from its engine. -/
def SendPath.Took (p : SendPath) (used : List SslReply) (q : SendPath) : Prop :=
  p.engine.replies = used ++ q.engine.replies ∧
    q.engine.handshakeCompleted = p.engine.handshakeCompleted ∧
    q.pages = p.pages ++ queuedPages p.closing used ∧
    q.closing = closedAfter p.closing used

namespace SendPath.Took

theorem refl (p : SendPath) : p.Took [] p := by
  simp [SendPath.Took, queuedPages, closedAfter]
  cases p.closing <;> rfl

theorem trans {p q r : SendPath} {a b : List SslReply} (hpq : p.Took a q) (hqr : q.Took b r) :
    p.Took (a ++ b) r := by
  obtain ⟨h₁, h₂, h₃, h₄⟩ := hpq
  obtain ⟨h₁', h₂', h₃', h₄'⟩ := hqr
  refine ⟨by rw [h₁, h₁', List.append_assoc], h₂'.trans h₂, ?_, ?_⟩
  · rw [h₃', h₃, h₄, queuedPages_append, List.append_assoc]
  · rw [h₄', h₄, closedAfter_append]

/-- One answer taken, then more. -/
theorem cons {p q r : SendPath} {a : SslReply} {used : List SslReply} (hpq : p.Took [a] q)
    (hqr : q.Took used r) : p.Took (a :: used) r :=
  hpq.trans hqr

end SendPath.Took

/-! ## Calls that leave every send path -/

section Frames

theorem preserves_sendPath_modify {f : Reactor → Reactor}
    (hd : ∀ s, (f s).descriptors = s.descriptors) :
    Preserves Reactor.sendPath (modify f : EM Unit) := fun s => by
  funext b
  simp only [wp_modify, Reactor.sendPath, hd]

theorem preserves_sendPath_malloc : Preserves Reactor.sendPath malloc := fun _ => rfl

theorem preserves_sendPath_modifyDescriptor (b : Binding)
    {f : EventableDescriptor → EventableDescriptor} (hf : ∀ d, (f d).sendPath = d.sendPath) :
    Preserves Reactor.sendPath (modifyDescriptor b f) := by
  intro s
  rw [wp_modifyDescriptor]
  intro d hd
  funext b'
  by_cases hb : b' = b
  · subst hb
    simp [Reactor.sendPath, hd, hf]
  · simp [Reactor.sendPath, Function.update_noteq hb]

theorem ConnectionDescriptor.preserves_sendPath_updateEvents (self : Binding)
    (read write : Bool) :
    Preserves Reactor.sendPath (updateEvents self read write) := by
  simp only [updateEvents, pure_bind]
  exact (preserves_descriptor _).bind fun _ => .ite (preserves_pure _) <|
    .ite (preserves_pure _) <| (preserves_connection _).bind fun _ =>
      (preserves_sendPath_modifyDescriptor _ fun _ => by rfl).bind fun _ =>
        .ite (preserves_sendPath_modify fun _ => by rfl) (preserves_pure _)

theorem Virtual.preserves_sendPath_pause (self : Binding) :
    Preserves Reactor.sendPath (Virtual.pause self) := by
  simp only [Virtual.pause, ConnectionDescriptor.pause, EventableDescriptor.pause, pure_bind]
  refine (preserves_descriptor _).bind fun d => ?_
  split
  · exact (preserves_descriptor _).bind fun _ => .ite (preserves_throw_runtimeError _) <|
      (preserves_sendPath_modifyDescriptor _ fun _ => by rfl).bind fun _ =>
        (ConnectionDescriptor.preserves_sendPath_updateEvents _ _ _).bind fun _ => preserves_pure _
  · exact (preserves_sendPath_modifyDescriptor _ fun _ => by rfl).bind fun _ => preserves_pure _

end Frames

/-! ## The calls of the loops -/

namespace ConnectionDescriptor

variable {self : Binding} {p : SendPath} {s : Reactor}

/-- The connection behind a send path holds its engine. -/
theorem wp_connection_of_sendPath {Q : ConnectionDescriptor → Reactor → Prop} {E : Reactor → Prop}
    (hs : s.sendPath self = some p) (hQ : ∀ c, c.sslBox = some p.engine → Q c s) :
    wp (connection self) Q E s := by
  obtain ⟨d, hd, hp⟩ := Option.bind_eq_some.1 hs
  obtain ⟨c, box, hc, hbox, rfl⟩ := EventableDescriptor.sendPath_eq_some hp
  rw [wp_connection]
  intro _ hd' _ hc'
  obtain rfl := Option.some.inj (hd'.symm.trans hd)
  obtain rfl := Subclass.connection.inj (hc.symm.trans hc')
  exact hQ _ hbox

/-- A query moves the engine as the query says, and returns its answer. -/
theorem wp_sslCall {α : Type} {query : SslBox → α × SslBox} {Q : α → Reactor → Prop}
    {E : Reactor → Prop} (hs : s.sendPath self = some p)
    (hQ : ∀ s', s'.sendPath self = some { p with engine := (query p.engine).2 } →
      Q (query p.engine).1 s') :
    wp (sslCall self query) Q E s := by
  obtain ⟨d, hd, hp⟩ := Option.bind_eq_some.1 hs
  obtain ⟨c, box, hc, hbox, rfl⟩ := EventableDescriptor.sendPath_eq_some hp
  simp only [sslCall, modifyConnection, wp_bind, wp_connection, wp_modifyDescriptor, hd, hc, hbox,
    Option.some.injEq]
  rintro _ rfl _ hc'
  obtain rfl : c = _ := Subclass.connection.inj (hc.symm.trans hc')
  simp only [hbox, wp_bind, wp_modifyDescriptor, hd, Option.some.injEq, forall_eq', wp_pure]
  refine hQ _ ?_
  rw [Reactor.sendPath_of_descriptor (Function.update_same _ _ _),
    EventableDescriptor.sendPath_mapConnection hc]
  rfl

/-- `_SendRawOutboundData` of a chunk queues it, unless a close is scheduled. -/
theorem wp_sendRawOutboundData {chunk : List Byte} {Q : Int → Reactor → Prop}
    (hs : s.sendPath self = some p) (hchunk : chunk ≠ [])
    (hQ : ∀ n s', s'.sendPath self =
      some { p with pages := p.pages ++ queuedPages p.closing [.ciphertext chunk] } → Q n s') :
    wp (sendRawOutboundData self (.bytes chunk)) Q (fun _ => True) s := by
  obtain ⟨d, hd, hp⟩ := Option.bind_eq_some.1 hs
  obtain ⟨c, box, hc, hbox, rfl⟩ := EventableDescriptor.sendPath_eq_some hp
  simp only [sendRawOutboundData, modifyConnection, wp_bind, wp_descriptor, hd, Option.some.injEq]
  rintro _ rfl
  cases hclose : d.isCloseScheduled
  · have hlen : (OutboundData.bytes chunk).length ≠ 0 := by
      simpa [OutboundData.length] using hchunk
    simp only [hlen, ↓reduceIte, Bool.false_eq_true, pure_bind, wp_bind, wp_malloc]
    split_ifs
    · exact trivial
    · simp only [wp_bind, wp_modifyDescriptor, hd, Option.some.injEq, forall_eq']
      refine (preserves_sendPath_updateEvents _ _ _).wp (fun _ s' h => ?_) fun _ _ => trivial
      refine hQ _ _ ?_
      rw [h, Reactor.sendPath_of_descriptor (Function.update_same _ _ _),
        EventableDescriptor.sendPath_mapConnection hc, hbox, hclose]
      rfl
  · simp only [↓reduceIte, wp_pure]
    exact hQ 0 s (by simpa [queuedPages, hclose] using hs)

/-- A write of the descriptor that keeps its subclass and leaves a close scheduled. -/
theorem wp_modifyDescriptor_closing {d : EventableDescriptor}
    {f : EventableDescriptor → EventableDescriptor} {Q : Unit → Reactor → Prop}
    {E : Reactor → Prop} (hd : s.descriptors self = some d) (hp : d.sendPath = some p)
    (hsub : (f d).sub = d.sub) (hclose : (f d).isCloseScheduled = true)
    (hQ : ∀ s', s'.sendPath self = some { p with closing := true } → Q () s') :
    wp (modifyDescriptor self f) Q E s := by
  obtain ⟨c, box, hc, hbox, rfl⟩ := EventableDescriptor.sendPath_eq_some hp
  rw [wp_modifyDescriptor]
  intro _ hd'
  obtain rfl := Option.some.inj (hd'.symm.trans hd)
  refine hQ _ ?_
  rw [Reactor.sendPath_of_descriptor (Function.update_same _ _ _)]
  simp only [EventableDescriptor.sendPath, hsub, hc, hbox, hclose, Option.map_some']

/-- `ScheduleClose` schedules the close, or throws on a watch-only connection. -/
theorem wp_scheduleClose {afterWriting : Bool} {Q : Unit → Reactor → Prop}
    (hs : s.sendPath self = some p)
    (hQ : ∀ s', s'.sendPath self = some { p with closing := true } → Q () s') :
    wp (scheduleClose self afterWriting) Q (fun _ => True) s := by
  obtain ⟨d, hd, hp⟩ := Option.bind_eq_some.1 hs
  simp only [scheduleClose, EventableDescriptor.scheduleClose, wp_bind, wp_descriptor, hd,
    Option.some.injEq, forall_eq']
  cases hw : d.bWatchOnly
  · cases hcl : d.isCloseScheduled <;> cases afterWriting <;>
      simp only [Bool.false_eq_true, ↓reduceIte, Bool.not_false, Bool.not_true, pure_bind,
        wp_bind, wp_modify, wp_descriptor, hd, Option.some.injEq, forall_eq', hcl]
    · exact wp_modifyDescriptor_closing hd hp rfl rfl hQ
    · exact wp_modifyDescriptor_closing hd hp rfl (Bool.or_true _) hQ
    · exact wp_modifyDescriptor_closing hd hp rfl rfl hQ
    · obtain ⟨c, box, hc, hbox, rfl⟩ := EventableDescriptor.sendPath_eq_some hp
      exact hQ s (by rw [hs, hcl])
  · exact trivial

/-- The drain loop, given fuel beyond the engine's answers, takes every chunk of ciphertext the
engine has ready, and reports work exactly when there was some. -/
theorem drainCiphertext_spec (self : Binding) : ∀ (fuel : Nat) (p : SendPath) (s : Reactor),
    p.engine.replies.length < fuel → s.sendPath self = some p →
      wp (drainCiphertext self fuel)
        (fun did s' => did = p.engine.canGetCiphertext.1 ∧
          ∃ used q, p.Took used q ∧ q.engine = p.engine.drained ∧ s'.sendPath self = some q)
        (fun _ => True) s
  | 0, _, _, h, _ => absurd h (Nat.not_lt_zero _)
  | fuel + 1, ⟨⟨replies, hc⟩, pages, closing⟩, s, hlen, hs => by
    simp only [drainCiphertext, wp_bind]
    refine wp_sslCall hs fun s₁ hs₁ => ?_
    rcases replies with _ | ⟨_ | _ | _ | _ | _, rest⟩
    case cons.ciphertext chunk =>
      simp only [SslBox.canGetCiphertext, Bool.not_true, Bool.false_eq_true, ite_false, pure_bind]
        at hs₁ ⊢
      rw [wp_bind]
      refine wp_sslCall hs₁ fun s₂ hs₂ => ?_
      simp only [SslBox.getCiphertext] at hs₂ ⊢
      split_ifs with h0
      · exact trivial
      simp only [pure_bind, wp_bind, wp_discard]
      refine wp_sendRawOutboundData hs₂ (List.ne_nil_of_length_pos (Nat.pos_of_ne_zero h0))
        fun _ s₃ hs₃ => ?_
      rw [wp_bind, wp_discard]
      refine wp_mono
        (drainCiphertext_spec self fuel _ s₃ (by exact Nat.lt_of_succ_lt_succ hlen) hs₃)
        (fun _ _ ⟨_, used, q, ht, he, hq⟩ => ⟨rfl, .ciphertext chunk :: used, q, ?_, he, hq⟩)
        fun _ h => h
      refine .cons ?_ ht
      exact ⟨rfl, rfl, rfl, by simp [closedAfter]⟩
    all_goals exact ⟨rfl, [], _, .refl _, by simp [SslBox.drained, SslReply.isCiphertext],
      by simpa [SslBox.canGetCiphertext] using hs₁⟩

/-- The pump loop, given fuel beyond the engine's answers, pumps until `PutPlaintext` takes
nothing, and reports work exactly when its first call took some. -/
theorem pumpPlaintext_spec (self : Binding) : ∀ (fuel : Nat) (p : SendPath) (s : Reactor),
    p.engine.replies.length < fuel → s.sendPath self = some p →
      wp (pumpPlaintext self fuel)
        (fun did s' => did = decide (0 < p.engine.putPlaintext.1) ∧
          ∃ used q, p.Took used q ∧ q.engine = p.engine.pumped ∧ s'.sendPath self = some q)
        (fun _ => True) s
  | 0, _, _, h, _ => absurd h (Nat.not_lt_zero _)
  | fuel + 1, ⟨⟨replies, hc⟩, pages, closing⟩, s, hlen, hs => by
    simp only [pumpPlaintext, wp_bind]
    refine wp_sslCall hs fun s₁ hs₁ => ?_
    rcases replies with _ | ⟨_ | _ | _ | _ | _, rest⟩
    case cons.pumped =>
      simp only [SslBox.putPlaintext, Int.reduceGT, ↓reduceIte, wp_bind, wp_discard] at hs₁ ⊢
      refine wp_mono
        (pumpPlaintext_spec self fuel _ s₁ (by exact Nat.lt_of_succ_lt_succ hlen) hs₁)
        (fun _ _ ⟨_, used, q, ht, he, hq⟩ => ⟨rfl, .pumped :: used, q, ?_, he, hq⟩) fun _ h => h
      refine .cons ?_ ht
      exact ⟨rfl, rfl, by simp, by simp [closedAfter]⟩
    case cons.failed =>
      simp only [SslBox.putPlaintext, Int.reduceGT, Int.reduceLT, ↓reduceIte, pure_bind, wp_bind]
        at hs₁ ⊢
      refine wp_scheduleClose hs₁ fun s₂ hs₂ => ⟨rfl, [.failed], _, ?_, rfl, hs₂⟩
      exact ⟨rfl, rfl, by simp, by simp [closedAfter]⟩
    all_goals exact ⟨rfl, [], _, .refl _, by simp [SslBox.pumped, SslBox.putPlaintext,
      SslReply.isPumped], by simpa [SslBox.putPlaintext] using hs₁⟩

/-- The outer loop, given passes and fuel beyond the engine's answers, stops only after a pass
that did no work: one that found the engine idle, and left it as that pass's one
`PutPlaintext` did. What the passes took is accounted for by `SendPath.Took`. -/
theorem dispatchCiphertextLoop_spec (self : Binding) (fuel : Nat) :
    ∀ (passes : Nat) (p : SendPath) (s : Reactor), p.engine.replies.length < fuel →
      p.engine.replies.length < passes → s.sendPath self = some p →
      wp (dispatchCiphertextLoop self fuel passes)
        (fun _ s' => ∃ used q, p.Took used q ∧ s'.sendPath self = some q ∧
          ∃ last : SslBox, last.Later p.engine ∧ last.idle ∧ q.engine = last.putPlaintext.2)
        (fun _ => True) s
  | 0, _, _, _, h, _ => absurd h (Nat.not_lt_zero _)
  | passes + 1, p, s, hfuel, hpasses, hs => by
    simp only [dispatchCiphertextLoop, wp_bind]
    refine wp_mono (drainCiphertext_spec self fuel p s hfuel hs)
      (fun _ s₁ ⟨hd, used₁, q₁, ht₁, he₁, hs₁⟩ => (wp_bind _).2 ?_) fun _ h => h
    have hfuel₁ : q₁.engine.replies.length < fuel :=
      he₁ ▸ lt_of_le_of_lt p.engine.drained_later.length_le hfuel
    refine wp_mono (pumpPlaintext_spec self fuel q₁ s₁ hfuel₁ hs₁)
      (fun _ s₂ ⟨hp, used₂, q₂, ht₂, he₂, hs₂⟩ => ?_) fun _ h => h
    rw [he₁] at hp he₂
    subst hd hp
    by_cases hwork :
        (p.engine.canGetCiphertext.1 || decide (0 < p.engine.drained.putPlaintext.1)) = true
    · have hlt : q₂.engine.replies.length < p.engine.replies.length := by
        rw [he₂]
        rcases Bool.or_eq_true _ _ ▸ hwork with hc | hp
        · exact lt_of_le_of_lt p.engine.drained.pumped_later.length_le
            (SslBox.drained_length_lt hc)
        · exact lt_of_lt_of_le (SslBox.pumped_length_lt (of_decide_eq_true hp))
            p.engine.drained_later.length_le
      simp only [hwork, ↓reduceIte]
      refine wp_mono (dispatchCiphertextLoop_spec self fuel passes q₂ s₂ (hlt.trans hfuel)
        (by omega) hs₂) (fun _ _ ⟨used₃, q₃, ht₃, hs₃, last, hl, hi, he⟩ =>
          ⟨used₁ ++ used₂ ++ used₃, q₃, (ht₁.trans ht₂).trans ht₃, hs₃, last, ?_, hi, he⟩)
        fun _ h => h
      exact hl.trans (he₂ ▸ p.engine.drained.pumped_later.trans p.engine.drained_later)
    · obtain ⟨hc, hp⟩ :
          p.engine.canGetCiphertext.1 = false ∧ ¬0 < p.engine.drained.putPlaintext.1 := by
        simpa using hwork
      simp only [hwork, ↓reduceIte, Bool.false_eq_true, wp_pure]
      rw [SslBox.drained_eq_self hc] at he₂ hp
      exact ⟨used₁ ++ used₂, q₂, ht₁.trans ht₂, hs₂, p.engine, .refl _,
        by simpa [SslBox.idle, hc] using hp, he₂.trans (SslBox.pumped_eq_putPlaintext hp)⟩

theorem dispatchCiphertext_spec (self : Binding) (p : SendPath) (s : Reactor)
    (hs : s.sendPath self = some p) :
    wp (dispatchCiphertext self)
      (fun _ s' => ∃ used q, p.Took used q ∧ s'.sendPath self = some q ∧
        ∃ last : SslBox, last.Later p.engine ∧ last.idle ∧ q.engine = last.putPlaintext.2)
      (fun _ => True) s := by
  rw [dispatchCiphertext, wp_bind]
  refine wp_connection_of_sendPath hs fun c hc => ?_
  simp only [hc]
  exact dispatchCiphertextLoop_spec self _ _ _ s (Nat.lt_succ_self _) (Nat.lt_succ_self _) hs

/-- A loop over a list keeps what each pass keeps. -/
theorem wp_forIn_of_inv {σ γ : Type} (I : Reactor → Prop) (l : List γ) (init : σ)
    {f : γ → σ → EM (ForInStep σ)}
    (hf : ∀ a b s, I s → wp (f a b) (fun _ => I) (fun _ => True) s) :
    ∀ s, I s → wp (forIn l init f) (fun _ => I) (fun _ => True) s := by
  induction l generalizing init with
  | nil => exact fun _ hs => hs
  | cons a l ih =>
    intro s hs
    rw [List.forIn_cons, wp_bind]
    refine wp_mono (hf a init s hs) (fun r s' hs' => ?_) fun _ h => h
    cases r with
    | done => exact hs'
    | yield b => exact ih b s' hs'

/-- One `PutPlaintext` takes nothing or an acceptance, or takes a failure, after which the
callers schedule the close. -/
theorem took_putPlaintext (q : SendPath) :
    (0 ≤ q.engine.putPlaintext.1 →
      ∃ used, q.Took used { q with engine := q.engine.putPlaintext.2 }) ∧
    (q.engine.putPlaintext.1 < 0 →
      q.Took [.failed] { q with engine := q.engine.putPlaintext.2, closing := true }) := by
  obtain ⟨⟨_ | ⟨_ | _ | _ | _ | _, rest⟩, hc⟩, pages, closing⟩ := q
  case mk.mk.cons.pumped =>
    exact ⟨fun _ => ⟨[.pumped], rfl, rfl, by simp, by simp [closedAfter]⟩,
      fun h => by simp [SslBox.putPlaintext] at h⟩
  case mk.mk.cons.failed =>
    exact ⟨fun h => by simp [SslBox.putPlaintext] at h,
      fun _ => ⟨rfl, rfl, by simp, by simp [closedAfter]⟩⟩
  all_goals exact ⟨fun _ => ⟨[], .refl _⟩, fun h => by simp [SslBox.putPlaintext] at h⟩

/-- The TLS branch of `SendOutboundData`: each piece of plaintext goes to `PutPlaintext`, and the
send path moves only by what the engine answers. -/
theorem putPlaintextPieces_spec (self : Binding) (data : OutboundData) (p : SendPath) (s : Reactor)
    (hs : s.sendPath self = some p) :
    wp (putPlaintextPieces self data)
      (fun _ s' => ∃ used q, p.Took used q ∧ s'.sendPath self = some q) (fun _ => True) s := by
  unfold putPlaintextPieces
  dsimp only
  rw [wp_bind]
  refine wp_mono (wp_forIn_of_inv (fun s => ∃ used q, p.Took used q ∧ s.sendPath self = some q)
    _ _ ?_ s ⟨[], p, .refl p, hs⟩) (fun _ _ h => h) fun _ h => h
  rintro _ _ s ⟨used, q, ht, hq⟩
  split_ifs
  · exact trivial
  rw [pure_bind, wp_bind]
  refine wp_sslCall hq fun s₁ hs₁ => ?_
  obtain ⟨hok, hfail⟩ := took_putPlaintext q
  split_ifs with hw
  · rw [wp_bind]
    exact wp_scheduleClose hs₁ fun s₂ hs₂ => ⟨used ++ [.failed], _, ht.trans (hfail hw), hs₂⟩
  · rw [wp_bind]
    obtain ⟨used₁, ht₁⟩ := hok (not_lt.1 hw)
    exact wp_mono (dispatchCiphertext_spec self _ s₁ hs₁)
      (fun _ _ ⟨used₂, q₂, ht₂, hq₂, _⟩ =>
        ⟨used ++ used₁ ++ used₂, q₂, (ht.trans ht₁).trans ht₂, hq₂⟩)
      fun _ h => h

/-- On a TLS connection `SendOutboundData` returns `1` and moves the send path as the engine's
answers say. -/
theorem sendOutboundData_spec (self : Binding) (data : OutboundData) (p : SendPath) (s : Reactor)
    (hs : s.sendPath self = some p) :
    wp (sendOutboundData self data)
      (fun n s' => n = 1 ∧ ∃ used q, p.Took used q ∧ s'.sendPath self = some q)
      (fun _ => True) s := by
  obtain ⟨d, hd, -⟩ := Option.bind_eq_some.1 hs
  simp only [sendOutboundData, wp_bind, wp_descriptor, hd, Option.some.injEq, forall_eq']
  split
  · exact trivial
  simp only [pure_bind]
  split
  on_goal 1 =>
    split
    -- A sink over its buffer limit pauses its source, which leaves every send path.
    on_goal 1 =>
      rw [wp_bind, wp_discard]
      refine (Virtual.preserves_sendPath_pause _).wp (fun _ s₁ h₁ => ?_) fun _ _ => trivial
      rw [← h₁] at hs
  -- Each branch goes on to the TLS path, from a state with the same send path.
  all_goals
    rw [wp_bind]
    refine wp_connection_of_sendPath hs fun c hc => ?_
    simp only [hc, Option.isSome_some, ↓reduceIte]
    split
    · rw [wp_bind]
      exact wp_mono (putPlaintextPieces_spec self data p _ hs) (fun _ _ h => ⟨rfl, h⟩) fun _ h => h
    · exact ⟨rfl, [], p, .refl p, hs⟩

end ConnectionDescriptor

/-! ## Connections on which the loops return

The lemmas above read a run that returned. The ones below give the run: on a connection that is
not watch-only, whose allocations succeed and whose engine hands out nonempty chunks
(`SendReady`), every call of the loops returns and keeps those conditions, so
`_DispatchCiphertext` and the TLS branch of `SendOutboundData` return whatever their fuel. -/

/-- A TLS connection with send path `p` on which `_DispatchCiphertext` cannot fail: it is not
watch-only, so the `ScheduleClose` of a failed `PutPlaintext` returns; every `malloc` succeeds;
and each chunk of ciphertext the engine will hand out is nonempty, as `GetCiphertext`'s caller
asserts. -/
structure SendReady (s : Reactor) (b : Binding) (p : SendPath) : Prop where
  path : s.sendPath b = some p
  notWatchOnly : ∀ d, s.descriptors b = some d → d.bWatchOnly = false
  allocates : s.mallocResults = []
  chunksNonempty : ∀ chunk, SslReply.ciphertext chunk ∈ p.engine.replies → chunk ≠ []

namespace SendReady

variable {s : Reactor} {self : Binding} {p : SendPath}

/-- A write of the connection's descriptor that keeps it watch-only or not keeps it ready, with
the send path the write leaves and an engine that gave some of its answers. -/
theorem update {d d' : EventableDescriptor} {q : SendPath} (h : SendReady s self p)
    (hd : s.descriptors self = some d) (hwatch : d'.bWatchOnly = d.bWatchOnly)
    (hq : d'.sendPath = some q) (hlater : q.engine.Later p.engine) :
    SendReady { s with descriptors := Function.update s.descriptors self (some d') } self q where
  path := by rw [Reactor.sendPath_of_descriptor (Function.update_same _ _ _), hq]
  notWatchOnly d'' hd'' := by
    simp only [Function.update_same, Option.some.injEq] at hd''
    rw [← hd'', hwatch, h.notWatchOnly d hd]
  allocates := h.allocates
  chunksNonempty chunk hmem := h.chunksNonempty chunk (hlater.1.subset hmem)

/-- Calls that write neither the descriptors nor the allocator keep a connection ready. -/
theorem congr {s' : Reactor} (h : SendReady s self p) (hd : s'.descriptors = s.descriptors)
    (hm : s'.mallocResults = s.mallocResults) : SendReady s' self p where
  path := by rw [Reactor.sendPath, hd]; exact h.path
  notWatchOnly d hd' := h.notWatchOnly d (hd ▸ hd')
  allocates := hm.trans h.allocates
  chunksNonempty := h.chunksNonempty

/-- The connection behind a ready send path. -/
theorem exists_connection (h : SendReady s self p) : ∃ d c, s.descriptors self = some d ∧
    d.sub = .connection c ∧ c.sslBox = some p.engine ∧ c.outboundPages = p.pages ∧
    d.isCloseScheduled = p.closing := by
  obtain ⟨d, hd, hp⟩ := Option.bind_eq_some.1 h.path
  obtain ⟨c, box, hc, hbox, rfl⟩ := EventableDescriptor.sendPath_eq_some hp
  exact ⟨d, c, hd, hc, hbox, rfl, rfl⟩

end SendReady

namespace ConnectionDescriptor

variable {self : Binding} {p : SendPath} {s : Reactor}

/-- A query of a ready connection's engine returns its answer, and the connection stays ready. -/
theorem succeeds_sslCall {α : Type} {query : SslBox → α × SslBox} {Q : α → Reactor → Prop}
    (h : SendReady s self p) (hlater : (query p.engine).2.Later p.engine)
    (hQ : ∀ s', SendReady s' self { p with engine := (query p.engine).2 } →
      Q (query p.engine).1 s') :
    Succeeds (sslCall self query) Q s := by
  obtain ⟨d, c, hd, hc, hbox, hpages, hclosing⟩ := h.exists_connection
  simp only [sslCall, succeeds_bind, succeeds_connection, hd, hc, hbox, modifyConnection,
    succeeds_modifyDescriptor, Option.some.injEq, exists_eq_left', Subclass.connection.injEq,
    succeeds_pure]
  exact hQ _ (h.update hd rfl (EventableDescriptor.sendPath_of_connection rfl rfl hpages hclosing)
    hlater)

/-- `UpdateEvents` on a ready connection returns and leaves it ready, with its send path. -/
theorem succeeds_updateEvents {read write : Bool} {Q : Unit → Reactor → Prop}
    (h : SendReady s self p) (hQ : ∀ s', SendReady s' self p → Q () s') :
    Succeeds (updateEvents self read write) Q s := by
  obtain ⟨d, c, hd, hc, hbox, hpages, hclosing⟩ := h.exists_connection
  simp only [updateEvents, succeeds_bind, succeeds_descriptor, hd, Option.some.injEq,
    exists_eq_left', succeeds_connection, hc, Subclass.connection.injEq, succeeds_modifyDescriptor,
    succeeds_ite, succeeds_pure, modifyInterest, succeeds_emit]
  refine ⟨fun _ => hQ s h, fun _ => ⟨fun _ => hQ s h, fun _ =>
    ⟨fun _ => hQ _ ((h.update hd (by rfl) ?_ (.refl _)).congr rfl rfl),
      fun _ => hQ _ ((h.update hd (by rfl) ?_ (.refl _)).congr rfl rfl)⟩⟩⟩ <;>
    exact EventableDescriptor.sendPath_of_connection rfl hbox hpages hclosing

/-- `_SendRawOutboundData` of a nonempty chunk on a ready connection returns and leaves it
ready. -/
theorem succeeds_sendRawOutboundData {chunk : List Byte} {Q : Int → Reactor → Prop}
    (h : SendReady s self p) (hchunk : chunk ≠ [])
    (hQ : ∀ n s' q, SendReady s' self q → Q n s') :
    Succeeds (sendRawOutboundData self (.bytes chunk)) Q s := by
  obtain ⟨d, c, hd, hc, hbox, hpages, hclosing⟩ := h.exists_connection
  have hlen : (OutboundData.bytes chunk).length ≠ 0 := by simpa [OutboundData.length] using hchunk
  have hmalloc := h.allocates
  simp only [sendRawOutboundData, succeeds_bind, succeeds_descriptor, hd, Option.some.injEq,
    exists_eq_left', succeeds_ite, succeeds_pure, hlen, succeeds_malloc, hmalloc, List.headD_nil,
    List.tail_nil, modifyConnection, succeeds_modifyDescriptor, Bool.not_true,
    Bool.false_eq_true, not_false_eq_true, false_implies, true_implies, true_and, IsEmpty.forall_iff]
  refine ⟨fun _ => hQ 0 s p h, fun _ => ?_⟩
  have h₁ : SendReady { s with mallocResults := [] } self p := h.congr rfl hmalloc.symm
  have hq : EventableDescriptor.sendPath { d with sub := d.sub.mapConnection fun c =>
      { c with outboundPages := c.outboundPages ++ [⟨chunk, 0⟩]
               outboundDataSize := c.outboundDataSize + chunk.length } } =
      some { p with pages := p.pages ++ [⟨chunk, 0⟩] } :=
    EventableDescriptor.sendPath_of_connection (c := { c with
        outboundPages := c.outboundPages ++ [⟨chunk, 0⟩]
        outboundDataSize := c.outboundDataSize + chunk.length })
      (by rw [hc]; rfl) hbox (congrArg (· ++ [⟨chunk, 0⟩]) hpages) hclosing
  exact succeeds_updateEvents (h₁.update hd rfl hq (.refl _)) fun s' h' => hQ _ s' _ h'

/-- `ScheduleClose` on a ready connection returns and leaves it ready. -/
theorem succeeds_scheduleClose {afterWriting : Bool} {Q : Unit → Reactor → Prop}
    (h : SendReady s self p) (hQ : ∀ s' q, SendReady s' self q → Q () s') :
    Succeeds (scheduleClose self afterWriting) Q s := by
  obtain ⟨d, c, hd, hc, hbox, hpages, -⟩ := h.exists_connection
  have hready (d' : EventableDescriptor) (hsub : d'.sub = d.sub) (hw : d'.bWatchOnly = d.bWatchOnly)
      (s₀ : Reactor) (h₀ : SendReady s₀ self p) (hd₀ : s₀.descriptors self = some d) :
      SendReady { s₀ with descriptors := Function.update s₀.descriptors self (some d') } self
        { p with closing := d'.isCloseScheduled } :=
    h₀.update hd₀ hw (EventableDescriptor.sendPath_of_connection (hsub.trans hc) hbox hpages rfl)
      (.refl _)
  simp only [scheduleClose, EventableDescriptor.scheduleClose, succeeds_bind, succeeds_descriptor,
    hd, Option.some.injEq, exists_eq_left', h.notWatchOnly d hd, Bool.false_eq_true, ↓reduceIte,
    pure_bind, succeeds_ite, succeeds_modifyDescriptor, succeeds_modify, succeeds_pure,
    false_implies, not_false_eq_true, true_implies, true_and]
  have hw : false = d.bWatchOnly := (h.notWatchOnly d hd).symm
  have hcounted : SendReady { s with numCloseScheduled := s.numCloseScheduled + 1 } self p :=
    h.congr rfl rfl
  exact ⟨fun _ => ⟨fun _ => hQ _ _ (hready _ (by rfl) hw s h hd), fun _ => hQ s p h⟩,
    fun _ => ⟨fun _ => hQ _ _ (hready _ (by rfl) hw _ hcounted hd),
      fun _ => hQ _ _ (hready _ (by rfl) hw _ hcounted hd)⟩⟩

/-- The drain loop on a ready connection returns, whatever its fuel, and leaves it ready. -/
theorem succeeds_drainCiphertext (self : Binding) : ∀ (fuel : Nat) (p : SendPath) (s : Reactor),
    SendReady s self p →
      Succeeds (drainCiphertext self fuel) (fun _ s' => ∃ q, SendReady s' self q) s
  | 0, p, _, h => .pure ⟨p, h⟩
  | fuel + 1, ⟨⟨replies, hc⟩, pages, closing⟩, s, h => by
    simp only [drainCiphertext, succeeds_bind]
    refine succeeds_sslCall h (by rw [SslBox.canGetCiphertext_snd]; exact .refl _) fun s₁ h₁ => ?_
    rcases replies with _ | ⟨_ | _ | _ | _ | _, rest⟩
    case cons.ciphertext chunk =>
      have hchunk : chunk ≠ [] := h.chunksNonempty chunk (List.mem_cons_self _ _)
      simp only [SslBox.canGetCiphertext, Bool.not_true, Bool.false_eq_true, ite_false, pure_bind,
        succeeds_bind]
      refine succeeds_sslCall h₁ ⟨List.suffix_cons _ _, rfl⟩ fun s₂ h₂ => ?_
      simp only [SslBox.canGetCiphertext_snd, SslBox.getCiphertext, List.length_eq_zero, hchunk,
        ite_false, pure_bind,
        succeeds_bind, succeeds_discard]
      refine succeeds_sendRawOutboundData h₂ hchunk fun _ s₃ q h₃ => ?_
      simp only [succeeds_bind, succeeds_discard, succeeds_pure]
      exact succeeds_drainCiphertext self fuel q s₃ h₃
    all_goals exact .pure ⟨_, h₁⟩

/-- The pump loop on a ready connection returns, whatever its fuel, and leaves it ready. -/
theorem succeeds_pumpPlaintext (self : Binding) : ∀ (fuel : Nat) (p : SendPath) (s : Reactor),
    SendReady s self p →
      Succeeds (pumpPlaintext self fuel) (fun _ s' => ∃ q, SendReady s' self q) s
  | 0, p, _, h => .pure ⟨p, h⟩
  | fuel + 1, p, s, h => by
    simp only [pumpPlaintext, succeeds_bind]
    refine succeeds_sslCall h (SslBox.putPlaintext_later _) fun s₁ h₁ => ?_
    simp only [succeeds_ite, succeeds_bind, succeeds_discard, succeeds_pure]
    refine ⟨fun _ => (succeeds_pumpPlaintext self fuel _ s₁ h₁).mono fun _ _ h' => h',
      fun _ => ⟨fun _ => succeeds_scheduleClose h₁ fun s₂ q h₂ => ⟨q, h₂⟩, fun _ => ⟨_, h₁⟩⟩⟩

/-- The outer loop on a ready connection returns, whatever its fuel and passes. -/
theorem succeeds_dispatchCiphertextLoop (self : Binding) (fuel : Nat) :
    ∀ (passes : Nat) (p : SendPath) (s : Reactor), SendReady s self p →
      Succeeds (dispatchCiphertextLoop self fuel passes) (fun _ s' => ∃ q, SendReady s' self q) s
  | 0, p, _, h => .pure ⟨p, h⟩
  | passes + 1, p, s, h => by
    simp only [dispatchCiphertextLoop, succeeds_bind]
    refine (succeeds_drainCiphertext self fuel p s h).mono fun _ s₁ ⟨q₁, h₁⟩ => ?_
    rw [succeeds_bind]
    refine (succeeds_pumpPlaintext self fuel q₁ s₁ h₁).mono fun _ s₂ ⟨q₂, h₂⟩ => ?_
    simp only [succeeds_ite, succeeds_pure]
    exact ⟨fun _ => succeeds_dispatchCiphertextLoop self fuel passes q₂ s₂ h₂, fun _ => ⟨q₂, h₂⟩⟩

/-- `_DispatchCiphertext` on a ready connection returns and leaves it ready. -/
theorem succeeds_dispatchCiphertext (h : SendReady s self p) :
    Succeeds (dispatchCiphertext self) (fun _ s' => ∃ q, SendReady s' self q) s := by
  obtain ⟨d, c, hd, hc, hbox, -, -⟩ := h.exists_connection
  simp only [dispatchCiphertext, succeeds_bind, succeeds_connection, hd, hc, hbox,
    Option.some.injEq, exists_eq_left', Subclass.connection.injEq]
  exact succeeds_dispatchCiphertextLoop self _ _ p s h

/-- A loop over a list returns when each pass returns and keeps what the next pass needs. -/
theorem succeeds_forIn_of_inv {σ γ : Type} (I : Reactor → Prop) (l : List γ) (init : σ)
    {f : γ → σ → EM (ForInStep σ)} (hf : ∀ a b s, I s → Succeeds (f a b) (fun _ => I) s) :
    ∀ s, I s → Succeeds (forIn l init f) (fun _ => I) s := by
  induction l generalizing init with
  | nil => exact fun _ hs => .pure hs
  | cons a l ih =>
    intro s hs
    rw [List.forIn_cons, succeeds_bind]
    refine (hf a init s hs).mono fun r s' hs' => ?_
    cases r with
    | done => exact .pure hs'
    | yield b => exact ih b s' hs'

/-- The TLS branch of `SendOutboundData` on a ready connection returns and leaves it ready. -/
theorem succeeds_putPlaintextPieces {bytes : List Byte} (h : SendReady s self p) :
    Succeeds (putPlaintextPieces self (.bytes bytes)) (fun _ s' => ∃ q, SendReady s' self q) s := by
  unfold putPlaintextPieces
  dsimp only
  rw [succeeds_bind]
  refine (succeeds_forIn_of_inv (fun s => ∃ q, SendReady s self q) _ _ ?_ s ⟨p, h⟩).mono
    fun _ _ h' => .pure h'
  rintro _ _ s₀ ⟨q, h₀⟩
  simp only [succeeds_ite, succeeds_bind, succeeds_pure, Bool.false_eq_true, false_implies,
    not_false_eq_true, true_implies, true_and]
  refine succeeds_sslCall h₀ (SslBox.putPlaintext_later _) fun s₁ h₁ => ?_
  simp only [succeeds_ite, succeeds_bind, succeeds_pure]
  exact ⟨fun _ => succeeds_scheduleClose h₁ fun s₂ q₂ h₂ => ⟨q₂, h₂⟩,
    fun _ => (succeeds_dispatchCiphertext h₁).mono fun _ _ h' => h'⟩

/-- `SendOutboundData` on a ready connection that is no proxy target returns. -/
theorem succeeds_sendOutboundData {bytes : List Byte} (h : SendReady s self p)
    (hfrom : ∀ d, s.descriptors self = some d → d.proxiedFrom = none) :
    Succeeds (sendOutboundData self (.bytes bytes)) (fun _ s' => ∃ q, SendReady s' self q) s := by
  obtain ⟨d, c, hd, hc, hbox, -, -⟩ := h.exists_connection
  simp only [sendOutboundData, succeeds_bind, succeeds_descriptor, hd, Option.some.injEq,
    exists_eq_left', h.notWatchOnly d hd, hfrom d hd, Bool.false_eq_true, ↓reduceIte, pure_bind,
    succeeds_connection, hc, Subclass.connection.injEq, hbox, Option.isSome_some, succeeds_ite,
    succeeds_pure, false_implies, not_false_eq_true, true_implies, true_and, not_true_eq_false,
    and_true]
  exact ⟨fun _ => (succeeds_putPlaintextPieces h).mono fun _ _ h' => h', fun _ => ⟨p, h⟩⟩

end ConnectionDescriptor

/-- An engine that hands out a chunk of ciphertext, takes plaintext, hands out a second chunk,
fails a `PutPlaintext`, and then has a third chunk ready. -/
def chunksAndFailure : SslBox :=
  ⟨[.ciphertext [1], .pumped, .ciphertext [2], .failed, .ciphertext [3]], false⟩

/-- A connection on socket 5 running `chunksAndFailure`. -/
def tlsConnection : Reactor :=
  { Reactor.empty with
    descriptors := Function.update (fun _ => none) 0 (some
      { mySocket := 5, createdAt := 0, lastActivity := 0
        sub := .connection { sslBox := some chunksAndFailure } })
    nextBinding := 1 }

/-- `tlsConnection` meets the conditions under which the loops return. -/
theorem tlsConnection_ready : SendReady tlsConnection 0 ⟨chunksAndFailure, [], false⟩ where
  path := rfl
  notWatchOnly d hd := by cases hd; rfl
  allocates := rfl
  chunksNonempty chunk hmem := by
    simp only [chunksAndFailure, List.mem_cons, SslReply.ciphertext.injEq, List.not_mem_nil,
      reduceCtorEq, false_or, or_false] at hmem
    rcases hmem with rfl | rfl | rfl <;> exact List.cons_ne_nil _ _

/-- A run of `_DispatchCiphertext` that returns queues, at the back of the outbound queue and in
order, each chunk of ciphertext it took from the engine, and nothing else, until it takes a
failure of `PutPlaintext`; that failure schedules the close, after which, as before any close
already scheduled, nothing is queued. -/
theorem dispatchCiphertext_queues_ciphertext {self : Binding} {s s' : Reactor} {p : SendPath}
    (hs : s.sendPath self = some p)
    (h : ConnectionDescriptor.dispatchCiphertext self s = .ok () s') :
    ∃ used q, p.Took used q ∧ s'.sendPath self = some q := by
  obtain ⟨used, q, ht, hq, -⟩ :=
    state_of_ok h (ConnectionDescriptor.dispatchCiphertext_spec self p s hs)
  exact ⟨used, q, ht, hq⟩

/-- `_DispatchCiphertext` on `tlsConnection` returns, and its run takes chunks and the failure
as the accounting says. -/
theorem dispatchCiphertext_queues_ciphertext_chunks_and_failure :
    ∃ s', ConnectionDescriptor.dispatchCiphertext 0 tlsConnection = .ok () s' ∧
      ∃ used q, SendPath.Took ⟨chunksAndFailure, [], false⟩ used q ∧
        s'.sendPath 0 = some q := by
  obtain ⟨⟨⟩, s', h, -⟩ :=
    (ConnectionDescriptor.succeeds_dispatchCiphertext tlsConnection_ready).run
  exact ⟨s', h, dispatchCiphertext_queues_ciphertext (by rfl) h⟩

/-- On a TLS connection, a `SendOutboundData` that returns reports `1`, whatever the engine made
of the plaintext, and the send path moves only as the engine's answers say: the plaintext is
never queued, only the ciphertext the engine gives back, and a piece the engine refuses
schedules the close. A sink's pause of its proxy source leaves the path alone. -/
theorem sendOutboundData_tls_returns_one {self : Binding} {s s' : Reactor} {p : SendPath}
    {data : OutboundData} {n : Int} (hs : s.sendPath self = some p)
    (h : ConnectionDescriptor.sendOutboundData self data s = .ok n s') :
    n = 1 ∧ ∃ used q, p.Took used q ∧ s'.sendPath self = some q :=
  post_of_ok h (ConnectionDescriptor.sendOutboundData_spec self data p s hs)

/-- Three bytes sent on `tlsConnection` return `1`. -/
theorem sendOutboundData_tls_returns_one_chunks_and_failure :
    ∃ n s', ConnectionDescriptor.sendOutboundData 0 (.bytes [1, 2, 3]) tlsConnection = .ok n s' ∧
      n = 1 ∧ ∃ used q, SendPath.Took ⟨chunksAndFailure, [], false⟩ used q ∧
        s'.sendPath 0 = some q := by
  obtain ⟨n, s', h, -⟩ := (ConnectionDescriptor.succeeds_sendOutboundData tlsConnection_ready
    fun d hd => by cases hd; rfl).run
  exact ⟨n, s', h, sendOutboundData_tls_returns_one (by rfl) h⟩

end EventMachine

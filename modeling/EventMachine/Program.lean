import EventMachine.Basic

/-!
# Reasoning about `EM` programs

`wp x Q E s` says how a run of `x` from `s` may end: with a value `a` in a state satisfying
`Q a`, or with a `std::runtime_error` in a state satisfying `E`. A failed `assert` or a
undefined behaviour ends the process, so it constrains nothing. The rules below are simp
lemmas: `simp` executes a method body symbolically, and a callee is handled by its own
specification through `wp_mono`.

`Keeps I x` is the special case of an invariant: every run of `x` the reactor survives
goes from an `I`-state to an `I`-state. `Guarantee R x` is its relational form, for a
preorder `R` between the state before a run and the state after it.
-/

namespace EventMachine

variable {α β : Type}

/-- The weakest precondition of `x` for a return postcondition `Q` and an exception
postcondition `E`. -/
def wp (x : EM α) (Q : α → Reactor → Prop) (E : Reactor → Prop) (s : Reactor) : Prop :=
  match x s with
  | .ok a s' => Q a s'
  | .error (.runtimeError _) s' => E s'
  | .error _ _ => True

section Rules

variable {x : EM α} {Q Q' : α → Reactor → Prop} {E E' : Reactor → Prop} {s : Reactor}

@[simp] theorem wp_pure (a : α) : wp (pure a : EM α) Q E s ↔ Q a s := Iff.rfl

@[simp] theorem wp_bind (f : α → EM β) {Q : β → Reactor → Prop} :
    wp (x >>= f) Q E s ↔ wp x (fun a => wp (f a) Q E) E s := by
  simp only [wp, bind, EStateM.bind]
  rcases x s with ⟨a, s'⟩ | ⟨⟨⟩, s'⟩ <;> rfl

/-- `wp_bind` for a continuation, to which no state is applied yet. -/
theorem wp_bind_eq (f : α → EM β) {Q : β → Reactor → Prop} :
    wp (x >>= f) Q E = wp x (fun a => wp (f a) Q E) E :=
  funext fun _ => propext (wp_bind f)

theorem wp_pure_eq (a : α) : wp (pure a : EM α) Q E = Q a := rfl

@[simp] theorem wp_map (f : α → β) {Q : β → Reactor → Prop} :
    wp (f <$> x) Q E s ↔ wp x (fun a => Q (f a)) E s := by
  simp only [wp, Functor.map, EStateM.map]
  rcases x s with ⟨a, s'⟩ | ⟨⟨⟩, s'⟩ <;> rfl

@[simp] theorem wp_discard {Q : PUnit → Reactor → Prop} :
    wp (discard x) Q E s ↔ wp x (fun _ => Q ()) E s :=
  wp_map _

@[simp] theorem wp_seqRight (y : EM β) {Q : β → Reactor → Prop} :
    wp (x *> y) Q E s ↔ wp x (fun _ => wp y Q E) E s := by
  simp only [wp, SeqRight.seqRight, EStateM.seqRight]
  rcases x s with ⟨a, s'⟩ | ⟨⟨⟩, s'⟩ <;> rfl

@[simp] theorem wp_get {Q : Reactor → Reactor → Prop} : wp (get : EM Reactor) Q E s ↔ Q s s :=
  Iff.rfl

@[simp] theorem wp_modify (f : Reactor → Reactor) {Q : Unit → Reactor → Prop} :
    wp (modify f : EM Unit) Q E s ↔ Q () (f s) := Iff.rfl

@[simp] theorem wp_set (s' : Reactor) {Q : PUnit → Reactor → Prop} :
    wp (set s' : EM PUnit) Q E s ↔ Q () s' := Iff.rfl

@[simp] theorem wp_throw_runtimeError (what : String) :
    wp (throw (.runtimeError what) : EM α) Q E s ↔ E s := Iff.rfl

@[simp] theorem wp_throw_assertionFailed (what : String) :
    wp (throw (.assertionFailed what) : EM α) Q E s := trivial

@[simp] theorem wp_throw_undefinedBehaviour (what : String) :
    wp (throw (.undefinedBehaviour what) : EM α) Q E s := trivial

@[simp] theorem throw_bind (e : Fault) (f : α → EM β) : (throw e >>= f : EM β) = throw e := rfl

@[simp] theorem wp_ite (c : Prop) [Decidable c] (y z : EM α) :
    wp (if c then y else z) Q E s ↔ (c → wp y Q E s) ∧ (¬c → wp z Q E s) := by
  by_cases h : c <;> simp [h]

/-- `if c then x` followed by `y` in a `do` block, where the join point put `y` in both
branches. -/
theorem wp_when {c : Prop} [Decidable c] (x : EM PUnit) (y : EM α) :
    wp (if c then x >>= fun _ => y else y) Q E s ↔
      wp (if c then x else pure ()) (fun _ => wp y Q E) E s := by
  by_cases h : c <;> simp [h]

@[simp] theorem wp_descriptor (b : Binding) {Q : EventableDescriptor → Reactor → Prop} :
    wp (descriptor b) Q E s ↔ ∀ d, s.descriptors b = some d → Q d s := by
  simp only [wp, descriptor]
  cases s.descriptors b <;> simp

@[simp] theorem wp_modifyDescriptor (b : Binding) (f : EventableDescriptor → EventableDescriptor)
    {Q : Unit → Reactor → Prop} :
    wp (modifyDescriptor b f) Q E s ↔ ∀ d, s.descriptors b = some d →
      Q () { s with descriptors := Function.update s.descriptors b (some (f d)) } := by
  simp only [wp, modifyDescriptor]
  cases s.descriptors b <;> simp

@[simp] theorem wp_emit (e : TraceEntry) {Q : Unit → Reactor → Prop} :
    wp (emit e) Q E s ↔ Q () { s with trace := s.trace ++ [e] } := Iff.rfl

@[simp] theorem wp_callback (b : Binding) (kind : EventKind) (data : List Byte) (value : Int)
    {Q : Unit → Reactor → Prop} :
    wp (callback b kind data value) Q E s ↔
      Q () { s with callbacks := s.callbacks ++ [⟨b, kind, data, value⟩] } := Iff.rfl

@[simp] theorem wp_malloc {Q : Bool → Reactor → Prop} :
    wp malloc Q E s ↔
      Q (s.mallocResults.headD true) { s with mallocResults := s.mallocResults.tail } := Iff.rfl

@[simp] theorem wp_getCurrentLoopTime {Q : UInt64 → Reactor → Prop} :
    wp getCurrentLoopTime Q E s ↔ Q s.currentLoopTime s := Iff.rfl

@[simp] theorem wp_getRealTime {Q : UInt64 → Reactor → Prop} :
    wp getRealTime Q E s ↔ Q s.realTime s := Iff.rfl

@[simp] theorem wp_getTimerQuantum {Q : UInt64 → Reactor → Prop} :
    wp getTimerQuantum Q E s ↔ Q s.timerQuantum s := Iff.rfl

@[simp] theorem wp_connection (b : Binding) {Q : ConnectionDescriptor → Reactor → Prop} :
    wp (connection b) Q E s ↔ ∀ d, s.descriptors b = some d →
      ∀ c, d.sub = .connection c → Q c s := by
  simp only [connection, wp_bind, wp_descriptor]
  refine forall₂_congr fun d _ => ?_
  cases d.sub <;> simp

@[simp] theorem wp_datagram (b : Binding) {Q : DatagramDescriptor → Reactor → Prop} :
    wp (datagram b) Q E s ↔ ∀ d, s.descriptors b = some d →
      ∀ g, d.sub = .datagram g → Q g s := by
  simp only [datagram, wp_bind, wp_descriptor]
  refine forall₂_congr fun d _ => ?_
  cases d.sub <;> simp

theorem wp_mono (h : wp x Q E s) (hQ : ∀ a s', Q a s' → Q' a s') (hE : ∀ s', E s' → E' s') :
    wp x Q' E' s := by
  unfold wp at *
  rcases hx : x s with ⟨a, s'⟩ | ⟨⟨⟩, s'⟩ <;> simp only [hx] at h <;> simp [hQ, hE, h]

/-- A run that returns ends in a state the return postcondition describes. -/
theorem post_of_ok {a : α} {s' : Reactor} (hx : x s = .ok a s') (h : wp x Q E s) : Q a s' := by
  unfold wp at h
  rwa [hx] at h

theorem state_of_ok {P : Reactor → Prop} {a : α} {s' : Reactor} (hx : x s = .ok a s')
    (h : wp x (fun _ => P) E s) : P s' :=
  post_of_ok hx h

/-- A run that throws a `std::runtime_error` ends in a state the exception postcondition
describes. -/
theorem post_of_runtimeError {what : String} {s' : Reactor}
    (hx : x s = .error (.runtimeError what) s') (h : wp x Q E s) : E s' := by
  unfold wp at h
  rwa [hx] at h

theorem wp_and (h : wp x Q E s) (h' : wp x Q' E' s) :
    wp x (fun a s' => Q a s' ∧ Q' a s') (fun s' => E s' ∧ E' s') s := by
  unfold wp at *
  rcases hx : x s with ⟨a, s'⟩ | ⟨⟨⟩, s'⟩ <;> simp only [hx] at h h' <;> simp [h, h']

end Rules

/-! ## Runs that throw -/

/-- The run of `x` from `s` throws the `std::runtime_error` `what`. -/
def Throws (x : EM α) (what : String) (s : Reactor) : Prop :=
  ∃ s', x s = .error (.runtimeError what) s'

theorem bind_run_ok {x : EM α} {f : α → EM β} {s s' : Reactor} {a : α} (h : x s = .ok a s') :
    (x >>= f) s = f a s' := by
  simp only [bind, EStateM.bind, h]

theorem descriptor_run {b : Binding} {s : Reactor} {d : EventableDescriptor}
    (h : s.descriptors b = some d) : descriptor b s = .ok d s := by
  simp [descriptor, h]

theorem connection_run {b : Binding} {s : Reactor} {d : EventableDescriptor}
    {c : ConnectionDescriptor} (h : s.descriptors b = some d) (hc : d.sub = .connection c) :
    connection b s = .ok c s := by
  simp only [connection, bind_run_ok (descriptor_run h), hc]
  rfl

theorem modifyDescriptor_run {b : Binding} {s : Reactor} {d : EventableDescriptor}
    {f : EventableDescriptor → EventableDescriptor} (h : s.descriptors b = some d) :
    modifyDescriptor b f s =
      .ok () { s with descriptors := Function.update s.descriptors b (some (f d)) } := by
  simp [modifyDescriptor, h]

/-- `x >>= f` and `x >>= g` run alike from `s` when `f` and `g` agree wherever `x` returns. -/
theorem bind_run_congr {x : EM α} {f g : α → EM β} {s : Reactor} {Q : α → Reactor → Prop}
    {E : Reactor → Prop} (hx : wp x Q E s) (h : ∀ a s', Q a s' → f a s' = g a s') :
    (x >>= f) s = (x >>= g) s := by
  simp only [bind, EStateM.bind]
  cases hr : x s with
  | ok a s' => exact h a s' (post_of_ok hr hx)
  | error e s' => rfl

theorem bind_run_eq {x y : EM α} {f : α → EM β} {s : Reactor} (h : x s = y s) :
    (x >>= f) s = (y >>= f) s := by
  simp only [bind, EStateM.bind, h]

theorem wp_of_run_eq {x y : EM α} {Q : α → Reactor → Prop} {E : Reactor → Prop} {s : Reactor}
    (h : x s = y s) : wp x Q E s ↔ wp y Q E s := by
  unfold wp
  rw [h]

/-! ## Runs that return

`wp` counts a failed `assert` or an undefined behaviour as vacuous, so it cannot say that a call
returns. `Succeeds x Q s` says it: the run of `x` from `s` returns, with a value and a state that
`Q` describes. Its rules are those of `wp` with every fault ruled out. -/

/-- The run of `x` from `s` returns, in a state that `Q` describes with the value. -/
def Succeeds (x : EM α) (Q : α → Reactor → Prop) (s : Reactor) : Prop :=
  match x s with
  | .ok a s' => Q a s'
  | .error _ _ => False

section Succeeds

variable {x : EM α} {Q Q' : α → Reactor → Prop} {s : Reactor}

theorem Succeeds.run (h : Succeeds x Q s) : ∃ a s', x s = .ok a s' ∧ Q a s' := by
  unfold Succeeds at h
  split at h
  · exact ⟨_, _, ‹_›, h⟩
  · exact h.elim

theorem Succeeds.mono (h : Succeeds x Q s) (hQ : ∀ a s', Q a s' → Q' a s') :
    Succeeds x Q' s := by
  unfold Succeeds at *
  rcases hx : x s with ⟨a, s'⟩ | ⟨e, s'⟩ <;> simp only [hx] at h ⊢
  exact hQ a s' h

@[simp] theorem succeeds_pure (a : α) : Succeeds (pure a : EM α) Q = Q a := rfl

theorem Succeeds.pure {a : α} (h : Q a s) : Succeeds (pure a : EM α) Q s := by
  rwa [succeeds_pure]

@[simp] theorem succeeds_bind (f : α → EM β) {Q : β → Reactor → Prop} :
    Succeeds (x >>= f) Q s ↔ Succeeds x (fun a => Succeeds (f a) Q) s := by
  simp only [Succeeds, bind, EStateM.bind]
  rcases x s with ⟨a, s'⟩ | ⟨e, s'⟩ <;> rfl

@[simp] theorem succeeds_map (f : α → β) {Q : β → Reactor → Prop} :
    Succeeds (f <$> x) Q s ↔ Succeeds x (fun a => Q (f a)) s := by
  simp only [Succeeds, Functor.map, EStateM.map]
  rcases x s with ⟨a, s'⟩ | ⟨e, s'⟩ <;> rfl

@[simp] theorem succeeds_discard {Q : PUnit → Reactor → Prop} :
    Succeeds (discard x) Q s ↔ Succeeds x (fun _ => Q ()) s :=
  succeeds_map _

@[simp] theorem succeeds_get {Q : Reactor → Reactor → Prop} :
    Succeeds (get : EM Reactor) Q s ↔ Q s s := Iff.rfl

@[simp] theorem succeeds_modify (f : Reactor → Reactor) {Q : Unit → Reactor → Prop} :
    Succeeds (modify f : EM Unit) Q s ↔ Q () (f s) := Iff.rfl

@[simp] theorem succeeds_throw (e : Fault) : ¬Succeeds (throw e : EM α) Q s := id

@[simp] theorem succeeds_ite (c : Prop) [Decidable c] (y z : EM α) :
    Succeeds (if c then y else z) Q s ↔ (c → Succeeds y Q s) ∧ (¬c → Succeeds z Q s) := by
  by_cases h : c <;> simp [h]

@[simp] theorem succeeds_emit (e : TraceEntry) {Q : Unit → Reactor → Prop} :
    Succeeds (emit e) Q s ↔ Q () { s with trace := s.trace ++ [e] } := Iff.rfl

@[simp] theorem succeeds_callback (b : Binding) (kind : EventKind) (data : List Byte)
    (value : Int) {Q : Unit → Reactor → Prop} :
    Succeeds (callback b kind data value) Q s ↔
      Q () { s with callbacks := s.callbacks ++ [⟨b, kind, data, value⟩] } := Iff.rfl

@[simp] theorem succeeds_malloc {Q : Bool → Reactor → Prop} :
    Succeeds malloc Q s ↔
      Q (s.mallocResults.headD true) { s with mallocResults := s.mallocResults.tail } := Iff.rfl

@[simp] theorem succeeds_getCurrentLoopTime {Q : UInt64 → Reactor → Prop} :
    Succeeds getCurrentLoopTime Q s ↔ Q s.currentLoopTime s := Iff.rfl

@[simp] theorem succeeds_descriptor (b : Binding) {Q : EventableDescriptor → Reactor → Prop} :
    Succeeds (descriptor b) Q s ↔ ∃ d, s.descriptors b = some d ∧ Q d s := by
  simp only [Succeeds, descriptor]
  cases s.descriptors b <;> simp

@[simp] theorem succeeds_modifyDescriptor (b : Binding)
    (f : EventableDescriptor → EventableDescriptor) {Q : Unit → Reactor → Prop} :
    Succeeds (modifyDescriptor b f) Q s ↔ ∃ d, s.descriptors b = some d ∧
      Q () { s with descriptors := Function.update s.descriptors b (some (f d)) } := by
  simp only [Succeeds, modifyDescriptor]
  cases s.descriptors b <;> simp

@[simp] theorem succeeds_connection (b : Binding) {Q : ConnectionDescriptor → Reactor → Prop} :
    Succeeds (connection b) Q s ↔ ∃ d, s.descriptors b = some d ∧
      ∃ c, d.sub = .connection c ∧ Q c s := by
  simp only [connection, succeeds_bind, succeeds_descriptor]
  refine exists_congr fun d => and_congr_right fun _ => ?_
  cases d.sub <;> simp

@[simp] theorem succeeds_datagram (b : Binding) {Q : DatagramDescriptor → Reactor → Prop} :
    Succeeds (datagram b) Q s ↔ ∃ d, s.descriptors b = some d ∧
      ∃ g, d.sub = .datagram g ∧ Q g s := by
  simp only [datagram, succeeds_bind, succeeds_descriptor]
  refine exists_congr fun d => and_congr_right fun _ => ?_
  cases d.sub <;> simp

end Succeeds

/- A run is reasoned about through the rules above; unfolding `Succeeds` on a concrete state
would evaluate the run. -/
attribute [irreducible] Succeeds

/-! ## Triples -/

/-- From a `P`-state, every run of `x` the reactor survives ends in a state that `Q` describes
with the returned value, or, by a `std::runtime_error`, in one that `E` describes. -/
def Triple (P : Reactor → Prop) (x : EM α) (Q : α → Reactor → Prop) (E : Reactor → Prop) :
    Prop :=
  ∀ s, P s → wp x Q E s

section Triples

variable {P : Reactor → Prop} {Q : α → Reactor → Prop} {E : Reactor → Prop}

theorem Triple.bind {x : EM α} {f : α → EM β} {R : α → Reactor → Prop} {Q : β → Reactor → Prop}
    (hx : Triple P x R E) (hf : ∀ a, Triple (R a) (f a) Q E) : Triple P (x >>= f) Q E :=
  fun s hs => (wp_bind f).2 (wp_mono (hx s hs) (fun a _ h => hf a _ h) fun _ h => h)

theorem Triple.ite {c : Prop} [Decidable c] {x y : EM α} (hx : c → Triple P x Q E)
    (hy : ¬c → Triple P y Q E) : Triple P (if c then x else y) Q E := by
  by_cases h : c
  · simpa [h] using hx h
  · simpa [h] using hy h

theorem triple_assertionFailed (what : String) :
    Triple P (throw (.assertionFailed what) : EM α) Q E := fun _ _ => trivial

theorem Triple.of_impossible {x : EM α} (h : ∀ s, ¬P s) : Triple P x Q E :=
  fun s hs => absurd hs (h s)

theorem triple_throw_runtimeError (what : String) :
    Triple P (throw (.runtimeError what) : EM α) Q P := fun _ hs => hs

theorem triple_descriptor (b : Binding) :
    Triple P (descriptor b) (fun d s => P s ∧ s.descriptors b = some d) E := by
  intro s hs
  simp [hs]

theorem triple_connection (b : Binding) :
    Triple P (connection b) (fun c s => P s ∧ ∃ d, s.descriptors b = some d ∧
      d.sub = .connection c) E := by
  intro s hs
  simp only [wp_connection]
  exact fun d hd c hc => ⟨hs, d, hd, hc⟩

theorem triple_getCurrentLoopTime :
    Triple P getCurrentLoopTime (fun now s => P s ∧ now = s.currentLoopTime) E :=
  fun _ hs => ⟨hs, rfl⟩

/-- Split the precondition on a property of the state. -/
theorem Triple.split {x : EM α} (φ : Reactor → Prop) (h : Triple (fun s => P s ∧ φ s) x Q E)
    (h' : Triple (fun s => P s ∧ ¬φ s) x Q E) : Triple P x Q E := fun s hs =>
  (em (φ s)).elim (fun hφ => h s ⟨hs, hφ⟩) fun hφ => h' s ⟨hs, hφ⟩

/-- A pure fact of the precondition may be used to shape the program. -/
theorem Triple.of_fact {φ : Prop} {x : EM α} (h : φ → Triple P x Q E) :
    Triple (fun s => P s ∧ φ) x Q E :=
  fun s hs => h hs.2 s hs.1

theorem triple_pure (a : α) (h : ∀ s, P s → Q a s) : Triple P (pure a : EM α) Q E := h

theorem Triple.mono {x : EM α} {P' : Reactor → Prop} {Q' : α → Reactor → Prop}
    {E' : Reactor → Prop} (h : Triple P x Q E) (hP : ∀ s, P' s → P s)
    (hQ : ∀ a s, Q a s → Q' a s) (hE : ∀ s, E s → E' s) : Triple P' x Q' E' :=
  fun s hs => wp_mono (h s (hP s hs)) hQ hE

end Triples

/-! ## Invariants and guarantees -/

/-- `I` is an invariant of `x`: every run the reactor survives keeps it. -/
def Keeps (I : Reactor → Prop) (x : EM α) : Prop :=
  ∀ s, I s → wp x (fun _ => I) I s

/-- Every run of `x` the reactor survives moves the state along `R`. -/
def Guarantee (R : Reactor → Reactor → Prop) (x : EM α) : Prop :=
  ∀ s, wp x (fun _ => R s) (R s) s

section Composition

variable {I : Reactor → Prop} {R : Reactor → Reactor → Prop}

theorem Keeps.bind {x : EM α} {f : α → EM β} (hx : Keeps I x) (hf : ∀ a, Keeps I (f a)) :
    Keeps I (x >>= f) := fun s hs =>
  (wp_bind f).2 (wp_mono (hx s hs) (fun a _ h => hf a _ h) fun _ h => h)

theorem keeps_pure (a : α) : Keeps I (pure a : EM α) := fun _ h => h

theorem Keeps.of_guarantee {x : EM α} (h : Guarantee (fun s s' => I s → I s') x) :
    Keeps I x := fun s hs => wp_mono (h s) (fun _ _ h => h hs) fun _ h => h hs

theorem guarantee_pure [IsRefl Reactor R] (a : α) : Guarantee R (pure a : EM α) := fun s =>
  IsRefl.refl s

/-- A run of `x` from a state `s'` that `R` already relates to `s`. -/
theorem Guarantee.wp_of_rel [IsTrans Reactor R] {x : EM α} (hx : Guarantee R x) {s s' : Reactor}
    (h : R s s') : wp x (fun _ => R s) (R s) s' :=
  wp_mono (hx s') (fun _ _ h' => IsTrans.trans _ _ _ h h') fun _ h' => IsTrans.trans _ _ _ h h'

theorem Guarantee.bind [IsTrans Reactor R] {x : EM α} {f : α → EM β} (hx : Guarantee R x)
    (hf : ∀ a, Guarantee R (f a)) : Guarantee R (x >>= f) := fun s =>
  (wp_bind f).2 <| wp_mono (hx s) (fun a _ h => (hf a).wp_of_rel h) fun _ h => h

theorem Guarantee.ite {c : Prop} [Decidable c] {x y : EM α} (hx : Guarantee R x)
    (hy : Guarantee R y) : Guarantee R (if c then x else y) := by
  split <;> assumption

/-- `if c then x` followed by `y` in a `do` block: the join point puts `y` in both branches. -/
theorem Guarantee.when [IsTrans Reactor R] {c : Prop} [Decidable c] {x : EM PUnit} {y : EM α}
    (hx : Guarantee R x) (hy : Guarantee R y) :
    Guarantee R (if c then x >>= fun _ => y else y) :=
  .ite (hx.bind fun _ => hy) hy

theorem guarantee_throw_runtimeError [IsRefl Reactor R] (what : String) :
    Guarantee R (throw (.runtimeError what) : EM α) := fun s => IsRefl.refl s

theorem guarantee_throw_assertionFailed (what : String) :
    Guarantee R (throw (.assertionFailed what) : EM α) := fun _ => trivial

theorem guarantee_throw_undefinedBehaviour (what : String) :
    Guarantee R (throw (.undefinedBehaviour what) : EM α) := fun _ => trivial

theorem Guarantee.discard {x : EM α} (hx : Guarantee R x) : Guarantee R (discard x) := fun s =>
  wp_discard.2 (hx s)

/-- A loop over a list guarantees what each pass guarantees. -/
theorem Guarantee.forIn [IsRefl Reactor R] [IsTrans Reactor R] {σ γ : Type} (l : List γ)
    (init : σ) {f : γ → σ → EM (ForInStep σ)} (hf : ∀ a b, Guarantee R (f a b)) :
    Guarantee R (forIn l init f) := by
  induction l generalizing init with
  | nil => exact guarantee_pure _
  | cons a l ih =>
    rw [List.forIn_cons]
    exact (hf a init).bind fun
      | .done _ => guarantee_pure _
      | .yield b => ih b

end Composition

/-! ## Runs that throw nothing -/

/-- Every run of `x` returns, or fails on undefined behaviour or an assertion: it throws no
`std::runtime_error`. -/
def NoThrow (x : EM α) : Prop :=
  ∀ s, wp x (fun _ _ => True) (fun _ => False) s

/-- Every run of `x` moves the state along `R` and throws no `std::runtime_error`. -/
def Returns (R : Reactor → Reactor → Prop) (x : EM α) : Prop :=
  ∀ s, wp x (fun _ => R s) (fun _ => False) s

section NoThrow

variable {R : Reactor → Reactor → Prop}

theorem wp_true (x : EM α) (s : Reactor) : wp x (fun _ _ => True) (fun _ => True) s := by
  unfold wp
  rcases x s with ⟨⟩ | ⟨⟨⟩, _⟩ <;> trivial

theorem noThrow_pure (a : α) : NoThrow (pure a : EM α) := fun _ => trivial

theorem noThrow_modify (f : Reactor → Reactor) : NoThrow (modify f : EM Unit) := fun _ => trivial

theorem noThrow_get : NoThrow (get : EM Reactor) := fun _ => trivial

theorem noThrow_throw_undefinedBehaviour (what : String) :
    NoThrow (throw (.undefinedBehaviour what) : EM α) := fun _ => trivial

theorem noThrow_descriptor (b : Binding) : NoThrow (descriptor b) := fun _ =>
  (wp_descriptor b).2 fun _ _ => trivial

theorem noThrow_modifyDescriptor (b : Binding) (f : EventableDescriptor → EventableDescriptor) :
    NoThrow (modifyDescriptor b f) := fun _ =>
  (wp_modifyDescriptor b f).2 fun _ _ => trivial

theorem NoThrow.bind {x : EM α} {f : α → EM β} (hx : NoThrow x) (hf : ∀ a, NoThrow (f a)) :
    NoThrow (x >>= f) := fun s =>
  (wp_bind f).2 (wp_mono (hx s) (fun a s' _ => hf a s') fun _ h => h)

theorem NoThrow.ite {c : Prop} [Decidable c] {x y : EM α} (hx : NoThrow x) (hy : NoThrow y) :
    NoThrow (if c then x else y) := by
  split <;> assumption

theorem NoThrow.discard {x : EM α} (hx : NoThrow x) : NoThrow (discard x) := fun s =>
  wp_discard.2 (hx s)

/-- A guarantee of a call that throws nothing. -/
theorem Guarantee.returns {x : EM α} (hg : Guarantee R x) (hn : NoThrow x) : Returns R x :=
  fun s => wp_mono (wp_and (hg s) (hn s)) (fun _ _ h => h.1) fun _ h => h.2

theorem Returns.bind [IsTrans Reactor R] {x : EM α} {f : α → EM β} (hx : Returns R x)
    (hf : ∀ a, Returns R (f a)) : Returns R (x >>= f) := fun s =>
  (wp_bind f).2 <| wp_mono (hx s)
    (fun a _ h => wp_mono (hf a _) (fun _ _ h' => IsTrans.trans _ _ _ h h') fun _ h' => h')
    fun _ h => h

theorem Returns.ite {c : Prop} [Decidable c] {x y : EM α} (hx : Returns R x) (hy : Returns R y) :
    Returns R (if c then x else y) := by
  split <;> assumption

end NoThrow

/-! ## Frames -/

/-- Every run of `x` the reactor survives leaves `view` as it was. -/
def Preserves {β : Type} (view : Reactor → β) (x : EM α) : Prop :=
  ∀ s, wp x (fun _ s' => view s' = view s) (fun s' => view s' = view s) s

section Frames

variable {γ : Type} {view : Reactor → γ}

theorem Preserves.wp {x : EM α} (h : Preserves view x) {Q : α → Reactor → Prop}
    {E : Reactor → Prop} {s : Reactor} (hQ : ∀ a s', view s' = view s → Q a s')
    (hE : ∀ s', view s' = view s → E s') : EventMachine.wp x Q E s :=
  wp_mono (h s) hQ hE

theorem preserves_pure (a : α) : Preserves view (pure a : EM α) := fun _ => rfl

theorem Preserves.bind {x : EM α} {f : α → EM β} (hx : Preserves view x)
    (hf : ∀ a, Preserves view (f a)) : Preserves view (x >>= f) := fun _ =>
  (wp_bind f).2 <| hx.wp (fun a _ h => (hf a).wp (fun _ _ h' => h'.trans h)
    fun _ h' => h'.trans h) fun _ h => h

theorem Preserves.ite {c : Prop} [Decidable c] {x y : EM α} (hx : Preserves view x)
    (hy : Preserves view y) : Preserves view (if c then x else y) := by
  split <;> assumption

theorem Preserves.discard {x : EM α} (h : Preserves view x) : Preserves view (discard x) :=
  fun s => wp_discard.2 (h s)

theorem preserves_throw_runtimeError (what : String) :
    Preserves view (throw (.runtimeError what) : EM α) := fun _ => rfl

theorem preserves_descriptor (b : Binding) : Preserves view (descriptor b) := by
  intro s
  simp

theorem preserves_getCurrentLoopTime : Preserves view getCurrentLoopTime := fun _ => rfl

theorem preserves_connection (b : Binding) : Preserves view (connection b) := by
  intro s
  simp

theorem preserves_datagram (b : Binding) : Preserves view (datagram b) := by
  intro s
  simp

theorem preserves_get : Preserves view (get : EM Reactor) := fun _ => rfl

theorem preserves_getRealTime : Preserves view getRealTime := fun _ => rfl

theorem preserves_getTimerQuantum : Preserves view getTimerQuantum := fun _ => rfl

/-- A call that changes nothing guarantees any reflexive relation. -/
theorem Preserves.guarantee {R : Reactor → Reactor → Prop} [IsRefl Reactor R] {x : EM α}
    (h : Preserves id x) : Guarantee R x := fun s =>
  h.wp (fun _ _ h => (show _ = s from h) ▸ IsRefl.refl _) fun _ h => (show _ = s from h) ▸ IsRefl.refl _

/-- A write of one descriptor that a view of the descriptors cannot see. -/
theorem preserves_modifyDescriptor {g : EventableDescriptor → γ} (b : Binding)
    {f : EventableDescriptor → EventableDescriptor} (hf : ∀ d, g (f d) = g d) :
    Preserves (fun s b => (s.descriptors b).map g) (modifyDescriptor b f) := by
  intro s
  simp only [wp_modifyDescriptor]
  intro d hd
  funext b'
  by_cases h : b' = b
  · subst h
    simp [hd, hf]
  · simp [Function.update_noteq h]

/-- A frame keeps every fact about its view. -/
theorem Preserves.triple {x : EM α} (h : Preserves view x) (P : γ → Prop) {E : Reactor → Prop}
    (hE : ∀ s, P (view s) → E s) :
    Triple (fun s => P (view s)) x (fun _ s => P (view s)) E :=
  fun _ hs => h.wp (fun _ _ h' => h' ▸ hs) fun s' h' => hE s' (h' ▸ hs)

end Frames

end EventMachine

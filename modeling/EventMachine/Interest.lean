import EventMachine.Descriptor

/-!
# Poll interest of a connection

`SelectForRead` and `SelectForWrite` say which readiness a connection wants; `_UpdateEvents`
copies the answer into the `EPOLLIN` and `EPOLLOUT` bits of its epoll mask and tells the
reactor when the mask changed. Every setter of a flag the selectors read ends with a call to
`_UpdateEvents` (the epoll build).

The two bits are read with `hasEpollIn` and `hasEpollOut`; their `@[simp]` lemmas turn every
mask the code computes into Boolean algebra (`hasEpollIn_updatedEvents`).
-/

namespace EventMachine

/-! ## The two bits of the mask -/

/-- Whether the mask has the `EPOLLIN` bit (`0x001`). -/
def hasEpollIn (events : UInt32) : Bool := events.toBitVec.getLsbD 0

/-- Whether the mask has the `EPOLLOUT` bit (`0x004`). -/
def hasEpollOut (events : UInt32) : Bool := events.toBitVec.getLsbD 2

section Bits

variable (x y : UInt32)

@[simp] theorem hasEpollIn_or : hasEpollIn (x ||| y) = (hasEpollIn x || hasEpollIn y) :=
  BitVec.getLsbD_or ..

@[simp] theorem hasEpollIn_and : hasEpollIn (x &&& y) = (hasEpollIn x && hasEpollIn y) :=
  BitVec.getLsbD_and ..

@[simp] theorem hasEpollIn_not : hasEpollIn (~~~x) = !hasEpollIn x := by
  show (~~~x.toBitVec).getLsbD 0 = _
  simp [hasEpollIn]

@[simp] theorem hasEpollOut_or : hasEpollOut (x ||| y) = (hasEpollOut x || hasEpollOut y) :=
  BitVec.getLsbD_or ..

@[simp] theorem hasEpollOut_and : hasEpollOut (x &&& y) = (hasEpollOut x && hasEpollOut y) :=
  BitVec.getLsbD_and ..

@[simp] theorem hasEpollOut_not : hasEpollOut (~~~x) = !hasEpollOut x := by
  show (~~~x.toBitVec).getLsbD 2 = _
  simp [hasEpollOut]

end Bits

@[simp] theorem hasEpollIn_epollIn : hasEpollIn epollIn = true := rfl
@[simp] theorem hasEpollIn_epollOut : hasEpollIn epollOut = false := rfl
@[simp] theorem hasEpollIn_zero : hasEpollIn 0 = false := rfl
@[simp] theorem hasEpollOut_epollIn : hasEpollOut epollIn = false := rfl
@[simp] theorem hasEpollOut_epollOut : hasEpollOut epollOut = true := rfl
@[simp] theorem hasEpollOut_zero : hasEpollOut 0 = false := rfl

/-- The `EPOLLIN` and `EPOLLOUT` bits of a mask are its two bits. -/
theorem interestBits_eq (x : UInt32) : x &&& (epollIn ||| epollOut) =
    (if hasEpollIn x then epollIn else 0) ||| (if hasEpollOut x then epollOut else 0) := by
  have hor : ∀ a b : UInt32, (a ||| b).toBitVec = a.toBitVec ||| b.toBitVec := fun _ _ => rfl
  have hand : ∀ a b : UInt32, (a &&& b).toBitVec = a.toBitVec &&& b.toBitVec := fun _ _ => rfl
  apply UInt32.eq_of_toBitVec_eq
  apply BitVec.eq_of_getLsbD_eq
  intro ⟨i, hi⟩
  simp only [hasEpollIn, hasEpollOut]
  rcases i with _ | _ | _ | i <;> split_ifs <;> simp_all [hor, hand, epollIn, epollOut,
    UInt32.toBitVec_ofNat, BitVec.getLsbD_ofNat, Nat.testBit_succ]

namespace ConnectionDescriptor

/-- `SelectForRead`: a paused or connecting socket is not read; a watch-only socket is read
when notification was asked for. -/
def selectForRead (d : EventableDescriptor) (c : ConnectionDescriptor) : Bool :=
  if d.bPaused then false
  else if c.bConnectPending then false
  else if d.bWatchOnly then c.bNotifyReadable
  else true

/-- `SelectForWrite`: a connecting socket waits for writability, which reports the connect's
outcome; otherwise a connection writes while it has queued bytes. -/
def selectForWrite (d : EventableDescriptor) (c : ConnectionDescriptor) : Bool :=
  if d.bPaused then false
  else if c.bConnectPending then true
  else if d.bWatchOnly then c.bNotifyWritable
  else decide (c.outboundDataSize > 0)

/-- The mask `_UpdateEvents (read, write)` computes from `old`: `EPOLLIN` follows
`SelectForRead` when `read` is asked, `EPOLLOUT` follows `SelectForWrite` when `write` is. -/
def updatedEvents (d : EventableDescriptor) (c : ConnectionDescriptor) (read write : Bool)
    (old : UInt32) : UInt32 :=
  let e := if read then
      (if selectForRead d c then old ||| epollIn else old &&& ~~~epollIn) else old
  if write then (if selectForWrite d c then e ||| epollOut else e &&& ~~~epollOut) else e

/-- `_UpdateEvents` sets `EPOLLIN` to `SelectForRead` when it recomputes the read bit. -/
@[simp] theorem hasEpollIn_updatedEvents (d : EventableDescriptor) (c : ConnectionDescriptor)
    (read write : Bool) (old : UInt32) :
    hasEpollIn (updatedEvents d c read write old) =
      if read then selectForRead d c else hasEpollIn old := by
  unfold updatedEvents
  cases read <;> cases write <;> cases selectForRead d c <;> cases selectForWrite d c <;> simp

/-- `_UpdateEvents` sets `EPOLLOUT` to `SelectForWrite` when it recomputes the write bit. -/
@[simp] theorem hasEpollOut_updatedEvents (d : EventableDescriptor) (c : ConnectionDescriptor)
    (read write : Bool) (old : UInt32) :
    hasEpollOut (updatedEvents d c read write old) =
      if write then selectForWrite d c else hasEpollOut old := by
  unfold updatedEvents
  cases read <;> cases write <;> cases selectForRead d c <;> cases selectForWrite d c <;> simp

/-- `_UpdateEvents (read, write)`. -/
def updateEvents (self : Binding) (read write : Bool) : EM Unit := do
  let d ← descriptor self
  if d.mySocket = invalidSocket then return
  if !read && !write then return
  let c ← connection self
  let new := updatedEvents d c read write d.epollEvents
  modifyDescriptor self fun d => { d with epollEvents := new }
  if d.epollEvents ≠ new then
    modifyInterest self

/-- `SetConnectPending`. -/
def setConnectPending (self : Binding) (f : Bool) : EM Unit := do
  modifyConnection self fun c => { c with bConnectPending := f }
  queueHeartbeat self
  updateEvents self true true

/-- `SetAttached`. -/
def setAttached (self : Binding) (state : Bool) : EM Unit :=
  modifyDescriptor self fun d => { d with bAttached := state }

/-- `SetWatchOnly`. -/
def setWatchOnly (self : Binding) (watching : Bool) : EM Unit := do
  modifyDescriptor self fun d => { d with bWatchOnly := watching }
  updateEvents self true true

/-- `SetNotifyReadable`: only a watch-only connection takes notifications. -/
def setNotifyReadable (self : Binding) (readable : Bool) : EM Unit := do
  if !(← descriptor self).bWatchOnly then
    throw (.runtimeError "notify_readable must be on 'watch only' connections")
  modifyConnection self fun c => { c with bNotifyReadable := readable }
  updateEvents self true false

/-- `SetNotifyWritable`. -/
def setNotifyWritable (self : Binding) (writable : Bool) : EM Unit := do
  if !(← descriptor self).bWatchOnly then
    throw (.runtimeError "notify_writable must be on 'watch only' connections")
  modifyConnection self fun c => { c with bNotifyWritable := writable }
  updateEvents self false true

/-- `Pause`: returns whether the connection was running. -/
def pause (self : Binding) : EM Bool := do
  let d ← descriptor self
  if d.bWatchOnly then
    throw (.runtimeError
      "cannot pause/resume 'watch only' connections, set notify readable/writable instead")
  modifyDescriptor self fun d => { d with bPaused := true }
  updateEvents self true true
  return !d.bPaused

/-- `Resume`: returns whether the connection was paused. -/
def resume (self : Binding) : EM Bool := do
  let d ← descriptor self
  if d.bWatchOnly then
    throw (.runtimeError
      "cannot pause/resume 'watch only' connections, set notify readable/writable instead")
  modifyDescriptor self fun d => { d with bPaused := false }
  updateEvents self true true
  return d.bPaused

end ConnectionDescriptor

namespace EventableDescriptor

/-- Modelled from the spec: the base class's `Pause`, declared inline in ed.h (not under
src/), only sets `bPaused`. -/
def pause (self : Binding) : EM Bool := do
  modifyDescriptor self fun d => { d with bPaused := true }
  return true

/-- Modelled from the spec: the base class's `Resume`, declared inline in ed.h (not under
src/), only clears `bPaused`. -/
def resume (self : Binding) : EM Bool := do
  modifyDescriptor self fun d => { d with bPaused := false }
  return false

end EventableDescriptor

/-! ## Calls through an `EventableDescriptor*` -/

namespace Virtual

/-- `Pause` through a base pointer, as a proxy sink pauses its source. -/
def pause (self : Binding) : EM Bool := do
  match (← descriptor self).sub with
  | .connection _ => ConnectionDescriptor.pause self
  | _ => EventableDescriptor.pause self

/-- `Resume` through a base pointer. -/
def resume (self : Binding) : EM Bool := do
  match (← descriptor self).sub with
  | .connection _ => ConnectionDescriptor.resume self
  | _ => EventableDescriptor.resume self

end Virtual

end EventMachine

import EventMachine.Basic
import Mathlib.Data.List.Basic

/-!
# The outbound page queue of a stream

`_SendRawOutboundData` appends a page; `_WriteOutboundData` hands a prefix of the queued
bytes to the kernel and drops what the kernel took. The builds gather differently. With
`writev`, the unsent parts of up to 16 pages are passed as they are; after the call, pages
sent in full leave the queue and the first page sent in part advances its offset. Without
it, up to 16 KiB are first copied out of the queue (whole pages leave it, the last one is
cut), and what the kernel did not take is pushed back as a new front page.

Both builds send the first `w` queued bytes and keep the rest in order
(`unsentBytes_consumeSent`, `unsentBytes_requeue`): the queue is a FIFO byte stream.
-/

namespace EventMachine

/-- The two builds of `_WriteOutboundData`: with `HAVE_WRITEV`, or copying into
`output_buffer`. -/
inductive Build
  | writev
  | copy
  deriving DecidableEq, Repr

namespace OutboundPage

/-- `Length - Offset`, the `iov_len` of a page. -/
def unsentLength (p : OutboundPage) : Nat := p.length - p.offset

@[simp] theorem length_unsent (p : OutboundPage) : p.unsent.length = p.unsentLength := by
  simp [unsent, unsentLength, length]

/-- Advancing the offset drops bytes from the front of the unsent part. -/
@[simp] theorem unsent_advance (p : OutboundPage) (n : Nat) :
    ({ p with offset := p.offset + n } : OutboundPage).unsent = p.unsent.drop n := by
  simp [unsent, List.drop_drop, Nat.add_comm]

@[simp] theorem unsent_fresh (data : List Byte) : (⟨data, 0⟩ : OutboundPage).unsent = data := rfl

end OutboundPage

/-- The bytes still queued, in queue order: `Buffer[Offset, Length)` of each page. -/
def unsentBytes (pages : List OutboundPage) : List Byte :=
  (pages.map OutboundPage.unsent).flatten

@[simp] theorem unsentBytes_nil : unsentBytes [] = [] := rfl

@[simp] theorem unsentBytes_cons (p : OutboundPage) (pages : List OutboundPage) :
    unsentBytes (p :: pages) = p.unsent ++ unsentBytes pages := rfl

@[simp] theorem unsentBytes_append (pages pages' : List OutboundPage) :
    unsentBytes (pages ++ pages') = unsentBytes pages ++ unsentBytes pages' := by
  simp [unsentBytes]

/-! ## The `writev` build -/

/-- `iov[0, iovcnt)`: the unsent parts of the first 16 pages. -/
def iovecs (pages : List OutboundPage) : List (List Byte) :=
  (pages.take maxIovecs).map OutboundPage.unsent

/-- The loop after a `writev` that took `sent` bytes of the first `n` pages: a page whose
`iov_len` is at most what is left of `sent` is freed and popped; the first one that is not
advances its offset by the rest, and the loop stops. -/
def consumeSent : Nat → Nat → List OutboundPage → List OutboundPage
  | 0, _, pages => pages
  | _ + 1, _, [] => []
  | n + 1, sent, p :: pages =>
    if p.unsentLength ≤ sent then consumeSent n (sent - p.unsentLength) pages
    else { p with offset := p.offset + sent } :: pages

theorem iovecs_flatten_append (pages : List OutboundPage) :
    (iovecs pages).flatten ++ unsentBytes (pages.drop maxIovecs) = unsentBytes pages := by
  rw [iovecs, ← unsentBytes, ← unsentBytes_append, List.take_append_drop]

/-- The `writev` loop drops exactly the bytes the kernel took, as long as it took no more
than the gathered pages hold. -/
theorem unsentBytes_consumeSent (n sent : Nat) (pages : List OutboundPage)
    (h : sent ≤ (unsentBytes (pages.take n)).length) :
    unsentBytes (consumeSent n sent pages) = (unsentBytes pages).drop sent := by
  induction n, sent, pages using consumeSent.induct with
  | case1 sent pages =>
    simp only [List.take_zero, unsentBytes_nil, List.length_nil, Nat.le_zero] at h
    simp [consumeSent, h]
  | case2 n sent => simp [consumeSent]
  | case3 n sent p pages hle ih =>
    simp only [List.take_succ_cons, unsentBytes_cons, List.length_append,
      OutboundPage.length_unsent] at h
    have hsent : p.unsent.drop sent = [] := List.drop_eq_nil_of_le (by simpa using hle)
    rw [consumeSent, if_pos hle, ih (by omega), unsentBytes_cons,
      List.drop_append_eq_append_drop, hsent, OutboundPage.length_unsent, List.nil_append]
  | case4 n sent p pages hlt =>
    rw [consumeSent, if_neg hlt, unsentBytes_cons, unsentBytes_cons,
      OutboundPage.unsent_advance, List.drop_append_of_le_length (by simp; omega)]

/-! ## The copy build -/

/-- The gather loop of the copy build, with `nbytes` bytes already in `output_buffer`: a page
whose unsent part fits strictly is copied whole and popped; otherwise the free room is
copied from it, its offset advances by that much, and the buffer is full. -/
def gatherCopy (nbytes : Nat) : List OutboundPage → List Byte × List OutboundPage
  | [] => ([], [])
  | p :: pages =>
    if nbytes + p.unsentLength < outputBufferSize then
      let (buffer, rest) := gatherCopy (nbytes + p.unsentLength) pages
      (p.unsent ++ buffer, rest)
    else
      (p.unsent.take (outputBufferSize - nbytes),
        { p with offset := p.offset + (outputBufferSize - nbytes) } :: pages)

/-- The gathered bytes followed by what stays queued are the queued bytes. -/
theorem gatherCopy_append (nbytes : Nat) (pages : List OutboundPage) :
    (gatherCopy nbytes pages).1 ++ unsentBytes (gatherCopy nbytes pages).2 =
      unsentBytes pages := by
  induction pages generalizing nbytes with
  | nil => rfl
  | cons p pages ih =>
    unfold gatherCopy
    split_ifs
    · simp [ih]
    · simp only [unsentBytes_cons, OutboundPage.unsent_advance, ← List.append_assoc,
        List.take_append_drop]

/-- What the copy build queues after the kernel took `w` of the gathered `buffer`: the unsent
tail of the buffer, as a new front page, when there is one. -/
def requeue (buffer : List Byte) (w : Nat) (rest : List OutboundPage) : List OutboundPage :=
  if w < buffer.length then ⟨buffer.drop w, 0⟩ :: rest else rest

theorem unsentBytes_requeue (buffer : List Byte) (rest : List OutboundPage) {w : Nat}
    (hw : w ≤ buffer.length) :
    unsentBytes (requeue buffer w rest) = (buffer ++ unsentBytes rest).drop w := by
  unfold requeue
  split_ifs with h
  · simp [List.drop_append_of_le_length h.le]
  · obtain rfl : w = buffer.length := by omega
    simp

/-! ## Both builds -/

/-- The gather step of `_WriteOutboundData`: the bytes handed to the kernel, and the queue
left behind (the `writev` build leaves the queue as it is until the kernel answers). -/
def gather : Build → List OutboundPage → List Byte × List OutboundPage
  | .writev, pages => ((iovecs pages).flatten, pages)
  | .copy, pages => gatherCopy 0 pages

end EventMachine

import FaultChain.Document.Window
import FaultChain.Message

/-!
# Buffers keep their size

A buffer goes back to its backend with the layout that it came with, so nothing that is done to a
buffer may change its capacity.  `Buffer.Fitted` says that the capacity is still the size of the
block; it holds of a fresh buffer, and every way of filling one keeps it: a copy of bytes, a
rendered document, and a formatted message, which may be shortened afterwards.

### What is load-bearing

A buffer and its block are told apart: the block has a layout, and the buffer has bytes.  Only their
sizes are compared, and only the size of the bytes could change.  So each way of filling a buffer
comes with one fact about sizes, from the smallest change up: one byte that is put into a place, one
piece that is pushed, a document that is rendered.
-/

namespace FaultChain

namespace Memory.Buffer

/-- The block of a buffer is as large as its bytes, and is a block of bytes. -/
def Fitted (b : Buffer) : Prop :=
  b.block.layout = { size := b.capacity, align := 1 }

/-- So many zeros. -/
theorem size_zeros (n : Nat) : (zeros n).size = n :=
  Array.size_replicate

/-- A blank buffer has room for its content and a terminator, in a block that was asked for with
both. -/
theorem fitted_zeroed {block : Block} {length : Nat}
    (h : block.layout = { size := length + 1, align := 1 }) : (zeroed block length).Fitted := by
  rw [Fitted, capacity, zeroed, size_zeros]
  exact h

/-- Bytes that are replaced by as many others. -/
theorem Fitted.replace {b : Buffer} (h : b.Fitted) {whole : ByteArray}
    (hsize : whole.size = b.whole.size) : Fitted { b with whole } := by
  rw [Fitted, capacity, hsize]
  exact h

/-- What lies before the copied bytes, these bytes, and what lies behind them. -/
theorem size_copySlice (source target : ByteArray) (start n : Nat) (h : n ≤ source.size) :
    (source.copySlice 0 target start n).size =
      min start target.size + n + (target.size - (start + n)) := by
  simp only [ByteArray.copySlice_eq_append, ByteArray.size_append, ByteArray.size_extract,
    ByteArray.size_data]
  omega

/-- A write that fits changes bytes only. -/
theorem Fitted.overwrite {b : Buffer} (h : b.Fitted) {bytes : ByteArray}
    (hfits : bytes.size ≤ b.capacity) : (b.overwrite 0 bytes).Fitted :=
  h.replace <| by
    rw [capacity] at hfits
    rw [size_copySlice _ _ _ _ (Nat.le_refl _)]
    omega

/-- A shorter content is in the same bytes. -/
theorem Fitted.truncate {b : Buffer} (h : b.Fitted) (length : Nat) :
    (b.truncate length).Fitted := by
  unfold Buffer.truncate
  split
  · refine h.replace (b := { b with length }) ?_
    split
    · exact Array.size_set _
    · rfl
  · exact h

end Memory.Buffer

/-! ## Rendered documents

A document is rendered into bytes that are there, so all that has to be said is that a window never
gets longer or shorter.
-/

namespace Document

/-- A byte that is put into a place replaces one. -/
theorem Window.size_place (bytes : ByteArray) (i : Nat) (b : UInt8) :
    (Window.place bytes i b).size = bytes.size := by
  unfold Window.place
  split
  · exact Array.size_set _
  · rfl

/-- A window goes over bytes that are there. -/
theorem Window.size_push (w : Window) (piece : ByteArray) :
    (w.push piece).bytes.size = w.bytes.size := by
  unfold Window.push
  dsimp only
  split
  · rfl
  · rw [Memory.Buffer.size_copySlice _ _ _ _ (Nat.min_le_right _ _)]
    omega

/-- Rendering pieces is pushing them and a terminator. -/
theorem size_renderPieces (pieces : Array String) (bytes : ByteArray) :
    (renderPieces pieces bytes).2.size = bytes.size := by
  have hpushes : ∀ (pieces : List String) (w : Window),
      (pieces.foldl (fun w piece => w.push piece.toUTF8) w).bytes.size = w.bytes.size := by
    intro pieces
    induction pieces with
    | nil => exact fun _ => rfl
    | cons piece rest ih => exact fun w => (ih _).trans (w.size_push _)
  rw [renderPieces, Window.finish, Window.size_place, ← Array.foldl_toList, hpushes, Window.start,
    Window.size_place]

/-- Rendering fills the bytes that it is given and changes none of their number. -/
theorem size_render (reservation : Reservation) (chain : Option Chain) (bytes : ByteArray) :
    (render reservation chain bytes).2.size = bytes.size := by
  cases chain with
  | none => exact size_renderPieces _ bytes
  | some chain => exact size_renderPieces _ bytes

end Document

/-! ## Formatted messages

A message is the one buffer that is made shorter after it was filled.  What is shortened is the
content, and the bytes behind it stay part of the buffer.
-/

namespace Message

/-- What fits a room does. -/
theorem utf8ByteSize_fitting (room : Nat) (cs : List Char) :
    (String.ofList (fitting room cs)).utf8ByteSize ≤ room := by
  induction cs generalizing room with
  | nil => exact Nat.zero_le _
  | cons c cs ih =>
      unfold fitting
      split
      · next h =>
          have hrest := ih (room - c.utf8Size)
          rw [String.ofList_cons, String.utf8ByteSize_append, String.utf8ByteSize_singleton]
          omega
      · exact Nat.zero_le _

namespace Writer

/-- What is written and what is left make up the buffer. -/
theorem size_append {w : Writer} {text : String} (h : text.utf8ByteSize ≤ w.room) :
    (w.append text).written.size + (w.append text).room = w.written.size + w.room := by
  have hsize : text.toUTF8.size = text.utf8ByteSize := rfl
  simp only [append, ByteArray.size_append, hsize]
  omega

/-- A write takes as much of the room as it fills. -/
theorem size_write (w : Writer) (text : String) :
    (w.write text).1.written.size + (w.write text).1.room = w.written.size + w.room := by
  unfold write
  split
  · next h => exact size_append h
  · exact size_append (utf8ByteSize_fitting _ _)

/-- And so does a pass. -/
theorem size_run (persistent : Bool) (pass : List Action) (w : Writer) :
    (run persistent pass w).written.size + (run persistent pass w).room =
      w.written.size + w.room := by
  induction pass generalizing w with
  | nil => rfl
  | cons action rest ih =>
      cases action with
      | fail => rfl
      | write text =>
          rw [run]
          dsimp only
          split
          · exact (ih _).trans (w.size_write text)
          · exact w.size_write text

/-- A pass writes no more than there is room for. -/
theorem size_written_le (persistent : Bool) (pass : List Action) (length : Nat) :
    (run persistent pass (start length)).written.size ≤ length := by
  have hsize := size_run persistent pass (start length)
  have hstart : (start length).written.size + (start length).room = length := Nat.zero_add length
  omega

end Writer

/-- A formatted message stays in the block that was obtained for it. -/
theorem block_stored (argument : Argument) (buffer : Memory.Buffer) :
    (stored argument buffer).block = buffer.block := by
  unfold stored Memory.Buffer.truncate
  dsimp only
  split <;> rfl

/-- A formatted message keeps the capacity that was measured for it, however much of it is used. -/
theorem fitted_stored (argument : Argument) {buffer : Memory.Buffer} (h : buffer.Fitted)
    (hlength : buffer.length ≤ buffer.capacity) : (stored argument buffer).Fitted :=
  (h.overwrite (Nat.le_trans (Writer.size_written_le _ _ _) hlength)).truncate _

end Message

end FaultChain

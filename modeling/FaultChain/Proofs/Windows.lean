import FaultChain.Proofs.FrameLoop
import FaultChain.Proofs.Buffers

/-!
# What a window keeps

A document is offered to a window piece by piece, and a piece may be cut anywhere.  What a window
has become does not depend on how the document was divided: `Window.after` gives the window that was
offered given bytes, and one push leads from one such window to the next (`push_after`).  So the
bytes at the end are a prefix of the document, its terminator, and what was there before
(`renderPieces_eq`).

### What is load-bearing

`Window.push` takes differences of numbers and puts bytes into places, and neither is checked there.
`push?` is the same with every difference and every range checked; it goes wrong where one does not
exist.  In a window that was offered something it never does (`push?_after`), whatever the pieces.

### Why one description is enough

Bytes are kept while there are places left, counted ever after, and never put back.  So a window
needs no memory of how it was filled: how many bytes it was offered says how many it keeps, which
ones they are, and what it has counted.  `after` is that description, and a push is the step from
one number of bytes to a greater one.  The count stops at `greatestCount` and stays there; it is the
minimum of that number and of all that was offered (`saturatingAdd_min`), which is why it too can be
told from the number of bytes.
-/

namespace FaultChain.Document

namespace Window

/-- How many of the bytes that were offered are kept among a number of places, one of which is for
the terminator.  Where there is no place there is none for a terminator either. -/
def keeps (places offered : Nat) : Nat :=
  min (places - 1) offered

/-- The window over some bytes that was offered others.  It is told by these two alone, and not by
how the pieces were cut. -/
def after (old written : ByteArray) : Window where
  bytes := written.extract 0 (keeps old.size written.size) ++
    (place old 0 0).extract (keeps old.size written.size) old.size
  kept := keeps old.size written.size
  offered := min written.size greatestCount
  full := decide (0 < old.size ∧ old.size ≤ written.size)

/-- A byte that is put into a place leaves those before and behind it. -/
theorem place_eq {bytes : ByteArray} {i : Nat} (h : i < bytes.size) (b : UInt8) :
    place bytes i b =
      bytes.extract 0 i ++ [b].toByteArray ++ bytes.extract (i + 1) bytes.size := by
  rw [place, dif_pos h, ByteArray.set_eq_push_extract_append_extract,
    ByteArray.append_toByteArray_singleton]

/-- A window that was offered nothing. -/
theorem start_eq (old : ByteArray) : start old = after old ByteArray.empty := by
  have hnone : keeps old.size ByteArray.empty.size = 0 := Nat.min_zero _
  have hwhole : (place old 0 0).extract 0 old.size = place old 0 0 := by
    rw [← size_place old 0 0, ByteArray.extract_zero_size]
  have hopen : decide (0 < old.size ∧ old.size ≤ ByteArray.empty.size) = false :=
    decide_eq_false fun h => Nat.not_lt_of_le h.2 h.1
  rw [after, hnone, hwhole, hopen, ByteArray.extract_same, ByteArray.empty_append]
  rfl

/-- Nothing is ever written past the end of a window. -/
theorem size_after (old written : ByteArray) : (after old written).bytes.size = old.size := by
  simp only [after, ByteArray.size_append, ByteArray.size_extract, size_place, keeps]
  omega

/-- Counting goes on after a sum that was cut off as it would have without: either both stay at the
greatest number, or neither was there. -/
theorem saturatingAdd_min (m n : Nat) :
    saturatingAdd (min m greatestCount) n = min (m + n) greatestCount := by
  unfold saturatingAdd
  omega

/-- What is added behind a prefix does not show in it. -/
theorem extract_append_of_le {written : ByteArray} (piece : ByteArray) {k : Nat}
    (h : k ≤ written.size) : (written ++ piece).extract 0 k = written.extract 0 k := by
  rw [ByteArray.extract_append, Nat.sub_eq_zero_of_le h, Nat.zero_sub, ByteArray.extract_same,
    ByteArray.append_empty]

/-- What is kept beyond a whole is kept of what follows it. -/
theorem extract_append_add (written piece : ByteArray) (n : Nat) :
    (written ++ piece).extract 0 (written.size + n) = written ++ piece.extract 0 n := by
  rw [ByteArray.extract_eq_extract_append_extract written.size (Nat.zero_le _)
    (Nat.le_add_right _ _), ByteArray.extract_append_eq_left rfl]
  have hpiece := @ByteArray.extract_append_size_add written piece 0 n
  rw [Nat.add_zero] at hpiece
  rw [hpiece]

/-- A window that keeps nothing more only counts.  It was filled at some piece, and stays as it is
from there on. -/
theorem push_after_of_closed {old written : ByteArray} (piece : ByteArray)
    (hclosed : old.size ≤ written.size) :
    (after old written).push piece = after old (written ++ piece) := by
  have hstops : ((after old written).full || (after old written).bytes.size == 0) = true := by
    rw [size_after]
    simp only [after, Bool.or_eq_true, decide_eq_true_eq, beq_iff_eq]
    omega
  have hkept : keeps old.size (written ++ piece).size = keeps old.size written.size := by
    simp only [keeps, ByteArray.size_append]
    omega
  have hprefix := extract_append_of_le piece (Nat.min_le_right (old.size - 1) written.size)
  rw [push, if_pos hstops]
  dsimp only [after]
  rw [hkept, mk.injEq]
  refine ⟨congrArg (· ++ _) hprefix.symm, rfl, ?_, ?_⟩
  · rw [saturatingAdd_min, ByteArray.size_append]
  · simp only [ByteArray.size_append, decide_eq_decide]
    omega

/-- A window that was not filled yet holds everything, and then what was there before. -/
theorem after_of_open {old written : ByteArray} (hopen : written.size < old.size) :
    after old written =
      { bytes := written ++ (place old 0 0).extract written.size old.size
        kept := written.size
        offered := min written.size greatestCount
        full := false } := by
  have hkept : keeps old.size written.size = written.size :=
    Nat.min_eq_right (Nat.le_sub_one_of_lt hopen)
  have hroom : ¬(0 < old.size ∧ old.size ≤ written.size) := fun h => Nat.not_lt_of_le h.2 hopen
  rw [after, hkept, ByteArray.extract_zero_size, decide_eq_false hroom]

/-- A window that was not filled yet takes as much of a piece as there are places for. -/
theorem push_after_of_open {old written : ByteArray} (piece : ByteArray)
    (hopen : written.size < old.size) :
    (after old written).push piece = after old (written ++ piece) := by
  have hsize : (written ++ (place old 0 0).extract written.size old.size).size = old.size := by
    rw [ByteArray.size_append, ByteArray.size_extract, size_place]
    omega
  have hgoes : ¬(false || old.size == 0) = true := by
    rw [Bool.false_or, beq_iff_eq]
    omega
  have hmore : keeps old.size (written ++ piece).size =
      written.size + min (old.size - 1 - written.size) piece.size := by
    rw [keeps, ByteArray.size_append]
    omega
  rw [after_of_open hopen, push]
  dsimp only
  rw [hsize, if_neg hgoes, after, hmore, mk.injEq]
  generalize hn : min (old.size - 1 - written.size) piece.size = n
  refine ⟨?_, rfl, ?_, ?_⟩
  · -- What was kept is followed by what the piece adds, and by the places that are left.
    have hadded : min n (piece.data.size - 0) = n := by
      rw [ByteArray.size_data]
      omega
    have hall : (written ++ (place old 0 0).extract written.size old.size).data.size =
        written.size + (old.size - written.size) := by
      rw [ByteArray.size_data, hsize]
      omega
    have hend : min (written.size + (old.size - written.size)) old.size = old.size := by
      omega
    rw [ByteArray.copySlice_eq_append, ByteArray.extract_append_eq_left rfl, extract_append_add,
      Nat.zero_add, hadded, hall, ByteArray.extract_append_size_add, ByteArray.extract_extract,
      hend]
  · rw [saturatingAdd_min, ByteArray.size_append]
  · rw [ByteArray.size_append, decide_eq_decide]
    omega

/-- **A push** leads from the window that was offered some bytes to the one that was offered a piece
more. -/
theorem push_after (old written piece : ByteArray) :
    (after old written).push piece = after old (written ++ piece) := by
  rcases Nat.lt_or_ge written.size old.size with hopen | hclosed
  · exact push_after_of_open piece hopen
  · exact push_after_of_closed piece hclosed

/-- **Any pushes in turn** come to one push of all their bytes. -/
theorem pushes_after (old : ByteArray) (pieces : List ByteArray) (written : ByteArray) :
    pieces.foldl push (after old written) = after old (pieces.foldl (· ++ ·) written) := by
  induction pieces generalizing written with
  | nil => rfl
  | cons piece rest ih => rw [List.foldl_cons, push_after, ih, List.foldl_cons]

/-- What is left behind of some bytes when as much of others is kept as there is room for. -/
def remains (old written : ByteArray) : ByteArray :=
  if old.size = 0 then old
  else written.extract 0 (keeps old.size written.size) ++ [0].toByteArray ++
    old.extract (keeps old.size written.size + 1) old.size

/-- The first place of a window was changed before anything was offered, which does not show behind
it. -/
theorem extract_place_zero (old : ByteArray) (k : Nat) :
    (place old 0 0).extract (k + 1) old.size = old.extract (k + 1) old.size := by
  rcases Nat.eq_zero_or_pos old.size with hnone | hpos
  · rw [place, dif_neg (by omega)]
  · have hfirst : (old.extract 0 0 ++ [(0 : UInt8)].toByteArray).size = 1 := by
      rw [ByteArray.extract_same, ByteArray.empty_append]
      rfl
    have hall : 1 + (old.size - 1) = old.size := by omega
    have hskip := @ByteArray.extract_append_size_add' _ (old.extract 1 old.size) k (old.size - 1) 1
      hfirst.symm
    rw [ByteArray.extract_extract, hall, Nat.min_self] at hskip
    rw [place_eq hpos, Nat.zero_add, Nat.add_comm k 1, hskip]

/-- **At the end** a window has counted what it was offered and the terminator, and holds a prefix,
the terminator, and what was there before.  This is all that rendering does to the bytes it is
given. -/
theorem finish_after (old written : ByteArray) :
    (after old written).finish = (min (written.size + 1) greatestCount, remains old written) := by
  rw [finish, size_after]
  refine Prod.ext (saturatingAdd_min written.size 1) ?_
  dsimp only
  rcases Nat.eq_zero_or_pos old.size with hnone | hpos
  · have hempty : (after old written).bytes = old :=
      (ByteArray.size_eq_zero_iff.1 ((size_after old written).trans hnone)).trans
        (ByteArray.size_eq_zero_iff.1 hnone).symm
    rw [remains, if_pos hnone, place, dif_neg (by rw [size_after]; omega), hempty]
  · have hkept : min (after old written).kept (old.size - 1) = keeps old.size written.size :=
      Nat.min_eq_left (Nat.min_le_left _ _)
    have hplace : keeps old.size written.size < old.size :=
      Nat.lt_of_le_of_lt (Nat.min_le_left _ _) (Nat.sub_one_lt_of_lt hpos)
    have hprefix : (written.extract 0 (keeps old.size written.size)).size =
        keeps old.size written.size := by
      rw [ByteArray.size_extract, keeps]
      omega
    have hall : keeps old.size written.size + (old.size - keeps old.size written.size) =
        old.size := by
      omega
    have hskip := @ByteArray.extract_append_size_add'
      (written.extract 0 (keeps old.size written.size))
      ((place old 0 0).extract (keeps old.size written.size) old.size) 1
      (old.size - keeps old.size written.size) _ hprefix.symm
    rw [ByteArray.extract_extract, hall, Nat.min_self, extract_place_zero] at hskip
    have hfront : (after old written).bytes.extract 0 (keeps old.size written.size) =
        written.extract 0 (keeps old.size written.size) := by
      rw [after, ByteArray.extract_append_eq_left hprefix.symm]
    have hback : (after old written).bytes.extract (keeps old.size written.size + 1) old.size =
        old.extract (keeps old.size written.size + 1) old.size := by
      rw [after]
      exact hskip
    rw [hkept, place_eq (by rwa [size_after]), size_after, hfront, hback, remains,
      if_neg (Nat.ne_of_gt hpos)]

end Window

/-! ## Every access checked

The same window with every difference and every range asked for.  Where one does not exist the
result is nothing, and what is shown is that there is always a result.
-/

/-- A difference, if it is not below zero. -/
def sub? (m n : Nat) : Option Nat :=
  if n ≤ m then some (m - n) else none

/-- The bytes of a range, if it is one of these bytes. -/
def slice? (bytes : ByteArray) (start stop : Nat) : Option ByteArray :=
  if start ≤ stop ∧ stop ≤ bytes.size then some (bytes.extract start stop) else none

/-- The bytes with others put over a range, if it is one of these bytes and as long as the
others. -/
def fill? (bytes : ByteArray) (start stop : Nat) (others : ByteArray) : Option ByteArray :=
  if start ≤ stop ∧ stop ≤ bytes.size ∧ others.size = stop - start then
    some (bytes.extract 0 start ++ others ++ bytes.extract stop bytes.size)
  else none

/-- The bytes with one of them replaced, if it is there. -/
def set? (bytes : ByteArray) (i : Nat) (b : UInt8) : Option ByteArray :=
  if h : i < bytes.size then some (bytes.set i b h) else none

namespace Window

/-- Offers a piece; nothing where a difference or a range does not exist.  The ranges are those that
`push` takes without asking. -/
def push? (w : Window) (piece : ByteArray) : Option Window :=
  if piece.size = 0 then some w
  else
    let offered := saturatingAdd w.offered piece.size
    if w.full || w.bytes.size == 0 then some { w with offered }
    else do
      let places ← sub? w.bytes.size 1
      let room ← sub? places w.kept
      let n := min room piece.size
      let bytes ← fill? w.bytes w.kept (w.kept + n) (← slice? piece 0 n)
      return { bytes, kept := w.kept + n, offered, full := w.full || decide (n < piece.size) }

/-- Puts the terminator behind what was kept; nothing where its place is not there. -/
def finish? (w : Window) : Option (Nat × ByteArray) :=
  if w.bytes.size = 0 then some (saturatingAdd w.offered 1, w.bytes)
  else do
    let last ← sub? w.bytes.size 1
    let bytes ← set? w.bytes (min w.kept last) 0
    return (saturatingAdd w.offered 1, bytes)

/-- A push into a window that keeps no more than it has places for does not go wrong. -/
theorem push?_of_kept_le {w : Window} (h : w.kept ≤ w.bytes.size - 1) {piece : ByteArray}
    (hpiece : piece.size ≠ 0) : w.push? piece = some (w.push piece) := by
  rw [push?, if_neg hpiece, push]
  split
  · rfl
  next hgoes =>
  obtain ⟨hopen, hplaces⟩ : w.full = false ∧ w.bytes.size ≠ 0 := by
    rw [Bool.or_eq_true, beq_iff_eq, not_or, Bool.not_eq_true] at hgoes
    exact hgoes
  let n := min (w.bytes.size - 1 - w.kept) piece.size
  have hn : n ≤ w.bytes.size - 1 - w.kept ∧ n ≤ piece.size :=
    ⟨Nat.min_le_left _ _, Nat.min_le_right _ _⟩
  have hplace : sub? w.bytes.size 1 = some (w.bytes.size - 1) := if_pos (by omega)
  have hroom : sub? (w.bytes.size - 1) w.kept = some (w.bytes.size - 1 - w.kept) := if_pos h
  have hslice : slice? piece 0 n = some (piece.extract 0 n) := if_pos ⟨Nat.zero_le _, hn.2⟩
  have hfill : fill? w.bytes w.kept (w.kept + n) (piece.extract 0 n) =
      some (piece.copySlice 0 w.bytes w.kept n) := by
    have hrange : w.kept ≤ w.kept + n ∧ w.kept + n ≤ w.bytes.size ∧
        (piece.extract 0 n).size = w.kept + n - w.kept := by
      rw [ByteArray.size_extract]
      omega
    have hadded : min n (piece.data.size - 0) = n := by
      rw [ByteArray.size_data]
      omega
    rw [fill?, if_pos hrange, ByteArray.copySlice_eq_append, hadded, Nat.zero_add,
      ByteArray.size_data]
  simp only [hplace, hroom, hslice, hfill, hopen, n, Option.bind_eq_bind, Option.bind_some,
    Option.pure_def, Bool.false_or]

/-- **A push never goes wrong** in a window that was offered something before. -/
theorem push?_after (old written piece : ByteArray) :
    (after old written).push? piece = some (after old (written ++ piece)) := by
  by_cases hpiece : piece.size = 0
  · rw [push?, if_pos hpiece, ByteArray.size_eq_zero_iff.1 hpiece, ByteArray.append_empty]
  · rw [push?_of_kept_le _ hpiece, push_after]
    rw [size_after]
    exact Nat.min_le_left _ _

/-- Nor do any pushes in turn. -/
theorem pushes?_after (old : ByteArray) (pieces : List ByteArray) (written : ByteArray) :
    pieces.foldlM push? (after old written) = some (after old (pieces.foldl (· ++ ·) written)) := by
  induction pieces generalizing written with
  | nil => rfl
  | cons piece rest ih =>
      rw [List.foldlM_cons, push?_after, List.foldl_cons]
      exact ih (written ++ piece)

/-- The terminator has a place in every window that has places. -/
theorem finish?_after (old written : ByteArray) :
    (after old written).finish? = some (after old written).finish := by
  rw [finish?, finish]
  split
  · next hnone =>
      rw [place, dif_neg (by omega)]
  · next hplaces =>
      have hplace :
          sub? (after old written).bytes.size 1 = some ((after old written).bytes.size - 1) :=
        if_pos (by omega)
      have hlast : min (after old written).kept ((after old written).bytes.size - 1) <
          (after old written).bytes.size := by
        omega
      simp only [hplace, set?, place, dif_pos hlast, Option.bind_eq_bind, Option.bind_some,
        Option.pure_def]

end Window

/-- What rendering some pieces comes to, as one prefix of their text. -/
theorem renderPieces_eq (pieces : Array String) (bytes : ByteArray) :
    renderPieces pieces bytes =
      (min ((String.join pieces.toList).utf8ByteSize + 1) greatestCount,
        Window.remains bytes (String.join pieces.toList).toUTF8) := by
  have hjoin : ∀ (pieces : List String) (written : ByteArray),
      (pieces.map String.toUTF8).foldl (· ++ ·) written =
        written ++ (String.join pieces).toUTF8 := by
    intro pieces
    induction pieces with
    | nil => exact fun written => ByteArray.append_empty.symm
    | cons piece rest ih =>
        intro written
        rw [List.map_cons, List.foldl_cons, ih, String.join_cons, ByteArray.append_assoc]
        simp only [String.toUTF8_eq_toByteArray, String.toByteArray_append]
  have hpushes := Window.pushes_after bytes (pieces.toList.map String.toUTF8) ByteArray.empty
  rw [hjoin, ByteArray.empty_append, List.foldl_map, ← Window.start_eq] at hpushes
  rw [renderPieces, ← Array.foldl_toList, hpushes, Window.finish_after]
  rfl

end FaultChain.Document

import FaultChain.Proofs.Copies

/-!
# Buffers from request to return

A buffer is obtained for a length of content, blank or as a copy of some bytes.  After that its
content is written and shortened in any order, and writes may also go anywhere in the block.
`Memory.Edit` says what may be done to a buffer, and `Memory.buffer_of_edits` what holds of it
whatever was done: its capacity is the one that it was obtained with, and its length no more than
that less one, so the buffer goes back with the layout that was asked for.

### What is load-bearing

`Buffer.Made` is kept by every edit, since none of them changes the size of the block.  The
terminator is another matter, as a write may go over it: it is kept by the edits that stay inside
the content (`Buffer.Terminated.edit`).

### Any rule, any length

What a backend refuses is up to its rule, of which nothing is assumed: it may grant a block of any
size that a layout can have, up to `Layout.greatestSize`.  So nothing here depends on how large a
length of content is.  Where the length and the terminator are more than a layout can have, no
request is made at all; everywhere else exactly one is, and what is said of a granted one is said of
any length.
-/

namespace FaultChain.Memory

/-- What is done to a buffer while it is in use. -/
inductive Edit
  | truncate (length : Nat)
  | writeContent (start : Nat) (bytes : ByteArray)
  | writeWhole (start : Nat) (bytes : ByteArray)

/-- Whether an edit leaves the terminator alone, or puts a new one.  A write into the whole block
may go over it. -/
def Edit.sparesEnd : Edit → Bool
  | truncate _ | writeContent _ _ => true
  | writeWhole _ _ => false

/-- What a buffer is obtained for: a length of content, or a copy of some bytes. -/
inductive Filling
  | blank (length : Nat)
  | copy (bytes : ByteArray)

namespace Filling

/-- The length of the content. -/
def length : Filling → Nat
  | blank length => length
  | copy bytes => bytes.size

/-- The content at first. -/
def content : Filling → ByteArray
  | blank length => Buffer.zeros length
  | copy bytes => bytes

end Filling

/-- Asks a backend for a buffer. -/
def Backend.obtain (b : Backend) : Filling → Backend × Option Buffer
  | .blank length => b.requestBuffer length
  | .copy bytes => b.requestCopy bytes

namespace Buffer

/-- One edit.  A write that does not fit is not made. -/
def edit (b : Buffer) : Edit → Buffer
  | .truncate length => b.truncate length
  | .writeContent start bytes => (b.writeContent? start bytes).getD b
  | .writeWhole start bytes => (b.writeWhole? start bytes).getD b

/-- Edits one after another. -/
def edits (b : Buffer) (edits : List Edit) : Buffer :=
  edits.foldl edit b

/-! ## Places

What a write does to single bytes of the block.
-/

section Places

variable {b : Buffer} {start i : Nat} {bytes : ByteArray}

/-- A write that fits leaves the block as large as it was. -/
theorem capacity_overwrite (h : start + bytes.size ≤ b.capacity) :
    (b.overwrite start bytes).capacity = b.capacity := by
  unfold capacity overwrite at *
  dsimp only
  rw [size_copySlice _ _ _ _ (Nat.le_refl _)]
  omega

/-- A write is seen where it went and nowhere else. -/
theorem getElem?_overwrite (h : start + bytes.size ≤ b.capacity) (i : Nat) :
    (b.overwrite start bytes).whole[i]? =
      if start ≤ i ∧ i < start + bytes.size then bytes[i - start]? else b.whole[i]? := by
  have hsize : bytes.data.size = bytes.size := rfl
  have hwhole : b.whole.data.size = b.capacity := rfl
  have hstart : min start b.capacity = start := Nat.min_eq_left (by omega)
  show (b.overwrite start bytes).whole.data[i]? =
    if start ≤ i ∧ i < start + bytes.size then bytes.data[i - start]? else b.whole.data[i]?
  unfold overwrite
  dsimp only
  rw [ByteArray.copySlice_eq_append]
  simp only [ByteArray.data_append, ByteArray.data_extract, Array.getElem?_append,
    Array.getElem?_extract, Array.size_append, Array.size_extract, hsize, hwhole, hstart,
    Nat.zero_add, Nat.sub_zero, Nat.min_self]
  rcases Nat.lt_or_ge i start with hbefore | hfrom
  · rw [if_pos (by omega), if_pos hbefore, if_pos hbefore, if_neg (by omega)]
  rcases Nat.lt_or_ge i (start + bytes.size) with hinside | hbehind
  · rw [if_pos hinside, if_neg (by omega), if_pos (by omega), if_pos ⟨hfrom, hinside⟩]
  have hout : ¬(start ≤ i ∧ i < start + bytes.size) := fun hin =>
    absurd hin.2 (Nat.not_lt.2 hbehind)
  rw [if_neg (Nat.not_lt.2 hbehind), if_neg hout]
  rcases Nat.lt_or_ge i b.capacity with hthere | hnot
  · rw [if_pos (Nat.sub_lt_sub_right hbehind hthere), Nat.add_sub_cancel' hbehind]
  · rw [if_neg (by omega), Array.getElem?_eq_none hnot]

/-! ### Shortening

A shorter length with a terminator behind it, and nothing at all if the length is not shorter.
-/

/-- Shortening does not make the block smaller: what is behind the new end is still there. -/
theorem capacity_truncate (b : Buffer) (length : Nat) :
    (b.truncate length).capacity = b.capacity := by
  unfold capacity truncate
  split
  · dsimp only
    split
    · exact Array.size_set _
    · rfl
  · rfl

/-- The content never grows. -/
theorem length_truncate (b : Buffer) (length : Nat) :
    (b.truncate length).length = min length b.length := by
  unfold truncate
  split
  · next hlt => exact (Nat.min_eq_left (Nat.le_of_lt hlt)).symm
  · next hle => exact (Nat.min_eq_right (Nat.le_of_not_lt hle)).symm

/-- The terminator is all that is written. -/
theorem getElem?_truncate (hroom : b.length < b.capacity) (length i : Nat) :
    (b.truncate length).whole[i]? =
      if length < b.length ∧ i = length then some 0 else b.whole[i]? := by
  unfold truncate
  by_cases hlt : length < b.length
  · have hplace : length < b.whole.size := Nat.lt_trans hlt hroom
    rw [if_pos hlt]
    dsimp only
    rw [dif_pos hplace]
    show (b.whole.data.set length 0 hplace)[i]? = _
    rw [Array.getElem?_set]
    by_cases hi : length = i
    · rw [if_pos hi, if_pos ⟨hlt, hi.symm⟩]
    · rw [if_neg hi, if_neg fun h => hi h.2.symm]
      rfl
  · rw [if_neg hlt, if_neg fun h => hlt h.1]

/-- The content is kept as far as it goes. -/
theorem content_truncate (b : Buffer) (length : Nat) :
    (b.truncate length).content = b.content.extract 0 length := by
  unfold truncate content
  rw [ByteArray.extract_extract, Nat.zero_add, Nat.zero_add]
  split
  · next hlt =>
      rw [Nat.min_eq_left (Nat.le_of_lt hlt)]
      dsimp only
      split
      · next hplace =>
          have hfront : (b.whole.extract 0 length).size = length := by
            rw [ByteArray.size_extract]
            omega
          rw [ByteArray.set_eq_push_extract_append_extract,
            ← ByteArray.append_toByteArray_singleton, ByteArray.append_assoc,
            ByteArray.extract_append_eq_left hfront.symm]
      · rfl
  · next hle => rw [Nat.min_eq_right (Nat.le_of_not_lt hle)]

end Places

/-! ## What edits keep

The block is kept by any edit, and the terminator by those that do not go over it.  So there are two
invariants, and each is kept along a list of edits by the same induction.
-/

/-- **A buffer that was made for a length of content**, in a block that has room for it and for a
terminator.  No edit changes the block or its size. -/
structure Made (length : Nat) (block : Block) (b : Buffer) : Prop where
  block : b.block = block
  capacity : b.capacity = length + 1
  length : b.length ≤ length

/-- The place behind the content holds a terminator. -/
def Terminated (b : Buffer) : Prop :=
  b.whole[b.length]? = some 0

section Edits

variable {b : Buffer} {n : Nat} {block : Block}

/-- There is always a place behind the content. -/
theorem Made.room (h : Made n block b) : b.length < b.capacity := by
  rw [h.capacity]
  exact Nat.lt_succ_of_le h.length

/-- A write that fits changes bytes only. -/
theorem Made.overwrite (h : Made n block b) {start : Nat} {bytes : ByteArray}
    (hfits : start + bytes.size ≤ b.capacity) : Made n block (b.overwrite start bytes) where
  block := h.block
  capacity := (capacity_overwrite hfits).trans h.capacity
  length := h.length

/-- **One edit** leaves the block as large as it was, and the content no longer. -/
theorem Made.edit (h : Made n block b) (edit : Edit) : Made n block (b.edit edit) := by
  cases edit with
  | truncate length =>
      constructor
      case block =>
        rw [← h.block, Buffer.edit, Buffer.truncate]
        split <;> rfl
      case capacity => exact (capacity_truncate b length).trans h.capacity
      case length =>
        rw [Buffer.edit, length_truncate]
        exact Nat.le_trans (Nat.min_le_right _ _) h.length
  | writeContent start bytes =>
      rw [Buffer.edit, writeContent?]
      split
      · next hfits => exact h.overwrite (Nat.le_trans hfits (Nat.le_of_lt h.room))
      · exact h
  | writeWhole start bytes =>
      rw [Buffer.edit, writeWhole?]
      split
      · next hfits => exact h.overwrite hfits
      · exact h

/-- **An edit that stays inside the content** leaves the terminator behind it. -/
theorem Terminated.edit (hb : b.Terminated) (h : Made n block b) {edit : Edit}
    (hspares : edit.sparesEnd = true) : (b.edit edit).Terminated := by
  unfold Terminated at *
  cases edit with
  | truncate length =>
      rw [Buffer.edit, getElem?_truncate h.room, length_truncate]
      split
      · rfl
      · next hkept =>
          -- The content was not shortened, so the terminator is where it was.
          have hle : b.length ≤ length := by omega
          rwa [Nat.min_eq_right hle]
  | writeContent start bytes =>
      rw [Buffer.edit, writeContent?]
      split
      · next hfits =>
          show (b.overwrite start bytes).whole[b.length]? = some 0
          rw [getElem?_overwrite (Nat.le_trans hfits (Nat.le_of_lt h.room)),
            if_neg fun hin => absurd hin.2 (Nat.not_lt.2 hfits), hb]
      · exact hb
  | writeWhole start bytes => cases hspares

/-- **Any edits.** -/
theorem Made.edits (h : Made n block b) (es : List Edit) : Made n block (b.edits es) := by
  induction es generalizing b with
  | nil => exact h
  | cons edit rest ih => exact ih (h.edit edit)

/-- So does any number of them. -/
theorem Terminated.edits (hb : b.Terminated) (h : Made n block b) {es : List Edit}
    (hspare : ∀ edit ∈ es, edit.sparesEnd = true) : (b.edits es).Terminated := by
  induction es generalizing b with
  | nil => exact hb
  | cons edit rest ih =>
      exact ih (hb.edit h (hspare edit List.mem_cons_self)) (h.edit edit)
        fun edit' hmem => hspare edit' (List.mem_cons_of_mem edit hmem)

end Edits

/-! ## Buffers at first

A buffer begins blank, and a copy is a blank one that was written into.  So whatever is known of
edits is known of how a copy is made.
-/

section Fresh

variable (block : Block)

/-- A blank buffer is made for its length. -/
theorem made_zeroed (length : Nat) : Made length block (zeroed block length) where
  block := rfl
  capacity := size_zeros (length + 1)
  length := Nat.le_refl length

/-- It is zero behind its content as well. -/
theorem terminated_zeroed (length : Nat) : (zeroed block length).Terminated := by
  show (Array.replicate (length + 1) (0 : UInt8))[length]? = some 0
  rw [Array.getElem?_replicate, if_pos length.lt_succ_self]

/-- And its content is zeros. -/
theorem content_zeroed (length : Nat) : (zeroed block length).content = zeros length := by
  show (zeros (length + 1)).extract 0 length = zeros length
  rw [← Message.zeros_append, ByteArray.extract_append_eq_left (size_zeros length).symm]

/-- A copy holds what was copied. -/
theorem content_filled (bytes : ByteArray) :
    ((zeroed block bytes.size).overwrite 0 bytes).content = bytes := by
  show ((zeroed block bytes.size).overwrite 0 bytes).whole.extract 0 bytes.size = bytes
  rw [whole_filled, ← append_zeros_one, ByteArray.extract_append_eq_left rfl]

/-- A copy is a blank buffer into whose content the bytes were written. -/
theorem edit_zeroed (bytes : ByteArray) :
    (zeroed block bytes.size).edit (.writeContent 0 bytes) =
      (zeroed block bytes.size).overwrite 0 bytes := by
  have hfits : 0 + bytes.size ≤ (zeroed block bytes.size).length := Nat.le_of_eq (Nat.zero_add _)
  rw [edit, writeContent?, if_pos hfits, Option.getD_some]

end Fresh

end Buffer

/-! ## From request to return

One request with the size of the content and a terminator, and one block that goes back with that
size.
-/

namespace Backend

section Obtaining

variable {b : Backend} {n : Nat} {buffer : Buffer}

/-- A request is counted, whatever comes of it. -/
theorem asked_request (b : Backend) (layout : Layout) :
    (b.request layout).1.asked = layout :: b.asked :=
  asked_settle b.enter.1 b.enter.1.requests layout

/-- A block that is handed out has the next number and the layout that was asked for. -/
theorem request_eq_some {layout : Layout} {block : Block}
    (h : (b.request layout).2 = some block) :
    block = { serial := b.requests + 1, layout } ∧
      (b.request layout).1.history = .granted block :: b.history := by
  change (b.enter.1.settle (b.requests + 1) layout).2 = some block at h
  show _ ∧ (b.enter.1.settle (b.requests + 1) layout).1.history = _
  unfold settle at *
  split at h
  · cases h
  · next hgranted =>
      obtain rfl := Option.some.inj h
      rw [if_neg hgranted]
      exact ⟨rfl, rfl⟩

/-- Content that leaves room for a terminator is asked for with one byte more. -/
theorem requestBuffer_of_le (h : n + 1 ≤ Layout.greatestSize) :
    b.requestBuffer n =
      ((b.request { size := n + 1, align := 1 }).1,
        (b.request { size := n + 1, align := 1 }).2.map (.zeroed · n)) := by
  rw [requestBuffer, Layout.buffer?_eq_some_iff.2 ⟨h, rfl⟩]
  dsimp only
  rcases b.request { size := n + 1, align := 1 } with ⟨b', _ | block⟩ <;> rfl

/-- Content that does not is not asked for. -/
theorem requestBuffer_of_lt (h : Layout.greatestSize < n + 1) :
    b.requestBuffer n = (b, none) := by
  rw [requestBuffer, Layout.buffer?, if_neg (Nat.not_le_of_lt h)]

/-- A copy is asked for as a blank buffer of its size is. -/
theorem requestCopy_eq (b : Backend) (bytes : ByteArray) :
    b.requestCopy bytes =
      ((b.requestBuffer bytes.size).1,
        (b.requestBuffer bytes.size).2.map (·.overwrite 0 bytes)) := by
  rw [requestCopy]
  rcases b.requestBuffer bytes.size with ⟨b', _ | buffer⟩ <;> rfl

/-- Whatever a buffer is obtained for, its length decides what is asked for. -/
theorem obtain_eq (b : Backend) (filling : Filling) :
    (b.obtain filling).1 = (b.requestBuffer filling.length).1 ∧
      ((b.obtain filling).2 = none ↔ (b.requestBuffer filling.length).2 = none) := by
  cases filling with
  | blank length => exact ⟨rfl, Iff.rfl⟩
  | copy bytes =>
      rw [obtain, requestCopy_eq]
      exact ⟨rfl, Option.map_eq_none_iff⟩

/-- **A buffer that is handed out** was asked for in its length, and holds what it was asked for. -/
theorem made_of_obtain {filling : Filling} (h : (b.obtain filling).2 = some buffer) :
    buffer.block = {
        serial := b.requests + 1
        layout := { size := filling.length + 1, align := 1 } } ∧
      (b.obtain filling).1.history = .granted buffer.block :: b.history ∧
      buffer.Made filling.length buffer.block ∧ buffer.Terminated ∧
      buffer.length = filling.length ∧ buffer.content = filling.content := by
  rcases Nat.lt_or_ge Layout.greatestSize (filling.length + 1) with hlong | hfits
  · have hnone := (b.obtain_eq filling).2.2 (congrArg Prod.snd (requestBuffer_of_lt hlong))
    cases hnone.symm.trans h
  -- Either way a blank buffer is asked for, and the request is that of its length.
  have hblank : ∀ {blank}, (b.requestBuffer filling.length).2 = some blank →
      ∃ block, blank = .zeroed block filling.length ∧
        block = {
          serial := b.requests + 1
          layout := { size := filling.length + 1, align := 1 } } ∧
        (b.obtain filling).1.history = .granted block :: b.history := by
    intro blank hblank
    rw [(b.obtain_eq filling).1]
    rw [requestBuffer_of_le hfits] at hblank ⊢
    obtain ⟨block, hblock, rfl⟩ := Option.map_eq_some_iff.1 hblank
    obtain ⟨hnumber, hhistory⟩ := request_eq_some hblock
    exact ⟨block, rfl, hnumber, hhistory⟩
  cases filling with
  | blank length =>
      obtain ⟨block, rfl, hnumber, hhistory⟩ := hblank h
      exact ⟨hnumber, hhistory, Buffer.made_zeroed block length,
        Buffer.terminated_zeroed block length, rfl, Buffer.content_zeroed block length⟩
  | copy bytes =>
      rw [obtain, requestCopy_eq] at h
      obtain ⟨blank, hget, rfl⟩ := Option.map_eq_some_iff.1 h
      obtain ⟨block, rfl, hnumber, hhistory⟩ := hblank hget
      have hmade := Buffer.made_zeroed block bytes.size
      have hedit := Buffer.edit_zeroed block bytes
      have hspares : (Edit.writeContent 0 bytes).sparesEnd = true := rfl
      have hterminated := (Buffer.terminated_zeroed block bytes.size).edit hmade hspares
      have hmade' := hmade.edit (.writeContent 0 bytes)
      rw [hedit] at hterminated hmade'
      exact ⟨hnumber, hhistory, hmade', hterminated, rfl, Buffer.content_filled block bytes⟩

end Obtaining

end Backend

/-- **A buffer is what was asked for, from its request to its return.** For every backend, and every
length of content or bytes to be copied:

* one request is made, for one byte more with alignment one, unless no block is that large, and then
  none is made; without an answer to it there is no buffer, and only then;
* the buffer lives in the block that was handed out, and has this content at first;
* whatever is done to it then, the capacity is that of the request and the content no longer than it
  was, so that it can be shortened to any length without going beyond its bytes: this gives the
  shorter of the two lengths, and the content is kept as far as it goes;
* as long as no write went beyond the content, a terminator follows it;
* the buffer goes back to any backend as the block that was handed out, with the layout of the
  request. -/
theorem buffer_of_edits (backend : Backend) (filling : Filling) :
    let n := filling.length
    let layout : Layout := { size := n + 1, align := 1 }
    (backend.obtain filling).1.asked =
      (if n + 1 ≤ 2 ^ 63 - 1 then [layout] else []) ++ backend.asked ∧
    ((backend.obtain filling).2 = none ↔
      2 ^ 63 - 1 < n + 1 ∨ backend.refuses (backend.requests + 1) layout = true) ∧
    ∀ buffer, (backend.obtain filling).2 = some buffer →
      (backend.obtain filling).1.history = .granted buffer.block :: backend.history ∧
      buffer.block.layout = layout ∧ buffer.length = n ∧ buffer.content = filling.content ∧
      ∀ edits : List Edit,
        let b := buffer.edits edits
        b.length ≤ n ∧ b.capacity = n + 1 ∧
        (∀ length, (length < b.length → length < b.whole.size) ∧
          (b.truncate length).length = min length b.length ∧
          (b.truncate length).content = b.content.extract 0 length) ∧
        ((∀ edit ∈ edits, edit.sparesEnd = true) → b.whole[b.length]? = some 0) ∧
        ∀ later : Backend, (later.freeBuffer b).history = .freed buffer.block :: later.history := by
  intro n layout
  have hgreatest : Layout.greatestSize = 2 ^ 63 - 1 := by decide
  obtain ⟨hsame, hnone⟩ := backend.obtain_eq filling
  rw [hsame, hnone, ← hgreatest]
  refine ⟨?_, ?_, fun buffer hbuffer => ?_⟩
  -- What is asked for, and when nothing is.
  · split
    · next hfits =>
        rw [Backend.requestBuffer_of_le hfits]
        exact backend.asked_request layout
    · next hlong =>
        rw [Backend.requestBuffer_of_lt (Nat.lt_of_not_le hlong)]
        rfl
  · rcases Nat.lt_or_ge Layout.greatestSize (n + 1) with hlong | hfits
    · rw [Backend.requestBuffer_of_lt hlong]
      exact ⟨fun _ => .inl hlong, fun _ => rfl⟩
    · rw [Backend.requestBuffer_of_le hfits, Option.map_eq_none_iff, Backend.request_eq_none_iff,
        or_iff_right (Nat.not_lt.2 hfits)]
  -- A buffer that was handed out is made for its length, which every edit keeps.
  · obtain ⟨hblock, hhistory, hmade, hterminated, hlength, hcontent⟩ :=
      Backend.made_of_obtain hbuffer
    rw [hsame] at hhistory
    refine ⟨hhistory, by rw [hblock], hlength, hcontent, fun edits => ?_⟩
    intro b
    have hb : b.Made n buffer.block := hmade.edits edits
    refine ⟨hb.length, hb.capacity, fun length => ⟨fun hlt => ?_, b.length_truncate length,
      b.content_truncate length⟩, fun hspare => hterminated.edits hmade hspare, fun later => ?_⟩
    · exact Nat.lt_trans hlt hb.room
    · rw [← hb.block]
      rfl

/-- Edits to try it on: a write into the content and one that does not fit there, a length that is
shorter and one that is not. -/
def sampleEdits : List Edit :=
  [.writeContent 1 "a".toUTF8, .truncate 3, .truncate 9, .writeContent 2 "no".toUTF8]

/-- A copy that is edited in all these ways is still terminated, and goes back as it came; and a
backend that refuses nothing hands out the longest buffer that there is. -/
theorem buffer_of_sampleEdits :
    (∃ buffer, (({} : Backend).obtain (.copy "hello".toUTF8)).2 = some buffer ∧
      (∀ edit ∈ sampleEdits, edit.sparesEnd = true) ∧
      let b := buffer.edits sampleEdits
      b.content = "hal".toUTF8 ∧ b.capacity = 6 ∧ b.whole[3]? = some 0 ∧
      (({} : Backend).freeBuffer b).history = [.freed buffer.block] ∧
      buffer.block.layout = { size := 6, align := 1 }) ∧
    ∃ buffer,
      (({ rule := fun _ _ => false } : Backend).obtain (.blank (2 ^ 63 - 2))).2 = some buffer ∧
      ∀ edits : List Edit, (buffer.edits edits).capacity = 2 ^ 63 - 1 := by
  refine ⟨?_, ?_⟩
  · obtain ⟨-, -, h⟩ := buffer_of_edits {} (.copy "hello".toUTF8)
    have hspare : ∀ edit ∈ sampleEdits, edit.sparesEnd = true := by
      simp [sampleEdits, Edit.sparesEnd]
    let buffer : Buffer :=
      (Buffer.zeroed { serial := 1, layout := { size := 6, align := 1 } } 5).overwrite 0
        "hello".toUTF8
    obtain ⟨-, hlayout, -, -, hedits⟩ := h buffer rfl
    obtain ⟨-, hcapacity, -, hend, hfree⟩ := hedits sampleEdits
    exact ⟨buffer, rfl, hspare, by decide, hcapacity, hend hspare, hfree {}, hlayout⟩
  · obtain ⟨-, hnone, h⟩ := buffer_of_edits { rule := fun _ _ => false } (.blank (2 ^ 63 - 2))
    obtain ⟨buffer, hbuffer⟩ := Option.ne_none_iff_exists'.1 fun hmissing =>
      absurd (hnone.1 hmissing) (by decide)
    obtain ⟨-, -, -, -, hedits⟩ := h buffer hbuffer
    exact ⟨buffer, hbuffer, fun edits => (hedits edits).2.1⟩

end FaultChain.Memory

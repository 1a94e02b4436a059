import FaultChain.Memory.Backend

/-!
# Byte buffers

A buffer is a block of bytes whose last place is kept for a terminator: its *capacity* is one more
than the length of content it was made for.  The content can be shortened but never grows back, and
the capacity never changes, so a buffer always goes back to its backend with the layout it came
with.  Places beyond the content keep what was written there.
-/

namespace FaultChain.Memory

/-- A terminated byte buffer in a block of its own. -/
structure Buffer where
  block : Block
  /-- The length of the content. -/
  length : Nat
  /-- All bytes of the block, the terminator's place included. -/
  whole : ByteArray

namespace Buffer

theorem eq_iff_data {a b : Buffer} :
    a = b ↔ a.block = b.block ∧ a.length = b.length ∧ a.whole.data = b.whole.data := by
  constructor
  · rintro rfl
    exact ⟨rfl, rfl, rfl⟩
  · rintro ⟨hblock, hlength, hdata⟩
    cases a
    cases b
    cases hblock
    cases hlength
    congr
    exact ByteArray.ext hdata

instance : DecidableEq Buffer := fun _ _ =>
  decidable_of_decidable_of_iff eq_iff_data.symm

/-- A number of zero bytes. -/
def zeros (n : Nat) : ByteArray :=
  ⟨Array.replicate n 0⟩

/-- A buffer of zeros with a given length of content. -/
def zeroed (block : Block) (length : Nat) : Buffer where
  block := block
  length := length
  whole := zeros (length + 1)

/-- The size of the block. -/
def capacity (b : Buffer) : Nat :=
  b.whole.size

/-- Whether there is no content. -/
def isEmpty (b : Buffer) : Bool :=
  b.length == 0

/-- The content. -/
def content (b : Buffer) : ByteArray :=
  b.whole.extract 0 b.length

/-- The content followed by what stands in the place after it. -/
def contentWithEnd (b : Buffer) : ByteArray :=
  b.whole.extract 0 (b.length + 1)

/-- The content as a text, if it is valid UTF-8. -/
def text? (b : Buffer) : Option String :=
  String.fromUTF8? b.content

/-- The content as a text; nothing if it is not valid UTF-8. -/
def text (b : Buffer) : String :=
  b.text?.getD ""

/-- Puts bytes over those from position `start` on. -/
def overwrite (b : Buffer) (start : Nat) (bytes : ByteArray) : Buffer :=
  { b with whole := bytes.copySlice 0 b.whole start bytes.size }

/-- Writes into the content, if all of the bytes fit there. -/
def writeContent? (b : Buffer) (start : Nat) (bytes : ByteArray) : Option Buffer :=
  if start + bytes.size ≤ b.length then some (b.overwrite start bytes) else none

/-- Writes anywhere in the block, if all of the bytes fit there. -/
def writeWhole? (b : Buffer) (start : Nat) (bytes : ByteArray) : Option Buffer :=
  if start + bytes.size ≤ b.capacity then some (b.overwrite start bytes) else none

/-- Shortens the content and puts a terminator behind it; a length that is not shorter changes
nothing. -/
def truncate (b : Buffer) (length : Nat) : Buffer :=
  if length < b.length then
    { b with
      length
      whole := if h : length < b.whole.size then b.whole.set length 0 h else b.whole }
  else
    b

/-- A buffer in a diagnostic record. -/
def debug (b : Buffer) : String :=
  "RawBuf \x7b len: " ++ toString b.length ++ ", cap: " ++ toString b.capacity ++ " \x7d"

end Buffer

namespace Backend

/-- Asks for a buffer with a given length of content. -/
def requestBuffer (b : Backend) (length : Nat) : Backend × Option Buffer :=
  match Layout.buffer? length with
  | none => (b, none)
  | some layout =>
    match b.request layout with
    | (b, none) => (b, none)
    | (b, some block) => (b, some (.zeroed block length))

/-- Asks for a buffer that holds a copy of some bytes. -/
def requestCopy (b : Backend) (bytes : ByteArray) : Backend × Option Buffer :=
  match b.requestBuffer bytes.size with
  | (b, none) => (b, none)
  | (b, some buffer) => (b, some (buffer.overwrite 0 bytes))

/-- Takes a buffer back. -/
def freeBuffer (b : Backend) (buffer : Buffer) : Backend :=
  b.free buffer.block

end Backend

end FaultChain.Memory

import FaultChain.Document.Frames
import FaultChain.Memory.Buffer
import FaultChain.Message

/-!
# Documents in bounded memory

A document is written into a *window*, a run of bytes of the caller's, which may be shorter than the
document.  The window counts every byte that it is offered and keeps those that fit, one place being
kept for a terminator.  Once a piece was cut nothing more is kept, so what is kept is always a
prefix of the document.  An empty window keeps nothing and only counts, which is how a document is
measured.

* `Window.push` — offers a piece.
* `render` — the whole document: how many bytes it needs with its terminator, and the window after.
* `convert` — the document as a text, measured first and then written into a vector of that size.

The two passes of `convert` reserve their frames independently of each other.  A document whose size
with the terminator is the greatest number that can be counted, or bytes that are not a text, give
the document of no error instead.  A document that can be counted may still be too long for a
vector, and then there is no text at all (`Conversion.capacityOverflow`).
-/

namespace FaultChain.Document

/-- The greatest number of bytes that can be counted. -/
def greatestCount : Nat :=
  Message.greatestLength

/-- A sum that stops growing at the greatest number that can be counted. -/
def saturatingAdd (m n : Nat) : Nat :=
  min (m + n) greatestCount

/-- A run of bytes that a document is written into. -/
structure Window where
  bytes : ByteArray
  /-- How many bytes were kept. -/
  kept : Nat := 0
  /-- How many bytes were offered. -/
  offered : Nat := 0
  /-- Whether a piece was cut. -/
  full : Bool := false

namespace Window

/-- The bytes with one of them replaced, if it is there. -/
def place (bytes : ByteArray) (i : Nat) (b : UInt8) : ByteArray :=
  if h : i < bytes.size then bytes.set i b h else bytes

/-- A window that was offered nothing yet; its first place, if it has one, holds a terminator. -/
def start (bytes : ByteArray) : Window where
  bytes := place bytes 0 0

/-- Offers a piece. -/
def push (w : Window) (piece : ByteArray) : Window :=
  let offered := saturatingAdd w.offered piece.size
  if w.full || w.bytes.size == 0 then
    { w with offered }
  else
    -- One place is kept for the terminator.
    let n := min (w.bytes.size - 1 - w.kept) piece.size
    { bytes := piece.copySlice 0 w.bytes w.kept n
      kept := w.kept + n
      offered
      full := decide (n < piece.size) }

/-- Puts the terminator behind what was kept, and tells how many bytes the whole document needs with
its terminator. -/
def finish (w : Window) : Nat × ByteArray :=
  (saturatingAdd w.offered 1, place w.bytes (min w.kept (w.bytes.size - 1)) 0)

end Window

/-- Writes pieces into a window. -/
def renderPieces (pieces : Array String) (bytes : ByteArray) : Nat × ByteArray :=
  (pieces.foldl (fun w piece => w.push piece.toUTF8) (Window.start bytes)).finish

/-- Writes the document of a chain, or of no error, into a window. -/
def render (reservation : Reservation) (chain : Option Chain) (bytes : ByteArray) :
    Nat × ByteArray :=
  match chain with
  | some chain => renderPieces (pieces reservation chain) bytes
  | none => renderPieces #[empty] bytes

/-- How many bytes the document of a chain needs with its terminator. -/
def measure (reservation : Reservation) (chain : Chain) : Nat :=
  (render reservation (some chain) ByteArray.empty).1

/-- What comes of asking for a document as a text. -/
inductive Conversion
  | text (text : String)
  /-- No vector holds as many bytes as were measured: the process panics. -/
  | capacityOverflow
  deriving DecidableEq, Repr

/-- The document of a chain as a text: measured, then written into a vector of the size that was
measured.  The vector is asked for after the one size that stands for sizes that cannot be counted
is ruled out, and before anything is written.  No vector is greater than a block may be, so a size
in between ends the process. -/
def convert (passes : Passes) (chain : Chain) : Conversion :=
  let required := measure passes.measuring chain
  if required = greatestCount then .text empty
  else if Memory.Layout.greatestSize < required then .capacityOverflow
  else
    let (_, bytes) := render passes.writing (some chain) (Memory.Buffer.zeros required)
    .text ((String.fromUTF8? (bytes.extract 0 (required - 1))).getD empty)

/-- The text that a conversion comes to; nothing if the process panics. -/
def Conversion.shown : Conversion → String
  | .text shown => shown
  | .capacityOverflow => ""

/-- The document of a chain as a text; nothing if the process panics. -/
def text (passes : Passes) (chain : Chain) : String :=
  (convert passes chain).shown

end FaultChain.Document

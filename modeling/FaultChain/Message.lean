import FaultChain.Memory.Buffer

/-!
# Messages

The message of an error is formatted twice: a first pass only measures it, then a buffer of the
measured length is obtained, and a second pass writes into it.  The two passes need not agree, since
what is formatted runs code of the caller's, so the second pass may offer more than was measured.

* `measure` — the length of the first pass, or nothing if what is formatted reports an error.
* `Writer.write` — one text of the second pass.  A text that does not fit is cut at the last
  character boundary that does, and the write counts as failed.
* `Writer.run` — the whole second pass.  What is formatted normally stops at a failed write; a
  *persistent* argument goes on regardless, and may fill the few bytes that a cut left free.
* `stored` — the buffer after the second pass, shortened to what was written.

An error reported in the second pass keeps what was written before it.
-/

namespace FaultChain.Message

/-- The greatest length that can be counted. -/
def greatestLength : Nat :=
  1 <<< 64 - 1

/-- What an argument does at one point of a pass. -/
inductive Action
  | write (text : String)
  | fail
  deriving DecidableEq, Repr

/-- What is formatted into a message. -/
structure Argument where
  /-- What happens while the message is measured. -/
  first : List Action
  /-- What happens while the message is written. -/
  second : List Action
  /-- Whether the argument goes on after a failed write. -/
  persistent : Bool := false
  deriving DecidableEq, Repr

/-- The argument that writes one text, and the same in both passes. -/
def Argument.ofText (text : String) : Argument where
  first := [.write text]
  second := [.write text]

/-- Measures the rest of a pass after a given length.  Lengths stop growing at the greatest one. -/
def measureFrom (length : Nat) : List Action → Option Nat
  | [] => some length
  | .write text :: rest => measureFrom (min (length + text.utf8ByteSize) greatestLength) rest
  | .fail :: _ => none

/-- The length of a pass, or nothing if it reports an error. -/
def measure (pass : List Action) : Option Nat :=
  measureFrom 0 pass

/-- The longest run of leading characters that takes at most `room` bytes. -/
def fitting (room : Nat) : List Char → List Char
  | [] => []
  | c :: cs => if c.utf8Size ≤ room then c :: fitting (room - c.utf8Size) cs else []

/-- The second pass in progress: what was written, and how many bytes are left. -/
structure Writer where
  written : ByteArray
  room : Nat

namespace Writer

/-- A pass into a buffer of a given length. -/
def start (length : Nat) : Writer where
  written := ByteArray.empty
  room := length

/-- Adds a text that is known to fit. -/
def append (w : Writer) (text : String) : Writer where
  written := w.written ++ text.toUTF8
  room := w.room - text.utf8ByteSize

/-- Writes a text, cut if it does not fit, and says whether it did. -/
def write (w : Writer) (text : String) : Writer × Bool :=
  if text.utf8ByteSize ≤ w.room then
    (w.append text, true)
  else
    (w.append (String.ofList (fitting w.room text.toList)), false)

/-- The rest of the pass. -/
def run (persistent : Bool) : List Action → Writer → Writer
  | [], w => w
  | .fail :: _, w => w
  | .write text :: rest, w =>
    let (w, fits) := w.write text
    if fits || persistent then run persistent rest w else w

end Writer

/-- The message in a buffer that was obtained for it. -/
def stored (argument : Argument) (buffer : Memory.Buffer) : Memory.Buffer :=
  let w := Writer.run argument.persistent argument.second (.start buffer.length)
  (buffer.overwrite 0 w.written).truncate w.written.size

end FaultChain.Message

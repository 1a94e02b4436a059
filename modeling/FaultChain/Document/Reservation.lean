/-!
# Reserving frames

Whoever writes the document of a long chain asks the heap for frames, and the heap may say no.  The
answer is no part of the chain and no part of the backend whose memory the document ends up in: it
comes from outside, once for every pass over a chain, and two passes over one chain may get two
answers.

* `Reservation` — the answer to one pass.
* `Passes` — the answers to the two passes of whoever measures a document before writing it.

Everybody who reads a document brings such a pair along, also the readers whom a backend lets in
while it answers a request (`FaultChain.Memory.Reentry`).  That is why they are told of here, ahead
of documents and of backends.
-/

namespace FaultChain.Document

/-- The answer to a reservation of frames. -/
inductive Reservation
  | granted
  | refused
  deriving DecidableEq, Repr

/-- The outcomes of the two reservations that measuring and writing a document make. -/
structure Passes where
  measuring : Reservation := .granted
  writing : Reservation := .granted
  deriving DecidableEq, Repr

end FaultChain.Document

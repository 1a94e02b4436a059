import FaultChain.Store.Release

/-!
# Requests for memory

A request goes to a backend, which may let readers in before it answers.  What such a reader does is
given as a *visitor*, so that requests can be defined before reading is; the knot is tied in
`FaultChain.Store.Reading`.
-/

namespace FaultChain

/-- What a backend does to the store when it lets in a reader. -/
abbrev Visitor := Memory.Reentry → Store → Store

namespace Store

/-- Has a backend answer a request that has entered. -/
def settle (s : Store) (b : BackendId) (serial : Nat) (layout : Memory.Layout) :
    Store × Option Memory.Block :=
  match s.backends.get? b with
  | none => (s, none)
  | some backend =>
    let (backend, answer) := backend.settle serial layout
    (s.modifyBackend b fun _ => backend, answer)

/-- Asks a backend for a block.  The readers that are due on entry come first. -/
def requestWith (visit : Visitor) (s : Store) (b : BackendId) (layout : Memory.Layout) :
    Store × Option Memory.Block :=
  match s.backends.get? b with
  | none => (s, none)
  | some backend =>
    let (entered, due) := backend.enter
    let s := s.modifyBackend b fun _ => entered
    let s := due.foldl (fun s reader => visit reader s) s
    s.settle b entered.requests layout

/-- Asks a backend for a buffer with a given length of content. -/
def requestBufferWith (visit : Visitor) (s : Store) (b : BackendId) (length : Nat) :
    Store × Option Memory.Buffer :=
  match Memory.Layout.buffer? length with
  | none => (s, none)
  | some layout =>
    match s.requestWith visit b layout with
    | (s, none) => (s, none)
    | (s, some block) => (s, some (.zeroed block length))

/-- Asks a backend for a buffer that holds a copy of some bytes. -/
def requestCopyWith (visit : Visitor) (s : Store) (b : BackendId) (bytes : ByteArray) :
    Store × Option Memory.Buffer :=
  match s.requestBufferWith visit b bytes.size with
  | (s, none) => (s, none)
  | (s, some buffer) => (s, some (buffer.overwrite 0 bytes))

end Store

end FaultChain

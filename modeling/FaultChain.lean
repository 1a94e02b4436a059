import FaultChain.Arena
import FaultChain.Code
import FaultChain.Context
import FaultChain.Demo
import FaultChain.Document.Basic
import FaultChain.Document.Escape
import FaultChain.Document.Frames
import FaultChain.Document.Reservation
import FaultChain.Document.Window
import FaultChain.Domain
import FaultChain.Environment
import FaultChain.Failure
import FaultChain.Fault
import FaultChain.Flags
import FaultChain.Level
import FaultChain.Link
import FaultChain.Location
import FaultChain.Lock.Basic
import FaultChain.Lock.Contention
import FaultChain.Lock.Guard
import FaultChain.Log
import FaultChain.Main
import FaultChain.Memory.Backend
import FaultChain.Memory.Buffer
import FaultChain.Memory.Layout
import FaultChain.Message
import FaultChain.Proofs.Accounting
import FaultChain.Proofs.Buffers
import FaultChain.Proofs.Coherence
import FaultChain.Proofs.Competition
import FaultChain.Proofs.Contests
import FaultChain.Proofs.Copies
import FaultChain.Proofs.Creation
import FaultChain.Proofs.Decoding
import FaultChain.Proofs.Demonstration
import FaultChain.Proofs.Disposal
import FaultChain.Proofs.Edits
import FaultChain.Proofs.Escapes
import FaultChain.Proofs.Exclusion
import FaultChain.Proofs.Formatting
import FaultChain.Proofs.FrameLoop
import FaultChain.Proofs.Generations
import FaultChain.Proofs.Grammar
import FaultChain.Proofs.Handles
import FaultChain.Proofs.Holdings
import FaultChain.Proofs.Hooks
import FaultChain.Proofs.Immutability
import FaultChain.Proofs.Inertness
import FaultChain.Proofs.Keeping
import FaultChain.Proofs.LastReading
import FaultChain.Proofs.Lasting
import FaultChain.Proofs.Ledger
import FaultChain.Proofs.Markers
import FaultChain.Proofs.Messages
import FaultChain.Proofs.Nests
import FaultChain.Proofs.Noninterference
import FaultChain.Proofs.Operations
import FaultChain.Proofs.Ownership
import FaultChain.Proofs.Passes
import FaultChain.Proofs.Quiet
import FaultChain.Proofs.Reader
import FaultChain.Proofs.Reading
import FaultChain.Proofs.References
import FaultChain.Proofs.Registration
import FaultChain.Proofs.Rendering
import FaultChain.Proofs.Requests
import FaultChain.Proofs.Seniority
import FaultChain.Proofs.Sessions
import FaultChain.Proofs.Shapes
import FaultChain.Proofs.Silence
import FaultChain.Proofs.SoleUse
import FaultChain.Proofs.Teardown
import FaultChain.Proofs.Towers
import FaultChain.Proofs.Traversals
import FaultChain.Proofs.Unread
import FaultChain.Proofs.Unwinding
import FaultChain.Proofs.Values
import FaultChain.Proofs.Waiting
import FaultChain.Proofs.Windows
import FaultChain.Session
import FaultChain.Settings
import FaultChain.Store.Basic
import FaultChain.Store.Copying
import FaultChain.Store.Creation
import FaultChain.Store.Lending
import FaultChain.Store.Lineage
import FaultChain.Store.Reading
import FaultChain.Store.Registry
import FaultChain.Store.Release
import FaultChain.Store.Request
import FaultChain.Store.Teardown
import FaultChain.Text.Blank
import FaultChain.Text.Hidden
import FaultChain.Text.Numeral
import FaultChain.Text.Quoted
import FaultChain.Text.Record

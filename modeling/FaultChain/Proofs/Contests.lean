import FaultChain.Proofs.Nests
import FaultChain.Proofs.Passes
import FaultChain.Proofs.Quiet
import Mathlib.Tactic.Abel

/-!
# Readers who compete

A reader who renders the document of an error may find, when it is done, that readers whom it let in
rendered it meanwhile.  This file says what becomes of an error and its backend when all the readers
of a nest read that error, whichever of their requests are refused, and whatever answers the passes
of each of them get to their reservations.

* `Stage` is the error and its backend as they stand; nothing else in the store changes.
* `Passage` says what any part of a nest does to a stage: the history of the backend grows, and a
  document is left on the error only where there was none of the present generation.
* `Owes` says that what was handed out meanwhile came back, but for the blocks of the documents that
  were left and those that a build in progress still holds.
* `Verdict` says what one reading returns, and what it did last: it found the document, left its
  own, gave its own back for that of another, or gave up, at a refused request or because what it
  had written is no text.
* `Hosts` places one call of the nest between two stages, and `Yields` is the statement that is
  proved of a reading: where it leads, what it returns, what it owes, and that every call that came
  of it is hosted.

### What is load-bearing

* **The slot of an error only goes one way**, from empty to a document of the present generation,
  which then stays (`Slot.trans`).  A reading acts on what it saw before its requests, and others
  have been there since; what it saw may be outdated, but it can only be outdated in this one
  direction.  So the test that a build makes when it leaves its document decides the contest, and it
  is enough that it makes that one.
* **The last reference is never given up** (`Stage.Spare`).  A reader who is let in gives up a
  reference when it is done, and a release of the last one would take the error down under the
  reading that let it in.  The references that readers give up were held for them, and the reading
  itself is made through one more.
* **Texts are told, not fixed.** Two readings of one nest may leave different texts, if their passes
  reserve with different answers over a long chain.  So the theory is over a property of texts,
  `told`, which is given once for the nest and asked of every call (`Call.Tells`); with passes that
  all get their frames it is to be the document of the chain, and in general it is to be what the
  passes of some call convert the chain to.

### How a nest is gone through

The calls of a nest are listed by recursion on how many readers may still come in (`Store.nest`),
and the reader who is let in with `n + 1` waiting reads with readers of `n`.  The proof follows that
recursion.  One reading is proved for any visitor that is `Fair`, that is, which does no more to the
stage than a part of a nest and hosts the calls that come of it (`Contested.readWith`); and a reader
of `n + 1` is fair because its reading is of readers of `n` (`Contested.fair_reader`).
-/

namespace FaultChain

open Memory (Block Backend Reentry Event Layout Buffer)
open Document (Passes Window)

/-! ## Blocks in and out

What a nest owes is counted in blocks: those that were handed out on it came back, are in a document
that was left, or are in the hands of a build that is not done.  Parts of a nest are put together by
adding up what they owe, so nothing has to be known of the order in which they came.
-/

namespace Memory

/-- The blocks that were handed out.  It is a multiset, as the same block must not be counted for
two requests, and that they are all different is a fact about honest backends. -/
def handedOut : List Event → Multiset Block
  | [] => 0
  | .granted block :: events => {block} + handedOut events
  | .refused _ _ :: events | .freed _ :: events => handedOut events

/-- The blocks that came back. -/
def cameBack : List Event → Multiset Block
  | [] => 0
  | .freed block :: events => {block} + cameBack events
  | .granted _ :: events | .refused _ _ :: events => cameBack events

/-- What was handed out in two parts of a history was handed out in all of it. -/
theorem handedOut_append (later earlier : List Event) :
    handedOut (later ++ earlier) = handedOut later + handedOut earlier := by
  induction later with
  | nil => exact (zero_add _).symm
  | cons event later ih =>
      cases event with
      | granted block => rw [List.cons_append, handedOut, handedOut, ih, add_assoc]
      | refused serial layout => rw [List.cons_append, handedOut, handedOut, ih]
      | freed block => rw [List.cons_append, handedOut, handedOut, ih]

/-- So it is with what came back. -/
theorem cameBack_append (later earlier : List Event) :
    cameBack (later ++ earlier) = cameBack later + cameBack earlier := by
  induction later with
  | nil => exact (zero_add _).symm
  | cons event later ih =>
      cases event with
      | granted block => rw [List.cons_append, cameBack, cameBack, ih]
      | refused serial layout => rw [List.cons_append, cameBack, cameBack, ih]
      | freed block => rw [List.cons_append, cameBack, cameBack, ih, add_assoc]

end Memory

open Memory (handedOut cameBack handedOut_append cameBack_append)

/-- The blocks of some documents, of each its record and its text. -/
def Cached.blocksOf (documents : List Cached) : Multiset Block :=
  (documents.flatMap Cached.blocks : List Block)

/-- Documents bring their blocks along. -/
theorem Cached.blocksOf_append (later earlier : List Cached) :
    Cached.blocksOf (later ++ earlier) = Cached.blocksOf later + Cached.blocksOf earlier := by
  rw [Cached.blocksOf, List.flatMap_append, ← Multiset.coe_add]
  rfl

/-- The document of a chain that is written once its record and its text are handed out.  The buffer
has the capacity that the first pass measured, and holds what the second pass made of it. -/
def Cached.written (chain : Chain) (passes : Passes) (generation : UInt32) (node block : Block) :
    Cached :=
  let blank := Buffer.zeroed block (Document.document passes.measuring (some chain)).utf8ByteSize
  { generation, node
    text := { blank with whole := (Document.render passes.writing (some chain) blank.whole).2 } }

section Written

variable {chain : Chain} {passes : Passes} {generation : UInt32} {node block : Block}

/-- The bytes up to the terminator, which may be no text: the writing pass stops where the buffer
ends, inside a character if it must, and leaves zeros where it ends earlier. -/
theorem Cached.text?_written :
    let measured := (Document.document passes.measuring (some chain)).utf8ByteSize
    let written := (Document.document passes.writing (some chain)).toUTF8
    (Cached.written chain passes generation node block).text.text? =
      String.fromUTF8?
        ((Window.remains (Buffer.zeros (measured + 1)) written).extract 0 measured) := by
  intro measured written
  rw [Buffer.text?, Buffer.content]
  dsimp only [Cached.written, Buffer.zeroed]
  rw [Document.render_eq]

/-- What is read back from a document is what its passes convert the chain to. -/
theorem Cached.convert_of_written
    (hshort : (Document.document passes.measuring (some chain)).utf8ByteSize + 1 ≤
      Layout.greatestSize) {text : String}
    (htext : (Cached.written chain passes generation node block).text.text? = some text) :
    Document.convert passes chain = .text text := by
  have hword : Layout.greatestSize < Document.greatestCount := by decide
  rw [Cached.text?_written] at htext
  rw [Document.convert_eq, if_pos (Nat.lt_of_le_of_lt hshort hword), if_pos hshort, htext,
    Option.getD_some]

/-- Passes that agree write a text.  So a build that gives up over its text had passes that
disagree, of a chain that is too long to be written without frames. -/
theorem Cached.disagree_of_written
    (htext : (Cached.written chain passes generation node block).text.text? = none) :
    passes.measuring ≠ passes.writing ∧ Document.inlineFrames < chain.length := by
  have hsize : (Document.document passes.writing (some chain)).toUTF8.size =
      (Document.document passes.writing (some chain)).utf8ByteSize := rfl
  have hroom : ∀ n, n < (Buffer.zeros (n + 1)).size := fun n => by
    rw [Buffer.size_zeros]
    exact Nat.lt_succ_self n
  rw [← Nat.not_le, ← not_or]
  intro hagree
  rw [Cached.text?_written, Document.document_eq_of_agreeing hagree, ← hsize,
    Document.extract_remains (hroom _), Document.fromUTF8?_toUTF8] at htext
  cases htext

end Written

/-- **What was handed out came back**, but for the blocks of documents that were left on the error
and those that a build in progress still holds. -/
def Owes (events : List Event) (published : List Cached) (held : Multiset Block) : Prop :=
  handedOut events = held + (Cached.blocksOf published + cameBack events)

section Owing

variable {events events' : List Event} {published published' : List Cached} {held : Multiset Block}
  {block : Block}

/-- What is still held is held by the part that came first; the part after it owes nothing of its
own. -/
theorem Owes.append (h : Owes events published held) (h' : Owes events' published' 0) :
    Owes (events' ++ events) (published' ++ published) held := by
  rw [Owes, handedOut_append, cameBack_append, Cached.blocksOf_append, h, h']
  abel

/-- A block that is granted is held. -/
theorem Owes.grant (h : Owes events published held) (block : Block) :
    Owes (.granted block :: events) published ({block} + held) := by
  rw [Owes, handedOut, cameBack, h, add_assoc]

/-- A refused request hands out nothing. -/
theorem Owes.refuse (h : Owes events published held) (serial : Nat) (layout : Layout) :
    Owes (.refused serial layout :: events) published held :=
  h

/-- A block that was held comes back. -/
theorem Owes.free (h : Owes events published ({block} + held)) :
    Owes (.freed block :: events) published held := by
  rw [Owes, handedOut, cameBack, h]
  abel

/-- A build leaves its document, and with it the two blocks that it held. -/
theorem Owes.publish {own : Cached}
    (h : Owes events published ({own.text.block} + ({own.node} + held))) :
    Owes events (own :: published) held := by
  have hblocks : Cached.blocksOf (own :: published) =
      {own.text.block} + ({own.node} + Cached.blocksOf published) := rfl
  rw [Owes, hblocks, h]
  abel

end Owing

/-! ## The slot of an error

The documents of an error change in one way only, if at all, however many readers come by: one
document of the present generation takes the place of one that is not.  This is what makes readers
who race against one another a matter of one slot.
-/

/-- **What readers do to the documents of an error**: they leave them, or one of the present
generation takes the place of the one in use, which is of another and is retired.  The documents
that were left are listed; there is at most one. -/
inductive Slot (generation : UInt32) (told : String → Prop) (f f' : Fault) : List Cached → Prop
  | kept (hcache : f'.cache = f.cache) (hretired : f'.retired = f.retired) :
    Slot generation told f f' []
  | renewed {published : List Cached}
    (hopen : ∀ cached, f.cache = some cached → cached.generation ≠ generation)
    (hretired : f'.retired = f.documents) (hpublished : published = f'.cache.toList)
    (hrendered : ∀ own, f'.cache = some own →
      own.generation = generation ∧ told own.text.text) :
    Slot generation told f f' published

section Slots

variable {generation : UInt32} {told : String → Prop} {f f' f'' : Fault}
  {published published' : List Cached}

/-- **A document of the present generation stays**, so a second one never comes. -/
theorem Slot.trans (h : Slot generation told f f' published)
    (h' : Slot generation told f' f'' published') :
    Slot generation told f f'' (published' ++ published) := by
  cases h' with
  | kept hcache' hretired' =>
      cases h with
      | kept hcache hretired =>
          exact .kept (hcache'.trans hcache) (hretired'.trans hretired)
      | renewed hopen hretired hpublished hrendered =>
          refine .renewed hopen (hretired'.trans hretired) ?_ fun own hown => ?_
          · rw [List.nil_append, hpublished, hcache']
          · exact hrendered own (hcache'.symm.trans hown)
  | renewed hopen' hretired' hpublished' hrendered' =>
      cases h with
      | kept hcache hretired =>
          refine .renewed (fun cached hused => hopen' cached (hcache.trans hused)) ?_ ?_ hrendered'
          · rw [hretired', Fault.documents, hcache, hretired]
            rfl
          · rw [List.append_nil, hpublished']
      | renewed hopen hretired hpublished hrendered =>
          -- What was put there in between is of the present generation, so nothing was.
          have hnone : f'.cache = none := by
            cases hcache : f'.cache with
            | none => rfl
            | some own => exact absurd (hrendered own hcache).1 (hopen' own hcache)
          refine .renewed hopen ?_ ?_ hrendered'
          · rw [hretired', Fault.documents, hnone, hretired]
            rfl
          · rw [hpublished', hpublished, hnone]
            exact List.append_nil _

/-- The documents of an error, the one in use first, only become more, at the front. -/
theorem Slot.documents (h : Slot generation told f f' published) :
    f'.documents = published ++ f.documents := by
  cases h with
  | kept hcache hretired =>
      rw [Fault.documents, hcache, hretired]
      rfl
  | renewed hopen hretired hpublished hrendered =>
      rw [hpublished, ← hretired]
      rfl

/-- A document of the present generation is still in use later, whoever read meanwhile. -/
theorem Slot.stays (h : Slot generation told f f' published) {own : Cached}
    (hcache : f.cache = some own) (hcurrent : own.generation = generation) :
    f'.cache = some own := by
  cases h with
  | kept hsame _ => exact hsame.trans hcache
  | renewed hopen => exact absurd hcurrent (hopen own hcache)

/-- What was left where there was nothing is of the present generation. -/
theorem Slot.current_of_none (h : Slot generation told f f' published) (hnone : f.cache = none)
    {own : Cached} (hcache : f'.cache = some own) : own.generation = generation := by
  cases h with
  | kept hsame _ => cases (hsame.symm.trans hcache).symm.trans hnone
  | renewed _ _ _ hrendered => exact (hrendered own hcache).1

/-- A document of the present generation where there was none before was rendered and left
meanwhile, and the one in use before is retired.  This is where one document is found to have
won. -/
theorem Slot.of_open (h : Slot generation told f f' published)
    (hopen : ∀ cached, f.cache = some cached → cached.generation ≠ generation) {own : Cached}
    (hcache : f'.cache = some own) (hcurrent : own.generation = generation) :
    published = [own] ∧ f'.retired = f.documents ∧ told own.text.text := by
  cases h with
  | kept hsame _ => exact absurd hcurrent (hopen own (hsame.symm.trans hcache))
  | renewed _ hretired hpublished hrendered =>
      refine ⟨?_, hretired, (hrendered own hcache).2⟩
      rw [hpublished, hcache]
      rfl

end Slots

/-! ## Stages

A reading changes one error and one backend.  Taken out of the store the two make a stage, and what
happens on it can be said without contexts, other errors and other backends, which stay the same.
-/

/-- An error, and the backend that its document is rendered through.  Both are taken out of the
store, as contexts, other errors and other backends are not touched in a nest. -/
structure Stage where
  backend : Backend
  fault : Fault

namespace Stage

/-- Nothing in use was rendered for a generation: there is no document, or one that is stale. -/
def Open (x : Stage) (generation : UInt32) : Prop :=
  ∀ cached, x.fault.cache = some cached → cached.generation ≠ generation

/-- The readers who wait for an error hold references on it, and there are more than `m` others. -/
def Spare (x : Stage) (e : FaultId) (m : Nat) : Prop :=
  (x.backend.reentries.map Reentry.fault).count e + m < x.fault.refs.toNat

/-- A backend does something more, which is added to its history. -/
def record (x : Stage) (event : Event) : Stage :=
  { x with backend := { x.backend with history := event :: x.backend.history } }

/-- With fewer to spare there is enough to spare. -/
theorem Spare.mono {x : Stage} {e : FaultId} {m n : Nat} (h : x.Spare e n) (hle : m ≤ n) :
    x.Spare e m :=
  Nat.lt_of_le_of_lt (Nat.add_le_add_left hle _) h

/-- **A part of a nest**: what the backend did, and what was left on the error.  What else there is
about the error, its link, its chain and its texts, is as it was (`bare`), but references may have
been given up. -/
structure Passage (generation : UInt32) (told : String → Prop) (x : Stage) (events : List Event)
    (published : List Cached) (x' : Stage) : Prop where
  history : x'.backend.history = events ++ x.backend.history
  bare : x'.fault.bare = x.fault.bare
  slot : Slot generation told x.fault x'.fault published

/-- One stage comes after another in a nest.  This is what is kept of a passage where it does not
matter what the backend did on it. -/
def Reaches (generation : UInt32) (told : String → Prop) (x x' : Stage) : Prop :=
  ∃ events published, Passage generation told x events published x'

/-- One stage comes after another, and what was handed out between them came back.  A visit is over
when its reader returns, and holds nothing then. -/
def Visited (generation : UInt32) (told : String → Prop) (x x' : Stage) : Prop :=
  ∃ events published, Passage generation told x events published x' ∧ Owes events published 0

section Passages

variable {generation : UInt32} {told : String → Prop} {x x' x'' : Stage}
  {events events' : List Event} {published published' : List Cached}

/-- Where nothing was done, nothing has changed. -/
theorem Passage.refl (x : Stage) : Passage generation told x [] [] x where
  history := rfl
  bare := rfl
  slot := .kept rfl rfl

/-- **Passages compose**, because slots do: what the first part left is not replaced by the
second. -/
theorem Passage.trans (h : Passage generation told x events published x')
    (h' : Passage generation told x' events' published' x'') :
    Passage generation told x (events' ++ events) (published' ++ published) x'' where
  history := by rw [h'.history, h.history, List.append_assoc]
  bare := h'.bare.trans h.bare
  slot := h.slot.trans h'.slot

/-- A backend does something that the error does not see. -/
theorem Passage.record (h : Passage generation told x events published x') (event : Event) :
    Passage generation told x (event :: events) published (x'.record event) where
  history := congrArg (event :: ·) h.history
  bare := h.bare
  slot := h.slot

/-- Every stage comes after itself. -/
theorem Reaches.refl (x : Stage) : Reaches generation told x x :=
  ⟨[], [], .refl x⟩

/-- Later is transitive. -/
theorem Reaches.trans (h : Reaches generation told x x')
    (h' : Reaches generation told x' x'') : Reaches generation told x x'' := by
  obtain ⟨events, published, h⟩ := h
  obtain ⟨events', published', h'⟩ := h'
  exact ⟨_, _, h.trans h'⟩

/-- A backend that did something more is later. -/
theorem Reaches.record (x : Stage) (event : Event) :
    Reaches generation told x (x.record event) :=
  ⟨_, _, (Passage.refl x).record event⟩

/-- After a visit it is later. -/
theorem Visited.reaches (h : Visited generation told x x') :
    Reaches generation told x x' := by
  obtain ⟨events, published, h, -⟩ := h
  exact ⟨events, published, h⟩

/-- Two visits owe nothing, one after the other. -/
theorem Visited.trans (h : Visited generation told x x')
    (h' : Visited generation told x' x'') : Visited generation told x x'' := by
  obtain ⟨events, published, h, howes⟩ := h
  obtain ⟨events', published', h', howes'⟩ := h'
  exact ⟨_, _, h.trans h', howes.append howes'⟩

end Passages

/-! ## What one reading does

What a reading returns depends on what it found and on what was answered on the way, and is told
here as a relation between stages.  Readers who were let in on the way may have changed the stage
more than the reading itself; that is part of the passage, and not of the verdict.
-/

/-- **A request of a reading was refused**, and that was the end of it: either the first one, which
is for the record of the document, or the second one, and the record was given back. -/
inductive Refused (requests : Nat) (events : List Event) : Prop
  | record {earlier : List Event} (hlast : events = .refused (requests + 1) .cache :: earlier)
  | text {node : Block} {serial : Nat} {layout : Layout} {earlier : List Event}
    (hnode : node.serial = requests + 1)
    (hlast : events = .freed node :: .refused serial layout :: earlier)

/-- **What a reading wrote was no text**, and that was the end of it: text and record were given
back.  That takes passes with different answers over a chain that needs frames; the document that is
written is then cut off inside a character. -/
structure Torn (chain : Chain) (passes : Passes) (requests : Nat) (events : List Event) : Prop where
  disagree : passes.measuring ≠ passes.writing
  deep : Document.inlineFrames < chain.length
  last : ∃ node block earlier, node.serial = requests + 1 ∧
    events = .freed node :: .freed block :: earlier ∧
    .granted node ∈ earlier ∧ .granted block ∈ earlier

/-- **What a build returns**, after so many requests of its backend, and what it did last.  The
number of requests names the first block that the build was handed, by its serial; without it the
last events could be those of a reader that it let in. -/
inductive Built (chain : Chain) (passes : Passes) (generation : UInt32) (requests : Nat)
    (events : List Event) (x' : Stage) : Reading → Prop
  /-- Its own document is in use. -/
  | won {own : Cached} (hnode : own.node.serial = requests + 1)
    (hcache : x'.fault.cache = some own) (hcurrent : own.generation = generation) :
    Built chain passes generation requests events x' (.document own)
  /-- The document of another is in use, and its own was given back. -/
  | lost {own winner : Cached} {earlier : List Event} (hnode : own.node.serial = requests + 1)
    (hlast : events = .freed own.node :: .freed own.text.block :: earlier)
    (hgranted : .granted own.node ∈ earlier ∧ .granted own.text.block ∈ earlier)
    (hcache : x'.fault.cache = some winner) (hcurrent : winner.generation = generation) :
    Built chain passes generation requests events x' (.document winner)
  | refused (hrefused : Refused requests events) :
    Built chain passes generation requests events x' .placeholder
  | torn (htorn : Torn chain passes requests events) :
    Built chain passes generation requests events x' .placeholder

/-- **What a reading returns**: the document that it finds, or what it builds.  It looks for a
document before its first request, and builds only if there is none of the present generation at
that time (`hopen`). -/
inductive Verdict (chain : Chain) (passes : Passes) (generation : UInt32) (x : Stage)
    (events : List Event) (x' : Stage) : Reading → Prop
  | found {own : Cached} (hsame : x' = x) (hcache : x.fault.cache = some own)
    (hcurrent : own.generation = generation) :
    Verdict chain passes generation x events x' (.document own)
  | built {reading : Reading} (hopen : x.Open generation)
    (hbuilt : Built chain passes generation x.backend.requests events x' reading) :
    Verdict chain passes generation x events x' reading

section Verdicts

variable {chain : Chain} {passes : Passes} {generation : UInt32} {x x' : Stage}
  {events : List Event}

/-- A document that is returned is the one in use. -/
theorem Verdict.cache_of_document {own : Cached}
    (h : Verdict chain passes generation x events x' (.document own)) :
    x'.fault.cache = some own ∧ own.generation = generation := by
  cases h with
  | found hsame hcache hcurrent => exact ⟨hsame ▸ hcache, hcurrent⟩
  | built hopen hbuilt =>
      cases hbuilt with
      | won hnode hcache hcurrent => exact ⟨hcache, hcurrent⟩
      | lost hnode hlast hgranted hcache hcurrent => exact ⟨hcache, hcurrent⟩

/-- A placeholder is returned only where a request was refused, or what was written was no text. -/
theorem Verdict.failed_of_placeholder
    (h : Verdict chain passes generation x events x' .placeholder) :
    Refused x.backend.requests events ∨ Torn chain passes x.backend.requests events := by
  obtain _ | ⟨-, hbuilt⟩ := h
  cases hbuilt with
  | refused hrefused => exact .inl hrefused
  | torn htorn => exact .inr htorn

/-- A placeholder is returned only where no document of the present generation was found. -/
theorem Verdict.open_of_placeholder
    (h : Verdict chain passes generation x events x' .placeholder) : x.Open generation := by
  obtain _ | ⟨hopen, -⟩ := h
  exact hopen

/-- Where the backend refused nothing and the two passes agree, a reading returns a document. -/
theorem Verdict.document_of_granted {reading : Reading}
    (h : Verdict chain passes generation x events x' reading)
    (hagree : passes.measuring = passes.writing)
    (hgranted : ∀ serial layout, .refused serial layout ∉ events) :
    ∃ own, reading = .document own := by
  cases reading with
  | document own => exact ⟨own, rfl⟩
  | placeholder =>
      rcases h.failed_of_placeholder with hrefused | htorn
      · cases hrefused with
        | record hlast => exact absurd (hlast ▸ List.mem_cons_self) (hgranted _ _)
        | text hnode hlast =>
            exact absurd (hlast ▸ List.mem_cons_of_mem _ List.mem_cons_self) (hgranted _ _)
      · exact absurd hagree htorn.disagree

end Verdicts

end Stage

/-! ## Stages of a store

The way back: a stage is put into the store, and each small change of the store is one of the stage.
What a reading looks at besides, its context and its chain, is the same for every stage.
-/

namespace Store

/-- A store in which an error and a backend stand as on a stage. -/
def onStage (s : Store) (b : BackendId) (e : FaultId) (x : Stage) : Store :=
  (s.modifyBackend b fun _ => x.backend).modifyFault e fun _ => x.fault

/-- **An error to compete for**: it is attached to a context that is there with its backend, and its
document can be asked for. -/
structure Contested (s : Store) (e : FaultId) (f : Fault) (context : Context) (chain : Chain) :
    Prop where
  found : s.faults.get? e = some f
  attached : f.context.bind s.contexts.get? = some context
  backed : ∃ backend, s.backends.get? context.backend = some backend
  told : s.chain? e = some chain
  short : ∀ reservation,
    (Document.document reservation (some chain)).utf8ByteSize + 1 ≤ Layout.greatestSize

section Stages

variable {s : Store} {e : FaultId} {f : Fault} {context : Context} {chain : Chain} {x : Stage}

/-- A store stands as it stands. -/
theorem onStage_self {b : BackendId} {backend : Backend}
    (hbackend : s.backends.get? b = some backend) (hget : s.faults.get? e = some f) :
    s.onStage b e { backend, fault := f } = s := by
  have hbackends : s.backends.modify b (fun _ => backend) = s.backends :=
    Arena.modify_eq_self fun _ h => Option.some.inj (hbackend.symm.trans h)
  have hfaults : s.faults.modify e (fun _ => f) = s.faults :=
    Arena.modify_eq_self fun _ h => Option.some.inj (hget.symm.trans h)
  rw [onStage, modifyFault, modifyBackend, hbackends, hfaults]

/-- A change of the backend is one of the stage. -/
theorem modifyBackend_onStage (b : BackendId) (g : Backend → Backend) :
    (s.onStage b e x).modifyBackend b g =
      s.onStage b e { x with backend := g x.backend } := by
  show (modifyFault (modifyBackend (modifyBackend s b _) b g) e _) = _
  rw [modifyBackend_modifyBackend]
  rfl

/-- A change of the error is one of the stage.  Together these two take every step of a reading from
the store to the stage. -/
theorem modifyFault_onStage (b : BackendId) (g : Fault → Fault) :
    (s.onStage b e x).modifyFault e g = s.onStage b e { x with fault := g x.fault } := by
  unfold onStage modifyFault
  rw [Arena.modify_modify]
  rfl

/-- A block that is given back is recorded. -/
theorem free_onStage (b : BackendId) (block : Block) :
    (s.onStage b e x).free b block = s.onStage b e (x.record (.freed block)) :=
  modifyBackend_onStage b _

namespace Contested

/-- The error is there, whatever the stage is. -/
theorem get?_fault (h : s.Contested e f context chain) (b : BackendId) (x : Stage) :
    (s.onStage b e x).faults.get? e = some x.fault := by
  rw [onStage, modifyFault, Arena.get?_modify, if_pos rfl]
  show (s.faults.get? e).map _ = _
  rw [h.found, Option.map_some]

/-- So is the backend of its context. -/
theorem get?_backend (h : s.Contested e f context chain) (x : Stage) :
    (s.onStage context.backend e x).backends.get? context.backend = some x.backend := by
  obtain ⟨backend, hbackend⟩ := h.backed
  exact get?_modifyBackend hbackend x.backend

/-- An error stays attached to the context that it was attached to, and readers leave contexts
alone. -/
theorem context_eq (h : s.Contested e f context chain) (hbare : x.fault.bare = f.bare)
    (b : BackendId) :
    x.fault.context.bind (s.onStage b e x).contexts.get? = some context := by
  rw [Fault.context_of_bare hbare]
  exact h.attached

/-- Chains do not show references or documents, so every reader of a nest renders the same chain. -/
theorem chain?_eq (h : s.Contested e f context chain) (hbare : x.fault.bare = f.bare)
    (b : BackendId) : (s.onStage b e x).chain? e = some chain := by
  have haccount : x.fault.account = f.account := (congrArg Fault.account hbare :)
  refine (chain?_congr (fun e' _ => ?_) (fun _ _ _ => trivial) trivial).trans h.told
  rw [onStage, modifyFault, Arena.get?_modify]
  split
  · next heq =>
      subst heq
      show ((s.faults.get? e).map _).map _ = _
      rw [h.found]
      exact congrArg some haccount
  · rfl

/-- A reference that is not the last one is given up, which is one count less and nothing else. -/
theorem release (h : s.Contested e f context chain) (b : BackendId) (hlast : x.fault.refs ≠ 1) :
    (s.onStage b e x).release e =
      s.onStage b e { x with fault := { x.fault with refs := x.fault.refs - 1 } } := by
  rw [Store.release, h.get?_fault]
  dsimp only
  rw [if_neg hlast, modifyFault_onStage]

end Contested

end Stages

/-! ## Calls of a contest

A nest has many readings, each with a stage that it found and one that it left.  Every one of them
lies between the first stage and the last, and that is all that is needed to say what it returns in
the end.
-/

/-- **A call of a nest** between two stages of it: the stage that it finds, the one that it leaves,
and what it returns.  The stages in between are those of the nest, so what is in use at the end of
the nest was in use, or was to come, when the call returned. -/
def Hosts (s : Store) (b : BackendId) (e : FaultId) (chain : Chain) (generation : UInt32)
    (told : String → Prop) (x x' : Stage) (call : Call) : Prop :=
  ∃ y events published y' reading, call.store = s.onStage b e y ∧
    call.result = (s.onStage b e y', reading) ∧
    y.Verdict chain call.passes generation events y' reading ∧
    x.Reaches generation told y ∧ y.Passage generation told events published y' ∧
    Owes events published 0 ∧ y'.Reaches generation told x'

/-- A reader who is let in does no more than a part of a nest, and hosts the calls that come of it;
it may give up a reference if it reads the error. -/
def Fair (s : Store) (b : BackendId) (e : FaultId) (f : Fault) (chain : Chain)
    (generation : UInt32) (told : String → Prop) (visit : Visitor) (callsOf : Visit → List Call)
    (v : Visit) : Prop :=
  ∀ x m, v.store = s.onStage b e x → x.fault.bare = f.bare →
    x.Spare e ([v.reader.fault].count e + m) →
    ∃ x', visit v.reader v.store = s.onStage b e x' ∧ x.Visited generation told x' ∧
      x'.Spare e m ∧ ∀ call ∈ callsOf v, s.Hosts b e chain generation told x x' call

section Calls

variable {s : Store} {e : FaultId} {f : Fault} {context : Context} {chain : Chain}
  {x x' x'' : Stage} {generation : UInt32} {told : String → Prop} {visit : Visitor}
  {callsOf : Visit → List Call} {b : BackendId} {m : Nat}

/-- A call between two stages is one between an earlier and a later one. -/
theorem Hosts.mono {call : Call} (h : s.Hosts b e chain generation told x' x'' call)
    {y z : Stage} (hbefore : y.Reaches generation told x')
    (hafter : x''.Reaches generation told z) : s.Hosts b e chain generation told y z call := by
  obtain ⟨w, events, published, w', reading, hstore, hresult, hverdict, hfind, hpassage, howes,
    hleave⟩ := h
  exact ⟨w, events, published, w', reading, hstore, hresult, hverdict, hbefore.trans hfind,
    hpassage, howes, hleave.trans hafter⟩

/-- What the backend does after a call makes no difference to it. -/
theorem Hosts.record {call : Call} (h : s.Hosts b e chain generation told x x' call)
    (event : Event) : s.Hosts b e chain generation told x (x'.record event) call :=
  h.mono (.refl x) (.record x' event)

/-- **Every call whose passes agree returns the document that is in use in the end**, if no request
was refused. -/
theorem Hosts.returns {call : Call} (h : s.Hosts b e chain generation told x x' call)
    {events : List Event} (hhistory : x'.backend.history = events ++ x.backend.history)
    (hgranted : ∀ serial layout, .refused serial layout ∉ events)
    (hagree : call.passes.measuring = call.passes.writing) {won : Cached}
    (hcache : x'.fault.cache = some won) :
    ∃ y events' published y', call.store = s.onStage b e y ∧
      call.result = (s.onStage b e y', .document won) ∧
      y.Verdict chain call.passes generation events' y' (.document won) ∧
      y.Passage generation told events' published y' ∧ Owes events' published 0 := by
  obtain ⟨y, events', published, y', reading, hstore, hresult, hverdict, ⟨earlier, _, hfind⟩,
    hpassage, howes, ⟨later, _, hleave⟩⟩ := h
  have hevents : events = later ++ (events' ++ earlier) := by
    have hboth : events ++ x.backend.history =
        (later ++ (events' ++ earlier)) ++ x.backend.history := by
      rw [← hhistory, hleave.history, hpassage.history, hfind.history, List.append_assoc,
        List.append_assoc]
    exact List.append_cancel_right hboth
  have hgranted' : ∀ serial layout, .refused serial layout ∉ events' := fun serial layout hmem => by
    refine hgranted serial layout ?_
    rw [hevents]
    exact List.mem_append_right _ (List.mem_append_left _ hmem)
  obtain ⟨own, rfl⟩ := hverdict.document_of_granted hagree hgranted'
  obtain ⟨hused, hcurrent⟩ := hverdict.cache_of_document
  obtain rfl : own = won :=
    Option.some.inj ((hleave.slot.stays hused hcurrent).symm.trans hcache)
  exact ⟨y, events', published, y', hstore, hresult, hverdict, hpassage, howes⟩

/-- The readers who are due, one after another.  Each finds the stage that the one before it left,
and gives up one reference, so there have to be as many to spare as there are readers. -/
theorem due_onStage {due : List Reentry} (hbare : x.fault.bare = f.bare)
    (hspare : x.Spare e ((due.map Reentry.fault).count e + m))
    (hfair : ∀ v ∈ (s.onStage b e x).dueVisits visit due,
      s.Fair b e f chain generation told visit callsOf v) :
    ∃ x', due.foldl (fun s r => visit r s) (s.onStage b e x) = s.onStage b e x' ∧
      x.Visited generation told x' ∧ x'.Spare e m ∧
      ∀ call ∈ ((s.onStage b e x).dueVisits visit due).flatMap callsOf,
        s.Hosts b e chain generation told x x' call := by
  induction due generalizing x with
  | nil =>
      refine ⟨x, rfl, ⟨[], [], .refl x, rfl⟩, ?_, fun call hmem => by cases hmem⟩
      rwa [List.map_nil, List.count_nil, Nat.zero_add] at hspare
  | cons r due ih =>
      have hcount : ((r :: due).map Reentry.fault).count e + m =
          [r.fault].count e + ((due.map Reentry.fault).count e + m) := by
        rw [List.map_cons, ← List.singleton_append, List.count_append, Nat.add_assoc]
      rw [hcount] at hspare
      obtain ⟨x₁, hvisit, hvisited, hspare₁, hhosts⟩ :=
        hfair _ List.mem_cons_self x _ rfl hbare hspare
      have hbare₁ : x₁.fault.bare = f.bare := by
        obtain ⟨events, published, hpassage, -⟩ := hvisited
        exact hpassage.bare.trans hbare
      rw [dueVisits, hvisit] at hfair ⊢
      obtain ⟨x₂, hrest, hvisited', hspare₂, hhosts'⟩ :=
        ih hbare₁ hspare₁ fun v hmem => hfair v (List.mem_cons_of_mem _ hmem)
      refine ⟨x₂, ?_, hvisited.trans hvisited', hspare₂, fun call hmem => ?_⟩
      · have hfirst : visit r (s.onStage b e x) = s.onStage b e x₁ := hvisit
        rw [List.foldl_cons, hfirst, hrest]
      · rw [List.flatMap_cons, List.mem_append] at hmem
        rcases hmem with hmem | hmem
        · exact (hhosts call hmem).mono (.refl x) hvisited'.reaches
        · exact (hhosts' call hmem).mono hvisited.reaches (.refl x₂)

/-- **A request of a contest**: readers are let in, and then the backend answers.  The number of the
request is counted before they come in, so it is not theirs. -/
theorem Contested.requestWith (hs : s.Contested e f context chain) (hbare : x.fault.bare = f.bare)
    (hspare : x.Spare e m)
    (hfair : ∀ v ∈ (s.onStage context.backend e x).requestVisits visit context.backend,
      s.Fair context.backend e f chain generation told visit callsOf v) (layout : Layout) :
    ∃ x', x.Visited generation told x' ∧ x'.Spare e m ∧
      (∀ call ∈ ((s.onStage context.backend e x).requestVisits visit context.backend).flatMap
        callsOf, s.Hosts context.backend e chain generation told x x' call) ∧
      let serial := x.backend.requests + 1
      ((s.onStage context.backend e x).requestWith visit context.backend layout =
          (s.onStage context.backend e (x'.record (.refused serial layout)), none) ∨
        (s.onStage context.backend e x).requestWith visit context.backend layout =
          (s.onStage context.backend e (x'.record (.granted { serial, layout })),
            some { serial, layout })) := by
  let entered : Stage := { x with backend := x.backend.enter.1 }
  have henter : (s.onStage context.backend e x).modifyBackend context.backend
      (fun _ => x.backend.enter.1) = s.onStage context.backend e entered :=
    modifyBackend_onStage _ _
  have hentered : x.Visited generation told entered :=
    ⟨[], [], ⟨rfl, rfl, .kept rfl rfl⟩, rfl⟩
  -- Due readers are no longer waiting, and those who are due and those who are not are all there
  -- were.
  have hspare' : entered.Spare e ((x.backend.enter.2.map Reentry.fault).count e + m) := by
    have hsplit : (x.backend.enter.1.reentries.map Reentry.fault).count e +
        (x.backend.enter.2.map Reentry.fault).count e =
          (x.backend.reentries.map Reentry.fault).count e := by
      have hperm := (List.filter_append_perm (fun r => r.serial == x.backend.requests + 1)
        x.backend.reentries).map Reentry.fault
      rw [← hperm.count_eq, List.map_append, List.count_append, Nat.add_comm]
      simp only [Backend.enter, List.partition_eq_filter_filter]
      rfl
    rw [Stage.Spare] at hspare ⊢
    rwa [← Nat.add_assoc, hsplit]
  rw [requestVisits, hs.get?_backend] at hfair
  dsimp only at hfair
  rw [henter] at hfair
  obtain ⟨x', hdue, hvisited, hspare'', hhosts⟩ := due_onStage (x := entered) hbare hspare' hfair
  refine ⟨x', hentered.trans hvisited, hspare'', ?_, ?_⟩
  · rw [requestVisits, hs.get?_backend]
    dsimp only
    rw [henter]
    exact fun call hmem => (hhosts call hmem).mono hentered.reaches (.refl x')
  · rw [Store.requestWith, hs.get?_backend]
    dsimp only
    rw [henter, hdue, settle, hs.get?_backend]
    dsimp only
    rw [modifyBackend_onStage]
    unfold Backend.settle
    split
    · exact .inl rfl
    · exact .inr rfl

/-- A request for a buffer of a contest, whose length has a layout. -/
theorem Contested.requestBufferWith (hs : s.Contested e f context chain)
    (hbare : x.fault.bare = f.bare) (hspare : x.Spare e m)
    (hfair : ∀ v ∈ (s.onStage context.backend e x).requestVisits visit context.backend,
      s.Fair context.backend e f chain generation told visit callsOf v) {length : Nat}
    {layout : Layout} (hlayout : Layout.buffer? length = some layout) :
    ∃ x', x.Visited generation told x' ∧ x'.Spare e m ∧
      (∀ call ∈ ((s.onStage context.backend e x).requestVisits visit context.backend).flatMap
        callsOf, s.Hosts context.backend e chain generation told x x' call) ∧
      let serial := x.backend.requests + 1
      ((s.onStage context.backend e x).requestBufferWith visit context.backend length =
          (s.onStage context.backend e (x'.record (.refused serial layout)), none) ∨
        (s.onStage context.backend e x).requestBufferWith visit context.backend length =
          (s.onStage context.backend e (x'.record (.granted { serial, layout })),
            some (.zeroed { serial, layout } length))) := by
  obtain ⟨x', hvisited, hspare', hhosts, hanswer⟩ := hs.requestWith hbare hspare hfair layout
  refine ⟨x', hvisited, hspare', hhosts, hanswer.imp (fun h => ?_) fun h => ?_⟩
  · rw [Store.requestBufferWith, hlayout]
    dsimp only
    rw [h]
  · rw [Store.requestBufferWith, hlayout]
    dsimp only
    rw [h]

/-! ## Readings of a contest

From the end of a build to a whole reading, each part on top of the one before.  The readers who are
let in are assumed to be fair, which is then shown of the readers of the library by an induction on
how many are waiting.
-/

/-- **What a part of a reading comes to** from a stage on: the stage and the answer that it leaves,
of which `P` says more, given what the backend did meanwhile; what was handed out meanwhile came
back, and some calls are hosted.  The part that is proved is `Built` for a build and `Verdict` for a
reading. -/
def Yields (s : Store) (b : BackendId) (e : FaultId) (chain : Chain) (generation : UInt32)
    (told : String → Prop) (P : List Event → Stage → Reading → Prop) (x : Stage) (m : Nat)
    (calls : List Call) (result : Store × Reading) : Prop :=
  ∃ x' reading events published, result = (s.onStage b e x', reading) ∧ P events x' reading ∧
    x.Passage generation told events published x' ∧ Owes events published 0 ∧ x'.Spare e m ∧
    ∀ call ∈ calls, s.Hosts b e chain generation told x x' call

section Building

variable {passes : Passes} {requests : Nat} {events : List Event} {published : List Cached}
  {calls : List Call}

/-- **The end of a build**: its document is left, or goes back where there is one already.  That one
is of the present generation, as the slot was empty when the build began. -/
theorem Contested.publish (hs : s.Contested e f context chain) {own : Cached}
    (hpassage : Stage.Passage generation told x events published x')
    (howes : Owes events published ({own.text.block} + ({own.node} + 0)))
    (hnone : x.fault.cache = none) (hcurrent : own.generation = generation)
    (htext : told own.text.text) (hnode : own.node.serial = requests + 1)
    (hgranted : .granted own.node ∈ events ∧ .granted own.text.block ∈ events)
    (hspare : x'.Spare e m)
    (hhosts : ∀ call ∈ calls, s.Hosts context.backend e chain generation told x x' call) :
    s.Yields context.backend e chain generation told
      (Stage.Built chain passes generation requests) x m calls
      ((s.onStage context.backend e x').publish e context.backend own) := by
  rw [Store.publish, hs.get?_fault, Option.bind_some]
  cases hcache : x'.fault.cache with
  | none =>
      let x'' : Stage := { x' with fault := { x'.fault with cache := some own } }
      have hleft : Stage.Passage generation told x' [] [own] x'' :=
        { history := rfl
          bare := rfl
          slot := .renewed (fun cached hused => by cases hcache.symm.trans hused)
            (by rw [Fault.documents, hcache]; rfl) rfl
            fun cached hused => Option.some.inj hused ▸ ⟨hcurrent, htext⟩ }
      refine ⟨x'', .document own, events, own :: published, ?_, .won hnode rfl hcurrent,
        hpassage.trans hleft, howes.publish, hspare,
        fun call hmem => (hhosts call hmem).mono (.refl x) ⟨_, _, hleft⟩⟩
      dsimp only
      rw [modifyFault_onStage]
  -- Another came first while the requests were made: what was obtained for one's own goes back.
  | some winner =>
      let x'' : Stage := (x'.record (.freed own.text.block)).record (.freed own.node)
      have hfreed : Stage.Passage generation told x' _ [] x'' :=
        ((Stage.Passage.refl x').record (.freed own.text.block)).record (.freed own.node)
      refine ⟨x'', .document winner, _, _, ?_,
        .lost hnode rfl hgranted hcache (hpassage.slot.current_of_none hnone hcache),
        (hpassage.record _).record _, howes.free.free, hspare,
        fun call hmem => (hhosts call hmem).mono (.refl x) ⟨_, _, hfreed⟩⟩
      dsimp only
      rw [freeCached, freeBuffer, modifyBackend_onStage, free_onStage]
      rfl

/-- **What was written is no text**, and goes back with its record. -/
theorem Contested.tear {node : Block} {text : Buffer}
    (hpassage : Stage.Passage generation told x events published x')
    (howes : Owes events published ({text.block} + ({node} + 0)))
    (hnode : node.serial = requests + 1)
    (hgranted : .granted node ∈ events ∧ .granted text.block ∈ events)
    (htorn : passes.measuring ≠ passes.writing ∧ Document.inlineFrames < chain.length)
    (hspare : x'.Spare e m)
    (hhosts : ∀ call ∈ calls, s.Hosts b e chain generation told x x' call) :
    s.Yields b e chain generation told (Stage.Built chain passes generation requests) x m calls
      (((s.onStage b e x').freeBuffer b text).free b node, .placeholder) := by
  refine ⟨(x'.record (.freed text.block)).record (.freed node), .placeholder, _, _, ?_,
    .torn ⟨htorn.1, htorn.2, node, text.block, events, hnode, rfl, hgranted⟩,
    (hpassage.record _).record _, howes.free.free, hspare,
    fun call hmem => ((hhosts call hmem).record _).record _⟩
  rw [freeBuffer, modifyBackend_onStage, free_onStage]
  rfl

/-- **Both requests of a build are granted**: if what is written is a text, it is left, or goes back
where there is one already. -/
theorem Contested.write (hs : s.Contested e f context chain) {node block : Block}
    (htold : ∀ text, Document.convert passes chain = .text text → told text)
    (hpassage : Stage.Passage generation told x events published x')
    (howes : Owes events published ({node} + 0)) (hnone : x.fault.cache = none)
    (hnode : node.serial = requests + 1) (hgranted : .granted node ∈ events) (hspare : x'.Spare e m)
    (hhosts : ∀ call ∈ calls, s.Hosts context.backend e chain generation told x x' call) :
    let own := Cached.written chain passes generation node block
    let left := s.onStage context.backend e (x'.record (.granted block))
    s.Yields context.backend e chain generation told
      (Stage.Built chain passes generation requests) x m calls
      (match own.text.text? with
        | none =>
          ((left.freeBuffer context.backend own.text).free context.backend node, .placeholder)
        | some _ => left.publish e context.backend own) := by
  intro own left
  have hpassage' := hpassage.record (.granted block)
  have howes' : Owes (.granted block :: events) published ({own.text.block} + ({node} + 0)) :=
    howes.grant block
  have hgranted' : .granted node ∈ .granted block :: events ∧
      .granted own.text.block ∈ Event.granted block :: events :=
    ⟨List.mem_cons_of_mem _ hgranted, List.mem_cons_self⟩
  have hhosts' : ∀ call ∈ calls, s.Hosts context.backend e chain generation told x
      (x'.record (.granted block)) call := fun call hmem => (hhosts call hmem).record _
  cases htext : own.text.text? with
  | none =>
      exact Contested.tear hpassage' howes' hnode hgranted' (Cached.disagree_of_written htext)
        hspare hhosts'
  | some text =>
      have hshown : own.text.text = text := by rw [Buffer.text, htext, Option.getD_some]
      exact hs.publish hpassage' howes' hnone rfl
        (hshown ▸ htold text (Cached.convert_of_written (hs.short _) htext)) hnode hgranted' hspare
        hhosts'

/-- **A build of a contest**, whichever requests are refused. -/
theorem Contested.buildWith (hs : s.Contested e f context chain) (hbare : x.fault.bare = f.bare)
    (hnone : x.fault.cache = none) (hspare : x.Spare e m)
    (htold : ∀ text, Document.convert passes chain = .text text → told text)
    (hfair : ∀ v ∈ (s.onStage context.backend e x).buildVisits visit e context.backend passes,
      s.Fair context.backend e f chain generation told visit callsOf v) :
    s.Yields context.backend e chain generation told
      (Stage.Built chain passes generation x.backend.requests) x m
      (((s.onStage context.backend e x).buildVisits visit e context.backend passes).flatMap callsOf)
      ((s.onStage context.backend e x).buildWith visit e context.backend generation passes) := by
  obtain ⟨hrequired, hcounted⟩ := measure_eq (hs.short passes.measuring)
  have hlayout := Layout.buffer?_eq_some_iff.2 ⟨hs.short passes.measuring, rfl⟩
  have hchain := hs.chain?_eq hbare context.backend
  unfold buildVisits at hfair ⊢
  unfold Store.buildWith
  rw [hchain] at hfair ⊢
  dsimp only at hfair ⊢
  rw [hrequired, if_neg hcounted, Nat.add_sub_cancel] at hfair ⊢
  rw [if_neg hcounted]
  obtain ⟨x₁, ⟨events₁, published₁, hpassage₁, howes₁⟩, hspare₁, hhosts₁, hanswer | hanswer⟩ :=
    hs.requestWith hbare hspare (fun v hmem => hfair v (List.mem_append_left _ hmem)) .cache
  · -- The request for the record is refused.
    rw [hanswer]
    dsimp only
    rw [List.append_nil]
    exact ⟨_, _, _, _, rfl, .refused (.record rfl), hpassage₁.record _, howes₁.refuse _ _, hspare₁,
      fun call hmem => (hhosts₁ call hmem).record _⟩
  -- The readers of the second request find the record handed out.
  let node : Block := { serial := x.backend.requests + 1, layout := .cache }
  let x₂ : Stage := x₁.record (.granted node)
  have hpassage₂ := hpassage₁.record (.granted node)
  rw [hanswer] at hfair ⊢
  dsimp only at hfair ⊢
  rw [hlayout] at hfair ⊢
  dsimp only at hfair ⊢
  obtain ⟨x₃, ⟨events₃, published₃, hpassage₃, howes₃⟩, hspare₃, hhosts₃, hanswer'⟩ :=
    hs.requestBufferWith (x := x₂) (hpassage₂.bare.trans hbare) hspare₁
      (fun v hmem => hfair v (List.mem_append_right _ hmem)) hlayout
  have hwhole := hpassage₂.trans hpassage₃
  have howes := (howes₁.grant node).append howes₃
  have hhosts : ∀ call ∈ ((s.onStage context.backend e x).requestVisits visit context.backend ++
      (s.onStage context.backend e x₂).requestVisits visit context.backend).flatMap callsOf,
      s.Hosts context.backend e chain generation told x x₃ call := by
    intro call hmem
    rcases List.mem_append.1 (List.flatMap_append ▸ hmem) with hmem | hmem
    · exact ((hhosts₁ call hmem).record _).mono (.refl x) ⟨_, _, hpassage₃⟩
    · exact (hhosts₃ call hmem).mono ⟨_, _, hpassage₂⟩ (.refl x₃)
  rcases hanswer' with hanswer' | hanswer'
  · -- The request for the text is refused, and the record goes back.
    rw [hanswer']
    dsimp only
    rw [free_onStage]
    exact ⟨_, _, _, _, rfl, .refused (.text rfl rfl), (hwhole.record _).record _,
      (howes.refuse _ _).free, hspare₃, fun call hmem => ((hhosts call hmem).record _).record _⟩
  · -- Both are granted, and what comes of the two passes is written there.
    have hgranted : .granted node ∈ events₃ ++ .granted node :: events₁ :=
      List.mem_append_right _ List.mem_cons_self
    rw [hanswer']
    exact hs.write htold hwhole howes hnone rfl hgranted hspare₃ hhosts

/-- **A reading of a contest** returns the document that it finds, or builds one.  A stale document
is retired first, which opens the slot. -/
theorem Contested.readWith (hs : s.Contested e f context chain) (hbare : x.fault.bare = f.bare)
    (hspare : x.Spare e m)
    (htold : ∀ text, Document.convert passes chain = .text text → told text)
    (hfair : ∀ v ∈ (s.onStage context.backend e x).readVisits visit e passes,
      s.Fair context.backend e f chain context.shownGeneration told visit callsOf v) :
    s.Yields context.backend e chain context.shownGeneration told
      (Stage.Verdict chain passes context.shownGeneration x) x m
      (((s.onStage context.backend e x).readVisits visit e passes).flatMap callsOf)
      ((s.onStage context.backend e x).readWith visit e passes) := by
  have hcontext := hs.context_eq hbare context.backend
  unfold readVisits at hfair ⊢
  unfold Store.readWith
  rw [hs.get?_fault] at hfair ⊢
  dsimp only at hfair ⊢
  rw [hcontext] at hfair ⊢
  dsimp only at hfair ⊢
  cases hcache : x.fault.cache with
  | none =>
      have hopen : x.Open context.shownGeneration := fun cached hused => by
        cases hcache.symm.trans hused
      rw [hcache] at hfair
      obtain ⟨x', reading, events, published, hbuild, hbuilt, hrest⟩ :=
        hs.buildWith hbare hcache hspare htold hfair
      exact ⟨x', reading, events, published, hbuild, .built hopen hbuilt, hrest⟩
  | some cached =>
      rw [hcache] at hfair
      dsimp only at hfair ⊢
      -- A document of this generation is the answer. Any other is retired first, which is part of
      -- the passage that follows.
      by_cases hcurrent : cached.generation = context.shownGeneration
      · rw [if_pos hcurrent, if_pos hcurrent]
        exact ⟨x, _, _, _, rfl, .found rfl hcache hcurrent, .refl x, rfl, hspare,
          fun call hmem => by cases hmem⟩
      · rw [if_neg hcurrent] at hfair
        rw [if_neg hcurrent, if_neg hcurrent]
        let x₀ : Stage := { x with
          fault := { x.fault with
            cache := none
            retired := x.fault.cache.toList ++ x.fault.retired } }
        have hevict : (s.onStage context.backend e x).evict e = s.onStage context.backend e x₀ :=
          modifyFault_onStage _ _
        have hopen : x.Open context.shownGeneration := fun cached' hused =>
          Option.some.inj (hcache.symm.trans hused) ▸ hcurrent
        have hevicted : Stage.Passage context.shownGeneration told x [] [] x₀ :=
          { history := rfl, bare := rfl, slot := .renewed hopen rfl rfl nofun }
        rw [hevict] at hfair ⊢
        obtain ⟨x', reading, events, published, hbuild, hbuilt, hpassage, howes, hspare', hhosts⟩ :=
          hs.buildWith (x := x₀) hbare rfl hspare htold hfair
        have hwhole := hevicted.trans hpassage
        rw [List.append_nil, List.append_nil] at hwhole
        exact ⟨x', reading, events, published, hbuild, .built hopen hbuilt, hwhole, howes, hspare',
          fun call hmem => (hhosts call hmem).mono ⟨_, _, hevicted⟩ (.refl x')⟩

end Building

/-- A reader gives up the reference that was held for it, which is not the last. -/
theorem Contested.release_spare (hs : s.Contested e f context chain) (hspare : x.Spare e (1 + m)) :
    ∃ x', (s.onStage context.backend e x).release e = s.onStage context.backend e x' ∧
      x.Visited generation told x' ∧ x'.Spare e m := by
  rw [Stage.Spare] at hspare
  have hlast : x.fault.refs ≠ 1 := fun hone => by
    rw [hone, UInt32.toNat_one] at hspare
    omega
  have hle : (1 : UInt32) ≤ x.fault.refs := by
    rw [UInt32.le_iff_toNat_le, UInt32.toNat_one]
    omega
  refine ⟨_, hs.release _ hlast, ⟨[], [], ⟨rfl, rfl, .kept rfl rfl⟩, rfl⟩, ?_⟩
  rw [Stage.Spare]
  dsimp only
  rw [UInt32.toNat_sub_of_le _ _ hle, UInt32.toNat_one]
  omega

/-- **Readers who are let in are fair**, as long as they and those whom they let in read the same
error, and what their passes come to is told.  The induction is on how many may still come in. -/
theorem Contested.fair_reader (hs : s.Contested e f context chain) (n : Nat) (v : Visit)
    (hsame : ∀ call ∈ v.calls n, call.Tells e chain told) :
    s.Fair context.backend e f chain context.shownGeneration told (reader n) (Visit.calls n) v := by
  induction n generalizing v with
  | zero =>
      intro x m hstore _ hspare
      exact ⟨x, hstore, ⟨_, _, .refl x, rfl⟩, hspare.mono (Nat.le_add_left _ _),
        fun call hmem => by cases hmem⟩
  | succ n ih =>
      intro x m hstore hbare hspare
      obtain ⟨hfault, htold⟩ := hsame _ List.mem_cons_self
      obtain ⟨⟨serial, e', passes⟩, store⟩ := v
      obtain rfl : e' = e := hfault
      obtain rfl : store = _ := hstore
      rw [List.count_singleton_self] at hspare
      have hnest := nest_eq n (s.onStage context.backend e' x) e' passes
      obtain ⟨x₁, reading, events, published, hread, hverdict, hpassage, howes, hspare₁, hhosts⟩ :=
        hs.readWith hbare hspare htold fun v hmem => ih v fun call hcall => by
          refine hsame call (List.mem_cons_of_mem _ ?_)
          rw [hnest]
          exact List.mem_flatMap.2 ⟨v, hmem, hcall⟩
      obtain ⟨x', hrelease, hreleased, hspare'⟩ := hs.release_spare hspare₁
      have hresult : Call.result
          { fault := e', passes, store := s.onStage context.backend e' x, depth := n } =
            (s.onStage context.backend e' x₁, reading) := hread
      refine ⟨x', ?_, .trans ⟨_, _, hpassage, howes⟩ hreleased, hspare', fun call hmem => ?_⟩
      · rw [reader_succ, hresult, hrelease]
      · rw [Visit.calls, hnest] at hmem
        rcases List.mem_cons.1 hmem with rfl | hmem
        · exact ⟨x, events, published, x₁, reading, rfl, hresult, hverdict, .refl x, hpassage,
            howes, hreleased.reaches⟩
        · exact (hhosts call hmem).mono (.refl x) hreleased.reaches

/-- **A reading that lets readers of the same error compete with it**, and all that come of it. -/
theorem Contested.read (hs : s.Contested e f context chain) {backend : Backend}
    (hbackend : s.backends.get? context.backend = some backend)
    (hspare : Stage.Spare { backend, fault := f } e m) {passes : Passes}
    (hsame : ∀ call ∈ s.calls e passes, call.Tells e chain told) :
    s.Yields context.backend e chain context.shownGeneration told
      (Stage.Verdict chain passes context.shownGeneration { backend, fault := f })
      { backend, fault := f } m (s.calls e passes) (s.read e passes) := by
  have hself := onStage_self hbackend hs.found
  have hnest := nest_eq s.waiting s e passes
  have hread := hs.readWith (x := { backend, fault := f }) rfl hspare
    (hsame _ List.mem_cons_self).2 fun v hmem =>
      hs.fair_reader s.waiting v fun call hcall => by
        refine hsame call (List.mem_cons_of_mem _ ?_)
        rw [hself] at hmem
        rw [hnest]
        exact List.mem_flatMap.2 ⟨v, hmem, hcall⟩
  rw [hself, ← hnest] at hread
  obtain ⟨x', reading, events, published, hresult, hverdict, hpassage, howes, hspare', hhosts⟩ :=
    hread
  refine ⟨x', reading, events, published, hresult, hverdict, hpassage, howes, hspare',
    fun call hmem => ?_⟩
  rcases List.mem_cons.1 hmem with rfl | hmem
  · exact ⟨_, events, published, x', reading, hself.symm, hresult, hverdict, .refl _, hpassage,
      howes, .refl x'⟩
  · exact hhosts call hmem

end Calls

end Store

end FaultChain

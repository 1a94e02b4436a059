import FaultChain.Document.Frames

/-!
# The loop writes the nested document

A document is defined by recursion on its chain (`Document.nested`) and written by a loop over a
stack of frames (`Document.run`).  `nestedPieces` is the recursion again, as a list of pieces, and
`run_closed` says that the loop writes exactly these for the frame on top of its stack, whatever
lies below.  How many links fit is then a matter of the capacity alone: a stack that is not reserved
holds sixteen, one that is holds as many as are ever written (`write_eq`).

### What is load-bearing

The stack of `run` is a list, so nothing can be read or written past its end.  `Loop` is the same
loop over a fixed run of places, in which every access is checked; it goes wrong where a place is
touched that is not there.  `Loop.Shows` relates the places in use to the list, and one iteration of
the one to one unfolding of the other, so the loop never goes wrong and comes to an end
(`exec_start`).

### Why the capacity does not come into it twice

A frame is put on top of the stack only where it has room, and a cause is written only while the
depth limit is not reached; whichever comes first ends the document with the marker.  A stack that
is reserved has a place for every link up to the limit, so it never comes first.  A chain of no more
than `inlineFrames` links has a place for every link without a reservation.  What is left is a
longer chain whose frames were refused: `writeLimit` is the smaller number there, and the marker
says so.
-/

namespace FaultChain.Document

/-! ## The recursion as a list of pieces

Pieces are compared and not texts, since the loop reports a cut by pushing the marker as a piece of
its own.
-/

/-- The pieces of the object of a link with its causes, of which `budget` more may be written. -/
def nestedPieces (budget : Nat) (top : Link) (causes : List Link) : List String :=
  match causes, budget with
  | [], _ => ["\x7b", fields top, "\x7d"]
  | _ :: _, 0 => ["\x7b", fields top, causeKey, marker, "\x7d"]
  | cause :: rest, more + 1 =>
    "\x7b" :: fields top :: causeKey :: (nestedPieces more cause rest ++ ["\x7d"])

/-- The pieces together are the document. -/
theorem join_nestedPieces (budget : Nat) (top : Link) (causes : List Link) :
    String.join (nestedPieces budget top causes) = nested budget top causes := by
  induction causes generalizing budget top with
  | nil =>
      simp only [nestedPieces, nested, String.join_cons, String.join_nil, String.append_assoc,
        String.append_empty]
  | cons cause rest ih =>
      cases budget with
      | zero =>
          simp only [nestedPieces, nested, String.join_cons, String.join_nil, String.append_assoc,
            String.append_empty]
      | succ more =>
          simp only [nestedPieces, nested, String.join_cons, String.join_append, String.join_nil,
            ih, String.append_assoc, String.append_empty]

/-- Two budgets that cut a chain at the same link, or not at all, give the same document. -/
theorem nestedPieces_congr {budget budget' : Nat} (top : Link) {causes : List Link}
    (h : min budget causes.length = min budget' causes.length) :
    nestedPieces budget top causes = nestedPieces budget' top causes := by
  induction causes generalizing budget budget' top with
  | nil => rw [nestedPieces, nestedPieces]
  | cons cause rest ih =>
      rw [List.length_cons] at h
      cases budget with
      | zero =>
          obtain rfl : budget' = 0 := by omega
          rfl
      | succ more =>
          obtain ⟨more', rfl⟩ : ∃ more', budget' = more' + 1 := ⟨budget' - 1, by omega⟩
          have hrest : min more rest.length = min more' rest.length := by omega
          rw [nestedPieces, nestedPieces, ih cause hrest]

/-- Fields start with a quote, so they are neither a brace nor the marker. -/
theorem fields_ne {l : Link} {text : String} (h : text.toList.head? ≠ some '"') :
    fields l ≠ text := by
  have hdomain : "\"domain\":".toList.head? = some '"' := by
    decide
  rintro rfl
  refine h ?_
  delta fields
  simp only [String.append_assoc]
  rw [String.toList_append, List.head?_append, hdomain, Option.some_or]

/-- The marker is one of the pieces if there are more causes than may be written, and only then.
The fields of a link start with a quote, so no link looks like it. -/
theorem marker_mem_nestedPieces_iff {budget : Nat} {top : Link} {causes : List Link} :
    marker ∈ nestedPieces budget top causes ↔ budget < causes.length := by
  have hbrace : marker ≠ "\x7b" ∧ marker ≠ "\x7d" ∧ marker ≠ causeKey := by decide
  have hfields : ∀ l, marker ≠ fields l := fun l => (fields_ne (by decide)).symm
  induction causes generalizing budget top with
  | nil => simp [nestedPieces, hbrace, hfields]
  | cons cause rest ih =>
      cases budget with
      | zero => simp [nestedPieces]
      | succ more => simp [nestedPieces, hbrace, hfields, ih]

/-- An object is opened for every link that is written.  Braces within the texts of a link do not
count, as they are parts of longer pieces. -/
theorem count_brace_nestedPieces (budget : Nat) (top : Link) (causes : List Link) :
    (nestedPieces budget top causes).count "\x7b" = min budget causes.length + 1 := by
  have hbrace : "\x7d" ≠ "\x7b" ∧ marker ≠ "\x7b" ∧ causeKey ≠ "\x7b" := by decide
  have hfields : ∀ l, fields l ≠ "\x7b" := fun l => fields_ne (by decide)
  induction causes generalizing budget top with
  | nil => simp [nestedPieces, hbrace, hfields]
  | cons cause rest ih =>
      cases budget with
      | zero => simp [nestedPieces, hbrace, hfields]
      | succ more =>
          simp only [nestedPieces, List.count_cons, List.count_append, ih, List.count_nil,
            beq_iff_eq, hbrace, hfields, if_false, if_true, List.length_cons]
          omega

/-! ## What the loop writes

The loop is followed by a recursion on the causes of the frame on top of its stack.  What lies below
it comes into it only when the frame is done.
-/

/-- **The frame on top of the stack** is written as the recursion says, with as many causes as there
is room for above it.  What lies below is left as it is, so the recursion may be followed one object
at a time. -/
theorem run_closed {capacity budget : Nat} (top : Link) (causes : List Link) (outer : List Frame)
    (written : Array String) (cut : Bool) (hroom : outer.length + 1 + budget = capacity) :
    run capacity ({ link := top, causes } :: outer) written cut =
      run capacity outer (written ++ nestedPieces budget top causes)
        (cut || decide (budget < causes.length)) := by
  induction causes generalizing budget top outer written cut with
  | nil =>
      rw [run]
      simp [nestedPieces]
  | cons cause rest ih =>
      rw [run]
      cases budget with
      | zero =>
          rw [if_neg (by omega)]
          simp [nestedPieces]
      | succ more =>
          -- The cause is written by the hypothesis for it, with this frame, now open, below.
          have hrest : outer.length + 1 + 1 + more = capacity := by omega
          rw [if_pos (by omega), ih cause _ _ _ hrest, run]
          have hpush : ∀ (before : Array String) (inner : List String),
              (before ++ inner).push "\x7d" = before ++ (inner ++ ["\x7d"]) :=
            fun before inner => Array.ext' (by simp)
          rw [hpush]
          simp [nestedPieces]

/-- How many links of a chain are written: as many as ever are, unless the chain needs a reserved
stack and does not get it. -/
def writeLimit (reservation : Reservation) (chain : Chain) : Nat :=
  if chain.length ≤ inlineFrames ∨ reservation = .granted then depthLimit else inlineFrames

/-- The stack has room for as many links as are written, or for the whole chain; so that no chain is
cut in a place where `writeLimit` does not say so. -/
theorem capacity_spec (reservation : Reservation) (chain : Chain) :
    0 < capacity reservation chain ∧
      min (capacity reservation chain) chain.length =
        min (writeLimit reservation chain) chain.length := by
  unfold capacity writeLimit measuredDepth inlineFrames depthLimit
  cases reservation with
  | granted =>
      simp only [or_true, if_true]
      split <;> omega
  | refused =>
      simp only [reduceCtorEq, or_false, ite_self]
      split <;> omega

theorem cutAtStart_eq (reservation : Reservation) (chain : Chain) :
    cutAtStart reservation chain = decide (writeLimit reservation chain < chain.length) := by
  unfold cutAtStart writeLimit measuredDepth inlineFrames depthLimit
  rw [Bool.eq_iff_iff, Bool.or_eq_true, Bool.and_eq_true, beq_iff_eq]
  simp only [decide_eq_true_iff]
  cases reservation with
  | granted => simp only [reduceCtorEq, and_false, or_false, or_true, if_true]
  | refused =>
      simp only [reduceCtorEq, or_false, and_true]
      split <;> omega

/-- **The loop writes the nested document**, and reports a cut where a cause is left out. -/
theorem write_eq (reservation : Reservation) (chain : Chain) :
    write reservation chain =
      ((nestedPieces (writeLimit reservation chain - 1) chain.top chain.causes).toArray,
        decide (writeLimit reservation chain < chain.length)) := by
  obtain ⟨hpos, hmin⟩ := capacity_spec reservation chain
  have hlength : chain.length = chain.causes.length + 1 := rfl
  have hroom : ([] : List Frame).length + 1 + (capacity reservation chain - 1) =
      capacity reservation chain := by
    rw [List.length_nil]
    omega
  have hbudget : min (capacity reservation chain - 1) chain.causes.length =
      min (writeLimit reservation chain - 1) chain.causes.length := by
    omega
  have hcut : decide (capacity reservation chain - 1 < chain.causes.length) =
      decide (writeLimit reservation chain < chain.length) :=
    decide_eq_decide.mpr (by omega)
  rw [write, run_closed _ _ _ _ _ hroom, run, nestedPieces_congr _ hbudget, cutAtStart_eq, hcut,
    Bool.or_self]
  simp

/-! ## The loop over places

The stack is a list above, and a list has room for anything.  Here it is a run of places and a
length, as in the code, and every access asks whether the place is there.
-/

/-- A fixed run of places for frames, of which the first `len` are in use.  What is written so far,
and whether something was left out, goes along. -/
structure Loop where
  places : Array (Option Frame)
  len : Nat
  written : Array String := #[]
  cut : Bool

namespace Loop

/-- Puts a frame, or nothing, into a place, if it is there. -/
def put (places : Array (Option Frame)) (i : Nat) (entry : Option Frame) :
    Option (Array (Option Frame)) :=
  if h : i < places.size then some (places.set i entry h) else none

/-- The loop as it starts, with the outermost link in the first of `capacity` empty places. -/
def start (capacity : Nat) (chain : Chain) (cut : Bool) : Option Loop := do
  let places ← put (Array.replicate capacity none) 0
    (some { link := chain.top, causes := chain.causes })
  return { places, len := 1, cut }

/-- Ends the object of the last place in use and empties the place. -/
def close (s : Loop) : Option Loop := do
  let places ← put s.places (s.len - 1) none
  return { s with places, len := s.len - 1, written := s.written.push "\x7d" }

/-- One iteration; nothing where it touches a place that is not there. -/
def step (s : Loop) : Option Loop := do
  match ← s.places[s.len - 1]? with
  | some { link, causes, opened := false } =>
    let places ← put s.places (s.len - 1) (some { link, causes, opened := true })
    let written := (s.written.push "\x7b").push (fields link)
    match causes with
    | [] => close { s with places, written }
    | cause :: rest =>
      let written := written.push causeKey
      if s.len < places.size then
        let places ← put places s.len (some { link := cause, causes := rest })
        return { s with places, len := s.len + 1, written }
      else
        close { s with places, written := written.push marker, cut := true }
  | _ => close s

/-- Iterates while a place is in use; nothing where an iteration goes wrong, or `count` of them do
not come to an end. -/
def exec : Nat → Loop → Option Loop
  | 0, s => if s.len = 0 then some s else none
  | count + 1, s => if s.len = 0 then some s else s.step.bind (exec count)

/-- Writes a chain in at most two iterations for each of its links. -/
def write (reservation : Reservation) (chain : Chain) : Option (Array String × Bool) := do
  let s ← start (capacity reservation chain) chain (cutAtStart reservation chain)
  let s ← exec (2 * chain.length) s
  return (s.written, s.cut)

/-- The frames of a stack, innermost first, are in the places up to its length.  The places beyond
may hold anything: nobody looks at them. -/
def Holds (places : Array (Option Frame)) : List Frame → Prop
  | [] => True
  | frame :: outer => places[outer.length]? = some (some frame) ∧ Holds places outer

/-- The places in use are the frames of a stack. -/
structure Shows (s : Loop) (capacity : Nat) (stack : List Frame) : Prop where
  size : s.places.size = capacity
  len : s.len = stack.length
  holds : Holds s.places stack

/-- A place that is there can be put into, and the other places stay as they are. -/
theorem exists_put {places : Array (Option Frame)} {i : Nat} (h : i < places.size)
    (entry : Option Frame) :
    ∃ places', put places i entry = some places' ∧ places'.size = places.size ∧
      places'[i]? = some entry ∧ ∀ j, j ≠ i → places'[j]? = places[j]? := by
  refine ⟨places.set i entry h, dif_pos h, Array.size_set h, Array.getElem?_set_self h, ?_⟩
  intro j hj
  exact Array.getElem?_set_ne h hj.symm

/-- What is put above a stack does not touch it. -/
theorem Holds.congr {places places' : Array (Option Frame)} {stack : List Frame}
    (h : Holds places stack) (hsame : ∀ j, j < stack.length → places'[j]? = places[j]?) :
    Holds places' stack := by
  induction stack with
  | nil => trivial
  | cons frame outer ih =>
      obtain ⟨htop, houter⟩ := h
      refine ⟨?_, ih houter fun j hj => hsame j (Nat.lt_succ_of_lt hj)⟩
      rw [hsame _ (Nat.lt_succ_self _), htop]

variable {s : Loop} {capacity : Nat} {frame : Frame} {outer : List Frame}

/-- The frame on top of the stack has a place. -/
theorem Shows.lt_size (h : s.Shows capacity (frame :: outer)) : outer.length < s.places.size :=
  (Array.getElem?_eq_some_iff.mp h.holds.1).1

/-- The last place in use is that of the frame on top. -/
theorem Shows.last (h : s.Shows capacity (frame :: outer)) : s.len - 1 = outer.length := by
  rw [h.len, List.length_cons, Nat.add_sub_cancel]

/-- Closing ends the object on top of the stack and takes it off. -/
theorem Shows.close (h : s.Shows capacity (frame :: outer)) :
    ∃ s', s.close = some s' ∧ s'.Shows capacity outer ∧ s'.written = s.written.push "\x7d" ∧
      s'.cut = s.cut := by
  obtain ⟨places, hput, hsize, -, hsame⟩ := exists_put h.lt_size none
  refine ⟨{ s with places, len := outer.length, written := s.written.push "\x7d" }, ?_,
    ⟨hsize.trans h.size, rfl, ?_⟩, rfl, rfl⟩
  · rw [Loop.close, h.last, hput]
    rfl
  · exact h.holds.2.congr fun j hj => hsame j (Nat.ne_of_lt hj)

/-- The frame on top of the stack can be marked as open. -/
theorem Shows.mark {link : Link} {causes : List Link}
    (h : s.Shows capacity ({ link, causes } :: outer)) :
    ∃ places, put s.places (s.len - 1) (some { link, causes, opened := true }) = some places ∧
      ∀ written cut, Shows { s with places, written, cut } capacity
        ({ link, causes, opened := true } :: outer) := by
  rw [h.last]
  obtain ⟨places, hput, hsize, hmarked, hsame⟩ :=
    exists_put h.lt_size (some { link, causes, opened := true })
  refine ⟨places, hput, fun _ _ => ⟨hsize.trans h.size, h.len, hmarked, ?_⟩⟩
  exact h.holds.2.congr fun j hj => hsame j (Nat.ne_of_lt hj)

/-- Where a place is left, a frame can be put on top of the stack. -/
theorem Shows.push {stack : List Frame} (h : s.Shows capacity stack) (hroom : s.len < s.places.size)
    (frame : Frame) :
    ∃ places, put s.places s.len (some frame) = some places ∧
      Shows { s with places, len := s.len + 1 } capacity (frame :: stack) := by
  obtain ⟨places, hput, hsize, hnew, hsame⟩ := exists_put hroom (some frame)
  refine ⟨places, hput, hsize.trans h.size, ?_, h.len ▸ hnew, h.holds.congr fun j hj => hsame j ?_⟩
  · rw [h.len, List.length_cons]
  · rw [h.len]
    exact Nat.ne_of_lt hj

/-- **One iteration** is one unfolding of `run`: it touches only places that are there, it leaves
what the loop will have written at its end as it was, and what is left to do weighs less.  The three
go together, as each of them needs the same cases. -/
theorem Shows.step (h : s.Shows capacity (frame :: outer)) :
    ∃ s' stack, s.step = some s' ∧ s'.Shows capacity stack ∧
      run capacity stack s'.written s'.cut = run capacity (frame :: outer) s.written s.cut ∧
      stackWeight stack < stackWeight (frame :: outer) := by
  have hentry : s.places[s.len - 1]? = some (some frame) := by
    rw [h.last, h.holds.1]
  rcases frame with ⟨link, causes, _ | _⟩
  case true =>
    obtain ⟨s', hclose, hshows, hwritten, hcut⟩ := h.close
    refine ⟨s', outer, ?_, hshows, ?_, ?_⟩
    · simp only [Loop.step, hentry, Option.bind_eq_bind, Option.bind_some]
      exact hclose
    · rw [hwritten, hcut, run]
    · simp [stackWeight, Frame.weight]
  case false =>
    -- The frame is marked as open before its cause is looked at.
    obtain ⟨places, hmark, hopened⟩ := h.mark
    have hsize : places.size = capacity := (hopened s.written s.cut).size
    cases causes with
    | nil =>
        obtain ⟨s', hclose, hshows, hwritten, hcut⟩ :=
          (hopened ((s.written.push "\x7b").push (fields link)) s.cut).close
        refine ⟨s', outer, ?_, hshows, ?_, ?_⟩
        · simp only [Loop.step, hentry, hmark, Option.bind_eq_bind, Option.bind_some]
          exact hclose
        · rw [hwritten, hcut, run]
        · simp [stackWeight, Frame.weight]
    | cons cause rest =>
        let written := ((s.written.push "\x7b").push (fields link)).push causeKey
        by_cases hroom : outer.length + 1 < capacity
        · have hfree : s.len < places.size := by
            rw [h.len, hsize]
            exact hroom
          obtain ⟨_, hput, hpushed⟩ :=
            (hopened written s.cut).push hfree { link := cause, causes := rest }
          refine ⟨_, _, ?_, hpushed, ?_, ?_⟩
          · simp only [Loop.step, hentry, hmark, Option.bind_eq_bind, Option.bind_some,
              if_pos hfree, hput]
            rfl
          · rw [run, if_pos hroom]
          · simp [stackWeight, Frame.weight]
            omega
        · have hfull : ¬ s.len < places.size := by
            rw [h.len, hsize]
            exact hroom
          obtain ⟨s', hclose, hshows, hwritten, hcut⟩ :=
            (hopened (written.push marker) true).close
          refine ⟨s', outer, ?_, hshows, ?_, ?_⟩
          · simp only [Loop.step, hentry, hmark, Option.bind_eq_bind, Option.bind_some,
              if_neg hfull]
            exact hclose
          · rw [hwritten, hcut, run, if_neg hroom]
          · simp [stackWeight, Frame.weight]

/-- From a stack of frames the loop comes to its end in as many iterations as they weigh, with what
`run` writes. -/
theorem exec_eq {count : Nat} {stack : List Frame} (h : s.Shows capacity stack)
    (hcount : stackWeight stack ≤ count) :
    ∃ s', exec count s = some s' ∧ (s'.written, s'.cut) = run capacity stack s.written s.cut := by
  induction count generalizing s stack with
  | zero =>
      -- A frame weighs something, so nothing is left of the stack.
      cases stack with
      | nil => exact ⟨s, if_pos h.len, by rw [run]⟩
      | cons frame outer =>
          obtain ⟨_, _, _, _, _, hless⟩ := h.step
          omega
  | succ count ih =>
      cases stack with
      | nil => exact ⟨s, if_pos h.len, by rw [run]⟩
      | cons frame outer =>
          obtain ⟨s₁, stack, hstep, hshows, hrun, hless⟩ := h.step
          obtain ⟨s', hexec, hwritten⟩ := ih hshows (by omega)
          refine ⟨s', ?_, hwritten.trans hrun⟩
          have hbusy : s.len ≠ 0 := by
            rw [h.len]
            exact Nat.succ_ne_zero _
          rw [exec, if_neg hbusy, hstep, Option.bind_some, hexec]

/-- A loop that has a place at all can be started. -/
theorem exists_start {capacity : Nat} (hpos : 0 < capacity) (chain : Chain) (cut : Bool) :
    ∃ s, start capacity chain cut = some s ∧
      s.Shows capacity [{ link := chain.top, causes := chain.causes }] ∧ s.written = #[] ∧
      s.cut = cut := by
  have hplace : 0 < (Array.replicate capacity (none : Option Frame)).size := by
    rwa [Array.size_replicate]
  obtain ⟨places, hput, hsize, htop, -⟩ :=
    exists_put hplace (some { link := chain.top, causes := chain.causes })
  refine ⟨{ places, len := 1, cut }, ?_, ⟨hsize.trans Array.size_replicate, rfl, htop, trivial⟩,
    rfl, rfl⟩
  rw [start, hput]
  rfl

/-- The loop over places never touches one that is not there and comes to its end in at most two
iterations for each link, with what the loop over a stack writes. -/
theorem exec_start (reservation : Reservation) (chain : Chain) :
    write reservation chain = some (Document.write reservation chain) := by
  obtain ⟨s, hstart, hshows, hwritten, hcut⟩ :=
    exists_start (capacity_spec reservation chain).1 chain (cutAtStart reservation chain)
  have hweight : stackWeight [{ link := chain.top, causes := chain.causes }] ≤
      2 * chain.length := by
    simp [stackWeight, Frame.weight, Chain.length]
    omega
  obtain ⟨s', hexec, hend⟩ := exec_eq hshows hweight
  rw [hwritten, hcut] at hend
  simp only [write, hstart, hexec, Option.bind_eq_bind, Option.bind_some, hend]
  rfl

end Loop

/-! ## What is pushed

Bytes at last, so that what is said of pieces is said of what a window is offered.
-/

/-- The bytes of pieces that are pushed one after the other. -/
def pushed (pieces : List String) : ByteArray :=
  pieces.foldl (fun bytes piece => bytes ++ piece.toUTF8) ByteArray.empty

/-- Pushing pieces one after the other comes to pushing their text. -/
theorem pushed_eq (pieces : List String) : pushed pieces = (String.join pieces).toUTF8 := by
  have hfold : ∀ before : String,
      pieces.foldl (fun bytes piece => bytes ++ piece.toUTF8) before.toUTF8 =
        (before ++ String.join pieces).toUTF8 := by
    induction pieces with
    | nil => simp
    | cons piece rest ih =>
        intro before
        rw [List.foldl_cons, String.join_cons, ← String.append_assoc, ← ih]
        rfl
  rw [pushed, ← String.empty_append (s := String.join pieces), ← hfold]
  rfl

/-- **What the loop writes for a chain.**  The bytes that it pushes are those of the nested document
of as many links as are written; causes are reported as left out exactly if the marker is among the
pieces, which is if the chain is longer than that; the loop over places, which goes wrong at the
first place that is not there, comes to its end with the same pieces and the same report; and a
chain that fits the inline frames is written the same whatever a reservation would answer. -/
theorem frameLoop_correct (reservation : Reservation) (chain : Chain) :
    pushed (pieces reservation chain).toList =
        (ofChain (writeLimit reservation chain) chain).toUTF8 ∧
      (isCut reservation chain = true ↔ marker ∈ pieces reservation chain) ∧
      (isCut reservation chain = true ↔ writeLimit reservation chain < chain.length) ∧
      (pieces reservation chain).count "\x7b" = min (writeLimit reservation chain) chain.length ∧
      Loop.write reservation chain = some (pieces reservation chain, isCut reservation chain) ∧
      (chain.length ≤ inlineFrames → write .refused chain = write .granted chain) := by
  have hwrite := write_eq reservation chain
  have hpieces : pieces reservation chain =
      (nestedPieces (writeLimit reservation chain - 1) chain.top chain.causes).toArray :=
    congrArg Prod.fst hwrite
  have hcut : isCut reservation chain = decide (writeLimit reservation chain < chain.length) :=
    congrArg Prod.snd hwrite
  have hlength : chain.length = chain.causes.length + 1 := rfl
  have hpos : 0 < writeLimit reservation chain := by
    unfold writeLimit inlineFrames depthLimit
    split <;> omega
  refine ⟨?_, ?_, ?_, ?_, Loop.exec_start reservation chain, ?_⟩
  · rw [pushed_eq, hpieces, join_nestedPieces, ofChain]
  · rw [hcut, hpieces, List.mem_toArray, marker_mem_nestedPieces_iff, decide_eq_true_iff]
    omega
  · rw [hcut, decide_eq_true_iff]
  · rw [hpieces, List.count_toArray, count_brace_nestedPieces]
    omega
  · intro hshort
    rw [write_eq, write_eq, writeLimit, writeLimit, if_pos (.inl hshort), if_pos (.inl hshort)]

end FaultChain.Document

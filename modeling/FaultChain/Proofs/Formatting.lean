import FaultChain.Proofs.Rendering

/-!
# What two passes leave of a message

The first pass of a message is measured and the second is written into as many bytes.  What the
second pass leaves there is said here in characters: `kept` gives those of each text that fit into
what the texts before it left free.  An argument that stops at the first text that is cut leaves the
longest prefix of all that it offers (`kept_eq_fitting`).  One that goes on regardless leaves this
prefix as well, and may put characters behind it that fit into the few bytes that the cut left free
(`kept_eq_append`).

### What is load-bearing

`Writer.write` keeps whole characters of a text, whereas a place in bytes may lie inside of one.
`Slice.write?` is the same over the bytes themselves: it looks for the place to cut at by going down
byte by byte, and every difference, every range and every step down is checked.  It never goes wrong
(`Slice.write?_filled`), as the places between characters are the sizes of the prefixes.

### Two passes that need not agree

An argument is asked twice for its text, and nothing forces it to say the same.  The code relies on
agreement nowhere: the first pass decides the capacity, the second is cut wherever that is reached,
and the rest of the buffer was zero before.  So every statement here is about a length and a second
pass that have nothing to do with each other; that the message is all of what the argument offers is
the case in which they happen to fit (`text_stored_of_le`).

### Where an argument does not stop

A write that is cut reports it, and an argument that takes the report for an error writes no more.
One that ignores it may offer further texts.  The cut left fewer bytes free than the character
before which it was made, and a smaller character still fits there, so what is stored is no longer a
prefix of what was offered.  `kept_eq_append` says how far this can go: behind the prefix stand
characters that were offered later, all of them together smaller than the one that was dropped.
This is behaviour of the code and not of the model, and both sides of it are stated (`Formatted`,
`exists_overrun`).
-/

namespace FaultChain.Message

open Memory (Block Buffer)

/-! ## Prefixes that fit

A text is cut between characters, so what fits is found by adding up sizes of characters.  That it
is the longest prefix there is, is shown for lists of characters, where a prefix is easy to handle.
-/

/-- How many bytes characters take.  Sizes are added up character by character, where a text has its
size at once. -/
def textSize (cs : List Char) : Nat :=
  (String.ofList cs).utf8ByteSize

@[simp]
theorem textSize_nil : textSize [] = 0 := rfl

@[simp]
theorem textSize_cons (c : Char) (cs : List Char) :
    textSize (c :: cs) = c.utf8Size + textSize cs := by
  rw [textSize, String.ofList_cons, String.utf8ByteSize_append, String.utf8ByteSize_singleton]
  rfl

@[simp]
theorem textSize_append (xs ys : List Char) : textSize (xs ++ ys) = textSize xs + textSize ys := by
  rw [textSize, String.ofList_append, String.utf8ByteSize_append]
  rfl

/-- Both ways to measure a text agree. -/
theorem textSize_toList (s : String) : textSize s.toList = s.utf8ByteSize := by
  rw [textSize, String.ofList_toList]

section Fitting

variable {room : Nat} {xs ys cs : List Char}

/-- What fits is kept, and then as much as there is room left for. -/
theorem fitting_append_of_le (ys : List Char) (h : textSize xs ≤ room) :
    fitting room (xs ++ ys) = xs ++ fitting (room - textSize xs) ys := by
  induction xs generalizing room with
  | nil => rfl
  | cons c xs ih =>
      rw [textSize_cons] at h
      have hc : c.utf8Size ≤ room := Nat.le_of_add_right_le h
      rw [List.cons_append, fitting, if_pos hc, ih (Nat.le_sub_of_add_le' h), textSize_cons,
        Nat.sub_sub]
      rfl

/-- After a cut nothing is kept. -/
theorem fitting_append_of_lt (ys : List Char) (h : room < textSize xs) :
    fitting room (xs ++ ys) = fitting room xs := by
  induction xs generalizing room with
  | nil => exact absurd h (Nat.not_lt_zero room)
  | cons c xs ih =>
      rw [List.cons_append, fitting, fitting]
      split
      · next hc =>
          rw [textSize_cons] at h
          rw [ih (by omega)]
      · rfl

/-- What fits is kept as a whole. -/
theorem fitting_of_le (h : textSize cs ≤ room) : fitting room cs = cs := by
  have happend := fitting_append_of_le [] h
  rw [List.append_nil] at happend
  rw [happend]
  exact List.append_nil cs

/-- Characters that do not all fit are cut before one that does not. -/
theorem exists_cut (h : room < textSize cs) :
    ∃ c rest, cs = fitting room cs ++ c :: rest ∧
      room < textSize (fitting room cs) + c.utf8Size := by
  induction cs generalizing room with
  | nil => exact absurd h (Nat.not_lt_zero room)
  | cons d cs ih =>
      rw [textSize_cons] at h
      rw [fitting]
      split
      · next hd =>
          obtain ⟨c, rest, hsplit, hcut⟩ := @ih (room - d.utf8Size) (by omega)
          refine ⟨c, rest, ?_, ?_⟩
          · rw [List.cons_append, ← hsplit]
          · rw [textSize_cons]
            omega
      · next hd => exact ⟨d, cs, rfl, by rw [textSize_nil]; omega⟩

/-- What is kept is a prefix. -/
theorem fitting_leads (room : Nat) (cs : List Char) : fitting room cs <+: cs := by
  rcases Nat.lt_or_ge room (textSize cs) with hcut | hfits
  · obtain ⟨c, rest, hsplit, -⟩ := exists_cut hcut
    exact ⟨c :: rest, hsplit.symm⟩
  · exact ⟨[], by rw [List.append_nil, fitting_of_le hfits]⟩

/-- Whatever else fits is no longer. -/
theorem leads_fitting (hleads : xs <+: cs) (hfits : textSize xs ≤ room) :
    xs <+: fitting room cs := by
  obtain ⟨rest, rfl⟩ := hleads
  rw [fitting_append_of_le rest hfits]
  exact List.prefix_append _ _

end Fitting

/-- **The longest prefix** of a text that takes at most a number of bytes. -/
structure LongestPrefix (room : Nat) (p s : String) : Prop where
  leads : p.toList <+: s.toList
  fits : p.utf8ByteSize ≤ room
  longest : ∀ q : String, q.toList <+: s.toList → q.utf8ByteSize ≤ room → q.toList <+: p.toList

/-- The characters that fit are the longest prefix there is: the next one would not fit, and any
prefix that fits ends before it. -/
theorem longestPrefix_fitting (room : Nat) (s : String) :
    LongestPrefix room (String.ofList (fitting room s.toList)) s where
  leads := by
    rw [String.toList_ofList]
    exact fitting_leads room s.toList
  fits := utf8ByteSize_fitting room s.toList
  longest q hleads hfits := by
    rw [String.toList_ofList]
    rw [← textSize_toList] at hfits
    exact leads_fitting hleads hfits

/-! ## What the second pass leaves

A pass is a list of texts with an error at its end, perhaps.  An argument that stops and one that
goes on differ from the first cut on: the one leaves nothing more, and the other whatever still
fits.
-/

/-- Everything that a pass offers before it reports an error, if it does. -/
def offered : List Action → String
  | .write text :: rest => text ++ offered rest
  | _ => ""

/-- The characters that the rest of a pass leaves in some room.  An argument that stops ends the
pass where something is cut; a persistent one goes on with what is left of the room. -/
def kept (persistent : Bool) (room : Nat) : List Action → List Char
  | .write text :: rest =>
    let cs := fitting room text.toList
    if decide (text.utf8ByteSize ≤ room) || persistent then
      cs ++ kept persistent (room - textSize cs) rest
    else cs
  | _ => []

section Kept

variable {persistent : Bool} {room : Nat} {pass rest : List Action} {text : String}

/-- Measuring from a count on.  Counts stop at the greatest one, which has no layout. -/
theorem measureFrom_eq_some_iff {start length : Nat} (hstart : start ≤ greatestLength) :
    measureFrom start pass = some length ↔
      .fail ∉ pass ∧ length = min (start + (offered pass).utf8ByteSize) greatestLength := by
  induction pass generalizing start with
  | nil =>
      have hnothing : (offered []).utf8ByteSize = 0 := rfl
      rw [measureFrom, hnothing, Nat.add_zero, Nat.min_eq_left hstart]
      simp only [Option.some.injEq, List.not_mem_nil, not_false_eq_true, true_and, eq_comm]
  | cons action rest ih =>
      cases action with
      | fail => simp only [measureFrom, List.mem_cons, true_or, not_true_eq_false, false_and,
          reduceCtorEq]
      | write text =>
          rw [measureFrom, ih (Nat.min_le_right _ _), offered, String.utf8ByteSize_append,
            List.mem_cons]
          have hsum : min (min (start + text.utf8ByteSize) greatestLength +
              (offered rest).utf8ByteSize) greatestLength =
              min (start + (text.utf8ByteSize + (offered rest).utf8ByteSize)) greatestLength := by
            omega
          rw [hsum]
          simp only [reduceCtorEq, false_or]

/-- **Measuring** adds up what a pass offers, if it reports no error. -/
theorem measure_eq_some_iff {length : Nat} :
    measure pass = some length ↔
      .fail ∉ pass ∧ length = min (offered pass).utf8ByteSize greatestLength := by
  rw [measure, measureFrom_eq_some_iff (Nat.zero_le _), Nat.zero_add]

/-- A text that fits is kept, and takes its room. -/
theorem kept_of_fits (h : text.utf8ByteSize ≤ room) :
    kept persistent room (.write text :: rest) =
      text.toList ++ kept persistent (room - text.utf8ByteSize) rest := by
  have hall : fitting room text.toList = text.toList :=
    fitting_of_le (by rwa [textSize_toList])
  rw [kept, hall, decide_eq_true h, Bool.true_or, if_pos rfl, textSize_toList]

/-- A text that does not fit is cut, and the pass ends there or goes on. -/
theorem kept_of_cut (h : room < text.utf8ByteSize) :
    kept persistent room (.write text :: rest) =
      fitting room text.toList ++
        if persistent then kept persistent (room - textSize (fitting room text.toList)) rest
        else [] := by
  rw [kept, decide_eq_false (Nat.not_le_of_lt h), Bool.false_or]
  cases persistent
  · exact (List.append_nil _).symm
  · rfl

/-- A pass leaves no more than there is room for. -/
theorem textSize_kept_le (persistent : Bool) (room : Nat) (pass : List Action) :
    textSize (kept persistent room pass) ≤ room := by
  induction pass generalizing room with
  | nil => exact Nat.zero_le room
  | cons action rest ih =>
      cases action with
      | fail => exact Nat.zero_le room
      | write text =>
          have hcs : textSize (fitting room text.toList) ≤ room := utf8ByteSize_fitting _ _
          have hrest := ih (room - textSize (fitting room text.toList))
          rw [kept]
          split
          · rw [textSize_append]
            omega
          · exact hcs

/-- What a pass leaves was offered, in this order. -/
theorem kept_sublist (persistent : Bool) (room : Nat) (pass : List Action) :
    (kept persistent room pass).Sublist (offered pass).toList := by
  induction pass generalizing room with
  | nil => exact List.nil_sublist _
  | cons action rest ih =>
      cases action with
      | fail => exact List.nil_sublist _
      | write text =>
          have hcs := (fitting_leads room text.toList).sublist
          rw [kept, offered, String.toList_append]
          split
          · exact hcs.append (ih _)
          · exact hcs.trans (List.sublist_append_left _ _)

/-- **An argument that stops** at the first text that is cut leaves the longest prefix of what it
offers. -/
theorem kept_eq_fitting (room : Nat) (pass : List Action) :
    kept false room pass = fitting room (offered pass).toList := by
  induction pass generalizing room with
  | nil => rfl
  | cons action rest ih =>
      cases action with
      | fail => rfl
      | write text =>
          rw [offered, String.toList_append]
          rcases Nat.lt_or_ge room text.utf8ByteSize with hcut | hfits
          · rw [kept_of_cut hcut, fitting_append_of_lt _ (by rwa [textSize_toList])]
            exact List.append_nil _
          · rw [kept_of_fits hfits, fitting_append_of_le _ (by rwa [textSize_toList]),
              textSize_toList, ih]

/-- **An argument that goes on** leaves this prefix and, behind the character before which it was
cut, characters that take fewer bytes than that one. -/
theorem kept_eq_append (persistent : Bool) (room : Nat) (pass : List Action) :
    ∃ more, kept persistent room pass = fitting room (offered pass).toList ++ more ∧
      (more ≠ [] → ∃ c dropped, (offered pass).toList =
        fitting room (offered pass).toList ++ c :: dropped ∧ more.Sublist dropped ∧
          textSize more < c.utf8Size) := by
  induction pass generalizing room with
  | nil => exact ⟨[], rfl, fun hne => absurd rfl hne⟩
  | cons action rest ih =>
      cases action with
      | fail => exact ⟨[], rfl, fun hne => absurd rfl hne⟩
      | write text =>
          rw [offered, String.toList_append]
          rcases Nat.lt_or_ge room text.utf8ByteSize with hcut | hfits
          · have hcut' : room < textSize text.toList := by rwa [textSize_toList]
            rw [kept_of_cut hcut, fitting_append_of_lt _ hcut']
            refine ⟨_, rfl, fun hne => ?_⟩
            cases persistent with
            | false => exact absurd rfl hne
            | true =>
                obtain ⟨c, dropped, hsplit, hroom⟩ := exists_cut hcut'
                have hfront : textSize (fitting room text.toList) ≤ room :=
                  utf8ByteSize_fitting room _
                have hrest := textSize_kept_le true
                  (room - textSize (fitting room text.toList)) rest
                refine ⟨c, dropped ++ (offered rest).toList, ?_, ?_, ?_⟩
                · rw [← List.cons_append, ← List.append_assoc, ← hsplit]
                · exact (kept_sublist _ _ rest).trans (List.sublist_append_right _ _)
                · rw [if_pos rfl]
                  omega
          · have hfits' : textSize text.toList ≤ room := by rwa [textSize_toList]
            obtain ⟨more, hmore, hbehind⟩ := ih (room - text.utf8ByteSize)
            rw [kept_of_fits hfits, fitting_append_of_le _ hfits', textSize_toList]
            refine ⟨more, by rw [hmore, List.append_assoc], fun hne => ?_⟩
            obtain ⟨c, dropped, hsplit, hbehind⟩ := hbehind hne
            refine ⟨c, dropped, ?_, hbehind⟩
            rw [List.append_assoc, ← hsplit]

/-- What follows a cut is no continuation of what was offered. -/
theorem kept_leads_iff {more : List Char} {c : Char} {front dropped : List Char}
    (hsmall : textSize more < c.utf8Size) :
    front ++ more <+: front ++ c :: dropped ↔ more = [] := by
  rw [List.prefix_append_right_inj]
  constructor
  · rintro ⟨rest, hrest⟩
    cases more with
    | nil => rfl
    | cons d more =>
        -- The first of them would be the character before which the text was cut.
        obtain rfl : d = c := (List.cons.inj hrest).1
        rw [textSize_cons] at hsmall
        omega
  · rintro rfl
    exact List.nil_prefix

end Kept

/-! ## Every access checked

The second pass writes into a range of bytes and looks for a place to cut at, going down from the
last byte that fits.  Here every range and every difference is checked, and none goes wrong.
-/

/-- The last place between two characters of a text, going down one byte after another from a given
place; nothing where the search would go below zero. -/
def boundary? (text : String) : Nat → Option Nat
  | 0 => if String.Pos.Raw.isValid text ⟨0⟩ then some 0 else none
  | i + 1 => if String.Pos.Raw.isValid text ⟨i + 1⟩ then some (i + 1) else boundary? text i

/-- The bytes that the second pass writes into, and how many of them it wrote. -/
structure Slice where
  bytes : ByteArray
  pos : Nat

namespace Slice

/-- Writes a text, cut if it does not fit, and says whether it did; nothing where a difference, a
range or a place to cut at does not exist. -/
def write? (w : Slice) (text : String) : Option (Slice × Bool) := do
  let room ← Document.sub? w.bytes.size w.pos
  if text.utf8ByteSize ≤ room then
    let bytes ← Document.fill? w.bytes w.pos (w.pos + text.utf8ByteSize) text.toUTF8
    return ({ bytes, pos := w.pos + text.utf8ByteSize }, true)
  else
    let cut ← boundary? text room
    let piece ← Document.slice? text.toUTF8 0 cut
    let bytes ← Document.fill? w.bytes w.pos (w.pos + cut) piece
    return ({ bytes, pos := w.pos + cut }, false)

/-- The rest of the pass. -/
def run? (persistent : Bool) : List Action → Slice → Option Slice
  | [], w => some w
  | .fail :: _, w => some w
  | .write text :: rest, w => do
    let (w, fits) ← w.write? text
    if fits || persistent then run? persistent rest w else some w

end Slice

/-- The buffer after the second pass into its content, with a terminator if it was shortened;
nothing where an access goes wrong. -/
def stored? (argument : Argument) (buffer : Buffer) : Option Buffer := do
  let blank ← Document.slice? buffer.whole 0 buffer.length
  let w ← Slice.run? argument.persistent argument.second { bytes := blank, pos := 0 }
  let whole ← Document.fill? buffer.whole 0 buffer.length w.bytes
  if w.pos < buffer.length then
    let whole ← Document.set? whole w.pos 0
    return { buffer with length := w.pos, whole }
  else
    return { buffer with whole }

section Checked

variable {text : String} {room : Nat}

/-- The places between characters are the sizes of the prefixes.  The search for a place to cut at
asks the text whether a place is one, and this says what it is told. -/
theorem isValid_iff {i : Nat} :
    String.Pos.Raw.isValid text ⟨i⟩ = true ↔
      ∃ front, front <+: text.toList ∧ textSize front = i := by
  rw [String.Pos.Raw.isValid_eq_true_iff, String.Pos.Raw.isValid_iff_exists_append]
  constructor
  · rintro ⟨front, back, rfl, hi⟩
    refine ⟨front.toList, ⟨back.toList, String.toList_append.symm⟩, ?_⟩
    rw [textSize_toList]
    exact (congrArg String.Pos.Raw.byteIdx hi).symm
  · rintro ⟨front, ⟨back, hsplit⟩, rfl⟩
    refine ⟨String.ofList front, String.ofList back, ?_, rfl⟩
    rw [← String.ofList_append, hsplit, String.ofList_toList]

/-- The search ends at the last place that there is. -/
theorem boundary?_eq {i j : Nat} (hj : String.Pos.Raw.isValid text ⟨j⟩ = true) (hle : j ≤ i)
    (hlast : ∀ k, j < k → k ≤ i → String.Pos.Raw.isValid text ⟨k⟩ = false) :
    boundary? text i = some j := by
  induction i with
  | zero =>
      obtain rfl := Nat.le_zero.1 hle
      rw [boundary?, if_pos hj]
  | succ i ih =>
      rw [boundary?]
      rcases Nat.lt_or_ge i j with hlt | hge
      · obtain rfl : j = i + 1 := Nat.le_antisymm hle hlt
        rw [if_pos hj]
      · rw [hlast (i + 1) (Nat.lt_succ_of_le hge) (Nat.le_refl _), if_neg Bool.false_ne_true]
        exact ih hge fun k hk hki => hlast k hk (Nat.le_succ_of_le hki)

/-- **The search** comes down to the end of the characters that fit.  It cannot miss them: zero is
such a place, and it stops at the greatest one that is not above the room. -/
theorem boundary?_room (text : String) (room : Nat) :
    boundary? text room = some (textSize (fitting room text.toList)) := by
  refine boundary?_eq (isValid_iff.2 ⟨_, fitting_leads room _, rfl⟩) (utf8ByteSize_fitting room _)
    fun k hlast hk => ?_
  rw [Bool.eq_false_iff]
  intro hvalid
  obtain ⟨front, hleads, rfl⟩ := isValid_iff.1 hvalid
  obtain ⟨rest, hrest⟩ := leads_fitting hleads hk
  rw [← hrest, textSize_append] at hlast
  omega

/-- Zeros without the first of them are zeros. -/
theorem zeros_extract (n m : Nat) : (Buffer.zeros m).extract n m = Buffer.zeros (m - n) := by
  refine ByteArray.ext (Array.ext' ?_)
  simp only [ByteArray.data_extract, Buffer.zeros, Array.toList_extract, Array.toList_replicate,
    List.extract_eq_take_drop, List.drop_replicate, List.take_replicate, Nat.min_self]

/-- What a writer wrote, with zeros in the room that is left. -/
def Slice.filled (w : Writer) : Slice where
  bytes := w.written ++ Buffer.zeros w.room
  pos := w.written.size

/-- A piece for which there is room is put behind what was written. -/
theorem fill?_filled (w : Writer) {piece : ByteArray} (h : piece.size ≤ w.room) :
    Document.fill? (w.written ++ Buffer.zeros w.room) w.written.size (w.written.size + piece.size)
        piece =
      some (w.written ++ piece ++ Buffer.zeros (w.room - piece.size)) := by
  have hsize : (w.written ++ Buffer.zeros w.room).size = w.written.size + w.room := by
    rw [ByteArray.size_append, Buffer.size_zeros]
  have hback : (w.written ++ Buffer.zeros w.room).extract (w.written.size + piece.size)
      (w.written.size + w.room) = Buffer.zeros (w.room - piece.size) := by
    rw [ByteArray.extract_append_size_add, zeros_extract]
  rw [Document.fill?, if_pos (by omega), hsize, hback, ByteArray.extract_append_eq_left rfl]

/-- The bytes up to where a text is cut are those of the characters that fit. -/
theorem slice?_fitting (text : String) (room : Nat) :
    let front := String.ofList (fitting room text.toList)
    Document.slice? text.toUTF8 0 front.utf8ByteSize = some front.toUTF8 := by
  intro front
  obtain ⟨rest, hrest⟩ := fitting_leads room text.toList
  have hbytes : text.toUTF8 = front.toUTF8 ++ (String.ofList rest).toUTF8 := by
    rw [← Document.toUTF8_append, ← String.ofList_append, hrest, String.ofList_toList]
  have hsize : front.toUTF8.size = front.utf8ByteSize := rfl
  have hrange : 0 ≤ front.utf8ByteSize ∧ front.utf8ByteSize ≤ text.toUTF8.size := by
    rw [hbytes, ByteArray.size_append, hsize]
    exact ⟨Nat.zero_le _, Nat.le_add_right _ _⟩
  rw [Document.slice?, if_pos hrange, hbytes, ByteArray.extract_append_eq_left hsize.symm]

/-- **A write never goes wrong**, and writes the characters that fit. -/
theorem Slice.write?_filled (w : Writer) (text : String) :
    (filled w).write? text = some (filled (w.write text).1, (w.write text).2) := by
  have hroom : Document.sub? (filled w).bytes.size (filled w).pos = some w.room := by
    have hsize : (filled w).bytes.size = w.written.size + w.room := by
      rw [filled, ByteArray.size_append, Buffer.size_zeros]
    have hpos : (filled w).pos = w.written.size := rfl
    rw [hsize, hpos, Document.sub?, if_pos (Nat.le_add_right _ _), Nat.add_sub_cancel_left]
  have hpos : ∀ piece : String,
      (filled w).pos + piece.utf8ByteSize = (filled (w.append piece)).pos :=
    fun piece => ByteArray.size_append.symm
  have happend : ∀ piece : String, piece.utf8ByteSize ≤ w.room →
      Document.fill? (filled w).bytes (filled w).pos (filled (w.append piece)).pos piece.toUTF8 =
        some (filled (w.append piece)).bytes := by
    intro piece hpiece
    rw [← hpos]
    exact fill?_filled w hpiece
  rw [write?, hroom, Writer.write, Option.bind_eq_bind, Option.bind_some]
  by_cases hfits : text.utf8ByteSize ≤ w.room
  · rw [if_pos hfits, if_pos hfits, hpos, happend text hfits]
    rfl
  · -- The text is cut behind the characters that fit, which are its first bytes.
    have hcut := boundary?_room text w.room
    have hpiece := slice?_fitting text w.room
    have hfront := utf8ByteSize_fitting w.room text.toList
    rw [textSize] at hcut
    simp only [if_neg hfits, hcut, hpiece, hpos, happend _ hfront, Option.bind_eq_bind,
      Option.bind_some]
    rfl

/-- Two bytes of room for a text whose second character takes two by itself. -/
example : ((Slice.filled (.start 2)).write? "aé").map
    (fun (w, fits) => (w.bytes.data.toList, w.pos, fits)) = some ([97, 0], 1, false) := by
  decide +kernel

/-- **A pass never goes wrong**, and writes what the writer does. -/
theorem Slice.run?_filled (persistent : Bool) (pass : List Action) (w : Writer) :
    run? persistent pass (filled w) = some (filled (w.run persistent pass)) := by
  induction pass generalizing w with
  | nil => rfl
  | cons action rest ih =>
      cases action with
      | fail => rfl
      | write text =>
          rw [run?, write?_filled, Writer.run, Option.bind_eq_bind, Option.bind_some]
          dsimp only
          split
          · exact ih _
          · rfl

/-! ## The buffer after both passes

The bytes of a stored message are known to the last one: the text, and zeros up to the end.  A
message that came out shorter has its terminator among these zeros.
-/

/-- The characters that a pass leaves are what the writer wrote. -/
theorem written_run (persistent : Bool) (pass : List Action) (w : Writer) :
    (w.run persistent pass).written =
      w.written ++ (String.ofList (kept persistent w.room pass)).toUTF8 := by
  have hempty : ByteArray.empty = (String.ofList []).toUTF8 := rfl
  induction pass generalizing w with
  | nil => exact ByteArray.append_empty.symm
  | cons action rest ih =>
      cases action with
      | fail => exact ByteArray.append_empty.symm
      | write text =>
          rw [Writer.run, Writer.write]
          rcases Nat.lt_or_ge w.room text.utf8ByteSize with hcut | hfits
          · rw [if_neg (Nat.not_le_of_lt hcut), kept_of_cut hcut]
            cases persistent with
            | false =>
                rw [if_neg Bool.false_ne_true, List.append_nil]
                rfl
            | true =>
                refine (ih _).trans ?_
                rw [if_pos rfl, String.ofList_append, Document.toUTF8_append,
                  ← ByteArray.append_assoc]
                rfl
          · rw [if_pos hfits, kept_of_fits hfits]
            refine (ih _).trans ?_
            rw [String.ofList_append, Document.toUTF8_append, ← ByteArray.append_assoc,
              String.ofList_toList]
            rfl

/-- Zeros behind zeros are zeros. -/
theorem zeros_append (m n : Nat) : Buffer.zeros m ++ Buffer.zeros n = Buffer.zeros (m + n) := by
  refine ByteArray.ext (Array.ext' ?_)
  simp only [ByteArray.data_append, Buffer.zeros, Array.toList_append, Array.toList_replicate,
    List.replicate_append_replicate]

/-- A terminator in front of zeros was there before. -/
theorem set_zeros (front : ByteArray) (n : Nat)
    (h : front.size < (front ++ Buffer.zeros n).size) :
    (front ++ Buffer.zeros n).set front.size 0 h = front ++ Buffer.zeros n := by
  have hone : [(0 : UInt8)].toByteArray = Buffer.zeros 1 := rfl
  have hsize : (front ++ Buffer.zeros n).size = front.size + n := by
    rw [ByteArray.size_append, Buffer.size_zeros]
  have hpos : 1 + (n - 1) = n := by omega
  have hplace := Document.Window.place_eq h 0
  rw [Document.Window.place, dif_pos h, ByteArray.extract_append_eq_left rfl, hsize,
    ByteArray.extract_append_size_add, zeros_extract, hone, ByteArray.append_assoc, zeros_append,
    hpos] at hplace
  exact hplace

/-- There is a place for a terminator. -/
theorem lt_size_append_zeros (front : ByteArray) {n : Nat} (hpos : 0 < n) :
    front.size < (front ++ Buffer.zeros n).size := by
  rw [ByteArray.size_append, Buffer.size_zeros]
  exact Nat.lt_add_of_pos_right hpos

/-- A buffer is shortened to what stands in front of the zeros. -/
theorem truncate_zeros (block : Block) {front : ByteArray} {length n : Nat}
    (hle : front.size ≤ length) (hpos : 0 < n) :
    Buffer.truncate { block, length, whole := front ++ Buffer.zeros n } front.size =
      { block, length := front.size, whole := front ++ Buffer.zeros n } := by
  unfold Buffer.truncate
  dsimp only
  rcases Nat.lt_or_eq_of_le hle with hshort | rfl
  · rw [if_pos hshort, dif_pos (lt_size_append_zeros front hpos), set_zeros]
  · rw [if_neg (Nat.lt_irrefl _)]

/-- **A stored message** is what was kept of the second pass, and then zeros. -/
theorem stored_zeroed (argument : Argument) (block : Block) (length : Nat) :
    let text := String.ofList (kept argument.persistent length argument.second)
    stored argument (.zeroed block length) =
      { block
        length := text.utf8ByteSize
        whole := text.toUTF8 ++ Buffer.zeros (length + 1 - text.utf8ByteSize) } := by
  intro text
  have hwritten : (Writer.run argument.persistent argument.second (.start length)).written =
      text.toUTF8 :=
    (written_run _ _ _).trans ByteArray.empty_append
  have hle : text.toUTF8.size ≤ length := textSize_kept_le _ _ _
  have hwhole : text.toUTF8.copySlice 0 (Buffer.zeros (length + 1)) 0 text.toUTF8.size =
      text.toUTF8 ++ Buffer.zeros (length + 1 - text.toUTF8.size) := by
    rw [ByteArray.copySlice_eq_append, ByteArray.extract_same, ByteArray.empty_append, Nat.zero_add,
      ByteArray.extract_zero_size, ByteArray.size_data, ByteArray.size_data, Buffer.size_zeros,
      zeros_extract, Nat.sub_zero, Nat.min_self, Nat.zero_add]
  have hoverwrite : (Buffer.zeroed block length).overwrite 0 text.toUTF8 =
      { block, length, whole := text.toUTF8 ++ Buffer.zeros (length + 1 - text.toUTF8.size) } :=
    congrArg (Buffer.mk block length) hwhole
  have hstart : (Buffer.zeroed block length).length = length := rfl
  rw [stored, hstart, hwritten, hoverwrite]
  exact truncate_zeros block hle (Nat.sub_pos_of_lt (Nat.lt_succ_of_le hle))

/-- The content of a blank buffer is zeros. -/
theorem slice?_zeros (n : Nat) :
    Document.slice? (Buffer.zeros (n + 1)) 0 n = some (Buffer.zeros n) := by
  have hsplit : Buffer.zeros (n + 1) = Buffer.zeros n ++ Buffer.zeros 1 := (zeros_append n 1).symm
  rw [Document.slice?, Buffer.size_zeros, if_pos ⟨Nat.zero_le n, Nat.le_succ n⟩, hsplit,
    ByteArray.extract_append_eq_left (Buffer.size_zeros n).symm]

/-- A terminator is written where a zero was. -/
theorem set?_zeros {front : ByteArray} {n : Nat} (hpos : 0 < n) :
    Document.set? (front ++ Buffer.zeros n) front.size 0 = some (front ++ Buffer.zeros n) := by
  rw [Document.set?, dif_pos (lt_size_append_zeros front hpos), set_zeros]

/-- All bytes but the last are filled with others. -/
theorem fill?_zeros {n : Nat} {bytes : ByteArray} (h : bytes.size = n) :
    Document.fill? (Buffer.zeros (n + 1)) 0 n bytes = some (bytes ++ Buffer.zeros 1) := by
  rw [Document.fill?, Buffer.size_zeros, if_pos ⟨Nat.zero_le n, Nat.le_succ n, h⟩,
    ByteArray.extract_same, ByteArray.empty_append, zeros_extract, Nat.add_sub_cancel_left]

/-- **Formatting never goes wrong.** -/
theorem stored?_zeroed (argument : Argument) (block : Block) (length : Nat) :
    stored? argument (.zeroed block length) = some (stored argument (.zeroed block length)) := by
  let text := String.ofList (kept argument.persistent length argument.second)
  let w := Writer.run argument.persistent argument.second (.start length)
  -- What is written and the room that is left make up the length.
  have hwritten : w.written = text.toUTF8 := (written_run _ _ _).trans ByteArray.empty_append
  have hsum : text.toUTF8.size + w.room = length := by
    rw [← hwritten]
    exact (Writer.size_run _ _ _).trans (Nat.zero_add length)
  have hfilled : Slice.filled w =
      { bytes := text.toUTF8 ++ Buffer.zeros w.room, pos := text.toUTF8.size } := by
    rw [Slice.filled, hwritten]
  have hrun : Slice.run? argument.persistent argument.second
      { bytes := Buffer.zeros length, pos := 0 } = some (.filled w) := by
    rw [← Slice.run?_filled, Slice.filled, Writer.start, ByteArray.empty_append]
    rfl
  have hfill : Document.fill? (Buffer.zeros (length + 1)) 0 length
      (text.toUTF8 ++ Buffer.zeros w.room) = some (text.toUTF8 ++ Buffer.zeros (w.room + 1)) := by
    rw [fill?_zeros (by rw [ByteArray.size_append, Buffer.size_zeros, hsum]),
      ByteArray.append_assoc, zeros_append]
  have hset : Document.set? (text.toUTF8 ++ Buffer.zeros (w.room + 1)) text.toUTF8.size 0 =
      some (text.toUTF8 ++ Buffer.zeros (w.room + 1)) :=
    set?_zeros (Nat.succ_pos w.room)
  have hstored : stored argument (.zeroed block length) =
      { block, length := text.toUTF8.size, whole := text.toUTF8 ++ Buffer.zeros (w.room + 1) } := by
    have hrest : w.room + 1 = length + 1 - text.toUTF8.size := by omega
    rw [hrest]
    exact stored_zeroed argument block length
  have hstart : (Buffer.zeroed block length).length = length := rfl
  have hwhole : (Buffer.zeroed block length).whole = Buffer.zeros (length + 1) := rfl
  rw [hstored, stored?, hstart, hwhole]
  simp only [slice?_zeros, hrun, hfilled, hfill, hset, Option.bind_eq_bind, Option.bind_some]
  -- A shorter text gets a terminator behind it.  One of the full length has the last byte there,
  -- which is zero already.
  split
  · rfl
  · next hfull =>
      have hall : text.toUTF8.size = length := by omega
      rw [hall]
      rfl

end Checked

/-! ## What is seen of a stored message

Its text, its length, its capacity and its bytes with the terminator, each as an equation.
-/

section Stored

variable (argument : Argument) (block : Block) (length : Nat)

/-- The message in a buffer is a text, and is never taken for none. -/
theorem text?_stored :
    (stored argument (.zeroed block length)).text? =
      some (String.ofList (kept argument.persistent length argument.second)) := by
  rw [stored_zeroed, Buffer.text?, Buffer.content]
  dsimp only
  generalize String.ofList (kept argument.persistent length argument.second) = text
  rw [ByteArray.extract_append_eq_left (show text.utf8ByteSize = text.toUTF8.size from rfl)]
  exact Document.fromUTF8?_toUTF8 text

/-- The text of a message are the characters that the second pass left. -/
theorem text_stored :
    (stored argument (.zeroed block length)).text =
      String.ofList (kept argument.persistent length argument.second) := by
  rw [Buffer.text, text?_stored, Option.getD_some]

/-- A terminator follows the message. -/
theorem contentWithEnd_stored :
    (stored argument (.zeroed block length)).contentWithEnd =
      (String.ofList (kept argument.persistent length argument.second)).toUTF8 ++
        [0].toByteArray := by
  have hle := textSize_kept_le argument.persistent length argument.second
  have hone : [(0 : UInt8)].toByteArray = Buffer.zeros 1 := rfl
  rw [stored_zeroed, Buffer.contentWithEnd, hone]
  dsimp only
  rw [textSize] at hle
  generalize String.ofList (kept argument.persistent length argument.second) = text at hle
  have hsplit : Buffer.zeros (length + 1 - text.utf8ByteSize) =
      Buffer.zeros 1 ++ Buffer.zeros (length - text.utf8ByteSize) := by
    rw [zeros_append, Nat.add_comm 1, ← Nat.sub_add_comm hle]
  have hfront : text.utf8ByteSize + 1 = (text.toUTF8 ++ Buffer.zeros 1).size := by
    rw [ByteArray.size_append]
    rfl
  rw [hsplit, ← ByteArray.append_assoc, ByteArray.extract_append_eq_left hfront]

/-- The capacity is the one that was measured. -/
theorem capacity_stored : (stored argument (.zeroed block length)).capacity = length + 1 := by
  have hle := textSize_kept_le argument.persistent length argument.second
  rw [stored_zeroed, Buffer.capacity]
  dsimp only
  rw [textSize] at hle
  rw [ByteArray.size_append, Buffer.size_zeros]
  exact Nat.add_sub_cancel' (Nat.le_succ_of_le hle)

/-- The length of a message is that of its text, not the one that was measured. -/
theorem length_stored :
    (stored argument (.zeroed block length)).length =
      (String.ofList (kept argument.persistent length argument.second)).utf8ByteSize := by
  rw [stored_zeroed]

/-- An error that an argument reports while it writes ends the pass. -/
theorem run_fail (persistent : Bool) (front rest : List Action) (w : Writer) :
    Writer.run persistent (front ++ .fail :: rest) w = Writer.run persistent front w := by
  induction front generalizing w with
  | nil => rfl
  | cons action front ih =>
      cases action with
      | fail => rfl
      | write text =>
          rw [List.cons_append, Writer.run, Writer.run]
          simp only [ih]

end Stored

/-! ## Formatted messages

The law for the two kinds of arguments is put together from the parts, and the exact form of what an
argument that goes on may leave behind a cut.
-/

/-- **What two passes of an argument leave in a buffer.** It is stated of the bytes as they are: how
long they are, where the terminator stands, what text they are, and how that text came out of what
was offered. -/
structure Formatted (argument : Argument) (message : Buffer) : Prop where
  /-- The first pass reported no error. -/
  accepted : .fail ∉ argument.first
  /-- The buffer was made for as many bytes as the first pass offered. -/
  capacity : message.capacity = (offered argument.first).utf8ByteSize + 1
  layout : message.block.layout = { size := (offered argument.first).utf8ByteSize + 1, align := 1 }
  /-- The content is a text, and is never taken for none. -/
  valid : message.text? = some message.text
  length : message.length = message.text.utf8ByteSize
  bounded : message.length ≤ (offered argument.first).utf8ByteSize
  /-- A terminator follows the content. -/
  terminated : message.contentWithEnd = message.text.toUTF8 ++ [0].toByteArray
  /-- No access on the way goes wrong. -/
  checked : stored? argument
    (.zeroed message.block (offered argument.first).utf8ByteSize) = some message
  /-- What fits is there as a whole. -/
  whole : (offered argument.second).utf8ByteSize ≤ (offered argument.first).utf8ByteSize →
    message.text = offered argument.second
  /-- What an argument leaves that stops at the first text that is cut. -/
  longest : argument.persistent = false →
    LongestPrefix (offered argument.first).utf8ByteSize message.text (offered argument.second)
  /-- An error reported while the message is written keeps what was written before it. -/
  interrupted : ∀ front rest, argument.second = front ++ .fail :: rest →
    message = stored { argument with second := front }
      (.zeroed message.block (offered argument.first).utf8ByteSize)

section Formatted

variable {argument : Argument} {block : Block}

/-- Where everything fits, everything is kept. -/
theorem text_stored_of_le {length : Nat} (h : (offered argument.second).utf8ByteSize ≤ length) :
    (stored argument (.zeroed block length)).text = offered argument.second := by
  obtain ⟨more, hkept, hbehind⟩ := kept_eq_append argument.persistent length argument.second
  have hall : fitting length (offered argument.second).toList = (offered argument.second).toList :=
    fitting_of_le (by rwa [textSize_toList])
  rw [hall] at hkept hbehind
  have hnone : more = [] := Decidable.byContradiction fun hmore => by
    obtain ⟨c, dropped, hsplit, -⟩ := hbehind hmore
    exact List.cons_ne_nil _ _ (List.self_eq_append_right.1 hsplit)
  rw [text_stored, hkept, hnone, List.append_nil, String.ofList_toList]

/-- **Formatting** leaves what it should in a buffer that was obtained for it. -/
theorem formatted_stored (haccepted : .fail ∉ argument.first)
    (hlayout : block.layout = { size := (offered argument.first).utf8ByteSize + 1, align := 1 }) :
    Formatted argument (stored argument (.zeroed block (offered argument.first).utf8ByteSize)) := by
  have hblock : (stored argument
      (.zeroed block (offered argument.first).utf8ByteSize)).block = block :=
    block_stored argument _
  exact {
    accepted := haccepted
    capacity := capacity_stored argument block _
    layout := by rw [hblock, hlayout]
    valid := by rw [text?_stored, text_stored]
    length := by rw [length_stored, text_stored]
    bounded := by
      rw [length_stored]
      exact textSize_kept_le _ _ _
    terminated := by rw [contentWithEnd_stored, text_stored]
    checked := by rw [hblock, stored?_zeroed]
    whole := text_stored_of_le
    longest := fun hstops => by
      rw [text_stored, hstops, kept_eq_fitting]
      exact longestPrefix_fitting _ _
    interrupted := fun front rest hsecond => by
      rw [hblock, stored, stored, hsecond, run_fail] }

/-- **An argument that goes on after a cut** leaves the longest prefix of what it offers, and may
leave characters behind it that it offers later.  They fit into the bytes that the cut left free,
and then the message is a prefix of nothing that was offered. -/
theorem exists_overrun (argument : Argument) (block : Block) (length : Nat) :
    ∃ front more, (stored argument (.zeroed block length)).text = front ++ more ∧
      LongestPrefix length front (offered argument.second) ∧
      (more ≠ "" → ∃ c dropped, (offered argument.second).toList = front.toList ++ c :: dropped ∧
        more.toList.Sublist dropped ∧ more.utf8ByteSize < c.utf8Size) ∧
      ((stored argument (.zeroed block length)).text.toList <+: (offered argument.second).toList ↔
        more = "") ∧
      (argument.persistent = false → more = "") := by
  obtain ⟨more, hkept, hbehind⟩ := kept_eq_append argument.persistent length argument.second
  have htext : (stored argument (.zeroed block length)).text =
      String.ofList (fitting length (offered argument.second).toList) ++ String.ofList more := by
    rw [text_stored, hkept, String.ofList_append]
  have hempty : String.ofList more = "" ↔ more = [] := String.ofList_eq_empty_iff
  refine ⟨_, _, htext, longestPrefix_fitting _ _, fun hmore => ?_, ?_, fun hstops => ?_⟩
  · obtain ⟨c, dropped, hsplit, hlater, hsmall⟩ := hbehind fun hnone => hmore (hempty.2 hnone)
    rw [String.toList_ofList, String.toList_ofList]
    exact ⟨c, dropped, hsplit, hlater, hsmall⟩
  · rw [htext, String.toList_append, String.toList_ofList, String.toList_ofList, hempty]
    have hfront := fitting_leads length (offered argument.second).toList
    generalize fitting length (offered argument.second).toList = front at hbehind hfront ⊢
    constructor
    · intro hleads
      refine Decidable.byContradiction fun hmore => hmore ?_
      obtain ⟨c, dropped, hsplit, -, hsmall⟩ := hbehind hmore
      rw [hsplit] at hleads
      exact (kept_leads_iff hsmall).1 hleads
    · rintro rfl
      rwa [List.append_nil]
  · rw [hstops, kept_eq_fitting] at hkept
    exact hempty.2 (List.self_eq_append_right.1 hkept)

end Formatted

end FaultChain.Message

import FaultChain.Proofs.Decoding
import FaultChain.Proofs.Keeping
import Mathlib.Data.List.TakeWhile

/-!
# Two passes, two reservations

A document is measured and then written, and each pass reserves its frames by itself.  What comes
out is told by `convert_eq_of_passes`: as many bytes of the document that is written as the document
that was measured has, and zeros behind it if it is shorter.

If both reservations have the same answer, or the chain is short enough to need none, the two passes
are of one document, and whoever asks gets it whole (`whole_of_agreeing_passes`).  If they differ
over a chain that needs frames, one document ends after sixteen links and the other goes on, which
makes it longer (`size_document_lt`).  What is handed out is then cut off (`convert_of_longer`), or
has zeros behind it (`padded_of_shrinking`).  Nobody looks at more of it than whether it is a text
at all, and `torn_of_disagreeing_passes` shows both to be no documents.

Two places make such a pair of passes: the conversion of a document to a text, and the build of a
document that is left on the error.  `buildWith_publishes` says that what a build leaves is the text
of a conversion with the same two reservations, so what is said of the one holds of the other.

### What is load-bearing

Nothing is known of the two answers, so nothing may be said of how often they differ; what can be
said is what a difference does.  Everything rests on one fact about lengths: the document that is
cut after sixteen links is strictly shorter than the whole one.  So no two passes that differ are of
the same length by chance, and a conversion can not hide what happened.

Where the document of the second pass is the longer one, its end is lost, and with it at least one
bracket.  Where it is the shorter one, there is a character behind the last bracket that is not
blank.  Either way there is no document left, which is shown by reading the text back
(`Json.IsDocument.blank_of_append`) rather than by looking for the place of the damage.
-/

namespace FaultChain

open Memory (Block Buffer Layout)

/-! ## Documents in front of other texts

A document that was written in full may be followed by blanks and by nothing else.  What a shorter
pass leaves behind it is zeros, and those are not blanks.
-/

/-- **A document with more behind it** is a document only if what follows is blank; a number might
go on, so what follows must not be part of one.  The grammar is read by a function, so two ways to
read the same front are one. -/
theorem Json.IsDocument.blank_of_append {front back : String} {v w : Json}
    (hfront : IsDocument front v) (hwhole : IsDocument (front ++ back) w)
    (hends : Ends back.toList) : Blank back.toList := by
  obtain ⟨before, cs, after, hbefore, hspells, hafter, htext⟩ := hfront
  have hread := hspells.reads (cs ++ (after ++ back.toList)).length (after ++ back.toList)
    (by rw [List.length_append]; exact Nat.le_add_right _ _) (hafter.ends hends)
  have hskip : skip (front ++ back).toList = cs ++ (after ++ back.toList) := by
    obtain ⟨c, inner, rfl, hnot, -⟩ := hspells.opens
    rw [String.toList_append, htext, List.append_assoc, List.append_assoc, List.cons_append,
      skip_append_cons hbefore hnot]
  have hreads := hwhole.reads
  simp only [read?, hskip, hread, Option.bind_eq_bind, Option.bind_some] at hreads
  have hnone : skip (after ++ back.toList) = [] := by
    by_contra hsome
    rw [if_neg hsome] at hreads
    cases hreads
  rw [skip_append hafter] at hnone
  exact List.dropWhile_eq_nil_iff.1 hnone

namespace Document

/-! ## What comes out of two passes

The bytes that are kept are told by the sizes of the two documents.
-/

section Passes

variable {passes : Passes} {chain : Chain}

/-- Bytes that are written over zeros, in room for others: they are cut off, or zeros follow. -/
theorem extract_remains_zeros (room : Nat) (written : ByteArray) :
    (Window.remains (Buffer.zeros (room + 1)) written).extract 0 room =
      written.extract 0 room ++ Buffer.zeros (room - written.size) := by
  have hsize : (Buffer.zeros (room + 1)).size = room + 1 := Buffer.size_zeros _
  have hkeeps : Window.keeps (room + 1) written.size = min room written.size := rfl
  have hlength : written.data.toList.length = written.size := rfl
  have hzeros : ∀ n, (Buffer.zeros n).data.toList = List.replicate n 0 := fun n => by
    rw [Buffer.zeros, Array.toList_replicate]
  rw [Window.remains, hsize, if_neg (Nat.succ_ne_zero room), hkeeps]
  refine ByteArray.ext (Array.ext' ?_)
  simp only [ByteArray.data_extract, ByteArray.data_append, Array.toList_extract,
    Array.toList_append, List.data_toByteArray, List.extract_eq_take_drop, hzeros, List.drop_zero,
    List.drop_replicate, List.take_replicate]
  rcases Nat.le_total written.size room with hfits | hcut
  · have hall : written.data.toList.take written.size = written.data.toList :=
      List.take_of_length_le (Nat.le_of_eq hlength)
    have hroom : written.data.toList.take room = written.data.toList :=
      List.take_of_length_le hfits
    rw [Nat.min_eq_right hfits, Nat.min_self, Nat.sub_zero, Nat.sub_zero, hall, hroom,
      Nat.add_sub_add_right, List.append_assoc, List.singleton_append, ← List.replicate_succ,
      List.take_append, hroom, hlength, List.take_replicate, Nat.min_eq_left (Nat.le_succ _)]
  · have hkept : (written.data.toList.take room).length = room := List.length_take_of_le hcut
    rw [Nat.min_eq_left hcut, Nat.sub_zero, List.append_assoc, List.take_append, hkept,
      Nat.sub_self, List.take_zero, List.take_take, Nat.min_self, Nat.sub_eq_zero_of_le hcut,
      List.replicate_zero]

/-- Zeros are the bytes of as many zero characters, so what has zeros behind it is still a text. -/
theorem toUTF8_zeros (n : Nat) :
    (String.ofList (List.replicate n '\x00')).toUTF8 = Buffer.zeros n := by
  have hone : String.utf8EncodeChar '\x00' = [0] := by decide
  refine ByteArray.ext (Array.ext' ?_)
  rw [toList_toUTF8, String.toList_ofList, Buffer.zeros, Array.toList_replicate,
    List.flatMap_replicate, hone, List.flatten_replicate_singleton]

/-- **What comes out of two passes**, if there is a vector for what was measured: as much of the
document that is written as the one that was measured has bytes, and zeros where it is shorter. -/
theorem convert_eq_of_passes
    (hroom : (document passes.measuring (some chain)).utf8ByteSize + 1 ≤ Layout.greatestSize) :
    let measured := (document passes.measuring (some chain)).utf8ByteSize
    let written := (document passes.writing (some chain)).toUTF8
    convert passes chain = .text ((String.fromUTF8? (written.extract 0 measured ++
      Buffer.zeros (measured - written.size))).getD empty) := by
  intro measured written
  have hword : Layout.greatestSize < greatestCount := by decide
  rw [convert_eq, if_pos (Nat.lt_of_le_of_lt hroom hword), if_pos hroom, extract_remains_zeros]

/-- A short chain is written as it is, with frames or without: it has a place for each of its links
among the inline ones. -/
theorem document_eq_of_short (hshort : chain.length ≤ inlineFrames)
    (reservation other : Reservation) :
    document reservation (some chain) = document other (some chain) := by
  rw [document, document, writeLimit, writeLimit, if_pos (.inl hshort), if_pos (.inl hshort)]

/-- Passes that reserve alike, or of a chain for which they need not, are of one document. -/
theorem document_eq_of_agreeing
    (hagree : passes.measuring = passes.writing ∨ chain.length ≤ inlineFrames) :
    document passes.measuring (some chain) = document passes.writing (some chain) := by
  rcases hagree with heq | hshort
  · rw [heq]
  · exact document_eq_of_short hshort _ _

/-- A document that is measured too short is cut off there.  The cut must not go through a
character, and the part that is kept is what comes out. -/
theorem convert_of_longer {kept lost : String}
    (hroom : (document passes.measuring (some chain)).utf8ByteSize + 1 ≤ Layout.greatestSize)
    (hwritten : document passes.writing (some chain) = kept ++ lost)
    (hmeasured : (document passes.measuring (some chain)).utf8ByteSize = kept.utf8ByteSize) :
    convert passes chain = .text kept := by
  have hsize : kept.toUTF8.size = kept.utf8ByteSize := rfl
  have hboth : (kept ++ lost).toUTF8 = kept.toUTF8 ++ lost.toUTF8 := String.toByteArray_append
  have hnone : kept.utf8ByteSize - (kept.toUTF8 ++ lost.toUTF8).size = 0 := by
    rw [ByteArray.size_append, hsize]
    exact Nat.sub_eq_zero_of_le (Nat.le_add_right _ _)
  have hzeros : Buffer.zeros 0 = ByteArray.empty := rfl
  rw [convert_eq_of_passes hroom, hwritten, hmeasured, hboth,
    ByteArray.extract_append_eq_left hsize.symm, hnone, hzeros, ByteArray.append_empty,
    fromUTF8?_toUTF8, Option.getD_some]

/-- A document that is measured too long has zeros behind it. -/
theorem convert_of_shorter {excess : Nat}
    (hroom : (document passes.measuring (some chain)).utf8ByteSize + 1 ≤ Layout.greatestSize)
    (hmeasured : (document passes.measuring (some chain)).utf8ByteSize =
      (document passes.writing (some chain)).utf8ByteSize + excess) :
    convert passes chain =
      .text (document passes.writing (some chain) ++
        String.ofList (List.replicate excess '\x00')) := by
  have hsize : (document passes.writing (some chain)).toUTF8.size =
      (document passes.writing (some chain)).utf8ByteSize := rfl
  have hwhole : (document passes.writing (some chain)).toUTF8.extract 0
      ((document passes.writing (some chain)).utf8ByteSize + excess) =
        (document passes.writing (some chain)).toUTF8 := by
    refine ByteArray.ext ?_
    rw [ByteArray.data_extract]
    exact Array.extract_eq_self_of_le (Nat.le_add_right _ _)
  have hboth : ∀ t : String, t.toUTF8 ++ Buffer.zeros excess =
      (t ++ String.ofList (List.replicate excess '\x00')).toUTF8 := fun t => by
    rw [← toUTF8_zeros]
    exact String.toByteArray_append.symm
  rw [convert_eq_of_passes hroom, hmeasured, hwhole, hsize, Nat.add_sub_cancel_left, hboth,
    fromUTF8?_toUTF8, Option.getD_some]

end Passes

end Document

/-! ## What is handed out

Conversions and builds do the same with their passes, and differ in what they do with the outcome.
-/

namespace Store

/-- **A build** shows a placeholder, or comes to leave on the error, if nobody else has, what comes
out of its two passes.  The readers that its requests let in may come before it, and then it is
their document that is shown. -/
theorem buildWith_publishes (visit : Visitor) (s : Store) (e : FaultId) (b : BackendId)
    (generation : UInt32) (passes : Document.Passes) {chain : Chain}
    (hchain : s.chain? e = some chain) :
    (s.buildWith visit e b generation passes).2 = .placeholder ∨
      ∃ (s' : Store) (own : Cached), s.buildWith visit e b generation passes = s'.publish e b own ∧
        own.generation = generation ∧ Document.convert passes chain = .text own.text.text := by
  unfold buildWith
  rw [hchain]
  dsimp only
  split
  · exact .inl rfl
  next hcounted =>
  split
  · exact .inl rfl
  next s₁ node _ =>
  split
  · exact .inl rfl
  next s₂ blank hblank =>
  split
  · exact .inl rfl
  next text htext =>
  refine .inr ⟨s₂, _, rfl, rfl, ?_⟩
  -- The buffer is as long as was measured, so what is read back from it is what is read back there;
  -- and it was asked for as a block, so there is a vector of that size.
  obtain ⟨hzeroed, -⟩ := blank_of_requestBufferWith hblank
  have hroom := room_of_requestBufferWith hblank
  have hpos : 0 < Document.measure passes.measuring chain := by
    rw [Document.measure, Document.render_eq]
    exact Nat.lt_min.2 ⟨Nat.succ_pos _, by decide⟩
  have hwhole : blank.whole = Buffer.zeros (Document.measure passes.measuring chain) := by
    rw [hzeroed, Buffer.zeroed]
    dsimp only
    rw [Nat.sub_add_cancel hpos]
  have hlength : blank.length = Document.measure passes.measuring chain - 1 := by
    rw [hzeroed, Buffer.zeroed]
  rw [Buffer.text, htext, Document.convert]
  dsimp only
  rw [if_neg hcounted, if_neg (by omega)]
  rw [Buffer.text?, Buffer.content, hwhole, hlength] at htext
  rw [htext]
  rfl

end Store

namespace Document

/-- **Whoever asks gets a whole document**, if both reservations have the same answer or the chain
is short enough to need none.

* What comes out of the two passes is the document that is written if a block can hold it with its
  terminator.  Above that asking for it is a panic, up to where its size cannot be told from those
  that cannot be counted; there it is the document of no error.
* The document that is written is a JSON document of the chain, up to as many links as are written,
  without a zero byte.
* Who reads an error is shown a placeholder, or what comes out of the two passes of its chain is
  left on the error unless somebody else left a document there, and that is shown. -/
theorem whole_of_agreeing_passes (chain : Chain) (passes : Passes)
    (hagree : passes.measuring = passes.writing ∨ chain.length ≤ inlineFrames) :
    let whole := document passes.writing (some chain)
    (convert passes chain =
      if whole.utf8ByteSize + 1 < greatestCount then
        if whole.utf8ByteSize + 1 ≤ Layout.greatestSize then .text whole else .capacityOverflow
      else .text empty) ∧
    Json.IsDocument whole (Json.ofChain (writeLimit passes.writing chain) chain) ∧
    (∀ b ∈ whole.toUTF8.data.toList, b ≠ 0) ∧
    ∀ (visit : Visitor) (s : Store) (e : FaultId) (b : BackendId) (generation : UInt32),
      s.chain? e = some chain →
        (s.buildWith visit e b generation passes).2 = .placeholder ∨
        ∃ (s' : Store) (own : Cached),
          s.buildWith visit e b generation passes = s'.publish e b own ∧
          own.generation = generation ∧ convert passes chain = .text own.text.text := by
  intro whole
  refine ⟨convert_of_same (document_eq_of_agreeing hagree), Json.isDocument_ofChain_iff.2 rfl,
    fun b hmem hzero => ?_,
    fun visit s e b generation hchain => s.buildWith_publishes visit e b generation passes hchain⟩
  have hprintable := (printable_document passes.writing (some chain)).bytes b hmem
  rw [hzero] at hprintable
  exact absurd hprintable (by decide)

/-! ## Passes that disagree

A chain of one link more than there are frames without a reservation shows both ways to disagree.
Its documents differ from the object of the sixteenth link on.
-/

/-- An object is longer where the marker in it gives way to a cause.  The marker is the shortest
object there is in the place of a cause, which is all that is used of it. -/
theorem size_nested_lt {budget more : Nat} (hmore : budget < more) (top : Link) {causes : List Link}
    (hcut : budget < causes.length) :
    (nested budget top causes).utf8ByteSize < (nested more top causes).utf8ByteSize := by
  induction budget generalizing more top causes with
  | zero =>
      obtain ⟨cause, rest, rfl⟩ := List.exists_cons_of_length_pos hcut
      obtain ⟨more, rfl⟩ := Nat.exists_eq_add_one_of_ne_zero (Nat.ne_of_gt hmore)
      have hmarker : marker.utf8ByteSize = 18 := by decide
      have hkeys : "\x7b".utf8ByteSize + "\"domain\":".utf8ByteSize +
          ",\"code\":".utf8ByteSize + ",\"flags\":".utf8ByteSize = 27 := by
        decide
      have hobject : 27 ≤ (nested more cause rest).utf8ByteSize := by
        unfold nested fields
        simp only [String.utf8ByteSize_append]
        omega
      rw [nested, nested]
      simp only [String.utf8ByteSize_append]
      omega
  | succ budget ih =>
      obtain ⟨cause, rest, rfl⟩ := List.exists_cons_of_length_pos (Nat.zero_lt_of_lt hcut)
      obtain ⟨more, rfl⟩ :=
        Nat.exists_eq_add_one_of_ne_zero (Nat.ne_of_gt (Nat.zero_lt_of_lt hmore))
      have hinner := ih (Nat.lt_of_succ_lt_succ hmore) cause (Nat.lt_of_succ_lt_succ hcut)
      rw [nested, nested]
      simp only [String.utf8ByteSize_append]
      omega

/-- A chain that needs a reservation has a longer document with it than without. -/
theorem size_document_lt {chain : Chain} (hdeep : inlineFrames < chain.length) :
    (document .refused (some chain)).utf8ByteSize <
      (document .granted (some chain)).utf8ByteSize := by
  have hrefused : writeLimit .refused chain = inlineFrames := by
    rw [writeLimit, if_neg (by rintro (hshort | ⟨⟨⟩⟩); exact Nat.not_le_of_lt hdeep hshort)]
  have hgranted : writeLimit .granted chain = depthLimit := by
    rw [writeLimit, if_pos (.inr rfl)]
  have hlength : chain.length = chain.causes.length + 1 := rfl
  rw [document, document, ofChain, ofChain, hrefused, hgranted]
  refine size_nested_lt (by decide) chain.top ?_
  rw [inlineFrames] at hdeep ⊢
  omega

/-- No document is longer than the one that is written with frames. -/
theorem size_document_le (reservation : Reservation) (chain : Chain) :
    (document reservation (some chain)).utf8ByteSize ≤
      (document .granted (some chain)).utf8ByteSize := by
  rcases Nat.lt_or_ge inlineFrames chain.length with hdeep | hshort
  · cases reservation with
    | granted => exact Nat.le_refl _
    | refused => exact Nat.le_of_lt (size_document_lt hdeep)
  · exact Nat.le_of_eq (congrArg String.utf8ByteSize (document_eq_of_short hshort _ _))

/-- **Measured with frames and written without them**, a document of a chain that needs them has
zeros behind it, and is none. -/
theorem padded_of_shrinking {chain : Chain} (hdeep : inlineFrames < chain.length)
    (hroom : (document .granted (some chain)).utf8ByteSize + 1 ≤ Layout.greatestSize) :
    ∃ padded, convert { measuring := .granted, writing := .refused } chain = .text padded ∧
      '\x00' ∈ padded.toList ∧ ¬∃ v, Json.IsDocument padded v := by
  obtain ⟨excess, hexcess⟩ := Nat.exists_eq_add_of_lt (size_document_lt hdeep)
  have hzero : '\x00' ∈ (String.ofList (List.replicate (excess + 1) '\x00')).toList := by
    rw [String.toList_ofList, List.replicate_succ]
    exact List.mem_cons_self
  have hmeasured : (document .granted (some chain)).utf8ByteSize =
      (document .refused (some chain)).utf8ByteSize + (excess + 1) := hexcess
  refine ⟨_, convert_of_shorter hroom hmeasured, ?_, ?_⟩
  · rw [String.toList_append]
    exact List.mem_append_right _ hzero
  · rintro ⟨v, hdocument⟩
    have hends : Json.Ends (String.ofList (List.replicate (excess + 1) '\x00')).toList := by
      rw [String.toList_ofList, List.replicate_succ]
      exact Json.ends_cons (by decide) _
    have hfront : Json.IsDocument (document .refused (some chain))
        (Json.ofChain (writeLimit .refused chain) chain) :=
      Json.isDocument_ofChain_iff.2 rfl
    exact absurd (hfront.blank_of_append hdocument hends _ hzero) (by decide)

/-- What is written before the object of a cause. -/
def opening (l : Link) : String :=
  "\x7b" ++ fields l ++ causeKey

/-- Links that are all written stand around what they lead to. -/
theorem nested_replicate (n budget : Nat) (l : Link) (causes : List Link) :
    nested (budget + n) l (List.replicate n l ++ causes) =
      String.join (List.replicate n (opening l)) ++
        (nested budget l causes ++ String.join (List.replicate n "\x7d")) := by
  induction n with
  | zero => simp only [List.replicate_zero, String.join_nil, List.nil_append, Nat.add_zero,
      String.append_empty, String.empty_append]
  | succ n ih =>
      rw [List.replicate_succ, List.replicate_succ, List.replicate_succ', List.cons_append,
        ← Nat.add_assoc, nested]
      simp only [ih, String.join_cons, String.join_append, String.join_nil, String.append_empty,
        opening, String.append_assoc]

/-- The link of a chain that is the same all along, with texts in which nothing is escaped. -/
def plainLink : Link where
  domain := .generic
  code := .unknown
  flags := .none
  message := "link"
  location := none

/-- A chain of seventeen links, one more than there are frames without a reservation. -/
def deepChain : Chain where
  top := plainLink
  causes := List.replicate inlineFrames plainLink

/-- The documents of `deepChain` differ in what the sixteenth object ends in. -/
theorem document_deepChain :
    document .refused (some deepChain) = String.join (List.replicate 15 (opening plainLink)) ++
      (opening plainLink ++ marker ++ "\x7d" ++ String.join (List.replicate 15 "\x7d")) ∧
    document .granted (some deepChain) = String.join (List.replicate 15 (opening plainLink)) ++
      (opening plainLink ++ ("\x7b" ++ fields plainLink ++ "\x7d") ++ "\x7d" ++
        String.join (List.replicate 15 "\x7d")) := by
  have hrefused : writeLimit .refused deepChain = 0 + 15 + 1 := by decide
  have hgranted : writeLimit .granted deepChain = 48 + 15 + 1 := by decide
  have hcauses : deepChain.causes = List.replicate 15 plainLink ++ [plainLink] := rfl
  have htop : deepChain.top = plainLink := rfl
  rw [document, document, ofChain, ofChain, hrefused, hgranted, Nat.add_sub_cancel,
    Nat.add_sub_cancel, hcauses, htop, nested_replicate, nested_replicate]
  refine ⟨?_, ?_⟩
  · simp only [nested, opening, String.append_assoc]
  · simp only [nested, opening, String.append_assoc, String.append_empty]

/-- A text that is written time and again takes its bytes every time. -/
theorem utf8ByteSize_replicate (n : Nat) (t : String) :
    (String.join (List.replicate n t)).utf8ByteSize = n * t.utf8ByteSize := by
  induction n with
  | zero => rw [Nat.zero_mul, List.replicate_zero, String.join_nil, String.utf8ByteSize_empty]
  | succ n ih =>
      rw [List.replicate_succ, String.join_cons, String.utf8ByteSize_append, ih, Nat.succ_mul,
        Nat.add_comm]

/-- The part of the last object of `deepChain` that is as long as what ends the sixteenth one. -/
def lastKept : String :=
  "\x7b\"domain\":\"GENERIC\",\"code\":\"UNKNOW"

/-- The rest of the last object of `deepChain`, from the middle of the name of its code on. -/
def lastLost : String :=
  "N\",\"flags\":[],\"message\":\"link\"\x7d"

theorem sizes_deepChain :
    (document .refused (some deepChain)).utf8ByteSize = 1202 ∧
    (document .granted (some deepChain)).utf8ByteSize = 1249 ∧
    (String.join (List.replicate 16 (opening plainLink)) ++ lastKept).utf8ByteSize = 1202 := by
  have hopening : (opening plainLink).utf8ByteSize = 73 := by decide
  have hfields : (fields plainLink).utf8ByteSize = 63 := by decide
  have hmarker : marker.utf8ByteSize = 18 := by decide
  have hkept : lastKept.utf8ByteSize = 34 := by decide
  have hbraces : "\x7b".utf8ByteSize = 1 ∧ "\x7d".utf8ByteSize = 1 := by decide
  rw [document_deepChain.1, document_deepChain.2]
  simp only [String.utf8ByteSize_append, utf8ByteSize_replicate, hopening, hfields, hmarker, hkept,
    hbraces.1, hbraces.2]
  decide

/-- Passes that both do without a reservation. -/
def unreserved : Passes where
  measuring := .refused
  writing := .refused

/-- Passes that agree, over a chain for which it matters: both refuse, and the document is the one
that is cut; both grant, and it is the whole one. -/
theorem whole_of_agreeing_passes_deepChain :
    unreserved.measuring = unreserved.writing ∧ inlineFrames < deepChain.length ∧
    convert unreserved deepChain = .text (document .refused (some deepChain)) ∧
    convert {} deepChain = .text (document .granted (some deepChain)) ∧
    document .refused (some deepChain) ≠ document .granted (some deepChain) := by
  have hagree : unreserved.measuring = unreserved.writing := rfl
  have hdeep : inlineFrames < deepChain.length := by decide
  obtain ⟨hshort, hlong, -⟩ := sizes_deepChain
  have hrefused := (whole_of_agreeing_passes deepChain unreserved (.inl hagree)).1
  have hgranted := (whole_of_agreeing_passes deepChain {} (.inl rfl)).1
  have hwriting : unreserved.writing = .refused := rfl
  refine ⟨hagree, hdeep, ?_, ?_, fun heq => ?_⟩
  · rw [hrefused, hwriting, hshort, if_pos (by decide), if_pos (by decide)]
  · rw [hgranted, hlong, if_pos (by decide), if_pos (by decide)]
  · rw [heq, hlong] at hshort
    exact absurd hshort (by decide)

/-- **Passes that disagree tear the document.** Measured without frames and written with them, it is
cut off in the middle of its last link; the other way round it has zeros behind it.  Neither is a
document. -/
theorem torn_of_disagreeing_passes :
    ∃ cut padded, convert { measuring := .refused, writing := .granted } deepChain = .text cut ∧
      convert { measuring := .granted, writing := .refused } deepChain = .text padded ∧
      (cut ≠ empty ∧ ¬∃ v, Json.IsDocument cut v) ∧
      (padded ≠ empty ∧ '\x00' ∈ padded.toList ∧ ¬∃ v, Json.IsDocument padded v) := by
  obtain ⟨hshort, hlong, hkept⟩ := sizes_deepChain
  have hdeep : inlineFrames < deepChain.length := by decide
  have hgranted : document .granted (some deepChain) =
      (String.join (List.replicate 16 (opening plainLink)) ++ lastKept) ++
        (lastLost ++ String.join (List.replicate 16 "\x7d")) := by
    have hlast : "\x7b" ++ fields plainLink ++ "\x7d" = lastKept ++ lastLost := by decide
    have hopenings : List.replicate 16 (opening plainLink) =
        List.replicate 15 (opening plainLink) ++ [opening plainLink] := List.replicate_succ'
    have hbraces : List.replicate 16 "\x7d" = "\x7d" :: List.replicate 15 "\x7d" := rfl
    rw [document_deepChain.2, hlast, hopenings, hbraces]
    simp only [String.join_append, String.join_cons, String.join_nil, String.append_empty,
      String.append_assoc]
  obtain ⟨padded, hpadded, hzero, hnone⟩ :=
    padded_of_shrinking hdeep (by rw [hlong]; decide)
  refine ⟨_, padded, convert_of_longer (by rw [hshort]; decide) hgranted (hshort.trans hkept.symm),
    hpadded, ⟨fun heq => ?_, ?_⟩, fun heq => ?_, hzero, hnone⟩
  · rw [heq] at hkept
    exact absurd hkept (by decide)
  · rintro ⟨v, hdocument⟩
    have hwhole : Json.IsDocument (document .granted (some deepChain))
        (Json.ofChain (writeLimit .granted deepChain) deepChain) :=
      Json.isDocument_ofChain_iff.2 rfl
    have hlost : (lastLost ++ String.join (List.replicate 16 "\x7d")).toList =
        'N' :: (lastLost.toList.tail ++ (String.join (List.replicate 16 "\x7d")).toList) := by
      rw [String.toList_append]
      rfl
    have hblank := hdocument.blank_of_append (hgranted ▸ hwhole)
      (hlost ▸ Json.ends_cons (by decide) _)
    exact absurd (hblank 'N' (hlost ▸ List.mem_cons_self)) (by decide)
  · rw [heq] at hzero
    exact absurd hzero (by decide)

end Document

end FaultChain

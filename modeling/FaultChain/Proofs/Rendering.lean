import FaultChain.Proofs.Escapes

/-!
# What rendering comes to

A document that is rendered into any number of bytes is the same one: `render` tells its size,
whatever the bytes are, and leaves as much of it as there is room for, a terminator, and what was
there before (`render_correct`).  A document has no control characters, so the terminator ends it
(`printable_document`), and measuring it first leaves room for all of it.

### Where sizes end

Sizes are counted up to `greatestCount`, the greatest number of a machine word, and that number also
stands for all sizes above it.  The size of a document with its terminator can be counted as long as
the document itself is shorter than that, so `render` tells all of these sizes apart.  Whoever asks
for a text gets less far (`convert_of_same`):

* up to `Memory.Layout.greatestSize`, which is half of it, there is a vector for the document, and
  the text is the document;
* above that there is none, and asking for it is a panic;
* a document that is one byte short of `greatestCount` has a size that can be counted, but no other
  than the one that stands for sizes that cannot, so its text is that of no error.

`unread_of_longDocuments` has an error at each of the two ends.
-/

namespace FaultChain.Document

open Memory (Buffer Layout)

/-! ## No control characters

Every piece of a document is made of characters from the space on.  So a byte below it is none of
the document, and a zero ends it.
-/

/-- Whether a text has no control characters below U+0020. -/
def Printable (s : String) : Prop :=
  ∀ c ∈ s.toList, 0x20 ≤ c.toNat

instance (s : String) : Decidable (Printable s) :=
  List.decidableBAll _ s.toList

section Printable

variable {s t : String}

theorem Printable.append (hs : Printable s) (ht : Printable t) : Printable (s ++ t) := by
  intro c hmem
  rw [String.toList_append, List.mem_append] at hmem
  exact hmem.elim (hs c) (ht c)

/-- A text in quotes: the escape of a control character is made of others. -/
theorem printable_string (s : String) : Printable (string s) := by
  have hascii : ∀ n < 0x80, (escapeChar (.ofNat n)).all (0x20 ≤ ·.toNat) = true := by
    decide
  have hescape : Printable (String.ofList (escape s.toList)) := by
    intro d hmem
    rw [String.toList_ofList, escape, List.mem_flatMap] at hmem
    obtain ⟨c, -, hmem⟩ := hmem
    rcases Nat.lt_or_ge c.toNat 0x80 with hlow | hhigh
    · rw [← Char.ofNat_toNat c] at hmem
      exact decide_eq_true_iff.1 (List.all_eq_true.1 (hascii _ hlow) d hmem)
    · rw [escapeChar_of_le hhigh, List.mem_singleton] at hmem
      rw [hmem]
      omega
  exact ((by decide : Printable "\"").append hescape).append (by decide)

theorem printable_number (n : Nat) : Printable (toString n) := by
  intro c hmem
  rw [Nat.toString_eq_ofList_toDigits, String.toList_ofList] at hmem
  have hdigit := Nat.isDigit_of_mem_toDigits (by decide) (by decide) hmem
  rw [Char.isDigit, Bool.and_eq_true, decide_eq_true_eq, decide_eq_true_eq] at hdigit
  exact Nat.le_trans (by decide : 0x20 ≤ '0'.toNat) hdigit.1

theorem printable_flagsArray (f : Flags) : Printable (flagsArray f) := by
  obtain ⟨_ | _, _ | _, _ | _⟩ := f <;> decide

theorem printable_locationFields (l : Location) : Printable (locationFields l) := by
  have hfront := ((((by decide : Printable ",\"file\":").append (printable_string l.file)).append
    (by decide : Printable ",\"line\":")).append (printable_number l.line.toNat))
  obtain ⟨file, line, func⟩ := l
  cases func with
  | none => exact hfront.append (by decide : Printable "")
  | some func =>
      exact hfront.append ((by decide : Printable ",\"func\":").append (printable_string func))

theorem printable_fields (l : Link) : Printable (fields l) := by
  have hfront := ((((((((by decide : Printable "\"domain\":").append
    (printable_string l.domain.name)).append (by decide : Printable ",\"code\":")).append
    (printable_string l.code.name)).append (by decide : Printable ",\"flags\":")).append
    (printable_flagsArray l.flags)).append (by decide : Printable ",\"message\":")).append
    (printable_string l.message))
  obtain ⟨domain, code, flags, message, location⟩ := l
  cases location with
  | none => exact hfront.append (by decide : Printable "")
  | some location => exact hfront.append (printable_locationFields location)

/-- A document is made of keys, texts in quotes and numbers, none of which has a control character.
This goes along the causes. -/
theorem printable_nested (budget : Nat) (top : Link) (causes : List Link) :
    Printable (nested budget top causes) := by
  have hopen : ∀ l, Printable ("\x7b" ++ fields l) := fun l =>
    (by decide : Printable "\x7b").append (printable_fields l)
  induction causes generalizing budget top with
  | nil =>
      rw [nested]
      exact ((hopen top).append (by decide : Printable "")).append (by decide)
  | cons cause rest ih =>
      cases budget with
      | zero =>
          rw [nested]
          exact ((hopen top).append (by decide : Printable (causeKey ++ marker))).append (by decide)
      | succ more =>
          rw [nested]
          have hkey : Printable causeKey := by decide
          exact ((hopen top).append (hkey.append (ih more cause))).append (by decide)

end Printable

/-! ## The document

One document for each chain and each answer to its reservation, and what becomes of it in bytes and
as a text.
-/

/-- What is rendered for a chain, or for no error.  The reservation is that of the one pass that is
made. -/
def document (reservation : Reservation) : Option Chain → String
  | some chain => ofChain (writeLimit reservation chain) chain
  | none => empty

/-- No document has control characters, whether or not it is cut and whether or not there is an
error. -/
theorem printable_document (reservation : Reservation) (chain : Option Chain) :
    Printable (document reservation chain) := by
  cases chain with
  | none => exact (by decide : Printable empty)
  | some chain => exact printable_nested _ _ _

/-- A document of a chain is told from that of no error by its size alone. -/
theorem document_ne_empty (reservation : Reservation) (chain : Chain) :
    document reservation (some chain) ≠ empty := by
  have hnested : ∀ budget top causes,
      empty.utf8ByteSize < (nested budget top causes).utf8ByteSize := by
    intro budget top causes
    have hempty : empty.utf8ByteSize = 2 := by decide
    have hdomain : "\"domain\":".utf8ByteSize = 9 := by decide
    unfold nested fields
    simp only [String.utf8ByteSize_append, hempty, hdomain]
    omega
  intro heq
  have hsize := hnested (writeLimit reservation chain - 1) chain.top chain.causes
  rw [document, ofChain] at heq
  rw [heq] at hsize
  exact Nat.lt_irrefl _ hsize

/-- A text without control characters has no bytes below `0x20`.  The bytes of longer characters
have their top bit set, so the shortest ones are all there is to look at. -/
theorem Printable.bytes {s : String} (hs : Printable s) :
    ∀ b ∈ s.toUTF8.data.toList, 0x20 ≤ b := by
  intro b hmem
  rw [toList_toUTF8, List.mem_flatMap] at hmem
  obtain ⟨c, hc, hmem⟩ := hmem
  rcases utf8EncodeChar_cases c with ⟨hascii, hencode⟩ | ⟨-, hbytes⟩
  · rw [hencode, List.mem_singleton] at hmem
    rw [hmem, UInt8.le_iff_toNat_le, UInt8.toNat_ofNat_of_lt' (Nat.lt_trans hascii (by decide))]
    exact hs c hc
  · exact UInt8.le_trans (by decide) (hbytes b hmem)

/-- **Rendering** tells the size of the document and leaves what there is room for. -/
theorem render_eq (reservation : Reservation) (chain : Option Chain) (bytes : ByteArray) :
    render reservation chain bytes =
      (min ((document reservation chain).utf8ByteSize + 1) greatestCount,
        Window.remains bytes (document reservation chain).toUTF8) := by
  cases chain with
  | none =>
      have hjoin : String.join #[empty].toList = empty := by decide
      rw [render, renderPieces_eq, hjoin]
      rfl
  | some chain =>
      rw [render, renderPieces_eq, pieces, write_eq]
      dsimp only
      rw [join_nestedPieces]
      rfl

/-- What is left of bytes that have room for a whole document: the document and its terminator. -/
theorem extract_remains {old written : ByteArray} (hroom : written.size < old.size) :
    (Window.remains old written).extract 0 written.size = written := by
  have hkept : Window.keeps old.size written.size = written.size :=
    Nat.min_eq_right (Nat.le_sub_one_of_lt hroom)
  rw [Window.remains, if_neg (by omega), hkept, ByteArray.extract_zero_size,
    ByteArray.append_assoc, ByteArray.extract_append_eq_left rfl]

/-- The bytes of a text are read as that text. -/
theorem fromUTF8?_toUTF8 (s : String) : String.fromUTF8? s.toUTF8 = some s :=
  dif_pos s.isValidUTF8

/-- **What a conversion comes to** is settled by the size of the document that is measured, and
where there is a vector of that size, by what the document that is written leaves of it. -/
theorem convert_eq (passes : Passes) (chain : Chain) :
    let measured := (document passes.measuring (some chain)).utf8ByteSize
    let written := (document passes.writing (some chain)).toUTF8
    convert passes chain =
      if measured + 1 < greatestCount then
        if measured + 1 ≤ Layout.greatestSize then
          .text ((String.fromUTF8?
            ((Window.remains (Buffer.zeros (measured + 1)) written).extract 0 measured)).getD empty)
        else .capacityOverflow
      else .text empty := by
  intro measured written
  have hrequired : measure passes.measuring chain = min (measured + 1) greatestCount := by
    rw [measure, render_eq]
  rw [convert]
  dsimp only
  rw [hrequired]
  rcases Nat.lt_or_ge (measured + 1) greatestCount with hcounted | huncounted
  · rw [Nat.min_eq_left (Nat.le_of_lt hcounted), if_neg (Nat.ne_of_lt hcounted), if_pos hcounted,
      render_eq, Nat.add_sub_cancel]
    rcases Nat.lt_or_ge Layout.greatestSize (measured + 1) with hfull | hroom
    · rw [if_pos hfull, if_neg (Nat.not_le_of_lt hfull)]
    · rw [if_neg (Nat.not_lt_of_le hroom), if_pos hroom]
  · rw [Nat.min_eq_right huncounted, if_pos rfl, if_neg (Nat.not_lt_of_le huncounted)]

/-- What a document is converted to, if both passes are of it.  The cases are those of its size with
the terminator. -/
def Conversion.ofDocument (document : String) : Conversion :=
  if document.utf8ByteSize + 1 < greatestCount then
    if document.utf8ByteSize + 1 ≤ Layout.greatestSize then .text document else .capacityOverflow
  else .text empty

section Converted

variable {document : String}

/-- A document for which there is a vector is handed out. -/
theorem Conversion.ofDocument_of_fits (hfits : document.utf8ByteSize + 1 ≤ Layout.greatestSize) :
    ofDocument document = .text document := by
  have hword : Layout.greatestSize < greatestCount := by decide
  rw [ofDocument, if_pos (Nat.lt_of_le_of_lt hfits hword), if_pos hfits]

/-- A size that no vector can have, and that can be counted, is a panic. -/
theorem Conversion.ofDocument_of_long (hlong : Layout.greatestSize < document.utf8ByteSize + 1)
    (hcounted : document.utf8ByteSize + 1 < greatestCount) :
    ofDocument document = .capacityOverflow := by
  rw [ofDocument, if_pos hcounted, if_neg (Nat.not_le_of_lt hlong)]

/-- A size that stands for all that cannot be counted gives the text of no error. -/
theorem Conversion.ofDocument_of_vast (hvast : greatestCount ≤ document.utf8ByteSize + 1) :
    ofDocument document = .text empty := by
  rw [ofDocument, if_neg (Nat.not_lt_of_le hvast)]

end Converted

/-- **Measured first, a document fits**, and is read back as it was written: both passes of a
conversion are of one document if their reservations have the same answer, and then the size of that
document settles what comes of it. -/
theorem convert_of_same {passes : Passes} {chain : Chain}
    (hsame : document passes.measuring (some chain) = document passes.writing (some chain)) :
    convert passes chain = .ofDocument (document passes.writing (some chain)) := by
  have hsize : (document passes.writing (some chain)).toUTF8.size =
      (document passes.writing (some chain)).utf8ByteSize := rfl
  rw [convert_eq, hsame, Conversion.ofDocument, ← hsize,
    extract_remains (by rw [Buffer.size_zeros]; exact Nat.lt_succ_self _), fromUTF8?_toUTF8,
    Option.getD_some]

/-- The bytes that are written, up to the terminator.  No byte of a document is zero, so whoever
looks for the first zero finds the end of what was kept. -/
theorem count_zero_remains {old : ByteArray} {s : String} (hs : Printable s) (hpos : 0 < old.size) :
    ((Window.remains old s.toUTF8).extract 0
      (Window.keeps old.size s.utf8ByteSize + 1)).data.toList.count 0 = 1 := by
  have hsize : s.toUTF8.size = s.utf8ByteSize := rfl
  have hfront : (s.toUTF8.extract 0 (Window.keeps old.size s.utf8ByteSize) ++
      [(0 : UInt8)].toByteArray).size = Window.keeps old.size s.utf8ByteSize + 1 := by
    have hone : [(0 : UInt8)].toByteArray.size = 1 := rfl
    rw [ByteArray.size_append, ByteArray.size_extract, hone, hsize, Window.keeps]
    omega
  have hnone : (s.toUTF8.extract 0 (Window.keeps old.size s.utf8ByteSize)).data.toList.count 0 =
      0 := by
    refine List.count_eq_zero.2 fun hmem => ?_
    rw [ByteArray.data_extract, Array.toList_extract] at hmem
    have hbytes := hs.bytes 0 (List.mem_of_mem_drop (List.mem_of_mem_take hmem))
    exact absurd hbytes (by decide)
  rw [Window.remains, if_neg (Nat.ne_of_gt hpos), hsize,
    ByteArray.extract_append_eq_left hfront.symm, ByteArray.toList_data_append, List.count_append,
    hnone]
  rfl

/-- **Rendering is right at every capacity.** For a chain or no error, with a document of a size
that can be counted:

* rendering into any bytes tells the size of the document with its terminator, leaves no bytes as
  they are, and leaves of others as much of the document as there is room for, one terminator, and
  what was there before;
* no push ever takes a difference below zero or touches a place that is not there, whatever the
  pieces and the bytes are, and neither do the parts in which the fields of a link are pushed;
* the document is a text without control characters, so the terminator is the only one in what was
  written;
* whoever asks for it as a text gets exactly the document as long as a block can hold it with its
  terminator; above that the process panics, but for the one size with the terminator that also
  stands for sizes that cannot be counted, where the text is that of no error. -/
theorem render_correct (reservation : Reservation) (chain : Option Chain)
    (hcounted : (document reservation chain).utf8ByteSize < greatestCount) :
    let whole := (document reservation chain).toUTF8
    (∀ bytes : ByteArray,
      let kept := min (bytes.size - 1) whole.size
      let (required, after) := render reservation chain bytes
      required = whole.size + 1 ∧
      (bytes.size = 0 → after = bytes) ∧
      (0 < bytes.size →
        after = whole.extract 0 kept ++ [0].toByteArray ++ bytes.extract (kept + 1) bytes.size ∧
        (after.extract 0 (kept + 1)).data.toList.count 0 = 1)) ∧
    (∀ (bytes : ByteArray) (pieces : List ByteArray),
      let pushed := pieces.foldl Window.push (Window.start bytes)
      pieces.foldlM Window.push? (Window.start bytes) = some pushed ∧
      pushed.finish? = some pushed.finish ∧
      ∀ link, pushFields? link pushed = some (pushed.push (fields link).toUTF8)) ∧
    whole.IsValidUTF8 ∧
    (∀ b ∈ whole.data.toList, 0x20 ≤ b) ∧
    (∀ top, chain = some top →
      let converted := convert { measuring := reservation, writing := reservation } top
      (whole.size + 1 ≤ Layout.greatestSize → converted = .text (document reservation chain)) ∧
      (Layout.greatestSize < whole.size + 1 → whole.size + 1 < greatestCount →
        converted = .capacityOverflow) ∧
      (whole.size + 1 = greatestCount → converted = .text empty)) := by
  intro whole
  have hprintable := printable_document reservation chain
  refine ⟨fun bytes => ?_, fun bytes pieces => ?_, String.isValidUTF8 _, hprintable.bytes, ?_⟩
  -- What is left of the bytes, whatever they were.
  · intro kept
    rw [render_eq]
    refine ⟨Nat.min_eq_left hcounted, fun hnone => if_pos hnone, fun hpos => ⟨?_, ?_⟩⟩
    · exact if_neg (Nat.ne_of_gt hpos)
    · exact count_zero_remains hprintable hpos
  -- No access goes wrong on the way, however the document is cut into pieces.
  · intro pushed
    have hpushed : pushed = .after bytes (pieces.foldl (· ++ ·) ByteArray.empty) := by
      rw [← Window.pushes_after, ← Window.start_eq]
    refine ⟨?_, ?_, fun link => ?_⟩
    · rw [hpushed, Window.start_eq, Window.pushes?_after]
    · rw [hpushed, Window.finish?_after]
    · rw [hpushed, Window.push_after]
      exact pushes_fields link bytes _
  -- Both passes of a conversion have the one reservation here, so both are of this document.
  · rintro top rfl
    intro converted
    have hconverted : converted = .ofDocument (document reservation (some top)) :=
      convert_of_same rfl
    rw [hconverted]
    exact ⟨Conversion.ofDocument_of_fits, Conversion.ofDocument_of_long,
      fun hlast => Conversion.ofDocument_of_vast (Nat.le_of_eq hlast.symm)⟩

/-- An error over its cause, with texts in which something is escaped. -/
def samplePair : Chain where
  top :=
    { domain := .git, code := .notFound, flags := .onlyRetryable, message := "no \"HEAD\"\n"
      location := some { file := "src\\refs.rs", line := 407, func := some "résoudre" } }
  causes := [{ domain := .io, code := .ioError, flags := .none, message := "\x00\t" }]

/-- A pair of errors is rendered and converted as it should be: its document is short, so nothing is
asked of it but that. -/
theorem render_correct_samplePair :
    (document .granted (some samplePair)).utf8ByteSize < greatestCount ∧
      (∀ bytes, (render .granted (some samplePair) bytes).1 =
        (document .granted (some samplePair)).toUTF8.size + 1) ∧
      convert {} samplePair = .text (document .granted (some samplePair)) := by
  have hroom : (document .granted (some samplePair)).toUTF8.size + 1 ≤ Layout.greatestSize := by
    decide +kernel
  have hcounted : (document .granted (some samplePair)).utf8ByteSize < greatestCount := by
    decide +kernel
  have hcorrect := render_correct .granted (some samplePair) hcounted
  refine ⟨hcounted, fun bytes => ?_, (hcorrect.2.2.2.2 samplePair rfl).1 hroom⟩
  exact (hcorrect.1 bytes).1

/-! ## Documents that are too long

A message may be as long as memory goes, and a control character takes six times its size in a
document.  So the ends of what can be counted are reached by errors whose messages have buffers of
their own, and are not a matter of numbers alone.
-/

/-- A character that is repeated takes its share of a text every time. -/
theorem size_flatMap_replicate (f : Char → List Char) (n : Nat) (c : Char) (cs : List Char) :
    (String.ofList ((List.replicate n c ++ cs).flatMap f)).utf8ByteSize =
      n * (String.ofList (f c)).utf8ByteSize + (String.ofList (cs.flatMap f)).utf8ByteSize := by
  induction n with
  | zero => rw [List.replicate_zero, List.nil_append, Nat.zero_mul, Nat.zero_add]
  | succ n ih =>
      rw [List.replicate_succ, List.cons_append, List.flatMap_cons, String.ofList_append,
        String.utf8ByteSize_append, ih, Nat.succ_mul, ← Nat.add_assoc, Nat.add_comm (n * _)]

/-- An error whose message is a number of control characters and a number of letters. -/
def longChain (controls letters : Nat) : Chain where
  top :=
    { domain := .generic, code := .unknown, flags := .none
      message :=
        String.ofList (List.replicate controls '\x01' ++ (List.replicate letters 'a' ++ [])) }
  causes := []

/-- The message of such an error takes one byte for each of its characters. -/
theorem size_message_longChain (controls letters : Nat) :
    (longChain controls letters).top.message.utf8ByteSize = controls + letters := by
  have hmessage : (longChain controls letters).top.message.utf8ByteSize =
      controls * 1 + (letters * 1 + 0) := by
    rw [longChain, ← List.flatMap_singleton' (List.replicate controls _ ++ _),
      size_flatMap_replicate, size_flatMap_replicate]
    rfl
  rw [hmessage, Nat.mul_one, Nat.mul_one, Nat.add_zero]

/-- A control character takes six bytes of a document, and a letter one. -/
theorem size_document_longChain (controls letters : Nat) :
    (document .granted (some (longChain controls letters))).utf8ByteSize =
      61 + 6 * controls + letters := by
  have hcontrol : (String.ofList (escapeChar '\x01')).utf8ByteSize = 6 := by decide
  have hletter : (String.ofList (escapeChar 'a')).utf8ByteSize = 1 := by decide
  have hescaped :
      (String.ofList (escape (longChain controls letters).top.message.toList)).utf8ByteSize =
        controls * 6 + (letters * 1 + 0) := by
    rw [longChain, String.toList_ofList, escape, size_flatMap_replicate, size_flatMap_replicate,
      hcontrol, hletter]
    rfl
  -- Everything else about the document is the same for all numbers.
  let front : String :=
    "\x7b\"domain\":\"GENERIC\",\"code\":\"UNKNOWN\",\"flags\":[],\"message\":\""
  have hdocument : document .granted (some (longChain controls letters)) =
      front ++ String.ofList (escape (longChain controls letters).top.message.toList) ++
        "\"\x7d" := by
    have hfields : fields (longChain controls letters).top =
        ("\"domain\":" ++ string Domain.generic.name ++ ",\"code\":" ++ string Code.unknown.name ++
          ",\"flags\":" ++ flagsArray .none ++ ",\"message\":") ++
          ("\"" ++ String.ofList (escape (longChain controls letters).top.message.toList) ++
            "\"") ++ "" := rfl
    have hfront : front = "\x7b" ++ ("\"domain\":" ++ string Domain.generic.name ++ ",\"code\":" ++
        string Code.unknown.name ++ ",\"flags\":" ++ flagsArray .none ++ ",\"message\":") ++
        "\"" := by
      decide
    have hends : "\"\x7d" = "\"" ++ "\x7d" := by decide
    have hcauses : (longChain controls letters).causes = [] := rfl
    rw [document, ofChain, hcauses, nested, hfields, hfront, hends]
    simp only [String.append_assoc, String.empty_append]
  have hframe : front.utf8ByteSize = 59 ∧ "\"\x7d".utf8ByteSize = 2 := by decide
  rw [hdocument, String.utf8ByteSize_append, String.utf8ByteSize_append, hescaped, hframe.1,
    hframe.2]
  omega

/-- **The longest documents are not read back.** Both chains have a document that is shorter than
the greatest number that can be counted.  The one ends one byte short of it and is shown as no
error; the other is too long for a vector, and asking for it is a panic. -/
theorem unread_of_longDocuments :
    let vast := longChain 3074457345618258592 1
    let long := longChain 0 9223372036854775746
    (vast.top.message.utf8ByteSize + 1 ≤ Layout.greatestSize ∧
      (document .granted (some vast)).utf8ByteSize = greatestCount - 1 ∧
      convert {} vast = .text empty ∧ document .granted (some vast) ≠ empty) ∧
    (long.top.message.utf8ByteSize + 1 ≤ Layout.greatestSize ∧
      (document .granted (some long)).utf8ByteSize = Layout.greatestSize ∧
      convert {} long = .capacityOverflow) := by
  intro vast long
  have hvast : (document .granted (some vast)).utf8ByteSize = greatestCount - 1 := by
    rw [size_document_longChain]
    decide
  have hlong : (document .granted (some long)).utf8ByteSize = Layout.greatestSize := by
    rw [size_document_longChain]
    decide
  have hvast' : convert {} vast = .ofDocument (document .granted (some vast)) :=
    convert_of_same rfl
  have hlong' : convert {} long = .ofDocument (document .granted (some long)) :=
    convert_of_same rfl
  refine ⟨⟨?_, hvast, ?_, document_ne_empty _ _⟩, ?_, hlong, ?_⟩
  · rw [size_message_longChain]
    decide
  · rw [hvast', Conversion.ofDocument_of_vast (by rw [hvast]; decide)]
  · rw [size_message_longChain]
    decide
  · rw [hlong', Conversion.ofDocument_of_long (by rw [hlong]; decide) (by rw [hlong]; decide)]

end FaultChain.Document

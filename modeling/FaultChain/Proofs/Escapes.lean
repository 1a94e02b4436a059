import FaultChain.Proofs.Windows
import Mathlib.Algebra.Group.Nat.Defs

/-!
# Fields go into a window in parts

A field is offered in parts: a key, a quote, then the runs of a text between the bytes that are
escaped and the escapes themselves, or the digits of a number, which are found last digit first.
The parts are cut out of bytes by their places, and `pushFields?` checks every such place.  It comes
to one push of the whole field (`pushes_fields`), in any window.

### What is load-bearing

A text is escaped byte by byte, whereas `escape` goes by characters.  The two agree because every
byte of a character beyond ASCII is at least `0x80`, and such bytes stand for themselves
(`flatMap_escapeByte`); so no character is ever taken apart.

### Why pushes are composed

A field is not one text that is cut in pieces at will; which parts there are depends on the bytes of
the text, on the value of a number, on which flags are set.  What all these ways have in common is
their effect: in any window that was offered something, they succeed and leave what one push of a
certain text would have left (`Pushes`).  This is closed under doing one after the other
(`Pushes.then`), so the whole of a link follows from its parts without a window in sight, and the
division into parts is forgotten at the end.

### Checked places

Every access of the code to its bytes is an operation here that may fail: cutting a run out of a
text, looking up a digit, writing to a place of a number's ten.  `Option` carries the failure to the
top, so that `pushes_fields`, which says that the result is there, says that none of them ever
happens.
-/

namespace FaultChain.Document

/-! ## Bytes of a text

A text is taken as the bytes of its characters in turn.  The code goes from byte to byte, and the
document is defined from character to character.
-/

/-- The bytes of a text are those of its characters, one after another. -/
theorem toList_toUTF8 (s : String) :
    s.toUTF8.data.toList = s.toList.flatMap String.utf8EncodeChar := by
  rw [String.toUTF8_eq_toByteArray, ← String.utf8Encode_toList, List.utf8Encode]
  simp

/-- An ASCII character is one byte, and no byte of any other character is one of ASCII. -/
theorem utf8EncodeChar_cases (c : Char) :
    (c.toNat < 0x80 ∧ String.utf8EncodeChar c = [.ofNat c.toNat]) ∨
      (0x80 ≤ c.toNat ∧ ∀ b ∈ String.utf8EncodeChar c, 0x80 ≤ b) := by
  have hbyte : ∀ n, 0x80 ≤ n → n < 0x100 → (0x80 : UInt8) ≤ .ofNat n := by
    intro n hlow hhigh
    rw [UInt8.le_iff_toNat_le, UInt8.toNat_ofNat_of_lt' hhigh]
    exact hlow
  have hval : c.val.toNat = c.toNat := rfl
  rw [String.utf8EncodeChar.eq_1, hval]
  split
  · exact .inl ⟨by omega, rfl⟩
  · refine .inr ⟨by omega, ?_⟩
    split
    · simp only [List.mem_cons, List.not_mem_nil, or_false]
      rintro b (rfl | rfl) <;> exact hbyte _ (by omega) (by omega)
    · split
      · simp only [List.mem_cons, List.not_mem_nil, or_false]
        rintro b (rfl | rfl | rfl) <;> exact hbyte _ (by omega) (by omega)
      · simp only [List.mem_cons, List.not_mem_nil, or_false]
        rintro b (rfl | rfl | rfl | rfl) <;> exact hbyte _ (by omega) (by omega)

/-! ## Escaping byte by byte

Only characters of one byte are escaped, so the bytes of all others may be passed on singly.  That
is why going byte by byte comes to the same.
-/

/-- The short escape of a byte.  There is none for a byte that stands for itself, and an empty one
for a byte that is escaped by its number. -/
def shortEscape (b : UInt8) : Option (List UInt8) :=
  if b = 0x22 then some [0x5c, 0x22]
  else if b = 0x5c then some [0x5c, 0x5c]
  else if b = 0x0a then some [0x5c, 0x6e]
  else if b = 0x0d then some [0x5c, 0x72]
  else if b = 0x09 then some [0x5c, 0x74]
  else if b = 0x08 then some [0x5c, 0x62]
  else if b = 0x0c then some [0x5c, 0x66]
  else if b < 0x20 then some []
  else none

/-- The hexadecimal digits, in order. -/
def hexDigits : List UInt8 :=
  "0123456789abcdef".toUTF8.data.toList

/-- The escape of a byte by its number; nothing where a digit is not there. -/
def numberEscape? (b : UInt8) : Option (List UInt8) := do
  let high ← hexDigits[(b >>> 4).toNat]?
  let low ← hexDigits[(b &&& 0xf).toNat]?
  return [0x5c, 0x75, 0x30, 0x30, high, low]

/-- The escape of a byte, by its number if the short one is empty. -/
def escape? (b : UInt8) (short : List UInt8) : Option (List UInt8) :=
  if short.isEmpty then numberEscape? b else some short

/-- Offers the rest of a text, of which the bytes from `run` to `i` are known to stand for
themselves and were not offered yet. -/
def pushEscapedFrom? (text : ByteArray) (run i : Nat) : List UInt8 → Window → Option Window
  | [], w => do w.push? (← slice? text run text.size)
  | b :: rest, w =>
    match shortEscape b with
    | none => pushEscapedFrom? text run (i + 1) rest w
    | some short => do
      let w ← w.push? (← slice? text run i)
      let escape ← escape? b short
      let w ← w.push? escape.toByteArray
      pushEscapedFrom? text (i + 1) (i + 1) rest w

/-- Offers a text with its bytes escaped where they have to be. -/
def pushEscaped? (text : ByteArray) (w : Window) : Option Window :=
  pushEscapedFrom? text 0 0 text.data.toList w

/-- The bytes that stand for one byte of a text. -/
def escapeByte (b : UInt8) : List UInt8 :=
  match shortEscape b with
  | none => [b]
  | some short => (escape? b short).getD []

/-- Bytes beyond ASCII stand for themselves. -/
theorem escapeByte_of_le {b : UInt8} (h : 0x80 ≤ b) : escapeByte b = [b] := by
  have hne : ∀ k : UInt8, k < 0x80 → b ≠ k := by
    rintro k hk rfl
    exact absurd h (UInt8.not_le.2 hk)
  have hcontrol : ¬b < 0x20 := fun hlt => absurd (UInt8.lt_of_le_of_lt h hlt) (by decide)
  have hplain : shortEscape b = none := by
    rw [shortEscape, if_neg (hne _ (by decide)), if_neg (hne _ (by decide)),
      if_neg (hne _ (by decide)), if_neg (hne _ (by decide)), if_neg (hne _ (by decide)),
      if_neg (hne _ (by decide)), if_neg (hne _ (by decide)), if_neg hcontrol]
  rw [escapeByte, hplain]

/-- So do characters beyond ASCII. -/
theorem escapeChar_of_le {c : Char} (h : 0x80 ≤ c.toNat) : escapeChar c = [c] := by
  have hne : ∀ d : Char, d.toNat < 0x80 → c ≠ d := by
    rintro d hd rfl
    omega
  have hcontrol : ¬c.toNat < 0x20 := by omega
  rw [escapeChar, if_neg (hne _ (by decide)), if_neg (hne _ (by decide)),
    if_neg (hne _ (by decide)), if_neg (hne _ (by decide)), if_neg (hne _ (by decide)),
    if_neg (hne _ (by decide)), if_neg (hne _ (by decide)), if_neg hcontrol]

/-- Every half of a byte has a digit. -/
theorem isSome_numberEscape? (b : UInt8) : (numberEscape? b).isSome = true := by
  have hall : ∀ n < 0x100, (numberEscape? (.ofNat n)).isSome = true := by
    decide +kernel
  have hb := hall b.toNat b.toNat_lt
  rwa [UInt8.ofNat_toNat] at hb

/-- A byte that is escaped has an escape, a short one or one by its number. -/
theorem escape?_of_shortEscape {b : UInt8} {short : List UInt8} (h : shortEscape b = some short) :
    escape? b short = some (escapeByte b) := by
  have hsome : (escape? b short).isSome = true := by
    rw [escape?]
    split
    · exact isSome_numberEscape? b
    · rfl
  obtain ⟨escape, hescape⟩ := Option.isSome_iff_exists.1 hsome
  rw [escapeByte, h]
  dsimp only
  rw [hescape, Option.getD_some]

/-- **Escaping bytes is escaping characters.** The cases are those of ASCII, where a character is
one byte, and of the others, where nothing is escaped. -/
theorem flatMap_escapeByte (c : Char) :
    (String.utf8EncodeChar c).flatMap escapeByte =
      (escapeChar c).flatMap String.utf8EncodeChar := by
  rcases utf8EncodeChar_cases c with ⟨hascii, -⟩ | ⟨hbeyond, hbytes⟩
  · have hall : ∀ n < 0x80,
        (String.utf8EncodeChar (.ofNat n)).flatMap escapeByte =
          (escapeChar (.ofNat n)).flatMap String.utf8EncodeChar := by
      decide +kernel
    rw [← Char.ofNat_toNat c]
    exact hall _ hascii
  · rw [escapeChar_of_le hbeyond, List.flatMap_singleton]
    have hsame : ∀ bytes : List UInt8, (∀ b ∈ bytes, 0x80 ≤ b) →
        bytes.flatMap escapeByte = bytes := by
      intro bytes hbytes
      induction bytes with
      | nil => rfl
      | cons b rest ih =>
          rw [List.flatMap_cons, escapeByte_of_le (hbytes b List.mem_cons_self),
            ih fun b' hmem => hbytes b' (List.mem_cons_of_mem b hmem)]
          rfl
    exact hsame _ hbytes

/-- So it is for a whole text. -/
theorem flatMap_escapeByte_toUTF8 (s : String) :
    (s.toUTF8.data.toList).flatMap escapeByte =
      (String.ofList (escape s.toList)).toUTF8.data.toList := by
  rw [toList_toUTF8, toList_toUTF8, String.toList_ofList, escape, List.flatMap_assoc,
    List.flatMap_assoc]
  exact congrArg (List.flatMap · _) (funext flatMap_escapeByte)

/-! ## Pushes that come to a text

A function that pushes into a window comes to a text if it leaves the window that was offered that
text more, whatever it was offered before.  Such functions are put together with their texts.
-/

/-- Pushes that never go wrong and come to one push of a text.  The window is any one that was
offered something before, with room left or without. -/
def Pushes (pushes : Window → Option Window) (text : String) : Prop :=
  ∀ old written, pushes (.after old written) = some (.after old (written ++ text.toUTF8))

/-- The bytes of two texts are those of both. -/
theorem toUTF8_append (s t : String) : (s ++ t).toUTF8 = s.toUTF8 ++ t.toUTF8 := by
  simp only [String.toUTF8_eq_toByteArray, String.toByteArray_append]

section Pushes

variable {p q : Window → Option Window} {s t : String}

/-- One push comes to one push. -/
theorem pushes_piece (s : String) : Pushes (·.push? s.toUTF8) s :=
  fun old written => Window.push?_after old written s.toUTF8

/-- No push comes to a push of nothing. -/
theorem pushes_nothing : Pushes some "" := by
  intro old written
  exact congrArg (fun bytes => some (Window.after old bytes)) ByteArray.append_empty.symm

/-- **Pushes compose.** -/
theorem Pushes.then (hp : Pushes p s) (hq : Pushes q t) :
    Pushes (fun w => (p w).bind q) (s ++ t) := by
  intro old written
  dsimp only
  rw [hp, Option.bind_some, hq, toUTF8_append, ByteArray.append_assoc]

end Pushes

/-- The rest of a text is offered with its bytes escaped, after what was held back of it. -/
theorem pushEscapedFrom?_after {text : ByteArray} {run i : Nat} {rest : List UInt8}
    (hrest : text.data.toList.drop i = rest) (hrun : run ≤ i) (hi : i ≤ text.size)
    (old written : ByteArray) :
    pushEscapedFrom? text run i rest (.after old written) =
      some (.after old
        (written ++ (text.extract run i ++ (rest.flatMap escapeByte).toByteArray))) := by
  have hlength : text.data.toList.length = text.size := text.data.length_toList
  induction rest generalizing run i written with
  | nil =>
      have hend : i = text.size := by
        have hle := List.drop_eq_nil_iff.1 hrest
        omega
      have hslice : slice? text run text.size = some (text.extract run text.size) :=
        if_pos ⟨hend ▸ hrun, Nat.le_refl _⟩
      have hnone : ([].flatMap escapeByte).toByteArray = ByteArray.empty := rfl
      rw [pushEscapedFrom?, hslice, hend, hnone, ByteArray.append_empty, Option.bind_eq_bind,
        Option.bind_some, Window.push?_after]
  | cons b rest ih =>
      have hlt : i < text.size := by
        have hne : ¬text.data.toList.length ≤ i := fun hle => by
          rw [List.drop_eq_nil_of_le hle] at hrest
          cases hrest
        omega
      have hrest' : text.data.toList.drop (i + 1) = rest := by
        rw [← List.tail_drop, hrest]
        rfl
      rw [List.flatMap_cons, List.toByteArray_append, pushEscapedFrom?]
      split
      · next hplain =>
          -- The byte stands for itself and joins what is held back.
          have hbyte : text.extract i (i + 1) = [b].toByteArray := by
            have hget : text[i] = b := by
              have hhead := congrArg List.head? hrest
              rw [List.head?_drop, List.getElem?_eq_getElem (hlength.symm ▸ hlt)] at hhead
              exact Option.some.inj hhead
            rw [ByteArray.extract_add_one hlt, hget]
          have hescape : escapeByte b = [b] := by
            rw [escapeByte, hplain]
          rw [ih hrest' (Nat.le_succ_of_le hrun) hlt,
            ByteArray.extract_eq_extract_append_extract i hrun (Nat.le_succ i), hbyte, hescape,
            ByteArray.append_assoc]
      · next short hshort =>
          have hslice : slice? text run i = some (text.extract run i) := if_pos ⟨hrun, hi⟩
          have hafter : text.extract (i + 1) (i + 1) = ByteArray.empty := ByteArray.extract_same
          have hescape := escape?_of_shortEscape hshort
          simp only [hslice, Option.bind_eq_bind, Option.bind_some, Window.push?_after, hescape,
            ih hrest' (Nat.le_refl _) hlt, hafter, ByteArray.empty_append, ByteArray.append_assoc]

/-- A text is offered as its escape. -/
theorem pushes_escaped (s : String) :
    Pushes (pushEscaped? s.toUTF8) (String.ofList (escape s.toList)) := by
  intro old written
  have hnone : s.toUTF8.extract 0 0 = ByteArray.empty := ByteArray.extract_same
  have hbytes : ∀ bytes : ByteArray, bytes.data.toList.toByteArray = bytes := fun bytes =>
    ByteArray.ext (by rw [List.data_toByteArray, Array.toArray_toList])
  rw [pushEscaped?, pushEscapedFrom?_after List.drop_zero (Nat.le_refl 0) (Nat.zero_le _), hnone,
    ByteArray.empty_append, flatMap_escapeByte_toUTF8, hbytes]

/-! ## Numbers

Digits are written into a few places from the back, and what was written is offered.
-/

/-- Writes the decimal digits of a number into places before a given one, last digit first, and
tells the place of the first one; nothing where there is no place left. -/
def digits? (places : ByteArray) : Nat → UInt32 → Option (ByteArray × Nat)
  | 0, _ => none
  | i + 1, n => do
    let places ← set? places i (0x30 + (n % 10).toUInt8)
    if n / 10 = 0 then some (places, i) else digits? places i (n / 10)

/-- Offers a number in decimal digits, of which there are at most ten. -/
def pushNumber? (n : UInt32) (w : Window) : Option Window := do
  let (places, start) ← digits? (Memory.Buffer.zeros 10) 10 n
  w.push? (← slice? places start places.size)

/-- One digit as a byte. -/
theorem toUTF8_digitChar (n : UInt32) :
    (String.ofList [Nat.digitChar (n.toNat % 10)]).toUTF8 =
      [0x30 + (n % 10).toUInt8].toByteArray := by
  have hall : ∀ m < 10, String.utf8EncodeChar (Nat.digitChar m) = [0x30 + UInt8.ofNat m] := by
    decide
  have hdigit : (n % 10).toUInt8 = UInt8.ofNat (n.toNat % 10) := by
    apply UInt8.toNat_inj.1
    rw [UInt32.toNat_toUInt8, UInt32.toNat_mod, UInt8.toNat_ofNat']
    rfl
  rw [String.toUTF8_eq_toByteArray, String.toByteArray_ofList, List.utf8Encode_singleton, hdigit,
    hall _ (Nat.mod_lt _ (by decide))]

/-- What is in the places from a given one on, once that one was written to. -/
theorem extract_set {places : ByteArray} {i : Nat} (h : i < places.size) (b : UInt8) :
    (places.set i b h).size = places.size ∧
      (places.set i b h).extract i places.size =
        [b].toByteArray ++ places.extract (i + 1) places.size := by
  have hfront : (places.extract 0 i).size = i := by
    rw [ByteArray.size_extract]
    omega
  have hback : ([b].toByteArray ++ places.extract (i + 1) places.size).size = places.size - i := by
    rw [ByteArray.size_append, ByteArray.size_extract]
    have hone : [b].toByteArray.size = 1 := rfl
    omega
  rw [ByteArray.set_eq_push_extract_append_extract, ← ByteArray.append_toByteArray_singleton,
    ByteArray.append_assoc, ByteArray.size_append, hfront, hback]
  refine ⟨by omega, ?_⟩
  exact ByteArray.extract_append_eq_right hfront.symm (by rw [hfront, hback]; omega)

/-- One digit is written, and the rest in front of it if there is a rest. -/
theorem digits?_succ {places : ByteArray} {i : Nat} (hi : i < places.size) (n : UInt32) :
    digits? places (i + 1) n =
      if n / 10 = 0 then some (places.set i (0x30 + (n % 10).toUInt8) hi, i)
      else digits? (places.set i (0x30 + (n % 10).toUInt8) hi) i (n / 10) := by
  rw [digits?, set?, dif_pos hi]
  rfl

/-- **The digits of a number** end up in the last places, if there are enough of them. -/
theorem digits?_spec {places : ByteArray} {i : Nat} {n : UInt32} (hi : i < places.size)
    (hn : n.toNat < 10 ^ (i + 1)) :
    ∃ places' start, digits? places (i + 1) n = some (places', start) ∧
      start ≤ places'.size ∧
      places'.extract start places'.size =
        (String.ofList (Nat.toDigits 10 n.toNat)).toUTF8 ++
          places.extract (i + 1) places.size := by
  -- Digits are written from the last place backwards, one place for each; the bound on the number
  -- says that the places do not run out.
  induction i generalizing places n with
  | zero =>
      obtain ⟨hsize, hextract⟩ := extract_set hi (0x30 + (n % 10).toUInt8)
      have hsmall : n.toNat < 10 := hn
      have hlast : n / 10 = 0 := by
        apply UInt32.toNat_inj.1
        rw [UInt32.toNat_div]
        exact Nat.div_eq_of_lt hsmall
      refine ⟨_, _, (digits?_succ hi n).trans (if_pos hlast), Nat.zero_le _, ?_⟩
      rw [hsize, hextract, Nat.toDigits_of_lt_base hsmall, ← toUTF8_digitChar,
        Nat.mod_eq_of_lt hsmall]
  | succ i ih =>
      obtain ⟨hsize, hextract⟩ := extract_set hi (0x30 + (n % 10).toUInt8)
      have hquotient : (n / 10).toNat = n.toNat / 10 := UInt32.toNat_div n 10
      rw [digits?_succ hi]
      -- The first digit is reached where nothing is left to divide.
      by_cases hlast : n / 10 = 0
      · have hsmall : n.toNat < 10 := by
          rw [hlast] at hquotient
          exact (Nat.div_eq_zero_iff_lt (by decide)).1 hquotient.symm
        refine ⟨_, _, if_pos hlast, by omega, ?_⟩
        rw [hsize, hextract, Nat.toDigits_of_lt_base hsmall, ← toUTF8_digitChar,
          Nat.mod_eq_of_lt hsmall]
      · have hlarge : 10 ≤ n.toNat := Nat.le_of_not_lt fun hsmall =>
          hlast (UInt32.toNat_inj.1 (hquotient.trans (Nat.div_eq_of_lt hsmall)))
        have hless : (n / 10).toNat < 10 ^ (i + 1) := by
          rw [hquotient]
          exact Nat.div_lt_of_lt_mul (by rw [Nat.mul_comm]; exact hn)
        obtain ⟨places', start, hdigits, hstart, hbytes⟩ :=
          ih (Nat.lt_of_succ_lt (hsize.symm ▸ hi)) hless
        refine ⟨places', start, (if_neg hlast).trans hdigits, hstart, ?_⟩
        rw [hbytes, hsize, hextract, Nat.toDigits_of_base_le (by decide) hlarge, hquotient,
          String.ofList_append, toUTF8_append, toUTF8_digitChar, ByteArray.append_assoc]

/-- A number is offered in its digits: a number of 32 bits has at most ten. -/
theorem pushes_number (n : UInt32) : Pushes (pushNumber? n) (toString n.toNat) := by
  intro old written
  have hten : n.toNat < 10 ^ (9 + 1) := Nat.lt_trans n.toNat_lt (by decide)
  obtain ⟨places, start, hdigits, hstart, hbytes⟩ :=
    @digits?_spec (Memory.Buffer.zeros 10) 9 n (by decide) hten
  have hnone : (Memory.Buffer.zeros 10).extract (9 + 1) (Memory.Buffer.zeros 10).size =
      ByteArray.empty := ByteArray.extract_same
  rw [hnone, ByteArray.append_empty, ← Nat.toString_eq_ofList_toDigits] at hbytes
  have hslice : slice? places start places.size = some (toString n.toNat).toUTF8 :=
    (if_pos ⟨hstart, Nat.le_refl _⟩).trans (congrArg some hbytes)
  simp only [pushNumber?, hdigits, hslice, Option.bind_eq_bind, Option.bind_some,
    Window.push?_after]

/-! ## Fields

The fields are pushed in the order in which the document has them, each as a key and its value.
-/

/-- Offers a key and a text as a string. -/
def pushString? (key text : String) (w : Window) : Option Window := do
  let w ← w.push? key.toUTF8
  let w ← w.push? "\"".toUTF8
  let w ← pushEscaped? text.toUTF8 w
  w.push? "\"".toUTF8

/-- Offers names as strings with commas between them, of which `i` were offered before. -/
def pushNames? (i : Nat) : List String → Window → Option Window
  | [], w => some w
  | name :: rest, w => do
    let w ← if 0 < i then w.push? ",".toUTF8 else some w
    let w ← w.push? "\"".toUTF8
    let w ← w.push? name.toUTF8
    let w ← w.push? "\"".toUTF8
    pushNames? (i + 1) rest w

/-- Offers the names of flags as an array. -/
def pushFlags? (key : String) (f : Flags) (w : Window) : Option Window := do
  let w ← w.push? (key ++ "[").toUTF8
  let w ← pushNames? 0 f.names w
  w.push? "]".toUTF8

/-- Offers the fields of a location. -/
def pushLocation? (l : Location) (w : Window) : Option Window := do
  let w ← pushString? ",\"file\":" l.file w
  let w ← w.push? ",\"line\":".toUTF8
  let w ← pushNumber? l.line w
  match l.func with
  | some func => pushString? ",\"func\":" func w
  | none => some w

/-- Offers the fields of a link. -/
def pushFields? (l : Link) (w : Window) : Option Window := do
  let w ← pushString? "\"domain\":" l.domain.name w
  let w ← pushString? ",\"code\":" l.code.name w
  let w ← pushFlags? ",\"flags\":" l.flags w
  let w ← pushString? ",\"message\":" l.message w
  match l.location with
  | some location => pushLocation? location w
  | none => some w

/-- A key and a text are offered as a key and a string. -/
theorem pushes_string (key text : String) : Pushes (pushString? key text) (key ++ string text) := by
  have hparts := (pushes_piece key).then ((pushes_piece "\"").then
    ((pushes_escaped text).then (pushes_piece "\"")))
  rw [string, String.append_assoc]
  exact hparts

/-- What stands between a first text and others is part of the others. -/
theorem intercalate_cons (s t : String) (l : List String) :
    s.intercalate (t :: l) = t ++ String.join (l.map (s ++ ·)) := by
  induction l generalizing t with
  | nil => rw [String.intercalate_singleton, List.map_nil, String.join_nil, String.append_empty]
  | cons u l ih =>
      rw [String.intercalate_cons_cons, ih, List.map_cons, String.join_cons]
      simp only [String.append_assoc]

/-- A name as a string; there is nothing in it to escape. -/
def quotedName (name : String) : String :=
  "\"" ++ name ++ "\""

/-- Names after the first one. -/
theorem pushes_more_names (i : Nat) (names : List String) :
    Pushes (pushNames? (i + 1) names) (String.join ((names.map quotedName).map ("," ++ ·))) := by
  induction names generalizing i with
  | nil => exact pushes_nothing
  | cons name rest ih =>
      have hparts := (pushes_piece ",").then ((pushes_piece "\"").then
        ((pushes_piece name).then ((pushes_piece "\"").then (ih (i + 1)))))
      rw [List.map_cons, List.map_cons, String.join_cons, quotedName]
      simp only [String.append_assoc] at hparts ⊢
      exact hparts

/-- Names are offered with commas between them. -/
theorem pushes_names (names : List String) :
    Pushes (pushNames? 0 names) (",".intercalate (names.map quotedName)) := by
  cases names with
  | nil => exact pushes_nothing
  | cons name rest =>
      have hparts := (pushes_piece "\"").then ((pushes_piece name).then
        ((pushes_piece "\"").then (pushes_more_names 0 rest)))
      rw [List.map_cons, intercalate_cons, quotedName]
      simp only [String.append_assoc] at hparts ⊢
      exact hparts

/-- Flags are offered as an array of their names. -/
theorem pushes_flags (key : String) (f : Flags) :
    Pushes (pushFlags? key f) (key ++ flagsArray f) := by
  have hparts := (pushes_piece (key ++ "[")).then
    ((pushes_names f.names).then (pushes_piece "]"))
  rw [flagsArray]
  simp only [String.append_assoc] at hparts ⊢
  exact hparts

/-- A location is offered in its fields, of which the last may be missing. -/
theorem pushes_location (l : Location) : Pushes (pushLocation? l) (locationFields l) := by
  obtain ⟨file, line, func⟩ := l
  have hfront {p : Window → Option Window} {text : String} (hp : Pushes p text) :=
    (pushes_string ",\"file\":" file).then ((pushes_piece ",\"line\":").then
      ((pushes_number line).then hp))
  cases func with
  | none =>
      have hparts := hfront pushes_nothing
      simp only [locationFields, String.append_assoc] at hparts ⊢
      exact hparts
  | some func =>
      have hparts := hfront (pushes_string ",\"func\":" func)
      simp only [locationFields, String.append_assoc] at hparts ⊢
      exact hparts

/-- **The fields of a link** go into a window in parts as they do in one push. -/
theorem pushes_fields (l : Link) : Pushes (pushFields? l) (fields l) := by
  obtain ⟨domain, code, flags, message, location⟩ := l
  have hfront {p : Window → Option Window} {text : String} (hp : Pushes p text) :=
    (pushes_string "\"domain\":" domain.name).then
      ((pushes_string ",\"code\":" code.name).then ((pushes_flags ",\"flags\":" flags).then
        ((pushes_string ",\"message\":" message).then hp)))
  cases location with
  | none =>
      have hparts := hfront pushes_nothing
      unfold fields
      simp only [String.append_assoc] at hparts ⊢
      exact hparts
  | some location =>
      have hparts := hfront (pushes_location location)
      unfold fields
      simp only [String.append_assoc] at hparts ⊢
      exact hparts

end FaultChain.Document

import FaultChain.Proofs.Grammar

/-!
# Reading JSON

A reader for the grammar, which goes through the characters once and takes the longest number that
it sees.  It reads whatever the grammar spells (`Spells.reads`), so a text spells at most one value
(`IsDocument.unique`).

### What is load-bearing

A number goes on as long as it can, so it can only be told where it ends by what follows it.  What
follows a value in a document never continues a number (`Ends`).

### A relation and a function

The grammar says of a text which values it spells, and leaves open that it might spell none, or two.
The reader is a function, so it finds at most one.  Neither alone says that documents are
unambiguous: the relation might relate a text to two values, and the function might fail on a text
that the grammar allows.  That the reader finds every value that is spelled closes the gap, and
since it is a function, the value is unique.  Nothing is said of texts that
the grammar does not allow; nothing here needs it.

### What the induction is on

`Spells` is one relation for values, items and members, and its proof objects are trees in which an
array holds its items.  The proof that they are read (`Spells.reads`) follows these trees with one
statement for all three forms (`Reads`), which says what the reader for that form returns, given any
text behind it.  The readers have a bound on their steps, and what is asked of it is only that it is
not below the number of characters.
-/

namespace FaultChain.Json

/-! ## The reader

One function for each rule of the grammar.  A function returns what it read and what is left, or
nothing.
-/

/-- Reads four hexadecimal digits. -/
def readUnit? (cs : List Char) : Option (Nat × List Char) :=
  (unit? (cs.take 4)).map (·, cs.drop 4)

/-- Reads what follows the backslash of an escape. -/
def readEscape? : List Char → Option (Char × List Char)
  | 'u' :: rest => do
    let (m, rest) ← readUnit? rest
    if IsHigh m then
      match rest with
      | '\\' :: 'u' :: rest => do
        let (n, rest) ← readUnit? rest
        if IsLow n then some (ofPair m n, rest) else none
      | _ => none
    else if m.isValidChar then some (.ofNat m, rest)
    else none
  | e :: rest => (shortEscape? e).map (·, rest)
  | [] => none

/-- Reads one character of a string. -/
def readLetter? : List Char → Option (Char × List Char)
  | '\\' :: rest => readEscape? rest
  | c :: rest => if c = '"' ∨ c.toNat < 0x20 then none else some (c, rest)
  | [] => none

/-- Reads the characters of a string, with the quote at its end.  The number bounds the steps. -/
def readLetters? : Nat → List Char → Option (List Char × List Char)
  | 0, _ => none
  | fuel + 1, cs =>
    match cs with
    | '"' :: rest => some ([], rest)
    | _ => do
      let (c, rest) ← readLetter? cs
      let (text, rest) ← readLetters? fuel rest
      return (c :: text, rest)

/-- Reads digits, if there are some. -/
def readDigits? (cs : List Char) : Option (List Char × List Char) :=
  let ds := cs.takeWhile Char.isDigit
  if ds.isEmpty then none else some (ds, cs.dropWhile Char.isDigit)

/-- Reads the sign of a number. -/
def readSign : List Char → List Char × List Char
  | '-' :: rest => (['-'], rest)
  | cs => ([], cs)

/-- Reads the digits of a number that are not a fraction. -/
def readWhole? (cs : List Char) : Option (List Char × List Char) := do
  let (ds, rest) ← readDigits? cs
  if ds.head? = some '0' ∧ ds ≠ ['0'] then none else some (ds, rest)

/-- Reads the fraction of a number. -/
def readFraction? : List Char → Option (List Char × List Char)
  | '.' :: rest => do
    let (ds, rest) ← readDigits? rest
    return ('.' :: ds, rest)
  | cs => some ([], cs)

/-- Reads the sign of an exponent. -/
def readExponentSign : List Char → List Char × List Char
  | '-' :: rest => (['-'], rest)
  | '+' :: rest => (['+'], rest)
  | cs => ([], cs)

/-- Reads the exponent of a number. -/
def readExponent? : List Char → Option (List Char × List Char)
  | [] => some ([], [])
  | c :: rest =>
    if c = 'e' ∨ c = 'E' then do
      let (sign, rest) := readExponentSign rest
      let (ds, rest) ← readDigits? rest
      return (c :: (sign ++ ds), rest)
    else some ([], c :: rest)

/-- Reads a number. -/
def readNumber? (cs : List Char) : Option (List Char × List Char) := do
  let (sign, rest) := readSign cs
  let (whole, rest) ← readWhole? rest
  let (fraction, rest) ← readFraction? rest
  let (exponent, rest) ← readExponent? rest
  return (sign ++ (whole ++ (fraction ++ exponent)), rest)

/-- Passes over blanks. -/
def skip (cs : List Char) : List Char :=
  cs.dropWhile isBlank

/-- Reads the name of a member, with the colon behind it. -/
def readName? : List Char → Option (String × List Char)
  | '"' :: rest => do
    let (text, rest) ← readLetters? rest.length rest
    match skip rest with
    | ':' :: rest => some (.ofList text, rest)
    | _ => none
  | _ => none

mutual

/-- Reads a value.  The number bounds the depth and the steps, so that the recursion ends by
itself. -/
def readValue? : Nat → List Char → Option (Json × List Char)
  | 0, _ => none
  | fuel + 1, cs =>
    match cs with
    | '"' :: rest => do
      let (text, rest) ← readLetters? rest.length rest
      return (.string (.ofList text), rest)
    | '[' :: rest =>
      match skip rest with
      | ']' :: rest => some (.array [], rest)
      | _ => do
        let (vs, rest) ← readItems? fuel rest
        return (.array vs, rest)
    | '\x7b' :: rest =>
      match skip rest with
      | '\x7d' :: rest => some (.object [], rest)
      | _ => do
        let (ms, rest) ← readMembers? fuel rest
        return (.object ms, rest)
    | 'n' :: 'u' :: 'l' :: 'l' :: rest => some (.null, rest)
    | 't' :: 'r' :: 'u' :: 'e' :: rest => some (.bool true, rest)
    | 'f' :: 'a' :: 'l' :: 's' :: 'e' :: rest => some (.bool false, rest)
    | _ => do
      let (literal, rest) ← readNumber? cs
      return (.number (.ofList literal), rest)

/-- Reads the items of an array, with the bracket at its end. -/
def readItems? : Nat → List Char → Option (List Json × List Char)
  | 0, _ => none
  | fuel + 1, cs => do
    let (v, rest) ← readValue? fuel (skip cs)
    match skip rest with
    | ']' :: rest => some ([v], rest)
    | ',' :: rest => do
      let (vs, rest) ← readItems? fuel rest
      return (v :: vs, rest)
    | _ => none

/-- Reads the members of an object, with the brace at its end. -/
def readMembers? : Nat → List Char → Option (List (String × Json) × List Char)
  | 0, _ => none
  | fuel + 1, cs => do
    let (name, rest) ← readName? (skip cs)
    let (v, rest) ← readValue? fuel (skip rest)
    match skip rest with
    | '\x7d' :: rest => some ([(name, v)], rest)
    | ',' :: rest => do
      let (ms, rest) ← readMembers? fuel rest
      return ((name, v) :: ms, rest)
    | _ => none

end

/-- Reads a document. -/
def read? (text : String) : Option Json := do
  let cs := skip text.toList
  let (v, rest) ← readValue? cs.length cs
  if skip rest = [] then some v else none

/-! ## What it reads

Letters first: an escape is read to its end before the next letter is looked at, so it does not
matter what follows.
-/

/-- Four digits are taken off what they stand before. -/
theorem readUnit?_append {digits : List Char} {n : Nat} (h : unit? digits = some n)
    (rest : List Char) : readUnit? (digits ++ rest) = some (n, rest) := by
  have hlength : digits.length = 4 := by
    unfold unit? at h
    split at h
    · rfl
    · cases h
  rw [readUnit?, List.take_left' hlength, List.drop_left' hlength, h]
  rfl

/-- The number of a character is no half of a surrogate pair, so an escape that is half of one never
stands for itself. -/
theorem not_isHigh_of_isValidChar {n : Nat} (h : n.isValidChar) : ¬IsHigh n := by
  unfold IsHigh
  unfold Nat.isValidChar at h
  omega

/-- **A letter** is read, whatever follows it. -/
theorem Letter.reads {cs : List Char} {c : Char} (h : Letter cs c) (rest : List Char) :
    readLetter? (cs ++ rest) = some (c, rest) := by
  cases h with
  | plain hcontrol hquote hescape =>
      rw [List.singleton_append, readLetter?]
      · exact if_neg (not_or.2 ⟨hquote, Nat.not_lt_of_le hcontrol⟩)
      · exact hescape
  | @short e _ hshort =>
      rw [List.cons_append, List.cons_append, List.nil_append, readLetter?, readEscape?]
      · rw [hshort, Option.map_some]
      · rintro rfl
        cases hshort
  | @unit digits n hunit hvalid =>
      rw [List.cons_append, List.cons_append, readLetter?, readEscape?,
        readUnit?_append hunit rest]
      exact (if_neg (not_isHigh_of_isValidChar hvalid)).trans (if_pos hvalid)
  | @pair high low m n hhigh hm hlow hn =>
      rw [List.cons_append, List.cons_append, List.append_assoc, List.cons_append,
        List.cons_append, readLetter?, readEscape?, readUnit?_append hhigh]
      refine (if_pos hm).trans ?_
      have hread := readUnit?_append hlow rest
      simp only [hread, Option.bind_eq_bind, Option.bind_some, if_pos hn]

/-- A letter is not empty and does not start with a quote. -/
theorem Letter.head {cs : List Char} {c : Char} (h : Letter cs c) :
    ∃ d ds, cs = d :: ds ∧ d ≠ '"' := by
  cases h with
  | plain hcontrol hquote hescape => exact ⟨_, _, rfl, hquote⟩
  | short hshort => exact ⟨_, _, rfl, by decide⟩
  | unit hunit hvalid => exact ⟨_, _, rfl, by decide⟩
  | pair hhigh hm hlow hn => exact ⟨_, _, rfl, by decide⟩

/-- **Letters** are read up to the quote behind them. -/
theorem Letters.reads {cs text : List Char} (h : Letters cs text) (rest : List Char) (fuel : Nat)
    (hfuel : cs.length < fuel) : readLetters? fuel (cs ++ '"' :: rest) = some (text, rest) := by
  induction h generalizing fuel with
  | nil =>
      obtain ⟨fuel, rfl⟩ : ∃ n, fuel = n + 1 := ⟨fuel - 1, by omega⟩
      rfl
  | @cons cs ds text c hletter _ ih =>
      obtain ⟨d, ds', rfl, hquote⟩ := hletter.head
      obtain ⟨fuel, rfl⟩ : ∃ n, fuel = n + 1 := ⟨fuel - 1, by omega⟩
      have hread := hletter.reads (ds ++ '"' :: rest)
      have hrest := ih fuel (by simp at hfuel; omega)
      rw [List.append_assoc]
      rw [List.cons_append] at hread ⊢
      rw [readLetters?]
      · simp only [hread, hrest, Option.bind_eq_bind, Option.bind_some, Option.pure_def]
      · intro rest' heq
        exact hquote (List.cons.inj heq).1

/-! ## Numbers

Digits are read as long as there are any.  The parts of a number that may be missing are told by
their first character, which none of the others can start with.
-/

/-- Whether a character may stand in a number. -/
def isNumeric (c : Char) : Bool :=
  c.isDigit || c = '-' || c = '+' || c = '.' || c = 'e' || c = 'E'

/-- Whether what follows a value cannot continue a number. -/
def Ends (rest : List Char) : Prop :=
  ∀ c ∈ rest.head?, isNumeric c = false

/-- What ends a number is no digit. -/
theorem Ends.not_isDigit {rest : List Char} (h : Ends rest) :
    ∀ c ∈ rest.head?, c.isDigit = false := by
  intro c hmem
  have hnumeric := h c hmem
  rw [isNumeric, Bool.or_eq_false_iff, Bool.or_eq_false_iff, Bool.or_eq_false_iff,
    Bool.or_eq_false_iff, Bool.or_eq_false_iff] at hnumeric
  exact hnumeric.1.1.1.1.1

/-- Digits are read as long as there are any. -/
theorem Digits.reads {ds : List Char} (h : Digits ds) {rest : List Char}
    (hrest : ∀ c ∈ rest.head?, c.isDigit = false) : readDigits? (ds ++ rest) = some (ds, rest) := by
  have htake : rest.takeWhile Char.isDigit = [] ∧ rest.dropWhile Char.isDigit = rest := by
    cases rest with
    | nil => exact ⟨rfl, rfl⟩
    | cons c rest =>
        have hc := hrest c rfl
        exact ⟨List.takeWhile_cons_of_neg (by rw [hc]; decide),
          List.dropWhile_cons_of_neg (by rw [hc]; decide)⟩
  have hempty : ds.isEmpty = false := List.isEmpty_eq_false_iff.2 h.1
  rw [readDigits?, List.takeWhile_append_of_pos h.2, List.dropWhile_append_of_pos h.2, htake.1,
    htake.2, List.append_nil, hempty]
  rfl

/-- What starts with a character starts with it whatever comes behind. -/
theorem head?_of_digits {ds : List Char} (h : Digits ds) :
    ∃ c rest, ds = c :: rest ∧ c.isDigit = true := by
  obtain ⟨hne, hdigits⟩ := h
  cases ds with
  | nil => exact absurd rfl hne
  | cons c rest => exact ⟨c, rest, rfl, hdigits c List.mem_cons_self⟩

/-- The digits in front of a fraction are read, if no digit follows. -/
theorem Whole.reads {whole : List Char} (h : Whole whole) {rest : List Char}
    (hrest : ∀ c ∈ rest.head?, c.isDigit = false) :
    readWhole? (whole ++ rest) = some (whole, rest) := by
  have hzero : ¬(whole.head? = some '0' ∧ whole ≠ ['0']) := fun hz => hz.2 (h.2 hz.1)
  rw [readWhole?, h.1.reads hrest]
  exact if_neg hzero

/-- A fraction is read, or there is none and neither a point nor a digit follows. -/
theorem Fraction.reads {fraction : List Char} (h : Fraction fraction) {rest : List Char}
    (hdot : ∀ c ∈ rest.head?, c.isDigit = false ∧ c ≠ '.') :
    readFraction? (fraction ++ rest) = some (fraction, rest) := by
  rcases h with rfl | ⟨ds, hds, rfl⟩
  · rw [List.nil_append]
    cases rest with
    | nil => rfl
    | cons c rest =>
        rw [readFraction?]
        intro rest' heq
        exact (hdot c rfl).2 (List.cons.inj heq).1
  · rw [List.cons_append, readFraction?, hds.reads fun c hmem => (hdot c hmem).1]
    rfl

/-- An exponent is read, or there is none and nothing follows that could begin one. -/
theorem Exponent.reads {exponent : List Char} (h : Exponent exponent) {rest : List Char}
    (hends : Ends rest) : readExponent? (exponent ++ rest) = some (exponent, rest) := by
  rcases h with rfl | ⟨e, sign, ds, he, hsign, hds, rfl⟩
  · rw [List.nil_append]
    cases rest with
    | nil => rfl
    | cons c rest =>
        have hmark : ¬(c = 'e' ∨ c = 'E') := by
          rintro (rfl | rfl) <;> exact absurd (hends _ rfl) (by decide)
        rw [readExponent?, if_neg hmark]
  · have hread := hds.reads hends.not_isDigit
    have hsigned : readExponentSign (sign ++ (ds ++ rest)) = (sign, ds ++ rest) := by
      rcases hsign with rfl | rfl | rfl
      · obtain ⟨d, ds', rfl, hd⟩ := head?_of_digits hds
        rw [List.nil_append, List.cons_append, readExponentSign]
        · intro rest' heq
          rw [(List.cons.inj heq).1] at hd
          cases hd
        · intro rest' heq
          rw [(List.cons.inj heq).1] at hd
          cases hd
      · rfl
      · rfl
    rw [List.cons_append, List.append_assoc, readExponent?, if_pos he, hsigned]
    dsimp only
    rw [hread]
    rfl

/-- **A number** is read up to what cannot continue it. -/
theorem Number.reads {cs : List Char} (h : Number cs) {rest : List Char} (hends : Ends rest) :
    readNumber? (cs ++ rest) = some (cs, rest) := by
  obtain @⟨sign, whole, fraction, exponent, hsign, hwhole, hfraction, hexponent⟩ := h
  have hexponent' := hexponent.reads hends
  -- What comes next starts with its own mark, or it is what follows the number.
  have hafterFraction : ∀ c ∈ (exponent ++ rest).head?, c.isDigit = false ∧ c ≠ '.' := by
    rcases hexponent with rfl | ⟨e, sign, ds, rfl | rfl, -, -, rfl⟩
    · intro c hmem
      refine ⟨hends.not_isDigit c hmem, ?_⟩
      rintro rfl
      exact absurd (hends _ hmem) (by decide)
    · intro c hmem
      obtain rfl := Option.some.inj hmem
      decide
    · intro c hmem
      obtain rfl := Option.some.inj hmem
      decide
  have hafterWhole : ∀ c ∈ (fraction ++ (exponent ++ rest)).head?, c.isDigit = false := by
    rcases hfraction with rfl | ⟨ds, -, rfl⟩
    · exact fun c hmem => (hafterFraction c hmem).1
    · intro c hmem
      obtain rfl := Option.some.inj hmem
      decide
  have hsigned : readSign (sign ++ (whole ++ (fraction ++ (exponent ++ rest)))) =
      (sign, whole ++ (fraction ++ (exponent ++ rest))) := by
    rcases hsign with rfl | rfl
    · obtain ⟨d, ds, rfl, hd⟩ := head?_of_digits hwhole.1
      rw [List.nil_append, List.cons_append, readSign]
      intro rest' heq
      rw [(List.cons.inj heq).1] at hd
      cases hd
    · rfl
  simp only [List.append_assoc, readNumber?, hsigned, hwhole.reads hafterWhole,
    hfraction.reads hafterFraction, hexponent', Option.bind_eq_bind, Option.bind_some,
    Option.pure_def]

/-! ## Values

A value is told by its first character, after blanks.  Items are read up to the bracket at their
end, and members up to the brace.
-/

/-- What may be the first character of a value. -/
def Opens (c : Char) : Prop :=
  isBlank c = false ∧ c ≠ ']' ∧ c ≠ '\x7d'

instance (c : Char) : Decidable (Opens c) :=
  inferInstanceAs (Decidable (_ ∧ _ ∧ _))

/-- Blanks are passed over. -/
theorem skip_append {blank : List Char} (h : Blank blank) (cs : List Char) :
    skip (blank ++ cs) = skip cs :=
  List.dropWhile_append_of_pos h

/-- Other characters are not. -/
theorem skip_cons {c : Char} (h : isBlank c = false) (cs : List Char) : skip (c :: cs) = c :: cs :=
  List.dropWhile_cons_of_neg (by rw [h]; decide)

/-- So the reader comes to the first character that is no blank. -/
theorem skip_append_cons {blank : List Char} (h : Blank blank) {c : Char} (hc : isBlank c = false)
    (cs : List Char) : skip (blank ++ c :: cs) = c :: cs := by
  rw [skip_append h, skip_cons hc]

/-- No blank stands in a number. -/
theorem isNumeric_of_isBlank {c : Char} (h : isBlank c = true) : isNumeric c = false := by
  rw [isBlank, Bool.or_eq_true, Bool.or_eq_true, Bool.or_eq_true] at h
  simp only [decide_eq_true_eq] at h
  obtain ((rfl | rfl) | rfl) | rfl := h <;> decide

/-- Blanks do not continue a number, and neither do separators behind them. -/
theorem Blank.ends {blank : List Char} (h : Blank blank) {rest : List Char} (hrest : Ends rest) :
    Ends (blank ++ rest) := by
  intro c hmem
  cases blank with
  | nil => exact hrest c hmem
  | cons b blank =>
      obtain rfl := Option.some.inj hmem
      exact isNumeric_of_isBlank (h b List.mem_cons_self)

/-- A character that stands in no number ends one. -/
theorem ends_cons {c : Char} (h : isNumeric c = false) (rest : List Char) : Ends (c :: rest) := by
  intro d hmem
  obtain rfl := Option.some.inj hmem
  exact h

/-- A number starts with a digit or a sign. -/
theorem Number.head {cs : List Char} (h : Number cs) :
    ∃ c rest, cs = c :: rest ∧ (c.isDigit = true ∨ c = '-') := by
  obtain @⟨sign, whole, fraction, exponent, hsign, hwhole, -, -⟩ := h
  rcases hsign with rfl | rfl
  · obtain ⟨d, ds, rfl, hd⟩ := head?_of_digits hwhole.1
    exact ⟨d, _, rfl, .inl hd⟩
  · exact ⟨'-', _, rfl, .inr rfl⟩

/-- What starts a number starts nothing else. -/
theorem ne_of_numeric {c : Char} (h : c.isDigit = true ∨ c = '-') {d : Char}
    (hd : d.isDigit = false ∧ d ≠ '-') : c ≠ d := by
  rintro rfl
  rcases h with hdigit | hminus
  · exact absurd hdigit (by rw [hd.1]; decide)
  · exact hd.2 hminus

/-- Neither of them is a blank. -/
theorem isBlank_of_numeric {c : Char} (h : c.isDigit = true ∨ c = '-') : isBlank c = false := by
  have hnumeric : isNumeric c = true := by
    rcases h with hdigit | rfl
    · simp [isNumeric, hdigit]
    · decide
  cases hblank : isBlank c with
  | false => rfl
  | true => exact absurd hnumeric (by rw [isNumeric_of_isBlank hblank]; decide)

/-- A value starts with a character of its own. -/
theorem Spells.opens {cs : List Char} {v : Json} (h : Spells cs (.value v)) :
    ∃ c rest, cs = c :: rest ∧ Opens c := by
  cases h with
  | null => exact ⟨'n', _, rfl, by decide⟩
  | isTrue => exact ⟨'t', _, rfl, by decide⟩
  | isFalse => exact ⟨'f', _, rfl, by decide⟩
  | number hnumber =>
      obtain ⟨c, rest, rfl, hc⟩ := hnumber.head
      exact ⟨c, rest, rfl, isBlank_of_numeric hc, ne_of_numeric hc (by decide),
        ne_of_numeric hc (by decide)⟩
  | string htext => exact ⟨'"', _, rfl, by decide⟩
  | emptyArray hblank => exact ⟨'[', _, rfl, by decide⟩
  | array hitems => exact ⟨'[', _, rfl, by decide⟩
  | emptyObject hblank => exact ⟨'\x7b', _, rfl, by decide⟩
  | object hmembers => exact ⟨'\x7b', _, rfl, by decide⟩

/-- Items start with a character of the first value, after blanks. -/
theorem Spells.items_open {cs : List Char} {vs : List Json} (h : Spells cs (.items vs)) :
    ∃ blank c rest, cs = blank ++ c :: rest ∧ Blank blank ∧ Opens c := by
  cases h with
  | item hbefore hvalue hafter =>
      obtain ⟨c, rest, rfl, hc⟩ := hvalue.opens
      exact ⟨_, c, _, rfl, hbefore, hc⟩
  | items hbefore hvalue hafter hrest =>
      obtain ⟨c, rest, rfl, hc⟩ := hvalue.opens
      exact ⟨_, c, _, rfl, hbefore, hc⟩

/-- Members start with a quote, after blanks. -/
theorem Spells.members_open {cs : List Char} {ms : List (String × Json)}
    (h : Spells cs (.members ms)) : ∃ blank rest, cs = blank ++ '"' :: rest ∧ Blank blank := by
  cases h with
  | member hbefore hname hafter hbefore' hvalue hafter' => exact ⟨_, _, rfl, hbefore⟩
  | members hbefore hname hafter hbefore' hvalue hafter' hrest => exact ⟨_, _, rfl, hbefore⟩

/-- A name is read with the colon behind it. -/
theorem Letters.reads_name {name text after : List Char} (h : Letters name text)
    (hafter : Blank after) (rest : List Char) :
    readName? ('"' :: (name ++ '"' :: (after ++ ':' :: rest))) = some (.ofList text, rest) := by
  have hread := h.reads (after ++ ':' :: rest) (name ++ '"' :: (after ++ ':' :: rest)).length
    (by simp)
  rw [readName?, hread]
  simp only [Option.bind_eq_bind, Option.bind_some,
    skip_append_cons hafter (by decide : isBlank ':' = false)]

/-- What reading some characters comes to, by what they spell; items and members are read with the
bracket at their end.  What follows is arbitrary, but it must not continue a number. -/
def Reads (cs : List Char) : Form → Prop
  | .value v => ∀ (fuel : Nat) (rest : List Char), cs.length ≤ fuel → Ends rest →
    readValue? fuel (cs ++ rest) = some (v, rest)
  | .items vs => ∀ (fuel : Nat) (rest : List Char), cs.length < fuel →
    readItems? fuel (cs ++ ']' :: rest) = some (vs, rest)
  | .members ms => ∀ (fuel : Nat) (rest : List Char), cs.length < fuel →
    readMembers? fuel (cs ++ '\x7d' :: rest) = some (ms, rest)

/-- **The reader reads what the grammar spells.** -/
theorem Spells.reads {cs : List Char} {form : Form} (h : Spells cs form) : Reads cs form := by
  induction h with
  -- Along the derivation. In each case the bound allows one step, and that step is all that the
  -- reader takes before the parts are read.
  | null =>
      intro fuel rest hfuel _
      obtain ⟨fuel, rfl⟩ : ∃ n, fuel = n + 1 := ⟨fuel - 1, by simp at hfuel; omega⟩
      rfl
  | isTrue =>
      intro fuel rest hfuel _
      obtain ⟨fuel, rfl⟩ : ∃ n, fuel = n + 1 := ⟨fuel - 1, by simp at hfuel; omega⟩
      rfl
  | isFalse =>
      intro fuel rest hfuel _
      obtain ⟨fuel, rfl⟩ : ∃ n, fuel = n + 1 := ⟨fuel - 1, by simp at hfuel; omega⟩
      rfl
  | @number cs hnumber =>
      intro fuel rest hfuel hends
      have hread := hnumber.reads hends
      obtain ⟨c, cs, rfl, hc⟩ := hnumber.head
      obtain ⟨fuel, rfl⟩ : ∃ n, fuel = n + 1 := ⟨fuel - 1, by simp at hfuel; omega⟩
      rw [List.cons_append] at hread ⊢
      rw [readValue?]
      · rw [hread]
        rfl
      -- The reader looks for the other values first; none of them starts as a number does.
      all_goals
        intro rest' heq
        exact absurd (List.cons.inj heq).1 (ne_of_numeric hc (by decide))
  | @string cs text htext =>
      intro fuel rest hfuel _
      obtain ⟨fuel, rfl⟩ : ∃ n, fuel = n + 1 := ⟨fuel - 1, by simp at hfuel; omega⟩
      have hread := htext.reads rest (cs ++ '"' :: rest).length (by simp)
      rw [List.cons_append, List.append_assoc, List.singleton_append, readValue?, hread]
      rfl
  | @emptyArray blank hblank =>
      intro fuel rest hfuel _
      obtain ⟨fuel, rfl⟩ : ∃ n, fuel = n + 1 := ⟨fuel - 1, by simp at hfuel; omega⟩
      rw [List.cons_append, List.append_assoc, List.singleton_append, readValue?,
        skip_append_cons hblank (by decide)]
      rfl
  | @array cs vs hitems ih =>
      intro fuel rest hfuel _
      obtain ⟨fuel, rfl⟩ : ∃ n, fuel = n + 1 := ⟨fuel - 1, by simp at hfuel; omega⟩
      have hread := ih fuel rest (by simp at hfuel; omega)
      obtain ⟨blank, c, inner, rfl, hblank, hnot, hbracket, -⟩ := hitems.items_open
      rw [List.append_assoc, List.cons_append] at hread
      rw [List.cons_append, List.append_assoc, List.append_assoc, List.cons_append,
        List.singleton_append, readValue?, skip_append_cons hblank hnot]
      split
      · next heq => exact absurd (List.cons.inj heq).1 hbracket
      · rw [hread]
        rfl
  | @emptyObject blank hblank =>
      intro fuel rest hfuel _
      obtain ⟨fuel, rfl⟩ : ∃ n, fuel = n + 1 := ⟨fuel - 1, by simp at hfuel; omega⟩
      rw [List.cons_append, List.append_assoc, List.singleton_append, readValue?,
        skip_append_cons hblank (by decide)]
      rfl
  | @object cs ms hmembers ih =>
      intro fuel rest hfuel _
      obtain ⟨fuel, rfl⟩ : ∃ n, fuel = n + 1 := ⟨fuel - 1, by simp at hfuel; omega⟩
      have hread := ih fuel rest (by simp at hfuel; omega)
      obtain ⟨blank, inner, rfl, hblank⟩ := hmembers.members_open
      rw [List.append_assoc, List.cons_append] at hread
      rw [List.cons_append, List.append_assoc, List.append_assoc, List.cons_append,
        List.singleton_append, readValue?, skip_append_cons hblank (by decide), hread]
      rfl
  -- The bracket is read with the last item, and the brace with the last member, so what follows a
  -- value is told by the case.
  | @item before cs after v hbefore hvalue hafter ih =>
      intro fuel rest hfuel
      obtain ⟨fuel, rfl⟩ : ∃ n, fuel = n + 1 := ⟨fuel - 1, by omega⟩
      have hread := ih fuel (after ++ ']' :: rest)
        (by simp at hfuel; omega) (hafter.ends (ends_cons (by decide) _))
      obtain ⟨c, inner, rfl, hnot, -⟩ := hvalue.opens
      rw [List.cons_append] at hread
      rw [List.append_assoc, List.append_assoc, List.cons_append, readItems?,
        skip_append_cons hbefore hnot, hread]
      simp only [Option.bind_eq_bind, Option.bind_some,
        skip_append_cons hafter (by decide : isBlank ']' = false)]
  | @items before cs after rest v vs hbefore hvalue hafter hrest ih ihrest =>
      intro fuel rest' hfuel
      obtain ⟨fuel, rfl⟩ : ∃ n, fuel = n + 1 := ⟨fuel - 1, by omega⟩
      have hread := ih fuel (after ++ ',' :: (rest ++ ']' :: rest'))
        (by simp at hfuel; omega) (hafter.ends (ends_cons (by decide) _))
      have hreadrest := ihrest fuel rest' (by simp at hfuel; omega)
      obtain ⟨c, inner, rfl, hnot, -⟩ := hvalue.opens
      rw [List.cons_append] at hread
      rw [List.append_assoc, List.append_assoc, List.append_assoc, List.cons_append,
        List.cons_append, readItems?, skip_append_cons hbefore hnot, hread]
      simp only [Option.bind_eq_bind, Option.bind_some, hreadrest, Option.pure_def,
        skip_append_cons hafter (by decide : isBlank ',' = false)]
  | @member before name after before' cs after' text v hbefore hname hafter hbefore' hvalue hafter'
      ih =>
      intro fuel rest hfuel
      obtain ⟨fuel, rfl⟩ : ∃ n, fuel = n + 1 := ⟨fuel - 1, by omega⟩
      have hread := ih fuel (after' ++ '\x7d' :: rest)
        (by simp at hfuel; omega) (hafter'.ends (ends_cons (by decide) _))
      have hreadname := hname.reads_name hafter (before' ++ (cs ++ (after' ++ '\x7d' :: rest)))
      obtain ⟨c, inner, rfl, hnot, -⟩ := hvalue.opens
      simp only [List.append_assoc, List.cons_append] at hread hreadname ⊢
      rw [readMembers?, skip_append_cons hbefore (by decide), hreadname]
      simp only [Option.bind_eq_bind, Option.bind_some, skip_append_cons hbefore' hnot, hread,
        skip_append_cons hafter' (by decide : isBlank '\x7d' = false)]
  | @members before name after before' cs after' text rest v ms hbefore hname hafter hbefore' hvalue
      hafter' hrest ih ihrest =>
      intro fuel rest' hfuel
      obtain ⟨fuel, rfl⟩ : ∃ n, fuel = n + 1 := ⟨fuel - 1, by omega⟩
      have hread := ih fuel (after' ++ ',' :: (rest ++ '\x7d' :: rest'))
        (by simp at hfuel; omega) (hafter'.ends (ends_cons (by decide) _))
      have hreadrest := ihrest fuel rest' (by simp at hfuel; omega)
      have hreadname := hname.reads_name hafter
        (before' ++ (cs ++ (after' ++ (',' :: (rest ++ '\x7d' :: rest')))))
      obtain ⟨c, inner, rfl, hnot, -⟩ := hvalue.opens
      simp only [List.append_assoc, List.cons_append] at hread hreadname ⊢
      rw [readMembers?, skip_append_cons hbefore (by decide), hreadname]
      simp only [Option.bind_eq_bind, Option.bind_some, skip_append_cons hbefore' hnot, hread,
        skip_append_cons hafter' (by decide : isBlank ',' = false), hreadrest, Option.pure_def]

/-! ## Documents

A document is a value with blanks around it and nothing behind these.
-/

/-- **The reader reads a document** as the value that it is one of. -/
theorem IsDocument.reads {text : String} {v : Json} (h : IsDocument text v) :
    read? text = some v := by
  obtain ⟨before, cs, after, hbefore, hspells, hafter, htext⟩ := h
  have hread : readValue? (cs ++ after).length (cs ++ after) = some (v, after) := by
    refine hspells.reads _ after ?_ ?_
    · rw [List.length_append]
      exact Nat.le_add_right _ _
    · have hends := @Blank.ends _ hafter [] (by intro c hmem; cases hmem)
      rwa [List.append_nil] at hends
  have hskip : skip text.toList = cs ++ after := by
    obtain ⟨c, inner, rfl, hnot, -⟩ := hspells.opens
    rw [htext, List.cons_append, skip_append_cons hbefore hnot]
  have hnone : skip after = [] := by
    have hall := skip_append hafter []
    rwa [List.append_nil] at hall
  simp only [read?, hskip, hread, Option.bind_eq_bind, Option.bind_some, hnone, if_true]

/-- **A text is a document of at most one value.** -/
theorem IsDocument.unique {text : String} {v w : Json} (hv : IsDocument text v)
    (hw : IsDocument text w) : v = w :=
  Option.some.inj (hv.reads.symm.trans hw.reads)

end FaultChain.Json

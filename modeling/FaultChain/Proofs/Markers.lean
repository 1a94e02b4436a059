import FaultChain.Proofs.Decoding
import Mathlib.Data.List.Infix

/-!
# No text looks like a key

Whoever searches a document for `"cause":` finds the causes that are written and nothing else, and
whoever searches it for `"truncated":true` finds out whether causes are left out, whatever the texts
of the chain are (`Document.occurrences_ofChain`).

### What is load-bearing

What is searched for has a quote, a word, a quote and a colon (`Document.keyed`).  The first quote
may be met in four places of a document, and only the first of them is one where the rest can
follow:

* at the start of a key, if the key is that word (`hits_key`);
* at the end of a key, where a colon follows;
* at the end of a string, where a comma or a bracket follows;
* at the start of a string or inside of one, behind a backslash.  From there to the next quote that
  is not behind a backslash it is the rest of the string, so the second quote ends the string, and
  no colon follows (`not_prefix_escape`).

Without the colon this fails: a message may well be the word `cause`.

### How the search goes

`hits` counts the places of a list of characters at which another one begins.  The lists are taken
apart from the front, so a lemma about a part of a document speaks of that part with anything behind
it: it has no hits of its own, and the hits of what follows are left.  What may follow a string is
said by `Closes`, and that is all that a lemma needs to know of what is behind its part.

A document is then a sequence of keys, strings and numbers, and each link gives the same answer
(`hits_object`), so that the hits are counted by an induction on the causes (`hits_nested`).  That
induction is made once, for any word that is not the key of a field; the key of a cause and the
marker are two instances of it.
-/

namespace FaultChain.Document

/-! ## Searching

How a search gets on from one quote to the next, for any word and anything that is to follow it.
-/

/-- At how many places of a text another one begins.  Hits may overlap, so this is the number that a
search finds which moves on by one character at a time. -/
def hits (needle cs : List Char) : Nat :=
  cs.tails.countP fun rest => needle.isPrefixOf rest

/-- How often a text occurs in another. -/
def occurrences (needle text : String) : Nat :=
  hits needle.toList text.toList

/-- A word as a key, and what is to follow it.  The colon is part of what is searched for: without
it a text could have the word in quotes. -/
def keyed (word after : List Char) : List Char :=
  '"' :: (word ++ '"' :: ':' :: after)

/-- Whether every character is a letter, and there is one. -/
def Word (word : List Char) : Prop :=
  word ≠ [] ∧ ∀ c ∈ word, c.isAlpha = true

instance (word : List Char) : Decidable (Word word) :=
  @instDecidableAnd _ _ inferInstance (List.decidableBAll _ word)

/-- Whether a string can end before some characters: neither a colon nor a letter comes next.  This
is what sets a string that is a value apart from one that is a key. -/
def Closes (rest : List Char) : Prop :=
  ∀ c ∈ rest.head?, c ≠ ':' ∧ c.isAlpha = false

instance : (rest : List Char) → Decidable (Closes rest)
  | [] => .isTrue fun _ hmem => by cases hmem
  | c :: _ => decidable_of_iff (c ≠ ':' ∧ c.isAlpha = false) (by simp [Closes])

section Searching

variable {word after rest : List Char}

/-- There is nothing in no characters, as a key has its quotes at least. -/
@[simp] theorem hits_nil (word after : List Char) : hits (keyed word after) [] = 0 := rfl

theorem hits_cons (needle : List Char) (c : Char) (cs : List Char) :
    hits needle (c :: cs) = hits needle cs + if needle.isPrefixOf (c :: cs) then 1 else 0 := by
  simp [hits, List.countP_cons]

/-- Nothing begins anywhere but at a quote, so a search goes from one quote to the next. -/
theorem hits_cons_of_ne {c : Char} (hc : c ≠ '"') (cs : List Char) :
    hits (keyed word after) (c :: cs) = hits (keyed word after) cs := by
  simp [hits_cons, keyed, hc.symm]

/-- What has no quote in it may be left out of a search. -/
theorem hits_append_of_notMem {cs : List Char} (hcs : '"' ∉ cs) (rest : List Char) :
    hits (keyed word after) (cs ++ rest) = hits (keyed word after) rest := by
  induction cs with
  | nil => rfl
  | cons c cs ih =>
      rw [List.mem_cons, not_or] at hcs
      rw [List.cons_append, hits_cons_of_ne (Ne.symm hcs.1), ih hcs.2]

/-- At a quote, the rest has to follow. -/
theorem hits_quote (cs : List Char) :
    hits (keyed word after) ('"' :: cs) =
      hits (keyed word after) cs + if word ++ '"' :: ':' :: after <+: cs then 1 else 0 := by
  simp [hits_cons, keyed, List.isPrefixOf_iff_prefix]

/-- A quote with something else behind it counts for nothing. -/
theorem hits_quote_of_not {cs : List Char} (h : ¬word ++ '"' :: ':' :: after <+: cs) :
    hits (keyed word after) ('"' :: cs) = hits (keyed word after) cs := by
  rw [hits_quote, if_neg h, Nat.add_zero]

/-! ## Keys

A key that is not the word is passed over, and one that is the word is found once.
-/

/-- A word does not begin with what is no letter. -/
theorem Word.not_prefix {c : Char} (hword : Word word) (hc : c.isAlpha = false) (more : List Char) :
    ¬word ++ more <+: c :: rest := by
  obtain ⟨hne, hletters⟩ := hword
  cases word with
  | nil => exact absurd rfl hne
  | cons d word =>
      intro hprefix
      obtain ⟨rfl, -⟩ := List.cons_prefix_cons.1 hprefix
      rw [hletters d List.mem_cons_self] at hc
      cases hc

/-- What stands before the first quote can be told from where the quote is: neither side has a quote
of its own, so both end at the same place. -/
theorem append_quote_prefix_iff {key more : List Char} (hword : '"' ∉ word) (hkey : '"' ∉ key) :
    word ++ '"' :: more <+: key ++ '"' :: rest ↔ word = key ∧ more <+: rest := by
  induction word generalizing key with
  | nil =>
      cases key with
      | nil => simp
      | cons d key =>
          have hd : '"' ≠ d := fun heq => hkey (heq ▸ List.mem_cons_self)
          simp [hd]
  | cons c word ih =>
      rw [List.mem_cons, not_or] at hword
      cases key with
      | nil => simp [Ne.symm hword.1]
      | cons d key =>
          rw [List.mem_cons, not_or] at hkey
          simp only [List.cons_append, List.cons_prefix_cons, ih hword.2 hkey.2, List.cons.injEq,
            and_assoc]

theorem Word.quote_notMem (hword : Word word) : '"' ∉ word :=
  fun hmem => absurd (hword.2 _ hmem) (by decide)

/-- **A key** is found if it is the word that is searched for, and what is to follow it follows. -/
theorem hits_key {key : List Char} (hword : Word word) (hkey : Word key) (rest : List Char) :
    hits (keyed word after) ('"' :: (key ++ '"' :: ':' :: rest)) =
      hits (keyed word after) rest + if word = key ∧ after <+: rest then 1 else 0 := by
  have hclosing : ¬word ++ '"' :: ':' :: after <+: ':' :: rest := hword.not_prefix (by decide) _
  rw [hits_quote, hits_append_of_notMem hkey.quote_notMem, hits_quote_of_not hclosing,
    hits_cons_of_ne (by decide)]
  simp only [append_quote_prefix_iff hword.quote_notMem hkey.quote_notMem, List.cons_prefix_cons,
    true_and]

/-! ## Strings

The part that matters.  A text may have quotes, words and colons in it, and nothing of it is found,
because of what an escape does to quotes.
-/

/-- An escape has a quote only behind its backslash.  Either a character stands for itself and is no
quote, or a backslash comes first. -/
theorem escapeChar_cases (c : Char) :
    (escapeChar c = [c] ∧ c ≠ '"') ∨ escapeChar c = ['\\', '"'] ∨
      ∃ cs, escapeChar c = '\\' :: cs ∧ '"' ∉ cs := by
  have hascii : ∀ n < 0x80, (escapeChar (.ofNat n) = [.ofNat n] ∧ Char.ofNat n ≠ '"') ∨
      escapeChar (.ofNat n) = ['\\', '"'] ∨
      ((escapeChar (.ofNat n)).head? = some '\\' ∧ '"' ∉ (escapeChar (.ofNat n)).tail) := by
    decide
  rcases Nat.lt_or_ge c.toNat 0x80 with hlow | hhigh
  · rcases Char.ofNat_toNat c ▸ hascii c.toNat hlow with hplain | hquote | ⟨hhead, htail⟩
    · exact .inl hplain
    · exact .inr (.inl hquote)
    · exact .inr (.inr ⟨_, List.eq_cons_of_mem_head? hhead, htail⟩)
  · refine .inl ⟨escapeChar_of_le hhigh, ?_⟩
    rintro rfl
    exact absurd hhigh (by decide)

/-- **From a place inside of a string**, the next quote that a word leads up to ends the string.
Any quote before that has a backslash in front of it, which is no letter; and behind the end of a
string comes no colon. -/
theorem not_prefix_escape (hword : ∀ c ∈ word, c.isAlpha = true) (hrest : Closes rest)
    (text : List Char) : ¬word ++ '"' :: ':' :: after <+: escape text ++ '"' :: rest := by
  have hslash : ∀ {word more cs}, (∀ c ∈ word, Char.isAlpha c = true) →
      ¬word ++ '"' :: more <+: '\\' :: cs := by
    rintro (_ | ⟨d, word⟩) more cs hword hprefix
    · exact absurd (List.cons_prefix_cons.1 hprefix).1 (by decide)
    · obtain ⟨rfl, -⟩ := List.cons_prefix_cons.1 hprefix
      exact absurd (hword _ List.mem_cons_self) (by decide)
  induction text generalizing word with
  | nil =>
      intro hprefix
      cases word with
      | nil =>
          have hcolon := (List.cons_prefix_cons.1 hprefix).2
          obtain ⟨more, rfl⟩ := hcolon
          exact (hrest ':' rfl).1 rfl
      | cons d word =>
          obtain ⟨rfl, -⟩ := List.cons_prefix_cons.1 hprefix
          exact absurd (hword _ List.mem_cons_self) (by decide)
  | cons c text ih =>
      rw [escape, List.flatMap_cons, ← escape, List.append_assoc]
      rcases escapeChar_cases c with ⟨hplain, hquote⟩ | hquote | ⟨cs, hslashed, -⟩
      · rw [hplain]
        intro hprefix
        cases word with
        | nil => exact hquote (List.cons_prefix_cons.1 hprefix).1.symm
        | cons d word =>
            exact ih (fun c hc => hword c (List.mem_cons_of_mem d hc))
              (List.cons_prefix_cons.1 hprefix).2
      · rw [hquote]
        exact hslash hword
      · rw [hslashed]
        exact hslash hword

/-- From a place inside of a string nothing is found before its end. -/
theorem hits_escape (hword : Word word) (hrest : Closes rest) (text : List Char) :
    hits (keyed word after) (escape text ++ '"' :: rest) = hits (keyed word after) rest := by
  induction text with
  | nil =>
      refine hits_quote_of_not ?_
      cases rest with
      | nil => simp
      | cons c rest => exact hword.not_prefix (hrest c rfl).2 _
  | cons c text ih =>
      rw [escape, List.flatMap_cons, ← escape, List.append_assoc]
      rcases escapeChar_cases c with ⟨hplain, hquote⟩ | hquote | ⟨cs, hslashed, hnone⟩
      · rw [hplain, List.singleton_append, hits_cons_of_ne hquote, ih]
      · rw [hquote, List.cons_append, List.singleton_append, hits_cons_of_ne (by decide),
          hits_quote_of_not (not_prefix_escape hword.2 hrest text), ih]
      · rw [hslashed, List.cons_append, hits_cons_of_ne (by decide),
          hits_append_of_notMem hnone, ih]

/-- **In a string** nothing is found. -/
theorem hits_string (hword : Word word) (hrest : Closes rest) (s : String) :
    hits (keyed word after) ((string s).toList ++ rest) = hits (keyed word after) rest := by
  have hquoted : (string s).toList ++ rest = '"' :: (escape s.toList ++ '"' :: rest) := by
    simp [string]
  rw [hquoted, hits_quote_of_not (not_prefix_escape hword.2 hrest s.toList),
    hits_escape hword hrest]

/-! ## Links

Fields are keys and values that were passed over already, so a link is found nowhere but at the key
of its cause.
-/

theorem Closes.append {cs : List Char} (h : Closes cs) (hne : cs ≠ []) : Closes (cs ++ rest) := by
  cases cs with
  | nil => exact absurd rfl hne
  | cons c cs => exact h

/-- Another key is not found, whether or not a comma comes before it.  Its first quote could begin a
hit and its second one could not, as a colon is no letter. -/
theorem hits_otherKey {start key : String} (hword : Word word) (hkey : Word key.toList)
    (hne : word ≠ key.toList)
    (hstart : start = "\"" ++ key ++ "\":" ∨ start = ",\"" ++ key ++ "\":") (rest : List Char) :
    hits (keyed word after) (start.toList ++ rest) = hits (keyed word after) rest := by
  have hfound : hits (keyed word after) ('"' :: (key.toList ++ '"' :: ':' :: rest)) =
      hits (keyed word after) rest := by
    rw [hits_key hword hkey, if_neg fun hsame => hne hsame.1, Nat.add_zero]
  have hcomma : hits (keyed word after) (',' :: '"' :: (key.toList ++ '"' :: ':' :: rest)) =
      hits (keyed word after) rest := by
    rw [hits_cons_of_ne (by decide), hfound]
  rcases hstart with rfl | rfl
  · simpa using hfound
  · simpa using hcomma

/-- In a number nothing is found. -/
theorem hits_number (n : Nat) :
    hits (keyed word after) ((toString n).toList ++ rest) = hits (keyed word after) rest := by
  refine hits_append_of_notMem (fun hmem => ?_) rest
  rw [Nat.toString_eq_ofList_toDigits, String.toList_ofList] at hmem
  exact absurd (Nat.isDigit_of_mem_toDigits (by decide) (by decide) hmem) (by decide)

theorem quotedName_of_mem_names (f : Flags) : ∀ name ∈ f.names, quotedName name = string name := by
  obtain ⟨_ | _, _ | _, _ | _⟩ := f <;> decide

/-- Names with a comma before each, as they stand in an array behind its first member. -/
def further (names : List String) : String :=
  String.join ((names.map quotedName).map ("," ++ ·))

theorem toList_further (name : String) (names : List String) (rest : List Char) :
    (further (name :: names)).toList ++ rest =
      ',' :: ((quotedName name).toList ++ ((further names).toList ++ rest)) := by
  simp [further, String.join_cons]

theorem closes_further (names : List String) (hrest : Closes rest) :
    Closes ((further names).toList ++ rest) := by
  cases names with
  | nil => simpa [further] using hrest
  | cons name names =>
      rw [toList_further]
      rintro c ⟨⟩
      decide

/-- In strings with a comma before each nothing is found. -/
theorem hits_further {names : List String} (hword : Word word)
    (hnames : ∀ name ∈ names, quotedName name = string name) (hrest : Closes rest) :
    hits (keyed word after) ((further names).toList ++ rest) = hits (keyed word after) rest := by
  induction names with
  | nil => simp [further]
  | cons name names ih =>
      rw [toList_further, hits_cons_of_ne (by decide), hnames name List.mem_cons_self,
        hits_string hword (closes_further names hrest),
        ih fun n hmem => hnames n (List.mem_cons_of_mem name hmem)]

/-- In the names of flags nothing is found. -/
theorem hits_flagsArray (hword : Word word) (f : Flags) :
    hits (keyed word after) ((flagsArray f).toList ++ rest) = hits (keyed word after) rest := by
  have hend : Closes (']' :: rest) := by
    rintro c ⟨⟩
    decide
  have hbracket : hits (keyed word after) (']' :: rest) = hits (keyed word after) rest :=
    hits_cons_of_ne (by decide) rest
  have harray : (flagsArray f).toList ++ rest =
      '[' :: ((",".intercalate (f.names.map quotedName)).toList ++ (']' :: rest)) := by
    have hquoted : flagsArray f = "[" ++ ",".intercalate (f.names.map quotedName) ++ "]" := rfl
    simp [hquoted]
  rw [harray, hits_cons_of_ne (by decide), ← hbracket]
  have hnames := quotedName_of_mem_names f
  cases hcases : f.names with
  | nil => rfl
  | cons name names =>
      rw [hcases] at hnames
      have hothers : ∀ n ∈ names, quotedName n = string n :=
        fun n hmem => hnames n (List.mem_cons_of_mem name hmem)
      rw [List.map_cons, intercalate_cons, String.toList_append, List.append_assoc, ← further,
        hnames name List.mem_cons_self, hits_string hword (closes_further names hend),
        hits_further hword hothers hend]

/-- The keys of the fields of a link. -/
def fieldKeys : List String :=
  ["domain", "code", "flags", "message", "file", "line", "func"]

/-- The key of a field is not found where another word is searched for. -/
theorem hits_fieldKey (hword : Word word) (hother : ∀ key ∈ fieldKeys, word ≠ key.toList)
    (start key : String) (hmem : key ∈ fieldKeys)
    (hstart : start = "\"" ++ key ++ "\":" ∨ start = ",\"" ++ key ++ "\":") (rest : List Char) :
    hits (keyed word after) (start.toList ++ rest) = hits (keyed word after) rest := by
  have hletters : ∀ key ∈ fieldKeys, Word key.toList := by decide
  exact hits_otherKey hword (hletters key hmem) (hother key hmem) hstart rest

theorem closes_locationFields (l : Location) (rest : List Char) :
    Closes ((locationFields l).toList ++ rest) := by
  unfold locationFields
  simp only [String.toList_append, List.append_assoc]
  exact Closes.append (by decide) (by decide)

/-- In where a link was raised nothing is found. -/
theorem hits_locationFields (hword : Word word) (hother : ∀ key ∈ fieldKeys, word ≠ key.toList)
    (hrest : Closes rest) (l : Location) :
    hits (keyed word after) ((locationFields l).toList ++ rest) = hits (keyed word after) rest := by
  have hkey := @hits_fieldKey word after hword hother
  obtain ⟨file, line, _ | func⟩ := l
  · unfold locationFields
    simp only [String.toList_append, List.append_assoc, String.toList_empty, List.nil_append]
    rw [hkey _ "file" (by decide) (by decide),
      hits_string hword (Closes.append (by decide) (by decide)),
      hkey _ "line" (by decide) (by decide), hits_number]
  · unfold locationFields
    simp only [String.toList_append, List.append_assoc]
    rw [hkey _ "file" (by decide) (by decide),
      hits_string hword (Closes.append (by decide) (by decide)),
      hkey _ "line" (by decide) (by decide), hits_number,
      hkey _ "func" (by decide) (by decide), hits_string hword hrest]

/-- **In the fields of a link** nothing is found but their keys. -/
theorem hits_fields (hword : Word word) (hother : ∀ key ∈ fieldKeys, word ≠ key.toList)
    (hrest : Closes rest) (l : Link) :
    hits (keyed word after) ((fields l).toList ++ rest) = hits (keyed word after) rest := by
  have hkey := @hits_fieldKey word after hword hother
  obtain ⟨domain, code, flags, message, location⟩ := l
  have hfront : ∀ text : List Char, Closes text →
      hits (keyed word after) ("\"domain\":".toList ++ ((string domain.name).toList ++
        (",\"code\":".toList ++ ((string code.name).toList ++ (",\"flags\":".toList ++
        ((flagsArray flags).toList ++ (",\"message\":".toList ++ ((string message).toList ++
        text)))))))) = hits (keyed word after) text := by
    intro text htext
    rw [hkey _ "domain" (by decide) (by decide),
      hits_string hword (Closes.append (by decide) (by decide)),
      hkey _ "code" (by decide) (by decide),
      hits_string hword (Closes.append (by decide) (by decide)),
      hkey _ "flags" (by decide) (by decide), hits_flagsArray hword,
      hkey _ "message" (by decide) (by decide), hits_string hword htext]
  unfold fields
  cases location with
  | none =>
      simp only [String.toList_append, List.append_assoc, String.toList_empty, List.nil_append]
      exact hfront rest hrest
  | some location =>
      simp only [String.toList_append, List.append_assoc]
      rw [hfront _ (closes_locationFields location rest),
        hits_locationFields hword hother hrest location]

/-- In an object that begins with a link, only what comes after the link is found. -/
theorem hits_object (hword : Word word) (hother : ∀ key ∈ fieldKeys, word ≠ key.toList) (l : Link)
    {tail : String} (htail : Closes (tail.toList ++ '\x7d' :: rest)) :
    hits (keyed word after) (("\x7b" ++ fields l ++ tail ++ "\x7d").toList ++ rest) =
      hits (keyed word after) (tail.toList ++ '\x7d' :: rest) := by
  have hobject : ("\x7b" ++ fields l ++ tail ++ "\x7d").toList ++ rest =
      '\x7b' :: ((fields l).toList ++ (tail.toList ++ '\x7d' :: rest)) := by
    simp
  rw [hobject, hits_cons_of_ne (by decide), hits_fields hword hother htail]

/-- The key of a cause, as a key. -/
theorem hits_causeKey (hword : Word word) (rest : List Char) :
    hits (keyed word after) (causeKey.toList ++ rest) =
      hits (keyed word after) rest + if word = "cause".toList ∧ after <+: rest then 1 else 0 := by
  rw [← hits_key hword (by decide)]
  exact hits_cons_of_ne (by decide) _

/-- The marker, as an object. -/
theorem hits_marker (hword : Word word) (rest : List Char) :
    hits (keyed word after) (marker.toList ++ rest) =
      hits (keyed word after) rest +
        if word = "truncated".toList ∧ after <+: "true\x7d".toList ++ rest then 1 else 0 := by
  have htrue : hits (keyed word after) ("true\x7d".toList ++ rest) = hits (keyed word after) rest :=
    hits_append_of_notMem (by decide) rest
  rw [← htrue, ← hits_key hword (by decide)]
  exact hits_cons_of_ne (by decide) _

/-- **In a document** something is found at each cause and at the marker, as far as the key of a
cause and the marker have it.  Both numbers are left open, so the same induction serves every
word. -/
theorem hits_nested {atCause atMarker : Nat} (hword : Word word)
    (hother : ∀ key ∈ fieldKeys, word ≠ key.toList)
    (hcause : ∀ rest, hits (keyed word after) (causeKey.toList ++ rest) =
      hits (keyed word after) rest + atCause)
    (hmarker : ∀ rest, hits (keyed word after) (marker.toList ++ rest) =
      hits (keyed word after) rest + atMarker)
    (budget : Nat) (top : Link) (causes : List Link) (rest : List Char) :
    hits (keyed word after) ((nested budget top causes).toList ++ rest) =
      hits (keyed word after) rest + atCause * min causes.length (budget + 1) +
        atMarker * if budget < causes.length then 1 else 0 := by
  have hbrace : ∀ rest, hits (keyed word after) ('\x7d' :: rest) = hits (keyed word after) rest :=
    hits_cons_of_ne (by decide)
  -- One link with a cause: the key of the cause is all that is found before the cause itself.
  have hlink : ∀ (top : Link) (text : String) (rest : List Char),
      hits (keyed word after)
          (("\x7b" ++ fields top ++ (causeKey ++ text) ++ "\x7d").toList ++ rest) =
        hits (keyed word after) (text.toList ++ '\x7d' :: rest) + atCause := by
    intro top text rest
    have htail : (causeKey ++ text).toList ++ '\x7d' :: rest =
        causeKey.toList ++ (text.toList ++ '\x7d' :: rest) := by
      simp
    rw [hits_object hword hother, htail, hcause]
    rw [htail]
    exact Closes.append (by decide) (by decide)
  -- Along the causes, for any budget; it ends at the last cause or at the marker.
  induction causes generalizing budget top rest with
  | nil =>
      have hend : Closes ("".toList ++ '\x7d' :: rest) := by
        rintro c ⟨⟩
        decide
      rw [nested, hits_object hword hother top hend]
      simpa using hbrace rest
  | cons cause causes ih =>
      cases budget with
      | zero =>
          rw [nested, hlink, hmarker, hbrace]
          simp
          omega
      | succ more =>
          have hmin : min (causes.length + 1) (more + 1 + 1) =
              min causes.length (more + 1) + 1 := by
            omega
          rw [nested, hlink, ih, hbrace]
          simp only [List.length_cons, hmin, Nat.mul_succ, Nat.add_lt_add_iff_right]
          omega

end Searching

/-- The key of a cause is found at each cause and at the marker. -/
theorem hits_cause (budget : Nat) (top : Link) (causes : List Link) :
    hits (keyed "cause".toList []) (nested budget top causes).toList =
      min causes.length (budget + 1) := by
  have hcause : ∀ rest, hits (keyed "cause".toList []) (causeKey.toList ++ rest) =
      hits (keyed "cause".toList []) rest + 1 := by
    intro rest
    rw [hits_causeKey (by decide), if_pos ⟨rfl, List.nil_prefix⟩]
  have hmarker : ∀ rest, hits (keyed "cause".toList []) (marker.toList ++ rest) =
      hits (keyed "cause".toList []) rest + 0 := by
    intro rest
    rw [hits_marker (by decide), if_neg fun h => absurd h.1 (by decide)]
  have hfound := hits_nested (by decide) (by decide) hcause hmarker budget top causes []
  rw [List.append_nil, hits_nil] at hfound
  omega

/-- The marker is found where it stands. -/
theorem hits_truncated (budget : Nat) (top : Link) (causes : List Link) :
    hits (keyed "truncated".toList "true".toList) (nested budget top causes).toList =
      if budget < causes.length then 1 else 0 := by
  have hcause : ∀ rest, hits (keyed "truncated".toList "true".toList) (causeKey.toList ++ rest) =
      hits (keyed "truncated".toList "true".toList) rest + 0 := by
    intro rest
    rw [hits_causeKey (by decide), if_neg fun h => absurd h.1 (by decide)]
  have hmarker : ∀ rest, hits (keyed "truncated".toList "true".toList) (marker.toList ++ rest) =
      hits (keyed "truncated".toList "true".toList) rest + 1 := by
    intro rest
    have htrue : "true".toList <+: "true\x7d".toList ++ rest := ⟨'\x7d' :: rest, rfl⟩
    rw [hits_marker (by decide), if_pos ⟨rfl, htrue⟩]
  have hfound := hits_nested (by decide) (by decide) hcause hmarker budget top causes []
  rw [List.append_nil, hits_nil] at hfound
  omega

/-- **No text looks like a key.**  For every chain whose frames can be reserved, whatever its texts
are:

* a window with room for the document of the chain holds it;
* `"cause":` occurs in the document once for each cause that is written, and for the marker;
* `"truncated":true` occurs in it once if causes are left out, and never otherwise.

Neither of the two can overlap with itself, so every occurrence is one of its own. -/
theorem occurrences_ofChain (chain : Chain) :
    let text := ofChain depthLimit chain
    (∀ bytes : ByteArray, text.utf8ByteSize < bytes.size →
      (render .granted (some chain) bytes).2.extract 0 text.utf8ByteSize = text.toUTF8) ∧
    occurrences "\"cause\":" text = min (chain.length - 1) depthLimit ∧
    occurrences "\"truncated\":true" text = if depthLimit < chain.length then 1 else 0 := by
  intro text
  have hcause : occurrences "\"cause\":" text = min (chain.length - 1) depthLimit :=
    hits_cause (depthLimit - 1) chain.top chain.causes
  have htruncated : occurrences "\"truncated\":true" text =
      if depthLimit - 1 < chain.causes.length then 1 else 0 :=
    hits_truncated (depthLimit - 1) chain.top chain.causes
  have hcut : depthLimit - 1 < chain.causes.length ↔ depthLimit < chain.length :=
    Nat.sub_lt_iff_lt_add (by decide)
  simp only [hcut] at htruncated
  exact ⟨fun bytes hroom => Json.extract_render hroom, hcause, htruncated⟩

/-- Without its colon the key of a cause looks like a message. -/
example : occurrences "\"cause\"" (ofChain depthLimit
    { top := { domain := .io, code := .ioError, flags := {}, message := "cause" } }) = 1 := by
  decide

end FaultChain.Document

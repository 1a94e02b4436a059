import FaultChain.Proofs.Reader
import FaultChain.Proofs.Rendering

/-!
# What a document says

`Chain.json` is the value that the document of a chain is to be read as: nested objects with the
fields of the links in a fixed order.  The document is one of this value (`isDocument_ofChain`), and
as no text is a document of two values, nothing else can be read out of it.  So two chains that are
written in full and have the same document are the same chain (`ofChain_injective`).

A text of members is built from its end: `More` is what may follow a member, nothing or a comma and
further members.

### What is load-bearing

* **Members are built from their end.** The writer puts a comma in front of every member but the
  first, and what follows a member is nothing or a comma.  Read from the front, the first member is
  a special case at every step; from the end, a text that may follow a member is extended by one
  more (`More.cons`), and the first member is put in front once (`More.member`).
* **A location ends where the next key is no key of its own.** The members of a link are one flat
  list in which the location may be missing, so injectivity has to find out where it ends.  It can,
  because the keys of a location are none of those that may follow it (`Trails`).
* **Names tell what they name.** Domains, codes and flags are written by their names, and no two of
  a kind have the same one.  A number is written in decimal digits, which tell it.  Messages and
  functions are strings, and the escape of a text tells the text, as the grammar reads it back.

### What injectivity needs

A document that was cut off tells the links in front of the cut and that there was one, and nothing
about what was left out.  So the last statement is for chains that are written in full.
-/

namespace FaultChain

open Document

namespace Json

/-- The names of flags, in their order. -/
def ofFlags (f : Flags) : Json :=
  .array <|
    (if f.retryable then [.string "RETRYABLE"] else []) ++
      (if f.permanent then [.string "PERMANENT"] else []) ++
      (if f.auth then [.string "AUTH"] else [])

/-- The members for a location. -/
def locationMembers (l : Location) : List (String × Json) :=
  [("file", .string l.file), ("line", .number (toString l.line.toNat))] ++
    match l.func with
    | some func => [("func", .string func)]
    | none => []

/-- The members for a link. -/
def linkMembers (l : Link) : List (String × Json) :=
  [("domain", .string l.domain.name), ("code", .string l.code.name), ("flags", ofFlags l.flags),
      ("message", .string l.message)] ++
    match l.location with
    | some location => locationMembers location
    | none => []

/-- What stands for causes that are left out. -/
def truncated : Json :=
  .object [("truncated", .bool true)]

/-- A link with its causes, of which `budget` more may be there.  The recursion is the one by which
the document is defined. -/
def ofLinks (budget : Nat) (top : Link) (causes : List Link) : Json :=
  .object <| linkMembers top ++
    match causes, budget with
    | [], _ => []
    | _ :: _, 0 => [("cause", truncated)]
    | cause :: rest, more + 1 => [("cause", ofLinks more cause rest)]

/-- A chain, of which at most `limit` links are there. -/
def ofChain (limit : Nat) (chain : Chain) : Json :=
  ofLinks (limit - 1) chain.top chain.causes

/-! ## Strings and numbers of documents

The two kinds of values at the leaves.  What is written for a character is what the grammar lets
stand for it, and numbers have no leading zeros.
-/

/-- Whether the characters of a text stand for themselves in a string. -/
def Plain (text : String) : Prop :=
  ∀ c ∈ text.toList, 0x20 ≤ c.toNat ∧ c ≠ '"' ∧ c ≠ '\\'

instance (text : String) : Decidable (Plain text) :=
  List.decidableBAll _ text.toList

/-- Characters that need no escape spell themselves. -/
theorem letters_of_plain {cs : List Char} (h : ∀ c ∈ cs, 0x20 ≤ c.toNat ∧ c ≠ '"' ∧ c ≠ '\\') :
    Letters cs cs := by
  induction cs with
  | nil => exact .nil
  | cons c cs ih =>
      obtain ⟨hcontrol, hquote, hescape⟩ := h c List.mem_cons_self
      exact .cons (.plain hcontrol hquote hescape)
        (ih fun d hmem => h d (List.mem_cons_of_mem c hmem))

/-- **An escaped character** is spelled as the grammar has it. -/
theorem letter_escapeChar (c : Char) : Letter (escapeChar c) c := by
  have hunit : ∀ n < 0x20, unit? ['0', '0', hexDigit (n / 16), hexDigit (n % 16)] = some n := by
    decide
  unfold escapeChar
  split
  · next heq => subst heq; exact .short rfl
  next hquote =>
  split
  · next heq => subst heq; exact .short rfl
  next hescape =>
  split
  · next heq => subst heq; exact .short rfl
  split
  · next heq => subst heq; exact .short rfl
  split
  · next heq => subst heq; exact .short rfl
  split
  · next heq => subst heq; exact .short rfl
  split
  · next heq => subst heq; exact .short rfl
  split
  · next hcontrol =>
      have hletter := Letter.unit (hunit c.toNat hcontrol) (by left; omega)
      rwa [Char.ofNat_toNat] at hletter
  · next hcontrol => exact .plain (Nat.le_of_not_lt hcontrol) hquote hescape

/-- So escaped texts are spelled, character by character. -/
theorem letters_escape (cs : List Char) : Letters (escape cs) cs := by
  induction cs with
  | nil => exact .nil
  | cons c cs ih => exact .cons (letter_escapeChar c) ih

/-- **A string of a document** is a JSON string of its text. -/
theorem spells_string (s : String) : Spells (Document.string s).toList (.value (.string s)) := by
  have hspells := Spells.string (letters_escape s.toList)
  rw [String.ofList_toList] at hspells
  rw [Document.string, String.toList_append, String.toList_append,
    @String.toList_ofList (escape s.toList)]
  exact hspells

/-- The digits of a number that is not zero start with another one. -/
theorem head?_toDigits {n : Nat} (h : 0 < n) : (Nat.toDigits 10 n).head? ≠ some '0' := by
  induction n using Nat.strongRecOn with
  | _ n ih =>
    rcases Nat.lt_or_ge n 10 with hsmall | hlarge
    · have hdigit : ∀ n < 10, 0 < n → [Nat.digitChar n].head? ≠ some '0' := by decide
      rw [Nat.toDigits_of_lt_base hsmall]
      exact hdigit n hsmall h
    · have hfirst := ih (n / 10) (by omega) (by omega)
      rw [Nat.toDigits_of_base_le (by decide) hlarge]
      cases hquotient : Nat.toDigits 10 (n / 10) with
      | nil => exact absurd hquotient Nat.toDigits_ne_nil
      | cons c cs =>
          rw [hquotient] at hfirst
          exact hfirst

/-- **A number of a document** is a JSON number. -/
theorem spells_number (n : Nat) :
    Spells (toString n).toList (.value (.number (toString n))) := by
  have hdigits : Digits (Nat.toDigits 10 n) :=
    ⟨Nat.toDigits_ne_nil, fun c hmem => Nat.isDigit_of_mem_toDigits (by decide) (by decide) hmem⟩
  have hwhole : Whole (Nat.toDigits 10 n) := by
    refine ⟨hdigits, fun hzero => ?_⟩
    rcases Nat.eq_zero_or_pos n with rfl | hpos
    · rfl
    · exact absurd hzero (head?_toDigits hpos)
  have hnumber := Spells.number (Number.intro (.inl rfl) hwhole (.inl rfl) (.inl rfl))
  rw [List.nil_append, List.append_nil, List.append_nil] at hnumber
  rw [Nat.toString_eq_ofList_toDigits, String.toList_ofList]
  exact hnumber

/-! ## Objects of documents

Documents are written from the front, so a member is read with everything behind it.  `More` says
what may stand there, and members are put in front of it one by one.
-/

/-- Whether a text is what may follow a member: nothing, or a comma and further members. -/
def More (text : String) (ms : List (String × Json)) : Prop :=
  (text = "" ∧ ms = []) ∨ ∃ rest, text.toList = ',' :: rest ∧ Spells rest (.members ms)

/-- Documents have no blanks, so every blank of the grammar is empty here. -/
theorem blank_nil : Blank [] :=
  List.forall_mem_nil _

/-- Nothing may follow a member. -/
theorem more_nil : More "" [] :=
  .inl ⟨rfl, rfl⟩

section Members

variable {value rest : String} {v : Json} {ms : List (String × Json)}

/-- A member and what follows it are members. -/
theorem More.member (hrest : More rest ms) (start key : String)
    (hstart : start = "\"" ++ key ++ "\":") (hkey : Plain key)
    (hvalue : Spells value.toList (.value v)) :
    Spells (start ++ value ++ rest).toList (.members ((key, v) :: ms)) := by
  have hname := letters_of_plain hkey
  rw [hstart]
  simp only [String.toList_append]
  rcases hrest with ⟨rfl, rfl⟩ | ⟨rest, hrest, hspells⟩
  · have hmember := Spells.member blank_nil hname blank_nil blank_nil hvalue blank_nil
    rw [String.ofList_toList] at hmember
    simpa using hmember
  · have hmembers := Spells.members blank_nil hname blank_nil blank_nil hvalue blank_nil hspells
    rw [String.ofList_toList] at hmembers
    rw [hrest]
    simpa using hmembers

/-- A member may follow another one, with what follows it. -/
theorem More.cons (hrest : More rest ms) (start key : String)
    (hstart : start = ",\"" ++ key ++ "\":") (hkey : Plain key)
    (hvalue : Spells value.toList (.value v)) : More (start ++ value ++ rest) ((key, v) :: ms) := by
  refine .inr ⟨_, ?_, hrest.member _ key rfl hkey hvalue⟩
  rw [hstart]
  simp

end Members

/-- A plain name between quotes is a string. -/
theorem spells_quotedName {name : String} (h : Plain name) :
    Spells (quotedName name).toList (.value (.string name)) := by
  have hspells := Spells.string (letters_of_plain h)
  rw [String.ofList_toList] at hspells
  rw [quotedName, String.toList_append, String.toList_append]
  exact hspells

/-- Plain names with commas between them are items. -/
theorem spells_names (name : String) (names : List String) (h : ∀ n ∈ name :: names, Plain n) :
    Spells (",".intercalate ((name :: names).map quotedName)).toList
      (.items ((name :: names).map .string)) := by
  induction names generalizing name with
  | nil =>
      have hname := spells_quotedName (h name List.mem_cons_self)
      have hitem := Spells.item blank_nil hname blank_nil
      rw [List.nil_append, List.append_nil] at hitem
      rw [List.map_singleton, String.intercalate_singleton]
      exact hitem
  | cons next names ih =>
      have hname := spells_quotedName (h name List.mem_cons_self)
      have hrest := ih next fun n hmem => h n (List.mem_cons_of_mem name hmem)
      have hitems := Spells.items blank_nil hname blank_nil hrest
      rw [List.map_cons, List.map_cons, String.intercalate_cons_cons, String.toList_append,
        String.toList_append, ← List.map_cons]
      simpa using hitems

/-- The flags as a value are the strings of their names. -/
theorem ofFlags_eq (f : Flags) : ofFlags f = .array (f.names.map .string) := by
  obtain ⟨_ | _, _ | _, _ | _⟩ := f <;> rfl

/-- Names of flags have nothing in them that is escaped. -/
theorem plain_names (f : Flags) : ∀ name ∈ f.names, Plain name := by
  obtain ⟨_ | _, _ | _, _ | _⟩ := f <;> decide

/-- So they are written without escaping, and are read as they are. -/
theorem spells_flags (f : Flags) : Spells (flagsArray f).toList (.value (ofFlags f)) := by
  have hplain := plain_names f
  rw [ofFlags_eq]
  have harray : flagsArray f = "[" ++ ",".intercalate (f.names.map quotedName) ++ "]" := rfl
  rw [harray, String.toList_append, String.toList_append]
  cases hnames : f.names with
  | nil => exact Spells.emptyArray blank_nil
  | cons name names =>
      rw [hnames] at hplain
      exact Spells.array (spells_names name names hplain)

/-! ## Links

A link is the front of an object, up to the place where its cause may stand; with the cause, or the
marker, or nothing there, it is one.
-/

/-- The fields of a location may follow a member, with what follows them. -/
theorem more_location (l : Location) {rest : String} {ms : List (String × Json)}
    (hrest : More rest ms) : More (locationFields l ++ rest) (locationMembers l ++ ms) := by
  obtain ⟨file, line, func⟩ := l
  have hfront : ∀ {rest ms}, More rest ms →
      More (",\"file\":" ++ Document.string file ++ (",\"line\":" ++ toString line.toNat ++ rest))
        (("file", .string file) :: ("line", .number (toString line.toNat)) :: ms) := by
    intro rest ms hrest
    have hline := hrest.cons ",\"line\":" "line" rfl (by decide) (spells_number line.toNat)
    exact hline.cons ",\"file\":" "file" rfl (by decide) (spells_string file)
  cases func with
  | none =>
      have hmore := hfront hrest
      simp only [locationFields, locationMembers, String.append_assoc, List.append_nil] at hmore ⊢
      exact hmore
  | some func =>
      have hfunc := hrest.cons ",\"func\":" "func" rfl (by decide) (spells_string func)
      have hmore := hfront hfunc
      simp only [locationFields, locationMembers, String.append_assoc] at hmore ⊢
      exact hmore

/-- The fields of a link are the first members of an object. -/
theorem spells_fields (l : Link) {rest : String} {ms : List (String × Json)}
    (hrest : More rest ms) :
    Spells (fields l ++ rest).toList (.members (linkMembers l ++ ms)) := by
  obtain ⟨domain, code, flags, message, location⟩ := l
  have hfront : ∀ {rest ms}, More rest ms →
      Spells ("\"domain\":" ++ Document.string domain.name ++ (",\"code\":" ++
        Document.string code.name ++ (",\"flags\":" ++ flagsArray flags ++
          (",\"message\":" ++ Document.string message ++ rest)))).toList
        (.members (("domain", .string domain.name) :: ("code", .string code.name) ::
          ("flags", ofFlags flags) :: ("message", .string message) :: ms)) := by
    intro rest ms hrest
    have hmessage := hrest.cons ",\"message\":" "message" rfl (by decide) (spells_string message)
    have hflags := hmessage.cons ",\"flags\":" "flags" rfl (by decide) (spells_flags flags)
    have hcode := hflags.cons ",\"code\":" "code" rfl (by decide) (spells_string code.name)
    exact hcode.member "\"domain\":" "domain" rfl (by decide) (spells_string domain.name)
  cases location with
  | none =>
      have hspells := hfront hrest
      unfold fields
      simp only [linkMembers, String.append_assoc, List.append_nil] at hspells ⊢
      exact hspells
  | some location =>
      have hspells := hfront (more_location location hrest)
      unfold fields
      simp only [linkMembers, String.append_assoc] at hspells ⊢
      exact hspells

/-- Braces around members make an object.  Both braces are one character each, and the grammar has
them in the same places. -/
theorem spells_braces {start rest : String} {ms : List (String × Json)}
    (h : Spells (start ++ rest).toList (.members ms)) :
    Spells ("\x7b" ++ start ++ rest ++ "\x7d").toList (.value (.object ms)) := by
  rw [@String.append_assoc "\x7b", String.toList_append, String.toList_append]
  exact Spells.object h

/-- The marker is an object with one member. -/
theorem spells_marker : Spells marker.toList (.value truncated) :=
  spells_braces (more_nil.member "\"truncated\":" "truncated" rfl (by decide) .isTrue)

/-- **The nested document** spells the nested objects. -/
theorem spells_nested (budget : Nat) (top : Link) (causes : List Link) :
    Spells (nested budget top causes).toList (.value (ofLinks budget top causes)) := by
  have hcause : ∀ {text v}, Spells text.toList (.value v) →
      More (causeKey ++ text) [("cause", v)] := by
    intro text v hvalue
    have hmore := more_nil.cons causeKey "cause" rfl (by decide) hvalue
    rwa [String.append_empty] at hmore
  induction causes generalizing budget top with
  | nil =>
      rw [nested, ofLinks]
      exact spells_braces (spells_fields top more_nil)
  | cons cause rest ih =>
      cases budget with
      | zero =>
          rw [nested, ofLinks]
          exact spells_braces (spells_fields top (hcause spells_marker))
      | succ more =>
          rw [nested, ofLinks]
          exact spells_braces (spells_fields top (hcause (ih more cause)))

/-- **The document of a chain** is one of the chain as a value, and of no other value. -/
theorem isDocument_ofChain_iff {limit : Nat} {chain : Chain} {v : Json} :
    IsDocument (Document.ofChain limit chain) v ↔ v = ofChain limit chain := by
  have hdocument : IsDocument (Document.ofChain limit chain) (ofChain limit chain) :=
    ⟨[], _, [], blank_nil, spells_nested _ _ _, blank_nil, by
      rw [List.nil_append, List.append_nil, Document.ofChain]⟩
  constructor
  · exact fun hv => hv.unique hdocument
  · rintro rfl
    exact hdocument

/-! ## Nothing is lost

A document is written for people to read, and it was not planned as a code.  That two chains with
one document are the same chain is a fact about each field in turn: names of domains, codes and
flags are told apart, digits and strings are read as what they were.
-/

/-- Flags are told by their names. -/
theorem ofFlags_injective {f g : Flags} (h : ofFlags f = ofFlags g) : f = g := by
  have hnames : f.names = g.names := by
    rw [ofFlags_eq, ofFlags_eq, array.injEq] at h
    exact (List.map_inj_right fun _ _ => string.inj).1 h
  obtain ⟨_ | _, _ | _, _ | _⟩ := f <;> obtain ⟨_ | _, _ | _, _ | _⟩ := g <;>
    first | rfl | exact absurd hnames (by decide)

/-- So are domains. -/
theorem domain_of_name {d d' : Domain} (h : d.name = d'.name) : d = d' := by
  cases d <;> cases d' <;> first | rfl | exact absurd h (by decide)

/-- So are codes. -/
theorem code_of_name {c c' : Code} (h : c.name = c'.name) : c = c' := by
  cases c <;> cases c' <;> first | rfl | exact absurd h (by decide)

/-- A number is told by its digits. -/
theorem toString_injective {m n : Nat} (h : toString m = toString n) : m = n := by
  rw [Nat.toString_eq_ofList_toDigits, Nat.toString_eq_ofList_toDigits] at h
  have hdigits := String.ofList_injective h
  rw [← @Nat.ofDigitChars_ten_toDigits m, hdigits, Nat.ofDigitChars_ten_toDigits]

/-- Whether members are what follows the fields of a link: a cause, if anything. -/
def Trails (ms : List (String × Json)) : Prop :=
  ∀ m ∈ ms.head?, m.1 = "cause"

section Trails

variable {ms ms' : List (String × Json)}

/-- Where a link may end, no key of its own begins. -/
theorem Trails.ne_cons (h : Trails ms) {key : String} (hkey : key ≠ "cause") (v : Json)
    (rest : List (String × Json)) : ms ≠ (key, v) :: rest := by
  rintro rfl
  exact hkey (h _ rfl)

/-- Where a location ends, and what it is, can be told from the members. -/
theorem locationMembers_append_inj (hms : Trails ms) (hms' : Trails ms') {l l' : Location}
    (h : locationMembers l ++ ms = locationMembers l' ++ ms') : l = l' ∧ ms = ms' := by
  obtain ⟨file, line, func⟩ := l
  obtain ⟨file', line', func'⟩ := l'
  simp only [locationMembers, List.cons_append, List.nil_append, List.cons.injEq, Prod.mk.injEq,
    true_and, string.injEq, number.injEq] at h
  obtain ⟨rfl, hline, hrest⟩ := h
  obtain rfl := UInt32.toNat_inj.1 (toString_injective hline)
  cases func with
  | none =>
      cases func' with
      | none => exact ⟨rfl, hrest⟩
      | some func' => exact absurd hrest (hms.ne_cons (by decide) _ _)
  | some func =>
      cases func' with
      | none => exact absurd hrest.symm (hms'.ne_cons (by decide) _ _)
      | some func' =>
          simp only [List.cons_append, List.nil_append, List.cons.injEq, Prod.mk.injEq, true_and,
            string.injEq] at hrest
          exact ⟨by rw [hrest.1], hrest.2⟩

/-- Where a link ends, and what it is, can be told from the members. -/
theorem linkMembers_append_inj (hms : Trails ms) (hms' : Trails ms') {l l' : Link}
    (h : linkMembers l ++ ms = linkMembers l' ++ ms') : l = l' ∧ ms = ms' := by
  obtain ⟨domain, code, flags, message, location⟩ := l
  obtain ⟨domain', code', flags', message', location'⟩ := l'
  simp only [linkMembers, List.cons_append, List.nil_append, List.cons.injEq, Prod.mk.injEq,
    true_and, string.injEq] at h
  obtain ⟨hdomain, hcode, hflags, rfl, hrest⟩ := h
  obtain rfl := domain_of_name hdomain
  obtain rfl := code_of_name hcode
  obtain rfl := ofFlags_injective hflags
  cases location with
  | none =>
      cases location' with
      | none => exact ⟨rfl, hrest⟩
      | some location' => exact absurd hrest (hms.ne_cons (by decide) _ _)
  | some location =>
      cases location' with
      | none => exact absurd hrest.symm (hms'.ne_cons (by decide) _ _)
      | some location' =>
          obtain ⟨rfl, htail⟩ := locationMembers_append_inj hms hms' hrest
          exact ⟨rfl, htail⟩

end Trails

/-- **Nothing is lost** of a chain that is there in full. -/
theorem ofLinks_injective {budget budget' : Nat} {top top' : Link} {causes causes' : List Link}
    (hfull : causes.length ≤ budget) (hfull' : causes'.length ≤ budget')
    (h : ofLinks budget top causes = ofLinks budget' top' causes') :
    top = top' ∧ causes = causes' := by
  have hnone : Trails [] := fun m hmem => by cases hmem
  have hcause : ∀ v, Trails [("cause", v)] := by
    intro v m hmem
    rw [← Option.some.inj hmem]
  induction causes generalizing budget budget' top top' causes' with
  | nil =>
      cases causes' with
      | nil =>
          rw [ofLinks, ofLinks, object.injEq] at h
          exact ⟨(linkMembers_append_inj hnone hnone h).1, rfl⟩
      | cons cause' rest' =>
          obtain ⟨more', rfl⟩ : ∃ n, budget' = n + 1 := ⟨budget' - 1, by simp at hfull'; omega⟩
          rw [ofLinks, ofLinks, object.injEq] at h
          cases (linkMembers_append_inj hnone (hcause _) h).2
  | cons cause rest ih =>
      obtain ⟨more, rfl⟩ : ∃ n, budget = n + 1 := ⟨budget - 1, by simp at hfull; omega⟩
      cases causes' with
      | nil =>
          rw [ofLinks, ofLinks, object.injEq] at h
          cases (linkMembers_append_inj (hcause _) hnone h).2
      | cons cause' rest' =>
          obtain ⟨more', rfl⟩ : ∃ n, budget' = n + 1 := ⟨budget' - 1, by simp at hfull'; omega⟩
          rw [ofLinks, ofLinks, object.injEq] at h
          obtain ⟨rfl, htails⟩ := linkMembers_append_inj (hcause _) (hcause _) h
          have hcauses := (Prod.mk.inj (List.cons.inj htails).1).2
          obtain ⟨rfl, rfl⟩ :=
            ih (Nat.le_of_succ_le_succ hfull) (Nat.le_of_succ_le_succ hfull') hcauses
          exact ⟨rfl, rfl⟩

/-- **Two chains with the same document** are the same chain, if both are written in full. -/
theorem ofChain_injective {limit : Nat} {chain chain' : Chain} (hfull : chain.length ≤ limit)
    (hfull' : chain'.length ≤ limit)
    (h : Document.ofChain limit chain = Document.ofChain limit chain') : chain = chain' := by
  have hdocument := isDocument_ofChain_iff.2 (Eq.refl (ofChain limit chain))
  rw [h, isDocument_ofChain_iff] at hdocument
  obtain ⟨htop, hcauses⟩ := ofLinks_injective (Nat.le_sub_of_add_le hfull)
    (Nat.le_sub_of_add_le hfull') hdocument
  cases chain
  cases chain'
  rw [Chain.mk.injEq]
  exact ⟨htop, hcauses⟩

/-! ## What is rendered

The bytes in a window with room for them are those of the document, which has been read already.
-/

/-- A window with room for the whole document of a chain holds it after rendering. -/
theorem extract_render {chain : Chain} {bytes : ByteArray}
    (hroom : (Document.ofChain depthLimit chain).utf8ByteSize < bytes.size) :
    (render .granted (some chain) bytes).2.extract 0
        (Document.ofChain depthLimit chain).utf8ByteSize =
      (Document.ofChain depthLimit chain).toUTF8 := by
  have hdocument : document .granted (some chain) = Document.ofChain depthLimit chain := by
    rw [document, writeLimit, if_pos (.inr rfl)]
  rw [render_eq, hdocument]
  exact extract_remains hroom

/-- **A document is decoded to what it was rendered from.**  For every chain whose frames can be
reserved:

* a window with room for it holds the document;
* the document is a JSON document of one value, which is the chain with its links, the causes that
  are left out being marked after the last link that is there;
* the reader returns that value;
* if the chain is written in full, no other chain that is has the same document. -/
theorem decode_render (chain : Chain) :
    let text := Document.ofChain depthLimit chain
    (∀ bytes : ByteArray, text.utf8ByteSize < bytes.size →
      (render .granted (some chain) bytes).2.extract 0 text.utf8ByteSize = text.toUTF8) ∧
    (∀ v, IsDocument text v ↔ v = ofChain depthLimit chain) ∧
    read? text = some (ofChain depthLimit chain) ∧
    ∀ other : Chain, chain.length ≤ depthLimit → other.length ≤ depthLimit →
      Document.ofChain depthLimit other = text → other = chain := by
  intro text
  refine ⟨fun bytes hroom => extract_render hroom, fun v => isDocument_ofChain_iff,
    (isDocument_ofChain_iff.2 rfl).reads, ?_⟩
  intro other hfull hfull' hsame
  exact ofChain_injective hfull' hfull hsame

end Json

end FaultChain

/-!
# The grammar of JSON

The grammar of RFC 8259, with what its texts stand for.  `Json.Spells` says of a run of characters
which value it spells; the runs between the brackets of an array or an object are forms of their
own, so that one relation covers all of the grammar.

A number stands for its own spelling, and the members of an object are a list, in order.  Half of a
surrogate pair stands for no character, so no string is spelled with one alone.

### Why a relation

A grammar says what is allowed, not how it is read, so it is stated as a relation between characters
and values, with one rule for each production.  Nothing about it is fitted to what the library
writes: it has blanks, exponents and surrogate pairs, none of which a document of the library
contains.  That documents are JSON is then a statement about a standard, and not about a reader that
was written along with them.  The reader that is used to show that a text spells one value only is a
function of its own (`FaultChain.Proofs.Reader`).
-/

namespace FaultChain

/-- A JSON value.  Numbers are kept in their spelling, as the grammar does not say which of them are
equal, and members are kept in their order, with names that may repeat. -/
inductive Json
  | null
  | bool (b : Bool)
  /-- A number, by its spelling. -/
  | number (literal : String)
  | string (text : String)
  | array (items : List Json)
  | object (members : List (String × Json))

namespace Json

/-- What a run of characters may spell. -/
inductive Form
  | value (v : Json)
  /-- The items of an array, of which there are some. -/
  | items (vs : List Json)
  /-- The members of an object, of which there are some. -/
  | members (ms : List (String × Json))

/-- The characters that may stand around brackets, colons and commas. -/
def isBlank (c : Char) : Bool :=
  c = ' ' || c = '\t' || c = '\n' || c = '\r'

/-- `ws` -/
def Blank (cs : List Char) : Prop :=
  ∀ c ∈ cs, isBlank c = true

/-! ## Strings

Between its quotes a string is a list of letters, each of which spells one character.  An escape by
number has four digits and no more, so a character beyond the first plane takes two of them.
-/

/-- The value of a hexadecimal digit. -/
def hexValue? (c : Char) : Option Nat :=
  if '0' ≤ c ∧ c ≤ '9' then some (c.toNat - '0'.toNat)
  else if 'a' ≤ c ∧ c ≤ 'f' then some (c.toNat - 'a'.toNat + 10)
  else if 'A' ≤ c ∧ c ≤ 'F' then some (c.toNat - 'A'.toNat + 10)
  else none

/-- `4HEXDIG` -/
def unit? : List Char → Option Nat
  | [a, b, c, d] => do
    return (((← hexValue? a) * 16 + (← hexValue? b)) * 16 + (← hexValue? c)) * 16 + (← hexValue? d)
  | _ => none

/-- What a backslash and one character stand for. -/
def shortEscape? : Char → Option Char
  | '"' => some '"'
  | '\\' => some '\\'
  | '/' => some '/'
  | 'b' => some '\x08'
  | 'f' => some '\x0c'
  | 'n' => some '\n'
  | 'r' => some '\r'
  | 't' => some '\t'
  | _ => none

/-- Whether a number is the first half of a surrogate pair. -/
def IsHigh (n : Nat) : Prop :=
  0xD800 ≤ n ∧ n ≤ 0xDBFF

/-- Whether a number is the second half of a surrogate pair. -/
def IsLow (n : Nat) : Prop :=
  0xDC00 ≤ n ∧ n ≤ 0xDFFF

instance (n : Nat) : Decidable (IsHigh n) :=
  inferInstanceAs (Decidable (_ ∧ _))

instance (n : Nat) : Decidable (IsLow n) :=
  inferInstanceAs (Decidable (_ ∧ _))

/-- The character that a surrogate pair stands for. -/
def ofPair (high low : Nat) : Char :=
  .ofNat (0x10000 + (high - 0xD800) * 0x400 + (low - 0xDC00))

/-- `char`: one character of a string, as itself or as an escape.  A pair of escapes by number may
stand for one character beyond the first plane; half of a pair stands for none. -/
inductive Letter : List Char → Char → Prop
  | plain {c : Char} (hcontrol : 0x20 ≤ c.toNat) (hquote : c ≠ '"') (hescape : c ≠ '\\') :
    Letter [c] c
  | short {e c : Char} (hshort : shortEscape? e = some c) : Letter ['\\', e] c
  | unit {digits : List Char} {n : Nat} (hunit : unit? digits = some n) (hvalid : n.isValidChar) :
    Letter ('\\' :: 'u' :: digits) (.ofNat n)
  | pair {high low : List Char} {m n : Nat} (hhigh : unit? high = some m) (hm : IsHigh m)
    (hlow : unit? low = some n) (hn : IsLow n) :
    Letter ('\\' :: 'u' :: (high ++ '\\' :: 'u' :: low)) (ofPair m n)

/-- `*char` -/
inductive Letters : List Char → List Char → Prop
  | nil : Letters [] []
  | cons {cs ds text : List Char} {c : Char} (hletter : Letter cs c) (hrest : Letters ds text) :
    Letters (cs ++ ds) (c :: text)

/-! ## Numbers

A number is kept as it is written, since what it is worth is up to whoever reads it.
-/

/-- `1*DIGIT` -/
def Digits (cs : List Char) : Prop :=
  cs ≠ [] ∧ ∀ c ∈ cs, c.isDigit = true

/-- `int` -/
def Whole (cs : List Char) : Prop :=
  Digits cs ∧ (cs.head? = some '0' → cs = ['0'])

/-- `[ frac ]` -/
def Fraction (cs : List Char) : Prop :=
  cs = [] ∨ ∃ ds, Digits ds ∧ cs = '.' :: ds

/-- `[ exp ]` -/
def Exponent (cs : List Char) : Prop :=
  cs = [] ∨ ∃ e sign ds, (e = 'e' ∨ e = 'E') ∧ (sign = [] ∨ sign = ['-'] ∨ sign = ['+']) ∧
    Digits ds ∧ cs = e :: (sign ++ ds)

/-- `number`: a sign, digits, and then a fraction and an exponent, if there are any. -/
inductive Number : List Char → Prop
  | intro {sign whole fraction exponent : List Char} (hsign : sign = [] ∨ sign = ['-'])
    (hwhole : Whole whole) (hfraction : Fraction fraction) (hexponent : Exponent exponent) :
    Number (sign ++ (whole ++ (fraction ++ exponent)))

/-! ## Values

Values, items and members are one relation, as each is made of the others; what is spelled says
which of the three it is.
-/

/-- **The grammar**: which values, items and members a run of characters spells. -/
inductive Spells : List Char → Form → Prop
  | null : Spells "null".toList (.value .null)
  | isTrue : Spells "true".toList (.value (.bool true))
  | isFalse : Spells "false".toList (.value (.bool false))
  | number {cs : List Char} (hnumber : Number cs) : Spells cs (.value (.number (.ofList cs)))
  | string {cs text : List Char} (htext : Letters cs text) :
    Spells ('"' :: (cs ++ ['"'])) (.value (.string (.ofList text)))
  | emptyArray {blank : List Char} (hblank : Blank blank) :
    Spells ('[' :: (blank ++ [']'])) (.value (.array []))
  | array {cs : List Char} {vs : List Json} (hitems : Spells cs (.items vs)) :
    Spells ('[' :: (cs ++ [']'])) (.value (.array vs))
  | emptyObject {blank : List Char} (hblank : Blank blank) :
    Spells ('\x7b' :: (blank ++ ['\x7d'])) (.value (.object []))
  | object {cs : List Char} {ms : List (String × Json)} (hmembers : Spells cs (.members ms)) :
    Spells ('\x7b' :: (cs ++ ['\x7d'])) (.value (.object ms))
  | item {before cs after : List Char} {v : Json} (hbefore : Blank before)
    (hvalue : Spells cs (.value v)) (hafter : Blank after) :
    Spells (before ++ (cs ++ after)) (.items [v])
  | items {before cs after rest : List Char} {v : Json} {vs : List Json} (hbefore : Blank before)
    (hvalue : Spells cs (.value v)) (hafter : Blank after) (hrest : Spells rest (.items vs)) :
    Spells (before ++ (cs ++ (after ++ ',' :: rest))) (.items (v :: vs))
  | member {before name after before' cs after' text : List Char} {v : Json}
    (hbefore : Blank before) (hname : Letters name text) (hafter : Blank after)
    (hbefore' : Blank before') (hvalue : Spells cs (.value v)) (hafter' : Blank after') :
    Spells (before ++ ('"' :: (name ++ ('"' :: (after ++ (':' :: (before' ++ (cs ++ after'))))))))
      (.members [(.ofList text, v)])
  | members {before name after before' cs after' text rest : List Char} {v : Json}
    {ms : List (String × Json)} (hbefore : Blank before) (hname : Letters name text)
    (hafter : Blank after) (hbefore' : Blank before') (hvalue : Spells cs (.value v))
    (hafter' : Blank after') (hrest : Spells rest (.members ms)) :
    Spells (before ++ ('"' :: (name ++ ('"' :: (after ++ (':' ::
      (before' ++ (cs ++ (after' ++ ',' :: rest)))))))))
      (.members ((.ofList text, v) :: ms))

/-- `JSON-text`: a text is a document of a value, with blanks around it. -/
def IsDocument (text : String) (v : Json) : Prop :=
  ∃ before cs after, Blank before ∧ Spells cs (.value v) ∧ Blank after ∧
    text.toList = before ++ (cs ++ after)

end Json

end FaultChain

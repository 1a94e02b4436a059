/-!
# Decimal integers of a bounded width

The grammar of an integer setting: an optional `+`, or a `-` where the type is signed, then one or
more ASCII digits, and the value has to fit the type.  Nothing else is accepted, not even a lone
sign; leading zeros are.
-/

namespace FaultChain.Text

/-- A fixed-width integer type, by its width in bits and whether it has negative values. -/
structure IntegerType where
  bits : Nat
  signed : Bool
  deriving DecidableEq, Repr

namespace IntegerType

/-- The least value of the type. -/
def least (t : IntegerType) : Int :=
  if t.signed then -(1 <<< (t.bits - 1) : Nat) else 0

/-- The greatest value of the type. -/
def greatest (t : IntegerType) : Int :=
  if t.signed then (1 <<< (t.bits - 1) : Nat) - 1 else (1 <<< t.bits : Nat) - 1

/-- Whether a value fits the type. -/
def holds (t : IntegerType) (n : Int) : Bool :=
  decide (t.least ≤ n) && decide (n ≤ t.greatest)

end IntegerType

/-- The value of an ASCII digit. -/
def digit? (c : Char) : Option Nat :=
  if '0' ≤ c ∧ c ≤ '9' then some (c.toNat - '0'.toNat) else none

/-- The value of a run of digits that follows a prefix of value `acc`. -/
def digitsFrom? (acc : Nat) : List Char → Option Nat
  | [] => some acc
  | c :: cs => (digit? c).bind fun d => digitsFrom? (10 * acc + d) cs

/-- The value of one or more digits. -/
def natural? : List Char → Option Nat
  | [] => none
  | cs => digitsFrom? 0 cs

/-- The value of an optionally signed run of digits, before its range is looked at. -/
def signed? (t : IntegerType) : List Char → Option Int
  | '+' :: ds => (natural? ds).map Int.ofNat
  | '-' :: ds => if t.signed then (natural? ds).map fun n => -(n : Int) else none
  | ds => (natural? ds).map Int.ofNat

/-- The integer of type `t` that a text denotes. -/
def integer? (t : IntegerType) (s : String) : Option Int :=
  (signed? t s.toList).filter t.holds

/-- Whatever is read fits the type it was read at. -/
theorem holds_of_integer? {t : IntegerType} {s : String} {n : Int} (h : integer? t s = some n) :
    t.holds n = true := by
  simp only [integer?, Option.filter_eq_some_iff] at h
  exact h.2

end FaultChain.Text

/-!
# Arenas

An arena keeps objects under keys.  A key is the number of objects that were put into the arena
before, so it is never given out twice: looking up the key of an object that was taken out finds
nothing, whatever was put in later.

An arena is a list of slots with one slot for each object that was ever put in, empty where it was
taken out.  So keys are in the order of age, and an arena knows how many it has given out.  The
lemmas below say of each change what is found under every key afterwards; nothing else about slots
is used.
-/

namespace FaultChain

/-- Objects under keys that are never reused. -/
structure Arena (α : Type) where
  slots : Array (Option α) := #[]
  deriving DecidableEq, Repr

namespace Arena

variable {α : Type}

instance : Inhabited (Arena α) := ⟨{}⟩

/-- The key that the next object gets, which is the number of slots. -/
def next (a : Arena α) : Nat :=
  a.slots.size

/-- The object under a key. -/
def get? (a : Arena α) (key : Nat) : Option α :=
  (a.slots[key]?).join

/-- Puts in an object under a fresh key. -/
def insert (a : Arena α) (object : α) : Arena α where
  slots := a.slots.push (some object)

/-- Changes the object under a key, if there is one. -/
def modify (a : Arena α) (key : Nat) (f : α → α) : Arena α where
  slots := a.slots.modify key (Option.map f)

/-- Takes out the object under a key. -/
def erase (a : Arena α) (key : Nat) : Arena α where
  slots := a.slots.modify key fun _ => none

/-- The objects with their keys, in the order of the keys. -/
def toList (a : Arena α) : List (Nat × α) :=
  a.slots.toList.zipIdx.filterMap fun (slot, key) => slot.map (key, ·)

/-- A new object is found under its key. -/
@[simp]
theorem get?_insert (a : Arena α) (object : α) (key : Nat) :
    (a.insert object).get? key = if key = a.next then some object else a.get? key := by
  simp only [get?, insert, next, Array.getElem?_push]
  by_cases h : key = a.slots.size <;> simp [h]

/-- A change is found under the key of the object that changed. -/
@[simp]
theorem get?_modify (a : Arena α) (key : Nat) (f : α → α) (other : Nat) :
    (a.modify key f).get? other = if key = other then (a.get? other).map f else a.get? other := by
  simp only [get?, modify, Array.getElem?_modify]
  split
  · rcases a.slots[other]? with _ | _ | _ <;> rfl
  · rfl

/-- An object that was taken out is not found. -/
@[simp]
theorem get?_erase (a : Arena α) (key other : Nat) :
    (a.erase key).get? other = if key = other then none else a.get? other := by
  simp only [get?, erase, Array.getElem?_modify]
  split
  · rcases a.slots[other]? with _ | _ <;> rfl
  · rfl

/-- Nor is anything in an arena that is new. -/
@[simp]
theorem get?_empty (key : Nat) : ({} : Arena α).get? key = none := by
  simp [get?]

/-- Nothing is found under a key that was not given out yet, so a fresh key is really fresh. -/
theorem get?_eq_none_of_next_le {a : Arena α} {key : Nat} (h : a.next ≤ key) :
    a.get? key = none := by
  simp [get?, Array.getElem?_eq_none h]

/-- What is found was put in before. -/
theorem lt_next_of_get? {a : Arena α} {key : Nat} {object : α} (h : a.get? key = some object) :
    key < a.next := by
  rcases Nat.lt_or_ge key a.next with hlt | hge
  · exact hlt
  · simp [get?_eq_none_of_next_le hge] at h

/-- One key is given out. -/
@[simp]
theorem next_insert (a : Arena α) (object : α) : (a.insert object).next = a.next + 1 := by
  simp [next, insert]

/-- A change gives out none. -/
@[simp]
theorem next_modify (a : Arena α) (key : Nat) (f : α → α) : (a.modify key f).next = a.next := by
  simp [next, modify]

/-- And takes none back. -/
@[simp]
theorem next_erase (a : Arena α) (key : Nat) : (a.erase key).next = a.next := by
  simp [next, erase]

/-- The list is what is found under the keys. -/
theorem mem_toList_iff {a : Arena α} {key : Nat} {object : α} :
    (key, object) ∈ a.toList ↔ a.get? key = some object := by
  simp only [toList, List.mem_filterMap, Prod.exists, Option.map_eq_some_iff, Prod.mk.injEq,
    List.mk_mem_zipIdx_iff_getElem?, Array.getElem?_toList, get?, Option.join_eq_some_iff]
  constructor
  · rintro ⟨slot, key', hslot, object', rfl, rfl, rfl⟩
    exact hslot
  · exact fun h => ⟨some object, key, h, object, rfl, rfl, rfl⟩

end Arena

end FaultChain

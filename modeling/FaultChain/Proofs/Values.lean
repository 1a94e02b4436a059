import FaultChain.Arena
import Mathlib.Data.Multiset.Bind

/-!
# What an arena holds

`Arena.values` forgets the keys of an arena and keeps what lies under them, as a multiset.  Every
count of references and of blocks is a sum over such a multiset, so what matters is how it changes:

* an inserted object is added (`values_insert`);
* the object under a key splits off as one member (`values_eq_cons_erase`), and changing it changes
  that member alone (`values_modify`).

A key under which there is nothing leaves the arena as it is, whatever is done to it.

### Why a multiset

A number of references is counted over everything that may hold one: the handles, the errors that
have it as their cause, the registries.  The order in which they came does not matter, and a list of
them would have to be split at a place that is different every time.  In a multiset the object under
a key stands in front wherever it was put, and a sum over the others is named once.
-/

namespace FaultChain

namespace Arena

variable {α : Type}

/-- The objects of an arena, in no order.  Two equal objects under different keys count twice, which
is what a count of references needs. -/
def values (a : Arena α) : Multiset α :=
  (a.toList.map Prod.snd : List α)

/-- The objects are what the slots hold, left to right. -/
private theorem map_snd_filterMap_zipIdx (slots : List (Option α)) (n : Nat) :
    ((slots.zipIdx n).filterMap fun (slot, key) => slot.map (key, ·)).map Prod.snd =
      slots.filterMap id := by
  induction slots generalizing n with
  | nil => rfl
  | cons slot rest ih =>
      rw [List.zipIdx_cons, List.filterMap_cons, List.filterMap_cons]
      cases slot with
      | none => exact ih (n + 1)
      | some x => exact congrArg (x :: ·) (ih (n + 1))

/-- The objects are what stands in the slots. -/
theorem values_eq_coe (a : Arena α) : a.values = (a.slots.toList.filterMap id : List α) := by
  rw [values, toList, map_snd_filterMap_zipIdx]

/-- An inserted object is added: it gets a new slot, at the end. -/
@[simp]
theorem values_insert (a : Arena α) (object : α) :
    (a.insert object).values = object ::ₘ a.values := by
  rw [values_eq_coe, values_eq_coe, insert, Array.toList_push, List.filterMap_append,
    Multiset.cons_coe, Multiset.coe_eq_coe]
  exact List.perm_append_singleton object _

/-- An object is in an arena if it is under some key. -/
theorem mem_values_iff {a : Arena α} {object : α} :
    object ∈ a.values ↔ ∃ key, a.get? key = some object := by
  simp only [values, Multiset.mem_coe, List.mem_map, Prod.exists, exists_eq_right, mem_toList_iff]

/-- What is under a key is one of the objects. -/
theorem mem_values {a : Arena α} {key : Nat} {object : α} (h : a.get? key = some object) :
    object ∈ a.values :=
  mem_values_iff.2 ⟨key, h⟩

/-- Where a key is taken, the slots before it, its object, and the slots after it. -/
private theorem slots_eq_of_get? {a : Arena α} {key : Nat} {object : α}
    (h : a.get? key = some object) :
    ∃ before after, a.slots.toList = before ++ some object :: after ∧ before.length = key := by
  rw [get?, Option.join_eq_some_iff, ← Array.getElem?_toList] at h
  obtain ⟨hlt, hget⟩ := List.getElem?_eq_some_iff.1 h
  refine ⟨a.slots.toList.take key, a.slots.toList.drop (key + 1), ?_, ?_⟩
  · rw [← hget, List.cons_getElem_drop_succ, List.take_append_drop]
  · exact List.length_take_of_le (Nat.le_of_lt hlt)

/-- Changing a slot by `g` changes what its object contributes, and nothing else. -/
private theorem filterMap_modify_append (before after : List (Option α)) (slot : Option α)
    (g : Option α → Option α) :
    (((before ++ slot :: after).modify before.length g).filterMap id : Multiset α) =
      ((g slot).toList : Multiset α) + ((before ++ after).filterMap id : List α) := by
  rw [List.modify_eq_take_drop, List.take_left, List.drop_left, List.modifyHead_cons,
    List.filterMap_append, List.filterMap_append, List.filterMap_cons, Multiset.coe_add,
    Multiset.coe_eq_coe]
  cases g slot with
  | none => exact .refl _
  | some x => exact List.perm_middle

/-- The object under a key splits off from the others, which stay the same whatever is done under
that key. -/
theorem values_eq_cons_erase {a : Arena α} {key : Nat} {object : α}
    (h : a.get? key = some object) : a.values = object ::ₘ (a.erase key).values := by
  obtain ⟨before, after, hslots, rfl⟩ := slots_eq_of_get? h
  have hself := filterMap_modify_append before after (some object) id
  have hgone := filterMap_modify_append before after (some object) fun _ => none
  rw [List.modify_id] at hself
  rw [values_eq_coe, values_eq_coe, erase, Array.toList_modify, hslots, hself, hgone]
  rfl

/-- Changing the object under a key changes that member alone. -/
theorem values_modify {a : Arena α} {key : Nat} {object : α} (h : a.get? key = some object)
    (f : α → α) : (a.modify key f).values = f object ::ₘ (a.erase key).values := by
  obtain ⟨before, after, hslots, rfl⟩ := slots_eq_of_get? h
  rw [values_eq_coe, values_eq_coe, modify, erase, Array.toList_modify, Array.toList_modify, hslots,
    filterMap_modify_append, filterMap_modify_append]
  rfl

/-- No key is listed twice. -/
theorem nodup_keys (a : Arena α) : (a.toList.map Prod.fst).Nodup := by
  have hsublist : ∀ slots : List (Option α × Nat),
      ((slots.filterMap fun (slot, key) => slot.map (key, ·)).map Prod.fst).Sublist
        (slots.map Prod.snd) := by
    intro slots
    induction slots with
    | nil => exact List.nil_sublist _
    | cons entry rest ih =>
        obtain ⟨_ | object, key⟩ := entry
        · exact ih.cons key
        · exact ih.cons_cons key
  refine List.Nodup.sublist (hsublist _) ?_
  rw [List.zipIdx_map_snd]
  exact List.nodup_range'

/-- The objects of a kind are as many as the keys under which they are.  The keys are what a
registry lists, and the objects are what a count of references is taken over. -/
theorem countP_values (a : Arena α) (p : α → Prop) [DecidablePred p] :
    a.values.countP p = ((a.toList.filter fun entry => p entry.2).map Prod.fst).length := by
  rw [values, Multiset.coe_countP, List.countP_map, List.countP_eq_length_filter, List.length_map]
  rfl

/-- Two changes under one key are one. -/
theorem modify_modify (a : Arena α) (key : Nat) (f g : α → α) :
    (a.modify key f).modify key g = a.modify key (g ∘ f) := by
  rw [modify, modify, modify, mk.injEq]
  apply Array.ext_getElem?
  intro i
  rw [Array.getElem?_modify, Array.getElem?_modify, Array.getElem?_modify]
  split
  · rw [Option.map_map, Option.map_comp_map]
  · rfl

/-- Changes that agree on the object under a key are the same. -/
theorem modify_congr {a : Arena α} {key : Nat} {f g : α → α}
    (h : ∀ object, a.get? key = some object → f object = g object) :
    a.modify key f = a.modify key g := by
  have hslot : ∀ slot, a.slots[key]? = some slot → slot.map f = slot.map g := by
    rintro (_ | object) hslot
    · rfl
    · rw [Option.map_some, Option.map_some, h object (by rw [get?, hslot]; rfl)]
  rw [modify, modify, mk.injEq]
  apply Array.ext_getElem?
  intro i
  rw [Array.getElem?_modify, Array.getElem?_modify]
  split
  · next hi =>
      subst hi
      cases hget : a.slots[key]? with
      | none => rfl
      | some slot => rw [Option.map_some, Option.map_some, hslot slot hget]
  · rfl

/-- A change that leaves the object under a key as it is changes nothing. -/
theorem modify_eq_self {a : Arena α} {key : Nat} {f : α → α}
    (h : ∀ object, a.get? key = some object → f object = object) : a.modify key f = a := by
  have hid : a.modify key id = a := by
    rw [modify, mk.injEq]
    apply Array.ext_getElem?
    intro i
    rw [Array.getElem?_modify, Option.map_id_fun]
    split
    · exact Option.map_id_apply
    · rfl
  rw [modify_congr (g := id) h, hid]

/-- Nothing changes under a key that holds nothing. -/
theorem modify_of_get?_eq_none {a : Arena α} {key : Nat} (h : a.get? key = none) (f : α → α) :
    a.modify key f = a := by
  apply modify_eq_self
  intro object hget
  cases h.symm.trans hget

end Arena

end FaultChain

import EtherCat.Foundation.Exec
import Mathlib.Data.Fintype.Card

/-!
# The slot allocator

`IndexSet` stores at most `N` items.  A handle is the index of an item's slot.  The free slots
are chained: `freeIndex` names the first one and every free slot holds the index of the next.
-/

namespace EtherCat

open Rust

/-- One slot: free, with the index of the next free slot, or occupied. -/
inductive IndexOption (T : Type)
  | nextFreeIndex (next : ℕ)
  | exist (item : T)
  deriving DecidableEq, Repr

namespace IndexOption

variable {T : Type}

/-- The item of an occupied slot. -/
def item? : IndexOption T → Option T
  | nextFreeIndex _ => none
  | exist t => some t

@[simp] lemma item?_exist (t : T) : (exist t).item? = some t := rfl

@[simp] lemma item?_nextFreeIndex (n : ℕ) : (nextFreeIndex n : IndexOption T).item? = none := rfl

lemma item?_eq_some_iff {o : IndexOption T} {t : T} : o.item? = some t ↔ o = .exist t := by
  cases o <;> simp

end IndexOption

/-- A set of items in a fixed number of slots, whose free slots are chained by their indexes. -/
structure IndexSet (T : Type) (N : ℕ) where
  freeIndex : ℕ
  items : Vector (IndexOption T) N
  deriving DecidableEq, Repr

namespace IndexSet

variable {T : Type} {N : ℕ}

/-- An empty set: every slot leads to the next one. -/
def new : IndexSet T N where
  freeIndex := 0
  items := Vector.ofFn (fun i => .nextFreeIndex (i + 1))

/-- On success the handle of the item, otherwise the item itself. -/
def addItem (s : IndexSet T N) (item : T) : Exec (Except T ℕ × IndexSet T N) :=
  if h : s.freeIndex < N then
    match s.items[s.freeIndex] with
    | .nextFreeIndex next =>
      .ok (.ok s.freeIndex, { freeIndex := next, items := s.items.set s.freeIndex (.exist item) })
    | .exist _ => .error .explicit
  else
    .ok (.error item, s)

/-- The item leaves its slot, which becomes the first free one. -/
def removeItem (s : IndexSet T N) (handle : ℕ) : Option T × IndexSet T N :=
  if h : handle < N then
    match s.items[handle] with
    | .exist item =>
      (some item, { freeIndex := handle, items := s.items.set handle (.nextFreeIndex s.freeIndex) })
    | .nextFreeIndex _ => (none, s)
  else
    (none, s)

/-- The item of a handle, if there is one. -/
def getItem (s : IndexSet T N) (handle : ℕ) : Option T :=
  if h : handle < N then (s.items[handle]).item? else none

/-- The set after a write through the reference `get_item_mut` returns.  A handle that names no
item gives no reference, and the set stays as it is. -/
def modifyItem (s : IndexSet T N) (handle : ℕ) (f : T → T) : IndexSet T N :=
  if h : handle < N then
    match s.items[handle] with
    | .exist item => { s with items := s.items.set handle (.exist (f item)) }
    | .nextFreeIndex _ => s
  else
    s

/-! ## What the operations do to each slot -/

/-- Everything `add_item` can do. -/
lemma addItem_eq_ok {s s' : IndexSet T N} {item : T} {r : Except T ℕ}
    (h : s.addItem item = .ok (r, s')) :
    (∃ hf : s.freeIndex < N, ∃ next, s.items[s.freeIndex] = .nextFreeIndex next ∧
      r = .ok s.freeIndex ∧
      s' = { freeIndex := next, items := s.items.set s.freeIndex (.exist item) }) ∨
    (N ≤ s.freeIndex ∧ r = .error item ∧ s' = s) := by
  unfold addItem at h
  split at h
  · rename_i hf
    split at h
    · rename_i next hnext
      simp only [Except.ok.injEq, Prod.mk.injEq] at h
      exact .inl ⟨hf, next, hnext, h.1.symm, h.2.symm⟩
    · cases h
  · rename_i hf
    simp only [Except.ok.injEq, Prod.mk.injEq] at h
    exact .inr ⟨Nat.le_of_not_lt hf, h.1.symm, h.2.symm⟩

lemma getItem_eq_some_iff {s : IndexSet T N} {handle : ℕ} {t : T} :
    s.getItem handle = some t ↔ ∃ h : handle < N, s.items[handle] = .exist t := by
  unfold getItem
  split
  · rename_i h
    simp [IndexOption.item?_eq_some_iff, h]
  · rename_i h
    simp [h]

lemma getItem_of_free {s : IndexSet T N} {handle next : ℕ} (h : handle < N)
    (hs : s.items[handle] = .nextFreeIndex next) : s.getItem handle = none := by
  simp [getItem, h, hs]

lemma getItem_of_not_lt {s : IndexSet T N} {handle : ℕ} (h : ¬ handle < N) :
    s.getItem handle = none := by
  simp [getItem, h]

/-- Writing one slot changes what is stored under its index and nothing else. -/
lemma getItem_set (s : IndexSet T N) (free : ℕ) {j : ℕ} (hj : j < N) (o : IndexOption T)
    (i : ℕ) :
    (IndexSet.mk free (s.items.set j o)).getItem i = if i = j then o.item? else s.getItem i := by
  by_cases hi : i = j
  · subst hi
    simp [getItem, hj]
  · by_cases hiN : i < N
    · simp [getItem, hiN, hi, Vector.getElem_set_ne hj hiN (Ne.symm hi)]
    · simp [getItem, hiN, hi]

/-- A mutation touches only the slot of its handle. -/
lemma getItem_modifyItem (s : IndexSet T N) (handle : ℕ) (f : T → T) (i : ℕ) :
    (s.modifyItem handle f).getItem i =
      if i = handle then (s.getItem i).map f else s.getItem i := by
  have hfree : s.getItem handle = none → s.modifyItem handle f = s →
      (s.modifyItem handle f).getItem i =
        if i = handle then (s.getItem i).map f else s.getItem i := by
    intro hnone hself
    rw [hself]
    split
    · rename_i heq
      simp [heq, hnone]
    · rfl
  by_cases hh : handle < N
  · rcases hitem : s.items[handle] with next | item
    · exact hfree (getItem_of_free hh hitem) (by simp [modifyItem, hh, hitem])
    · have hset : s.modifyItem handle f = ⟨s.freeIndex, s.items.set handle (.exist (f item))⟩ := by
        simp [modifyItem, hh, hitem]
      rw [hset, getItem_set]
      split
      · rename_i heq
        simp [heq, getItem, hh, hitem]
      · rfl
  · exact hfree (getItem_of_not_lt hh) (by simp [modifyItem, hh])

/-- An item that was added is stored under its handle; nothing else changes. -/
lemma getItem_addItem {s s' : IndexSet T N} {item : T} {handle : ℕ}
    (h : s.addItem item = .ok (.ok handle, s')) :
    handle = s.freeIndex ∧ handle < N ∧ s.getItem handle = none ∧
      ∀ i, s'.getItem i = if i = handle then some item else s.getItem i := by
  rcases addItem_eq_ok h with ⟨hf, next, hnext, hr, rfl⟩ | ⟨-, hr, -⟩
  · cases hr
    exact ⟨rfl, hf, getItem_of_free hf hnext, fun i => getItem_set s next hf _ i⟩
  · cases hr

/-- Removing a handle empties its slot and touches no other. -/
lemma getItem_removeItem (s : IndexSet T N) (handle i : ℕ) :
    (s.removeItem handle).2.getItem i = if i = handle then none else s.getItem i := by
  have hfree : s.getItem handle = none → (s.removeItem handle).2 = s →
      (s.removeItem handle).2.getItem i = if i = handle then none else s.getItem i := by
    intro hnone hself
    rw [hself]
    split
    · rename_i heq
      simp [heq, hnone]
    · rfl
  by_cases hh : handle < N
  · rcases hitem : s.items[handle] with next | item
    · exact hfree (getItem_of_free hh hitem) (by simp [removeItem, hh, hitem])
    · have hset : (s.removeItem handle).2 =
          ⟨handle, s.items.set handle (.nextFreeIndex s.freeIndex)⟩ := by
        simp [removeItem, hh, hitem]
      rw [hset, getItem_set]
      rfl
  · exact hfree (getItem_of_not_lt hh) (by simp [removeItem, hh])

/-! ## The live slots in order -/

/-- The handles of the stored items, in slot order. -/
def liveSlots (s : IndexSet T N) : List ℕ :=
  (List.range N).filter (fun i => (s.getItem i).isSome)

end IndexSet

end EtherCat

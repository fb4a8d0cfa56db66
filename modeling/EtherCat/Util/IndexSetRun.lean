import EtherCat.Foundation.FreeChain
import EtherCat.Foundation.Transition
import EtherCat.Util.IndexSet

/-!
# The slot allocator is a finite map

The free slots of an `IndexSet` are chained from `freeIndex` on, and the last one names `N`
(`FreeList`).  Every operation keeps the chain, so that a set that is made by `new` never meets a
slot that is not as it expects it, hands out every free slot before it refuses an item, and stores
under a handle what was put there last (`run_new`).
-/

namespace EtherCat

open Rust Rust.Exec FreeChain

/-- The index of the next free slot that a free slot names. -/
def IndexOption.next? {T : Type} : IndexOption T → Option ℕ
  | nextFreeIndex next => some next
  | exist _ => none

lemma IndexOption.isSome_next?_iff {T : Type} (o : IndexOption T) :
    o.next?.isSome = true ↔ o.item? = none := by
  cases o with
  | nextFreeIndex next => simp [next?]
  | exist item => simp [next?]

namespace IndexSet

variable {T : Type} {N : ℕ}

/-- `remove_item` with its second `match`: the swap puts a free slot into the set and takes out
the slot that was there. -/
def removeItemSwap (s : IndexSet T N) (handle : ℕ) : Exec (Option T × IndexSet T N) :=
  if h : handle < N then
    match s.items[handle] with
    | .exist _ =>
      let option := s.items[handle]
      let s := IndexSet.mk handle (s.items.set handle (.nextFreeIndex s.freeIndex))
      match option with
      | .exist item => .ok (some item, s)
      | .nextFreeIndex _ => .error .explicit
    | .nextFreeIndex _ => .ok (none, s)
  else
    .ok (none, s)

/-- The set after a write through every reference that `items_mut` gives. -/
def modifyItems (s : IndexSet T N) (f : ℕ → T → T) : IndexSet T N :=
  { s with items := s.items.mapIdx fun i option =>
      match option with
      | .exist item => .exist (f i item)
      | .nextFreeIndex next => .nextFreeIndex next }

/-- The second `match` finds the item that the first one has found. -/
lemma removeItemSwap_eq (s : IndexSet T N) (handle : ℕ) :
    s.removeItemSwap handle = .ok (s.removeItem handle) := by
  unfold removeItemSwap removeItem
  by_cases hh : handle < N
  · rcases hitem : s.items[handle] with next | item <;> simp [hh, hitem]
  · simp [hh]

lemma removeItem_fst (s : IndexSet T N) (handle : ℕ) :
    (s.removeItem handle).1 = s.getItem handle := by
  by_cases hh : handle < N
  · rcases hitem : s.items[handle] with next | item <;> simp [removeItem, getItem, hh, hitem]
  · simp [removeItem, getItem, hh]

lemma getItem_modifyItems (s : IndexSet T N) (f : ℕ → T → T) (i : ℕ) :
    (s.modifyItems f).getItem i = (s.getItem i).map (f i) := by
  by_cases hi : i < N
  · rcases hitem : s.items[i] with next | item <;> simp [modifyItems, getItem, hi, hitem]
  · simp [getItem, hi]

/-! ## The chain of free slots -/

/-- The free slot that a free slot names. -/
def nextFree (s : IndexSet T N) (i : ℕ) : Option ℕ :=
  if h : i < N then (s.items[i]).next? else none

/-- The chain from `freeIndex` visits every free slot and ends at `N`. -/
def FreeList (s : IndexSet T N) : Prop := AllChained s.nextFree s.freeIndex N

lemma isSome_nextFree_iff (s : IndexSet T N) (i : ℕ) :
    (s.nextFree i).isSome = true ↔ i < N ∧ s.getItem i = none := by
  by_cases hi : i < N
  · simp [nextFree, getItem, hi, IndexOption.isSome_next?_iff]
  · simp [nextFree, hi]

lemma nextFree_set (s : IndexSet T N) (free : ℕ) {j : ℕ} (hj : j < N) (o : IndexOption T) :
    (IndexSet.mk free (s.items.set j o)).nextFree = Function.update s.nextFree j o.next? := by
  funext i
  by_cases hi : i = j
  · subst hi
    simp [nextFree, hj]
  · rw [Function.update_of_ne hi]
    by_cases hiN : i < N
    · simp [nextFree, hiN, Vector.getElem_set_ne hj hiN (Ne.symm hi)]
    · simp [nextFree, hiN]

lemma freeList_new : (new : IndexSet T N).FreeList := by
  have hnext : ∀ i, (new : IndexSet T N).nextFree i = if i < N then some (i + 1) else none := by
    intro i
    by_cases hi : i < N <;> simp [nextFree, new, IndexOption.next?, hi]
  -- The chain from every slot on, from the last one back.
  have hthreads : ∀ d i, i + d = N →
      Threads (new : IndexSet T N).nextFree i (List.range' i d) N := by
    intro d
    induction d with
    | zero =>
        rintro i rfl
        exact .stop i
    | succ d ih =>
        intro i hi
        refine .visit ?_ (ih (i + 1) (by omega))
        rw [hnext, if_pos (by omega)]
  refine ⟨⟨_, hthreads N 0 (Nat.zero_add N), fun i => ?_⟩, ?_⟩
  · rw [hnext, List.mem_range'_1]
    by_cases hi : i < N <;> simp [hi]
  · rw [hnext, if_neg (Nat.lt_irrefl N)]

/-- What `add_item` does to a set with its chain. -/
lemma FreeList.addItem {s : IndexSet T N} (h : s.FreeList) (item : T) :
    (s.freeIndex = N ∧ s.addItem item = .ok (.error item, s)) ∨
    (s.freeIndex < N ∧ ∃ s', s.addItem item = .ok (.ok s.freeIndex, s') ∧ s'.FreeList) := by
  by_cases hfree : s.freeIndex = N
  · exact .inl ⟨hfree, by simp [IndexSet.addItem, hfree]⟩
  · obtain ⟨next, hnext⟩ := Option.isSome_iff_exists.mp (h.isSome_start hfree)
    have hlt := ((isSome_nextFree_iff s _).mp (h.isSome_start hfree)).1
    have hslot : s.items[s.freeIndex] = .nextFreeIndex next := by
      rcases hitem : s.items[s.freeIndex] with next' | item'
      · simpa [nextFree, hlt, hitem, IndexOption.next?] using hnext
      · simp [nextFree, hlt, hitem, IndexOption.next?] at hnext
    have hadd : s.addItem item =
        .ok (.ok s.freeIndex, ⟨next, s.items.set s.freeIndex (.exist item)⟩) := by
      simp [IndexSet.addItem, hlt, hslot]
    refine .inr ⟨hlt, _, hadd, ?_⟩
    rw [FreeList, nextFree_set]
    exact h.take hnext

lemma FreeList.removeItem {s : IndexSet T N} (h : s.FreeList) (handle : ℕ) :
    (s.removeItem handle).2.FreeList := by
  by_cases hh : handle < N
  · rcases hitem : s.items[handle] with next | item
    · simpa [IndexSet.removeItem, hh, hitem] using h
    · have hused : s.nextFree handle = none := by
        simp [nextFree, hh, hitem, IndexOption.next?]
      have hset : (s.removeItem handle).2 =
          ⟨handle, s.items.set handle (.nextFreeIndex s.freeIndex)⟩ := by
        simp [IndexSet.removeItem, hh, hitem]
      rw [hset, FreeList, nextFree_set]
      exact h.put hused (Nat.ne_of_lt hh)
  · simpa [IndexSet.removeItem, hh] using h

/-- Items change, slots do not become free or used. -/
lemma FreeList.of_nextFree {s s' : IndexSet T N} (h : s.FreeList)
    (hnext : s'.nextFree = s.nextFree) (hfree : s'.freeIndex = s.freeIndex) : s'.FreeList := by
  rw [FreeList, hnext, hfree]
  exact h

lemma FreeList.modifyItem {s : IndexSet T N} (h : s.FreeList) (handle : ℕ) (f : T → T) :
    (s.modifyItem handle f).FreeList := by
  by_cases hh : handle < N
  · rcases hitem : s.items[handle] with next | item
    · simpa [IndexSet.modifyItem, hh, hitem] using h
    · have hset : s.modifyItem handle f = ⟨s.freeIndex, s.items.set handle (.exist (f item))⟩ := by
        simp [IndexSet.modifyItem, hh, hitem]
      refine h.of_nextFree ?_ (by rw [hset])
      rw [hset, nextFree_set, Function.update_eq_self_iff]
      simp [nextFree, hh, hitem, IndexOption.next?]
  · simpa [IndexSet.modifyItem, hh] using h

lemma FreeList.modifyItems {s : IndexSet T N} (h : s.FreeList) (f : ℕ → T → T) :
    (s.modifyItems f).FreeList := by
  refine h.of_nextFree (funext fun i => ?_) rfl
  by_cases hi : i < N
  · rcases hitem : s.items[i] with next | item <;>
      simp [IndexSet.modifyItems, nextFree, hi, hitem, IndexOption.next?]
  · simp [nextFree, hi]

/-! ## Full sets -/

lemma length_liveSlots_le (s : IndexSet T N) : s.liveSlots.length ≤ N :=
  (List.length_filter_le _ _).trans_eq List.length_range

/-- All slots are in use. -/
lemma length_liveSlots_eq_iff (s : IndexSet T N) :
    s.liveSlots.length = N ↔ ∀ i < N, (s.getItem i).isSome = true := by
  have hfilter : s.liveSlots.length = (List.range N).length ↔
      ∀ i ∈ List.range N, (s.getItem i).isSome = true := List.length_filter_eq_length_iff
  simpa only [List.length_range, List.mem_range] using hfilter

/-- The chain is at its end exactly if all slots are in use. -/
lemma FreeList.freeIndex_eq_iff {s : IndexSet T N} (h : s.FreeList) :
    s.freeIndex = N ↔ s.liveSlots.length = N := by
  rw [h.start_eq_stop_iff, length_liveSlots_eq_iff]
  constructor
  · intro hnone i hi
    by_contra hfree
    have hsome := (isSome_nextFree_iff s i).mpr ⟨hi, Option.not_isSome_iff_eq_none.mp hfree⟩
    rw [hnone i] at hsome
    cases hsome
  · intro hsome i
    rw [← Option.not_isSome_iff_eq_none, isSome_nextFree_iff]
    rintro ⟨hi, hfree⟩
    have hused := hsome i hi
    rw [hfree] at hused
    cases hused

/-! ## Runs -/

/-- The operations of a set. -/
inductive Op (T : Type)
  | add (item : T)
  | remove (handle : ℕ)
  | modify (handle : ℕ) (f : T → T)
  | modifyAll (f : ℕ → T → T)

/-- What an operation has done. -/
inductive Event (T : Type)
  | added (item : T) (result : Except T ℕ)
  | removed (handle : ℕ) (result : Option T)
  | modified (handle : ℕ) (f : T → T)
  | allModified (f : ℕ → T → T)

/-- One operation. -/
def step (s : IndexSet T N) : Op T → Exec (Event T × IndexSet T N)
  | .add item => do
    let (result, s) ← s.addItem item
    .ok (.added item result, s)
  | .remove handle => do
    let (result, s) ← s.removeItemSwap handle
    .ok (.removed handle result, s)
  | .modify handle f => .ok (.modified handle f, s.modifyItem handle f)
  | .modifyAll f => .ok (.allModified f, s.modifyItems f)

/-- A step that notes its event. -/
def logStep : IndexSet T N × List (Event T) → Op T → Exec (IndexSet T N × List (Event T))
  | (s, history), op => do
    let (event, s) ← s.step op
    .ok (s, history ++ [event])

/-- The finite map behind an event. -/
def Event.apply (contents : ℕ → Option T) : Event T → ℕ → Option T
  | added item (.ok handle) => Function.update contents handle (some item)
  | added _ (.error _) => contents
  | removed handle _ => Function.update contents handle none
  | modified handle f => Function.update contents handle ((contents handle).map f)
  | allModified f => fun i => (contents i).map (f i)

/-- The finite map that a history leaves. -/
def contents (history : List (Event T)) : ℕ → Option T :=
  history.foldl Event.apply fun _ => none

lemma contents_append (history : List (Event T)) (event : Event T) :
    contents (history ++ [event]) = event.apply (contents history) := by
  simp [contents]

/-- What a set does that is a finite map with `N` handles, and how its free slots are chained. -/
structure Allocates (s : IndexSet T N) : Prop where
  chain : ∃ visited, Threads s.nextFree s.freeIndex visited N ∧ visited.Nodup ∧
    ∀ i, i ∈ visited ↔ i < N ∧ s.getItem i = none
  add : ∀ item,
    (s.liveSlots.length = N ∧ s.addItem item = .ok (.error item, s)) ∨
    (s.liveSlots.length < N ∧ ∃ handle s', s.addItem item = .ok (.ok handle, s') ∧ handle < N ∧
      s.getItem handle = none ∧
      ∀ i, s'.getItem i = if i = handle then some item else s.getItem i)
  remove : ∀ handle, ∃ s', s.removeItemSwap handle = .ok (s.getItem handle, s') ∧
    ∀ i, s'.getItem i = if i = handle then none else s.getItem i
  modify : ∀ handle f i, (s.modifyItem handle f).getItem i =
    if i = handle then (s.getItem i).map f else s.getItem i

lemma FreeList.allocates {s : IndexSet T N} (h : s.FreeList) : s.Allocates where
  chain := by
    obtain ⟨⟨visited, hthreads, hmem⟩, hstop⟩ := h
    exact ⟨visited, hthreads, hthreads.nodup hstop, fun i =>
      (hmem i).trans (isSome_nextFree_iff s i)⟩
  add item := by
    rcases h.addItem item with ⟨hfull, hadd⟩ | ⟨hlt, s', hadd, -⟩
    · exact .inl ⟨h.freeIndex_eq_iff.mp hfull, hadd⟩
    · obtain ⟨-, hhandle, hfree, hget⟩ := getItem_addItem hadd
      refine .inr ⟨?_, _, s', hadd, hhandle, hfree, hget⟩
      refine Nat.lt_of_le_of_ne s.length_liveSlots_le fun hfull => ?_
      exact absurd (h.freeIndex_eq_iff.mpr hfull) (Nat.ne_of_lt hlt)
  remove handle := by
    refine ⟨(s.removeItem handle).2, ?_, getItem_removeItem s handle⟩
    rw [removeItemSwap_eq, ← removeItem_fst]
  modify := getItem_modifyItem s

/-- A set with its chain whose items are those of the history. -/
def Tracks (st : IndexSet T N × List (Event T)) : Prop :=
  st.1.FreeList ∧ ∀ handle, st.1.getItem handle = contents st.2 handle

/-- A step returns, keeps the chain and stores what the event says. -/
lemma Tracks.logStep {st : IndexSet T N × List (Event T)} (h : Tracks st) (op : Op T) :
    ∃ st', IndexSet.logStep st op = .ok st' ∧ Tracks st' := by
  obtain ⟨s, history⟩ := st
  obtain ⟨hfree, hget⟩ := h
  have hcontents : s.getItem = contents history := funext hget
  have htracks : ∀ {event : Event T} {s' : IndexSet T N}, s.step op = .ok (event, s') →
      s'.FreeList → (∀ i, s'.getItem i = event.apply s.getItem i) →
      ∃ st', IndexSet.logStep (s, history) op = .ok st' ∧ Tracks st' := by
    intro event s' hstep hfree' hget'
    refine ⟨(s', history ++ [event]), by rw [IndexSet.logStep, hstep, ok_bind], hfree', fun i => ?_⟩
    rw [contents_append, ← hcontents]
    exact hget' i
  cases op with
  | add item =>
      rcases hfree.addItem item with ⟨-, hadd⟩ | ⟨-, s', hadd, hfree'⟩
      · exact htracks (by rw [step, hadd, ok_bind]) hfree fun _ => rfl
      · refine htracks (by rw [step, hadd, ok_bind]) hfree' fun i => ?_
        rw [(getItem_addItem hadd).2.2.2, Event.apply, Function.update_apply]
  | remove handle =>
      refine htracks (by rw [step, removeItemSwap_eq, ok_bind]) (hfree.removeItem handle) ?_
      intro i
      rw [getItem_removeItem, Event.apply, Function.update_apply]
  | modify handle f =>
      refine htracks rfl (hfree.modifyItem handle f) fun i => ?_
      rw [getItem_modifyItem, Event.apply, Function.update_apply]
      split
      · next heq => rw [heq]
      · rfl
  | modifyAll f =>
      exact htracks rfl (hfree.modifyItems f) fun i => getItem_modifyItems s f i

lemma Tracks.run {st : IndexSet T N × List (Event T)} (h : Tracks st) (ops : List (Op T)) :
    ∃ st', Transition.run IndexSet.logStep st ops = .ok st' ∧ Tracks st' := by
  induction ops generalizing st with
  | nil => exact ⟨st, rfl, h⟩
  | cons op ops ih =>
      obtain ⟨st₁, hstep, h₁⟩ := h.logStep op
      obtain ⟨st', hrun, h'⟩ := ih h₁
      exact ⟨st', Transition.run_cons_eq_ok_iff.mpr ⟨st₁, hstep, hrun⟩, h'⟩

/-- **The slot allocator.**  No sequence of operations reaches an `unreachable!()`.  Behind every
one the free slots are chained, and the set is the finite map that the operations have made. -/
theorem run_new (ops : List (Op T)) : ∃ s history,
    Transition.run logStep ((new : IndexSet T N), []) ops = .ok (s, history) ∧ s.Allocates ∧
      ∀ handle, s.getItem handle = contents history handle := by
  have hnew : Tracks ((new : IndexSet T N), ([] : List (Event T))) :=
    ⟨freeList_new, fun i => by by_cases hi : i < N <;> simp [getItem, new, contents, hi]⟩
  obtain ⟨⟨s, history⟩, hrun, hfree, hget⟩ := hnew.run ops
  exact ⟨s, history, hrun, hfree.allocates, hget⟩

end IndexSet

end EtherCat

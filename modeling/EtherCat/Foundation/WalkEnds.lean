import EtherCat.Foundation.Tour

/-!
# Where a walk ends

The lists of ports of a `Walk` need not be those of a tree.  The walk goes on to the next node as
long as the nodes have two ports, and turns back at the first one that has not.  So it ends exactly
if there is such a node (`Walk.exists_yields_iff`).  A walk that ends has entered every node by each
of its ports once at most.
-/

namespace Tour.Walk

open Rust

variable {w w' : Walk} {items : List (ℕ × ℕ)}

/-- From the current position on there is a node with one port at most. -/
def TurnsBack (w : Walk) : Prop :=
  ∃ m ports, w.position ≤ m ∧ w.ahead[m]? = some ports ∧ ports.length ≤ 1

/-- The number of ports that are left. -/
def portCount (w : Walk) : ℕ := (w.ahead.map List.length).sum

lemma sum_map_length_le {lists : List (List ℕ)} {n : ℕ} (h : ∀ ports ∈ lists, ports.length ≤ n) :
    (lists.map List.length).sum ≤ n * lists.length := by
  induction lists with
  | nil => exact Nat.zero_le _
  | cons ports lists ih =>
      rw [List.forall_mem_cons] at h
      rw [List.map_cons, List.sum_cons, List.length_cons, Nat.mul_succ, Nat.add_comm]
      exact Nat.add_le_add (ih h.2) h.1

lemma sum_map_length_set {lists : List (List ℕ)} {i port : ℕ} {more : List ℕ}
    (h : lists[i]? = some (port :: more)) :
    (lists.map List.length).sum = ((lists.set i more).map List.length).sum + 1 := by
  induction lists generalizing i with
  | nil => cases h
  | cons ports lists ih =>
      rcases i with _ | i
      · obtain rfl := Option.some.inj h
        simp only [List.set_cons_zero, List.map_cons, List.sum_cons, List.length_cons]
        omega
      · rw [List.set_cons_succ, List.map_cons, List.map_cons, List.sum_cons, List.sum_cons, ih h]
        omega

/-! ## One step -/

/-- Every item uses up a port. -/
lemma portCount_of_next {place : ℕ × ℕ} (h : w.next = .ok (some (place, w'))) :
    w.portCount = w'.portCount + 1 := by
  obtain ⟨port, more, hhere, -, rfl⟩ := next_eq_some_iff.mp h
  exact sum_map_length_set hhere

/-- A walk that turns back is at a node. -/
lemma TurnsBack.exists_next (h : w.TurnsBack) : ∃ item, w.next = .ok item := by
  obtain ⟨m, ports, hle, hm, -⟩ := h
  have hlt := (List.getElem?_eq_some_iff.mp hm).1
  have hhere : w.ahead[w.position]? = some w.ahead[w.position] :=
    List.getElem?_eq_getElem (by omega)
  rcases hports : w.ahead[w.position] with _ | ⟨port, more⟩
  · rw [hports] at hhere
    exact ⟨_, next_eq_none_iff.mpr hhere⟩
  · rw [hports] at hhere
    exact ⟨_, next_eq_some_iff.mpr ⟨port, more, hhere, rfl, rfl⟩⟩

/-- A step keeps the node at which the walk turns back ahead of it, or turns back itself. -/
lemma TurnsBack.next {place : ℕ × ℕ} (hturns : w.TurnsBack)
    (h : w.next = .ok (some (place, w'))) : w'.TurnsBack := by
  obtain ⟨m, ports, hle, hm, hlength⟩ := hturns
  obtain ⟨port, more, hhere, -, rfl⟩ := next_eq_some_iff.mp h
  have hlt := (List.getElem?_eq_some_iff.mp hhere).1
  by_cases hmore : more = []
  · -- The node is used up, and the walk is now in front of it.
    subst hmore
    refine ⟨w.position, [], ?_, List.getElem?_set_self hlt, Nat.zero_le 1⟩
    rw [if_pos rfl]
    exact Nat.sub_le _ 1
  · have hne : w.position ≠ m := by
      rintro rfl
      obtain rfl := Option.some.inj (hm.symm.trans hhere)
      have hpos := List.length_pos_of_ne_nil hmore
      rw [List.length_cons] at hlength
      omega
    refine ⟨m, ports, ?_, ?_, hlength⟩
    · rw [if_neg hmore]
      dsimp only
      omega
    · rw [List.getElem?_set_ne hne]
      exact hm

lemma TurnsBack.of_next {place : ℕ × ℕ} (hturns : w'.TurnsBack)
    (h : w.next = .ok (some (place, w'))) : w.TurnsBack := by
  obtain ⟨port, more, hhere, -, rfl⟩ := next_eq_some_iff.mp h
  by_cases hmore : more = []
  · exact ⟨w.position, _, le_rfl, hhere, by rw [hmore]; exact le_rfl⟩
  · obtain ⟨m, ports, hle, hm, hlength⟩ := hturns
    rw [if_neg hmore] at hle
    dsimp only at hle hm
    rw [List.getElem?_set_ne (by omega)] at hm
    exact ⟨m, ports, by omega, hm, hlength⟩

/-! ## The whole walk -/

/-- **A walk ends exactly if it turns back.** -/
theorem exists_yields_iff : (∃ items, Yields next w items) ↔ w.TurnsBack := by
  constructor
  · rintro ⟨items, h⟩
    induction h with
    | stop hnext =>
        exact ⟨_, [], le_rfl, next_eq_none_iff.mp hnext, Nat.zero_le 1⟩
    | item hnext _ ih => exact ih.of_next hnext
  · intro h
    -- Every item uses up a port, so that their number bounds the length of the walk.
    induction hcount : w.portCount using Nat.strong_induction_on generalizing w with
    | _ n ih =>
        obtain ⟨_ | ⟨place, w'⟩, hnext⟩ := h.exists_next
        · exact ⟨[], .stop hnext⟩
        · have hcount' := portCount_of_next hnext
          obtain ⟨items, hyields⟩ := ih w'.portCount (by omega) (h.next hnext) rfl
          exact ⟨_, .item hnext hyields⟩

/-- There are at most as many items as ports. -/
lemma length_le_of_yields (h : Yields next w items) : items.length ≤ w.portCount := by
  induction h with
  | stop => exact Nat.zero_le _
  | item hnext _ ih =>
      rw [portCount_of_next hnext, List.length_cons]
      exact Nat.succ_le_succ ih

/-- Every item is a port of a node. -/
lemma mem_ahead_of_yields (h : Yields next w items) {i port : ℕ} (hmem : (i, port) ∈ items) :
    ∃ ports, w.ahead[i]? = some ports ∧ port ∈ ports := by
  induction h with
  | stop => cases hmem
  | item hnext _ ih =>
      obtain ⟨port', more, hhere, rfl, rfl⟩ := next_eq_some_iff.mp hnext
      rcases List.mem_cons.mp hmem with heq | hmem
      · obtain ⟨rfl, rfl⟩ := Prod.mk.inj heq
        exact ⟨_, hhere, List.mem_cons_self⟩
      · obtain ⟨ports, hports, hport⟩ := ih hmem
        rw [List.getElem?_set] at hports
        split at hports
        · next heq =>
            split at hports
            · obtain rfl := Option.some.inj hports
              exact ⟨_, heq ▸ hhere, List.mem_cons_of_mem _ hport⟩
            · cases hports
        · exact ⟨ports, hports, hport⟩

/-- No item comes twice. -/
lemma nodup_of_yields (h : Yields next w items)
    (hnodup : ∀ (i : ℕ) (ports : List ℕ), w.ahead[i]? = some ports → ports.Nodup) :
    items.Nodup := by
  induction h with
  | stop => exact List.nodup_nil
  | item hnext hrest ih =>
      rename_i s s' place items
      obtain ⟨port, more, hhere, rfl, rfl⟩ := next_eq_some_iff.mp hnext
      have hlt := (List.getElem?_eq_some_iff.mp hhere).1
      obtain ⟨hnotMem, hmore⟩ := List.nodup_cons.mp (hnodup _ _ hhere)
      refine List.nodup_cons.mpr ⟨fun hmem => ?_, ih fun i ports hports => ?_⟩
      · obtain ⟨ports, hports, hport⟩ := mem_ahead_of_yields hrest hmem
        rw [List.getElem?_set_self hlt] at hports
        obtain rfl := Option.some.inj hports
        exact hnotMem hport
      · by_cases heq : i = s.position
        · rw [heq, List.getElem?_set_self hlt] at hports
          obtain rfl := Option.some.inj hports
          exact hmore
        · rw [List.getElem?_set_ne (Ne.symm heq)] at hports
          exact hnodup i ports hports

end Tour.Walk

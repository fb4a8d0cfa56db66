import Mathlib.Logic.Function.Basic
import Mathlib.Tactic.Common

/-!
# Chains of free places

The free places of a table are chained: every one of them names the next, and a start is kept
beside the table.  `next i` is the place that a free place `i` names, and nothing for a place in
use.  `Threads next start visited stop` says that the chain from `start` visits these places and
ends at `stop`.

A chain that ends outside the free places is the only one from its start (`Threads.unique`) and
visits no place twice (`Threads.nodup`).  A table whose chain visits every free place (`AllChained`)
stays one when the first free place is taken (`AllChained.take`) and when a place in use is put in
front of the chain (`AllChained.put`).
-/

namespace FreeChain

variable {α : Type*} {next next' : α → Option α} {start stop stop' i j : α} {visited rest : List α}

/-- Following `next` from a start visits these places and ends at the last argument. -/
inductive Threads (next : α → Option α) : α → List α → α → Prop
  | stop (i : α) : Threads next i [] i
  | visit {i j stop : α} {rest : List α} :
      next i = some j → Threads next j rest stop → Threads next i (i :: rest) stop

namespace Threads

/-- Only the visited places matter. -/
lemma congr (h : Threads next start visited stop) (hagree : ∀ i ∈ visited, next' i = next i) :
    Threads next' start visited stop := by
  induction h with
  | stop i => exact .stop i
  | visit hnext _ ih =>
      rw [List.forall_mem_cons] at hagree
      exact .visit (hagree.1.trans hnext) (ih hagree.2)

/-- A chain is determined by its start if it ends at a place in use. -/
lemma unique (h : Threads next start visited stop) (h' : Threads next start rest stop')
    (hstop : next stop = none) (hstop' : next stop' = none) : visited = rest ∧ stop = stop' := by
  induction h generalizing rest with
  | stop =>
      cases h' with
      | stop => exact ⟨rfl, rfl⟩
      | visit hnext _ => cases hstop.symm.trans hnext
  | visit hnext _ ih =>
      cases h' with
      | stop => cases hstop'.symm.trans hnext
      | visit hnext' hrest =>
          obtain rfl := Option.some.inj (hnext.symm.trans hnext')
          obtain ⟨rfl, rfl⟩ := ih hrest hstop
          exact ⟨rfl, rfl⟩

/-- From every place that a chain visits, the rest of it is a chain. -/
lemma of_mem (h : Threads next start visited stop) (hi : i ∈ visited) :
    ∃ rest, Threads next i rest stop ∧ rest.length ≤ visited.length := by
  induction h with
  | stop => cases hi
  | visit hnext hrest ih =>
      rcases List.mem_cons.mp hi with rfl | hi
      · exact ⟨_, .visit hnext hrest, Nat.le_refl _⟩
      · obtain ⟨rest, hthreads, hlength⟩ := ih hi
        exact ⟨rest, hthreads, Nat.le_succ_of_le hlength⟩

/-- **No place is visited twice.** -/
theorem nodup (h : Threads next start visited stop) (hstop : next stop = none) :
    visited.Nodup := by
  induction h with
  | stop => exact List.nodup_nil
  | visit hnext hrest ih =>
      refine List.nodup_cons.mpr ⟨fun hmem => ?_, ih hstop⟩
      -- Behind a second visit the chain would be the whole chain again.
      obtain ⟨again, hagain, hlength⟩ := hrest.of_mem hmem
      obtain ⟨rfl, -⟩ := hagain.unique (.visit hnext hrest) hstop hstop
      exact absurd hlength (Nat.not_succ_le_self _)

lemma of_next (h : Threads next start visited stop) (hstop : next stop = none)
    (hnext : next start = some j) : ∃ rest, visited = start :: rest ∧ Threads next j rest stop := by
  cases h with
  | stop => cases hstop.symm.trans hnext
  | visit hnext' hrest =>
      obtain rfl := Option.some.inj (hnext.symm.trans hnext')
      exact ⟨_, rfl, hrest⟩

lemma start_eq_of_nil (h : Threads next start [] stop) : start = stop := by
  cases h
  rfl

end Threads

/-- The chain visits every free place and ends outside of them. -/
structure AllChained (next : α → Option α) (start stop : α) : Prop where
  threads : ∃ visited, Threads next start visited stop ∧ ∀ i, i ∈ visited ↔ (next i).isSome = true
  stop : next stop = none

namespace AllChained

/-- A chain that is not at its end starts at a free place. -/
lemma isSome_start (h : AllChained next start stop) (hne : start ≠ stop) :
    (next start).isSome = true := by
  obtain ⟨⟨visited, hthreads, -⟩, -⟩ := h
  cases hthreads with
  | stop => exact absurd rfl hne
  | visit hnext _ =>
      rw [hnext]
      rfl

/-- The start is the end exactly if there is no free place. -/
lemma start_eq_stop_iff (h : AllChained next start stop) :
    start = stop ↔ ∀ i, next i = none := by
  obtain ⟨⟨visited, hthreads, hmem⟩, hstop⟩ := h
  constructor
  · rintro rfl i
    obtain ⟨rfl, -⟩ := hthreads.unique (.stop start) hstop hstop
    rw [← Option.not_isSome_iff_eq_none, ← hmem]
    exact List.not_mem_nil
  · intro hnone
    rcases visited with _ | ⟨i, visited⟩
    · exact hthreads.start_eq_of_nil
    · have hsome := (hmem i).mp List.mem_cons_self
      rw [hnone] at hsome
      cases hsome

variable [DecidableEq α]

lemma take (h : AllChained next start stop) (hnext : next start = some j) :
    AllChained (Function.update next start none) j stop := by
  obtain ⟨⟨visited, hthreads, hmem⟩, hstop⟩ := h
  obtain ⟨rest, rfl, hrest⟩ := hthreads.of_next hstop hnext
  have hfresh : start ∉ rest := (List.nodup_cons.mp (hthreads.nodup hstop)).1
  refine ⟨⟨rest, hrest.congr fun i hi => ?_, fun i => ?_⟩, ?_⟩
  · exact Function.update_of_ne (ne_of_mem_of_not_mem hi hfresh) _ _
  · by_cases hi : i = start
    · subst hi
      simp [hfresh]
    · rw [Function.update_of_ne hi, ← hmem, List.mem_cons, or_iff_right hi]
  · by_cases heq : stop = start
    · rw [heq, Function.update_self]
    · rw [Function.update_of_ne heq, hstop]

lemma put (h : AllChained next start stop) (hi : next i = none) (hne : i ≠ stop) :
    AllChained (Function.update next i (some start)) i stop := by
  obtain ⟨⟨visited, hthreads, hmem⟩, hstop⟩ := h
  have hfresh : i ∉ visited := fun hvisited => by
    rw [hmem, hi] at hvisited
    cases hvisited
  refine ⟨⟨i :: visited, .visit (Function.update_self ..) (hthreads.congr fun k hk => ?_),
    fun k => ?_⟩, ?_⟩
  · exact Function.update_of_ne (ne_of_mem_of_not_mem hk hfresh) _ _
  · by_cases hk : k = i
    · subst hk
      simp
    · rw [Function.update_of_ne hk, ← hmem, List.mem_cons, or_iff_right hk]
  · rw [Function.update_of_ne hne.symm, hstop]

end AllChained

end FreeChain

import EtherCat.Foundation.Transition

/-!
# Deadlines

A wait that begins at a time and is given up at the first input that comes more than a limit
later.  `run_of_waits` is what a run of such a wait comes to; `passed_take_iff` compares two limits
along times that do not go back: they give the wait up at the same inputs exactly if no time lies
between them.
-/

namespace Deadline

/-- One of the times is more than the limit behind the start. -/
def Passed (limit start : ℕ) (times : List ℕ) : Prop := ∃ time ∈ times, limit < time - start

instance (limit start : ℕ) (times : List ℕ) : Decidable (Passed limit start times) :=
  inferInstanceAs (Decidable (∃ time ∈ times, _))

lemma not_passed_nil (limit start : ℕ) : ¬ Passed limit start [] := by
  rintro ⟨time, hmem, -⟩
  cases hmem

lemma passed_cons {limit start time : ℕ} {times : List ℕ} :
    Passed limit start (time :: times) ↔ limit < time - start ∨ Passed limit start times := by
  simp [Passed]

/-- Two limits that agree on each of the times are passed at the same of them. -/
lemma passed_congr {a b start : ℕ} {times : List ℕ}
    (h : ∀ time ∈ times, (a < time - start ↔ b < time - start)) :
    Passed a start times ↔ Passed b start times := by
  constructor <;> rintro ⟨time, hmem, hlt⟩
  · exact ⟨time, hmem, (h time hmem).mp hlt⟩
  · exact ⟨time, hmem, (h time hmem).mpr hlt⟩

/-- The last of times that do not go back passes a limit that one of them passes. -/
lemma lt_of_passed {limit start last : ℕ} {times : List ℕ}
    (hmono : (times ++ [last]).Pairwise (· ≤ ·)) (h : Passed limit start (times ++ [last])) :
    limit < last - start := by
  obtain ⟨time, hmem, hlt⟩ := h
  have hle : time ≤ last := by
    rcases List.mem_append.mp hmem with hbefore | hlast
    · exact (List.pairwise_append.mp hmono).2.2 time hbefore last (List.mem_singleton_self _)
    · exact Nat.le_of_eq (List.mem_singleton.mp hlast)
  omega

/-- **Two limits.** -/
theorem passed_take_iff {times : List ℕ} (hmono : times.Pairwise (· ≤ ·)) (start a b : ℕ) :
    (∀ k ≤ times.length, (Passed a start (times.take k) ↔ Passed b start (times.take k))) ↔
      ∀ time ∈ times, (a < time - start ↔ b < time - start) := by
  constructor
  · intro h time hmem
    obtain ⟨before, behind, rfl⟩ := List.append_of_mem hmem
    have htake : (before ++ time :: behind).take (before.length + 1) = before ++ [time] := by
      rw [List.take_length_add_append]
      rfl
    have hagree := h (before.length + 1) (by simp)
    have hmono' : (before ++ [time]).Pairwise (· ≤ ·) :=
      htake ▸ hmono.sublist (List.take_sublist _ _)
    rw [htake] at hagree
    have hself {limit : ℕ} (hlt : limit < time - start) : Passed limit start (before ++ [time]) :=
      ⟨time, by simp, hlt⟩
    exact ⟨fun hlt => lt_of_passed hmono' (hagree.mp (hself hlt)),
      fun hlt => lt_of_passed hmono' (hagree.mpr (hself hlt))⟩
  · intro h k _
    exact passed_congr fun time hmem => h time (List.mem_of_mem_take hmem)

section

variable {σ ι ε : Type*} {step : σ → ι → Except ε σ} {Quiet : ι → Prop}

/-- **The rule for waits.**  A step with a quiet input gives the wait up if the input comes more
than the limit behind the start, and goes on waiting otherwise; a wait that was given up stays so. -/
theorem run_of_waits (time : ι → ℕ) (limit start : ℕ) (Waits GaveUp : σ → Prop)
    (hwaits : ∀ s i, Waits s → Quiet i → ∃ s', step s i = .ok s' ∧
      if limit < time i - start then GaveUp s' else Waits s')
    (hgaveUp : ∀ s i, GaveUp s → ∃ s', step s i = .ok s' ∧ GaveUp s') {s : σ} {is : List ι}
    (hquiet : ∀ i ∈ is, Quiet i) (h : Waits s) :
    ∃ t, Transition.run step s is = .ok t ∧
      if Passed limit start (is.map time) then GaveUp t else Waits t := by
  have hstays : ∀ (is : List ι) {s : σ}, GaveUp s →
      ∃ t, Transition.run step s is = .ok t ∧ GaveUp t := by
    intro is
    induction is with
    | nil => exact fun h => ⟨_, rfl, h⟩
    | cons i is ih =>
        intro s h
        obtain ⟨s', hstep, h'⟩ := hgaveUp s i h
        obtain ⟨t, hrun, ht⟩ := ih h'
        exact ⟨t, Transition.run_cons_eq_ok_iff.mpr ⟨s', hstep, hrun⟩, ht⟩
  induction is generalizing s with
  | nil => exact ⟨s, rfl, by rwa [List.map_nil, if_neg (not_passed_nil _ _)]⟩
  | cons i is ih =>
      rw [List.forall_mem_cons] at hquiet
      obtain ⟨s', hstep, h'⟩ := hwaits s i h hquiet.1
      by_cases hlate : limit < time i - start
      · rw [if_pos hlate] at h'
        obtain ⟨t, hrun, ht⟩ := hstays is h'
        refine ⟨t, Transition.run_cons_eq_ok_iff.mpr ⟨s', hstep, hrun⟩, ?_⟩
        rwa [List.map_cons, if_pos (passed_cons.mpr (.inl hlate))]
      · rw [if_neg hlate] at h'
        obtain ⟨t, hrun, ht⟩ := ih hquiet.2 h'
        refine ⟨t, Transition.run_cons_eq_ok_iff.mpr ⟨s', hstep, hrun⟩, ?_⟩
        rwa [List.map_cons, if_congr (passed_cons.trans (or_iff_right hlate)) rfl rfl]

end

end Deadline

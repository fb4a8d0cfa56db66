import Mathlib.Tactic.Common

/-!
# Runs of a partial step function

A system is a step function `σ → ι → Except ε σ`: from a state and an input it gives the next
state, or fails.  A run is a list of inputs; it reaches a state when no step on the way fails.

`Along P` says that a condition on the state before a step and on its input holds at every
step of a run, as far as the run gets.  `run_invariant` is the induction over runs, done once:
a predicate that one step preserves under the condition holds in every state that a run under
the condition reaches.  `exists_run_of_rank` is the induction for runs that are to succeed: a rank
counts the steps that are left.  `log` is what the steps of a run note; `run_log_invariant` is the
same induction for a predicate of the state and what has been noted.
-/

namespace Transition

variable {σ ι ε : Type*}

/-- Feed the inputs one after another. -/
def run (step : σ → ι → Except ε σ) : σ → List ι → Except ε σ
  | s, [] => .ok s
  | s, i :: is =>
    match step s i with
    | .ok s' => run step s' is
    | .error e => .error e

/-- What the steps of the run note, one after another. -/
def log {α : Type*} (step : σ → ι → Except ε σ) (entry : σ → ι → List α) : σ → List ι → List α
  | _, [] => []
  | s, i :: is =>
    entry s i ++
      match step s i with
      | .ok s' => log step entry s' is
      | .error _ => []

/-- The condition holds before every step of the run. -/
def Along (step : σ → ι → Except ε σ) (P : σ → ι → Prop) : σ → List ι → Prop
  | _, [] => True
  | s, i :: is => P s i ∧ ∀ s', step s i = .ok s' → Along step P s' is

instance Along.decidable (step : σ → ι → Except ε σ) (P : σ → ι → Prop)
    [∀ s i, Decidable (P s i)] : ∀ s is, Decidable (Along step P s is)
  | _, [] => .isTrue trivial
  | s, i :: is =>
    match h : step s i with
    | .ok s' =>
      have := Along.decidable step P s' is
      decidable_of_iff (P s i ∧ Along step P s' is) (by simp [Along, h])
    | .error _ => decidable_of_iff (P s i) (by simp [Along, h])

section
variable {step : σ → ι → Except ε σ} {P : σ → ι → Prop}

@[simp] lemma run_nil (s : σ) : run step s [] = .ok s := rfl

lemma run_cons_eq_ok_iff {s t : σ} {i : ι} {is : List ι} :
    run step s (i :: is) = .ok t ↔ ∃ s', step s i = .ok s' ∧ run step s' is = .ok t := by
  cases h : step s i <;> simp [run, h]

lemma run_append_eq_ok_iff {s t : σ} {is js : List ι} :
    run step s (is ++ js) = .ok t ↔ ∃ s', run step s is = .ok s' ∧ run step s' js = .ok t := by
  induction is generalizing s with
  | nil => simp
  | cons i is ih =>
      simp only [List.cons_append, run_cons_eq_ok_iff, ih]
      constructor
      · rintro ⟨s₁, h₁, s₂, h₂, h₃⟩
        exact ⟨s₂, ⟨s₁, h₁, h₂⟩, h₃⟩
      · rintro ⟨s₂, ⟨s₁, h₁, h₂⟩, h₃⟩
        exact ⟨s₁, h₁, s₂, h₂, h₃⟩

lemma along_append_iff {s : σ} {is js : List ι} :
    Along step P s (is ++ js) ↔
      Along step P s is ∧ ∀ s', run step s is = .ok s' → Along step P s' js := by
  induction is generalizing s with
  | nil => simp [Along]
  | cons i is ih =>
      simp only [List.cons_append, Along, ih, run_cons_eq_ok_iff]
      constructor
      · rintro ⟨hP, h⟩
        refine ⟨⟨hP, fun s' hs' => (h s' hs').1⟩, ?_⟩
        rintro t ⟨s', hs', ht⟩
        exact (h s' hs').2 t ht
      · rintro ⟨⟨hP, h⟩, h'⟩
        exact ⟨hP, fun s' hs' => ⟨h s' hs', fun t ht => h' t ⟨s', hs', ht⟩⟩⟩

lemma along_of_forall (h : ∀ s i, P s i) (s : σ) (is : List ι) : Along step P s is := by
  induction is generalizing s with
  | nil => trivial
  | cons i is ih => exact ⟨h s i, fun s' _ => ih s'⟩

/-- What holds of all inputs holds along the run. -/
lemma along_and_of_mem {Q : ι → Prop} {s : σ} {is : List ι} (hmem : ∀ i ∈ is, Q i)
    (h : Along step P s is) : Along step (fun s i => Q i ∧ P s i) s is := by
  induction is generalizing s with
  | nil => trivial
  | cons i is ih =>
      rw [List.forall_mem_cons] at hmem
      exact ⟨⟨hmem.1, h.1⟩, fun s' hs' => ih hmem.2 (h.2 s' hs')⟩

lemma along_mono {Q : σ → ι → Prop} (h : ∀ s i, P s i → Q s i) {s : σ} {is : List ι}
    (halong : Along step P s is) : Along step Q s is := by
  induction is generalizing s with
  | nil => trivial
  | cons i is ih => exact ⟨h s i halong.1, fun s' hs' => ih (halong.2 s' hs')⟩

/-- **The invariant rule.** -/
theorem run_invariant (Inv : σ → Prop)
    (hstep : ∀ s i s', Inv s → P s i → step s i = .ok s' → Inv s') {s t : σ} {is : List ι}
    (hinv : Inv s) (halong : Along step P s is) (hrun : run step s is = .ok t) : Inv t := by
  induction is generalizing s with
  | nil => simp_all
  | cons i is ih =>
      obtain ⟨s', hs', hrest⟩ := run_cons_eq_ok_iff.mp hrun
      exact ih (hstep s i s' hinv halong.1 hs') (halong.2 s' hs') hrest

/-- The invariant rule for inputs that meet a condition. -/
theorem run_invariant_of_mem {Q : ι → Prop} (Inv : σ → Prop)
    (hstep : ∀ s i s', Inv s → Q i → step s i = .ok s' → Inv s') {s t : σ} {is : List ι}
    (hinv : Inv s) (hmem : ∀ i ∈ is, Q i) (hrun : run step s is = .ok t) : Inv t :=
  run_invariant Inv (fun s i s' h hQ => hstep s i s' h hQ.1) hinv
    (along_and_of_mem hmem (along_of_forall (P := fun _ _ => True) (fun _ _ => trivial) s is)) hrun

/-- **The progress rule.**  Where a step under the condition does not fail, keeps the invariant and
takes one from the rank, no run under the condition fails before the rank is used up. -/
theorem exists_run_of_rank (Inv : σ → Prop) (rank : σ → ℕ)
    (hstep : ∀ s i, Inv s → 0 < rank s → P s i →
      ∃ s', step s i = .ok s' ∧ Inv s' ∧ rank s = rank s' + 1) {s : σ} {is : List ι}
    (hinv : Inv s) (halong : Along step P s is) (hlength : is.length ≤ rank s) :
    ∃ t, run step s is = .ok t ∧ Inv t ∧ rank s = rank t + is.length := by
  induction is generalizing s with
  | nil => exact ⟨s, rfl, hinv, rfl⟩
  | cons i is ih =>
      rw [List.length_cons] at hlength
      obtain ⟨s', hs', hinv', hrank⟩ := hstep s i hinv (by omega) halong.1
      obtain ⟨t, hrun, ht, hrest⟩ := ih hinv' (halong.2 s' hs') (by omega)
      refine ⟨t, run_cons_eq_ok_iff.mpr ⟨s', hs', hrun⟩, ht, ?_⟩
      rw [List.length_cons]
      omega

/-- **When a run returns**, if an invariant tells when a step does. -/
theorem exists_run_iff_along (Inv : σ → Prop)
    (hreturns : ∀ s i, Inv s → ((∃ s', step s i = .ok s') ↔ P s i))
    (hstep : ∀ s i s', Inv s → step s i = .ok s' → Inv s') {s : σ} (hinv : Inv s) (is : List ι) :
    (∃ t, run step s is = .ok t) ↔ Along step P s is := by
  induction is generalizing s with
  | nil => exact iff_of_true ⟨s, rfl⟩ trivial
  | cons i is ih =>
      simp only [run_cons_eq_ok_iff]
      constructor
      · rintro ⟨t, s', hs', hrun⟩
        refine ⟨(hreturns s i hinv).mp ⟨s', hs'⟩, fun s'' hs'' => ?_⟩
        cases hs'.symm.trans hs''
        exact (ih (hstep s i s' hinv hs')).mp ⟨t, hrun⟩
      · rintro ⟨hP, halong⟩
        obtain ⟨s', hs'⟩ := (hreturns s i hinv).mpr hP
        obtain ⟨t, hrun⟩ := (ih (hstep s i s' hinv hs')).mpr (halong s' hs')
        exact ⟨t, s', hs', hrun⟩

/-- **The invariant rule with a log**, for inputs that meet a condition. -/
theorem run_log_invariant_of_mem {α : Type*} {entry : σ → ι → List α} {Q : ι → Prop}
    (Inv : σ → List α → Prop)
    (hstep : ∀ s i s' noted, Inv s noted → Q i → step s i = .ok s' → Inv s' (noted ++ entry s i))
    {s t : σ} {is : List ι} {noted : List α} (hinv : Inv s noted) (hmem : ∀ i ∈ is, Q i)
    (hrun : run step s is = .ok t) : Inv t (noted ++ log step entry s is) := by
  induction is generalizing s noted with
  | nil =>
      cases hrun
      rwa [log, List.append_nil]
  | cons i is ih =>
      rw [List.forall_mem_cons] at hmem
      obtain ⟨s', hs', hrest⟩ := run_cons_eq_ok_iff.mp hrun
      have hnoted := ih (hstep s i s' noted hinv hmem.1 hs') hmem.2 hrest
      rwa [log, hs', ← List.append_assoc]

theorem run_log_invariant {α : Type*} {entry : σ → ι → List α} (Inv : σ → List α → Prop)
    (hstep : ∀ s i s' noted, Inv s noted → step s i = .ok s' → Inv s' (noted ++ entry s i))
    {s t : σ} {is : List ι} {noted : List α} (hinv : Inv s noted) (hrun : run step s is = .ok t) :
    Inv t (noted ++ log step entry s is) :=
  run_log_invariant_of_mem Inv (fun s i s' noted h (_ : True) => hstep s i s' noted h) hinv
    (fun _ _ => trivial) hrun

/-- The invariant rule with a log, under a condition. -/
theorem run_log_invariant_of_along {α : Type*} {entry : σ → ι → List α} (Inv : σ → List α → Prop)
    (hstep : ∀ s i s' noted, Inv s noted → P s i → step s i = .ok s' → Inv s' (noted ++ entry s i))
    {s t : σ} {is : List ι} {noted : List α} (hinv : Inv s noted) (halong : Along step P s is)
    (hrun : run step s is = .ok t) : Inv t (noted ++ log step entry s is) := by
  induction is generalizing s noted with
  | nil =>
      cases hrun
      rwa [log, List.append_nil]
  | cons i is ih =>
      obtain ⟨s', hs', hrest⟩ := run_cons_eq_ok_iff.mp hrun
      have hnoted := ih (hstep s i s' noted hinv halong.1 hs') (halong.2 s' hs') hrest
      rwa [log, hs', ← List.append_assoc]

theorem log_append {α : Type*} {entry : σ → ι → List α} {s t : σ} {is js : List ι}
    (hrun : run step s is = .ok t) :
    log step entry s (is ++ js) = log step entry s is ++ log step entry t js := by
  induction is generalizing s with
  | nil =>
      cases hrun
      rfl
  | cons i is ih =>
      obtain ⟨s', hs', hrest⟩ := run_cons_eq_ok_iff.mp hrun
      rw [List.cons_append, log, log, hs', List.append_assoc]
      exact congrArg (entry s i ++ ·) (ih hrest)

/-- What the steps of a run note, under an invariant. -/
theorem forall_mem_log {α : Type*} {entry : σ → ι → List α} {R : α → Prop} (Inv : σ → Prop)
    (hentry : ∀ s i, Inv s → P s i → ∀ a ∈ entry s i, R a)
    (hstep : ∀ s i s', Inv s → P s i → step s i = .ok s' → Inv s') {s : σ} {is : List ι}
    (hinv : Inv s) (halong : Along step P s is) : ∀ a ∈ log step entry s is, R a := by
  induction is generalizing s with
  | nil => exact fun a ha => absurd ha List.not_mem_nil
  | cons i is ih =>
      intro a ha
      rw [log, List.mem_append] at ha
      rcases ha with hnow | hlater
      · exact hentry s i hinv halong.1 a hnow
      · rcases hs' : step s i with e | s'
        · rw [hs'] at hlater
          cases hlater
        · rw [hs'] at hlater
          exact ih (hstep s i s' hinv halong.1 hs') (halong.2 s' hs') a hlater

/-- Two conditions that agree wherever an invariant holds, which a step under them keeps. -/
theorem along_congr {Q : σ → ι → Prop} (Inv : σ → Prop) (hiff : ∀ s i, Inv s → (P s i ↔ Q s i))
    (hstep : ∀ s i s', Inv s → Q s i → step s i = .ok s' → Inv s') {s : σ} (hinv : Inv s)
    (is : List ι) : Along step P s is ↔ Along step Q s is := by
  induction is generalizing s with
  | nil => exact Iff.rfl
  | cons i is ih =>
      constructor
      · rintro ⟨hP, hrest⟩
        have hQ := (hiff s i hinv).mp hP
        exact ⟨hQ, fun s' hs' => (ih (hstep s i s' hinv hQ hs')).mp (hrest s' hs')⟩
      · rintro ⟨hQ, hrest⟩
        exact ⟨(hiff s i hinv).mpr hQ,
          fun s' hs' => (ih (hstep s i s' hinv hQ hs')).mpr (hrest s' hs')⟩

/-- What holds before every step of every run: the invariant and the condition. -/
theorem along_invariant (Inv : σ → Prop)
    (hstep : ∀ s i s', Inv s → P s i → step s i = .ok s' → Inv s') {s : σ} {is : List ι}
    (hinv : Inv s) (halong : Along step P s is) :
    Along step (fun s i => Inv s ∧ P s i) s is := by
  induction is generalizing s with
  | nil => trivial
  | cons i is ih =>
      refine ⟨⟨hinv, halong.1⟩, fun s' hs' => ?_⟩
      exact ih (hstep s i s' hinv halong.1 hs') (halong.2 s' hs')

end

end Transition

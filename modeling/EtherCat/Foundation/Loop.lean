import Mathlib.Tactic.Common

/-!
# Loops that may not end

A loop is a turn function: from a state it gives the next state and, if the loop is left in this
turn, its result; or it fails.  `turns` runs a bounded number of turns.

Some turns only wait.  If a measure falls with every other turn and does not rise with a waiting
one, the loop is left after the measure and the waiting turns are used up
(`returns_of_waits_le`).
-/

namespace Loop

variable {σ ρ ε : Type*}

/-- At most this many turns. -/
def turns (turn : σ → Except ε (Option ρ × σ)) : ℕ → σ → Except ε (Option ρ × σ)
  | 0, s => .ok (none, s)
  | n + 1, s =>
    match turn s with
    | .error e => .error e
    | .ok (some r, s') => .ok (some r, s')
    | .ok (none, s') => turns turn n s'

/-- The loop is left within this many turns. -/
def Returns (turn : σ → Except ε (Option ρ × σ)) (n : ℕ) (s : σ) : Prop :=
  ∃ r s', turns turn n s = .ok (some r, s')

/-- The loop fails within this many turns. -/
def Fails (turn : σ → Except ε (Option ρ × σ)) (n : ℕ) (s : σ) : Prop :=
  ∃ e, turns turn n s = .error e

/-- How many of the first turns wait. -/
def waits (turn : σ → Except ε (Option ρ × σ)) (waiting : σ → Bool) : ℕ → σ → ℕ
  | 0, _ => 0
  | n + 1, s =>
    (waiting s).toNat +
      match turn s with
      | .ok (none, s') => waits turn waiting n s'
      | _ => 0

section
variable {turn : σ → Except ε (Option ρ × σ)} {waiting : σ → Bool}

lemma turns_succ_of_next {s s' : σ} (h : turn s = .ok (none, s')) (n : ℕ) :
    turns turn (n + 1) s = turns turn n s' := by
  rw [turns, h]

lemma waits_succ_of_next {s s' : σ} (h : turn s = .ok (none, s')) (n : ℕ) :
    waits turn waiting (n + 1) s = (waiting s).toNat + waits turn waiting n s' := by
  rw [waits, h]

/-- **The loop is left.**  The induction is on the number of turns that are allowed: a waiting
turn takes one from the bound on the waiting turns, any other turn lowers the measure. -/
theorem returns_of_waits_le (measure : σ → ℕ)
    (hwait : ∀ s s', turn s = .ok (none, s') → waiting s = true → measure s' ≤ measure s)
    (hmove : ∀ s s', turn s = .ok (none, s') → waiting s = false → measure s' < measure s)
    {n bound : ℕ} {s : σ} (hn : measure s + bound < n) (hfails : ∀ k, ¬ Fails turn k s)
    (hwaits : ∀ k, waits turn waiting k s ≤ bound) : Returns turn n s := by
  induction n generalizing s bound with
  | zero => exact absurd hn (Nat.not_lt_zero _)
  | succ n ih =>
      rcases hturn : turn s with e | ⟨_ | r, s'⟩
      · exact absurd ⟨e, by rw [turns, hturn]⟩ (hfails 1)
      · have hfails' : ∀ k, ¬ Fails turn k s' := fun k hk =>
          hfails (k + 1) (by rwa [Fails, turns_succ_of_next hturn])
        have hwaits' : ∀ k, (waiting s).toNat + waits turn waiting k s' ≤ bound := fun k => by
          rw [← waits_succ_of_next hturn]
          exact hwaits (k + 1)
        rw [Returns, turns_succ_of_next hturn]
        rcases hwaiting : waiting s with _ | _
        · have hlt := hmove s s' hturn hwaiting
          have hlt' : measure s' + bound < n := by omega
          apply ih hlt' hfails'
          intro k
          exact Nat.le_trans (Nat.le_add_left _ _) (hwaits' k)
        · have hle := hwait s s' hturn hwaiting
          have hone := hwaits' 0
          simp only [hwaiting, Bool.toNat_true] at hwaits' hone
          have hlt : measure s' + (bound - 1) < n := by omega
          apply ih hlt hfails'
          intro k
          have := hwaits' k
          omega
      · exact ⟨r, s', by rw [turns, hturn]⟩

/-- A loop that is left within `n` turns waits at most `n` times. -/
lemma Returns.waits_le {n : ℕ} {s : σ} (h : Returns turn n s) (k : ℕ) :
    waits turn waiting k s ≤ n := by
  induction n generalizing s k with
  | zero =>
      obtain ⟨r, s', hturns⟩ := h
      cases hturns
  | succ n ih =>
      cases k with
      | zero => exact Nat.zero_le _
      | succ k =>
          have hone : (waiting s).toNat ≤ 1 := Bool.toNat_le _
          rcases hturn : turn s with e | ⟨_ | r, s'⟩
          · rw [waits, hturn]
            dsimp only
            omega
          · rw [Returns, turns_succ_of_next hturn] at h
            rw [waits_succ_of_next hturn]
            have := ih h k
            omega
          · rw [waits, hturn]
            dsimp only
            omega

/-- And it does not fail. -/
lemma Returns.not_fails {n : ℕ} {s : σ} (h : Returns turn n s) (k : ℕ) : ¬ Fails turn k s := by
  induction n generalizing s k with
  | zero =>
      obtain ⟨r, s', hturns⟩ := h
      cases hturns
  | succ n ih =>
      rintro ⟨e, hfail⟩
      cases k with
      | zero => cases hfail
      | succ k =>
          rcases hturn : turn s with e' | ⟨_ | r, s'⟩
          · obtain ⟨r, s', hturns⟩ := h
            rw [turns, hturn] at hturns
            cases hturns
          · rw [Returns, turns_succ_of_next hturn] at h
            rw [turns_succ_of_next hturn] at hfail
            exact ih h k ⟨e, hfail⟩
          · rw [turns, hturn] at hfail
            cases hfail

/-- **Bounded loops.**  Among loops of a bounded measure, the number of turns is bounded exactly if
none fails and the number of waiting turns is bounded. -/
theorem exists_bound_iff (measure : σ → ℕ)
    (hwait : ∀ s s', turn s = .ok (none, s') → waiting s = true → measure s' ≤ measure s)
    (hmove : ∀ s s', turn s = .ok (none, s') → waiting s = false → measure s' < measure s)
    {starts : Set σ} {top : ℕ} (htop : ∀ s ∈ starts, measure s ≤ top) :
    (∃ n, ∀ s ∈ starts, Returns turn n s) ↔
      ∃ bound, ∀ s ∈ starts, ∀ k, ¬ Fails turn k s ∧ waits turn waiting k s ≤ bound := by
  constructor
  · rintro ⟨n, hreturns⟩
    exact ⟨n, fun s hs k => ⟨(hreturns s hs).not_fails k, (hreturns s hs).waits_le k⟩⟩
  · rintro ⟨bound, hbound⟩
    refine ⟨top + bound + 1, fun s hs => ?_⟩
    have hlt : measure s + bound < top + bound + 1 := by
      have := htop s hs
      omega
    apply returns_of_waits_le measure hwait hmove hlt
    · exact fun k => (hbound s hs k).1
    · exact fun k => (hbound s hs k).2

/-- A state that a turn does not leave is never left. -/
lemma not_returns_of_fixed {s : σ} (h : turn s = .ok (none, s)) (n : ℕ) : ¬ Returns turn n s := by
  induction n with
  | zero =>
      rintro ⟨r, s', hturns⟩
      cases hturns
  | succ n ih => rwa [Returns, turns_succ_of_next h]

lemma not_returns_of_next {s s' : σ} (hnext : turn s = .ok (none, s'))
    (h : ∀ n, ¬ Returns turn n s') (n : ℕ) : ¬ Returns turn n s := by
  cases n with
  | zero =>
      rintro ⟨r, s'', hturns⟩
      cases hturns
  | succ n =>
      rw [Returns, turns_succ_of_next hnext]
      exact h n

end

end Loop

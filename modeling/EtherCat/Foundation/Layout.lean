import Mathlib.Algebra.BigOperators.Group.List.Basic
import Mathlib.Data.Nat.Bitwise

/-!
# Consecutive ranges

Ranges of given lengths laid out one after another in a linear space.  `place` is the layout;
the lemmas say where the `k`-th range lies, that the ranges touch but do not overlap, and that
they stay inside the range that their total length spans.
-/

namespace Layout

/-- A range of numbers. -/
structure Range where
  start : ℕ
  length : ℕ
  deriving DecidableEq, Repr

namespace Range

/-- The first number behind the range. -/
def stop (r : Range) : ℕ := r.start + r.length

/-- One range ends before the other begins. -/
def Disjoint (r s : Range) : Prop := r.stop ≤ s.start ∨ s.stop ≤ r.start

/-- The first range lies in the second. -/
def Within (r s : Range) : Prop := s.start ≤ r.start ∧ r.stop ≤ s.stop

instance (r s : Range) : Decidable (r.Disjoint s) := inferInstanceAs (Decidable (_ ∨ _))

instance (r s : Range) : Decidable (r.Within s) := inferInstanceAs (Decidable (_ ∧ _))

/-- A part is apart from what the whole is apart from. -/
lemma Within.disjoint {r s t : Range} (h : r.Within s) (hdisjoint : s.Disjoint t) :
    r.Disjoint t := by
  obtain ⟨hstart, hstop⟩ := h
  rcases hdisjoint with h | h
  · exact .inl (Nat.le_trans hstop h)
  · exact .inr (Nat.le_trans h hstart)

end Range

/-- Ranges of these lengths, the first from `start` on and each where the one before ends. -/
def place : ℕ → List ℕ → List Range
  | _, [] => []
  | start, n :: ns => ⟨start, n⟩ :: place (start + n) ns

lemma sum_take_le (ns : List ℕ) (k : ℕ) : (ns.take k).sum ≤ ns.sum := by
  have h := congrArg List.sum (List.take_append_drop k ns)
  rw [List.sum_append] at h
  omega

@[simp] lemma length_place (start : ℕ) (ns : List ℕ) : (place start ns).length = ns.length := by
  induction ns generalizing start with
  | nil => rfl
  | cons n ns ih => simp [place, ih]

/-- Where the `k`-th range lies. -/
lemma getElem?_place (start : ℕ) (ns : List ℕ) (k : ℕ) :
    (place start ns)[k]? = ns[k]?.map fun n => ⟨start + (ns.take k).sum, n⟩ := by
  induction ns generalizing start k with
  | nil => simp [place]
  | cons n ns ih =>
      cases k with
      | zero => simp [place]
      | succ k => simp [place, ih, Nat.add_assoc]

lemma start_le_of_mem_place {start : ℕ} {ns : List ℕ} {r : Range} (h : r ∈ place start ns) :
    start ≤ r.start := by
  induction ns generalizing start with
  | nil => simp [place] at h
  | cons n ns ih =>
      rcases List.mem_cons.mp h with rfl | h
      · exact Nat.le_refl _
      · exact Nat.le_trans (Nat.le_add_right start n) (ih h)

/-- The ranges stay inside what their total length spans. -/
lemma within_of_mem_place {start : ℕ} {ns : List ℕ} {r : Range} (h : r ∈ place start ns) :
    r.Within ⟨start, ns.sum⟩ := by
  refine ⟨start_le_of_mem_place h, ?_⟩
  induction ns generalizing start with
  | nil => simp [place] at h
  | cons n ns ih =>
      simp only [Range.stop, List.sum_cons] at ih ⊢
      rcases List.mem_cons.mp h with rfl | h
      · dsimp only
        omega
      · have := ih h
        omega

/-- The ranges do not overlap. -/
lemma pairwise_disjoint_place (start : ℕ) (ns : List ℕ) :
    (place start ns).Pairwise Range.Disjoint := by
  induction ns generalizing start with
  | nil => exact .nil
  | cons n ns ih =>
      refine List.Pairwise.cons (fun r hr => ?_) (ih (start + n))
      exact .inl (start_le_of_mem_place hr)

/-- Each range starts where the one before ends. -/
lemma stop_eq_start_place {start : ℕ} {ns : List ℕ} {k : ℕ} {r s : Range}
    (hr : (place start ns)[k]? = some r) (hs : (place start ns)[k + 1]? = some s) :
    r.stop = s.start := by
  rw [getElem?_place] at hr hs
  obtain ⟨n, hn, rfl⟩ := Option.map_eq_some_iff.mp hr
  obtain ⟨m, hm, rfl⟩ := Option.map_eq_some_iff.mp hs
  have hsum : (ns.take (k + 1)).sum = (ns.take k).sum + n := by
    rw [List.take_add_one, hn, List.sum_append]
    simp
  simp only [Range.stop, hsum]
  omega

end Layout

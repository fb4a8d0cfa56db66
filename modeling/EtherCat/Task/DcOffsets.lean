import EtherCat.Foundation.HalfAverage
import EtherCat.Task.DcCompensation
import Mathlib.Data.Finset.Lattice.Fold
import Mathlib.Data.Int.ModEq
import Mathlib.Data.Nat.Find
import Mathlib.Order.Lattice.Nat

/-!
# The offsets of clocks that wrap around

Clocks of 32 bits run at the same rate, each with a phase of its own.  In every round the clocks
latch their times, and the distance to the latest of the times is averaged into the offset of each
clock.  If one clock is the latest in all rounds, times and offsets add up to the same for all
clocks, up to the rounding (`agree_of_latestKept`).  If a clock wraps around past the latest one
between two rounds, the distances change by `2 ^ 32`, and no average of the two has a meaning:
unless the clocks were next to each other from the beginning, they do not agree
(`latestKept_of_agree`).
-/

namespace EtherCat

namespace DcInitTask

/-- The time that a clock shows in a round. -/
def latched (phase time : ℕ → UInt32) (count i : ℕ) : ℕ := (phase i + time count).toNat

/-- The latest of the times of so many clocks in a round. -/
def latest (n : ℕ) (phase time : ℕ → UInt32) (count : ℕ) : ℕ :=
  (Finset.range n).sup (latched phase time count)

/-- The distance of a clock to the latest one in a round. -/
def distance (n : ℕ) (phase time : ℕ → UInt32) (i count : ℕ) : ℕ :=
  latest n phase time count - latched phase time count i

/-- The offset of a clock after so many rounds. -/
def offsetAfter (n : ℕ) (phase time : ℕ → UInt32) (rounds i : ℕ) : ℕ :=
  HalfAverage.after 0 (distance n phase time i) rounds

/-- Times and offsets add up to the same modulo `2 ^ 32`, up to two units. -/
def Agree (n : ℕ) (time offset : ℕ → ℕ) : Prop :=
  ∀ i < n, ∀ j < n, ∃ error : ℤ, error.natAbs ≤ 2 ∧
    ((time i + offset i : ℕ) : ℤ) - (time j + offset j : ℕ) ≡ error [ZMOD 2 ^ 32]

/-- One clock shows the latest time in all rounds. -/
def LatestKept (n : ℕ) (phase time : ℕ → UInt32) : Prop :=
  ∃ k < n, ∀ count < countMax, ∀ i < n, latched phase time count i ≤ latched phase time count k

/-- Clocks that are not in phase are at least `2 ^ 11` apart, either way around. -/
def FarApart (n : ℕ) (phase : ℕ → UInt32) : Prop :=
  ∀ i < n, ∀ j < n, phase i ≠ phase j → 2 ^ 11 ≤ (phase i - phase j).toNat

section

variable {n : ℕ} {phase time : ℕ → UInt32}

/-! ## Times of a round -/

lemma latched_le_latest {i : ℕ} (hi : i < n) (count : ℕ) :
    latched phase time count i ≤ latest n phase time count :=
  Finset.le_sup (f := latched phase time count) (Finset.mem_range.mpr hi)

/-- Some clock is the latest. -/
lemma exists_eq_latest (phase time : ℕ → UInt32) (hn : 0 < n) (count : ℕ) :
    ∃ k < n, latest n phase time count = latched phase time count k := by
  obtain ⟨k, hk, heq⟩ := Finset.exists_mem_eq_sup (Finset.range n)
    ⟨0, Finset.mem_range.mpr hn⟩ (latched phase time count)
  exact ⟨k, Finset.mem_range.mp hk, heq⟩

lemma latest_eq {k count : ℕ} (hk : k < n)
    (hlatest : ∀ i < n, latched phase time count i ≤ latched phase time count k) :
    latest n phase time count = latched phase time count k :=
  le_antisymm (Finset.sup_le fun i hi => hlatest i (Finset.mem_range.mp hi))
    (latched_le_latest hk count)

lemma latest_lt (phase time : ℕ → UInt32) (hn : 0 < n) (count : ℕ) :
    latest n phase time count < 2 ^ 32 := by
  obtain ⟨k, -, heq⟩ := exists_eq_latest phase time hn count
  rw [heq]
  exact UInt32.toNat_lt _

/-- The distance of two clocks is their distance in phase, in whichever round. -/
lemma latched_sub {i k count : ℕ}
    (h : latched phase time count i ≤ latched phase time count k) :
    latched phase time count k - latched phase time count i = (phase k - phase i).toNat := by
  have hsub : (phase k + time count) - (phase i + time count) = phase k - phase i := by grind
  rw [latched, latched, ← UInt32.toNat_sub_of_le _ _ (UInt32.le_iff_toNat_le.mpr h), hsub]

/-- Clocks that are not in phase are `2 ^ 32` apart, once around. -/
lemma toNat_sub_add_toNat_sub {a b : UInt32} (h : a ≠ b) :
    (a - b).toNat + (b - a).toNat = 2 ^ 32 := by
  have hne : a.toNat ≠ b.toNat := fun heq => h (UInt32.toNat_inj.mp heq)
  have ha := a.toNat_lt
  have hb := b.toNat_lt
  rw [UInt32.toNat_sub, UInt32.toNat_sub]
  omega

/-! ## One latest clock -/

/-- **One latest clock.**  Its time is the sum of time and offset of every clock. -/
theorem agree_of_latestKept (h : LatestKept n phase time) :
    Agree n (latched phase time (countMax - 1)) (offsetAfter n phase time countMax) := by
  obtain ⟨k, hk, hlatest⟩ := h
  have hsum : ∀ i < n,
      latched phase time (countMax - 1) i + offsetAfter n phase time countMax i ≤
          latched phase time (countMax - 1) k ∧
        latched phase time (countMax - 1) k ≤
          latched phase time (countMax - 1) i + offsetAfter n phase time countMax i + 1 := by
    intro i hi
    have hdistance : ∀ count < countMax,
        distance n phase time i count = (phase k - phase i).toNat := by
      intro count hcount
      rw [distance, latest_eq hk (hlatest count hcount), latched_sub (hlatest count hcount i hi)]
    have hoffset : offsetAfter n phase time countMax i =
        HalfAverage.after 0 (fun _ => (phase k - phase i).toNat) countMax :=
      HalfAverage.after_congr hdistance 0
    have hlast := hlatest (countMax - 1) (by decide) i hi
    have hsub := latched_sub hlast
    obtain ⟨hle, hge⟩ := HalfAverage.after_const (phase k - phase i).toNat
      (show 0 < countMax by decide)
    rw [hoffset]
    omega
  intro i hi j hj
  obtain ⟨hle, hge⟩ := hsum i hi
  obtain ⟨hle', hge'⟩ := hsum j hj
  exact ⟨_, by omega, Int.ModEq.refl _⟩

/-! ## Another latest clock -/

/-- **A wrap that is averaged.**  One clock was `behind` units behind another in one round and, the
other way around, `ahead` units ahead of it in all `m` rounds after that one.  Their sums of time
and offset then differ by more than two units modulo `2 ^ 32`. -/
lemma far_of_wrap {ahead behind a b m : ℕ} (hsum : ahead + behind = 2 ^ 32)
    (hahead : 2 ^ 11 ≤ ahead) (hbehind : 2 ^ 11 ≤ behind) (ha : a < 2 ^ 32) (hb : b < 2 ^ 32)
    (hm : 1 ≤ m) (hm' : m ≤ 7) :
    HalfAverage.after (b / 2) (fun _ => ahead) m + 3 ≤
        ahead + HalfAverage.after (HalfAverage.next a behind) (fun _ => 0) m ∧
      ahead + HalfAverage.after (HalfAverage.next a behind) (fun _ => 0) m + 3 ≤
        HalfAverage.after (b / 2) (fun _ => ahead) m + 2 ^ 32 := by
  have hlow := HalfAverage.half_le_next a behind
  have hhigh : HalfAverage.next a behind ≤ 2 ^ 32 - 1 := HalfAverage.next_le (by omega) (by omega)
  rw [HalfAverage.after_zero_measurements]
  rcases Nat.eq_zero_or_pos (b / 2) with hzero | hpos
  · obtain ⟨hle, hge⟩ := HalfAverage.after_const ahead hm
    rw [hzero]
    generalize HalfAverage.after 0 (fun _ => ahead) m = value at *
    generalize HalfAverage.next a behind = other at *
    have hm : m = 1 ∨ m = 2 ∨ m = 3 ∨ m = 4 ∨ m = 5 ∨ m = 6 ∨ m = 7 := by omega
    rcases hm with rfl | rfl | rfl | rfl | rfl | rfl | rfl <;> omega
  · obtain ⟨hle, hge⟩ := HalfAverage.after_const_of_pos hpos (show 2 ≤ ahead by omega) m
    generalize HalfAverage.after (b / 2) (fun _ => ahead) m = value at *
    generalize HalfAverage.next a behind = other at *
    have hm : m = 1 ∨ m = 2 ∨ m = 3 ∨ m = 4 ∨ m = 5 ∨ m = 6 ∨ m = 7 := by omega
    rcases hm with rfl | rfl | rfl | rfl | rfl | rfl | rfl <;> omega

/-- The last round in which a clock is not the latest. -/
lemma exists_last_round {k : ℕ}
    (h : ¬ ∀ count < countMax, ∀ i < n, latched phase time count i ≤ latched phase time count k) :
    ∃ count < countMax, (∃ i < n, latched phase time count k < latched phase time count i) ∧
      ∀ later, count < later → later < countMax → ∀ i < n,
        latched phase time later i ≤ latched phase time later k := by
  classical
  let Passed : ℕ → Prop := fun count =>
    ∃ i < n, latched phase time count k < latched phase time count i
  have hpassed : ∃ count ≤ countMax - 1, Passed count := by
    by_contra hnone
    refine h fun count hcount i hi => ?_
    by_contra hlt
    exact hnone ⟨count, by omega, i, hi, by omega⟩
  obtain ⟨count₀, hle, hcount₀⟩ := hpassed
  refine ⟨Nat.findGreatest Passed (countMax - 1), ?_, Nat.findGreatest_spec hle hcount₀, ?_⟩
  · have hbound := Nat.findGreatest_le (P := Passed) (countMax - 1)
    have hmax : 0 < countMax := by decide
    omega
  · intro later hlater hlt i hi
    have hnot := Nat.findGreatest_is_greatest hlater (by omega)
    by_contra hgt
    exact hnot ⟨i, hi, by omega⟩

/-- **Another latest clock.**  Clocks that are not next to each other agree only if one of them is
the latest in all rounds. -/
theorem latestKept_of_agree (hn : 0 < n) (hfar : FarApart n phase)
    (h : Agree n (latched phase time (countMax - 1)) (offsetAfter n phase time countMax)) :
    LatestKept n phase time := by
  obtain ⟨x, hx, hlatest⟩ := exists_eq_latest phase time hn (countMax - 1)
  refine ⟨x, hx, ?_⟩
  by_contra hnot
  obtain ⟨r, hr, ⟨i, hi, hlt⟩, hlater⟩ := exists_last_round hnot
  have hxlast : ∀ i < n, latched phase time (countMax - 1) i ≤
      latched phase time (countMax - 1) x := fun i hi => hlatest ▸ latched_le_latest hi _
  have hrlast : r < countMax - 1 := by
    rcases Nat.lt_or_eq_of_le (Nat.le_pred_of_lt hr) with hlt' | heq
    · exact hlt'
    · have hle := hxlast i hi
      rw [show countMax - 1 = r from heq.symm] at hle
      omega
  -- The latest clock of that round is behind in all rounds after it.
  obtain ⟨y, hy, hylatest⟩ := exists_eq_latest phase time hn r
  have hxy : latched phase time r x < latched phase time r y :=
    hlt.trans_le (hylatest ▸ latched_le_latest hi r)
  have hne : phase x ≠ phase y := by
    intro heq
    rw [latched, latched, heq] at hxy
    omega
  have hsum := toNat_sub_add_toNat_sub hne
  have hahead := hfar x hx y hy hne
  have hbehind := hfar y hy x hx hne.symm
  have hsplit : countMax = (r + 1) + (countMax - 1 - r) := by omega
  have hoffsetx : offsetAfter n phase time countMax x =
      HalfAverage.after (HalfAverage.next (offsetAfter n phase time r x) (phase y - phase x).toNat)
        (fun _ => 0) (countMax - 1 - r) := by
    have hround : distance n phase time x r = (phase y - phase x).toNat := by
      rw [distance, hylatest, latched_sub hxy.le]
    rw [offsetAfter, hsplit, HalfAverage.after_add, HalfAverage.after, hround, ← hsplit]
    refine HalfAverage.after_congr (fun count hcount => ?_) _
    rw [distance, latest_eq hx (hlater _ (by omega) (by omega)), Nat.sub_self]
  have hoffsety : offsetAfter n phase time countMax y =
      HalfAverage.after (offsetAfter n phase time r y / 2) (fun _ => (phase x - phase y).toNat)
        (countMax - 1 - r) := by
    have hround : distance n phase time y r = 0 := by rw [distance, hylatest, Nat.sub_self]
    rw [offsetAfter, hsplit, HalfAverage.after_add, HalfAverage.after, hround,
      HalfAverage.next_measured_zero, ← hsplit]
    refine HalfAverage.after_congr (fun count hcount => ?_) _
    have hle := hlater (r + 1 + count) (by omega) (by omega)
    rw [distance, latest_eq hx hle, latched_sub (hle y hy)]
  have hbound : ∀ i, offsetAfter n phase time r i < 2 ^ 32 := by
    intro i
    have hle : offsetAfter n phase time r i ≤ 2 ^ 32 - 1 :=
      HalfAverage.after_le (Nat.zero_le _) fun count _ => by
        have hlt := latest_lt phase time hn count
        rw [distance]
        omega
    omega
  obtain ⟨hlow, hhigh⟩ := far_of_wrap hsum hahead hbehind (hbound x) (hbound y)
    (show 1 ≤ countMax - 1 - r by omega) (show countMax - 1 - r ≤ 7 by rw [countMax]; omega)
  rw [← hoffsetx, ← hoffsety] at hlow hhigh
  have hdiff := latched_sub (hxlast y hy)
  have hle := hxlast y hy
  obtain ⟨error, herror, hmod⟩ := h x hx y hy
  rw [Int.ModEq] at hmod
  omega

end

end DcInitTask

end EtherCat

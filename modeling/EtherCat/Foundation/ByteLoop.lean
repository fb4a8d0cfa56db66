import EtherCat.Foundation.BitField

/-!
# Loops over the bytes of a slice

A loop that sets the bytes of a range one after another, each to a value that depends on the bytes
that are not set yet, leaves the values there and the rest as it was (`foldlM_set`).  The bits of the
values come from shifted and masked bytes.
-/

namespace Rust

open Exec

variable {α : Type}

/-! ## The loop -/

/-- A loop that returns has made its last turn. -/
lemma exists_last_of_foldlM {f : List α → ℕ → Exec (List α)} {n : ℕ} {s t : List α}
    (h : (List.range (n + 1)).foldlM f s = .ok t) : ∃ s', f s' n = .ok t := by
  rw [List.range_succ, List.foldlM_append] at h
  obtain ⟨s', -, hlast⟩ := bind_eq_ok.mp h
  rw [List.foldlM_cons] at hlast
  obtain ⟨t', ht, heq⟩ := bind_eq_ok.mp hlast
  cases heq
  exact ⟨s', ht⟩

/-- Turns that keep the length. -/
lemma length_of_foldlM {f : List α → ℕ → Exec (List α)}
    (hturn : ∀ s i t, f s i = .ok t → t.length = s.length) {is : List ℕ} {s t : List α}
    (h : is.foldlM f s = .ok t) : t.length = s.length := by
  induction is generalizing s with
  | nil =>
      cases h
      rfl
  | cons i is ih =>
      rw [List.foldlM_cons] at h
      obtain ⟨s', hs', h⟩ := bind_eq_ok.mp h
      rw [ih h, hturn s i s' hs']

/-- A loop returns if its turns return on slices of one length and keep that length. -/
lemma exists_foldlM_of_length {f : List α → ℕ → Exec (List α)} {is : List ℕ} {n : ℕ}
    (h : ∀ i ∈ is, ∀ s : List α, s.length = n → ∃ t, f s i = .ok t ∧ t.length = n)
    {s : List α} (hs : s.length = n) : ∃ t, is.foldlM f s = .ok t ∧ t.length = n := by
  induction is generalizing s with
  | nil => exact ⟨s, rfl, hs⟩
  | cons i is ih =>
      rw [List.forall_mem_cons] at h
      obtain ⟨s', hturn, hs'⟩ := h.1 s hs
      obtain ⟨t, hloop, ht⟩ := ih h.2 hs'
      exact ⟨t, by rw [List.foldlM_cons, hturn, ok_bind, hloop], ht⟩

/-- The items from `offset` on are set one after another. -/
lemma foldlM_set {f : List α → ℕ → Exec (List α)} {g : ℕ → α} {s : List α} {offset n : ℕ}
    (hle : offset + n ≤ s.length)
    (hturn : ∀ i < n, ∀ t : List α, t.length = s.length → t[offset + i]? = s[offset + i]? →
      f t i = .ok (t.set (offset + i) (g i))) :
    ∃ t, (List.range n).foldlM f s = .ok t ∧ t.length = s.length ∧
      ∀ j : ℕ, t[j]? = if offset ≤ j ∧ j < offset + n then some (g (j - offset)) else s[j]? := by
  induction n with
  | zero =>
      refine ⟨s, rfl, rfl, fun j => ?_⟩
      rw [if_neg (by omega)]
  | succ n ih =>
      obtain ⟨t, hloop, hlength, hget⟩ := ih (by omega) fun i hi => hturn i (by omega)
      have hkept : t[offset + n]? = s[offset + n]? := by
        rw [hget, if_neg (by omega)]
      have hlast := hturn n (by omega) t hlength hkept
      refine ⟨t.set (offset + n) (g n), ?_, by rw [List.length_set, hlength], fun j => ?_⟩
      · rw [List.range_succ, List.foldlM_append, hloop, ok_bind, List.foldlM_cons, hlast]
        rfl
      · rw [List.getElem?_set, hget]
        by_cases hj : offset + n = j
        · subst hj
          rw [if_pos rfl, if_pos (by omega), if_pos (by omega), Nat.add_sub_cancel_left]
        · rw [if_neg hj]
          by_cases hin : offset ≤ j ∧ j < offset + n
          · rw [if_pos hin, if_pos (by omega)]
          · rw [if_neg hin, if_neg (by omega)]

end Rust

namespace BitField

/-! ## Bits of shifted bytes -/

/-- Bit `t` of a byte. -/
def byteBit (byte : UInt8) (t : ℕ) : Bool := byte.toBitVec.getLsbD t

lemma bitAt_eq_byteBit (bs : List UInt8) (i : ℕ) {t : ℕ} (ht : t < 8) :
    bitAt bs (8 * i + t) = byteBit (bs.getD i 0) t := by
  rw [bitAt, show (8 * i + t) / 8 = i by omega, show (8 * i + t) % 8 = t by omega]
  rfl

@[simp] lemma byteBit_or (a b : UInt8) (t : ℕ) :
    byteBit (a ||| b) t = (byteBit a t || byteBit b t) := by
  simp [byteBit]

@[simp] lemma byteBit_and (a b : UInt8) (t : ℕ) :
    byteBit (a &&& b) t = (byteBit a t && byteBit b t) := by
  simp [byteBit]

@[simp] lemma byteBit_zero (t : ℕ) : byteBit 0 t = false := by
  simp [byteBit]

lemma byteBit_eq_testBit (byte : UInt8) (t : ℕ) : byteBit byte t = byte.toNat.testBit t := rfl

lemma byteBit_shiftLeft (byte : UInt8) {n t : ℕ} (hn : n < 8) (ht : t < 8) :
    byteBit (byte <<< UInt8.ofNat n) t = (decide (n ≤ t) && byteBit byte (t - n)) := by
  have hsmall : (UInt8.ofNat n).toNat % 8 = n := by
    rw [UInt8.toNat_ofNat']
    omega
  rw [byteBit_eq_testBit, UInt8.toNat_shiftLeft, hsmall, Nat.testBit_mod_two_pow,
    Nat.testBit_shiftLeft, byteBit_eq_testBit]
  simp [ht]

lemma byteBit_shiftRight (byte : UInt8) {n : ℕ} (hn : n < 8) (t : ℕ) :
    byteBit (byte >>> UInt8.ofNat n) t = byteBit byte (t + n) := by
  have hsmall : (UInt8.ofNat n).toNat % 8 = n := by
    rw [UInt8.toNat_ofNat']
    omega
  rw [byteBit_eq_testBit, UInt8.toNat_shiftRight, hsmall, Nat.testBit_shiftRight,
    byteBit_eq_testBit, Nat.add_comm]

lemma byteBit_of_le (byte : UInt8) {t : ℕ} (ht : 8 ≤ t) : byteBit byte t = false :=
  BitVec.getLsbD_of_ge _ _ ht

lemma byteBit_ones {t : ℕ} (ht : t < 8) : byteBit 0xFF t = true := by
  have hall : ∀ t < 8, byteBit 0xFF t = true := by decide
  exact hall t ht

end BitField

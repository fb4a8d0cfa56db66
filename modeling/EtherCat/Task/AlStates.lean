import EtherCat.Task.SlaveInitialize

/-!
# AL states behind a broadcast

The AL status that `AlStateTransferTask` sees is the bitwise or of the registers of all slaves
it asks.  States are told apart by their codes, and `InvalidOrMixed` stands for the codes that no
state has.  A mixture of states has such a code, with one exception: `Init` and `PreOperational`
together look like `Bootstrap` (`FalseBootstrap`).
-/

namespace EtherCat

open Rust Rust.Exec BitField CyclicTask

/-- The AL status register of a slave in a valid state. -/
structure AlStatusRegister where
  bytes : List UInt8
  length_bytes : bytes.length = AlStatus.size
  alState : AlState
  alState_ne : alState ≠ .invalidOrMixed
  state_bytes : AlStatus.state.val bytes = alState.toU8.toNat

/-- The register of a slave that reports no error. -/
def AlStatusRegister.ofAlState (alState : AlState) (h : alState ≠ .invalidOrMixed) :
    AlStatusRegister where
  bytes := [alState.toU8, 0, 0, 0, 0, 0]
  length_bytes := rfl
  alState := alState
  alState_ne := h
  state_bytes := by cases alState <;> decide +kernel

/-- What a broadcast read brings back. -/
def broadcast (registers : List AlStatusRegister) : List UInt8 :=
  registers.foldr (fun register data => orBytes register.bytes data)
    (List.replicate AlStatus.size 0)

/-- The slaves are in `Init`, `PreOperational` and `Bootstrap`, and not all of them in the same of
these states, nor all in `Bootstrap`. -/
structure FalseBootstrap (registers : List AlStatusRegister) : Prop where
  forall_mem : ∀ register ∈ registers, register.alState ∈ [.init, .preOperational, .bootstrap]
  exists_ne_init : ∃ register ∈ registers, register.alState ≠ .init
  exists_ne_preOperational : ∃ register ∈ registers, register.alState ≠ .preOperational
  exists_ne_bootstrap : ∃ register ∈ registers, register.alState ≠ .bootstrap

instance (registers : List AlStatusRegister) : Decidable (FalseBootstrap registers) :=
  decidable_of_iff
    ((∀ register ∈ registers, register.alState ∈ [.init, .preOperational, .bootstrap]) ∧
      (∃ register ∈ registers, register.alState ≠ .init) ∧
      (∃ register ∈ registers, register.alState ≠ .preOperational) ∧
      (∃ register ∈ registers, register.alState ≠ .bootstrap))
    ⟨fun ⟨h₁, h₂, h₃, h₄⟩ => ⟨h₁, h₂, h₃, h₄⟩, fun ⟨h₁, h₂, h₃, h₄⟩ => ⟨h₁, h₂, h₃, h₄⟩⟩

lemma length_broadcast (registers : List AlStatusRegister) :
    (broadcast registers).length = AlStatus.size := by
  induction registers with
  | nil => rfl
  | cons register registers ih =>
      rw [broadcast, List.foldr_cons, length_orBytes, register.length_bytes]
      exact Nat.min_eq_left ih.ge

lemma val_broadcast (registers : List AlStatusRegister) :
    AlStatus.state.val (broadcast registers) =
      orAll (registers.map fun register => register.alState.toU8.toNat) := by
  induction registers with
  | nil => decide
  | cons register registers ih =>
      have hlength : register.bytes.length = (broadcast registers).length := by
        rw [register.length_bytes, length_broadcast]
      rw [List.map_cons, orAll_cons, ← ih, ← register.state_bytes, ← Field.val_orBytes hlength]
      rfl

lemma AlState.ofU8_ofNat_eq_iff {v : ℕ} (hv : v < 16) {target : AlState}
    (htarget : target ≠ .invalidOrMixed) :
    AlState.ofU8 (.ofNat v) = target ↔ v = target.toU8.toNat := by
  revert v
  cases target with
  | invalidOrMixed => exact absurd rfl htarget
  | _ => decide

/-- The codes of all states but `Bootstrap` have a single bit. -/
lemma AlState.eq_of_or_eq {alState target : AlState} (halState : alState ≠ .invalidOrMixed)
    (htarget : target ≠ .invalidOrMixed) (hbootstrap : target ≠ .bootstrap)
    (h : alState.toU8.toNat ||| target.toU8.toNat = target.toU8.toNat) : alState = target := by
  revert h halState htarget hbootstrap
  cases alState <;> cases target <;> decide

lemma AlState.mem_of_or_eq_bootstrap {alState : AlState} (halState : alState ≠ .invalidOrMixed)
    (h : alState.toU8.toNat ||| AlState.bootstrap.toU8.toNat = AlState.bootstrap.toU8.toNat) :
    alState ∈ [.init, .preOperational, .bootstrap] := by
  revert h halState
  cases alState <;> decide

section
variable {registers : List AlStatusRegister}

lemma or_orAll_of_register {register : AlStatusRegister} (h : register ∈ registers) :
    register.alState.toU8.toNat |||
        orAll (registers.map fun register => register.alState.toU8.toNat) =
      orAll (registers.map fun register => register.alState.toU8.toNat) :=
  or_orAll_of_mem (List.mem_map_of_mem h)

lemma orAll_of_forall_eq {target : AlState} (hne : registers ≠ [])
    (h : ∀ register ∈ registers, register.alState = target) :
    orAll (registers.map fun register => register.alState.toU8.toNat) = target.toU8.toNat := by
  obtain ⟨register, hregister⟩ := List.exists_mem_of_ne_nil _ hne
  have hcovered : ∀ n ∈ registers.map fun register => register.alState.toU8.toNat,
      n ||| target.toU8.toNat = target.toU8.toNat := by
    simp only [List.forall_mem_map]
    intro register hregister
    rw [h register hregister, Nat.or_self]
  have hle := orAll_or_of_forall hcovered
  have hge := or_orAll_of_register hregister
  rw [h register hregister, Nat.or_comm, hle] at hge
  exact hge.symm

lemma FalseBootstrap.orAll_eq (h : FalseBootstrap registers) :
    orAll (registers.map fun register => register.alState.toU8.toNat) =
      AlState.bootstrap.toU8.toNat := by
  -- one of the slaves that are not in `Init` sets the second bit, ...
  have hsecond : 2 ||| orAll (registers.map fun register => register.alState.toU8.toNat) =
      orAll (registers.map fun register => register.alState.toU8.toNat) := by
    obtain ⟨register, hregister, hne⟩ := h.exists_ne_init
    have hbit : 2 ||| register.alState.toU8.toNat = register.alState.toU8.toNat := by
      have hmem := h.forall_mem register hregister
      revert hmem hne
      cases register.alState <;> decide
    rw [← or_orAll_of_register hregister, ← Nat.or_assoc, hbit]
  -- ... and one that is not in `PreOperational` the first
  have hfirst : 1 ||| orAll (registers.map fun register => register.alState.toU8.toNat) =
      orAll (registers.map fun register => register.alState.toU8.toNat) := by
    obtain ⟨register, hregister, hne⟩ := h.exists_ne_preOperational
    have hbit : 1 ||| register.alState.toU8.toNat = register.alState.toU8.toNat := by
      have hmem := h.forall_mem register hregister
      revert hmem hne
      cases register.alState <;> decide
    rw [← or_orAll_of_register hregister, ← Nat.or_assoc, hbit]
  have hcovered : ∀ n ∈ registers.map fun register => register.alState.toU8.toNat,
      n ||| AlState.bootstrap.toU8.toNat = AlState.bootstrap.toU8.toNat := by
    simp only [List.forall_mem_map]
    intro register hregister
    have hmem := h.forall_mem register hregister
    revert hmem
    cases register.alState <;> decide
  have hle := orAll_or_of_forall hcovered
  calc orAll (registers.map fun register => register.alState.toU8.toNat)
      = 1 ||| (2 ||| orAll (registers.map fun register => register.alState.toU8.toNat)) := by
        rw [hsecond, hfirst]
    _ = orAll (registers.map fun register => register.alState.toU8.toNat) ||| 3 := by
        rw [← Nat.or_assoc, Nat.or_comm]
        rfl
    _ = AlState.bootstrap.toU8.toNat := hle

/-- **What a broadcast tells.**  The response shows the code of a state exactly if there are
slaves and all of them are in that state, or if it shows a false `Bootstrap`. -/
theorem broadcast_eq_iff {target : AlState} (htarget : target ≠ .invalidOrMixed) :
    AlState.ofU8 (.ofNat (AlStatus.state.val (broadcast registers))) = target ↔
      registers ≠ [] ∧ (∀ register ∈ registers, register.alState = target) ∨
        target = .bootstrap ∧ FalseBootstrap registers := by
  rw [AlState.ofU8_ofNat_eq_iff (AlStatus.state.val_lt _) htarget, val_broadcast]
  constructor
  · intro hcode
    have hsub : ∀ register ∈ registers,
        register.alState.toU8.toNat ||| target.toU8.toNat = target.toU8.toNat := by
      intro register hregister
      rw [← hcode]
      exact or_orAll_of_register hregister
    have hne : registers ≠ [] := by
      rintro rfl
      revert hcode
      cases target <;> decide
    by_cases hall : ∀ register ∈ registers, register.alState = target
    · exact .inl ⟨hne, hall⟩
    · have hbootstrap : target = .bootstrap := by
        by_contra hbootstrap
        exact hall fun register hregister =>
          AlState.eq_of_or_eq register.alState_ne htarget hbootstrap (hsub register hregister)
      subst hbootstrap
      push Not at hall
      have hnot : ∀ other : AlState, other ≠ .bootstrap → other ≠ .invalidOrMixed →
          ∃ register ∈ registers, register.alState ≠ other := by
        intro other hother hvalid
        by_contra hnone
        push Not at hnone
        rw [orAll_of_forall_eq hne hnone] at hcode
        revert hcode hother hvalid
        cases other <;> decide
      exact .inr ⟨rfl, fun register hregister =>
        AlState.mem_of_or_eq_bootstrap register.alState_ne (hsub register hregister),
        hnot _ (by decide) (by decide), hnot _ (by decide) (by decide), hall⟩
  · rintro (⟨hne, hall⟩ | ⟨rfl, hfalse⟩)
    · exact orAll_of_forall_eq hne hall
    · exact hfalse.orAll_eq

end

end EtherCat

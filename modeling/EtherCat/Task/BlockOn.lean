import EtherCat.Foundation.Loop
import EtherCat.Task.AddressAccess

/-!
# Blocking calls

`block_on` polls the socket interface until a task is done.  Only a poll that moved every PDU
lets the task make a step and counts towards the timeout; a poll that has to wait is repeated.
-/

namespace EtherCat

open Rust Rust.Exec CyclicTask

/-- The variables of `block_on`: the interface, the task with its socket, and the count of the
steps that the task has made. -/
structure BlockOn (T D : Type) (N : ℕ) where
  sif : SocketInterface D N
  handle : ℕ
  unit : T
  count : ℕ

namespace BlockOn

variable {T D : Type} {N : ℕ}

/-- The start of a blocking call. -/
def new (sif : SocketInterface D N) (handle : ℕ) (unit : T) : BlockOn T D N := ⟨sif, handle, unit, 0⟩

variable [CyclicTask T] [RawEthernetDevice D]

/-- The body of the loop after a poll that moved every PDU. -/
def stepTask (E : Type) (b : BlockOn T D N) :
    Exec (Option (Except (TaskError E) Unit) × BlockOn T D N) := do
  let socket ← unwrap (b.sif.getSocket b.handle)
  let (unit, socket) ← processOneStep b.unit socket b.count
  let b := { b with sif := b.sif.modifySocket b.handle (fun _ => socket), unit := unit }
  if !isBusy unit then
    .ok (some (.ok ()), b)
  else if 100000 < b.count + 1 then
    .ok (some (.error .timeout), { b with count := b.count + 1 })
  else
    .ok (none, { b with count := b.count + 1 })

/-- The body of the loop. -/
def turn (E : Type) (b : BlockOn T D N) :
    Exec (Option (Except (TaskError E) Unit) × BlockOn T D N) := do
  let (polled, sif) ← b.sif.pollTxRx
  let b := { b with sif := sif }
  match polled with
  | .ok true => stepTask E b
  | .ok false => .ok (none, b)
  | .error .txNotAvailable => .ok (none, b)
  | .error .rxNotAvailable => .ok (none, b)
  | .error err => .ok (some (.error (.interface err)), b)

/-- The poll of this turn has to wait for the device. -/
def waiting (b : BlockOn T D N) : Bool :=
  match b.sif.pollTxRx with
  | .ok (.ok isOk, _) => !isOk
  | .ok (.error err, _) => err == .txNotAvailable || err == .rxNotAvailable
  | .error _ => false

/-! ## The task -/

section
variable {E : Type} {b b' : BlockOn T D N} {result : Option (Except (TaskError E) Unit)}
  {P : T → Prop}

/-- Only a turn that goes on leaves the task busy. -/
lemma unit_of_turn
    (hstep : ∀ unit unit' socket socket' time, isBusy unit = true → P unit →
      processOneStep unit socket time = .ok (unit', socket') → P unit')
    (hbusy : isBusy b.unit = true) (hunit : P b.unit) (h : turn E b = .ok (result, b')) :
    P b'.unit ∧ (result = none → isBusy b'.unit = true) := by
  obtain ⟨⟨polled, sif⟩, -, h⟩ := bind_eq_ok.mp h
  rcases polled with e | isOk
  · cases e <;>
      · cases h
        exact ⟨hunit, fun _ => hbusy⟩
  cases isOk with
  | false =>
      cases h
      exact ⟨hunit, fun _ => hbusy⟩
  | true =>
      obtain ⟨socket, -, h⟩ := bind_eq_ok.mp h
      obtain ⟨⟨unit, socket'⟩, hprocess, h⟩ := bind_eq_ok.mp h
      have hnext : P unit := hstep _ _ _ _ _ hbusy hunit hprocess
      dsimp only at h
      split at h
      · cases h
        exact ⟨hnext, by rintro ⟨⟩⟩
      next hbusy' =>
        split at h
        · cases h
          exact ⟨hnext, by rintro ⟨⟩⟩
        · cases h
          exact ⟨hnext, fun _ => by simpa using hbusy'⟩

/-- What the steps of the task keep, the blocking call keeps. -/
lemma unit_of_turns
    (hstep : ∀ unit unit' socket socket' time, isBusy unit = true → P unit →
      processOneStep unit socket time = .ok (unit', socket') → P unit')
    (hbusy : isBusy b.unit = true) (hunit : P b.unit) {n : ℕ}
    (h : Loop.turns (turn E) n b = .ok (result, b')) : P b'.unit := by
  induction n generalizing b with
  | zero =>
      cases h
      exact hunit
  | succ n ih =>
      rw [Loop.turns] at h
      rcases hturn : b.turn E with e | ⟨_ | r, b₁⟩
      · rw [hturn] at h
        cases h
      · rw [hturn] at h
        obtain ⟨hunit₁, hbusy₁⟩ := unit_of_turn hstep hbusy hunit hturn
        exact ih (hbusy₁ rfl) hunit₁ h
      · rw [hturn] at h
        cases h
        exact (unit_of_turn hstep hbusy hunit hturn).1

end

/-! ## How often the interface is polled -/

/-- The steps that the task may still make. -/
def stepsLeft (b : BlockOn T D N) : ℕ := 100000 - b.count

omit [RawEthernetDevice D] in
lemma count_of_stepTask {E : Type} {b b' : BlockOn T D N} (h : stepTask E b = .ok (none, b')) :
    b'.count = b.count + 1 ∧ b'.count ≤ 100000 := by
  obtain ⟨socket, -, h⟩ := bind_eq_ok.mp h
  obtain ⟨⟨unit, socket'⟩, -, h⟩ := bind_eq_ok.mp h
  dsimp only at h
  split at h
  · cases h
  · split at h
    · cases h
    · next hcount =>
        cases h
        exact ⟨rfl, Nat.not_lt.mp hcount⟩

/-- **What a turn that goes on does to the count.** -/
lemma count_of_turn {E : Type} {b b' : BlockOn T D N} (h : turn E b = .ok (none, b')) :
    if b.waiting then b'.count = b.count else b'.count = b.count + 1 ∧ b'.count ≤ 100000 := by
  obtain ⟨⟨polled, sif⟩, hpoll, h⟩ := bind_eq_ok.mp h
  unfold waiting
  rw [hpoll]
  rcases polled with err | isOk
  · cases err <;> cases h <;> rfl
  · cases isOk
    · cases h
      rfl
    · have hcount := count_of_stepTask (b := { b with sif := sif }) h
      exact hcount

/-- **When blocking calls are bounded.**  For every task type, device type and set of calls: the
calls return within a number of polls that is the same for all of them exactly if none panics and
a common number bounds the polls in which they have to wait. -/
theorem turn_bounded_iff (E : Type) (calls : Set (SocketInterface D N × ℕ × T)) :
    (∃ n, ∀ c ∈ calls, Loop.Returns (turn E) n (new c.1 c.2.1 c.2.2)) ↔
      ∃ bound, ∀ c ∈ calls, ∀ k,
        ¬ Loop.Fails (turn E) k (new c.1 c.2.1 c.2.2) ∧
          Loop.waits (turn E) waiting k (new c.1 c.2.1 c.2.2) ≤ bound := by
  have hwait : ∀ b b' : BlockOn T D N, b.turn E = .ok (none, b') → b.waiting = true →
      b'.stepsLeft ≤ b.stepsLeft := by
    intro b b' hturn hwaiting
    have hcount := count_of_turn hturn
    rw [if_pos hwaiting] at hcount
    rw [stepsLeft, stepsLeft, hcount]
  have hmove : ∀ b b' : BlockOn T D N, b.turn E = .ok (none, b') → b.waiting = false →
      b'.stepsLeft < b.stepsLeft := by
    intro b b' hturn hwaiting
    have hcount := count_of_turn hturn
    rw [hwaiting, if_neg Bool.false_ne_true] at hcount
    rw [stepsLeft, stepsLeft]
    omega
  have htop : ∀ b ∈ (fun c : SocketInterface D N × ℕ × T => new c.1 c.2.1 c.2.2) '' calls,
      b.stepsLeft ≤ 100000 := fun b _ => Nat.sub_le _ _
  simpa only [Set.forall_mem_image] using Loop.exists_bound_iff stepsLeft hwait hmove htop

end BlockOn

/-! ## A device that returns no frame -/

/-- A segment whose frames are lost: every frame is sent and none comes back. -/
structure Silent where
  deriving DecidableEq, Repr

instance : RawEthernetDevice Silent where
  transmit _ := .some fun len => .filled (List.replicate len 0) fun _ => (.ok (), ⟨⟩)
  receive _ := .none ⟨⟩

deriving instance DecidableEq for PduInterface
deriving instance DecidableEq for SocketInterface
deriving instance DecidableEq for BlockOn

namespace Silent

/-- An interface with one socket of four bytes. -/
def sif : SocketInterface Silent 1 where
  iface := .new ⟨⟩ (List.replicate 64 0)
  socketSet := ⟨1, #v[.exist (.new [0, 0, 0, 0])]⟩

/-- `read_register` of the AL status of the first slave. -/
def readRegister : BlockOn AddressAccessTask Silent 1 :=
  .new sif 0 (AddressAccessTask.new.startToRead .default 0x130 2)

/-- The state after a turn, if there is one. -/
def after (b : BlockOn AddressAccessTask Silent 1) : BlockOn AddressAccessTask Silent 1 :=
  match b.turn Unit with
  | .ok (none, b') => b'
  | _ => b

end Silent

/-- **A lost frame.**  The first turn puts the request into the socket, the second sends it, and
from then on every poll finds no frame to receive and leaves everything as it was. -/
theorem BlockOn.turn_never_returns :
    ¬ ∃ n, Loop.Returns (BlockOn.turn Unit) n Silent.readRegister := by
  have hfirst : Silent.readRegister.turn Unit = .ok (none, Silent.after Silent.readRegister) := by
    decide +kernel
  have hsecond : (Silent.after Silent.readRegister).turn Unit =
      .ok (none, Silent.after (Silent.after Silent.readRegister)) := by
    decide +kernel
  have hfixed : (Silent.after (Silent.after Silent.readRegister)).turn Unit =
      .ok (none, Silent.after (Silent.after Silent.readRegister)) := by
    decide +kernel
  rintro ⟨n, hreturns⟩
  revert hreturns
  apply Loop.not_returns_of_next hfirst
  apply Loop.not_returns_of_next hsecond
  exact Loop.not_returns_of_fixed hfixed

end EtherCat

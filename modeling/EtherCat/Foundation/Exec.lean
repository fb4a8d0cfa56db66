import Mathlib.Data.List.Forall2
import Mathlib.Data.Nat.Bitwise

/-!
# Computations that may panic

The programs embedded in this development abort on an index outside a slice, on an
arithmetic operator that leaves its type, on `unwrap` of an absent value and on a failed
assertion.  `Exec α` is such a computation: it either returns a value or names the panic.

Arithmetic is the checked arithmetic of a build with overflow checks: a subtraction below
zero is a panic, not a wrapped value.

The lemmas are the inversion rules the later modules use: `bind_eq_ok` peels one step off a
computation that is known to return, and each primitive has one `_eq_ok_iff` lemma that says
when it returns and what.
-/

namespace Rust

/-- The ways an expression can abort. -/
inductive Panic
  /-- An index or a slice bound outside the slice. -/
  | index
  /-- A checked arithmetic operator left its type. -/
  | arithmetic
  /-- `copy_from_slice` between slices of different lengths. -/
  | lengthMismatch
  /-- `unwrap` or `expect` on `None` or `Err`. -/
  | unwrap
  /-- A failed `assert!`. -/
  | assertion
  /-- `panic!`, `unreachable!`, `unimplemented!`. -/
  | explicit
  deriving DecidableEq, Repr

/-- A computation that returns a value or panics. -/
abbrev Exec (α : Type*) := Except Panic α

namespace Exec

universe u

variable {α β : Type u}

/-- A sequence returns exactly when its first step returns and the rest returns from there. -/
lemma bind_eq_ok {x : Exec α} {f : α → Exec β} {b : β} :
    (x >>= f) = .ok b ↔ ∃ a, x = .ok a ∧ f a = .ok b := by
  rcases x with e | a <;> simp [Bind.bind, Except.bind]

@[simp] lemma ok_bind (a : α) (f : α → Exec β) : (Except.ok a >>= f) = f a := rfl

@[simp] lemma error_bind (e : Panic) (f : α → Exec β) :
    ((Except.error e : Exec α) >>= f) = .error e := rfl

lemma bind_eq_error {x : Exec α} {f : α → Exec β} {e : Panic} :
    (x >>= f) = .error e ↔ x = .error e ∨ ∃ a, x = .ok a ∧ f a = .error e := by
  rcases x with e' | a <;> simp [Bind.bind, Except.bind]

@[simp] lemma pure_eq (a : α) : (pure a : Exec α) = .ok a := rfl

/-- The value `a` if `p` holds, and otherwise the panic `e`. -/
def check (p : Prop) [Decidable p] (e : Panic) (a : α) : Exec α :=
  if p then .ok a else .error e

lemma check_eq_ok_iff {p : Prop} [Decidable p] {e : Panic} {a b : α} :
    check p e a = .ok b ↔ p ∧ b = a := by
  by_cases hp : p
  · simp [check, hp, eq_comm]
  · simp [check, hp]

@[simp] lemma check_of {p : Prop} [Decidable p] {e : Panic} {a : α} (hp : p) :
    check p e a = .ok a := if_pos hp

/-- Checked subtraction. -/
def sub (a b : ℕ) : Exec ℕ := check (b ≤ a) .arithmetic (a - b)

lemma sub_eq_ok_iff {a b c : ℕ} : sub a b = .ok c ↔ b ≤ a ∧ c = a - b := check_eq_ok_iff

@[simp] lemma sub_of_le {a b : ℕ} (h : b ≤ a) : sub a b = .ok (a - b) := check_of h

/-- Checked addition in the unsigned type with `2 ^ bits` values. -/
def addUpTo (bits a b : ℕ) : Exec ℕ := check (a + b < 2 ^ bits) .arithmetic (a + b)

lemma addUpTo_eq_ok_iff {bits a b c : ℕ} :
    addUpTo bits a b = .ok c ↔ a + b < 2 ^ bits ∧ c = a + b := check_eq_ok_iff

/-- Checked multiplication in the unsigned type with `2 ^ bits` values. -/
def mulUpTo (bits a b : ℕ) : Exec ℕ := check (a * b < 2 ^ bits) .arithmetic (a * b)

lemma mulUpTo_eq_ok_iff {bits a b c : ℕ} :
    mulUpTo bits a b = .ok c ↔ a * b < 2 ^ bits ∧ c = a * b := check_eq_ok_iff

/-- `unwrap` and `expect` of an `Option`. -/
def unwrap : Option α → Exec α
  | some a => .ok a
  | none => .error .unwrap

@[simp] lemma unwrap_some (a : α) : unwrap (some a) = .ok a := rfl

lemma unwrap_eq_ok_iff {o : Option α} {a : α} : unwrap o = .ok a ↔ o = some a := by
  cases o with
  | none => simp [unwrap]
  | some b => simp [unwrap]

/-- `assert!`. -/
def assert (p : Prop) [Decidable p] : Exec Unit := check p .assertion ()

lemma assert_eq_ok_iff {p : Prop} [Decidable p] {u : Unit} : assert p = .ok u ↔ p := by
  simp [assert, check_eq_ok_iff]

/-- A loop that maps a list returns exactly when every item does. -/
lemma mapM_eq_ok_iff {f : α → Exec β} {as : List α} {bs : List β} :
    as.mapM f = .ok bs ↔ List.Forall₂ (fun a b => f a = .ok b) as bs := by
  induction as generalizing bs with
  | nil => simp [List.forall₂_nil_left_iff, eq_comm]
  | cons a as ih =>
      simp only [List.mapM_cons, bind_eq_ok, ih, List.forall₂_cons_left_iff, pure_eq]
      constructor
      · rintro ⟨b, hb, bs', hbs', heq⟩
        exact ⟨b, bs', hb, hbs', (Except.ok.inj heq).symm⟩
      · rintro ⟨b, bs', hb, hbs', rfl⟩
        exact ⟨b, hb, bs', hbs', rfl⟩

/-- Such a loop returns something exactly when every item does. -/
lemma exists_mapM_eq_ok_iff {f : α → Exec β} {as : List α} :
    (∃ bs, as.mapM f = .ok bs) ↔ ∀ a ∈ as, ∃ b, f a = .ok b := by
  simp only [mapM_eq_ok_iff]
  induction as with
  | nil => simp
  | cons a as ih => simp [List.forall₂_cons_left_iff, ← ih]

/-- A loop returns if every turn of it returns. -/
lemma exists_foldlM_eq_ok {f : β → α → Exec β} {as : List α}
    (h : ∀ a ∈ as, ∀ b, ∃ b', f b a = .ok b') (b : β) : ∃ b', as.foldlM f b = .ok b' := by
  induction as generalizing b with
  | nil => exact ⟨b, rfl⟩
  | cons a as ih =>
      obtain ⟨b', hb'⟩ := h a List.mem_cons_self b
      obtain ⟨b'', hb''⟩ := ih (fun a ha => h a (List.mem_cons_of_mem _ ha)) b'
      exact ⟨b'', by rw [List.foldlM_cons, hb', ok_bind, hb'']⟩

end Exec

end Rust

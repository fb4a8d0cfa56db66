import EtherCat.Foundation.Exec

/-!
# Iterators

An iterator is a state with a `next` function that yields an item and the next state, or stops,
or panics.  A `for` loop is a fold over the items.

`Yields` is the meaning of such a loop without fuel: the items the iterator yields until it
stops.  `collect` computes them with fuel, and `collect_eq_ok_iff` says that the fuel does not
matter once it exceeds a measure that every yielded item decreases.
-/

namespace Rust

universe u

variable {σ α : Type u}

/-- The items of an iterator, at most `fuel` of them. -/
def collect (next : σ → Exec (Option (α × σ))) : ℕ → σ → Exec (List α)
  | 0, _ => .ok []
  | fuel + 1, s => do
    match ← next s with
    | none => .ok []
    | some (a, s') => do
      let rest ← collect next fuel s'
      .ok (a :: rest)

/-- From `s` on the iterator yields exactly these items and stops. -/
inductive Yields (next : σ → Exec (Option (α × σ))) : σ → List α → Prop
  | stop {s : σ} : next s = .ok none → Yields next s []
  | item {s s' : σ} {a : α} {as : List α} :
      next s = .ok (some (a, s')) → Yields next s' as → Yields next s (a :: as)

section
variable {next : σ → Exec (Option (α × σ))}

lemma collect_succ_of_none {s : σ} (fuel : ℕ) (h : next s = .ok none) :
    collect next (fuel + 1) s = .ok [] := by
  simp [collect, h]

lemma collect_succ_of_some {s s' : σ} {a : α} (fuel : ℕ) (h : next s = .ok (some (a, s'))) :
    collect next (fuel + 1) s = (collect next fuel s').bind fun rest => .ok (a :: rest) := by
  simp only [collect, h, Exec.ok_bind]
  rfl

/-- **The fuel is enough.**  If every yielded item decreases a measure, `collect` with more fuel
than the measure computes the items the iterator yields. -/
theorem collect_eq_ok_iff (μ : σ → ℕ)
    (hμ : ∀ s a s', next s = .ok (some (a, s')) → μ s' < μ s) {s : σ} {as : List α} {fuel : ℕ}
    (hfuel : μ s < fuel) : collect next fuel s = .ok as ↔ Yields next s as := by
  induction fuel generalizing s as with
  | zero => exact absurd hfuel (Nat.not_lt_zero _)
  | succ fuel ih =>
      constructor
      · intro h
        unfold collect at h
        obtain ⟨o, hnext, hrest⟩ := Exec.bind_eq_ok.mp h
        rcases o with _ | ⟨a, s'⟩
        · cases hrest
          exact .stop hnext
        · obtain ⟨rest, hcollect, heq⟩ := Exec.bind_eq_ok.mp hrest
          cases heq
          exact .item hnext ((ih (by have := hμ s a s' hnext; omega)).mp hcollect)
      · intro h
        cases h with
        | stop hnext => exact collect_succ_of_none _ hnext
        | item hnext hrest =>
            rw [collect_succ_of_some _ hnext,
              (ih (by have := hμ _ _ _ hnext; omega)).mpr hrest]
            rfl

/-- What every yielded item satisfies. -/
lemma Yields.forall_mem {P : α → Prop} {s : σ} {as : List α} (h : Yields next s as)
    (hP : ∀ s a s', next s = .ok (some (a, s')) → P a) : ∀ a ∈ as, P a := by
  induction h with
  | stop => simp
  | item hnext _ ih => simpa using ⟨hP _ _ _ hnext, ih⟩

end

/-! ## Loops that change what the iterator walks over -/

section
variable {τ ρ ω : Type u}

/-- The item and the next state, or nothing at the end. -/
def untilNone (next : σ → Exec (Option α × σ)) (s : σ) : Exec (Option (α × σ)) := do
  let (item, s) ← next s
  .ok (item.map fun a => (a, s))

/-- A `for` loop whose body gets hold of the iterator's state. -/
def forEach (next : σ → Exec (Option α × σ)) (body : α → σ × τ → Exec (σ × τ)) :
    ℕ → σ × τ → Exec (σ × τ)
  | 0, st => .ok st
  | fuel + 1, (s, t) => do
    let (item, s) ← next s
    match item with
    | none => .ok (s, t)
    | some a => do
      let st ← body a (s, t)
      forEach next body fuel st

variable {next : σ → Exec (Option α × σ)} {body : α → σ × τ → Exec (σ × τ)}

/-- If every item decreases a measure and the body does not increase it, the fuel does not matter
once it exceeds the measure. -/
theorem forEach_eq_of_lt (μ : σ → ℕ)
    (hnext : ∀ s a s', next s = .ok (some a, s') → μ s' < μ s)
    (hbody : ∀ a s t s' t', body a (s, t) = .ok (s', t') → μ s' ≤ μ s) {fuel fuel' : ℕ} {s : σ}
    {t : τ} (h : μ s < fuel) (h' : μ s < fuel') :
    forEach next body fuel (s, t) = forEach next body fuel' (s, t) := by
  induction fuel generalizing fuel' s t with
  | zero => exact absurd h (Nat.not_lt_zero _)
  | succ fuel ih =>
      obtain ⟨fuel', rfl⟩ : ∃ n, fuel' = n + 1 := ⟨fuel' - 1, by omega⟩
      unfold forEach
      rcases hitem : next s with e | ⟨_ | a, s'⟩
      · rfl
      · rfl
      · simp only [Exec.ok_bind]
        rcases hst : body a (s', t) with e | ⟨s'', t'⟩
        · rfl
        · have hdecreases := hnext s a s' hitem
          have hkeeps := hbody a s' t s'' t' hst
          exact ih (by omega) (by omega)

/-- What neither the iterator nor the body changes, the loop does not change. -/
lemma forEach_frame (frame : σ → ρ)
    (hnext : ∀ s o s', next s = .ok (o, s') → frame s' = frame s)
    (hbody : ∀ a s t s' t', body a (s, t) = .ok (s', t') → frame s' = frame s) {fuel : ℕ} {s s' : σ}
    {t t' : τ} (h : forEach next body fuel (s, t) = .ok (s', t')) : frame s' = frame s := by
  induction fuel generalizing s t with
  | zero =>
      cases h
      rfl
  | succ fuel ih =>
      obtain ⟨⟨item, s₁⟩, hitem, hrest⟩ := Exec.bind_eq_ok.mp h
      have hs₁ := hnext _ _ _ hitem
      rcases item with _ | a
      · cases hrest
        exact hs₁
      · obtain ⟨⟨s₂, t₂⟩, hrun, hloop⟩ := Exec.bind_eq_ok.mp hrest
        rw [ih hloop, hbody _ _ _ _ _ hrun, hs₁]

/-- Two iterators in step yield the same items. -/
theorem yields_iff_of_follows {next : σ → Exec (Option (α × σ))} {walk : ω → Exec (Option (α × ω))}
    (Rel : σ → ω → Prop)
    (hitem : ∀ s w a w', Rel s w → walk w = .ok (some (a, w')) →
      ∃ s', next s = .ok (some (a, s')) ∧ Rel s' w')
    (hstop : ∀ s w, Rel s w → walk w = .ok none → next s = .ok none)
    (herror : ∀ s w e, Rel s w → walk w = .error e → ∃ e', next s = .error e') {s : σ} {w : ω}
    {items : List α} (hrel : Rel s w) : Yields next s items ↔ Yields walk w items := by
  constructor
  · intro h
    induction h generalizing w with
    | stop hnext =>
        rcases hw : walk w with e | _ | ⟨a, w'⟩
        · obtain ⟨e', he'⟩ := herror _ _ _ hrel hw
          cases hnext.symm.trans he'
        · exact .stop hw
        · obtain ⟨s', hs', -⟩ := hitem _ _ _ _ hrel hw
          cases hnext.symm.trans hs'
    | item hnext _ ih =>
        rcases hw : walk w with e | _ | ⟨a, w'⟩
        · obtain ⟨e', he'⟩ := herror _ _ _ hrel hw
          cases hnext.symm.trans he'
        · cases hnext.symm.trans (hstop _ _ hrel hw)
        · obtain ⟨s', hs', hrel'⟩ := hitem _ _ _ _ hrel hw
          cases hnext.symm.trans hs'
          exact .item hw (ih hrel')
  · intro h
    induction h generalizing s with
    | stop hw => exact .stop (hstop _ _ hrel hw)
    | item hw _ ih =>
        obtain ⟨s', hs', hrel'⟩ := hitem _ _ _ _ hrel hw
        exact .item hs' (ih hrel')

/-- **The loop rule.**  If the iterator follows a walk that yields `items`, and the body keeps it
on the walk and changes what is seen of the state by `f`, the loop returns with the fold of `f`
over `items`. -/
theorem forEach_eq_foldl (Rel : σ → ω → Prop) (walk : ω → Exec (Option (α × ω))) (view : σ × τ → ρ)
    (f : ρ → α → ρ)
    (hitem : ∀ s w a w', Rel s w → walk w = .ok (some (a, w')) →
      ∃ s', next s = .ok (some a, s') ∧ Rel s' w' ∧ ∀ t, view (s', t) = view (s, t))
    (hstop : ∀ s w, Rel s w → walk w = .ok none →
      ∃ s', next s = .ok (none, s') ∧ ∀ t, view (s', t) = view (s, t))
    (hbody : ∀ s t w a w', walk w = .ok (some (a, w')) → Rel s w' →
      ∃ s' t', body a (s, t) = .ok (s', t') ∧ Rel s' w' ∧ view (s', t') = f (view (s, t)) a)
    {w : ω} {items : List α} (hyields : Yields walk w items) {s : σ} (hrel : Rel s w) (t : τ)
    {fuel : ℕ} (hfuel : items.length < fuel) :
    ∃ s' t', forEach next body fuel (s, t) = .ok (s', t') ∧
      view (s', t') = items.foldl f (view (s, t)) := by
  obtain ⟨fuel, rfl⟩ : ∃ n, fuel = n + 1 := ⟨fuel - 1, by omega⟩
  induction hyields generalizing s t fuel with
  | stop hwalk =>
      obtain ⟨s', hnext, hview⟩ := hstop _ _ hrel hwalk
      exact ⟨s', t, by simp [forEach, hnext], hview t⟩
  | item hwalk _ ih =>
      obtain ⟨s₁, hnext, hrel₁, hview₁⟩ := hitem _ _ _ _ hrel hwalk
      obtain ⟨s₂, t₂, hrun, hrel₂, hview₂⟩ := hbody s₁ t _ _ _ hwalk hrel₁
      obtain ⟨fuel, rfl⟩ : ∃ n, fuel = n + 1 :=
        ⟨fuel - 1, by rw [List.length_cons] at hfuel; omega⟩
      obtain ⟨s', t', hloop, hview⟩ := ih hrel₂ t₂ fuel (by rw [List.length_cons] at hfuel; omega)
      refine ⟨s', t', ?_, ?_⟩
      · rw [forEach, hnext, Exec.ok_bind]
        simp only [hrun, Exec.ok_bind]
        exact hloop
      · rw [hview, hview₂, hview₁, List.foldl_cons]

/-- **A loop that returns has come to the end.**  If the iterator follows a walk on which every
item decreases a measure, and the body keeps it on the walk, the walk yields some items and
stops. -/
theorem exists_yields_of_forEach (Rel : σ → ω → Prop) (walk : ω → Exec (Option (α × ω))) (μ : ω → ℕ)
    (hμ : ∀ w a w', walk w = .ok (some (a, w')) → μ w' < μ w)
    (hitem : ∀ s w a w', Rel s w → walk w = .ok (some (a, w')) →
      ∃ s', next s = .ok (some a, s') ∧ Rel s' w')
    (herror : ∀ s w e, Rel s w → walk w = .error e → ∃ e', next s = .error e')
    (hbody : ∀ a s t s' t' w, body a (s, t) = .ok (s', t') → Rel s w → Rel s' w)
    {fuel : ℕ} {s : σ} {t : τ} {st : σ × τ} {w : ω} (hrel : Rel s w) (hfuel : μ w < fuel)
    (h : forEach next body fuel (s, t) = .ok st) : ∃ items, Yields walk w items := by
  induction fuel generalizing s t w with
  | zero => exact absurd hfuel (Nat.not_lt_zero _)
  | succ fuel ih =>
      rcases hwalk : walk w with e | _ | ⟨a, w'⟩
      · obtain ⟨e', hnext⟩ := herror s w e hrel hwalk
        rw [forEach, hnext] at h
        cases h
      · exact ⟨[], .stop hwalk⟩
      · obtain ⟨s', hnext, hrel'⟩ := hitem s w a w' hrel hwalk
        rw [forEach, hnext, Exec.ok_bind] at h
        obtain ⟨⟨s'', t''⟩, hrun, hloop⟩ := Exec.bind_eq_ok.mp h
        have hdecreases := hμ w a w' hwalk
        obtain ⟨items, hyields⟩ := ih (hbody a s' t s'' t'' w' hrun hrel') (by omega) hloop
        exact ⟨a :: items, .item hwalk hyields⟩

end

end Rust

import EtherCat.Foundation.Exec

/-!
# Programs that ask their environment

A program computes, and from time to time it asks its environment for something and goes on with
the answer.  `Program Op Answer α` is such a program as a tree: one branch for every answer.  It
returns, panics, or is cut off in a loop that is not followed any further.

An environment is a function that answers from its state (`run`); `asked` are the questions it is
asked.  `Ensures P Q` is the rule for all environments at once: every question satisfies `P` and
every value returned satisfies `Q`.

`Method` is a program with a state that it changes in place and with errors that it returns early.
-/

namespace Rust

/-- A program that returns a value of the type `α`. -/
inductive Program (Op : Type) (Answer : Op → Type) (α : Type) : Type
  | ret (a : α)
  /-- The program panics. -/
  | fail (e : Panic)
  /-- A loop that is not followed any further. -/
  | cut
  | ask (op : Op) (k : Answer op → Program Op Answer α)

/-- How a run ends. -/
inductive Outcome (α : Type)
  | returned (a : α)
  | panicked (e : Panic)
  | cut
  deriving DecidableEq, Repr

/-- The run has returned, and no error. -/
def Outcome.isOk {E α S : Type} : Outcome (Except E α × S) → Bool
  | returned (.ok _, _) => true
  | _ => false

namespace Program

variable {Op : Type} {Answer : Op → Type} {σ α β : Type}

/-- One program after another. -/
def bind : Program Op Answer α → (α → Program Op Answer β) → Program Op Answer β
  | ret a, f => f a
  | fail e, _ => fail e
  | cut, _ => cut
  | ask op k, f => ask op fun answer => (k answer).bind f

instance : Monad (Program Op Answer) where
  pure := ret
  bind := bind

@[simp] lemma pure_eq (a : α) : (pure a : Program Op Answer α) = ret a := rfl

@[simp] lemma ret_bind (a : α) (f : α → Program Op Answer β) : (ret a >>= f) = f a := rfl

@[simp] lemma fail_bind (e : Panic) (f : α → Program Op Answer β) :
    ((fail e : Program Op Answer α) >>= f) = fail e := rfl

@[simp] lemma cut_bind (f : α → Program Op Answer β) :
    ((cut : Program Op Answer α) >>= f) = cut := rfl

@[simp] lemma ask_bind (op : Op) (k : Answer op → Program Op Answer α)
    (f : α → Program Op Answer β) : (ask op k >>= f) = ask op fun answer => k answer >>= f := rfl

lemma bind_assoc {γ : Type} (p : Program Op Answer α) (f : α → Program Op Answer β)
    (g : β → Program Op Answer γ) : (p >>= f) >>= g = p >>= fun a => f a >>= g := by
  induction p with
  | ret a => rfl
  | fail e => rfl
  | cut => rfl
  | ask op k ih =>
      rw [ask_bind, ask_bind, ask_bind]
      exact congrArg (ask op) (funext ih)

/-- A computation without questions. -/
def ofExec : Exec α → Program Op Answer α
  | .ok a => ret a
  | .error e => fail e

/-! ## Runs -/

/-- The run of a program in an environment. -/
def run (h : σ → (op : Op) → Answer op × σ) : Program Op Answer α → σ → Outcome α × σ
  | ret a, w => (.returned a, w)
  | fail e, w => (.panicked e, w)
  | cut, w => (.cut, w)
  | ask op k, w => (k (h w op).1).run h (h w op).2

/-- The questions of a run, in order. -/
def asked (h : σ → (op : Op) → Answer op × σ) : Program Op Answer α → σ → List Op
  | ask op k, w => op :: (k (h w op).1).asked h (h w op).2
  | _, _ => []

variable {h : σ → (op : Op) → Answer op × σ}

lemma run_bind_of_returned {p : Program Op Answer α} {w w' : σ} {a : α}
    (hp : p.run h w = (.returned a, w')) (f : α → Program Op Answer β) :
    (p >>= f).run h w = (f a).run h w' := by
  induction p generalizing w with
  | ret b =>
      cases hp
      rfl
  | fail e => cases hp
  | cut => cases hp
  | ask op k ih => exact ih _ hp

lemma run_bind_of_panicked {p : Program Op Answer α} {w w' : σ} {e : Panic}
    (hp : p.run h w = (.panicked e, w')) (f : α → Program Op Answer β) :
    (p >>= f).run h w = (.panicked e, w') := by
  induction p generalizing w with
  | ret b => cases hp
  | fail e' =>
      cases hp
      rfl
  | cut => cases hp
  | ask op k ih => exact ih _ hp

lemma asked_bind_of_returned {p : Program Op Answer α} {w w' : σ} {a : α}
    (hp : p.run h w = (.returned a, w')) (f : α → Program Op Answer β) :
    (p >>= f).asked h w = p.asked h w ++ (f a).asked h w' := by
  induction p generalizing w with
  | ret b =>
      cases hp
      rfl
  | fail e => cases hp
  | cut => cases hp
  | ask op k ih => exact congrArg (op :: ·) (ih _ hp)

/-- What the first part asks is asked. -/
lemma asked_prefix_bind (p : Program Op Answer α) (f : α → Program Op Answer β) (w : σ) :
    p.asked h w <+: (p >>= f).asked h w := by
  induction p generalizing w with
  | ret b => exact List.nil_prefix
  | fail e => exact List.nil_prefix
  | cut => exact List.nil_prefix
  | ask op k ih => exact (List.prefix_cons_inj op).mpr (ih _ _)

@[simp] lemma run_ofExec_ok (a : α) (w : σ) :
    (ofExec (.ok a) : Program Op Answer α).run h w = (.returned a, w) := rfl

@[simp] lemma run_ofExec_error (e : Panic) (w : σ) :
    (ofExec (.error e) : Program Op Answer α).run h w = (.panicked e, w) := rfl

/-! ## Environments that fail -/

/-- The run of a program in an environment that may panic or give no answer. -/
def exec (h : σ → (op : Op) → Exec (Option (Answer op) × σ)) :
    Program Op Answer α → σ → Exec (Option α × σ)
  | ret a, w => .ok (some a, w)
  | fail e, _ => .error e
  | cut, w => .ok (none, w)
  | ask op k, w => do
    match ← h w op with
    | (none, w) => .ok (none, w)
    | (some answer, w) => (k answer).exec h w

/-- **What each answer does** to the environment, a run does. -/
theorem exec_related (h : σ → (op : Op) → Exec (Option (Answer op) × σ)) (R : σ → σ → Prop)
    (hrefl : ∀ w, R w w) (htrans : ∀ w w' w'', R w w' → R w' w'' → R w w'')
    (hanswer : ∀ w op answer w', h w op = .ok (answer, w') → R w w')
    {p : Program Op Answer α} {w w' : σ} {a : Option α} (hrun : p.exec h w = .ok (a, w')) :
    R w w' := by
  induction p generalizing w with
  | ret b =>
      cases hrun
      exact hrefl _
  | fail e => cases hrun
  | cut =>
      cases hrun
      exact hrefl _
  | ask op k ih =>
      rw [exec] at hrun
      obtain ⟨⟨answer, w₁⟩, hop, hrun⟩ := Exec.bind_eq_ok.mp hrun
      have hfirst := hanswer w op answer w₁ hop
      rcases answer with _ | answer
      · cases hrun
        exact hfirst
      · exact htrans w w₁ w' hfirst (ih answer hrun)

/-! ## All environments at once -/

/-- Whatever the answers are, every question satisfies `P` and every value returned `Q`. -/
def Ensures (P : Op → Prop) (Q : α → Prop) : Program Op Answer α → Prop
  | ret a => Q a
  | fail _ => True
  | cut => True
  | ask op k => P op ∧ ∀ answer, (k answer).Ensures P Q

variable {P : Op → Prop} {Q R : α → Prop}

lemma Ensures.mono {p : Program Op Answer α} (hp : p.Ensures P Q) (hQ : ∀ a, Q a → R a) :
    p.Ensures P R := by
  induction p with
  | ret a => exact hQ a hp
  | fail e => trivial
  | cut => trivial
  | ask op k ih => exact ⟨hp.1, fun answer => ih answer (hp.2 answer)⟩

lemma Ensures.bind {S : β → Prop} {p : Program Op Answer α} {f : α → Program Op Answer β}
    (hp : p.Ensures P Q) (hf : ∀ a, Q a → (f a).Ensures P S) : (p >>= f).Ensures P S := by
  induction p with
  | ret a => exact hf a hp
  | fail e => trivial
  | cut => trivial
  | ask op k ih => exact ⟨hp.1, fun answer => ih answer (hp.2 answer)⟩

lemma ensures_ofExec {x : Exec α} (hx : ∀ a, x = .ok a → Q a) :
    (ofExec x : Program Op Answer α).Ensures P Q := by
  cases x with
  | ok a => exact hx a rfl
  | error e => trivial

/-- The questions of every run satisfy `P`. -/
theorem Ensures.of_mem_asked {p : Program Op Answer α} (hp : p.Ensures P Q) {w : σ} {op : Op}
    (hop : op ∈ p.asked h w) : P op := by
  induction p generalizing w with
  | ret a => cases hop
  | fail e => cases hop
  | cut => cases hop
  | ask op' k ih =>
      rcases List.mem_cons.mp hop with rfl | hop
      · exact hp.1
      · exact ih _ (hp.2 _) hop

/-- The values that runs return satisfy `Q`. -/
theorem Ensures.of_returned {p : Program Op Answer α} (hp : p.Ensures P Q) {w w' : σ} {a : α}
    (hrun : p.run h w = (.returned a, w')) : Q a := by
  induction p generalizing w with
  | ret b =>
      cases hrun
      exact hp
  | fail e => cases hrun
  | cut => cases hrun
  | ask op k ih => exact ih _ (hp.2 _) hrun

/-- The values that are returned in an environment that may fail satisfy `Q`. -/
theorem Ensures.of_exec {h : σ → (op : Op) → Exec (Option (Answer op) × σ)}
    {p : Program Op Answer α} (hp : p.Ensures P Q) {w w' : σ} {a : α}
    (hrun : p.exec h w = .ok (some a, w')) : Q a := by
  induction p generalizing w with
  | ret b =>
      cases hrun
      exact hp
  | fail e => cases hrun
  | cut => cases hrun
  | ask op k ih =>
      rw [exec] at hrun
      obtain ⟨⟨_ | answer, w₁⟩, -, hrest⟩ := Exec.bind_eq_ok.mp hrun
      · cases hrest
      · exact ih answer (hp.2 answer) hrest

/-! ## Scripts

A program that follows a script asks a fixed list of questions, one after another.  At the first
answer that is not good it stops. -/

/-- The program asks nothing more, and what it returns satisfies `R`. -/
def Stops (R : α → Prop) : Program Op Answer α → Prop
  | ret a => R a
  | fail _ => True
  | _ => False

variable {good : (op : Op) → Answer op → Prop}

/-- The program asks `ops`.  It returns a value that satisfies `Q`, or after an answer that is not
good it returns one that satisfies `R`. -/
def Script (good : (op : Op) → Answer op → Prop) (Q R : α → Prop) :
    List Op → Program Op Answer α → Prop
  | ops, ret a => ops = [] ∧ Q a
  | ops, ask op k => ∃ rest, ops = op :: rest ∧ ∀ answer,
      (good op answer → Script good Q R rest (k answer)) ∧
        (¬ good op answer → (k answer).Stops R)
  | _, _ => False

lemma Stops.bind {S : β → Prop} {p : Program Op Answer α} {f : α → Program Op Answer β}
    (hp : p.Stops R) (hf : ∀ a, R a → (f a).Stops S) : (p >>= f).Stops S := by
  cases p with
  | ret a => exact hf a hp
  | fail e => trivial
  | cut => cases hp
  | ask op k => cases hp

lemma Script.bind {T U : β → Prop} {ops ops' : List Op} {p : Program Op Answer α}
    {f : α → Program Op Answer β} (hp : Script good Q R ops p)
    (hf : ∀ a, Q a → Script good T U ops' (f a)) (hstop : ∀ a, R a → (f a).Stops U) :
    Script good T U (ops ++ ops') (p >>= f) := by
  induction p generalizing ops with
  | ret a =>
      obtain ⟨rfl, hQ⟩ := hp
      exact hf a hQ
  | fail e => cases hp
  | cut => cases hp
  | ask op k ih =>
      obtain ⟨rest, rfl, hk⟩ := hp
      refine ⟨rest ++ ops', rfl, fun answer => ⟨fun hgood => ?_, fun hbad => ?_⟩⟩
      · exact ih answer ((hk answer).1 hgood)
      · exact ((hk answer).2 hbad).bind hstop

lemma Stops.asked {p : Program Op Answer α} (hp : p.Stops R) (w : σ) : p.asked h w = [] := by
  cases p with
  | ret a => rfl
  | fail e => rfl
  | cut => rfl
  | ask op k => cases hp

lemma Stops.of_returned {p : Program Op Answer α} (hp : p.Stops R) {w w' : σ} {a : α}
    (hrun : p.run h w = (.returned a, w')) : R a := by
  cases p with
  | ret b =>
      cases hrun
      exact hp
  | fail e => cases hrun
  | cut => cases hp
  | ask op k => cases hp

/-- A run gets through a part of the script, and through all of it if it does not stop early. -/
lemma Script.asked {ops : List Op} {p : Program Op Answer α} (hp : Script good Q R ops p) (w : σ) :
    p.asked h w <+: ops ∧ ∀ a w', p.run h w = (.returned a, w') →
      p.asked h w = ops ∧ Q a ∨ R a := by
  induction p generalizing ops w with
  | ret b =>
      obtain ⟨rfl, hQ⟩ := hp
      refine ⟨List.prefix_refl _, fun a w' hrun => .inl ⟨rfl, ?_⟩⟩
      cases hrun
      exact hQ
  | fail e => cases hp
  | cut => cases hp
  | ask op k ih =>
      obtain ⟨rest, rfl, hk⟩ := hp
      by_cases hgood : good op (h w op).1
      · obtain ⟨hinitial, hreturned⟩ := ih _ ((hk _).1 hgood) (h w op).2
        refine ⟨(List.prefix_cons_inj op).mpr hinitial, fun a w' hrun => ?_⟩
        rcases hreturned a w' hrun with ⟨hall, hQ⟩ | hR
        · exact .inl ⟨congrArg (op :: ·) hall, hQ⟩
        · exact .inr hR
      · have hstops := (hk _).2 hgood
        refine ⟨?_, fun a w' hrun => .inr (hstops.of_returned hrun)⟩
        rw [Program.asked, hstops.asked]
        exact (List.prefix_cons_inj op).mpr List.nil_prefix

/-- If the answers to its questions are good, the script is followed to its end. -/
lemma Script.run_of_good {ops : List Op} {p : Program Op Answer α} (hp : Script good Q R ops p)
    (hgood : ∀ op ∈ ops, ∀ w, good op (h w op).1) (w : σ) :
    ∃ a w', p.run h w = (.returned a, w') ∧ Q a ∧ p.asked h w = ops := by
  induction p generalizing ops w with
  | ret b => exact ⟨b, w, rfl, hp.2, hp.1.symm⟩
  | fail e => cases hp
  | cut => cases hp
  | ask op k ih =>
      obtain ⟨rest, rfl, hk⟩ := hp
      have hrest := (hk _).1 (hgood op (List.mem_cons_self ..) w)
      obtain ⟨a, w', hrun, hQ, hasked⟩ :=
        ih _ hrest (fun op hop => hgood op (List.mem_cons_of_mem _ hop)) (h w op).2
      exact ⟨a, w', hrun, hQ, congrArg (op :: ·) hasked⟩

end Program

/-! ## Methods -/

/-- A program with the state `S`, which it keeps when it returns an error of the type `E` early. -/
def Method (Op : Type) (Answer : Op → Type) (S E α : Type) : Type :=
  S → Program Op Answer (Except E α × S)

namespace Method

variable {Op : Type} {Answer : Op → Type} {σ S E α β : Type}

/-- The rest of a method after a part of it. -/
def continueWith (f : α → Method Op Answer S E β) :
    Except E α × S → Program Op Answer (Except E β × S)
  | (.ok a, s) => f a s
  | (.error e, s) => .ret (.error e, s)

instance : Monad (Method Op Answer S E) where
  pure a s := .ret (.ok a, s)
  bind m f s := m s >>= continueWith f

/-- `Err`. -/
def throw (e : E) : Method Op Answer S E α := fun s => .ret (.error e, s)

/-- The state. -/
def get : Method Op Answer S E S := fun s => .ret (.ok s, s)

/-- A change of the state. -/
def modify (f : S → S) : Method Op Answer S E Unit := fun s => .ret (.ok (), f s)

/-- A computation that asks nothing. -/
def ofExec (x : Exec α) : Method Op Answer S E α := fun s => Program.ofExec x >>= fun a =>
  .ret (.ok a, s)

/-- The end of the fuel. -/
def cut : Method Op Answer S E α := fun _ => .cut

/-- A method of a part of the state. -/
def zoom {T : Type} (part : S → T) (put : T → S → S) (m : Method Op Answer T E α) :
    Method Op Answer S E α := fun s => do
  let (result, t) ← m (part s)
  .ret (result, put t s)

/-- A question to the environment. -/
def ask (op : Op) : Method Op Answer S E (Answer op) := fun s =>
  .ask op fun answer => .ret (.ok answer, s)

lemma bind_apply (m : Method Op Answer S E α) (f : α → Method Op Answer S E β) (s : S) :
    (m >>= f) s = m s >>= continueWith f := rfl

lemma bind_assoc {γ : Type} (m : Method Op Answer S E α) (f : α → Method Op Answer S E β)
    (g : β → Method Op Answer S E γ) : (m >>= f) >>= g = m >>= fun a => f a >>= g := by
  funext s
  rw [bind_apply, bind_apply, bind_apply, Program.bind_assoc]
  congr 1
  funext r
  rcases r with ⟨e | a, s'⟩
  · rfl
  · rfl

@[simp] lemma pure_apply (a : α) (s : S) : (pure a : Method Op Answer S E α) s = .ret (.ok a, s) :=
  rfl

/-! ## Methods that follow a script -/

variable {good : (op : Op) → Answer op → Prop}

/-- The method asks `ops` and returns `a` in the state `s'`, or after an answer that is not good it
returns an error or panics. -/
def Follows (good : (op : Op) → Answer op → Prop) (m : Method Op Answer S E α) (s : S)
    (ops : List Op) (a : α) (s' : S) : Prop :=
  Program.Script good (fun r => r = (.ok a, s')) (fun r => ∃ e, r.1 = .error e) ops (m s)

lemma follows_pure (a : α) (s : S) :
    Follows good (pure a : Method Op Answer S E α) s [] a s := ⟨rfl, rfl⟩

lemma follows_get (s : S) : Follows good (get : Method Op Answer S E S) s [] s s := ⟨rfl, rfl⟩

lemma follows_modify (f : S → S) (s : S) :
    Follows good (modify f : Method Op Answer S E Unit) s [] () (f s) := ⟨rfl, rfl⟩

lemma follows_ofExec {x : Exec α} {a : α} (hx : x = .ok a) (s : S) :
    Follows good (ofExec x : Method Op Answer S E α) s [] a s := by
  subst hx
  exact ⟨rfl, rfl⟩

lemma Follows.bind {m : Method Op Answer S E α} {f : α → Method Op Answer S E β} {s s' s'' : S}
    {ops ops' : List Op} {a : α} {b : β} (hm : Follows good m s ops a s')
    (hf : Follows good (f a) s' ops' b s'') : Follows good (m >>= f) s (ops ++ ops') b s'' := by
  refine Program.Script.bind hm (fun r hr => ?_) (fun r hr => ?_)
  · subst hr
    exact hf
  · obtain ⟨result, t⟩ := r
    obtain ⟨e, rfl⟩ : ∃ e, result = .error e := hr
    exact ⟨e, rfl⟩

/-- A part without questions in front. -/
lemma Follows.bind_nil {m : Method Op Answer S E α} {f : α → Method Op Answer S E β}
    {s s' s'' : S} {ops : List Op} {a : α} {b : β} (hm : Follows good m s [] a s')
    (hf : Follows good (f a) s' ops b s'') : Follows good (m >>= f) s ops b s'' := hm.bind hf

/-! ## What methods keep -/

section Keeps

variable {P : Op → Prop} {I : S → Prop} {Q : α → Prop} {R : β → Prop}

/-- Whatever the answers are, every question satisfies `P`, the state keeps `I`, and every value
returned satisfies `Q`. -/
def Keeps (P : Op → Prop) (I : S → Prop) (Q : α → Prop) (m : Method Op Answer S E α) : Prop :=
  ∀ s, I s → (m s).Ensures P fun r => I r.2 ∧ ∀ a, r.1 = .ok a → Q a

lemma keeps_pure {a : α} (ha : Q a) : Keeps P I Q (pure a : Method Op Answer S E α) :=
  fun _ hs => ⟨hs, fun _ h => by
    cases h
    exact ha⟩

lemma keeps_throw (e : E) : Keeps P I Q (throw e : Method Op Answer S E α) :=
  fun _ hs => ⟨hs, fun _ h => by cases h⟩

lemma keeps_cut : Keeps P I Q (cut : Method Op Answer S E α) := fun _ _ => trivial

lemma keeps_get : Keeps P I I (get : Method Op Answer S E S) :=
  fun _ hs => ⟨hs, fun _ h => by
    cases h
    exact hs⟩

lemma keeps_modify {f : S → S} (hf : ∀ s, I s → I (f s)) :
    Keeps P I (fun _ => True) (modify f : Method Op Answer S E Unit) :=
  fun s hs => ⟨hf s hs, fun _ _ => trivial⟩

lemma keeps_ofExec {x : Exec α} (hx : ∀ a, x = .ok a → Q a) :
    Keeps P I Q (ofExec x : Method Op Answer S E α) := by
  intro s hs
  refine Program.Ensures.bind (Program.ensures_ofExec hx) (fun a ha => ⟨hs, fun b h => ?_⟩)
  cases h
  exact ha

lemma keeps_ask {op : Op} (hop : P op) :
    Keeps P I (fun _ => True) (ask op : Method Op Answer S E (Answer op)) :=
  fun _ hs => ⟨hop, fun _ => ⟨hs, fun _ _ => trivial⟩⟩

lemma Keeps.bind {m : Method Op Answer S E α} {f : α → Method Op Answer S E β}
    (hm : Keeps P I Q m) (hf : ∀ a, Q a → Keeps P I R (f a)) : Keeps P I R (m >>= f) := by
  intro s hs
  refine Program.Ensures.bind (hm s hs) ?_
  rintro ⟨result, s'⟩ ⟨hs', hresult⟩
  cases result with
  | ok a => exact hf a (hresult a rfl) s' hs'
  | error e => exact ⟨hs', fun b h => by cases h⟩

/-- A first part about whose value nothing is said. -/
lemma Keeps.bind_any {m : Method Op Answer S E α} {f : α → Method Op Answer S E β}
    (hm : Keeps P I (fun _ => True) m) (hf : ∀ a, Keeps P I R (f a)) : Keeps P I R (m >>= f) :=
  hm.bind fun a _ => hf a

lemma Keeps.zoom {T : Type} {part : S → T} {put : T → S → S} {J : T → Prop}
    {m : Method Op Answer T E α} (hm : Keeps P J Q m) (hpart : ∀ s, I s → J (part s))
    (hput : ∀ t s, I s → J t → I (put t s)) : Keeps P I Q (zoom part put m) := by
  intro s hs
  refine Program.Ensures.bind (hm (part s) (hpart s hs)) ?_
  rintro ⟨result, t⟩ ⟨ht, hresult⟩
  exact ⟨hput t s hs ht, hresult⟩

end Keeps

/-! ## Runs that return -/

section Returns

variable {h : σ → (op : Op) → Answer op × σ}

/-- In the environment `h` in the state `w`, the method asks `ops` and returns `a`.  The state is
then `s'` and that of the environment `w'`. -/
def Returns (h : σ → (op : Op) → Answer op × σ) (m : Method Op Answer S E α) (s : S) (w : σ)
    (ops : List Op) (a : α) (s' : S) (w' : σ) : Prop :=
  (m s).run h w = (.returned (.ok a, s'), w') ∧ (m s).asked h w = ops

lemma returns_pure (a : α) (s : S) (w : σ) :
    Returns h (pure a : Method Op Answer S E α) s w [] a s w := ⟨rfl, rfl⟩

lemma returns_get (s : S) (w : σ) : Returns h (get : Method Op Answer S E S) s w [] s s w :=
  ⟨rfl, rfl⟩

lemma returns_modify (f : S → S) (s : S) (w : σ) :
    Returns h (modify f : Method Op Answer S E Unit) s w [] () (f s) w := ⟨rfl, rfl⟩

lemma returns_ofExec {x : Exec α} {a : α} (hx : x = .ok a) (s : S) (w : σ) :
    Returns h (ofExec x : Method Op Answer S E α) s w [] a s w := by
  subst hx
  exact ⟨rfl, rfl⟩

lemma returns_ask {op : Op} {w w' : σ} {answer : Answer op} (hop : h w op = (answer, w')) (s : S) :
    Returns h (ask op : Method Op Answer S E (Answer op)) s w [op] answer s w' := by
  constructor
  · simp [ask, Program.run, hop]
  · rfl

lemma Returns.bind {m : Method Op Answer S E α} {f : α → Method Op Answer S E β} {s s' s'' : S}
    {w w' w'' : σ} {ops ops' : List Op} {a : α} {b : β} (hm : Returns h m s w ops a s' w')
    (hf : Returns h (f a) s' w' ops' b s'' w'') :
    Returns h (m >>= f) s w (ops ++ ops') b s'' w'' := by
  obtain ⟨hrun, hasked⟩ := hm
  constructor
  · rw [bind_apply, Program.run_bind_of_returned hrun]
    exact hf.1
  · rw [bind_apply, Program.asked_bind_of_returned hrun, hasked]
    exact congrArg (ops ++ ·) hf.2

/-- A part without questions in front. -/
lemma Returns.bind_nil {m : Method Op Answer S E α} {f : α → Method Op Answer S E β} {s s' s'' : S}
    {w w' w'' : σ} {ops : List Op} {a : α} {b : β} (hm : Returns h m s w [] a s' w')
    (hf : Returns h (f a) s' w' ops b s'' w'') : Returns h (m >>= f) s w ops b s'' w'' :=
  hm.bind hf

lemma Returns.zoom {T : Type} {part : S → T} {put : T → S → S} {m : Method Op Answer T E α} {s : S}
    {t : T} {w w' : σ} {ops : List Op} {a : α} (hm : Returns h m (part s) w ops a t w') :
    Returns h (zoom part put m) s w ops a (put t s) w' := by
  obtain ⟨hrun, hasked⟩ := hm
  constructor
  · rw [Method.zoom, Program.run_bind_of_returned hrun]
    rfl
  · rw [Method.zoom, Program.asked_bind_of_returned hrun, hasked]
    exact List.append_nil ops

/-- A run ends in one way. -/
lemma Returns.unique {m : Method Op Answer S E α} {s s' s'' : S} {w w' w'' : σ}
    {ops ops' : List Op} {a b : α} (ha : Returns h m s w ops a s' w')
    (hb : Returns h m s w ops' b s'' w'') : ops = ops' ∧ a = b ∧ s' = s'' ∧ w' = w'' := by
  obtain ⟨hrun, hasked⟩ := ha
  obtain ⟨hrun', hasked'⟩ := hb
  rw [hrun] at hrun'
  cases hrun'
  exact ⟨hasked.symm.trans hasked', rfl, rfl, rfl⟩

/-- The method panics. -/
def Panics (h : σ → (op : Op) → Answer op × σ) (m : Method Op Answer S E α) (s : S) (w : σ) :
    Prop :=
  ∃ e w', (m s).run h w = (.panicked e, w')

lemma panics_ofExec {x : Exec α} {e : Panic} (hx : x = .error e) (s : S) (w : σ) :
    Panics h (ofExec x : Method Op Answer S E α) s w := by
  subst hx
  exact ⟨e, w, rfl⟩

lemma Panics.bind {m : Method Op Answer S E α} {s : S} {w : σ} (hm : Panics h m s w)
    (f : α → Method Op Answer S E β) : Panics h (m >>= f) s w := by
  obtain ⟨e, w', hrun⟩ := hm
  exact ⟨e, w', Program.run_bind_of_panicked hrun _⟩

lemma Panics.zoom {T : Type} {part : S → T} {put : T → S → S} {m : Method Op Answer T E α} {s : S}
    {w : σ} (hm : Panics h m (part s) w) : Panics h (Method.zoom part put m) s w := by
  obtain ⟨e, w', hrun⟩ := hm
  exact ⟨e, w', Program.run_bind_of_panicked hrun _⟩

lemma Returns.bind_panics {m : Method Op Answer S E α} {f : α → Method Op Answer S E β} {s s' : S}
    {w w' : σ} {ops : List Op} {a : α} (hm : Returns h m s w ops a s' w')
    (hf : Panics h (f a) s' w') : Panics h (m >>= f) s w := by
  obtain ⟨e, w'', hrun⟩ := hf
  refine ⟨e, w'', ?_⟩
  rw [bind_apply, Program.run_bind_of_returned hm.1]
  exact hrun

/-- The method returns an error early. -/
def Throws (h : σ → (op : Op) → Answer op × σ) (m : Method Op Answer S E α) (s : S) (w : σ) :
    Prop :=
  ∃ e s' w', (m s).run h w = (.returned (.error e, s'), w')

lemma throws_throw (e : E) (s : S) (w : σ) :
    Throws h (throw e : Method Op Answer S E α) s w := ⟨e, s, w, rfl⟩

lemma Throws.bind {m : Method Op Answer S E α} {s : S} {w : σ} (hm : Throws h m s w)
    (f : α → Method Op Answer S E β) : Throws h (m >>= f) s w := by
  obtain ⟨e, s', w', hrun⟩ := hm
  refine ⟨e, s', w', ?_⟩
  rw [bind_apply, Program.run_bind_of_returned hrun]
  rfl

lemma Returns.bind_throws {m : Method Op Answer S E α} {f : α → Method Op Answer S E β} {s s' : S}
    {w w' : σ} {ops : List Op} {a : α} (hm : Returns h m s w ops a s' w')
    (hf : Throws h (f a) s' w') : Throws h (m >>= f) s w := by
  obtain ⟨e, s'', w'', hrun⟩ := hf
  refine ⟨e, s'', w'', ?_⟩
  rw [bind_apply, Program.run_bind_of_returned hm.1]
  exact hrun

/-- A script whose questions get good answers. -/
lemma Follows.returns {good : (op : Op) → Answer op → Prop} {m : Method Op Answer S E α} {s s' : S}
    {ops : List Op} {a : α} (hm : Follows good m s ops a s')
    (hgood : ∀ op ∈ ops, ∀ w, good op (h w op).1) (w : σ) : ∃ w', Returns h m s w ops a s' w' := by
  obtain ⟨_, w', hrun, rfl, hasked⟩ := Program.Script.run_of_good hm hgood w
  exact ⟨w', hrun, hasked⟩

lemma Panics.not_returns {m : Method Op Answer S E α} {s s' : S} {w w' : σ} {ops : List Op} {a : α}
    (hm : Panics h m s w) : ¬ Returns h m s w ops a s' w' := by
  rintro ⟨hrun', -⟩
  obtain ⟨e, w'', hrun⟩ := hm
  rw [hrun] at hrun'
  cases hrun'

end Returns

end Method

end Rust

import EtherCat.Foundation.Bytes
import EtherCat.Foundation.Iterator
import Mathlib.Data.List.Chain
import Mathlib.Logic.Function.Basic

/-!
# Tours of a tree with numbered ports

A tree whose nodes have numbered ports: one towards the parent, by which the node is entered, and
one for each child.  The nodes are numbered in the order in which a depth-first walk first
reaches them.  `tour` lists the ports by which the complete walk enters the nodes, `parents` the
parent of each node with the port on which the parent was entered last before.

A `Walk` tries to make this tour with a position and a cursor for each node, and no stack: it
goes to the next node by adding one to the position and back by subtracting one.  It makes the
complete tour exactly on lines (`Walk.yields_tour_iff`).  A visitor that notes where it was last
computes the parents from every complete tour (`Visit.parent_foldl_tour`).
-/

namespace Tour

open Rust

/-- The branches of a node from some port on: the port, the port by which the child is entered,
the branches of the child, and the branches behind the later ports of the node. -/
inductive Branches
  | done
  | branch (port entry : ℕ) (below rest : Branches)
  deriving DecidableEq, Repr

namespace Branches

/-- The number of nodes in the branches. -/
def size : Branches → ℕ
  | done => 0
  | branch _ _ below rest => 1 + below.size + rest.size

/-- The ports that lead to children. -/
def ports : Branches → List ℕ
  | done => []
  | branch port _ _ rest => port :: rest.ports

/-- The ports of every node in the branches, in the order of the numbering. -/
def nodes : Branches → List (List ℕ)
  | done => []
  | branch _ entry below rest => (entry :: below.ports) :: (below.nodes ++ rest.nodes)

/-- The ports by which a walk through the branches enters nodes: the branches are those of the
node `self`, and the first node in them has the number `next`. -/
def tour (self next : ℕ) : Branches → List (ℕ × ℕ)
  | done => []
  | branch port entry below rest =>
    (next, entry) :: (below.tour next (next + 1) ++
      (self, port) :: rest.tour self (next + 1 + below.size))

/-- For every node in the branches its parent and the port on which the parent was entered last
before; `last` is that port for the first child. -/
def parents (self next last : ℕ) : Branches → List (ℕ × ℕ)
  | done => []
  | branch port entry below rest =>
    (self, last) :: (below.parents next (next + 1) entry ++
      rest.parents self (next + 1 + below.size) port)

/-- No node has two children. -/
def IsLine : Branches → Prop
  | done => True
  | branch _ _ below rest => rest = done ∧ below.IsLine

instance IsLine.decidable : ∀ b : Branches, Decidable b.IsLine
  | done => .isTrue trivial
  | branch _ _ below rest =>
    have := IsLine.decidable below
    inferInstanceAs (Decidable (rest = done ∧ below.IsLine))

@[simp] lemma length_parents (b : Branches) (self next last : ℕ) :
    (b.parents self next last).length = b.size := by
  induction b generalizing self next last with
  | done => rfl
  | branch port entry below rest ihb ihr =>
      simp only [parents, size, List.length_cons, List.length_append, ihb, ihr]
      omega

@[simp] lemma length_tour (b : Branches) (self next : ℕ) :
    (b.tour self next).length = 2 * b.size := by
  induction b generalizing self next with
  | done => rfl
  | branch port entry below rest ihb ihr =>
      simp only [tour, size, List.length_cons, List.length_append, ihb, ihr]
      omega

@[simp] lemma length_nodes (b : Branches) : b.nodes.length = b.size := by
  induction b with
  | done => rfl
  | branch port entry below rest ihb ihr =>
      simp only [nodes, size, List.length_cons, List.length_append, ihb, ihr]
      omega

/-- The tour comes to every node. -/
lemma exists_mem_tour (b : Branches) {self next i : ℕ} (hle : next ≤ i)
    (hlt : i < next + b.size) : ∃ port, (i, port) ∈ b.tour self next := by
  induction b generalizing self next with
  | done =>
      rw [size] at hlt
      omega
  | branch port entry below rest ihb ihr =>
      rw [size] at hlt
      by_cases hself : i = next
      · exact ⟨entry, by rw [hself]; exact List.mem_cons_self⟩
      · by_cases hbelow : i < next + 1 + below.size
        · obtain ⟨port', hmem⟩ := @ihb next (next + 1) (by omega) hbelow
          exact ⟨port', List.mem_cons_of_mem _ (List.mem_append_left _ hmem)⟩
        · obtain ⟨port', hmem⟩ := @ihr self (next + 1 + below.size) (by omega) (by omega)
          exact ⟨port', List.mem_cons_of_mem _
            (List.mem_append_right _ (List.mem_cons_of_mem _ hmem))⟩

/-- **The nodes of a line.**  Every node but the last has two ports and is the parent of the next
one. -/
lemma exists_ports_of_isLine {b : Branches} (hline : b.IsLine) (self entry : ℕ) {i : ℕ}
    (hi : i ≤ b.size) :
    ∃ down up, ((entry :: b.ports) :: b.nodes)[i]? =
        some (if i < b.size then [down, up] else [down]) ∧
      (i < b.size → (b.parents self (self + 1) entry)[i]? = some (self + i, down)) := by
  induction b generalizing self entry i with
  | done =>
      obtain rfl : i = 0 := Nat.le_zero.mp hi
      exact ⟨entry, entry, rfl, fun hlt => absurd hlt (Nat.not_lt_zero 0)⟩
  | branch port childEntry below rest ihb _ =>
      obtain ⟨rfl, hbelow⟩ := hline
      have hsize : (branch port childEntry below done).size = below.size + 1 := by
        rw [size, size]
        omega
      rw [hsize] at hi ⊢
      rcases i with _ | i
      · exact ⟨entry, port, by simp [ports], fun _ => rfl⟩
      · obtain ⟨down, up, hports, hparents⟩ := ihb hbelow (self + 1) childEntry
          (Nat.le_of_succ_le_succ hi)
        refine ⟨down, up, ?_, fun hlt => ?_⟩
        · simp only [nodes, List.append_nil, Nat.add_lt_add_iff_right]
          exact hports
        · simp only [parents, List.append_nil]
          rw [List.getElem?_cons_succ, hparents (Nat.lt_of_succ_lt_succ hlt)]
          congr 2
          omega

/-- A complete tour whose positions grow by one at most is the tour of a line: back at a node
with two children, it goes on to the second one, behind all nodes below the first. -/
lemma isLine_of_isChain {b : Branches} {self next entry : ℕ} (hnext : self < next)
    (h : ((self, entry) :: b.tour self next).IsChain fun p q => q.1 ≤ p.1 + 1) : b.IsLine := by
  induction b generalizing self next entry with
  | done => trivial
  | branch port childEntry below rest ihb _ =>
      rw [tour, List.isChain_cons] at h
      obtain ⟨hbelow, hback⟩ := List.isChain_append.mp
        (show (((next, childEntry) :: below.tour next (next + 1)) ++ _).IsChain _ from h.2)
      refine ⟨?_, ihb (Nat.lt_succ_self next) hbelow⟩
      cases rest with
      | done => rfl
      | branch port' entry' below' rest' =>
          have hjump := (List.isChain_cons.mp hback.1).1 (next + 1 + below.size, entry') rfl
          dsimp only at hjump
          omega

end Branches

open Branches

/-! ## The walk without a stack -/

/-- For each node the ports by which it is still to be entered, and the current position. -/
structure Walk where
  ahead : List (List ℕ)
  position : ℕ
  deriving DecidableEq, Repr

namespace Walk

/-- Enter the current node by its next port and move on: to the next number while the node has
ports left, back to the one before otherwise. -/
def next (w : Walk) : Exec (Option ((ℕ × ℕ) × Walk)) := do
  match ← index w.ahead w.position with
  | port :: more =>
    .ok (some ((w.position, port),
      ⟨w.ahead.set w.position more, if more = [] then w.position - 1 else w.position + 1⟩))
  | [] => .ok none

lemma next_eq_some_iff {w w' : Walk} {place : ℕ × ℕ} :
    w.next = .ok (some (place, w')) ↔ ∃ port more, w.ahead[w.position]? = some (port :: more) ∧
      place = (w.position, port) ∧ w' = ⟨w.ahead.set w.position more,
        if more = [] then w.position - 1 else w.position + 1⟩ := by
  constructor
  · intro h
    obtain ⟨ports, hports, h⟩ := Exec.bind_eq_ok.mp h
    rcases ports with _ | ⟨port, more⟩
    · cases h
    · cases h
      exact ⟨port, more, index_eq_ok_iff.mp hports, rfl, rfl⟩
  · rintro ⟨port, more, hports, rfl, rfl⟩
    simp [next, index_eq_ok_iff.mpr hports]

lemma next_eq_none_iff {w : Walk} : w.next = .ok none ↔ w.ahead[w.position]? = some [] := by
  constructor
  · intro h
    obtain ⟨ports, hports, h⟩ := Exec.bind_eq_ok.mp h
    rcases ports with _ | ⟨port, more⟩
    · exact index_eq_ok_iff.mp hports
    · cases h
  · intro h
    simp [next, index_eq_ok_iff.mpr h]

lemma next_cons {front back : List (List ℕ)} {port : ℕ} {more : List ℕ} :
    next ⟨front ++ (port :: more) :: back, front.length⟩ =
      .ok (some ((front.length, port), ⟨front ++ more :: back,
        if more = [] then front.length - 1 else front.length + 1⟩)) :=
  next_eq_some_iff.mpr ⟨port, more, by simp, rfl, by simp⟩

/-- On a line the walk goes down to the end and back up to the node above. -/
lemma yields_of_isLine (b : Branches) (hline : b.IsLine) (front back : List (List ℕ)) (port : ℕ)
    (items : List (ℕ × ℕ))
    (hback : Yields next ⟨front ++ (List.replicate (1 + b.size) [] ++ back), front.length - 1⟩
      items) :
    Yields next ⟨front ++ (port :: b.ports) :: (b.nodes ++ back), front.length⟩
      ((front.length, port) :: (b.tour front.length (front.length + 1) ++ items)) := by
  induction b generalizing front port items with
  | done =>
      refine .item next_cons ?_
      simpa [ports, nodes, tour, size] using hback
  | branch childPort entry below rest ihb _ =>
      obtain ⟨rfl, hbelow⟩ := hline
      refine .item next_cons ?_
      -- Down to the child, whose walk comes back here, and then up.
      have hup : Yields next ⟨(front ++ [[childPort]]) ++
          (List.replicate (1 + below.size) [] ++ back), (front ++ [[childPort]]).length - 1⟩
          ((front.length, childPort) :: items) := by
        have hnext : next ⟨front ++ [childPort] :: (List.replicate (1 + below.size) [] ++ back),
            front.length⟩ = _ := next_cons
        have hitems := hback
        rw [size, size, Nat.add_zero, Nat.add_comm 1, List.replicate_succ] at hitems
        have hyields := Yields.item hnext (by simpa using hitems)
        simpa using hyields
      have hdown := ihb hbelow (front ++ [[childPort]]) entry _ hup
      simpa [ports, nodes, tour] using hdown

/-- The positions of a walk grow by one at most. -/
lemma isChain_of_yields {w : Walk} {items : List (ℕ × ℕ)} (h : Yields next w items) :
    (∀ p ∈ items.head?, p.1 = w.position) ∧ items.IsChain fun p q => q.1 ≤ p.1 + 1 := by
  induction h with
  | stop => simp
  | item hnext _ ih =>
      rename_i w w' p items _
      obtain ⟨port, more, -, rfl, rfl⟩ := next_eq_some_iff.mp hnext
      refine ⟨by simp, List.isChain_cons.mpr ⟨fun q hq => ?_, ih.2⟩⟩
      rw [ih.1 q hq]
      dsimp only
      split <;> omega

/-- **The walk makes the complete tour exactly on lines.** -/
theorem yields_tour_iff (entry : ℕ) (b : Branches) :
    Yields next ⟨(entry :: b.ports) :: b.nodes, 0⟩ ((0, entry) :: b.tour 0 1) ↔ b.IsLine := by
  constructor
  · exact fun h => isLine_of_isChain Nat.zero_lt_one (isChain_of_yields h).2
  · intro hline
    have hstop : Yields next ⟨List.replicate (1 + b.size) [], 0⟩ [] := by
      refine .stop (next_eq_none_iff.mpr ?_)
      rw [Nat.add_comm, List.replicate_succ]
      rfl
    simpa using yields_of_isLine b hline [] [] entry [] (by simpa using hstop)

end Walk

/-! ## The visitor that notes the parents -/

/-- Where the visitor was last, if it has started, and the parents it has noted. -/
structure Visit where
  started : Bool
  last : ℕ × ℕ
  parent : ℕ → Option (ℕ × ℕ)

namespace Visit

/-- A node without a parent gets the place of the last visit; the first node of all gets none. -/
def step (v : Visit) (place : ℕ × ℕ) : Visit where
  started := true
  last := place
  parent :=
    if v.started = false then Function.update v.parent place.1 none
    else if v.parent place.1 = none then Function.update v.parent place.1 (some v.last)
    else v.parent

lemma parent_step_of_ne {v : Visit} {place : ℕ × ℕ} {i : ℕ} (h : i ≠ place.1) :
    (v.step place).parent i = v.parent i := by
  unfold step
  dsimp only
  split
  · simp [h]
  · split
    · simp [h]
    · rfl

lemma parent_step_of_isSome {v : Visit} {place : ℕ × ℕ} {i : ℕ} (hs : v.started = true)
    (h : (v.parent i).isSome) : (v.step place).parent i = v.parent i := by
  by_cases hi : i = place.1
  · subst hi
    rw [Option.isSome_iff_ne_none] at h
    simp [step, h, hs]
  · exact parent_step_of_ne hi

lemma parent_step_self {v : Visit} (place : ℕ × ℕ) (hs : v.started = true)
    (h : v.parent place.1 = none) : (v.step place).parent place.1 = some v.last := by
  simp [step, hs, h]

@[simp] lemma started_foldl_step {places : List (ℕ × ℕ)} {v : Visit} (hs : v.started = true) :
    (places.foldl step v).started = true := by
  induction places generalizing v with
  | nil => exact hs
  | cons place places ih => exact ih rfl

/-- **The parents from a complete tour.**  Whatever the tree: the nodes in the branches get their
parents, and the parents noted before stay. -/
theorem parent_foldl_tour (b : Branches) (v : Visit) (self next port : ℕ) (hself : self < next)
    (hs : v.started = true) (hlast : v.last = (self, port))
    (hnone : ∀ i, next ≤ i → v.parent i = none) :
    (∀ i < b.size, ((b.tour self next).foldl step v).parent (next + i) =
        (b.parents self next port)[i]?) ∧
      (∀ i, i < next ∨ next + b.size ≤ i → (i = self → (v.parent i).isSome) →
        ((b.tour self next).foldl step v).parent i = v.parent i) := by
  induction b generalizing v self next port with
  | done => simp [size, tour]
  | branch childPort entry below rest ihb ihr =>
      simp only [tour, List.foldl_cons, List.foldl_append]
      have hchild : (v.step (next, entry)).parent next = some (self, port) := by
        rw [parent_step_self (next, entry) hs (hnone next le_rfl), hlast]
      obtain ⟨hbelow, hframe⟩ := ihb (v.step (next, entry)) next (next + 1) entry
        (Nat.lt_succ_self next) rfl rfl
        (fun i hi => by rw [parent_step_of_ne (by dsimp only; omega)]; exact hnone i (by omega))
      have hs₂ : ((below.tour next (next + 1)).foldl step (v.step (next, entry))).started = true :=
        started_foldl_step rfl
      generalize (below.tour next (next + 1)).foldl step (v.step (next, entry)) = v₂ at *
      have hafter : ∀ i, i < next ∨ next + 1 + below.size ≤ i → v₂.parent i = v.parent i := by
        intro i hi
        rw [hframe i (by omega) (fun h => absurd h (by omega)),
          parent_step_of_ne (by dsimp only; omega)]
      obtain ⟨hrest, hframe'⟩ := ihr (v₂.step (self, childPort)) self (next + 1 + below.size)
        childPort (by omega) rfl rfl
        (fun i hi => by
          rw [parent_step_of_ne (by dsimp only; omega), hafter i (by omega)]
          exact hnone i (by omega))
      generalize (rest.tour self (next + 1 + below.size)).foldl step (v₂.step (self, childPort)) =
        v₄ at *
      have hkept : ∀ i, next ≤ i → i < next + 1 + below.size → v₄.parent i = v₂.parent i := by
        intro i hi hlt
        rw [hframe' i (by omega) (fun h => absurd h (by omega)),
          parent_step_of_ne (by dsimp only; omega)]
      refine ⟨fun i hi => ?_, fun i hi hsome => ?_⟩
      · simp only [parents]
        simp only [size] at hi
        rcases i with _ | i
        · rw [hkept _ (by omega) (by omega), Nat.add_zero, hframe next (by omega)
            (fun _ => by rw [hchild]; rfl), hchild]
          rfl
        · rw [List.getElem?_cons_succ]
          by_cases hlt : i < below.size
          · rw [hkept _ (by omega) (by omega), List.getElem?_append_left (by simpa using hlt),
              ← hbelow i hlt]
            congr 1
            omega
          · rw [List.getElem?_append_right (by simpa using hlt), length_parents,
              ← hrest (i - below.size) (by omega)]
            congr 1
            omega
      · simp only [size] at hi
        have hv : v₂.parent i = v.parent i := hafter i (by omega)
        have hstep : (v₂.step (self, childPort)).parent i = v.parent i := by
          by_cases hi' : i = self
          · rw [parent_step_of_isSome hs₂ (hv ▸ hsome hi'), hv]
          · rw [parent_step_of_ne hi', hv]
        rw [hframe' i (by omega) (fun h => hstep ▸ hsome h), hstep]

end Visit

end Tour

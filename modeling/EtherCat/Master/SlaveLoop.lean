import EtherCat.Master.SlaveAccess

/-!
# Runs of the loop over the slaves

What a loop has done to all slaves is a relation between the slots before and after it (`SlotsRel`).
A loop whose body leaves the environment as it is returns if the body returns for every slave, and
panics if the body panics for one (`run_forSlots`).
-/

namespace EtherCat.Configure

open Rust Rust.Method

/-- What holds for the slaves of all slots. -/
lemma forall_slots_cons {slots : List (Option Slave × SlaveConfig)}
    {slot : Option Slave × SlaveConfig} {P : Slave → SlaveConfig → Prop} :
    (∀ slave config, (some slave, config) ∈ slot :: slots → P slave config) ↔
      (∀ slave, slot.1 = some slave → P slave slot.2) ∧
        ∀ slave config, (some slave, config) ∈ slots → P slave config := by
  obtain ⟨slave, config⟩ := slot
  simp only [List.mem_cons, Prod.mk.injEq, or_imp, forall_and]
  grind

/-! ## Related slots -/

/-- Slots with the same configurations, whose slaves are related. -/
def SlotsRel (R : SlaveConfig → Slave → Slave → Prop) :
    List (Option Slave × SlaveConfig) → List (Option Slave × SlaveConfig) → Prop :=
  List.Forall₂ fun slot slot' => SlotRel (R slot.2) slot slot'

section SlotsRel

variable {R S T : SlaveConfig → Slave → Slave → Prop}
  {slots slots' slots'' : List (Option Slave × SlaveConfig)}

lemma SlotsRel.trans (h : SlotsRel R slots slots') (h' : SlotsRel S slots' slots'')
    (htrans : ∀ config slave slave' slave'', R config slave slave' → S config slave' slave'' →
      T config slave slave'') : SlotsRel T slots slots'' := by
  induction h generalizing slots'' with
  | nil =>
      cases h'
      exact .nil
  | @cons slot slot' slots slots' hslot hslots ih =>
      obtain ⟨slot'', slots'', hslot', hslots', rfl⟩ := List.forall₂_cons_left_iff.mp h'
      refine .cons ?_ (ih hslots')
      obtain ⟨slave, config⟩ := slot
      obtain ⟨slave', config'⟩ := slot'
      obtain ⟨slave'', config''⟩ := slot''
      obtain ⟨rfl : config' = config, hrel⟩ := hslot
      obtain ⟨rfl : config'' = config', hrel'⟩ := hslot'
      refine ⟨rfl, ?_⟩
      rcases hrel with hrel | -
      · rcases hrel' with hrel' | -
        exact .some (htrans _ _ _ _ hrel hrel')
      · cases hrel'
        exact .none

/-- What holds of related slaves alike holds of all of them alike. -/
lemma SlotsRel.forall_iff (h : SlotsRel R slots slots') {P Q : Slave → SlaveConfig → Prop}
    (hiff : ∀ config slave slave', R config slave slave' → (P slave config ↔ Q slave' config)) :
    (∀ slave config, (some slave, config) ∈ slots → P slave config) ↔
      ∀ slave config, (some slave, config) ∈ slots' → Q slave config := by
  induction h with
  | nil => simp
  | @cons slot slot' slots slots' hslot hslots ih =>
      obtain ⟨slave, config⟩ := slot
      obtain ⟨slave', config'⟩ := slot'
      obtain ⟨rfl : config' = config, hrel⟩ := hslot
      rw [forall_slots_cons, forall_slots_cons, ih]
      refine and_congr_left fun _ => ?_
      rcases hrel with hrel | -
      · simpa using hiff _ _ _ hrel
      · simp

/-- A sum over the slaves of slots, and the same sum over related ones. -/
lemma SlotsRel.sum_eq (h : SlotsRel R slots slots') {f g : Slave → SlaveConfig → ℕ}
    (heq : ∀ config slave slave', R config slave slave' → f slave config = g slave' config) :
    (slots.map fun slot => slot.1.elim 0 fun slave => f slave slot.2).sum =
      (slots'.map fun slot => slot.1.elim 0 fun slave => g slave slot.2).sum := by
  induction h with
  | nil => rfl
  | @cons slot slot' slots slots' hslot hslots ih =>
      obtain ⟨slave, config⟩ := slot
      obtain ⟨slave', config'⟩ := slot'
      obtain ⟨rfl : config' = config, hrel⟩ := hslot
      rw [List.map_cons, List.map_cons, List.sum_cons, List.sum_cons, ih]
      rcases hrel with hrel | -
      · exact congrArg (· + _) (heq _ _ _ hrel)
      · rfl

end SlotsRel

/-! ## Runs -/

section Runs

variable {σ : Type} {h : σ → (access : Access) → access.Answer × σ} {w w' w'' : σ}
  {body : SlaveConfig → Configure Slave Unit} {config : SlaveConfig} {slave slave' : Slave}
  {slots slots' : List (Option Slave × SlaveConfig)}

lemma run_forSlots_none
    (hslots : (forSlots body slots).run h w = (.returned (.ok (), slots'), w')) :
    (forSlots body ((none, config) :: slots)).run h w =
      (.returned (.ok (), (none, config) :: slots'), w') := by
  rw [forSlots, Program.run_bind_of_returned hslots]
  rfl

lemma run_forSlots_some (hbody : (body config slave).run h w = (.returned (.ok (), slave'), w'))
    (hslots : (forSlots body slots).run h w' = (.returned (.ok (), slots'), w'')) :
    (forSlots body ((some slave, config) :: slots)).run h w =
      (.returned (.ok (), (some slave', config) :: slots'), w'') := by
  rw [forSlots, Program.run_bind_of_returned hbody]
  dsimp only
  rw [Program.run_bind_of_returned hslots]
  rfl

/-- In a state that the body does not change: the loop returns if the body does for all slaves, and
it panics if the body panics for one. -/
lemma run_forSlots {Fits : Slave → SlaveConfig → Prop} {R : SlaveConfig → Slave → Slave → Prop}
    (hreturns : ∀ slave config, (some slave, config) ∈ slots → Fits slave config →
      ∃ slave', R config slave slave' ∧
        (body config slave).run h w = (.returned (.ok (), slave'), w))
    (hpanics : ∀ slave config, (some slave, config) ∈ slots → ¬ Fits slave config →
      Panics h (body config) slave w) :
    ((∀ slave config, (some slave, config) ∈ slots → Fits slave config) →
      ∃ slots', SlotsRel R slots slots' ∧
        (forSlots body slots).run h w = (.returned (.ok (), slots'), w)) ∧
    ((¬ ∀ slave config, (some slave, config) ∈ slots → Fits slave config) →
      ∃ e w', (forSlots body slots).run h w = (.panicked e, w')) := by
  induction slots with
  | nil => exact ⟨fun _ => ⟨[], .nil, rfl⟩, fun h => absurd (fun _ _ hmem => by cases hmem) h⟩
  | cons slot slots ih =>
      obtain ⟨ihreturns, ihpanics⟩ := ih
        (fun slave config hmem => hreturns slave config (List.mem_cons_of_mem _ hmem))
        (fun slave config hmem => hpanics slave config (List.mem_cons_of_mem _ hmem))
      rw [forall_slots_cons]
      obtain ⟨slave | slave, config⟩ := slot
      · refine ⟨fun hfits => ?_, fun hfits => ?_⟩
        · obtain ⟨slots', hrel, hrun⟩ := ihreturns hfits.2
          exact ⟨(none, config) :: slots', .cons ⟨rfl, .none⟩ hrel, run_forSlots_none hrun⟩
        · obtain ⟨e, w', hrun⟩ := ihpanics fun hall => hfits ⟨fun _ h => (by cases h), hall⟩
          refine ⟨e, w', ?_⟩
          rw [forSlots, Program.run_bind_of_panicked hrun]
      · by_cases hslave : Fits slave config
        · obtain ⟨slave', hR, hbody⟩ := hreturns slave config (List.mem_cons_self ..) hslave
          refine ⟨fun hfits => ?_, fun hfits => ?_⟩
          · obtain ⟨slots', hrel, hrun⟩ := ihreturns hfits.2
            exact ⟨(some slave', config) :: slots', .cons ⟨rfl, .some hR⟩ hrel,
              run_forSlots_some hbody hrun⟩
          · obtain ⟨e, w', hrun⟩ := ihpanics fun hall => hfits ⟨fun _ h => by
              cases h
              exact hslave, hall⟩
            refine ⟨e, w', ?_⟩
            rw [forSlots, Program.run_bind_of_returned hbody]
            dsimp only
            rw [Program.run_bind_of_panicked hrun]
        · refine ⟨fun hfits => absurd (hfits.1 slave rfl) hslave, fun _ => ?_⟩
          obtain ⟨e, w', hrun⟩ := hpanics slave config (List.mem_cons_self ..) hslave
          refine ⟨e, w', ?_⟩
          rw [forSlots, Program.run_bind_of_panicked hrun]

lemma returns_forSlaves (network : Network)
    (hrun : (forSlots body network.slaves).run h w = (.returned (.ok (), slots'), w')) :
    Returns h (forSlaves body) network w ((forSlaves body network).asked h w) ()
      { network with slaves := slots' } w' := by
  refine ⟨?_, rfl⟩
  rw [forSlaves, Program.run_bind_of_returned hrun]
  rfl

lemma panics_forSlaves {network : Network}
    (hrun : ∃ e w', (forSlots body network.slaves).run h w = (.panicked e, w')) :
    Panics h (forSlaves body) network w := by
  obtain ⟨e, w', hrun⟩ := hrun
  exact ⟨e, w', Program.run_bind_of_panicked hrun _⟩

end Runs

end EtherCat.Configure

import EtherCat.Task.LoopTasks

/-!
# The offset of the system time

`DcSyncTask` notes after every response how far the system time of the reference clock is from the
local time.  Documented is a signed number, the one time less the other.  The number that is noted
is the distance of the two times, so that it has the right sign exactly while the local clock is
not ahead (`offsets_areDifferences_iff`).
-/

namespace EtherCat

open Rust Rust.Exec

/-! ## Signed 64-bit numbers -/

/-- The least number of `i64`. -/
def i64Min : ℤ := -0x8000000000000000

/-- And the largest. -/
def i64Max : ℤ := 0x7FFFFFFFFFFFFFFF

/-- A number saturated to the range of `i64`. -/
def saturateI64 (a : ℤ) : ℤ := max i64Min (min i64Max a)

lemma saturateI64_of_mem {a : ℤ} (hmin : i64Min ≤ a) (hmax : a ≤ i64Max) : saturateI64 a = a := by
  rw [saturateI64, min_eq_right hmax, max_eq_right hmin]

lemma saturateI64_neg {a : ℤ} (h : a < 0) : saturateI64 a < 0 := by
  rw [saturateI64, max_lt_iff]
  exact ⟨by decide, (min_le_right _ _).trans_lt h⟩

namespace DcSyncTask

/-- `systemtime_offset_ns()`. -/
def systemtimeOffsetNs (task : DcSyncTask) : ℤ := task.sysTimeOffset

/-- `systemtime_offset_ns()` after every one of these responses, each at its local time. -/
def offsets : DcSyncTask → List (Pdu × ℕ) → Exec (List ℤ)
  | _, [] => .ok []
  | task, (recvData, systime) :: responses => do
    let task ← task.recieveAndProcess recvData systime
    let rest ← offsets task responses
    .ok (task.systemtimeOffsetNs :: rest)

/-- The system time that a response carries. -/
def dcTime (recvData : Pdu) : ℕ := DcSystemTime.localSystemTime.val recvData.data

/-- An offset as it is documented: the system time less the local time, saturated.  Where nothing
is cut off, the local time and the offset give the system time. -/
def IsDifference (response : Pdu × ℕ) (offset : ℤ) : Prop :=
  let difference : ℤ := dcTime response.1 - response.2
  offset = saturateI64 difference ∧
    (i64Min ≤ difference → difference ≤ i64Max → response.2 + offset = dcTime response.1)

/-! ## What is noted -/

/-- The offset that a response leaves. -/
def noted (response : Pdu × ℕ) : ℤ :=
  if response.2 < dcTime response.1 then offsetAbs (dcTime response.1) response.2
  else offsetAbs response.2 (dcTime response.1)

lemma recieveAndProcess_of_length (task : DcSyncTask) {recvData : Pdu} (systime : ℕ)
    (h : DcSystemTime.size ≤ recvData.data.length) :
    ∃ task', task.recieveAndProcess recvData systime = .ok task' ∧
      task'.systemtimeOffsetNs = noted (recvData, systime) := by
  have hfits : DcSystemTime.localSystemTime.Fits recvData.data :=
    BitField.Field.fits_of_le (by decide) h
  exact ⟨_, by rw [recieveAndProcess, BitField.Field.get_of_fits hfits, ok_bind], rfl⟩

lemma offsets_eq_map (task : DcSyncTask) {responses : List (Pdu × ℕ)}
    (h : ∀ response ∈ responses, DcSystemTime.size ≤ response.1.data.length) :
    task.offsets responses = .ok (responses.map noted) := by
  induction responses generalizing task with
  | nil => rfl
  | cons response responses ih =>
      rw [List.forall_mem_cons] at h
      obtain ⟨task', hprocess, hoffset⟩ := task.recieveAndProcess_of_length response.2 h.1
      rw [offsets, hprocess, ok_bind, ih task' h.2, ok_bind, hoffset, List.map_cons]

/-- The distance is the difference exactly if the system time is not behind. -/
lemma isDifference_noted_iff (response : Pdu × ℕ) :
    IsDifference response (noted response) ↔ response.2 ≤ dcTime response.1 := by
  constructor
  · rintro ⟨heq, -⟩
    by_contra hlt
    have hneg : saturateI64 ((dcTime response.1 : ℤ) - response.2) < 0 :=
      saturateI64_neg (by omega)
    have hpos : 0 ≤ noted response := by
      rw [noted, if_neg (by omega), offsetAbs]
      omega
    omega
  · intro hle
    have hnoted : noted response = min ((dcTime response.1 : ℤ) - response.2) i64Max := by
      rw [noted, i64Max]
      split <;> simp only [offsetAbs] <;> omega
    have hmin : i64Min ≤ min i64Max ((dcTime response.1 : ℤ) - response.2) := by
      rw [i64Min, i64Max]
      omega
    have hoffset : noted response = saturateI64 ((dcTime response.1 : ℤ) - response.2) := by
      rw [saturateI64, max_eq_right hmin, hnoted, min_comm]
    refine ⟨hoffset, fun hlow hhigh => ?_⟩
    rw [hoffset, saturateI64_of_mem hlow hhigh]
    omega

/-- **The sign of the offset.**  Over every sequence of responses the offsets are the documented
differences exactly if no local time is ahead of the system time of its response. -/
theorem offsets_areDifferences_iff (task : DcSyncTask) {responses : List (Pdu × ℕ)}
    (h : ∀ response ∈ responses, DcSystemTime.size ≤ response.1.data.length) :
    ∃ noted, task.offsets responses = .ok noted ∧ (List.Forall₂ IsDifference responses noted ↔
      ∀ response ∈ responses, response.2 ≤ dcTime response.1) := by
  refine ⟨_, task.offsets_eq_map h, ?_⟩
  rw [List.forall₂_map_right_iff, List.forall₂_same]
  exact forall₂_congr fun response _ => isDifference_noted_iff response

/-- The system time 2, seen at the local times 1 and 2. -/
theorem offsets_areDifferences_iff_two :
    ∃ noted, (new 0 1).offsets [(⟨.default, [2, 0, 0, 0, 0, 0, 0, 0], 1⟩, 1),
        (⟨.default, [2, 0, 0, 0, 0, 0, 0, 0], 1⟩, 2)] = .ok noted ∧
      (List.Forall₂ IsDifference [(⟨.default, [2, 0, 0, 0, 0, 0, 0, 0], 1⟩, 1),
        (⟨.default, [2, 0, 0, 0, 0, 0, 0, 0], 1⟩, 2)] noted ↔
        ∀ response ∈ [((⟨.default, [2, 0, 0, 0, 0, 0, 0, 0], 1⟩ : Pdu), 1),
          (⟨.default, [2, 0, 0, 0, 0, 0, 0, 0], 1⟩, 2)], response.2 ≤ dcTime response.1) :=
  offsets_areDifferences_iff (new 0 1) (by simp [DcSystemTime.size])

/-- A local clock that is ahead by one: the offset is plus one. -/
theorem offset_of_local_ahead :
    (new 0 1).offsets [(⟨.default, [0, 0, 0, 0, 0, 0, 0, 0], 1⟩, 1)] = .ok [1] ∧
      ¬ List.Forall₂ IsDifference [(⟨.default, [0, 0, 0, 0, 0, 0, 0, 0], 1⟩, 1)] [1] := by
  constructor
  · rw [offsets_eq_map _ (by simp [DcSystemTime.size])]
    decide +kernel
  · intro h
    have hone := (List.forall₂_cons.mp h).1.1
    revert hone
    decide +kernel

end DcSyncTask

end EtherCat

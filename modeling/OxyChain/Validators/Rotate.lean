import OxyChain.Validators.Invariants

/-! # What `RotateValidators` emits

The cut keeps the `maxValidators` highest stakes among the active validators, and those of
its entries with a 32-byte key become the updates, each with an empty key.
-/

namespace OxyChain.Validators

open List

/-! ## The cut -/

section Cut

variable {k : Int} {l c : List Validator}

theorem cutToMax_isSome (hk : 0 ≤ k) (l : List Validator) : (cutToMax k l).isSome := by
  unfold cutToMax
  split_ifs <;> first | omega | rfl

theorem cutToMax_length (h : cutToMax k l = some c) : (c.length : Int) ≤ k := by
  unfold cutToMax at h
  split_ifs at h with h₁ h₂ <;> cases h
  · rw [List.length_take]
    omega
  · omega

theorem cutToMax_of_length_le (hl : l.length ≤ k) : cutToMax k l = some l := by
  rw [cutToMax, if_neg (not_lt.2 hl)]

theorem mem_take_of_stake_lt (hs : l.Sorted stakeAtLeast) (n : Nat) {u v : Validator}
    (hu : u ∈ l.take n) (hv : v ∈ l) (hlt : u.stake < v.stake) : v ∈ l.take n := by
  rw [← List.take_append_drop n l] at hs hv
  rcases List.mem_append.1 hv with hv | hv
  · exact hv
  · exact absurd ((List.pairwise_append.1 hs).2.2 u hu v hv) (not_le.2 hlt)

theorem cutToMax_top (h : cutToMax k l = some c) {u v : Validator} (hu : u ∈ c) (hv : v ∈ l)
    (hlt : u.stake < v.stake) : v ∈ c := by
  unfold cutToMax at h
  split_ifs at h <;> cases h
  · exact mem_take_of_stake_lt (sorted_insertionSort _ l) _ hu
      ((perm_insertionSort _ l).mem_iff.2 hv) hlt
  · exact hv

end Cut

/-! ## The updates -/

theorem mem_copy {vs : ValidatorSet} {v : Validator}
    (hv : v ∈ (refreshPowers vs.validators).vals.filter (isActive vs)) :
    v ∈ (refreshPowers vs.validators).vals ∧ isActive vs v ∧ v.power = calculatePower v.stake := by
  obtain ⟨hv, ha⟩ := List.mem_filter.1 hv
  obtain ⟨w, -, rfl⟩ := List.mem_map.1 hv
  exact ⟨hv, ha, rfl⟩

theorem isActive_stake {vs : ValidatorSet} {v : Validator} (h : isActive vs v) :
    vs.minStake ≤ v.stake := by
  simp only [isActive, Bool.and_eq_true, decide_eq_true_eq] at h
  exact h.2

end OxyChain.Validators

import OxyChain.Validators.Invariants

/-! # What the mutating methods do to the map

`RegisterValidator`, `Stake`, `Unstake`, `Slash` and `Unjail` return every error before they
write, so a rejected call leaves the whole set as it was.
-/

namespace OxyChain.Validators

open List

/-! ## A rejection writes nothing -/

inductive Outcome.Shape {α : Type} (vs : ValidatorSet) : Outcome α → Prop
  | reject (msg : String) : Shape vs (.reject vs msg)
  | store (vs' : ValidatorSet) (a : α) : Shape vs (.store vs' a)

@[simp] theorem Outcome.reject_isOk {α : Type} (vs : ValidatorSet) (msg : String) :
    (Outcome.reject vs msg : Outcome α).result.isOk = false := rfl

@[simp] theorem Outcome.store_isOk {α : Type} (vs : ValidatorSet) (a : α) :
    (Outcome.store vs a).result.isOk = true := rfl

theorem Outcome.Shape.set_of_error {α : Type} {vs : ValidatorSet} {o : Outcome α}
    (h : o.Shape vs) {e : String} (he : o.result = .error e) : o.set = vs := by
  cases h with
  | reject => rfl
  | store => cases he

section Shape

variable (vs : ValidatorSet) (address : String) (now : Time)

theorem registerValidator_shape (pubKey : List UInt8) (initialStake : Int) :
    (registerValidator vs address pubKey initialStake now).Shape vs := by
  unfold registerValidator
  split_ifs
  · exact .reject _
  · exact .reject _
  · split
    · exact .reject _
    · exact .store _ _

theorem stake_shape (amount : Int) : (stake vs address amount now).Shape vs := by
  unfold stake
  split
  · exact .reject _
  · split_ifs
    · exact .reject _
    · exact .store _ _

theorem unstake_shape (amount : Int) : (unstake vs address amount now).Shape vs := by
  unfold unstake
  split
  · exact .reject _
  · dsimp only
    split_ifs
    · exact .reject _
    · exact .reject _
    · exact .store _ _

theorem slash_shape (slashPercent jailDuration : Int) :
    (slash vs address slashPercent jailDuration now).Shape vs := by
  unfold slash
  split
  · exact .reject _
  · exact .store _ _

theorem unjail_shape : (unjail vs address now).Shape vs := by
  unfold unjail
  split
  · exact .reject _
  · split_ifs
    · exact .reject _
    · exact .reject _
    · exact .store _ _

end Shape

/-- A call of `RegisterValidator`, `Stake`, `Unstake`, `Slash` or `Unjail` that returns an
error leaves the set as it was: the same entries in the same order, each with every field
it had. -/
theorem rejected_call_keeps_set (vs : ValidatorSet) (now : Time) :
    (∀ address pubKey initialStake e,
      (registerValidator vs address pubKey initialStake now).result = .error e →
        (registerValidator vs address pubKey initialStake now).set = vs) ∧
    (∀ address amount e, (stake vs address amount now).result = .error e →
        (stake vs address amount now).set = vs) ∧
    (∀ address amount e, (unstake vs address amount now).result = .error e →
        (unstake vs address amount now).set = vs) ∧
    (∀ address slashPercent jailDuration e,
      (slash vs address slashPercent jailDuration now).result = .error e →
        (slash vs address slashPercent jailDuration now).set = vs) ∧
    (∀ address e, (unjail vs address now).result = .error e → (unjail vs address now).set = vs) :=
  ⟨fun a k s _ => (registerValidator_shape vs a now k s).set_of_error,
    fun a x _ => (stake_shape vs a now x).set_of_error,
    fun a x _ => (unstake_shape vs a now x).set_of_error,
    fun a p d _ => (slash_shape vs a now p d).set_of_error,
    fun a _ => (unjail_shape vs a now).set_of_error⟩

/-! ## `RegisterValidator` -/

namespace VMap

variable {m : VMap} {v : Validator} {a : String}

theorem length_set_of_find?_eq_none (h : m.find? v.address = none) :
    (m.set v).vals.length = m.vals.length + 1 := by
  have hn : m.vals.any (·.address == v.address) = false := by
    simpa [find?, List.find?_eq_none] using h
  simp [set, hn]

theorem length_erase_of_mem (hv : v ∈ m.vals) :
    (m.erase v.address).vals.length + 1 = m.vals.length := by
  have hc : (m.vals.filter (·.address == v.address)).length = 1 := by
    rw [← List.countP_eq_length_filter]
    have := List.count_eq_one_of_mem m.keyed (List.mem_map_of_mem _ hv)
    rwa [List.count, List.countP_map] at this
  have := List.length_eq_length_filter_add (l := m.vals) (·.address == v.address)
  simp only [erase, bne] at this ⊢
  omega

theorem find?_erase_eq_none (h : m.find? a = none) (b : String) : (m.erase b).find? a = none :=
  find?_eq_none_of_not_mem fun w hw => by
    have := List.find?_eq_none.1 h w (mem_erase.1 hw).1
    simpa using this

end VMap

section Room

variable {vs : ValidatorSet} {s : Int}

theorem makeRoom_isSome_iff : (makeRoom vs s).isSome ↔
    (vs.validators.vals.length : Int) < vs.maxValidators ∨
      ∃ w ∈ vs.validators.vals, (∀ v ∈ vs.validators.vals, w.stake ≤ v.stake) ∧ w.stake < s := by
  unfold makeRoom
  split_ifs with hc
  · rcases hf : findLowestStakeValidator vs.validators.vals with _ | w
    · rw [findLowestStakeValidator_eq_none] at hf
      simp [hf] at hc ⊢
      omega
    · obtain ⟨hw, hmin⟩ := findLowestStakeValidator_spec hf
      dsimp only
      split_ifs with hs
      · exact iff_of_true rfl (.inr ⟨w, hw, hmin, hs⟩)
      · refine iff_of_false (by simp) ?_
        rintro (hl | ⟨u, hu, hu', hus⟩)
        · omega
        · exact hs ((hmin u hu).trans_lt hus)
  · exact iff_of_true rfl (.inl (not_le.1 hc))

theorem makeRoom_eq_some {m : VMap} (h : makeRoom vs s = some m) :
    ((vs.validators.vals.length : Int) < vs.maxValidators → m = vs.validators) ∧
      (vs.maxValidators ≤ vs.validators.vals.length → ∃ w ∈ vs.validators.vals,
        (∀ v ∈ vs.validators.vals, w.stake ≤ v.stake) ∧ m = vs.validators.erase w.address) := by
  unfold makeRoom at h
  split_ifs at h with hc
  · refine ⟨fun hl => absurd hc (not_le.2 hl), fun _ => ?_⟩
    split at h
    · rename_i w hf
      split_ifs at h
      cases h
      obtain ⟨hw, hmin⟩ := findLowestStakeValidator_spec hf
      exact ⟨w, hw, hmin, rfl⟩
    · cases h
  · cases h
    exact ⟨fun _ => rfl, fun hl => absurd hl hc⟩

end Room

/-- `RegisterValidator` succeeds exactly for a new address staking at least `minStake`, below
the cap or out-staking a validator of least stake. It then stores the new validator, with
the power `calculatePower` gives its stake (the capped whole coins whenever they are not
below the range of `int64`), in the map or in the map without that validator, the latter
at or above the cap; a set within the cap stays within it. -/
theorem registerValidator_spec (vs : ValidatorSet) (address : String) (pubKey : List UInt8)
    (s : Int) (now : Time) :
    ((registerValidator vs address pubKey s now).result.isOk ↔
      vs.validators.find? address = none ∧ vs.minStake ≤ s ∧
        ((vs.validators.vals.length : Int) < vs.maxValidators ∨
          ∃ w ∈ vs.validators.vals, (∀ v ∈ vs.validators.vals, w.stake ≤ v.stake) ∧ w.stake < s)) ∧
    ((registerValidator vs address pubKey s now).result.isOk →
      ∃ m, (registerValidator vs address pubKey s now).set = vs.withMap (m.set
          { address, pubKey, stake := s, power := calculatePower s, jailed := false,
            jailedUntil := 0, createdAt := now, lastActiveAt := now, missedBlocks := 0,
            totalMissed := 0 }) ∧
        ((vs.validators.vals.length : Int) < vs.maxValidators → m = vs.validators) ∧
        (vs.maxValidators ≤ vs.validators.vals.length → ∃ w ∈ vs.validators.vals,
          (∀ v ∈ vs.validators.vals, w.stake ≤ v.stake) ∧ m = vs.validators.erase w.address) ∧
        ((vs.validators.vals.length : Int) ≤ vs.maxValidators →
          ((registerValidator vs address pubKey s now).set.validators.vals.length : Int) ≤
            vs.maxValidators)) ∧
    (-2 ^ 63 ≤ s / 10 ^ 18 → calculatePower s = min (s / 10 ^ 18) maxPower) := by
  refine ⟨?ok, ?set, fun h => calculatePower_eq_min h⟩
  case ok =>
    unfold registerValidator
    rw [← makeRoom_isSome_iff]
    split_ifs with ha hs
    · simp [Option.isSome_iff_ne_none.1 ha]
    · simp [not_le.2 hs]
    · rw [Option.not_isSome_iff_eq_none.1 ha]
      split <;> simp_all
  case set =>
    intro hok
    unfold registerValidator at hok ⊢
    split_ifs at hok ⊢ with ha hs
    · simp at hok
    · simp at hok
    · have hnone := Option.not_isSome_iff_eq_none.1 ha
      rcases hm : makeRoom vs s with _ | m
      · simp [hm] at hok
      · obtain ⟨hlt, hge⟩ := makeRoom_eq_some hm
        refine ⟨m, by simp only [hm]; rfl, hlt, hge, fun hle => ?_⟩
        simp only [hm]
        show ((m.set (newValidator address pubKey s now)).vals.length : Int) ≤ vs.maxValidators
        rcases lt_or_le (vs.validators.vals.length : Int) vs.maxValidators with hl | hl
        · rw [hlt hl, VMap.length_set_of_find?_eq_none hnone]
          push_cast; omega
        · obtain ⟨w, hw, -, rfl⟩ := hge hl
          rw [VMap.length_set_of_find?_eq_none (VMap.find?_erase_eq_none hnone _)]
          have := VMap.length_erase_of_mem hw
          push_cast; omega

def deepFloorSet : ValidatorSet := ⟨VMap.empty, -(2 ^ 63 + 1) * 10 ^ 18, 1⟩

theorem registerValidator_power_wraps :
    (registerValidator deepFloorSet "A" sampleKey (-(2 ^ 63 + 1) * 10 ^ 18) 0).result.isOk = true ∧
      (registerValidator deepFloorSet "A" sampleKey (-(2 ^ 63 + 1) * 10 ^ 18) 0).set.validators.vals.map
        (·.power) = [2 ^ 63 - 1] ∧
      min (-(2 ^ 63 + 1) * 10 ^ 18 / 10 ^ 18) maxPower = -(2 ^ 63 + 1) := by
  refine ⟨rfl, ?_, by decide⟩
  decide

end OxyChain.Validators

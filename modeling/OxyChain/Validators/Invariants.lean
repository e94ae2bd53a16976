import OxyChain.Validators.Order

/-! # What every stored validator satisfies

A property of single validators that every method's writes keep holds of the whole map:
the representation invariant, kept by every method but `Stake`, and what the views emit for
public keys.
-/

namespace OxyChain.Validators

open List

/-! ## The map's membership -/

namespace VMap

variable {m : VMap} {v w : Validator} {a : String}

theorem mem_set : w ∈ (m.set v).vals ↔ w = v ∨ (w ∈ m.vals ∧ w.address ≠ v.address) := by
  unfold set
  split
  · rename_i h
    obtain ⟨x, hx, hxa⟩ := List.any_eq_true.1 h
    have hxa : x.address = v.address := by simpa using hxa
    simp only [modifyAll, List.mem_map]
    constructor
    · rintro ⟨y, hy, rfl⟩
      by_cases hya : y.address = v.address <;> simp [hya, hy]
    · rintro (rfl | ⟨hw, hwa⟩)
      · exact ⟨x, hx, if_pos hxa⟩
      · exact ⟨w, hw, by simp [hwa]⟩
  · rename_i h
    simp only [List.mem_append, List.mem_singleton]
    constructor
    · rintro (hw | rfl)
      · exact .inr ⟨hw, fun hwa => h (List.any_eq_true.2 ⟨w, hw, by simp [hwa]⟩)⟩
      · exact .inl rfl
    · rintro (rfl | ⟨hw, -⟩)
      · exact .inr rfl
      · exact .inl hw

@[simp] theorem mem_erase : w ∈ (m.erase a).vals ↔ w ∈ m.vals ∧ w.address ≠ a := by
  simp [erase]

theorem find?_mem (h : m.find? a = some v) : v ∈ m.vals ∧ v.address = a :=
  ⟨List.mem_of_find?_eq_some h, by simpa using List.find?_some h⟩

theorem find?_eq_none_of_not_mem (h : ∀ w ∈ m.vals, w.address ≠ a) : m.find? a = none :=
  List.find?_eq_none.2 fun w hw => by simpa using h w hw

end VMap

/-! ## Runs of calls -/

theorem Call.run_withMap {vs : ValidatorSet} {now : Time} {c : Call} {r : ValidatorSet × Bool}
    (hr : c.run vs now = some r) : ∃ m, r.1 = vs.withMap m := by
  cases c
  case rotateValidators =>
    obtain ⟨⟨us, vs'⟩, hrot, rfl⟩ := Option.map_eq_some'.1 hr
    obtain ⟨_, -, hc⟩ := Option.map_eq_some'.1 hrot
    exact ⟨_, (Prod.mk.inj hc).2.symm⟩
  all_goals
    cases hr
    simp only [Validators.registerValidator, Validators.stake, Validators.unstake,
      Validators.slash, Validators.unjail, Validators.updateValidatorActivity,
      Validators.initializeGenesisValidators, Validators.loadValidators, Outcome.reject,
      Outcome.store]
    repeat' split
    all_goals exact ⟨_, rfl⟩

/-! ## Properties of every stored validator -/

def Stored (P : Validator → Prop) (m : VMap) : Prop := ∀ v ∈ m.vals, P v

section Stored

variable {P : Validator → Prop} {m : VMap} {v : Validator}

theorem Stored.set_of (h : ∀ w ∈ m.vals, w.address ≠ v.address → P w) (hv : P v) :
    Stored P (m.set v) := fun w hw => by
  rcases VMap.mem_set.1 hw with rfl | ⟨hw, hne⟩
  exacts [hv, h w hw hne]

theorem Stored.set (h : Stored P m) (hv : P v) : Stored P (m.set v) :=
  Stored.set_of (fun w hw _ => h w hw) hv

theorem Stored.erase (h : Stored P m) (a : String) : Stored P (m.erase a) :=
  fun w hw => h w (VMap.mem_erase.1 hw).1

theorem Stored.set_erase (h : Stored P m) : Stored P ((m.set v).erase v.address) := fun w hw => by
  obtain ⟨hw, ha⟩ := VMap.mem_erase.1 hw
  rcases VMap.mem_set.1 hw with rfl | ⟨hw, -⟩
  exacts [absurd rfl ha, h w hw]

theorem makeRoom_stored {vs : ValidatorSet} {s : Int} {m : VMap} (h : makeRoom vs s = some m)
    (hs : Stored P vs.validators) : Stored P m := by
  unfold makeRoom at h
  split_ifs at h
  · split at h
    · split_ifs at h
      cases h
      exact hs.erase _
    · cases h
  · cases h
    exact hs

end Stored

/-! ## `calculatePower` -/

theorem calculatePower_eq_min {s : Int} (h : -2 ^ 63 ≤ s / 10 ^ 18) :
    calculatePower s = min (s / 10 ^ 18) maxPower := by
  unfold calculatePower maxPower
  dsimp only
  split_ifs with hp
  · rw [min_eq_right hp.le]
  · rw [min_eq_left (not_lt.1 hp), toInt64_eq_self h (by omega)]

theorem calculatePower_of_nonneg {s : Int} (h : 0 ≤ s) :
    calculatePower s = min (s / 10 ^ 18) maxPower :=
  calculatePower_eq_min (by have := Int.ediv_nonneg h (by norm_num : (0 : Int) ≤ 10 ^ 18); omega)

theorem calculatePower_mem {s : Int} (h : 0 ≤ s) :
    0 ≤ calculatePower s ∧ calculatePower s ≤ maxPower := by
  rw [calculatePower_of_nonneg h]
  exact ⟨le_min (Int.ediv_nonneg h (by norm_num)) (by norm_num [maxPower]), min_le_right _ _⟩

example : calculatePower (5 * 10 ^ 18 + 7) = 5 := by decide
example : calculatePower (2 ^ 31 * 10 ^ 18) = 2 ^ 30 := by decide

/-! ## The representation invariant -/

/-- The spec's invariant of one validator: a stake of at least `minStake`, and a power of
its whole coins capped at `2^30`. -/
def FloorOk (minStake : Int) (v : Validator) : Prop :=
  minStake ≤ v.stake ∧ v.power = min (v.stake / 10 ^ 18) maxPower

def Floor (vs : ValidatorSet) : Prop := Stored (FloorOk vs.minStake) vs.validators

instance (vs : ValidatorSet) : Decidable (Floor vs) :=
  inferInstanceAs (Decidable (∀ v ∈ vs.validators.vals, _ ∧ _))

theorem Floor.power_mem {vs : ValidatorSet} (hm : 0 ≤ vs.minStake) (h : Floor vs)
    {v : Validator} (hv : v ∈ vs.validators.vals) : 0 ≤ v.power ∧ v.power ≤ maxPower := by
  rw [(h v hv).2, ← calculatePower_of_nonneg (hm.trans (h v hv).1)]
  exact calculatePower_mem (hm.trans (h v hv).1)

theorem floorOk_of_calculatePower {ms : Int} (hm : 0 ≤ ms) {v : Validator} (hs : ms ≤ v.stake)
    (hp : v.power = calculatePower v.stake) : FloorOk ms v :=
  ⟨hs, hp.trans (calculatePower_of_nonneg (hm.trans hs))⟩

section Floor

variable {vs : ValidatorSet} (hm : 0 ≤ vs.minStake) (h : Floor vs) (now : Time)
include hm h

theorem registerValidator_floor (address : String) (pubKey : List UInt8) (initialStake : Int) :
    Floor (registerValidator vs address pubKey initialStake now).set := by
  unfold registerValidator
  split_ifs with _ hs
  · exact h
  · exact h
  · split
    · exact h
    · rename_i m hr
      exact (makeRoom_stored hr h).set (floorOk_of_calculatePower hm (not_lt.1 hs) rfl)

theorem stake_floor (address : String) {amount : Int} (ha : 0 ≤ amount) :
    Floor (stake vs address amount now).set := by
  unfold stake
  split
  · exact h
  · rename_i v hv
    split_ifs
    · exact h
    · exact Stored.set h (floorOk_of_calculatePower hm
        (by have := (h v (VMap.find?_mem hv).1).1; dsimp only; omega) rfl)

theorem unstake_floor (address : String) (amount : Int) : Floor (unstake vs address amount now).set := by
  unfold unstake
  split
  · exact h
  · dsimp only
    split_ifs with _ hs
    · exact h
    · exact h
    · exact Stored.set h (floorOk_of_calculatePower hm (not_lt.1 hs) rfl)

theorem slash_floor (address : String) (slashPercent jailDuration : Int) :
    Floor (slash vs address slashPercent jailDuration now).set := by
  unfold slash
  split
  · exact h
  · rename_i v hv
    dsimp only
    rw [← (VMap.find?_mem hv).2]
    split_ifs with hs
    · exact Stored.set_erase h
    · exact Stored.set h (floorOk_of_calculatePower hm (not_lt.1 hs) rfl)

omit hm in
theorem unjail_floor (address : String) : Floor (unjail vs address now).set := by
  unfold unjail
  split
  · exact h
  · rename_i v hv
    split_ifs
    · exact h
    · exact h
    · exact Stored.set h (h v (VMap.find?_mem hv).1)

omit hm in
theorem updateValidatorActivity_floor (address : String) (missedBlock : Bool) :
    Floor (updateValidatorActivity vs address missedBlock now) := by
  unfold updateValidatorActivity
  split
  · exact h
  · rename_i v hv
    have hv := h v (VMap.find?_mem hv).1
    dsimp only
    refine Stored.set h ?_
    split_ifs <;> exact hv

omit now in
theorem rotateValidators_floor {us : List ValidatorUpdate} {vs' : ValidatorSet}
    (hr : rotateValidators vs = some (us, vs')) : Floor vs' := by
  obtain ⟨c, -, hc⟩ := Option.map_eq_some'.1 hr
  cases (Prod.mk.inj hc).2
  intro w hw
  obtain ⟨v, hv, rfl⟩ := List.mem_map.1 hw
  exact floorOk_of_calculatePower hm (h v hv).1 rfl

end Floor

def Call.KeepsFloor : Call → Prop
  | .stake _ amount => 0 ≤ amount
  | .initializeGenesisValidators _ | .loadValidators _ => False
  | _ => True

theorem Call.run_floor {vs : ValidatorSet} (hm : 0 ≤ vs.minStake) (h : Floor vs) (now : Time)
    {c : Call} (hc : c.KeepsFloor) {r : ValidatorSet × Bool} (hr : c.run vs now = some r) :
    Floor r.1 := by
  cases c with
  | registerValidator a k s => cases hr; exact registerValidator_floor hm h now a k s
  | stake a x => cases hr; exact stake_floor hm h now a hc
  | unstake a x => cases hr; exact unstake_floor hm h now a x
  | slash a p d => cases hr; exact slash_floor hm h now a p d
  | unjail a => cases hr; exact unjail_floor h now a
  | updateValidatorActivity a b => cases hr; exact updateValidatorActivity_floor h now a b
  | rotateValidators =>
    obtain ⟨⟨us, vs'⟩, hrot, rfl⟩ := Option.map_eq_some'.1 hr
    exact rotateValidators_floor hm h hrot
  | initializeGenesisValidators | loadValidators => exact hc.elim
  | saveValidators | getActiveValidators | toCometBFTValidators => cases hr; exact h

/-- A run of such calls keeps the invariant, and with it every power in `[0, 2^30]`. -/
theorem Call.runAll_floor {g : Guarded} (hm : 0 ≤ g.set.minStake) (h : Floor g.set)
    {cs : List (Call × Time)} (hcs : ∀ c ∈ cs, c.1.KeepsFloor) :
    Floor (Call.runAll g cs).1.set ∧
      ∀ v ∈ (Call.runAll g cs).1.set.validators.vals, 0 ≤ v.power ∧ v.power ≤ maxPower := by
  have hrun := Call.runAll_invariant (P := fun w => w.minStake = g.set.minStake ∧ Floor w)
    (fun hc hw hr => by
      obtain ⟨m, hm'⟩ := Call.run_withMap hr
      exact ⟨by rw [hm']; exact hw.1, Call.run_floor (hw.1 ▸ hm) hw.2 _ hc hr⟩) hcs ⟨rfl, h⟩
  exact ⟨hrun.2, fun v hv => hrun.2.power_mem (hrun.1 ▸ hm) hv⟩

def floorSet : ValidatorSet :=
  ⟨⟨[newValidator "A" sampleKey (10 * 10 ^ 18) 0], by decide⟩, 10 * 10 ^ 18, 100⟩

theorem runAll_floor_floorSet :
    0 ≤ floorSet.minStake ∧ Floor floorSet ∧
      (∀ c ∈ [(Call.stake "A" (5 * 10 ^ 18), (0 : Time)), (.rotateValidators, 1)], c.1.KeepsFloor) ∧
      Floor (Call.runAll ⟨.free, floorSet⟩ [(.stake "A" (5 * 10 ^ 18), 0), (.rotateValidators, 1)]).1.set ∧
      ∀ v ∈ (Call.runAll ⟨.free, floorSet⟩ [(.stake "A" (5 * 10 ^ 18), 0), (.rotateValidators, 1)]).1.set.validators.vals,
        0 ≤ v.power ∧ v.power ≤ maxPower :=
  have hm : 0 ≤ floorSet.minStake := by decide
  have h : Floor floorSet := by decide
  have hcs : ∀ c ∈ [(Call.stake "A" (5 * 10 ^ 18), (0 : Time)), (.rotateValidators, 1)], c.1.KeepsFloor := by
    simp [Call.KeepsFloor]
  ⟨hm, h, hcs, Call.runAll_floor (g := ⟨.free, floorSet⟩) hm h hcs⟩

/-- `Stake` of minus 20 coins on a set that satisfies the invariant succeeds and stores a
stake of minus 10 coins, below `minStake`, with power -10. -/
theorem stake_negative_amount_breaks_floor :
    Floor floorSet ∧ (stake floorSet "A" (-(20 * 10 ^ 18)) 0).result = .ok () ∧
      ¬Floor (stake floorSet "A" (-(20 * 10 ^ 18)) 0).set ∧
      (stake floorSet "A" (-(20 * 10 ^ 18)) 0).set.validators.vals.map (fun v => (v.stake, v.power)) =
        [(-(10 * 10 ^ 18), -10)] :=
  ⟨by decide, rfl, by decide, rfl⟩

/-! ## Public keys -/

/-- What the views emit: an active validator with a 32-byte key. -/
def isEligible (vs : ValidatorSet) (v : Validator) : Bool := isActive vs v && v.pubKey.length == 32

theorem filter_isEligible (vs : ValidatorSet) (l : List Validator) :
    l.filter (isEligible vs) = (l.filter (isActive vs)).filter (·.pubKey.length == 32) := by
  rw [List.filter_filter]
  congr
  funext v
  exact Bool.and_comm _ _

theorem key_of_mem_filterMap_toUpdate {l : List Validator} {u : ValidatorUpdate}
    (hu : u ∈ l.filterMap toUpdate?) : u.pubKeyBytes = [] := by
  rw [filterMap_toUpdate] at hu
  obtain ⟨v, -, rfl⟩ := List.mem_map.1 hu
  rfl

theorem keys_nodup_iff {us : List ValidatorUpdate} (h : ∀ u ∈ us, u.pubKeyBytes = []) :
    (us.map (·.pubKeyBytes)).Nodup ↔ us.length ≤ 1 := by
  have hr : us.map (·.pubKeyBytes) = List.replicate us.length [] :=
    List.eq_replicate_iff.2 ⟨List.length_map _ _, fun k hk => by
      obtain ⟨u, hu, rfl⟩ := List.mem_map.1 hk
      exact h u hu⟩
  rw [hr, List.nodup_replicate]

theorem cutToMax_subperm {k : Int} {l c : List Validator} (h : cutToMax k l = some c) : c <+~ l := by
  unfold cutToMax at h
  split_ifs at h <;> cases h
  · exact (List.take_sublist _ _).subperm.trans (perm_insertionSort _ l).subperm
  · exact List.Subperm.refl l

theorem toCometBFTValidators_length (vs : ValidatorSet) :
    (toCometBFTValidators vs).length = (vs.validators.vals.filter (isEligible vs)).length := by
  rw [toCometBFTValidators, filterMap_toUpdate, List.length_map, activeByStake, filter_isEligible]
  exact ((perm_insertionSort _ _).filter _).length_eq

theorem rotateValidators_key {vs vs' : ValidatorSet} {us : List ValidatorUpdate}
    (h : rotateValidators vs = some (us, vs')) {u : ValidatorUpdate} (hu : u ∈ us) : u.pubKeyBytes = [] := by
  obtain ⟨c, -, hcu⟩ := Option.map_eq_some'.1 h
  cases (Prod.mk.inj hcu).1
  exact key_of_mem_filterMap_toUpdate hu

def sharedKeyGenesis : List GenesisValidator :=
  [⟨"A", sampleKey, 20 * 10 ^ 18⟩, ⟨"B", sampleKey, 20 * 10 ^ 18⟩]

def tiedPair : ValidatorSet := ⟨⟨[tiedA, tiedB], by decide⟩, 10 * 10 ^ 18, 100⟩

end OxyChain.Validators

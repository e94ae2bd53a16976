import OxyChain.Validators.Calls

/-! # The validator set and the map's order

Two iteration orders of one map are two permutations of one list; `sort.Slice` leaves equal
stakes in either order.
-/

namespace OxyChain.Validators

open List

/-- Two states of one set that differ at most in the map's iteration order. -/
structure SameSet (vs₁ vs₂ : ValidatorSet) : Prop where
  perm : vs₁.validators.vals ~ vs₂.validators.vals
  minStake : vs₁.minStake = vs₂.minStake
  maxValidators : vs₁.maxValidators = vs₂.maxValidators

variable {vs₁ vs₂ : ValidatorSet} {l l₁ l₂ : List Validator}

/-! ## The map's operations -/

namespace VMap

variable {m₁ m₂ : VMap}

theorem find?_perm (h : m₁.vals ~ m₂.vals) (a : String) : m₁.find? a = m₂.find? a := by
  unfold find?
  cases h₁ : m₁.vals.find? (·.address == a) with
  | none =>
    refine (List.find?_eq_none.2 fun v hv => ?_).symm
    exact List.find?_eq_none.1 h₁ v (h.mem_iff.2 hv)
  | some v =>
    obtain ⟨v', h₂⟩ := Option.isSome_iff_exists.1 (List.find?_isSome.2
      ⟨v, h.mem_iff.1 (List.mem_of_find?_eq_some h₁), List.find?_some h₁⟩)
    have ha₁ : v.address = a := by simpa using List.find?_some h₁
    have ha₂ : v'.address = a := by simpa using List.find?_some h₂
    rw [h₂]
    exact congrArg some (List.inj_on_of_nodup_map m₁.keyed (List.mem_of_find?_eq_some h₁)
      (h.mem_iff.2 (List.mem_of_find?_eq_some h₂)) (ha₁.trans ha₂.symm))

theorem erase_perm (h : m₁.vals ~ m₂.vals) (a : String) : (m₁.erase a).vals ~ (m₂.erase a).vals :=
  h.filter _

theorem set_perm (h : m₁.vals ~ m₂.vals) (v : Validator) : (m₁.set v).vals ~ (m₂.set v).vals := by
  have hany : m₁.vals.any (·.address == v.address) = m₂.vals.any (·.address == v.address) := by
    rw [Bool.eq_iff_iff, List.any_eq_true, List.any_eq_true]
    exact ⟨fun ⟨x, hx, e⟩ => ⟨x, h.mem_iff.1 hx, e⟩, fun ⟨x, hx, e⟩ => ⟨x, h.mem_iff.2 hx, e⟩⟩
  unfold set
  by_cases h₁ : m₁.vals.any (·.address == v.address) = true
  · rw [dif_pos h₁, dif_pos (hany ▸ h₁)]
    exact h.map _
  · rw [dif_neg h₁, dif_neg (hany ▸ h₁)]
    exact h.append_right _

end VMap

theorem SameSet.withMap (h : SameSet vs₁ vs₂) {m₁ m₂ : VMap} (hm : m₁.vals ~ m₂.vals) :
    SameSet (vs₁.withMap m₁) (vs₂.withMap m₂) :=
  ⟨hm, h.minStake, h.maxValidators⟩

theorem isActive_eq (h : SameSet vs₁ vs₂) : isActive vs₁ = isActive vs₂ := by
  funext v
  simp only [isActive, h.minStake]

/-! ## The least stake -/

theorem lowerStake_spec (o : Option Validator) (v : Validator) :
    ∃ x, lowerStake o v = some x ∧ x ∈ v :: o.toList ∧ ∀ u ∈ v :: o.toList, x.stake ≤ u.stake := by
  cases o with
  | none => exact ⟨v, rfl, by simp⟩
  | some w =>
    by_cases h : v.stake < w.stake
    · exact ⟨v, if_pos h, by simp, by simp; omega⟩
    · exact ⟨w, if_neg h, by simp, by simp; omega⟩

theorem foldl_lowerStake (l : List Validator) (o : Option Validator) {m : Validator}
    (h : l.foldl lowerStake o = some m) :
    m ∈ o.toList ++ l ∧ ∀ u ∈ o.toList ++ l, m.stake ≤ u.stake := by
  induction l generalizing o with
  | nil => cases o <;> simp_all
  | cons v l ih =>
    obtain ⟨x, hx, hxm, hxs⟩ := lowerStake_spec o v
    rw [List.foldl_cons, hx] at h
    obtain ⟨hm, hms⟩ := ih (some x) h
    have hmx : m.stake ≤ x.stake := hms x (List.mem_cons_self _ _)
    simp only [Option.toList_some, List.singleton_append, List.mem_cons,
      List.mem_append] at hm hms hxm hxs ⊢
    refine ⟨by rcases hm with rfl | hm <;> tauto, fun u hu => ?_⟩
    rcases hu with hu | rfl | hu
    · exact hmx.trans (hxs u (.inr hu))
    · exact hmx.trans (hxs _ (.inl rfl))
    · exact hms u (.inr hu)

theorem foldl_lowerStake_isSome (l : List Validator) (x : Validator) :
    (l.foldl lowerStake (some x)).isSome := by
  induction l generalizing x with
  | nil => rfl
  | cons v l ih =>
    obtain ⟨y, hy, -⟩ := lowerStake_spec (some x) v
    rw [List.foldl_cons, hy]
    exact ih y

theorem findLowestStakeValidator_spec {m : Validator} (h : findLowestStakeValidator l = some m) :
    m ∈ l ∧ ∀ u ∈ l, m.stake ≤ u.stake := by
  simpa using foldl_lowerStake l none h

theorem findLowestStakeValidator_eq_none : findLowestStakeValidator l = none ↔ l = [] := by
  cases l with
  | nil => exact iff_of_true rfl rfl
  | cons v l =>
    exact iff_of_false (Option.isSome_iff_ne_none.1 (foldl_lowerStake_isSome l v))
      (List.cons_ne_nil v l)

theorem findLowestStakeValidator_stake (h : l₁ ~ l₂) :
    (findLowestStakeValidator l₁).map (·.stake) = (findLowestStakeValidator l₂).map (·.stake) := by
  have hn : findLowestStakeValidator l₁ = none ↔ findLowestStakeValidator l₂ = none := by
    rw [findLowestStakeValidator_eq_none, findLowestStakeValidator_eq_none]
    exact ⟨fun e => by subst e; exact h.nil_eq.symm, fun e => by subst e; exact h.eq_nil⟩
  rcases h₁ : findLowestStakeValidator l₁ with _ | m₁ <;>
    rcases h₂ : findLowestStakeValidator l₂ with _ | m₂ <;> simp [h₁, h₂] at hn
  · rfl
  · obtain ⟨hm₁, hs₁⟩ := findLowestStakeValidator_spec h₁
    obtain ⟨hm₂, hs₂⟩ := findLowestStakeValidator_spec h₂
    exact congrArg some (le_antisymm (hs₁ _ (h.mem_iff.2 hm₂)) (hs₂ _ (h.mem_iff.1 hm₁)))

def UniqueLowest (l : List Validator) : Prop :=
  ∀ v ∈ l, ∀ w ∈ l, (∀ u ∈ l, v.stake ≤ u.stake) → (∀ u ∈ l, w.stake ≤ u.stake) → v = w

theorem findLowestStakeValidator_eq (h : l₁ ~ l₂) (hu : UniqueLowest l₁) :
    findLowestStakeValidator l₁ = findLowestStakeValidator l₂ := by
  have hs := findLowestStakeValidator_stake h
  rcases h₁ : findLowestStakeValidator l₁ with _ | m₁ <;>
    rcases h₂ : findLowestStakeValidator l₂ with _ | m₂ <;> simp [h₁, h₂] at hs ⊢
  obtain ⟨hm₁, hs₁⟩ := findLowestStakeValidator_spec h₁
  obtain ⟨hm₂, hs₂⟩ := findLowestStakeValidator_spec h₂
  exact hu _ hm₁ _ (h.mem_iff.2 hm₂) hs₁ fun u hu => hs ▸ hs₁ u hu

/-! ## The methods -/

structure Outcome.Same {α : Type} (o₁ o₂ : Outcome α) : Prop where
  result : o₁.result = o₂.result
  saved : o₁.saved = o₂.saved
  set : SameSet o₁.set o₂.set

section

variable {α : Type} (h : SameSet vs₁ vs₂)
include h

theorem Outcome.Same.reject (msg : String) :
    Outcome.Same (Outcome.reject vs₁ msg : Outcome α) (Outcome.reject vs₂ msg) :=
  ⟨rfl, rfl, h⟩

theorem Outcome.Same.store {m₁ m₂ : VMap} (hm : m₁.vals ~ m₂.vals) (a : α) :
    Outcome.Same (Outcome.store (vs₁.withMap m₁) a) (Outcome.store (vs₂.withMap m₂) a) :=
  ⟨rfl, rfl, h.withMap hm⟩

theorem makeRoom_isSome (initialStake : Int) :
    (makeRoom vs₁ initialStake).isSome = (makeRoom vs₂ initialStake).isSome := by
  have hs := findLowestStakeValidator_stake h.perm
  unfold makeRoom
  rw [h.perm.length_eq, h.maxValidators]
  split_ifs
  · rcases h₁ : findLowestStakeValidator vs₁.validators.vals with _ | m₁ <;>
      rcases h₂ : findLowestStakeValidator vs₂.validators.vals with _ | m₂ <;> simp [h₁, h₂] at hs ⊢
    rw [hs]
    split_ifs <;> rfl
  · rfl

theorem makeRoom_perm (hu : UniqueLowest vs₁.validators.vals) (initialStake : Int) :
    Option.Rel (fun m₁ m₂ : VMap => m₁.vals ~ m₂.vals)
      (makeRoom vs₁ initialStake) (makeRoom vs₂ initialStake) := by
  unfold makeRoom
  rw [h.perm.length_eq, h.maxValidators, findLowestStakeValidator_eq h.perm hu]
  split_ifs
  · rcases findLowestStakeValidator vs₂.validators.vals with _ | m
    · exact .none
    · dsimp only
      split_ifs
      · exact .some (VMap.erase_perm h.perm _)
      · exact .none
  · exact .some h.perm

theorem registerValidator_same (address : String) (pubKey : List UInt8) (initialStake : Int)
    (now : Time) :
    (registerValidator vs₁ address pubKey initialStake now).result =
        (registerValidator vs₂ address pubKey initialStake now).result ∧
      (UniqueLowest vs₁.validators.vals →
        (registerValidator vs₁ address pubKey initialStake now).Same
          (registerValidator vs₂ address pubKey initialStake now)) := by
  have hi := makeRoom_isSome h initialStake
  unfold registerValidator
  rw [VMap.find?_perm h.perm, h.minStake]
  split_ifs
  · exact ⟨rfl, fun _ => .reject h _⟩
  · exact ⟨rfl, fun _ => .reject h _⟩
  · rcases h₁ : makeRoom vs₁ initialStake with _ | m₁ <;>
      rcases h₂ : makeRoom vs₂ initialStake with _ | m₂ <;> simp [h₁, h₂] at hi
    · exact ⟨rfl, fun _ => .reject h _⟩
    · refine ⟨rfl, fun hu => .store h ?_ _⟩
      have hm := makeRoom_perm h hu initialStake
      rw [h₁, h₂] at hm
      cases hm with
      | some hm => exact VMap.set_perm hm _

theorem stake_same (address : String) (amount : Int) (now : Time) :
    (stake vs₁ address amount now).Same (stake vs₂ address amount now) := by
  unfold stake
  rw [VMap.find?_perm h.perm]
  rcases vs₂.validators.find? address with _ | v
  · exact .reject h _
  · dsimp only
    split_ifs
    · exact .reject h _
    · exact .store h (VMap.set_perm h.perm _) ()

theorem unstake_same (address : String) (amount : Int) (now : Time) :
    (unstake vs₁ address amount now).Same (unstake vs₂ address amount now) := by
  unfold unstake
  rw [VMap.find?_perm h.perm, h.minStake]
  rcases vs₂.validators.find? address with _ | v
  · exact .reject h _
  · dsimp only
    split_ifs
    · exact .reject h _
    · exact .reject h _
    · exact .store h (VMap.set_perm h.perm _) ()

theorem slash_same (address : String) (slashPercent jailDuration : Int) (now : Time) :
    (slash vs₁ address slashPercent jailDuration now).Same
      (slash vs₂ address slashPercent jailDuration now) := by
  unfold slash
  rw [VMap.find?_perm h.perm, h.minStake]
  rcases vs₂.validators.find? address with _ | v
  · exact .reject h _
  · dsimp only
    split_ifs
    · exact .store h (VMap.erase_perm (VMap.set_perm h.perm _) _) ()
    · exact .store h (VMap.set_perm h.perm _) ()

theorem unjail_same (address : String) (now : Time) :
    (unjail vs₁ address now).Same (unjail vs₂ address now) := by
  unfold unjail
  rw [VMap.find?_perm h.perm]
  rcases vs₂.validators.find? address with _ | v
  · exact .reject h _
  · dsimp only
    split_ifs
    · exact .reject h _
    · exact .reject h _
    · exact .store h (VMap.set_perm h.perm _) ()

theorem updateValidatorActivity_same (address : String) (missedBlock : Bool) (now : Time) :
    SameSet (updateValidatorActivity vs₁ address missedBlock now)
      (updateValidatorActivity vs₂ address missedBlock now) := by
  unfold updateValidatorActivity
  rw [VMap.find?_perm h.perm]
  rcases vs₂.validators.find? address with _ | v
  · exact h
  · exact h.withMap (VMap.set_perm h.perm _)

end

/-! ## The sorted views and the rotation -/

instance : IsTotal Validator stakeAtLeast := ⟨fun a b => le_total b.stake a.stake⟩

instance : IsTrans Validator stakeAtLeast := ⟨fun _ _ _ h₁ h₂ => le_trans h₂ h₁⟩

def stakeAbove (a b : Validator) : Prop := b.stake < a.stake

instance : IsAntisymm Validator stakeAbove := ⟨fun _ _ h₁ h₂ => absurd (h₁.trans h₂) (lt_irrefl _)⟩

theorem sortByStake_sorted (hd : (l.map Validator.stake).Nodup) :
    (sortByStake l).Sorted stakeAbove := by
  have hd' := ((perm_insertionSort stakeAtLeast l).map Validator.stake).nodup_iff.2 hd
  exact ((sorted_insertionSort stakeAtLeast l).and (List.pairwise_map.1 hd')).imp
    fun ⟨h₁, h₂⟩ => lt_of_le_of_ne h₁ (Ne.symm h₂)

theorem sortByStake_eq_of_perm (h : l₁ ~ l₂) (hd : (l₁.map Validator.stake).Nodup) :
    sortByStake l₁ = sortByStake l₂ :=
  List.eq_of_perm_of_sorted ((perm_insertionSort _ l₁).trans (h.trans (perm_insertionSort _ l₂).symm))
    (sortByStake_sorted hd) (sortByStake_sorted ((h.map _).nodup_iff.1 hd))

theorem activeByStake_perm (h : SameSet vs₁ vs₂) : activeByStake vs₁ ~ activeByStake vs₂ := by
  unfold activeByStake sortByStake
  rw [isActive_eq h]
  exact (perm_insertionSort _ _).trans ((h.perm.filter _).trans (perm_insertionSort _ _).symm)

theorem toCometBFTValidators_perm (h : SameSet vs₁ vs₂) :
    toCometBFTValidators vs₁ ~ toCometBFTValidators vs₂ :=
  (activeByStake_perm h).filterMap _

/-- The rotation's cut is decided by stakes alone: it cuts nothing, or no two active
validators share a stake. -/
def CutByStake (vs : ValidatorSet) : Prop :=
  (vs.validators.vals.filter (isActive vs)).length ≤ vs.maxValidators ∨
    ((vs.validators.vals.filter (isActive vs)).map Validator.stake).Nodup

theorem refreshPowers_filter (vs : ValidatorSet) (m : VMap) :
    (refreshPowers m).vals.filter (isActive vs) =
      (m.vals.filter (isActive vs)).map fun v => { v with power := calculatePower v.stake } :=
  List.filter_map _ _

theorem CutByStake.copy {vs : ValidatorSet} (hc : CutByStake vs) :
    ((refreshPowers vs.validators).vals.filter (isActive vs)).length ≤ vs.maxValidators ∨
      (((refreshPowers vs.validators).vals.filter (isActive vs)).map Validator.stake).Nodup := by
  rw [refreshPowers_filter, List.length_map, List.map_map]
  exact hc

theorem cutToMax_perm (n : Int) (h : l₁ ~ l₂) :
    Option.Rel (fun k₁ k₂ => (l₁.length ≤ n ∨ (l₁.map Validator.stake).Nodup) → k₁ ~ k₂)
      (cutToMax n l₁) (cutToMax n l₂) := by
  unfold cutToMax
  rw [← h.length_eq]
  split_ifs with hn
  · exact .none
  · exact .some fun hd => by rw [sortByStake_eq_of_perm h (hd.resolve_left (by omega))]
  · exact .some fun _ => h

theorem Option.rel_map {α β γ δ : Type} {r : α → β → Prop} {s : γ → δ → Prop} {f : α → γ}
    {g : β → δ} (hf : ∀ a b, r a b → s (f a) (g b)) :
    ∀ {o₁ o₂}, Option.Rel r o₁ o₂ → Option.Rel s (o₁.map f) (o₂.map g)
  | _, _, .none => .none
  | _, _, .some h => .some (hf _ _ h)

theorem rotateValidators_same (h : SameSet vs₁ vs₂) :
    Option.Rel (fun r₁ r₂ => SameSet r₁.2 r₂.2 ∧ (CutByStake vs₁ → r₁.1 ~ r₂.1))
      (rotateValidators vs₁) (rotateValidators vs₂) := by
  have hp : (refreshPowers vs₁.validators).vals ~ (refreshPowers vs₂.validators).vals :=
    h.perm.map _
  unfold rotateValidators
  dsimp only
  rw [← h.maxValidators, ← isActive_eq h]
  exact Option.rel_map (fun _ _ hk => ⟨h.withMap hp, fun hc => (hk hc.copy).filterMap _⟩)
    (cutToMax_perm _ (hp.filter _))

/-! ## Replicas -/

theorem foldl_set_perm {m₁ m₂ : VMap} (h : m₁.vals ~ m₂.vals) (f : GenesisValidator → Validator) :
    ∀ gvs : List GenesisValidator,
      (gvs.foldl (fun m gv => m.set (f gv)) m₁).vals ~ (gvs.foldl (fun m gv => m.set (f gv)) m₂).vals
  | [] => h
  | gv :: gvs => foldl_set_perm (VMap.set_perm h (f gv)) f gvs

/-- The calls whose effect the map's order can change: a registration while more than one
validator holds the least stake. -/
def Call.OrderFree (vs : ValidatorSet) : Call → Prop
  | .registerValidator .. => UniqueLowest vs.validators.vals
  | _ => True

theorem Call.run_same (h : SameSet vs₁ vs₂) (now : Time) {c : Call} (hc : c.OrderFree vs₁) :
    Option.Rel (fun r₁ r₂ => SameSet r₁.1 r₂.1 ∧ r₁.2 = r₂.2) (c.run vs₁ now) (c.run vs₂ now) := by
  cases c with
  | registerValidator a k s =>
    have hs := (registerValidator_same h a k s now).2 hc
    exact .some ⟨hs.set, hs.saved⟩
  | stake a x => exact .some ⟨(stake_same h a x now).set, (stake_same h a x now).saved⟩
  | unstake a x => exact .some ⟨(unstake_same h a x now).set, (unstake_same h a x now).saved⟩
  | slash a p d => exact .some ⟨(slash_same h a p d now).set, (slash_same h a p d now).saved⟩
  | unjail a => exact .some ⟨(unjail_same h a now).set, (unjail_same h a now).saved⟩
  | updateValidatorActivity a m => exact .some ⟨updateValidatorActivity_same h a m now, rfl⟩
  | rotateValidators => exact Option.rel_map (fun _ _ hr => ⟨hr.1, rfl⟩) (rotateValidators_same h)
  | initializeGenesisValidators gvs => exact .some ⟨h.withMap (foldl_set_perm h.perm _ gvs), rfl⟩
  | loadValidators l =>
    cases l with
    | none => exact .some ⟨h, rfl⟩
    | some l => exact .some ⟨h.withMap (.refl _), rfl⟩
  | saveValidators | getActiveValidators | toCometBFTValidators => exact .some ⟨h, rfl⟩

theorem Call.savesUnderLock_same (h : SameSet vs₁ vs₂) (now : Time) {c : Call}
    (hc : c.OrderFree vs₁) : c.savesUnderLock vs₁ now = c.savesUnderLock vs₂ now := by
  cases c with
  | registerValidator a k s => exact ((registerValidator_same h a k s now).2 hc).saved
  | stake a x => exact (stake_same h a x now).saved
  | unstake a x => exact (unstake_same h a x now).saved
  | slash a p d => exact (slash_same h a p d now).saved
  | unjail a => exact (unjail_same h a now).saved
  | _ => rfl

def Guarded.Same (g₁ g₂ : Guarded) : Prop := g₁.mutex = g₂.mutex ∧ SameSet g₁.set g₂.set

theorem Call.exec_same {g₁ g₂ : Guarded} (h : g₁.Same g₂) (now : Time) {c : Call}
    (hc : c.OrderFree g₁.set) : (c.exec g₁ now).1.Same (c.exec g₂ now).1 := by
  by_cases hm : g₁.mutex = .free
  · have hr := Call.run_same h.2 now hc
    rw [Call.exec_free hm, Call.exec_free (h.1 ▸ hm), Call.savesUnderLock_same h.2 now hc]
    revert hr
    rcases c.run g₁.set now with _ | ⟨vs₁', b₁⟩ <;> rcases c.run g₂.set now with _ | ⟨vs₂', b₂⟩ <;>
      intro hr <;> cases hr
    · exact ⟨rfl, h.2⟩
    · dsimp only
      split_ifs <;> exact ⟨rfl, ‹_ ∧ _›.1⟩
  · rw [Call.exec_held hm, Call.exec_held (h.1 ▸ hm)]
    exact h

def Call.AllOrderFree : Guarded → List (Call × Time) → Prop
  | _, [] => True
  | g, (c, now) :: cs => c.OrderFree g.set ∧ AllOrderFree (c.exec g now).1 cs

theorem Call.runAll_same :
    ∀ (cs : List (Call × Time)) {g₁ g₂ : Guarded}, g₁.Same g₂ → AllOrderFree g₁ cs →
      (runAll g₁ cs).1.Same (runAll g₂ cs).1
  | [], _, _, h, _ => h
  | (_, now) :: cs, _, _, h, ⟨hc, hcs⟩ => Call.runAll_same cs (Call.exec_same h now hc) hcs

/-! ## Two orders of one set -/

def tiedA : Validator := newValidator "A" (List.replicate 32 1) (20 * 10 ^ 18) 0

def tiedB : Validator := newValidator "B" (List.replicate 32 2) (20 * 10 ^ 18) 0

def tiedAB : ValidatorSet := ⟨⟨[tiedA, tiedB], by decide⟩, 10 * 10 ^ 18, 1⟩

def tiedBA : ValidatorSet := ⟨⟨[tiedB, tiedA], by decide⟩, 10 * 10 ^ 18, 1⟩

def longB : Validator := newValidator "B" (List.replicate 33 2) (20 * 10 ^ 18) 0

def tiedALong : ValidatorSet := ⟨⟨[tiedA, longB], by decide⟩, 10 * 10 ^ 18, 1⟩

def tiedLongA : ValidatorSet := ⟨⟨[longB, tiedA], by decide⟩, 10 * 10 ^ 18, 1⟩

end OxyChain.Validators

import OxyChain.Node.AppHash
import OxyChain.Validators.Invariants

/-! # The validator updates of `FinalizeBlock`

Every 100 blocks `FinalizeBlock` compares the set's own view, `ToCometBFTValidators`, with
what `RotateValidators` returns for the same set, and returns the latter when the two
differ. Both carry empty keys, and the validators the consensus engine holds are never
looked at.
-/

namespace OxyChain.Abci

open Validators

variable {env : Env} {n n' : Node} {height : Int} {us : List ValidatorUpdate}

theorem rotation_updates (h : rotation n height = .ok (n', us)) :
    us = [] ∨ ∃ vs vs', n.validators = some vs ∧ rotateValidators vs = some (us, vs') ∧
      n'.validators = some vs' := by
  unfold rotation at h
  repeat' first | split at h | split_ifs at h | dsimp only at h
  all_goals
    simp only [pure, Except.pure, throw, throwThe, MonadExceptOf.throw, Except.ok.injEq,
      Prod.mk.injEq, reduceCtorEq] at h
  all_goals first
    | exact .inl h.2.symm
    | (obtain ⟨rfl, rfl⟩ := h; exact .inr ⟨_, _, ‹_›, ‹_›, rfl⟩)

theorem finalizeBlock_updates_keys {req : FinalizeBlockRequest} {resp : FinalizeBlockResponse}
    {c : List String} (h : finalizeBlock env n req = (n', .ok (resp, c))) {u : ValidatorUpdate}
    (hu : u ∈ resp.validatorUpdates) : u.pubKeyBytes = [] := by
  unfold finalizeBlock at h
  dsimp only at h
  split at h
  · rename_i hr
    obtain ⟨rfl, rfl, -⟩ := h
    rcases rotation_updates hr with rfl | ⟨vs, vs', -, hr', -⟩
    · cases hu
    · exact rotateValidators_key hr' hu
  · cases h

end OxyChain.Abci

namespace OxyChain.Node

open Abci Validators

theorem finalizeBlock_quiet (env : Env) (n : Abci.Node) {h : Int} (hq : ¬(0 < h ∧ h % 100 = 0))
    (t : Int) : finalizeBlock env n ⟨h, t, []⟩ = (beginBlock n ⟨h, t, []⟩, .ok (⟨[], []⟩, [])) := by
  simp only [finalizeBlock, deliverTxs, Abci.rotation, if_neg hq]
  rfl

variable (env : Env) (cfg : Config) in
theorem run_quiet (t : Int) (rest : List Request) :
    ∀ hs : List Int, (∀ h ∈ hs, ¬(0 < h ∧ h % 100 = 0)) → ∀ n : Abci.Node,
      ∃ n', n'.validators = n.validators ∧ n'.validatorsLocked = n.validatorsLocked ∧
        run env cfg (.up n) (hs.map (fun h => .finalizeBlock ⟨h, t, []⟩) ++ rest) =
          ((run env cfg (.up n') rest).1,
            List.replicate hs.length (.finalizeBlock ⟨[], []⟩ []) ++ (run env cfg (.up n') rest).2)
  | [], _, n => ⟨n, rfl, rfl, rfl⟩
  | h :: hs, hq, n => by
    obtain ⟨n', hv, hl, hr⟩ :=
      run_quiet t rest hs (fun x hx => hq x (.tail _ hx)) (beginBlock n ⟨h, t, []⟩)
    refine ⟨n', hv, hl, ?_⟩
    rw [List.map_cons, List.cons_append, run_cons]
    simp only [step, stepUp, finalizeBlock_quiet env n (hq h (.head _)), hr]
    rfl

/-! ## The comparison of `hasValidatorChanges` -/

section Changes

variable {l current updates : List ValidatorUpdate} {k : Bytes}

theorem powerOf_eq_none_iff : powerOf l k = none ↔ ∀ u ∈ l, u.pubKeyBytes ≠ k := by
  simp [powerOf, List.find?_eq_none]

theorem powerOf_ne_none_iff : powerOf l k ≠ none ↔ k ∈ (l.map (·.pubKeyBytes)).dedup := by
  simp [powerOf_eq_none_iff, List.mem_dedup]

theorem not_length_lt_of_mem_keys (hl : ∀ u ∈ l, u.pubKeyBytes.length = 32)
    (hk : k ∈ (l.map (·.pubKeyBytes)).dedup) : ¬ k.length < 8 := by
  obtain ⟨u, hu, rfl⟩ := List.mem_map.1 (List.mem_dedup.1 hk)
  rw [hl u hu]
  omega

theorem powerOf_eq_some_iff (hl : (l.map (·.pubKeyBytes)).Nodup) {p : Int} :
    powerOf l k = some p ↔ ⟨k, p⟩ ∈ l := by
  have hr : (l.reverse.map (·.pubKeyBytes)).Nodup := by rw [List.map_reverse]; exact List.nodup_reverse.2 hl
  constructor
  · intro h
    obtain ⟨u, hu, rfl⟩ := Option.map_eq_some'.1 h
    have hk : u.pubKeyBytes = k := by simpa using List.find?_some hu
    subst hk
    exact List.mem_reverse.1 (List.mem_of_find?_eq_some hu)
  · intro h
    obtain ⟨u, hu⟩ : ∃ u, l.reverse.find? (·.pubKeyBytes == k) = some u := by
      rcases hf : l.reverse.find? (·.pubKeyBytes == k) with _ | u
      · exact absurd (List.find?_eq_none.1 hf _ (List.mem_reverse.2 h)) (by simp)
      · exact ⟨u, hf⟩
    have hm := List.mem_of_find?_eq_some hu
    have hk : u.pubKeyBytes = k := by simpa using List.find?_some hu
    rw [powerOf, hu, List.inj_on_of_nodup_map hr hm (List.mem_reverse.2 h) hk]
    rfl

theorem powerOf_eq_iff (hc : (current.map (·.pubKeyBytes)).Nodup)
    (hu : (updates.map (·.pubKeyBytes)).Nodup) :
    (∀ k, powerOf current k = powerOf updates k) ↔ ∀ u, u ∈ current ↔ u ∈ updates := by
  constructor
  · intro h u
    rw [← powerOf_eq_some_iff hc, ← powerOf_eq_some_iff hu, h]
  · intro h k
    exact Option.ext fun p => by simp only [Option.mem_def, powerOf_eq_some_iff hc, powerOf_eq_some_iff hu, h]

end Changes

/-- On lists of 32-byte keys, the keys of each list distinct, `hasValidatorChanges` returns
without panicking, and returns `false` exactly when the two lists hold the same
`(key, power)` pairs, that is, the same map from key to power. Its first test, of the
lengths, is implied by the two loops. -/
theorem hasValidatorChanges_iff (current updates : List ValidatorUpdate)
    (hc : ∀ u ∈ current, u.pubKeyBytes.length = 32) (hu : ∀ u ∈ updates, u.pubKeyBytes.length = 32)
    (hcd : (current.map (·.pubKeyBytes)).Nodup) (hud : (updates.map (·.pubKeyBytes)).Nodup) :
    ∃ b, hasValidatorChanges current updates = some b ∧
      (b = false ↔ ∀ u, u ∈ current ↔ u ∈ updates) := by
  rw [← powerOf_eq_iff hcd hud]
  unfold hasValidatorChanges
  split_ifs with hlen
  · refine ⟨true, rfl, iff_of_false (by simp) ?_⟩
    rw [powerOf_eq_iff hcd hud]
    exact fun h => hlen ((List.perm_ext_iff_of_nodup hcd.of_map hud.of_map).2 h).length_eq
  · dsimp only
    split
    · rename_i k hk
      have hne : powerOf current k ≠ powerOf updates k := by simpa using List.find?_some hk
      have hk8 := not_length_lt_of_mem_keys hu (List.mem_of_find?_eq_some hk)
      refine ⟨true, ?_, iff_of_false (by simp) fun h => hne (h k)⟩
      by_cases h0 : powerOf current k = none <;> simp [h0, hk8]
    · rename_i hn
      split
      · rename_i k hk
        have hnone : powerOf updates k = none := by simpa using List.find?_some hk
        have hmem := List.mem_of_find?_eq_some hk
        refine ⟨true, by simp [not_length_lt_of_mem_keys hc hmem], iff_of_false (by simp) fun h => ?_⟩
        exact powerOf_ne_none_iff.2 hmem (h k ▸ hnone)
      · rename_i hn'
        refine ⟨false, rfl, iff_of_true rfl fun k => ?_⟩
        by_cases hk : powerOf updates k = none
        · by_contra hcur
          rw [hk] at hcur
          simpa [hk] using List.find?_eq_none.1 hn' k (powerOf_ne_none_iff.1 hcur)
        · simpa using List.find?_eq_none.1 hn k (powerOf_ne_none_iff.1 hk)

theorem hasValidatorChanges_iff_swapped :
    (∀ u ∈ [(⟨List.replicate 32 1, 5⟩ : ValidatorUpdate), ⟨List.replicate 32 2, 20⟩],
        u.pubKeyBytes.length = 32) ∧
      (∀ u ∈ [(⟨List.replicate 32 2, 20⟩ : ValidatorUpdate), ⟨List.replicate 32 1, 5⟩],
        u.pubKeyBytes.length = 32) ∧
      ([(⟨List.replicate 32 1, 5⟩ : ValidatorUpdate), ⟨List.replicate 32 2, 20⟩].map
        (·.pubKeyBytes)).Nodup ∧
      ([(⟨List.replicate 32 2, 20⟩ : ValidatorUpdate), ⟨List.replicate 32 1, 5⟩].map
        (·.pubKeyBytes)).Nodup ∧
      ∃ b, hasValidatorChanges [⟨List.replicate 32 1, 5⟩, ⟨List.replicate 32 2, 20⟩]
          [⟨List.replicate 32 2, 20⟩, ⟨List.replicate 32 1, 5⟩] = some b ∧
        (b = false ↔ ∀ u, u ∈ [(⟨List.replicate 32 1, 5⟩ : ValidatorUpdate), ⟨List.replicate 32 2, 20⟩] ↔
          u ∈ [(⟨List.replicate 32 2, 20⟩ : ValidatorUpdate), ⟨List.replicate 32 1, 5⟩]) :=
  ⟨by decide, by decide, by decide, by decide,
    hasValidatorChanges_iff _ _ (by decide) (by decide) (by decide) (by decide)⟩

/-! ## A genesis validator below `minStake` -/

def genesisKey (i : UInt8) : Bytes := List.replicate 32 i

def genesisUpdates : List ValidatorUpdate :=
  [⟨genesisKey 1, 5⟩, ⟨genesisKey 2, 20⟩, ⟨genesisKey 3, 30⟩]

def keyEnv : Env :=
  { creditEnv (fun _ => .ok "") (fun _ => .ok 0) with pubKeyAddress := fun k => toString (k.headD 0) }

def genesisSet : ValidatorSet :=
  ⟨⟨[newValidator "1" (genesisKey 1) (5 * 10 ^ 18) 0, newValidator "2" (genesisKey 2) (20 * 10 ^ 18) 0,
      newValidator "3" (genesisKey 3) (30 * 10 ^ 18) 0], by decide⟩, 10 * 10 ^ 18, 100⟩

def quietHeights : List Int := (List.range 99).map fun i : Nat => (i : Int) + 1

theorem quietHeights_quiet : ∀ h ∈ quietHeights, ¬(0 < h ∧ h % 100 = 0) := by
  simp only [quietHeights, List.mem_map, List.mem_range]
  rintro _ ⟨i, hi, rfl⟩ ⟨-, h⟩
  omega

def genesisRun : List Request :=
  .restart :: .initChain ⟨"oxy-gen-testnet", genesisUpdates⟩ 0 ::
    (quietHeights.map (fun h => .finalizeBlock ⟨h, 0, []⟩) ++ [.finalizeBlock ⟨100, 0, []⟩])

set_option maxRecDepth 20000 in
/-- Every update `FinalizeBlock` returns has an empty key. After that genesis the engine
holds the three keys, and the set's active view has only the last two, both under the empty
key. At height 100 the view lists the powers 30 and 20 and the rotation 20 and 30; the
comparison takes the last power of the one key on each side, finds 20 against 30, and
slices `key[:8]` of the empty key for its log: the process panics. -/
theorem rotation_panics_on_empty_keys :
    (∀ (env : Env) (n n' : Abci.Node) (req : FinalizeBlockRequest) (resp : FinalizeBlockResponse)
        (c : List String), finalizeBlock env n req = (n', .ok (resp, c)) →
        ∀ u ∈ resp.validatorUpdates, u.pubKeyBytes = []) ∧
      toCometBFTValidators genesisSet = [⟨[], 30⟩, ⟨[], 20⟩] ∧
      (rotateValidators genesisSet).map (·.1) = some [⟨[], 20⟩, ⟨[], 30⟩] ∧
      ∃ d, run keyEnv testnet (.down emptyDisk) genesisRun =
        (.down d, .done :: .initChain ⟨genesisUpdates, 0⟩ ::
          (List.replicate 99 (.finalizeBlock ⟨[], []⟩ []) ++ [.noAnswer])) := by
  obtain ⟨n₁, hinit, hv₁, hl₁⟩ : ∃ n₁, initChain keyEnv freshNode ⟨"oxy-gen-testnet", genesisUpdates⟩ 0 =
      .ok (n₁, ⟨genesisUpdates, 0⟩) ∧ n₁.validators = some genesisSet ∧ n₁.validatorsLocked = false :=
    ⟨_, rfl, rfl, rfl⟩
  have hboot : boot keyEnv.evm testnet emptyDisk = some freshNode := rfl
  have hview : toCometBFTValidators genesisSet = [⟨[], 30⟩, ⟨[], 20⟩] := by decide
  have hrot : rotateValidators genesisSet = some ([⟨[], 20⟩, ⟨[], 30⟩], genesisSet) := rfl
  have hpanic : hasValidatorChanges [⟨[], 30⟩, ⟨[], 20⟩] [⟨[], 20⟩, ⟨[], 30⟩] = none := by decide
  obtain ⟨n', hv, hl, hr⟩ := run_quiet keyEnv testnet 0 [.finalizeBlock ⟨100, 0, []⟩] quietHeights
    quietHeights_quiet n₁
  refine ⟨fun _ _ _ _ _ _ h _ hu => finalizeBlock_updates_keys h hu, hview, by rw [hrot]; rfl, ?_⟩
  rw [genesisRun, run_cons, run_cons]
  simp only [step, hboot, stepUp, hinit]
  rw [hr]
  simp only [run, step, stepUp, finalizeBlock, deliverTxs, Abci.rotation, beginBlock, hv, hl, hv₁, hl₁, hview,
    hrot, hpanic]
  exact ⟨_, rfl⟩

/-! ## `InitChain` over a persisted set -/

def jailedOne : Validator :=
  { newValidator "1" (genesisKey 1) (20 * 10 ^ 18) 0 with jailed := true, jailedUntil := 1000 }

def persistedNode : Abci.Node :=
  { freshNode with store := { Store.empty with validatorSet := some [jailedOne] } }

/-- `InitChain` loads the persisted set, finds no active validator in it, and stores the
genesis entry of key `1` over the persisted validator `1`: its jail and stake are gone. -/
theorem initChain_overwrites_persisted_validator :
    ∃ n' r, initChain keyEnv persistedNode ⟨"oxy-gen-testnet", [⟨genesisKey 1, 30⟩]⟩ 0 = .ok (n', r) ∧
      persistedNode.store.validatorSet = some [jailedOne] ∧
      n'.validators.map (·.validators.vals) = some [newValidator "1" (genesisKey 1) (30 * 10 ^ 18) 0] :=
  ⟨_, _, rfl, rfl, rfl⟩

end OxyChain.Node

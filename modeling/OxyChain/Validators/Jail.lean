import OxyChain.Validators.Rotate

/-! # A slash and the calls after it

`Slash` jails the validator until `now + jailDuration`, or removes it below `minStake`, and
then calls `SaveValidators` under its own `Lock`: it never returns, and every later call
waits on the mutex.
-/

namespace OxyChain.Validators

open List

def HeldUntil (a : String) (T : Time) (vs : ValidatorSet) : Prop :=
  Stored (fun v => v.address = a → v.jailed ∧ T ≤ v.jailedUntil) vs.validators

/-! ## The views leave the jailed address out -/

section Views

variable {a : String} {T : Time} {vs : ValidatorSet}

theorem HeldUntil.filter_isActive (h : HeldUntil a T vs) :
    vs.validators.vals.filter (isActive vs) = (vs.validators.erase a).vals.filter (isActive vs) := by
  rw [VMap.erase, List.filter_filter]
  refine List.filter_congr fun v hv => ?_
  by_cases ha : v.address = a
  · simp [isActive, (h v hv ha).1, ha]
  · simp [ha]

theorem HeldUntil.activeByStake_eq (h : HeldUntil a T vs) :
    activeByStake vs = activeByStake (vs.withMap (vs.validators.erase a)) :=
  congrArg sortByStake h.filter_isActive

theorem HeldUntil.rotateValidators_eq (h : HeldUntil a T vs) :
    (rotateValidators vs).map (·.1) = (rotateValidators (vs.withMap (vs.validators.erase a))).map (·.1) := by
  simp only [Validators.rotateValidators, Option.map_map]
  congr 2
  rw [refreshPowers_filter, refreshPowers_filter, h.filter_isActive]
  rfl

theorem HeldUntil.views (h : HeldUntil a T vs) :
    (∀ v ∈ getActiveValidators vs, v.address ≠ a) ∧
      toCometBFTValidators vs = toCometBFTValidators (vs.withMap (vs.validators.erase a)) ∧
      (rotateValidators vs).map (·.1) =
        (rotateValidators (vs.withMap (vs.validators.erase a))).map (·.1) := by
  refine ⟨fun v hv => ?_, congrArg (List.filterMap toUpdate?) h.activeByStake_eq,
    h.rotateValidators_eq⟩
  rw [getActiveValidators, h.activeByStake_eq] at hv
  exact (VMap.mem_erase.1 (List.mem_filter.1 ((perm_insertionSort _ _).mem_iff.1 hv)).1).2

end Views

/-! ## What keeps the jail -/

theorem slash_held_of {a b : String} {T : Time} {vs : ValidatorSet} (now : Time)
    {slashPercent jailDuration : Int}
    (h : ∀ v ∈ vs.validators.vals, v.address ≠ b → v.address = a → v.jailed ∧ T ≤ v.jailedUntil)
    (hk : b = a → T ≤ now + jailDuration) :
    HeldUntil a T (slash vs b slashPercent jailDuration now).set := by
  unfold slash
  split
  · rename_i hn
    refine fun v hv => h v hv fun hb => ?_
    exact absurd (List.find?_eq_none.1 hn v hv) (by simpa using hb)
  · rename_i v hv
    have hw : HeldUntil a T (vs.withMap (vs.validators.set
        { v with stake := v.stake - v.stake * slashPercent / 100,
                 power := calculatePower (v.stake - v.stake * slashPercent / 100), jailed := true,
                 jailedUntil := now + jailDuration })) := by
      rw [← (VMap.find?_mem hv).2] at h hk
      exact Stored.set_of (fun w hw hne => h w hw hne) fun hwa => ⟨rfl, hk hwa⟩
    dsimp only
    split_ifs
    · exact Stored.erase hw _
    · exact hw

theorem slash_saved {vs : ValidatorSet} {a : String} (ha : (vs.validators.find? a).isSome)
    (slashPercent jailDuration now : Int) : (slash vs a slashPercent jailDuration now).saved = true := by
  obtain ⟨v, hv⟩ := Option.isSome_iff_exists.1 ha
  simp [slash, hv, Outcome.store]

/-- A `Slash` of a stored address at `t` never returns, and no call after it returns or
changes the set: no view answers again, and no `Unjail`, registration or later `Slash` runs.
The set it leaves holds the address jailed until `t + jailDuration`, or not at all, so the
address is in none of its views either. -/
theorem slash_excludes_until (vs : ValidatorSet) (a : String) (slashPercent jailDuration t : Int)
    (ha : (vs.validators.find? a).isSome) (cs : List (Call × Time)) :
    Call.runAll ⟨.free, vs⟩ ((.slash a slashPercent jailDuration, t) :: cs) =
        (⟨.writer, (slash vs a slashPercent jailDuration t).set⟩, List.replicate (cs.length + 1) none) ∧
      (∀ v ∈ getActiveValidators (slash vs a slashPercent jailDuration t).set, v.address ≠ a) ∧
      toCometBFTValidators (slash vs a slashPercent jailDuration t).set =
        toCometBFTValidators ((slash vs a slashPercent jailDuration t).set.withMap
          ((slash vs a slashPercent jailDuration t).set.validators.erase a)) ∧
      (rotateValidators (slash vs a slashPercent jailDuration t).set).map (·.1) =
        (rotateValidators ((slash vs a slashPercent jailDuration t).set.withMap
          ((slash vs a slashPercent jailDuration t).set.validators.erase a))).map (·.1) := by
  have hexec : (Call.slash a slashPercent jailDuration).exec ⟨.free, vs⟩ t =
      (⟨.writer, (slash vs a slashPercent jailDuration t).set⟩, none) := by
    rw [Call.exec_free rfl]
    simp [Call.run, Call.savesUnderLock, slash_saved ha]
  refine ⟨?_, HeldUntil.views (T := t + jailDuration)
    (slash_held_of t (fun v _ hne hva => absurd hva hne) fun _ => le_rfl)⟩
  simp only [Call.runAll, hexec, Call.runAll_held (g := ⟨.writer, (slash vs a slashPercent jailDuration t).set⟩)
    (by simp) cs, List.replicate_succ]

def jailSet : ValidatorSet :=
  ⟨⟨[newValidator "A" sampleKey (20 * 10 ^ 18) 0, newValidator "B" (List.replicate 32 2) (10 * 10 ^ 18) 0],
    by decide⟩, 10 * 10 ^ 18, 100⟩

def jailCalls : List (Call × Time) :=
  [(.unjail "A", 10), (.rotateValidators, 20), (.registerValidator "C" (List.replicate 32 3) (30 * 10 ^ 18), 30)]

theorem slash_excludes_until_jailSet :
    (jailSet.validators.find? "A").isSome = true ∧
      Call.runAll ⟨.free, jailSet⟩ ((.slash "A" 10 1000, 0) :: jailCalls) =
          (⟨.writer, (slash jailSet "A" 10 1000 0).set⟩, List.replicate (jailCalls.length + 1) none) ∧
        (∀ v ∈ getActiveValidators (slash jailSet "A" 10 1000 0).set, v.address ≠ "A") ∧
        toCometBFTValidators (slash jailSet "A" 10 1000 0).set =
          toCometBFTValidators ((slash jailSet "A" 10 1000 0).set.withMap
            ((slash jailSet "A" 10 1000 0).set.validators.erase "A")) ∧
        (rotateValidators (slash jailSet "A" 10 1000 0).set).map (·.1) =
          (rotateValidators ((slash jailSet "A" 10 1000 0).set.withMap
            ((slash jailSet "A" 10 1000 0).set.validators.erase "A"))).map (·.1) :=
  ⟨rfl, slash_excludes_until jailSet "A" 10 1000 0 rfl jailCalls⟩

end OxyChain.Validators

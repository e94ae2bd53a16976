import OxyChain.Node.AppHash

/-! # Requests outside the block sequence

`Info`, `CheckTx`, `Query`, the proposal calls and the REST handlers that read leave the
node as it was, so two runs that differ only in them commit the same app hashes. The fund
endpoint, `POST /api/v1/accounts/{address}/fund`, is a testnet faucet: it adds to a balance
in the executor's live object, and that reaches the next app hash.
-/

namespace OxyChain.Node

open Abci Execution Engine Validators

variable {env : Env} {cfg : Config}

def RestRequest.readOnly : RestRequest → Bool
  | .accounts _ p _ => !hasSuffix (trimPrefix p accountsPrefix) "/fund"
  | .other _ => true

def Request.passive : Request → Bool
  | .info | .checkTx _ | .query _ | .prepareProposal _ _ | .processProposal _ => true
  | .rest q => q.readOnly
  | _ => false

theorem Request.ne_commit_of_passive {r : Request} (h : r.passive) : r ≠ .commit := by
  rintro rfl
  cases h

theorem handleAccounts_node {n : Abci.Node} {i : Nat} (h : n.engine.executorDB = some i)
    {m p : String} {a : Option String} (hr : (RestRequest.accounts m p a).readOnly) :
    (handleAccounts n m p a).1 = n := by
  have hf : hasSuffix (trimPrefix p accountsPrefix) "/fund" = false := by
    simpa [RestRequest.readOnly] using hr
  unfold handleAccounts
  simp only [hf, Bool.false_eq_true, ↓reduceIte]
  split_ifs <;> (try rw [getState_eq h]) <;> rfl

theorem stepUp_passive {n : Abci.Node} {i : Nat} (h : n.engine.executorDB = some i)
    {r : Request} (hr : r.passive) : (stepUp env n r).1 = .up n := by
  cases r with
  | checkTx raw => simp only [stepUp, checkTx_node env h]
  | query path => simp only [stepUp, query_node h]
  | rest q =>
    cases q with
    | accounts m p a => simp only [stepUp, handleRest, handleAccounts_node h hr]
    | other => rfl
  | info | prepareProposal | processProposal => rfl
  | _ => cases hr

theorem step_passive (p : Proc) {r : Request} (hr : r.passive) (hp : p.Holds Started) :
    (step env cfg p r).1 = p := by
  cases p with
  | up n =>
    obtain ⟨i, hi, -⟩ := hp
    exact stepUp_passive hi hr
  | hung n => cases r <;> first | rfl | cases hr
  | down d => cases r <;> first | rfl | cases hr

theorem step_started (p : Proc) (r : Request) (hp : p.Holds Started) :
    (step env cfg p r).1.Holds Started := by
  cases p with
  | up n =>
    by_cases hc : r = .commit
    · subst hc
      exact saveState_started env.evm n.store hp
    · exact stepUp_holds (fun h hs => h.started hs) id n hc hp
  | hung n => cases r <;> trivial
  | down d =>
    cases r <;> try trivial
    simp only [step]
    split
    · exact (boot_shared ‹_›).1
    · trivial

/-! ## Two runs -/

variable (env cfg) in
theorem run_filter_passive : ∀ (reqs : List Request) (p : Proc), p.Holds Started →
    (run env cfg p (reqs.filter (!·.passive))).1 = (run env cfg p reqs).1 ∧
      commitHashes (run env cfg p (reqs.filter (!·.passive))).2 = commitHashes (run env cfg p reqs).2
  | [], _, _ => ⟨rfl, rfl⟩
  | r :: rs, p, hp => by
    by_cases hr : r.passive
    · rw [List.filter_cons_of_neg (by simpa using hr), run_cons, commitHashes_cons,
        step_appHash? p (Request.ne_commit_of_passive hr), step_passive p hr hp]
      exact run_filter_passive rs p hp
    · obtain ⟨h₁, h₂⟩ := run_filter_passive rs (step env cfg p r).1 (step_started p r hp)
      rw [List.filter_cons_of_pos (by simpa using hr), run_cons, run_cons, commitHashes_cons,
        commitHashes_cons, h₁, h₂]
      exact ⟨rfl, rfl⟩

/-- Two runs from one started process whose requests agree once the passive ones are
dropped end in the same process, the store included, and commit the same app hashes. -/
theorem run_eq_of_filter_passive (p : Proc) (hp : p.Holds Started) {reqs₁ reqs₂ : List Request}
    (h : reqs₁.filter (!·.passive) = reqs₂.filter (!·.passive)) :
    (run env cfg p reqs₁).1 = (run env cfg p reqs₂).1 ∧
      commitHashes (run env cfg p reqs₁).2 = commitHashes (run env cfg p reqs₂).2 := by
  obtain ⟨h₁, h₂⟩ := run_filter_passive env cfg reqs₁ p hp
  obtain ⟨h₃, h₄⟩ := run_filter_passive env cfg reqs₂ p hp
  rw [← h₁, ← h₂, ← h₃, ← h₄, h]
  exact ⟨rfl, rfl⟩

theorem run_eq_of_filter_passive_info :
    (run (creditEnv (fun _ => .ok "") (fun _ => .ok 0)) testnet (.down emptyDisk)
        [.restart, .info, .commit]).1 =
      (run (creditEnv (fun _ => .ok "") (fun _ => .ok 0)) testnet (.down emptyDisk)
        [.restart, .commit]).1 ∧
    commitHashes (run (creditEnv (fun _ => .ok "") (fun _ => .ok 0)) testnet (.down emptyDisk)
        [.restart, .info, .commit]).2 =
      commitHashes (run (creditEnv (fun _ => .ok "") (fun _ => .ok 0)) testnet (.down emptyDisk)
        [.restart, .commit]).2 :=
  run_eq_of_filter_passive (.down emptyDisk) trivial rfl

/-! ## The fund endpoint -/

def fundRequest : Request :=
  .rest (.accounts "POST" "/api/v1/accounts/0x0000000000000000000000000000000000000001/fund"
    (some "5"))

set_option maxRecDepth 20000 in
theorem fund_request_changes_app_hash :
    commitHashes (run (creditEnv (fun _ => .ok "") (fun _ => .ok 0)) testnet (.down emptyDisk)
        [.restart, .initChain ⟨"oxy-gen-testnet", []⟩ 0, .finalizeBlock ⟨1, 0, []⟩, fundRequest,
          .commit]).2 = [6] ∧
      commitHashes (run (creditEnv (fun _ => .ok "") (fun _ => .ok 0)) testnet (.down emptyDisk)
        [.restart, .initChain ⟨"oxy-gen-testnet", []⟩ 0, .finalizeBlock ⟨1, 0, []⟩,
          .commit]).2 = [1] := by
  decide

end OxyChain.Node

import OxyChain.Node.Blocks

/-! # `Info` and restarts

`Info` answers from `app.state`, which lives in memory: `FinalizeBlock` sets its height,
`Commit` its app hash, and `NewABCIApp` starts it at height 0 and a zero hash whatever the
disk holds. On a restart the executor reopens the root `state_meta` names; a graceful stop
has just written there the state manager's world, the unfinished block included.
-/

namespace OxyChain.Abci

open Execution Validators

variable (env : Env) (n : Node)

theorem checkTx_app (raw : Bytes) : (checkTx env n raw).1.app = n.app := by
  unfold checkTx
  split
  · rfl
  · dsimp only
    split <;> rfl

theorem query_app (path : String) : (query n path).1.app = n.app := by
  rcases query_fst n path with h | ⟨a, h⟩ <;> rw [h]

theorem finalizeBlock_state (req : FinalizeBlockRequest) :
    (finalizeBlock env n req).1.app.state = { n.app.state with height := req.height } := by
  have h := (deliverTxs_block env (beginBlock n req) req.txs).1
  unfold finalizeBlock
  dsimp only
  split
  · rename_i hr
    rw [rotation_eq hr, h]
    rfl
  · rw [h]
    rfl

end OxyChain.Abci

namespace OxyChain.Node

open Abci Execution Validators

variable {env : Env} {cfg : Config} {n n' : Abci.Node}

theorem handleRest_app (q : RestRequest) : (handleRest n q).1.app = n.app := by
  cases q with
  | other => rfl
  | accounts m p a =>
    simp only [handleRest, handleAccounts]
    split_ifs
    · rcases handleFundAccount_fst n m p _ a with h | ⟨_, _, h | h⟩ <;> rw [h]
    all_goals rfl

theorem callValidators_app {c : Call} {now : Time} {o : Response}
    (h : callValidators n c now = (.up n', o)) : n'.app = n.app := by
  unfold callValidators at h
  repeat' first | split at h | split_ifs at h | dsimp only at h
  all_goals simp only [Prod.mk.injEq, Proc.up.injEq, reduceCtorEq, false_and] at h
  all_goals obtain ⟨rfl, -⟩ := h; rfl

theorem boot_app {evm : Evm} {d : Disk} (h : boot evm cfg d = some n) : n.app = newApp cfg.chainID := by
  unfold boot at h
  split at h
  · cases h
  · cases h
    rfl

/-- A restart loads the validator map the last `SaveValidators` wrote: the same validators in
the same order. `minStake` and `maxValidators` are the configuration's, not the disk's. -/
theorem boot_validators_saved (evm : Evm) (cfg : Config) (d : Disk) (vs : ValidatorSet)
    (hd : d.store.validatorSet = some (saveValidators vs)) :
    (boot evm cfg d).map (·.validators) =
      (boot evm cfg d).map fun _ => some ⟨vs.validators, cfg.minStake, cfg.maxValidators⟩ := by
  unfold boot
  split <;> simp [hd, loadValidators, saveValidators, VMap.ofList_vals, ValidatorSet.withMap]

def savedSet : ValidatorSet :=
  ⟨VMap.empty.set (newValidator "0x01" (List.replicate 32 1) (20 * 10 ^ 18) 0), 10 * 10 ^ 18, 100⟩

def savedDisk : Disk := ⟨{ Store.empty with validatorSet := some (saveValidators savedSet) }⟩

theorem boot_validators_saved_one :
    savedDisk.store.validatorSet = some (saveValidators savedSet) ∧
    (boot creditEvm testnet savedDisk).map (·.validators) =
      (boot creditEvm testnet savedDisk).map fun _ =>
        some ⟨savedSet.validators, testnet.minStake, testnet.maxValidators⟩ :=
  ⟨rfl, boot_validators_saved creditEvm testnet savedDisk savedSet rfl⟩

theorem callValidators_response (n : Abci.Node) (c : Call) (now : Time) :
    (callValidators n c now).2 = .noAnswer ∨ (callValidators n c now).2 = .done := by
  unfold callValidators
  repeat' first | split | split_ifs | dsimp only
  all_goals simp

/-! ## What `Info` answers -/

def infoStep (v : Int × Hash) (r : Request) (o : Response) : Int × Hash :=
  match r, o with
  | .finalizeBlock req, _ => (req.height, v.2)
  | .commit, .commit h => (v.1, h)
  | .restart, .done => (0, 0)
  | _, _ => v

def Proc.Shows (v : Int × Hash) : Proc → Prop
  | .up n => n.app.state.height = v.1 ∧ n.app.state.appHash = v.2
  | _ => True

theorem stepUp_shows {v : Int × Hash} (hp : n.app.state.height = v.1 ∧ n.app.state.appHash = v.2)
    (r : Request) : (stepUp env n r).1.Shows (infoStep v r (stepUp env n r).2) := by
  cases r with
  | initChain req now =>
    simp only [stepUp]
    split
    · rename_i h
      rw [initChain_eq env h]
      exact hp
    · cases ‹Stall› <;> trivial
  | finalizeBlock req =>
    have hs := finalizeBlock_state env n req
    simp only [stepUp]
    split
    · rename_i h
      rw [h] at hs
      dsimp only at hs
      exact ⟨by rw [hs]; rfl, by rw [hs]; exact hp.2⟩
    · cases ‹Stall› <;> trivial
  | commit => exact ⟨hp.1, rfl⟩
  | checkTx raw => simpa [stepUp, Proc.Shows, infoStep, checkTx_app] using hp
  | query path => simpa [stepUp, Proc.Shows, infoStep, query_app] using hp
  | rest q => simpa [stepUp, Proc.Shows, infoStep, handleRest_app] using hp
  | validatorCall c now =>
    rcases h : callValidators n c now with ⟨_ | n' | _, o⟩
    all_goals simp only [stepUp, h, Proc.Shows, infoStep]
    rw [callValidators_app h]
    exact hp
  | stop | crash => trivial
  | info | prepareProposal | processProposal | restart => exact hp

theorem step_shows {v : Int × Hash} (p : Proc) (r : Request) (hp : p.Shows v) :
    (step env cfg p r).1.Shows (infoStep v r (step env cfg p r).2) := by
  cases p with
  | up n => exact stepUp_shows hp r
  | hung n => cases r <;> trivial
  | down d =>
    cases r <;> try trivial
    simp only [step]
    split
    · rename_i h
      simp only [Proc.Shows, infoStep, boot_app h]
      exact ⟨rfl, rfl⟩
    · trivial

def Answers : Int × Hash → List Request → List Response → Prop
  | v, r :: rs, o :: os =>
    (∀ x, o = .info x → x.lastBlockHeight = v.1 ∧ x.lastBlockAppHash = v.2) ∧
    (r = .query "height" → ∀ x, o = .query x → x.value = .height (v.1 % 2 ^ 64).toNat) ∧
    Answers (infoStep v r o) rs os
  | _, _, _ => True

theorem step_answers {v : Int × Hash} (p : Proc) (r : Request) (hp : p.Shows v) :
    (∀ x, (step env cfg p r).2 = .info x → x.lastBlockHeight = v.1 ∧ x.lastBlockAppHash = v.2) ∧
    (r = .query "height" → ∀ x, (step env cfg p r).2 = .query x →
      x.value = .height (v.1 % 2 ^ 64).toNat) := by
  constructor
  · intro x hx
    cases p with
    | up n =>
      cases r with
      | info => cases hx; exact hp
      | validatorCall c now =>
        rcases callValidators_response n c now with h | h <;> simp [step, stepUp, h] at hx
      | initChain req now => simp only [step, stepUp] at hx; split at hx <;> cases hx
      | finalizeBlock req => simp only [step, stepUp] at hx; split at hx <;> cases hx
      | _ => simp only [step, stepUp] at hx; cases hx
    | hung n => cases r <;> cases hx
    | down d => cases r <;> simp only [step] at hx <;> (try split at hx) <;> cases hx
  · rintro rfl x hx
    cases p with
    | up n =>
      cases hx
      rw [← hp.1]
    | hung n => cases hx
    | down d => cases hx

theorem run_answers : ∀ (reqs : List Request) (p : Proc) (v : Int × Hash), p.Shows v →
    Answers v reqs (run env cfg p reqs).2
  | [], _, _, _ => trivial
  | r :: rs, p, v, hp => by
    rw [run_cons]
    obtain ⟨h₁, h₂⟩ := step_answers p r hp
    exact ⟨h₁, h₂, run_answers rs _ _ (step_shows p r hp)⟩

/-- In every run from a stopped process, `Info` answers the height of the last
`FinalizeBlock` and the app hash of the last `Commit` since the process last started (0 and
a zero hash before either), and `Query "height"` answers that height. -/
theorem info_answers (d : Disk) (reqs : List Request) :
    Answers (0, 0) reqs (run env cfg (.down d) reqs).2 :=
  run_answers reqs (.down d) (0, 0) trivial

/-! ## Restarts -/

def Disk.root (d : Disk) : Hash := (d.store.stateMeta.map (·.root)).getD 0

theorem openAt_fresh (r root : Hash) :
    openAt [(r, World.empty)] root = if root = 0 ∨ root = r then some World.empty else none := by
  by_cases h0 : root = 0
  · simp [openAt, h0]
  · by_cases hr : root = r
    · simp [openAt, List.lookup, h0, hr]
    · simp [openAt, List.lookup, h0, hr, beq_eq_false_iff_ne.2 hr]

/-- `boot` comes up exactly when the root `state_meta` names is zero or the empty state's,
with the empty world at both pointers and a fresh `ABCIApp`. -/
theorem boot_eq (evm : Evm) (cfg : Config) (d : Disk) :
    boot evm cfg d = if d.root = 0 ∨ d.root = evm.intermediateRoot World.empty then
      some ⟨newApp cfg.chainID, ⟨[⟨World.empty, []⟩], some 0, some 0,
        [(evm.intermediateRoot World.empty, World.empty)], evm.intermediateRoot World.empty, true, 0, 0⟩,
        d.store, some (loadValidators ⟨VMap.empty, cfg.minStake, cfg.maxValidators⟩ d.store.validatorSet),
        false⟩
    else none := by
  have ho := openAt_fresh (evm.intermediateRoot World.empty) d.root
  unfold Disk.root at ho ⊢
  unfold boot start loadState Engine.fresh
  dsimp only
  rw [ho]
  split_ifs <;> rfl

theorem run_down (d : Disk) (hd : boot env.evm cfg d = none) :
    ∀ reqs, run env cfg (.down d) reqs = (.down d, List.replicate reqs.length .noAnswer)
  | [] => rfl
  | r :: rs => by
    have hs : step env cfg (.down d) r = (.down d, .noAnswer) := by
      cases r <;> simp only [step]
      rw [hd]
    rw [run_cons, hs, run_down d hd rs]
    rfl

def infoAnswers (os : List Response) : List (Int × Hash) :=
  os.filterMap fun
    | .info x => some (x.lastBlockHeight, x.lastBlockAppHash)
    | _ => none

theorem info_after_unfinished_block_and_restart :
    infoAnswers (run (creditEnv (fun _ => .ok "") (fun _ => .ok 0)) testnet (.down emptyDisk)
        [.restart, .initChain ⟨"oxy-gen-testnet", []⟩ 0, .finalizeBlock ⟨1, 0, []⟩, .commit,
          .finalizeBlock ⟨2, 0, []⟩, .info]).2 = [(2, 1)] ∧
      ((run (creditEnv (fun _ => .ok "") (fun _ => .ok 0)) testnet (.down emptyDisk)
        [.restart, .initChain ⟨"oxy-gen-testnet", []⟩ 0, .finalizeBlock ⟨1, 0, []⟩, .commit,
          .finalizeBlock ⟨2, 0, []⟩]).1.node?.map (·.store.latestHeight)) = some (some 1) ∧
      infoAnswers (run (creditEnv (fun _ => .ok "") (fun _ => .ok 0)) testnet (.down emptyDisk)
        [.restart, .initChain ⟨"oxy-gen-testnet", []⟩ 0, .finalizeBlock ⟨1, 0, []⟩, .commit,
          .crash, .restart, .info]).2 = [(0, 0)] := by
  decide

end OxyChain.Node

import OxyChain.Node.Frame

/-! # The app hash `Commit` reports

After `Start` the executor and the manager point at one object. The first `SaveState`
points the manager at a fresh object and nothing moves the executor's pointer: from then
on `FinalizeBlock` writes an object that no `Commit` hashes, and every `Commit` of the run
reports the root the first one reported.
-/

namespace OxyChain.Execution.Engine

def Shared (e : Engine) : Prop := e.Started ∧ e.managerDB = e.executorDB

def Detached (w : World) (e : Engine) : Prop :=
  e.Started ∧ e.managerWorld = some w ∧ e.executorDB ≠ e.managerDB

variable {e e' : Engine} {w : World}

theorem Frame.shared (h : Frame e e') (hs : e.Shared) : e'.Shared :=
  ⟨h.started hs.1, h.managerDB.trans (hs.2.trans h.executorDB.symm)⟩

theorem Frame.detached (h : Frame e e') (hd : e.Detached w) : e'.Detached w :=
  ⟨h.started hd.1, (h.managerWorld_eq hd.2.2).trans hd.2.1, h.executorDB ▸ h.managerDB ▸ hd.2.2⟩

theorem Shared.exists_managerWorld (hs : e.Shared) : ∃ w, e.managerWorld = some w := by
  obtain ⟨⟨i, hi, hl⟩, hm⟩ := hs
  exact ⟨e.heap[i].world, by simp [managerWorld, deref, hm, hi, hl]⟩

end OxyChain.Execution.Engine

namespace OxyChain.Execution

open Engine

theorem saveState_detached (evm : Evm) {e : Engine} (st : Store) (hs : e.Started)
    (hm : e.managerWorld = some w) (hr : evm.intermediateRoot w ≠ 0) :
    (saveState evm e st).1.Detached w := by
  obtain ⟨i, hi, hl⟩ := hs
  rw [saveState_engine evm st hm hr]
  refine ⟨⟨i, hi, by simp; omega⟩, by simp [managerWorld, deref], by simp [hi]; omega⟩

theorem getRootHash_of_detached (evm : Evm) {e : Engine} (hd : e.Detached w) :
    getRootHash evm e = evm.intermediateRoot w := by
  have hm := hd.2.1
  simp only [managerWorld, Option.map_eq_some'] at hm
  obtain ⟨db, hdb, rfl⟩ := hm
  simp [getRootHash, hdb]

end OxyChain.Execution

namespace OxyChain.Node

open Abci Execution Engine Validators

variable {env : Env} {cfg : Config}

/-! ## One request -/

def Proc.Holds (Q : Engine → Prop) : Proc → Prop
  | .up n => Q n.engine
  | _ => True

@[simp] theorem commitHashes_cons (o : Response) (os : List Response) :
    commitHashes (o :: os) = o.appHash?.toList ++ commitHashes os := by
  cases o <;> rfl

theorem run_cons (p : Proc) (r : Request) (rs : List Request) :
    run env cfg p (r :: rs) =
      ((run env cfg (step env cfg p r).1 rs).1, (step env cfg p r).2 :: (run env cfg (step env cfg p r).1 rs).2) :=
  rfl

theorem callValidators_appHash? (n : Abci.Node) (c : Call) (now : Time) :
    (callValidators n c now).2.appHash? = none := by
  unfold callValidators
  repeat' first | split | split_ifs | dsimp only
  all_goals rfl

theorem stepUp_appHash? (n : Abci.Node) {r : Request} (hr : r ≠ .commit) :
    (stepUp env n r).2.appHash? = none := by
  cases r <;> simp only [stepUp] <;> (try split) <;>
    first | exact callValidators_appHash? .. | rfl | exact absurd rfl hr

theorem step_appHash? (p : Proc) {r : Request} (hr : r ≠ .commit) :
    (step env cfg p r).2.appHash? = none := by
  cases p with
  | up n => exact stepUp_appHash? n hr
  | hung n => cases r <;> rfl
  | down d => cases r <;> simp only [step] <;> (try split) <;> rfl

section Holds

variable {Q : Engine → Prop} (hQ : ∀ {e e'}, Frame e e' → Q e → Q e')
  (hS : ∀ {e}, Q e → e.Started)
include hQ hS

theorem stepUp_holds (n : Abci.Node) {r : Request} (hc : r ≠ .commit) (hp : Q n.engine) :
    (stepUp env n r).1.Holds Q := by
  obtain ⟨i, hi, -⟩ := hS hp
  rcases hs : stepUp env n r with ⟨_ | n' | _, o⟩
  all_goals simp only [Proc.Holds]
  exact hQ (stepUp_frame hi hc hs) hp

theorem step_holds (p : Proc) {r : Request} (hc : r ≠ .commit) (hr : r ≠ .restart)
    (hp : p.Holds Q) : (step env cfg p r).1.Holds Q := by
  cases p with
  | up n => exact stepUp_holds hQ hS n hc hp
  | hung n => cases r <;> trivial
  | down d => cases r <;> trivial

end Holds

/-! ## `Commit` -/

theorem boot_shared {evm : Evm} {d : Disk} {n : Abci.Node} (hb : boot evm cfg d = some n) :
    n.engine.Shared := by
  unfold boot start at hb
  split at hb
  · cases hb
  · rename_i he
    split at he
    · cases he
    · rename_i e i hl
      cases he; cases hb
      have ⟨hm, hi⟩ := loadState_managerDB d.store hl
      exact ⟨⟨i, rfl, by rw [loadState_length d.store hl, hi]; omega⟩, hm⟩

theorem commit_detached {n : Abci.Node} {w : World} (hs : n.engine.Started)
    (hm : n.engine.managerWorld = some w) (hr : env.evm.intermediateRoot w ≠ 0) :
    (commit env n).engine.Detached w ∧
      (commit env n).app.state.appHash = env.evm.intermediateRoot w := by
  have hd := saveState_detached env.evm n.store hs hm hr
  refine ⟨hd, ?_⟩
  show commitHash env (saveState env.evm n.engine n.store).1 n.app.state = _
  simp [commitHash, getRootHash_of_detached env.evm hd, hr]

/-! ## Runs without a restart -/

/-- Once the manager holds `w` apart from the executor, every `Commit` reports the root of
`w`, until the process is restarted. -/
theorem run_frozen {w : World} (hr : env.evm.intermediateRoot w ≠ 0) :
    ∀ (reqs : List Request) (p : Proc), (∀ r ∈ reqs, r ≠ .restart) → p.Holds (Detached w) →
      ∀ h ∈ commitHashes (run env cfg p reqs).2, h = env.evm.intermediateRoot w
  | [], _, _, _ => by simp [run, commitHashes]
  | r :: rs, p, hno, hp => by
    have ih := fun q => run_frozen hr rs q fun r' h' => hno r' (.tail _ h')
    rw [run_cons, commitHashes_cons]
    by_cases hc : r = .commit
    · subst hc
      cases p with
      | up n =>
        obtain ⟨hd, hh⟩ := commit_detached hp.1 hp.2.1 hr
        simpa [step, stepUp, Response.appHash?, hh] using ih (.up _) hd
      | hung n => simpa [step, Response.appHash?] using ih (.hung n) trivial
      | down d => simpa [step, Response.appHash?] using ih (.down d) trivial
    · rw [step_appHash? p hc]
      exact ih _ (step_holds (fun h hd => h.detached hd) (fun hd => hd.1) p hc
        (hno r (.head _)) hp)

theorem run_shared (hroot : ∀ w, env.evm.intermediateRoot w ≠ 0) :
    ∀ (reqs : List Request) (p : Proc), (∀ r ∈ reqs, r ≠ .restart) → p.Holds Shared →
      ∀ h₁ ∈ commitHashes (run env cfg p reqs).2, ∀ h₂ ∈ commitHashes (run env cfg p reqs).2,
        h₁ = h₂
  | [], _, _, _ => by simp [run, commitHashes]
  | r :: rs, p, hno, hp => by
    have hno' : ∀ r' ∈ rs, r' ≠ .restart := fun r' h' => hno r' (.tail _ h')
    have ih := fun q => run_shared hroot rs q hno'
    rw [run_cons, commitHashes_cons]
    by_cases hc : r = .commit
    · subst hc
      cases p with
      | up n =>
        obtain ⟨w, hw⟩ := hp.exists_managerWorld
        obtain ⟨hd, hh⟩ := commit_detached hp.1 hw (hroot w)
        have hall : ∀ h ∈ commitHashes (run env cfg (.up (commit env n)) rs).2,
            h = env.evm.intermediateRoot w := run_frozen (hroot w) rs _ hno' hd
        have hall' : ∀ h ∈ (step env cfg (.up n) .commit).2.appHash?.toList ++
            commitHashes (run env cfg (.up (commit env n)) rs).2, h = env.evm.intermediateRoot w := by
          simpa [step, stepUp, Response.appHash?, hh] using hall
        intro h₁ h₁m h₂ h₂m
        rw [hall' h₁ h₁m, hall' h₂ h₂m]
      | hung n => simpa [step, Response.appHash?] using ih (.hung n) trivial
      | down d => simpa [step, Response.appHash?] using ih (.down d) trivial
    · rw [step_appHash? p hc]
      exact ih _ (step_holds (fun h hs => h.shared hs) (fun hs => hs.1) p hc (hno r (.head _)) hp)

/-- The app hash freezes: from a boot, without a restart, every `Commit` reports the hash
the first one reported, for any blocks and any requests between them. -/
theorem commitHashes_eq_of_boot (hroot : ∀ w, env.evm.intermediateRoot w ≠ 0) {d : Disk}
    {n : Abci.Node} (hb : boot env.evm cfg d = some n) (reqs : List Request)
    (hno : ∀ r ∈ reqs, r ≠ .restart) :
    ∀ h₁ ∈ commitHashes (run env cfg (.up n) reqs).2, ∀ h₂ ∈ commitHashes (run env cfg (.up n) reqs).2,
      h₁ = h₂ :=
  run_shared hroot reqs (.up n) hno (boot_shared hb)

theorem commitHashes_eq_of_boot_twoBlocks :
    (∀ w, creditEvm.intermediateRoot w ≠ 0) ∧ boot creditEvm testnet emptyDisk = some freshNode ∧
      (∀ r ∈ [.initChain ⟨"oxy-gen-testnet", []⟩ 0, .finalizeBlock ⟨1, 0, []⟩, .commit,
        .finalizeBlock ⟨2, 0, [[]]⟩, Request.commit], r ≠ .restart) ∧
      ∀ h₁ ∈ commitHashes (run (creditEnv (fun _ => .ok "") (fun _ => .ok 0)) testnet (.up freshNode)
          [.initChain ⟨"oxy-gen-testnet", []⟩ 0, .finalizeBlock ⟨1, 0, []⟩, .commit,
            .finalizeBlock ⟨2, 0, [[]]⟩, .commit]).2,
        ∀ h₂ ∈ commitHashes (run (creditEnv (fun _ => .ok "") (fun _ => .ok 0)) testnet (.up freshNode)
          [.initChain ⟨"oxy-gen-testnet", []⟩ 0, .finalizeBlock ⟨1, 0, []⟩, .commit,
            .finalizeBlock ⟨2, 0, [[]]⟩, .commit]).2, h₁ = h₂ :=
  have hroot : ∀ w, (creditEnv (fun _ => .ok "") (fun _ => .ok 0)).evm.intermediateRoot w ≠ 0 :=
    fun _ => Nat.succ_ne_zero _
  have hb : boot (creditEnv (fun _ => .ok "") (fun _ => .ok 0)).evm testnet emptyDisk = some freshNode := rfl
  have hno : ∀ r ∈ [.initChain ⟨"oxy-gen-testnet", []⟩ 0, .finalizeBlock ⟨1, 0, []⟩, .commit,
      .finalizeBlock ⟨2, 0, [[]]⟩, Request.commit], r ≠ .restart := by simp
  ⟨hroot, hb, hno, commitHashes_eq_of_boot hroot hb _ hno⟩

/-! ## A transaction after the first `Commit` -/

def twoBlocks : List Request :=
  [.restart, .initChain ⟨"oxy-gen-testnet", []⟩ 0, .finalizeBlock ⟨1, 0, []⟩, .commit,
    .finalizeBlock ⟨2, 0, [[]]⟩, .commit]

set_option maxRecDepth 20000 in
/-- Block 2's transaction credits its sender, so the executed state has root 2, yet the
second `Commit` reports the root of the state committed at height 1. -/
theorem commit_misses_block_two :
    commitHashes (run (creditEnv (fun _ => .ok "") (fun _ => .ok 0)) testnet (.down emptyDisk)
        twoBlocks).2 = [1, 1] ∧
      ((run (creditEnv (fun _ => .ok "") (fun _ => .ok 0)) testnet (.down emptyDisk)
        twoBlocks).1.node?.bind (·.engine.executorWorld)).map creditEvm.intermediateRoot = some 2 :=
  ⟨rfl, rfl⟩

end OxyChain.Node

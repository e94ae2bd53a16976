import OxyChain.Node.Blocks

/-! # What `Commit` writes, and the chain of stored blocks

Each write of `Commit` goes to the store on its own, and a failing one is only logged. When
none fails, each stored block records the app hash of the block below it.
-/

namespace OxyChain.Abci

open Execution Validators

/-! ## The writes of `Commit` -/

theorem saveState_store_meta (evm : Evm) (e : Engine) (st : Store) :
    ∃ m, (saveState evm e st).2.1 = { st with stateMeta := m } ∧
      (st.failing .stateMeta = true → m = st.stateMeta) := by
  unfold saveState
  split
  · exact ⟨st.stateMeta, rfl, fun _ => rfl⟩
  · dsimp only
    split
    · exact ⟨st.stateMeta, rfl, fun _ => rfl⟩
    · rename_i st' h
      unfold Store.saveState Store.put at h
      split_ifs at h with hf
      cases h
      exact ⟨_, rfl, fun h => absurd h (by simpa using hf)⟩

theorem saveBlock_store (app : App) (appHash : Hash) (st : Store) :
    saveBlock app appHash st =
      if st.failing (.block app.currentBlockHeight) then st
      else { st with
        blocks := Function.update st.blocks app.currentBlockHeight
          (some ⟨⟨app.currentBlockHeight, appHash,
            if 0 < app.currentBlockHeight then
              (st.blocks (app.currentBlockHeight - 1)).map (·.header.hash) else none,
            app.currentBlockTime, app.chainID⟩, app.currentBlockTxs, app.currentBlockReceipts⟩)
        latestHeight := if st.failing .latestHeight then st.latestHeight else some app.currentBlockHeight } := by
  unfold saveBlock Store.saveBlock Store.put
  split_ifs <;> simp [*]

theorem commit_store (env : Env) (n : Node) :
    (commit env n).store =
      { n.store with
        stateMeta := if n.store.failing .stateMeta then n.store.stateMeta
          else some ⟨getRootHash env.evm (commit env n).engine, n.app.state.height,
            some (commit env n).app.state.appHash⟩
        blocks :=
          if 0 < n.app.currentBlockHeight ∧ n.store.failing (.block n.app.currentBlockHeight) = false then
            Function.update n.store.blocks n.app.currentBlockHeight
              (some ⟨⟨n.app.currentBlockHeight, (commit env n).app.state.appHash,
                (n.store.blocks (n.app.currentBlockHeight - 1)).map (·.header.hash),
                n.app.currentBlockTime, n.app.chainID⟩, n.app.currentBlockTxs, n.app.currentBlockReceipts⟩)
          else n.store.blocks
        latestHeight :=
          if 0 < n.app.currentBlockHeight ∧ n.store.failing (.block n.app.currentBlockHeight) = false ∧
              n.store.failing .latestHeight = false then some n.app.currentBlockHeight
          else n.store.latestHeight } := by
  obtain ⟨m, hst, hm⟩ := saveState_store_meta env.evm n.engine n.store
  simp only [commit, hst, Store.orKeep_saveState, saveBlock_store]
  by_cases hs : n.store.failing .stateMeta <;> by_cases hh : 0 < n.app.currentBlockHeight <;>
    by_cases hb : n.store.failing (.block n.app.currentBlockHeight) <;>
    by_cases hl : n.store.failing .latestHeight <;> simp_all

/-! ## The requests between two commits keep the blocks -/

def SameBlocks (st st' : Store) : Prop := st'.blocks = st.blocks ∧ st'.failing = st.failing

theorem SameBlocks.trans {st₁ st₂ st₃ : Store} (h₁ : SameBlocks st₁ st₂) (h₂ : SameBlocks st₂ st₃) :
    SameBlocks st₁ st₃ :=
  ⟨h₂.1.trans h₁.1, h₂.2.trans h₁.2⟩

theorem deliverTx_sameBlocks (env : Env) (n : Node) (raw : Bytes) :
    SameBlocks n.store (deliverTx env n raw).1.store := by
  unfold deliverTx
  repeat' first | split | dsimp only
  all_goals first | exact ⟨rfl, rfl⟩ | exact Store.orKeep_put_blocks rfl rfl

theorem deliverTxs_sameBlocks (env : Env) (n : Node) (raws : List Bytes) :
    SameBlocks n.store (deliverTxs env n raws).1.store := by
  induction raws generalizing n with
  | nil => exact ⟨rfl, rfl⟩
  | cons raw raws ih => exact (deliverTx_sameBlocks env n raw).trans (ih _)

theorem finalizeBlock_sameBlocks (env : Env) (n : Node) (req : FinalizeBlockRequest) :
    SameBlocks n.store (finalizeBlock env n req).1.store := by
  unfold finalizeBlock
  dsimp only
  split
  · rename_i hr
    rw [rotation_eq hr]
    exact deliverTxs_sameBlocks env _ req.txs
  · exact deliverTxs_sameBlocks env _ req.txs

theorem seedValidators_sameBlocks (env : Env) {vs vs' : ValidatorSet} {st st' : Store}
    {req : InitChainRequest} {now : Time} (h : seedValidators env vs st req now = (vs', st')) :
    SameBlocks st st' := by
  unfold seedValidators at h
  dsimp only at h
  split_ifs at h <;> cases h
  · exact Store.orKeep_put_blocks rfl rfl
  · exact ⟨rfl, rfl⟩

theorem initChain_sameBlocks (env : Env) {n n' : Node} {req : InitChainRequest} {now : Time}
    {r : InitChainResponse} (h : initChain env n req now = .ok (n', r)) : SameBlocks n.store n'.store := by
  unfold initChain at h
  repeat' first | split at h | split_ifs at h | dsimp only at h
  all_goals
    simp only [bind, Except.bind, pure, Except.pure, throw, throwThe, MonadExceptOf.throw,
      Except.ok.injEq, Prod.mk.injEq, reduceCtorEq] at h
  all_goals obtain ⟨rfl, -⟩ := h
  all_goals first
    | exact ⟨rfl, rfl⟩
    | exact seedValidators_sameBlocks env ‹_›

end OxyChain.Abci

namespace OxyChain.Node

open Abci Execution Validators

/-- `Commit` is acknowledged whatever its writes do. Afterwards `state_meta` holds the new
record unless its key fails; at a height `h` above 0, `block(h)` is stored, linked to the
stored `block(h-1)`, unless its key fails; `latest_height = h` is written only when
`block(h)` was and its own key does not fail; and no other key is touched. -/
theorem commit_acknowledged_writes (env : Env) (n : Abci.Node) :
    stepUp env n .commit = (.up (commit env n), .commit (commit env n).app.state.appHash) ∧
      (commit env n).store =
        { n.store with
          stateMeta := if n.store.failing .stateMeta then n.store.stateMeta
            else some ⟨getRootHash env.evm (commit env n).engine, n.app.state.height,
              some (commit env n).app.state.appHash⟩
          blocks :=
            if 0 < n.app.currentBlockHeight ∧ n.store.failing (.block n.app.currentBlockHeight) = false then
              Function.update n.store.blocks n.app.currentBlockHeight
                (some ⟨⟨n.app.currentBlockHeight, (commit env n).app.state.appHash,
                  (n.store.blocks (n.app.currentBlockHeight - 1)).map (·.header.hash),
                  n.app.currentBlockTime, n.app.chainID⟩, n.app.currentBlockTxs, n.app.currentBlockReceipts⟩)
            else n.store.blocks
          latestHeight :=
            if 0 < n.app.currentBlockHeight ∧ n.store.failing (.block n.app.currentBlockHeight) = false ∧
                n.store.failing .latestHeight = false then some n.app.currentBlockHeight
            else n.store.latestHeight } :=
  ⟨rfl, commit_store env n⟩

def blockOneFails : Disk := ⟨{ Store.empty with failing := fun k => k == .block 1 }⟩

def oneBlock : List Request :=
  [.restart, .initChain ⟨"oxy-gen-testnet", []⟩ 0, .finalizeBlock ⟨1, 0, []⟩, .commit]

set_option maxRecDepth 20000 in
theorem commit_acknowledged_without_block :
    ∃ n, (run (creditEnv (fun _ => .ok "") (fun _ => .ok 0)) testnet (.down blockOneFails) oneBlock).1 =
        .up n ∧
      commitHashes (run (creditEnv (fun _ => .ok "") (fun _ => .ok 0)) testnet (.down blockOneFails)
        oneBlock).2 = [1] ∧
      n.store.stateMeta.map (·.height) = some 1 ∧ n.store.blocks 1 = none ∧ n.store.latestHeight = none :=
  ⟨_, rfl, rfl, rfl, rfl, rfl⟩

/-! ## The chain of blocks -/

def Proc.store : Proc → Store
  | .up n | .hung n => n.store
  | .down d => d.store

@[simp] theorem ofStall_store (n : Abci.Node) (s : Stall) : (Proc.ofStall n s).store = n.store := by
  cases s <;> rfl

theorem run_append_fst (env : Env) (cfg : Config) (xs ys : List Request) :
    ∀ p, (run env cfg p (xs ++ ys)).1 = (run env cfg (run env cfg p xs).1 ys).1 := by
  induction xs with
  | nil => exact fun _ => rfl
  | cons r rs ih => exact fun p => ih _

def Linked (st : Store) : Prop :=
  ∀ h b, 0 < h → st.blocks h = some b →
    b.header.parentHash = (st.blocks (h - 1)).map (·.header.hash) ∧ (1 < h → (st.blocks (h - 1)).isSome)

theorem Linked.update {st : Store} {k : Nat} (hl : Linked st) (ha : ∀ h, k < h → st.blocks h = none)
    (hs : 0 < k → (st.blocks k).isSome) {b : Block}
    (hb : b.header.parentHash = (st.blocks k).map (·.header.hash)) :
    Linked { st with blocks := Function.update st.blocks (k + 1) (some b) } := by
  intro h b' h0 hb'
  have hk : k + 1 - 1 ≠ k + 1 := by omega
  by_cases hh : h = k + 1
  · subst hh
    simp only [Function.update_same, Option.some.injEq] at hb'
    subst hb'
    simp only [Function.update_noteq hk, Nat.add_sub_cancel]
    exact ⟨hb, fun h1 => hs (by omega)⟩
  · simp only [Function.update_noteq hh] at hb' ⊢
    have hle : h ≤ k := by
      by_contra hlt
      simp [ha h (by omega)] at hb'
    rw [Function.update_noteq (by omega)]
    exact hl h b' h0 hb'

structure Chained (k : Nat) (p : Proc) : Prop where
  healthy : ∀ key, p.store.failing key = false
  noneZero : p.store.blocks 0 = none
  noneAbove : ∀ h, k < h → p.store.blocks h = none
  stored : ∀ n, p = .up n → ∀ h, 0 < h → h ≤ k → (n.store.blocks h).isSome
  linked : Linked p.store

theorem Chained.stalled {k : Nat} {p q : Proc} (hc : Chained k p) (hs : SameBlocks p.store q.store)
    (hq : ∀ n, q ≠ .up n) : Chained (k + 1) q where
  healthy key := hs.2 ▸ hc.healthy key
  noneZero := hs.1 ▸ hc.noneZero
  noneAbove h hh := hs.1 ▸ hc.noneAbove h (by omega)
  stored n hn := absurd hn (hq n)
  linked := by unfold Linked; rw [hs.1]; exact hc.linked

theorem Chained.after_commit {k : Nat} {n n₁ : Abci.Node} (hc : Chained k (.up n)) (hs : SameBlocks n.store n₁.store)
    (hh : n₁.app.currentBlockHeight = k + 1) (env : Env) : Chained (k + 1) (.up (commit env n₁)) := by
  have hf : ∀ key, n₁.store.failing key = false := fun key => hs.2 ▸ hc.healthy key
  have hst := commit_store env n₁
  simp only [hh, hf, Nat.add_sub_cancel, hs.1, and_self, if_true, Nat.succ_pos] at hst
  have hne : ∀ h, h ≠ k + 1 → (commit env n₁).store.blocks h = n.store.blocks h := fun h hh => by
    rw [hst]
    exact Function.update_noteq hh _ _
  refine ⟨fun key => by simp only [Proc.store, hst, hf], hne 0 (by omega) ▸ hc.noneZero,
    fun h hh => hne h (by omega) ▸ hc.noneAbove h (by omega), ?_, ?_⟩
  · rintro _ ⟨⟩ h h0 hle
    by_cases hk : h = k + 1
    · simp [hst, hk]
    · rw [hne h hk]
      exact hc.stored n rfl h h0 (by omega)
  · show Linked (commit env n₁).store
    rw [hst]
    exact Linked.update hc.linked hc.noneAbove (fun hk => hc.stored n rfl k hk le_rfl) rfl

def blockRequests : List FinalizeBlockRequest → List Request
  | [] => []
  | req :: reqs => .finalizeBlock req :: .commit :: blockRequests reqs

def chainRun (init : InitChainRequest) (now : Time) (reqs : List FinalizeBlockRequest) : List Request :=
  .initChain init now :: blockRequests reqs

section Run

variable (env : Env) (cfg : Config)

theorem chained_block {k : Nat} {p : Proc} (hc : Chained k p) {req : FinalizeBlockRequest}
    (hh : req.height = k + 1) (hk : k + 1 < 2 ^ 64) :
    Chained (k + 1) (run env cfg p [.finalizeBlock req, .commit]).1 := by
  cases p with
  | hung n => exact hc.stalled ⟨rfl, rfl⟩ fun _ h => by cases h
  | down d => exact hc.stalled ⟨rfl, rfl⟩ fun _ h => by cases h
  | up n =>
    have hs := finalizeBlock_sameBlocks env n req
    rcases hf : finalizeBlock env n req with ⟨n₁, s | ⟨resp, c⟩⟩
    · rw [hf] at hs
      have hr : (run env cfg (.up n) [.finalizeBlock req, .commit]).1 = .ofStall n₁ s := by
        simp only [run, step, stepUp, hf]
        cases s <;> rfl
      rw [hr]
      exact hc.stalled (by simpa using hs) fun _ => ofStall_ne_up s
    · rw [hf] at hs
      have hh' : n₁.app.currentBlockHeight = k + 1 := by
        rw [(finalizeBlock_block env hf).1, hh]
        dsimp only
        omega
      have hr : (run env cfg (.up n) [.finalizeBlock req, .commit]).1 = .up (commit env n₁) := by
        simp only [run, step, stepUp, hf]
      rw [hr]
      exact hc.after_commit hs hh' env

theorem run_blocks_chained : ∀ (reqs : List FinalizeBlockRequest) (k : Nat) (p : Proc),
    (∀ i (hi : i < reqs.length), reqs[i].height = ((k + i : Nat) : Int) + 1) →
    k + reqs.length < 2 ^ 64 → Chained k p → Chained (k + reqs.length) (run env cfg p (blockRequests reqs)).1
  | [], _, _, _, _, hc => hc
  | req :: reqs, k, p, hh, hn, hc => by
    have h₁ := chained_block env cfg hc (by simpa using hh 0 (by simp)) (by simp at hn; omega)
    have ih := run_blocks_chained reqs (k + 1) _ (fun i hi => by
      rw [← Nat.add_right_comm]
      exact hh (i + 1) (by simp; omega)) (by simp at hn; omega) h₁
    rw [show blockRequests (req :: reqs) = [.finalizeBlock req, .commit] ++ blockRequests reqs from rfl,
      run_append_fst]
    simpa [Nat.add_assoc, Nat.add_comm 1] using ih

end Run

/-- For a run `InitChain; (FinalizeBlock(h); Commit)` for `h = 1..n` on a node with no block
stored and no failing write, the stored blocks form a chain: block 1 records no parent,
every block from height 2 on records the hash of the block stored under the height before
it, and while the process is up all of blocks `1..n` are stored. Heights are `int64`. -/
theorem stored_blocks_chain (env : Env) (cfg : Config) (n₀ : Abci.Node) (init : InitChainRequest)
    (now : Time) (reqs : List FinalizeBlockRequest)
    (hh : ∀ i (hi : i < reqs.length), reqs[i].height = (i : Int) + 1) (hn : reqs.length < 2 ^ 63)
    (hb : ∀ h, n₀.store.blocks h = none) (hf : ∀ k, n₀.store.failing k = false) :
    (∀ b, (run env cfg (.up n₀) (chainRun init now reqs)).1.store.blocks 1 = some b →
        b.header.parentHash = none) ∧
      (∀ h b, 2 ≤ h → (run env cfg (.up n₀) (chainRun init now reqs)).1.store.blocks h = some b →
        ∃ b', (run env cfg (.up n₀) (chainRun init now reqs)).1.store.blocks (h - 1) = some b' ∧
          b.header.parentHash = some b'.header.hash) ∧
      ∀ n, (run env cfg (.up n₀) (chainRun init now reqs)).1 = .up n →
        ∀ h, 0 < h → h ≤ reqs.length → (n.store.blocks h).isSome := by
  have h₀ : Chained 0 (run env cfg (.up n₀) [.initChain init now]).1 := by
    show Chained 0 (stepUp env n₀ (.initChain init now)).1
    simp only [stepUp]
    split
    · rename_i n₁ r hi
      have hs := initChain_sameBlocks env hi
      exact ⟨fun k => hs.2 ▸ hf k, hs.1 ▸ hb 0, fun h _ => hs.1 ▸ hb h,
        fun _ _ h h0 hle => absurd h0 (by omega), fun h b _ hb' => by simp [Proc.store, hs.1, hb] at hb'⟩
    · exact ⟨fun k => by simpa using hf k, by simpa using hb 0, fun h _ => by simpa using hb h,
        fun _ hn => absurd hn (ofStall_ne_up _), fun h b _ hb' => by simp [hb] at hb'⟩
  have hc := run_blocks_chained env cfg reqs 0 _ (fun i hi => by simpa using hh i hi) (by omega) h₀
  rw [Nat.zero_add, ← run_append_fst, List.singleton_append] at hc
  unfold chainRun
  refine ⟨fun b hb₁ => ?_, fun h b h₂ hbh => ?_, hc.stored⟩
  · simpa [hc.noneZero] using (hc.linked 1 b (by omega) hb₁).1
  · obtain ⟨hp, hs⟩ := hc.linked h b (by omega) hbh
    obtain ⟨b', hb'⟩ := Option.isSome_iff_exists.1 (hs (by omega))
    exact ⟨b', hb', by rw [hp, hb']; rfl⟩

def twoEmptyBlocks : List FinalizeBlockRequest := [⟨1, 0, []⟩, ⟨2, 0, []⟩]

theorem stored_blocks_chain_fresh :
    (∀ i (hi : i < twoEmptyBlocks.length), twoEmptyBlocks[i].height = (i : Int) + 1) ∧
      twoEmptyBlocks.length < 2 ^ 63 ∧ (∀ h, freshNode.store.blocks h = none) ∧
      (∀ k, freshNode.store.failing k = false) ∧
      (∀ b, (run (creditEnv (fun _ => .ok "") (fun _ => .ok 0)) testnet (.up freshNode)
          (chainRun ⟨"oxy-gen-testnet", []⟩ 0 twoEmptyBlocks)).1.store.blocks 1 = some b →
          b.header.parentHash = none) ∧
      (∀ h b, 2 ≤ h → (run (creditEnv (fun _ => .ok "") (fun _ => .ok 0)) testnet (.up freshNode)
          (chainRun ⟨"oxy-gen-testnet", []⟩ 0 twoEmptyBlocks)).1.store.blocks h = some b →
        ∃ b', (run (creditEnv (fun _ => .ok "") (fun _ => .ok 0)) testnet (.up freshNode)
          (chainRun ⟨"oxy-gen-testnet", []⟩ 0 twoEmptyBlocks)).1.store.blocks (h - 1) = some b' ∧
          b.header.parentHash = some b'.header.hash) ∧
      ∀ n, (run (creditEnv (fun _ => .ok "") (fun _ => .ok 0)) testnet (.up freshNode)
          (chainRun ⟨"oxy-gen-testnet", []⟩ 0 twoEmptyBlocks)).1 = .up n →
        ∀ h, 0 < h → h ≤ twoEmptyBlocks.length → (n.store.blocks h).isSome :=
  have hh : ∀ i (hi : i < twoEmptyBlocks.length), twoEmptyBlocks[i].height = (i : Int) + 1 := by decide
  ⟨hh, by decide, fun _ => rfl, fun _ => rfl,
    stored_blocks_chain _ testnet freshNode _ 0 twoEmptyBlocks hh (by decide) (fun _ => rfl) fun _ => rfl⟩

set_option maxRecDepth 20000 in
theorem empty_blocks_share_hash :
    ∃ b₁ b₂, (run (creditEnv (fun _ => .ok "") (fun _ => .ok 0)) testnet (.up freshNode)
        (chainRun ⟨"oxy-gen-testnet", []⟩ 0 twoEmptyBlocks)).1.store.blocks 1 = some b₁ ∧
      (run (creditEnv (fun _ => .ok "") (fun _ => .ok 0)) testnet (.up freshNode)
        (chainRun ⟨"oxy-gen-testnet", []⟩ 0 twoEmptyBlocks)).1.store.blocks 2 = some b₂ ∧
      b₁.header.hash = 1 ∧ b₂.header.hash = 1 ∧ b₂.header.parentHash = some 1 :=
  ⟨_, _, rfl, rfl, rfl, rfl, rfl⟩

end OxyChain.Node

import OxyChain.Node.AppHash

/-! # The blocks `Commit` stores

`FinalizeBlock` keeps a transaction for the block only on code 0, and hands a hash to
`clearMempoolTx` only on codes 0 and 4; `Commit` stores the block under its height.
-/

namespace OxyChain.Abci

open Execution Validators

def admitted (env : Env) (raws : List Bytes) (results : List ExecTxResult) : List Transaction :=
  (raws.zip results).filterMap fun (raw, r) => if r.code = 0 then (env.decodeTx raw).toOption else none

@[simp] theorem admitted_nil (env : Env) : admitted env [] [] = [] := rfl

@[simp] theorem admitted_cons (env : Env) (raw : Bytes) (raws : List Bytes) (r : ExecTxResult)
    (rs : List ExecTxResult) :
    admitted env (raw :: raws) (r :: rs) =
      (if r.code = 0 then (env.decodeTx raw).toOption.toList else []) ++ admitted env raws rs := by
  simp only [admitted, List.zip_cons_cons, List.filterMap_cons]
  split_ifs <;> cases env.decodeTx raw <;> rfl

variable (env : Env)

theorem Store.orKeep_failing (st : Store) (r : Except String Store)
    (h : ∀ st', r = .ok st' → st'.failing = st.failing) : (st.orKeep r).failing = st.failing := by
  cases r <;> simp_all [Store.orKeep]

theorem Store.put_failing {st st' : Store} {k : StoreKey} {f : Store → Store}
    (h : st.put k f = .ok st') (hf : ∀ s, (f s).failing = s.failing) : st'.failing = st.failing := by
  unfold Store.put at h
  split_ifs at h
  cases h
  exact hf st

theorem deliverTx_block (n : Node) (raw : Bytes) :
    (deliverTx env n raw).1.app = { n.app with
        currentBlockTxs := n.app.currentBlockTxs ++
          (if (deliverTx env n raw).2.1.code = 0 then (env.decodeTx raw).toOption.toList else [])
        currentBlockReceipts := (deliverTx env n raw).1.app.currentBlockReceipts } ∧
      (deliverTx env n raw).1.store.failing = n.store.failing := by
  rcases hd : env.decodeTx raw with err | tx
  · simp [deliverTx, hd]
  rcases hv : validateTransaction tx with err | ⟨⟩
  · simp [deliverTx, hd, hv]
  rcases he : executeTransaction env.evm n.engine n.store tx.toExec with ⟨e, err | res⟩
  · simp [deliverTx, hd, hv, he]
  cases hs : res.success
  · simp [deliverTx, hd, hv, he, hs]
  · simp only [deliverTx, hd, hv, he, hs, Bool.not_true, Except.toOption, if_true]
    exact ⟨rfl, Store.orKeep_failing _ _ fun _ h => Store.put_failing h fun _ => rfl⟩

theorem deliverTxs_block (n : Node) (raws : List Bytes) :
    (deliverTxs env n raws).1.app = { n.app with
        currentBlockTxs := n.app.currentBlockTxs ++ admitted env raws (deliverTxs env n raws).2.1
        currentBlockReceipts := (deliverTxs env n raws).1.app.currentBlockReceipts } ∧
      (deliverTxs env n raws).1.store.failing = n.store.failing := by
  induction raws generalizing n with
  | nil => simp [deliverTxs]
  | cons raw raws ih =>
    obtain ⟨h₁, f₁⟩ := deliverTx_block env n raw
    obtain ⟨h₂, f₂⟩ := ih (deliverTx env n raw).1
    refine ⟨?_, f₂.trans f₁⟩
    simp only [deliverTxs]
    rw [h₂, h₁]
    simp [List.append_assoc]

theorem finalizeBlock_block {n n' : Node} {req : FinalizeBlockRequest} {resp : FinalizeBlockResponse}
    {c : List String} (h : finalizeBlock env n req = (n', .ok (resp, c))) :
    n'.app = { n.app with
        state := { n.app.state with height := req.height }
        currentBlockHeight := (req.height % 2 ^ 64).toNat, currentBlockTime := req.time
        currentBlockTxs := admitted env req.txs resp.txResults
        currentBlockReceipts := n'.app.currentBlockReceipts } ∧
      n'.store.failing = n.store.failing := by
  unfold finalizeBlock at h
  dsimp only at h
  split at h
  · rename_i hr
    obtain ⟨rfl, rfl, -⟩ := h
    rw [rotation_eq hr]
    obtain ⟨ha, hf⟩ := deliverTxs_block env (beginBlock n req) req.txs
    exact ⟨by rw [ha]; rfl, hf⟩
  · cases h

/-! ## The results and receipts of the loop -/

theorem deliverTxs_length (n : Node) (raws : List Bytes) :
    (deliverTxs env n raws).2.1.length = raws.length := by
  induction raws generalizing n with
  | nil => rfl
  | cons raw raws ih => simp [deliverTxs, ih]

theorem deliverTxs_getElem? (n : Node) (raws : List Bytes) :
    ∀ i (hi : i < raws.length), (deliverTxs env n raws).2.1[i]? =
      some (deliverTx env (deliverTxs env n (raws.take i)).1 raws[i]).2.1 := by
  induction raws generalizing n with
  | nil => exact fun i hi => absurd hi (Nat.not_lt_zero i)
  | cons raw raws ih =>
    rintro (_ | i) hi
    · simp [deliverTxs]
    · simpa [deliverTxs] using ih (deliverTx env n raw).1 i (by simpa using hi)

def receiptKey (r : TransactionReceipt) : String × Nat := (r.transactionHash, r.blockNumber)

theorem deliverTx_receipts (n : Node) (raw : Bytes) :
    (deliverTx env n raw).1.app.currentBlockReceipts.map receiptKey =
      n.app.currentBlockReceipts.map receiptKey ++
        (if (deliverTx env n raw).2.1.code = 0 then (env.decodeTx raw).toOption.toList else []).map
          fun tx => (tx.hash, n.app.currentBlockHeight) := by
  rcases hd : env.decodeTx raw with err | tx
  · simp [deliverTx, hd]
  rcases hv : validateTransaction tx with err | ⟨⟩
  · simp [deliverTx, hd, hv]
  rcases he : executeTransaction env.evm n.engine n.store tx.toExec with ⟨e, err | res⟩
  · simp [deliverTx, hd, hv, he]
  cases hs : res.success
  · simp [deliverTx, hd, hv, he, hs]
  · simp [deliverTx, hd, hv, he, hs, receiptKey, Except.toOption]

theorem deliverTxs_receipts (n : Node) (raws : List Bytes) :
    (deliverTxs env n raws).1.app.currentBlockReceipts.map receiptKey =
      n.app.currentBlockReceipts.map receiptKey ++
        (admitted env raws (deliverTxs env n raws).2.1).map fun tx => (tx.hash, n.app.currentBlockHeight) := by
  induction raws generalizing n with
  | nil => simp [deliverTxs]
  | cons raw raws ih =>
    have hh : (deliverTx env n raw).1.app.currentBlockHeight = n.app.currentBlockHeight := by
      rw [(deliverTx_block env n raw).1]
    simp only [deliverTxs, admitted_cons, ih, deliverTx_receipts, hh, List.map_append, List.append_assoc]

/-- A `FinalizeBlock` that answers returns one result per transaction, the `i`-th being the
one `deliverTx` gives the `i`-th transaction after the ones before it; the block's
transactions are the decoded ones answered with code 0, in request order; and its receipts
are theirs, in the same order, each under its transaction's hash and at block number
`uint64(req.Height)`. -/
theorem finalizeBlock_results (n : Node) (req : FinalizeBlockRequest) {n' : Node}
    {resp : FinalizeBlockResponse} {c : List String} (h : finalizeBlock env n req = (n', .ok (resp, c))) :
    resp.txResults.length = req.txs.length ∧
      (∀ i (hi : i < req.txs.length), resp.txResults[i]? =
        some (deliverTx env (deliverTxs env (beginBlock n req) (req.txs.take i)).1 req.txs[i]).2.1) ∧
      n'.app.currentBlockTxs = admitted env req.txs resp.txResults ∧
      n'.app.currentBlockReceipts.map receiptKey =
        n'.app.currentBlockTxs.map fun tx => (tx.hash, (req.height % 2 ^ 64).toNat) := by
  have hb := (finalizeBlock_block env h).1
  unfold finalizeBlock at h
  dsimp only at h
  split at h
  · rename_i hr
    obtain ⟨rfl, rfl, -⟩ := h
    rw [rotation_eq hr] at hb ⊢
    refine ⟨deliverTxs_length env _ _, deliverTxs_getElem? env _ _, congrArg App.currentBlockTxs hb, ?_⟩
    rw [deliverTxs_receipts, congrArg App.currentBlockTxs hb]
    rfl
  · cases h

def oneTxBlock : FinalizeBlockRequest := ⟨1, 0, [[]]⟩

set_option maxRecDepth 20000 in
theorem finalizeBlock_results_one_tx :
    ∃ n' resp c, finalizeBlock (creditEnv (fun _ => .ok "") (fun _ => .ok 0)) Node.freshNode oneTxBlock =
        (n', .ok (resp, c)) ∧
      resp.txResults.length = oneTxBlock.txs.length ∧
      (∀ i (hi : i < oneTxBlock.txs.length), resp.txResults[i]? =
        some (deliverTx (creditEnv (fun _ => .ok "") (fun _ => .ok 0))
          (deliverTxs (creditEnv (fun _ => .ok "") (fun _ => .ok 0)) (beginBlock Node.freshNode oneTxBlock)
            (oneTxBlock.txs.take i)).1 oneTxBlock.txs[i]).2.1) ∧
      n'.app.currentBlockTxs = admitted (creditEnv (fun _ => .ok "") (fun _ => .ok 0)) oneTxBlock.txs
        resp.txResults ∧
      n'.app.currentBlockReceipts.map receiptKey =
        n'.app.currentBlockTxs.map fun tx => (tx.hash, (oneTxBlock.height % 2 ^ 64).toNat) :=
  ⟨_, _, _, rfl, finalizeBlock_results _ _ _ rfl⟩

set_option maxRecDepth 20000 in
theorem receipt_block_number_wraps :
    ∃ n' resp c, finalizeBlock (creditEnv (fun _ => .ok "") (fun _ => .ok 0)) Node.freshNode ⟨-1, 0, [[]]⟩ =
        (n', .ok (resp, c)) ∧
      resp.txResults.map (·.code) = [0] ∧ n'.app.currentBlockReceipts.map (·.blockNumber) = [2 ^ 64 - 1] :=
  ⟨_, _, _, rfl, rfl, rfl⟩

/-! ## The logs of a receipt -/

def logEvm : Evm :=
  ⟨fun w m _ => (w, .ok ⟨21000, false, [], [⟨m.fromAddr, [], []⟩]⟩), fun _ => 1⟩

def logEnv : Env := { creditEnv (fun _ => .ok "") (fun _ => .ok 0) with evm := logEvm }

set_option maxRecDepth 20000 in
/-- Two transactions of one block, each emitting one log: the second's receipt holds both
logs, and its result three events (the execution and two logs). -/
theorem receipt_logs_accumulate :
    ∃ n' resp c, finalizeBlock logEnv Node.freshNode ⟨1, 0, [[], []]⟩ = (n', .ok (resp, c)) ∧
      n'.app.currentBlockReceipts.map (·.logs.length) = [1, 2] ∧
      resp.txResults.map (·.events.length) = [2, 3] :=
  ⟨_, _, _, rfl, rfl, rfl⟩

/-! ## The hashes handed to `clearMempoolTx` -/

def clearedHashes (raws : List Bytes) (results : List ExecTxResult) : List String :=
  (raws.zip results).filterMap fun (raw, r) =>
    if r.code = 0 ∨ r.code = 4 then (env.decodeTx raw).toOption.map (·.hash) else none

@[simp] theorem clearedHashes_cons (raw : Bytes) (raws : List Bytes) (r : ExecTxResult)
    (rs : List ExecTxResult) :
    clearedHashes env (raw :: raws) (r :: rs) =
      (if r.code = 0 ∨ r.code = 4 then ((env.decodeTx raw).toOption.map (·.hash)).toList else []) ++
        clearedHashes env raws rs := by
  simp only [clearedHashes, List.zip_cons_cons, List.filterMap_cons]
  split_ifs <;> cases env.decodeTx raw <;> rfl

theorem deliverTx_cleared (n : Node) (raw : Bytes) :
    (deliverTx env n raw).2.2 =
      if (deliverTx env n raw).2.1.code = 0 ∨ (deliverTx env n raw).2.1.code = 4 then
        ((env.decodeTx raw).toOption.map (·.hash)).toList else [] := by
  rcases hd : env.decodeTx raw with err | tx
  · simp [deliverTx, hd]
  rcases hv : validateTransaction tx with err | ⟨⟩
  · simp [deliverTx, hd, hv]
  rcases he : executeTransaction env.evm n.engine n.store tx.toExec with ⟨e, err | res⟩
  · simp [deliverTx, hd, hv, he]
  cases hs : res.success
  · simp [deliverTx, hd, hv, he, hs, Except.toOption]
  · simp [deliverTx, hd, hv, he, hs, Except.toOption]

theorem deliverTxs_cleared (n : Node) (raws : List Bytes) :
    (deliverTxs env n raws).2.2 = clearedHashes env raws (deliverTxs env n raws).2.1 := by
  induction raws generalizing n with
  | nil => rfl
  | cons raw raws ih => simp only [deliverTxs, clearedHashes_cons, ih, ← deliverTx_cleared]

/-- A `FinalizeBlock` that answers hands to `clearMempoolTx` the hash of every decoded
transaction answered with code 0 or 4, and of no other. -/
theorem finalizeBlock_cleared (n : Node) (req : FinalizeBlockRequest) {n' : Node}
    {resp : FinalizeBlockResponse} {c : List String} (h : finalizeBlock env n req = (n', .ok (resp, c))) :
    c = clearedHashes env req.txs resp.txResults := by
  unfold finalizeBlock at h
  dsimp only at h
  split at h
  · obtain ⟨-, rfl, rfl⟩ := h
    exact deliverTxs_cleared env _ _
  · cases h

theorem finalizeBlock_cleared_oneTx :
    ∃ n' resp c, finalizeBlock (creditEnv (fun _ => .ok "") (fun _ => .ok 0)) Node.freshNode ⟨1, 0, [[]]⟩ =
      (n', .ok (resp, c)) ∧ c = clearedHashes (creditEnv (fun _ => .ok "") (fun _ => .ok 0)) [[]] resp.txResults :=
  ⟨_, _, _, rfl, finalizeBlock_cleared (creditEnv (fun _ => .ok "") (fun _ => .ok 0)) Node.freshNode ⟨1, 0, [[]]⟩ rfl⟩

def badFromTx : Transaction := { unsignedTx with hash := "0x02", fromAddr := "0x2" }

def badValueTx : Transaction := { unsignedTx with hash := "0x03", value := "dos" }

def rejectEnv : Env :=
  { creditEnv (fun _ => .ok "") (fun _ => .ok 0) with
    decodeTx := fun raw => .ok (if raw = [2] then badFromTx else badValueTx) }

set_option maxRecDepth 20000 in
/-- A block with a transaction answered with code 2 and one answered with code 3: both
decode, with their hashes, and neither is handed to `clearMempoolTx`. -/
theorem finalizeBlock_keeps_rejected_txs :
    ∃ n' resp, finalizeBlock rejectEnv Node.freshNode ⟨1, 0, [[2], [3]]⟩ = (n', .ok (resp, [])) ∧
      resp.txResults.map (·.code) = [2, 3] ∧
      [[2], [3]].map (fun raw => (rejectEnv.decodeTx raw).toOption.map (·.hash)) =
        [some "0x02", some "0x03"] :=
  ⟨_, _, rfl, rfl, rfl⟩

/-! ## The block `Commit` stores -/

theorem saveState_failing (evm : Evm) (e : Engine) (st : Store) :
    (saveState evm e st).2.1.failing = st.failing := by
  unfold saveState
  split
  · rfl
  · dsimp only
    split
    · rfl
    · rename_i h
      dsimp only
      exact Store.put_failing h fun _ => rfl

theorem commit_block (n : Node) (hh : 0 < n.app.currentBlockHeight)
    (hf : ∀ k, n.store.failing k = false) :
    ∃ b, (commit env n).store.blocks n.app.currentBlockHeight = some b ∧
      b.header.height = n.app.currentBlockHeight ∧ b.header.hash = (commit env n).app.state.appHash ∧
      b.header.timestamp = n.app.currentBlockTime ∧ b.transactions = n.app.currentBlockTxs := by
  have h₁ : ∀ k, (saveState env.evm n.engine n.store).2.1.failing k = false := by
    simpa [saveState_failing] using hf
  simp [commit, saveBlock, hh, Store.saveState, Store.saveBlock, Store.saveLatestHeight, Store.put,
    Store.orKeep, h₁]

/-- A block that `FinalizeBlock` finishes at a height in range and `Commit` stores with no
failing write holds the request's height and time and exactly the transactions answered
with code 0, in the order of the request. -/
theorem committed_block_transactions (n : Node) (req : FinalizeBlockRequest) {n' : Node}
    {resp : FinalizeBlockResponse} {c : List String}
    (hfin : finalizeBlock env n req = (n', .ok (resp, c))) (hh : 0 < req.height)
    (hlt : req.height < 2 ^ 64) (hf : ∀ k, n.store.failing k = false) :
    ∃ b, (commit env n').store.blocks req.height.toNat = some b ∧
      b.header.height = req.height.toNat ∧ b.header.timestamp = req.time ∧
      b.transactions = admitted env req.txs resp.txResults := by
  obtain ⟨ha, hfl⟩ := finalizeBlock_block env hfin
  have h64 : (req.height % 2 ^ 64).toNat = req.height.toNat := by
    rw [Int.emod_eq_of_lt hh.le hlt]
  obtain ⟨b, hb, hbh, -, hbt, hbx⟩ := commit_block env n' (by rw [ha]; dsimp only; omega)
    (by rw [hfl]; exact hf)
  rw [ha, h64] at hb hbh
  rw [ha] at hbt hbx
  exact ⟨b, hb, hbh, hbt, hbx⟩

end OxyChain.Abci

namespace OxyChain.Node

open Abci Execution

set_option maxRecDepth 20000 in
theorem committed_block_transactions_at_one :
    ∃ b, (commit (creditEnv (fun _ => .ok "") (fun _ => .ok 0))
        (finalizeBlock (creditEnv (fun _ => .ok "") (fun _ => .ok 0)) freshNode
          ⟨1, 0, [[]]⟩).1).store.blocks (1 : Int).toNat = some b ∧
      b.header.height = (1 : Int).toNat ∧ b.header.timestamp = 0 ∧
      b.transactions = admitted (creditEnv (fun _ => .ok "") (fun _ => .ok 0)) [[]]
        [⟨0, "OK", 21000, [.execution true 21000]⟩] :=
  committed_block_transactions (creditEnv (fun _ => .ok "") (fun _ => .ok 0)) freshNode
    ⟨1, 0, [[]]⟩ rfl (by decide) (by decide) fun _ => rfl

def replayBlock (evm : Evm) (w : World) (b : Block) : World :=
  b.transactions.foldl (fun w tx =>
    match setString tx.value, setString tx.gasPrice with
    | some v, some g =>
      (evm.applyMessage w (message tx.toExec v g)
        ⟨b.header.height, (b.header.timestamp % 2 ^ 64).toNat, tx.gasLimit.toNat⟩).1
    | _, _ => w) w

set_option maxRecDepth 20000 in
theorem replay_block_two_misses_app_hash :
    ∃ n b₁ b₂ w₁, (run (creditEnv (fun _ => .ok "") (fun _ => .ok 0)) testnet (.down emptyDisk)
        twoBlocks).1.node? = some n ∧
      n.store.blocks 1 = some b₁ ∧ n.store.blocks 2 = some b₂ ∧
      openAt n.engine.tries b₁.header.hash = some w₁ ∧
      creditEvm.intermediateRoot (replayBlock creditEvm w₁ b₂) ≠ b₂.header.hash :=
  ⟨_, _, _, _, rfl, rfl, rfl, rfl, by decide⟩

end OxyChain.Node

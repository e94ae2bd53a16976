import OxyChain.Abci.Validate

/-! # The ABCI application (`internal/consensus/abci_app.go`)

`ABCIApp` with what its pointers reach: the executor, the store and the validator set. The
methods the consensus engine calls in order are `Info`, `InitChain`, `FinalizeBlock` and
`Commit`. A method that does not return ends in a `Stall`: a Go panic, or a wait on
`vs.mutex` that no one will end.
-/

namespace OxyChain.Abci

open Execution Validators

structure App where
  state : AppState
  currentBlockHeight : Nat
  currentBlockTime : Int
  currentBlockTxs : List Transaction
  currentBlockReceipts : List TransactionReceipt
  chainID : String

/-- An `ABCIApp` and what its pointers reach. `validatorsLocked` is `vs.mutex` held for
good by a call stuck in its own `SaveValidators`. -/
structure Node where
  app : App
  engine : Engine
  store : Store
  validators : Option ValidatorSet
  validatorsLocked : Bool

inductive Stall where
  | panic
  | hang
  deriving DecidableEq, Repr

def newApp (chainID : String) : App :=
  ⟨⟨0, 0, []⟩, 0, 0, [], [], chainID⟩

/-! ## `Info` and `InitChain` -/

structure InfoResponse where
  data : String
  version : String
  appVersion : Nat
  lastBlockHeight : Int
  lastBlockAppHash : Hash

def info (n : Node) : InfoResponse :=
  ⟨"oxy-blockchain-v0.1.0", "0.1.0", 1, n.app.state.height, n.app.state.appHash⟩

structure InitChainRequest where
  chainId : String
  validators : List ValidatorUpdate

structure InitChainResponse where
  validators : List ValidatorUpdate
  appHash : Hash

def genesisValidator (env : Env) (v : ValidatorUpdate) : GenesisValidator :=
  ⟨env.pubKeyAddress v.pubKeyBytes, v.pubKeyBytes, v.power * 10 ^ 18⟩

def seedValidators (env : Env) (vs : ValidatorSet) (st : Store) (req : InitChainRequest)
    (now : Time) : ValidatorSet × Store :=
  let vs := loadValidators vs st.validatorSet
  if (getActiveValidators vs).isEmpty then
    let vs := initializeGenesisValidators vs (req.validators.map (genesisValidator env)) now
    (vs, st.orKeep (st.saveValidatorSet (saveValidators vs)))
  else (vs, st)

def initChain (env : Env) (n : Node) (req : InitChainRequest) (now : Time) :
    Except Stall (Node × InitChainResponse) := do
  let (vals, n) ← match n.validators with
    | none => pure (req.validators, n)
    | some vs =>
      if n.validatorsLocked then throw .hang
      else
        let (vs, st) := seedValidators env vs n.store req now
        pure (if req.validators ≠ [] then req.validators else toCometBFTValidators vs,
          { n with validators := some vs, store := st })
  let n := { n with app := { n.app with state := { n.app.state with validators := vals } } }
  pure (n, ⟨vals, n.app.state.appHash⟩)

/-! ## `FinalizeBlock` -/

structure FinalizeBlockRequest where
  height : Int
  time : Int
  txs : List Bytes

inductive Event where
  | execution (success : Bool) (gasUsed : Nat)
  | contractLog (address : Address)
  deriving DecidableEq, Repr

structure ExecTxResult where
  code : Nat
  log : String
  gasUsed : Int
  events : List Event
  deriving DecidableEq, Repr

structure FinalizeBlockResponse where
  txResults : List ExecTxResult
  validatorUpdates : List ValidatorUpdate

def buildEvents (r : ExecutionResult) : List Event :=
  .execution r.success r.gasUsed :: r.logs.map fun l => .contractLog l.address

def deliverTx (env : Env) (n : Node) (raw : Bytes) : Node × ExecTxResult × List String :=
  match env.decodeTx raw with
  | .error err => (n, ⟨1, "Error decodificando transacción: " ++ err, 0, []⟩, [])
  | .ok tx =>
    match validateTransaction tx with
    | .error err => (n, ⟨2, "Transacción inválida: " ++ err, 0, []⟩, [])
    | .ok () =>
      let (e, r) := executeTransaction env.evm n.engine n.store tx.toExec
      let n := { n with engine := e }
      match r with
      | .error err => (n, ⟨3, "Error ejecutando transacción: " ++ err, 0, []⟩, [])
      | .ok res =>
        if !res.success then
          (n, ⟨4, res.error, toInt64 res.gasUsed, buildEvents res⟩, [tx.hash])
        else
          let receipt : TransactionReceipt :=
            ⟨tx.hash, n.app.currentBlockHeight, res.gasUsed, "success", res.logs, res.error⟩
          ({ n with
              store := n.store.orKeep (n.store.saveTransaction tx.hash tx)
              app := { n.app with
                currentBlockTxs := n.app.currentBlockTxs ++ [tx]
                currentBlockReceipts := n.app.currentBlockReceipts ++ [receipt] } },
            ⟨0, "OK", toInt64 res.gasUsed, buildEvents res⟩, [tx.hash])

def deliverTxs (env : Env) : Node → List Bytes → Node × List ExecTxResult × List String
  | n, [] => (n, [], [])
  | n, raw :: rest =>
    let (n, r, c) := deliverTx env n raw
    let (n, rs, cs) := deliverTxs env n rest
    (n, r :: rs, c ++ cs)

def powerOf (l : List ValidatorUpdate) (k : Bytes) : Option Int :=
  (l.reverse.find? (·.pubKeyBytes == k)).map (·.power)

/-- `hasValidatorChanges`. The logs it prints slice `key[:8]` on the power-changed and
removed paths, a panic (`none`) for a key shorter than 8 bytes. The Go loops range over
maps; here over the keys in list order. -/
def hasValidatorChanges (current updates : List ValidatorUpdate) : Option Bool :=
  if current.length ≠ updates.length then some true
  else
    let keys (l : List ValidatorUpdate) := (l.map (·.pubKeyBytes)).dedup
    let slice (k : Bytes) : Option Bool := if k.length < 8 then none else some true
    match (keys updates).find? (fun k => powerOf current k ≠ powerOf updates k) with
    | some k => if powerOf current k = none then some true else slice k
    | none =>
      match (keys current).find? (fun k => powerOf updates k = none) with
      | some k => slice k
      | none => some false

def rotation (n : Node) (height : Int) : Except Stall (Node × List ValidatorUpdate) :=
  if 0 < height ∧ height % 100 = 0 then
    match n.validators with
    | none => pure (n, [])
    | some vs =>
      if n.validatorsLocked then throw .hang
      else
        let current := toCometBFTValidators vs
        if current.length ≤ 1 then pure (n, [])
        else
          match rotateValidators vs with
          | none => throw .panic
          | some (updates, vs) =>
            let n := { n with validators := some vs }
            if updates.length = 0 then pure (n, [])
            else
              match hasValidatorChanges current updates with
              | none => throw .panic
              | some changed => pure (n, if changed then updates else [])
  else pure (n, [])

def beginBlock (n : Node) (req : FinalizeBlockRequest) : Node :=
  let h := (req.height % 2 ^ 64).toNat
  { n with
    app := { n.app with
      state := { n.app.state with height := req.height }
      currentBlockHeight := h, currentBlockTime := req.time
      currentBlockTxs := [], currentBlockReceipts := [] }
    engine := setCurrentBlockInfo n.engine h req.time }

/-- `FinalizeBlock`: every transaction delivered, then the rotation. Also returns the
`clearMempoolTx` calls. The node is returned as far as the call got, also when it stalls in
the rotation. -/
def finalizeBlock (env : Env) (n : Node) (req : FinalizeBlockRequest) :
    Node × Except Stall (FinalizeBlockResponse × List String) :=
  let (n, results, cleared) := deliverTxs env (beginBlock n req) req.txs
  match rotation n req.height with
  | .ok (n, updates) => (n, .ok (⟨results, updates⟩, cleared))
  | .error s => (n, .error s)

/-! ## `Commit` -/

def saveBlock (app : App) (appHash : Hash) (st : Store) : Store :=
  let h := app.currentBlockHeight
  let parentHash := if 0 < h then (st.blocks (h - 1)).map (·.header.hash) else none
  let block : Block := ⟨⟨h, appHash, parentHash, app.currentBlockTime, app.chainID⟩,
    app.currentBlockTxs, app.currentBlockReceipts⟩
  match st.saveBlock h block with
  | .error _ => st
  | .ok st => st.orKeep (st.saveLatestHeight h)

/-- The app hash `Commit` reports: the manager's state root, or the hash of `app.state`
when that root is zero. -/
def commitHash (env : Env) (e : Engine) (s : AppState) : Hash :=
  let root := getRootHash env.evm e
  if root ≠ 0 then root else env.appStateHash s

/-- `Commit`. Every error on the way is logged and the commit acknowledged. -/
def commit (env : Env) (n : Node) : Node :=
  let (e, st, _) := saveState env.evm n.engine n.store
  let appHash := commitHash env e n.app.state
  let st := st.orKeep (st.saveState ⟨getRootHash env.evm e, n.app.state.height, some appHash⟩)
  let st := if 0 < n.app.currentBlockHeight then saveBlock n.app appHash st else st
  { n with engine := e, store := st,
           app := { n.app with state := { n.app.state with appHash := appHash } } }

end OxyChain.Abci

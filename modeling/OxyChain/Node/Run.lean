import OxyChain.Abci.Query
import OxyChain.Validators.Calls

/-! # The node process (`main`, `RestServer`)

The process as the consensus engine, the REST clients and the operator see it: a `Proc` is
up, hung (the consensus engine waits on a call that never returns), or down with only its
disk. Each `Request` is one call from outside and `step` answers it; a run is the requests
in order.
-/

namespace OxyChain.Node

open Abci Execution Validators

structure Config where
  chainID : String
  minStake : Int
  maxValidators : Int

/-- What outlives the process: the store. No trie node reaches `evm_state`. -/
structure Disk where
  store : Store

def diskOf (n : Abci.Node) : Disk := ⟨n.store⟩

def testnet : Config := ⟨"oxy-gen-testnet", 10 * 10 ^ 18, 100⟩

def emptyDisk : Disk := ⟨Store.empty⟩

/-- `main` up to the consensus engine: the executor started on the disk, a validator set
loaded from the store, a fresh `ABCIApp`. `none` when `evm.Start` fails (`logger.Fatalf`). -/
def boot (evm : Evm) (cfg : Config) (d : Disk) : Option Abci.Node :=
  match start (Engine.fresh (evm.intermediateRoot World.empty)) d.store with
  | .error _ => none
  | .ok e => some ⟨newApp cfg.chainID, e, d.store,
      some (loadValidators ⟨VMap.empty, cfg.minStake, cfg.maxValidators⟩ d.store.validatorSet),
      false⟩

def freshNode : Abci.Node :=
  ⟨newApp "oxy-gen-testnet", ⟨[⟨World.empty, []⟩], some 0, some 0, [(1, World.empty)], 1, true, 0, 0⟩,
    Store.empty, some ⟨VMap.empty, 10 * 10 ^ 18, 100⟩, false⟩

inductive Proc where
  | up (n : Abci.Node)
  | hung (n : Abci.Node)
  | down (d : Disk)

def Proc.node? : Proc → Option Abci.Node
  | .up n => some n
  | _ => none

/-- A panic ends the process; a wait that never ends leaves it hung. -/
def Proc.ofStall (n : Abci.Node) : Stall → Proc
  | .panic => .down (diskOf n)
  | .hang => .hung n

/-! ## The REST server -/

inductive RestRequest where
  | accounts (method : String) (urlPath : String) (amount : Option String)
  | other (urlPath : String)

def accountsPrefix : String := "/api/v1/accounts/"

def statusOf {α : Type} : Except String α → Nat
  | .ok _ => 200
  | .error _ => 500

def handleFundAccount (n : Abci.Node) (method urlPath address : String) (amount : Option String) :
    Abci.Node × Nat :=
  if method ≠ "POST" then (n, 405)
  else
    let address :=
      if address = "" then trimSuffix (trimPrefix urlPath accountsPrefix) "/fund" else address
    if !isHexAddress address then (n, 400)
    else
      match amount with
      | none => (n, 400)
      | some amount =>
        if amount = "" then (n, 400)
        else
          let (e, r) := fundAccount n.engine n.store address amount
          let n := { n with engine := e }
          match r with
          | .error _ => (n, 500)
          | .ok () =>
            let (e, r) := getState n.engine n.store address
            ({ n with engine := e }, statusOf r)

def handleAccounts (n : Abci.Node) (method urlPath : String) (amount : Option String) :
    Abci.Node × Nat :=
  let path := trimPrefix urlPath accountsPrefix
  if hasSuffix path "/fund" then handleFundAccount n method urlPath (trimSuffix path "/fund") amount
  else if method ≠ "GET" then (n, 405)
  else if !isHexAddress path then (n, 400)
  else
    let (e, r) := getState n.engine n.store path
    ({ n with engine := e }, statusOf r)

def handleRest (n : Abci.Node) : RestRequest → Abci.Node × Nat
  | .accounts m p a => handleAccounts n m p a
  | .other _ => (n, 200)

/-! ## Requests -/

inductive Request where
  | info
  | initChain (req : InitChainRequest) (now : Time)
  | prepareProposal (req : PrepareProposalRequest) (mempool : Option (List Transaction))
  | processProposal (txs : List Bytes)
  | finalizeBlock (req : FinalizeBlockRequest)
  | commit
  | checkTx (raw : Bytes)
  | query (path : String)
  | rest (r : RestRequest)
  | validatorCall (c : Call) (now : Time)
  | stop
  | crash
  | restart

inductive Response where
  | info (r : InfoResponse)
  | initChain (r : InitChainResponse)
  | proposal (txs : List Bytes)
  | accept (ok : Bool)
  | finalizeBlock (r : FinalizeBlockResponse) (cleared : List String)
  | commit (appHash : Hash)
  | checkTx (code : Nat) (log : String)
  | query (r : QueryResponse)
  | rest (status : Nat)
  | done
  | noAnswer

/-- A `ValidatorSet` method called on the running node. A call that ends in
`SaveValidators` under `Lock` blocks there with the lock held; its changes to the map stay
and nothing is saved. -/
def callValidators (n : Abci.Node) (c : Call) (now : Time) : Proc × Response :=
  match n.validators with
  | none => (.down (diskOf n), .noAnswer)
  | some vs =>
    if n.validatorsLocked then (.up n, .noAnswer)
    else
      match c.run vs now with
      | none => (.down (diskOf n), .noAnswer)
      | some (vs', saved) =>
        let n' := { n with validators := some vs' }
        if c.savesUnderLock vs now then (.up { n' with validatorsLocked := true }, .noAnswer)
        else if saved then
          (.up { n' with store := n'.store.orKeep (n'.store.saveValidatorSet (saveValidators vs')) },
            .done)
        else (.up n', .done)

def stepUp (env : Env) (n : Abci.Node) : Request → Proc × Response
  | .info => (.up n, .info (info n))
  | .initChain req now =>
    match initChain env n req now with
    | .ok (n, r) => (.up n, .initChain r)
    | .error s => (.ofStall n s, .noAnswer)
  | .prepareProposal req m => (.up n, .proposal (prepareProposal env m req))
  | .processProposal txs => (.up n, .accept (processProposal txs))
  | .finalizeBlock req =>
    match finalizeBlock env n req with
    | (n, .ok (r, c)) => (.up n, .finalizeBlock r c)
    | (n, .error s) => (.ofStall n s, .noAnswer)
  | .commit => let n := commit env n; (.up n, .commit n.app.state.appHash)
  | .checkTx raw => let (n, code, log) := checkTx env n raw; (.up n, .checkTx code log)
  | .query path => let (n, r) := query n path; (.up n, .query r)
  | .rest r => let (n, s) := handleRest n r; (.up n, .rest s)
  | .validatorCall c now => callValidators n c now
  | .stop => (.down ⟨(Execution.stop env.evm n.engine n.store).2⟩, .done)
  | .crash => (.down (diskOf n), .noAnswer)
  | .restart => (.up n, .noAnswer)

def step (env : Env) (cfg : Config) : Proc → Request → Proc × Response
  | .up n, r => stepUp env n r
  | .hung n, .crash => (.down (diskOf n), .noAnswer)
  | .hung n, _ => (.hung n, .noAnswer)
  | .down d, .restart =>
    match boot env.evm cfg d with
    | some n => (.up n, .done)
    | none => (.down d, .noAnswer)
  | .down d, _ => (.down d, .noAnswer)

def run (env : Env) (cfg : Config) : Proc → List Request → Proc × List Response
  | p, [] => (p, [])
  | p, r :: rs =>
    let (p, o) := step env cfg p r
    let (p, os) := run env cfg p rs
    (p, o :: os)

def Response.appHash? : Response → Option Hash
  | .commit h => some h
  | _ => none

def commitHashes (os : List Response) : List Hash := os.filterMap Response.appHash?

end OxyChain.Node

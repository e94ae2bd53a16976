import OxyChain.Store

/-! # The EVM executor and the state manager

The `state.StateDB` objects live in `heap`, with `executorDB` and `managerDB` the two
pointers; `core.ApplyMessage` and `IntermediateRoot` are outside the repository and are the
fields of `Evm`.
-/

namespace OxyChain.Execution

structure Account where
  nonce : Nat
  balance : Nat
  codeHash : Hash
  storage : Nat → Nat

def Account.empty : Account := ⟨0, 0, 0, fun _ => 0⟩

abbrev World := Address → Account

def World.empty : World := fun _ => Account.empty

/-- A `state.StateDB` object: the world it shows, and the logs added to it since it was
made (nothing in the node ever clears them). -/
structure StateDB where
  world : World
  logs : List Log

structure Message where
  fromAddr : Address
  toAddr : Option Address
  nonce : Nat
  value : Int
  gasLimit : Nat
  gasPrice : Int
  data : Bytes

structure BlockContext where
  number : Nat
  time : Nat
  gasLimit : Nat

structure ApplyResult where
  usedGas : Nat
  failed : Bool
  returnData : Bytes
  logs : List Log

/-- The EVM, outside this repository: `core.ApplyMessage` on a world, returning the world it
leaves (a rejected message may still have bought gas), and `IntermediateRoot`. -/
structure Evm where
  applyMessage : World → Message → BlockContext → World × Except String ApplyResult
  intermediateRoot : World → Hash

structure Engine where
  heap : List StateDB
  executorDB : Option Nat
  managerDB : Option Nat
  /-- The roots the manager's trie database opens, with the world each shows: the empty
  state's, and those `SaveState` committed to it. The commits stay in the database's memory
  (nothing calls `triedb.Commit`), and `LoadState` makes a new database. -/
  tries : List (Hash × World)
  /-- `types.EmptyRootHash`, the EVM's root of the empty state. -/
  emptyRoot : Hash
  running : Bool
  currentHeight : Nat
  currentTimestamp : Int

namespace Engine

def fresh (emptyRoot : Hash) : Engine := ⟨[], none, none, [], emptyRoot, false, 0, 0⟩

def deref (e : Engine) (p : Option Nat) : Option StateDB := p.bind (e.heap[·]?)

def alloc (e : Engine) (db : StateDB) : Engine × Nat := ({ e with heap := e.heap ++ [db] }, e.heap.length)

def write (e : Engine) (i : Nat) (db : StateDB) : Engine := { e with heap := e.heap.set i db }

def executorWorld (e : Engine) : Option World := (e.deref e.executorDB).map (·.world)

def managerWorld (e : Engine) : Option World := (e.deref e.managerDB).map (·.world)

end Engine

/-- `state.New(root, database)`: the zero root is the empty state; any other root must be
one the trie database opens. -/
def openAt (tries : List (Hash × World)) (root : Hash) : Option World :=
  if root = 0 then some World.empty else tries.lookup root

/-! ## `StateManager` -/

/-- `LoadState`: a new trie database over `evm_state`, where no trie node was ever written,
so it opens the empty state's root only; then a fresh `StateDB` at the root `state_meta`
names, the zero root when there is none. Opening the directory is taken to succeed here;
what a failed open does to it is modelled in `Startup`. -/
def loadState (e : Engine) (st : Store) : Except String (Engine × Nat) :=
  let tries := [(e.emptyRoot, World.empty)]
  match openAt tries ((st.stateMeta.map (·.root)).getD 0) with
  | none => .error "error creando StateDB: missing trie node"
  | some w =>
    let (e, i) := { e with tries }.alloc ⟨w, []⟩
    .ok ({ e with managerDB := some i }, i)

def reloadStateFromRoot (e : Engine) (root : Hash) : Option World := openAt e.tries root

def getCurrentHeight (st : Store) : Nat := st.latestHeight.getD 0

/-- `SaveState`: commit the manager's object into the trie database, reload the manager from
the new root (through `LoadState` when that fails), record the root in `state_meta`. The
commit and reload stay even when the last write fails. -/
def saveState (evm : Evm) (e : Engine) (st : Store) : Engine × Store × Except String Unit :=
  match e.deref e.managerDB with
  | none => (e, st, .error "StateDB no está inicializado")
  | some db =>
    let root := evm.intermediateRoot db.world
    let e := { e with tries := (root, db.world) :: e.tries }
    let e := match reloadStateFromRoot e root with
      | some w => let (e, i) := e.alloc ⟨w, []⟩; { e with managerDB := some i }
      | none => match loadState e st with
        | .ok (e, _) => e
        | .error _ => { e with managerDB := none }
    match st.saveState ⟨root, getCurrentHeight st, none⟩ with
    | .error err => (e, st, .error ("error guardando estado: " ++ err))
    | .ok st => (e, st, .ok ())

def getRootHash (evm : Evm) (e : Engine) : Hash :=
  match e.deref e.managerDB with
  | none => 0
  | some db => evm.intermediateRoot db.world

def close (evm : Evm) (e : Engine) (st : Store) : Engine × Store :=
  let (e, st) := if e.managerDB.isSome then
      let (e, st, _) := saveState evm e st
      (e, st)
    else (e, st)
  ({ e with managerDB := none }, st)

/-! ## `EVMExecutor` -/

def start (e : Engine) (st : Store) : Except String Engine :=
  match loadState e st with
  | .error err => .error ("error cargando estado: " ++ err)
  | .ok (e, i) => .ok { e with executorDB := some i, running := true }

def stop (evm : Evm) (e : Engine) (st : Store) : Engine × Store :=
  if !e.running then (e, st)
  else
    let (e, st, _) := saveState evm e st
    let (e, st) := close evm e st
    ({ e with running := false }, st)

def setCurrentBlockInfo (e : Engine) (height : Nat) (timestamp : Int) : Engine :=
  { e with currentHeight := height, currentTimestamp := timestamp }

def getStateDB (e : Engine) (st : Store) : Engine :=
  match e.executorDB with
  | some _ => e
  | none => match loadState e st with
    | .ok (e, i) => { e with executorDB := some i }
    | .error _ => e

structure ExecutionResult where
  success : Bool
  gasUsed : Nat
  returnData : Bytes
  logs : List Log
  error : String

def blockContext (e : Engine) (tx : ExecTx) : BlockContext :=
  ⟨e.currentHeight, (e.currentTimestamp % 2 ^ 64).toNat, tx.gasLimit.toNat⟩

def message (tx : ExecTx) (value gasPrice : Int) : Message :=
  ⟨hexToAddress tx.fromAddr, some (hexToAddress tx.toAddr), tx.nonce.toNat, value,
    tx.gasLimit.toNat, gasPrice, tx.data⟩

/-- `ExecuteTransaction`, on the object the executor points at. A nil object, which no run
from `Start` reaches, is the nil-pointer panic, kept as an error. -/
def executeTransaction (evm : Evm) (e : Engine) (st : Store) (tx : ExecTx) :
    Engine × Except String ExecutionResult :=
  if !e.running then (e, .error "ejecutor EVM no está corriendo")
  else
    match setString tx.value, setString tx.gasPrice with
    | none, _ => (e, .error ("valor inválido: " ++ tx.value))
    | some _, none => (e, .error ("gas price inválido: " ++ tx.gasPrice))
    | some value, some gasPrice =>
      let e := getStateDB e st
      match e.executorDB, e.deref e.executorDB with
      | some i, some db =>
        let (w, r) := evm.applyMessage db.world (message tx value gasPrice) (blockContext e tx)
        match r with
        | .error err => (e.write i { db with world := w }, .ok ⟨false, 0, [], [], err⟩)
        | .ok out =>
          let db : StateDB := ⟨w, db.logs ++ out.logs⟩
          (e.write i db, .ok ⟨!out.failed, out.usedGas, out.returnData,
            if out.failed then [] else db.logs, ""⟩)
      | _, _ => (e, .error "panic: nil StateDB")

structure AccountState where
  address : String
  balance : String
  nonce : Nat
  codeHash : Hash
  storage : List (Nat × Nat)

def getState (e : Engine) (st : Store) (address : String) : Engine × Except String AccountState :=
  if !e.running then (e, .error "ejecutor EVM no está corriendo")
  else
    let e := getStateDB e st
    match e.deref e.executorDB with
    | none => (e, .error "panic: nil StateDB")
    | some db =>
      let a := db.world (hexToAddress address)
      (e, .ok ⟨address, toString a.balance, a.nonce, a.codeHash,
        (List.range 100).filterMap fun k => if a.storage k = 0 then none else some (k, a.storage k)⟩)

/-- `AddBalance` with the amount taken to a `uint256` (`SetFromBig`), wrapping. -/
def addBalance (w : World) (a : Address) (x : Int) : World :=
  Function.update w a { w a with balance := (((w a).balance + x) % 2 ^ 256).toNat }

def fundAccount (e : Engine) (st : Store) (address amount : String) : Engine × Except String Unit :=
  if !e.running then (e, .error "ejecutor EVM no está corriendo")
  else
    let e := getStateDB e st
    match setString amount with
    | none => (e, .error ("cantidad inválida: " ++ amount))
    | some x =>
      match e.executorDB, e.deref e.executorDB with
      | some i, some db => (e.write i { db with world := addBalance db.world (hexToAddress address) x }, .ok ())
      | _, _ => (e, .error "panic: nil StateDB")

end OxyChain.Execution

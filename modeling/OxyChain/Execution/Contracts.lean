import OxyChain.Execution.Frame

/-! # `DeployContract` and `CallContract`

Both hand a transaction at the sender's current nonce to `ExecuteTransaction` on the
executor's live object: the deployment's empty `To` becomes the zero address, and the call's
effects are never reverted.
-/

namespace OxyChain.Execution

open Engine

def currentNonce (e : Engine) (fromAddr : String) : UInt64 :=
  (((e.deref e.executorDB).map fun db : StateDB => (db.world (hexToAddress fromAddr)).nonce).getD 0).toUInt64

def deployContract (evm : Evm) (createAddress : Address → UInt64 → Address) (e : Engine)
    (st : Store) (fromAddr : String) (code constructorArgs : Bytes) (gasLimit : UInt64)
    (gasPrice : String) : Engine × Except String (Address × ExecutionResult) :=
  if !e.running then (e, .error "ejecutor EVM no está corriendo")
  else
    let e := getStateDB e st
    let nonce := currentNonce e fromAddr
    match executeTransaction evm e st ⟨"", fromAddr, "", "0", code ++ constructorArgs, gasLimit,
        gasPrice, nonce⟩ with
    | (e, .error err) => (e, .error ("error ejecutando deployment: " ++ err))
    | (e, .ok r) =>
      if !r.success then (e, .error ("deployment falló: " ++ r.error))
      else (e, .ok (createAddress (hexToAddress fromAddr) nonce, r))

def callContract (evm : Evm) (e : Engine) (st : Store) (fromAddr contractAddr : String)
    (data : Bytes) (gasLimit : UInt64) : Engine × Except String Bytes :=
  if !e.running then (e, .error "ejecutor EVM no está corriendo")
  else
    let e := getStateDB e st
    match executeTransaction evm e st ⟨"", fromAddr, contractAddr, "0", data, gasLimit, "0",
        currentNonce e fromAddr⟩ with
    | (e, .error err) => (e, .error ("error ejecutando call: " ++ err))
    | (e, .ok r) =>
      if !r.success then (e, .error ("call falló: " ++ r.error))
      else (e, .ok r.returnData)

/-! ## A call writes the live object -/

theorem executorWorld_write {e : Engine} {i : Nat} {db : StateDB} (h : e.executorDB = some i)
    (hdb : e.deref e.executorDB = some db) (db' : StateDB) :
    (e.write i db').executorWorld = some db'.world := by
  have hi : i < e.heap.length := by
    rw [h] at hdb
    exact (List.getElem?_eq_some_iff.1 hdb).1
  simp [executorWorld, deref, write, h, hi]

theorem executeTransaction_world (evm : Evm) {e : Engine} {i : Nat} {db : StateDB}
    (h : e.executorDB = some i) (hdb : e.deref e.executorDB = some db) (hr : e.running = true)
    (st : Store) (tx : ExecTx) {value gasPrice : Int} (hv : setString tx.value = some value)
    (hg : setString tx.gasPrice = some gasPrice) :
    (executeTransaction evm e st tx).1.executorWorld =
      some (evm.applyMessage db.world (message tx value gasPrice) (blockContext e tx)).1 := by
  unfold executeTransaction
  simp only [hr, Bool.not_true, Bool.false_eq_true, if_false, hv, hg, getStateDB_of_executorDB h]
  rw [h] at hdb ⊢
  simp only [hdb]
  split <;> exact executorWorld_write h (by rw [h]; exact hdb) _

/-- Once started, `CallContract` leaves the executor's object showing the world
`ApplyMessage` returns for the call, whether the call succeeds, fails or is rejected. -/
theorem callContract_world (evm : Evm) {e : Engine} {i : Nat} {db : StateDB}
    (h : e.executorDB = some i) (hdb : e.deref e.executorDB = some db) (hr : e.running = true)
    (st : Store) (fromAddr contractAddr : String) (data : Bytes) (gasLimit : UInt64) :
    (callContract evm e st fromAddr contractAddr data gasLimit).1.executorWorld =
      some (evm.applyMessage db.world
        (message ⟨"", fromAddr, contractAddr, "0", data, gasLimit, "0", currentNonce e fromAddr⟩ 0 0)
        (blockContext e ⟨"", fromAddr, contractAddr, "0", data, gasLimit, "0",
          currentNonce e fromAddr⟩)).1 := by
  have hw := executeTransaction_world evm h hdb hr st
    ⟨"", fromAddr, contractAddr, "0", data, gasLimit, "0", currentNonce e fromAddr⟩ rfl rfl
  unfold callContract
  simp only [hr, Bool.not_true, Bool.false_eq_true, if_false, getStateDB_of_executorDB h]
  split
  · rename_i e' err heq
    rw [heq] at hw
    exact hw
  · rename_i e' r heq
    rw [heq] at hw
    split <;> exact hw

/-! ## On an EVM that creates contracts -/

def sampleCreate (a : Address) (nonce : UInt64) : Address := 2 ^ 159 + a + nonce.toNat

def bumpNonce (w : World) (a : Address) : World :=
  Function.update w a { w a with nonce := (w a).nonce + 1 }

def contractEvm : Evm :=
  ⟨fun w m _ =>
    let w := bumpNonce w m.fromAddr
    match m.toAddr with
    | none =>
      let a := sampleCreate m.fromAddr m.nonce.toUInt64
      (Function.update w a { w a with codeHash := 1 }, .ok ⟨53000, false, [], []⟩)
    | some _ => (w, .ok ⟨21000, false, [], []⟩),
    fun _ => 0⟩

def startedEngine : Engine := ⟨[⟨World.empty, []⟩], some 0, some 0, [(0, World.empty)], 0, true, 0, 0⟩

example : start (Engine.fresh (contractEvm.intermediateRoot World.empty)) Store.empty = .ok startedEngine :=
  rfl

theorem callContract_world_started :
    startedEngine.executorDB = some 0 ∧ startedEngine.deref startedEngine.executorDB = some ⟨World.empty, []⟩ ∧
      startedEngine.running = true ∧
      (callContract contractEvm startedEngine Store.empty "0x0000000000000000000000000000000000000001"
          "0x0000000000000000000000000000000000000002" [] 100000).1.executorWorld =
        some (contractEvm.applyMessage World.empty
          (message ⟨"", "0x0000000000000000000000000000000000000001",
            "0x0000000000000000000000000000000000000002", "0", [], 100000, "0",
            currentNonce startedEngine "0x0000000000000000000000000000000000000001"⟩ 0 0)
          (blockContext startedEngine ⟨"", "0x0000000000000000000000000000000000000001",
            "0x0000000000000000000000000000000000000002", "0", [], 100000, "0",
            currentNonce startedEngine "0x0000000000000000000000000000000000000001"⟩)).1 :=
  ⟨rfl, rfl, rfl, callContract_world contractEvm (e := startedEngine) rfl rfl rfl _ _ _ _ _⟩

def emptyTransfer : ExecTx :=
  ⟨"", "0x0000000000000000000000000000000000000001", "0x0000000000000000000000000000000000000002", "0", [],
    21000, "0", 0⟩

/-- A deployment from address 1 reports success with the address `sampleCreate 1 0`, which
holds no code afterwards: the message went to the zero address, whose nonce is untouched,
while the sender's was bumped. -/
theorem deployContract_creates_nothing :
    ∃ e' A r, deployContract contractEvm sampleCreate startedEngine Store.empty
        "0x0000000000000000000000000000000000000001" [0x60] [] 100000 "0" = (e', .ok (A, r)) ∧
      A = sampleCreate 1 0 ∧
      e'.executorWorld.map (fun w => ((w A).codeHash, (w 1).nonce)) = some (0, 1) :=
  ⟨_, _, _, rfl, rfl, rfl⟩

/-- A call from address 1 to address 2 succeeds and leaves the sender's nonce at 1. -/
theorem callContract_bumps_nonce :
    ∃ e' out, callContract contractEvm startedEngine Store.empty
        "0x0000000000000000000000000000000000000001" "0x0000000000000000000000000000000000000002"
        [] 100000 = (e', .ok out) ∧
      startedEngine.executorWorld.map (fun w => (w 1).nonce) = some 0 ∧
      e'.executorWorld.map (fun w => (w 1).nonce) = some 1 :=
  ⟨_, _, rfl, rfl, rfl⟩

end OxyChain.Execution

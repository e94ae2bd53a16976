import OxyChain.Node.Run

/-! # What a transaction passes before it is executed

`CheckTx` runs every check of `validateTransactionComplete`; `FinalizeBlock` runs only the
address checks of `validateTransaction` before `ExecuteTransaction`, and `ProcessProposal`
accepts every block, so an unsigned transaction reaches the EVM through a block.
-/

namespace OxyChain.Abci

open Execution Validators

/-! ## The checks, when they pass -/

theorem validateTransaction_ok {tx : Transaction} (h : validateTransaction tx = .ok ()) :
    isHexAddress tx.fromAddr = true := by
  unfold validateTransaction at h
  split_ifs at h with h₁ h₂
  simpa using h₂

theorem checkSignedTx_ok {env : Env} {acct : Option AccountState} {tx : Transaction}
    (h : checkSignedTx env acct tx = .ok ()) :
    (∀ a, acct = some a → a.nonce ≤ tx.nonce.toNat) ∧
      (tx.value ≠ "" → tx.value ≠ "0" → checkBalance acct tx = .ok ()) ∧
      tx.signature ≠ [] ∧ (∃ h, env.calculateTransactionHash tx = .ok h ∧ hashHex h = tx.hash) := by
  unfold checkSignedTx at h
  simp only [bind, Except.bind, pure, Except.pure, throw, throwThe, MonadExceptOf.throw] at h
  repeat' first | split at h | split_ifs at h
  all_goals cases h
  all_goals simp_all

theorem checkBalance_ok {acct : Option AccountState} {tx : Transaction}
    (h : checkBalance acct tx = .ok ()) :
    ∃ a value gasPrice balance, acct = some a ∧ setString tx.value = some value ∧
      setString tx.gasPrice = some gasPrice ∧ setString a.balance = some balance ∧
      value + gasPrice * toInt64 tx.gasLimit.toNat ≤ balance := by
  unfold checkBalance at h
  simp only [bind, Except.bind, pure, Except.pure, throw, throwThe, MonadExceptOf.throw] at h
  repeat' first | split at h | split_ifs at h
  all_goals cases h
  exact ⟨_, _, _, _, rfl, ‹_›, ‹_›, ‹_›, not_lt.1 ‹_›⟩

/-! ## `CheckTx` refuses a transaction without a signature -/

theorem checkSignedTx_unsigned (env : Env) (acct : Option AccountState) (tx : Transaction)
    (h : tx.signature = []) : checkSignedTx env acct tx ≠ .ok () :=
  fun hok => (checkSignedTx_ok hok).2.2.1 h

theorem validateTransactionComplete_unsigned (env : Env) (e : Engine) (st : Store)
    (tx : Transaction) (h : tx.signature = []) :
    (validateTransactionComplete env e st tx).2 ≠ .ok () := by
  unfold validateTransactionComplete
  split
  · simp
  · split_ifs
    · simp
    · exact checkSignedTx_unsigned env _ tx h

theorem checkTx_code_of_unsigned (env : Env) (n : Node) (raw : Bytes) (tx : Transaction)
    (hd : env.decodeTx raw = .ok tx) (hs : tx.signature = []) : (checkTx env n raw).2.1 = 2 := by
  have := validateTransactionComplete_unsigned env n.engine n.store tx hs
  simp only [checkTx, hd]
  split <;> simp_all

/-! ## An unsigned transaction in a block -/

def unsignedTx : Transaction :=
  ⟨"0x01", "0x0000000000000000000000000000000000000001", "", "0", [], 21000, "0", 0, []⟩

def creditEvm : Evm :=
  ⟨fun w m _ => (addBalance w m.fromAddr 1, .ok ⟨21000, false, [], []⟩),
    fun w => (w 1).balance + 1⟩

def creditEnv (verify : Transaction → Except String String) (hashOf : Transaction → Except String Hash) :
    Env :=
  ⟨creditEvm, fun _ => .ok unsignedTx, fun _ => [], verify, hashOf, fun _ => "", fun _ => 0⟩

def executorBalance (n : Node) (a : Address) : Option Nat :=
  n.engine.executorWorld.map fun w => (w a).balance

set_option maxRecDepth 20000 in
theorem finalizeBlock_executes_unsigned_tx (verify : Transaction → Except String String)
    (hashOf : Transaction → Except String Hash) :
    ∃ n, Node.boot creditEvm Node.testnet Node.emptyDisk = some n ∧
      (checkTx (creditEnv verify hashOf) n []).2.1 = 2 ∧ executorBalance n 1 = some 0 ∧
      executorBalance (finalizeBlock (creditEnv verify hashOf) n ⟨1, 0, [[]]⟩).1 1 = some 1 :=
  ⟨_, rfl, checkTx_code_of_unsigned _ _ [] unsignedTx rfl rfl, rfl, rfl⟩

/-! ## What `CheckTx` admits -/

/-- A transaction `CheckTx` admits (code 0) decodes, comes from a hex address, has a hash
that the hash function recomputes and a signature, and a nonce not behind the account's
when `GetState` reads it. When it sends a value (neither `""` nor `"0"`), the account was
read, the value and gas price parse as integers, and for a gas limit in the range of
`int64` the balance covers value plus gas limit times gas price; with no value sent, no
balance is checked. Nothing is assumed of the signature and hash functions. -/
theorem checkTx_admits (env : Env) (n : Node) (raw : Bytes) (h : (checkTx env n raw).2.1 = 0) :
    ∃ tx, env.decodeTx raw = .ok tx ∧ isHexAddress tx.fromAddr = true ∧ tx.hash ≠ "" ∧
      tx.signature ≠ [] ∧ (∃ h, env.calculateTransactionHash tx = .ok h ∧ hashHex h = tx.hash) ∧
      (∀ a, (getState n.engine n.store tx.fromAddr).2 = .ok a → a.nonce ≤ tx.nonce.toNat) ∧
      (tx.value ≠ "" → tx.value ≠ "0" → ∃ a value gasPrice balance,
        (getState n.engine n.store tx.fromAddr).2 = .ok a ∧ setString tx.value = some value ∧
        setString tx.gasPrice = some gasPrice ∧ setString a.balance = some balance ∧
        (tx.gasLimit.toNat < 2 ^ 63 → value + gasPrice * tx.gasLimit.toNat ≤ balance)) := by
  unfold checkTx at h
  split at h
  · cases h
  rename_i tx hd
  have hv : (validateTransactionComplete env n.engine n.store tx).2 = .ok () := by
    revert h
    dsimp only
    split <;> simp_all
  unfold validateTransactionComplete at hv
  split at hv
  · cases hv
  rename_i hval
  split_ifs at hv with hh
  obtain ⟨hn, hb, hs, hc⟩ := checkSignedTx_ok hv
  have hacct : ∀ a, (getState n.engine n.store tx.fromAddr).2 = .ok a →
      (getState n.engine n.store tx.fromAddr).2.toOption = some a := fun a ha => by rw [ha]; rfl
  refine ⟨tx, hd, validateTransaction_ok hval, hh, hs, hc, fun a ha => hn a (hacct a ha), fun h₁ h₂ => ?_⟩
  obtain ⟨a, value, gasPrice, balance, ha, hvalue, hgas, hbal, hle⟩ := checkBalance_ok (hb h₁ h₂)
  refine ⟨a, value, gasPrice, balance, ?_, hvalue, hgas, hbal, fun hl => ?_⟩
  · revert ha
    cases (getState n.engine n.store tx.fromAddr).2 <;> simp [Except.toOption]
  · rwa [toInt64_of_lt (by omega) (by exact_mod_cast hl)] at hle

def zeroValueTx : Transaction :=
  ⟨hashHex 1, "0x0000000000000000000000000000000000000001", "", "0", [], 21000, "1000000000", 0, [1]⟩

def signedEnv : Env :=
  ⟨creditEvm, fun _ => .ok zeroValueTx, fun _ => [], fun _ => .ok "", fun _ => .ok 1, fun _ => "",
    fun _ => 0⟩

theorem checkTx_admits_zero_value :
    (checkTx signedEnv Node.freshNode []).2.1 = 0 ∧
      ∃ tx, signedEnv.decodeTx [] = .ok tx ∧ isHexAddress tx.fromAddr = true ∧ tx.hash ≠ "" ∧
        tx.signature ≠ [] ∧ (∃ h, signedEnv.calculateTransactionHash tx = .ok h ∧ hashHex h = tx.hash) ∧
        (∀ a, (getState Node.freshNode.engine Node.freshNode.store tx.fromAddr).2 = .ok a →
          a.nonce ≤ tx.nonce.toNat) ∧
        (tx.value ≠ "" → tx.value ≠ "0" → ∃ a value gasPrice balance,
          (getState Node.freshNode.engine Node.freshNode.store tx.fromAddr).2 = .ok a ∧
          setString tx.value = some value ∧ setString tx.gasPrice = some gasPrice ∧
          setString a.balance = some balance ∧
          (tx.gasLimit.toNat < 2 ^ 63 → value + gasPrice * tx.gasLimit.toNat ≤ balance)) :=
  have h : (checkTx signedEnv Node.freshNode []).2.1 = 0 := rfl
  ⟨h, checkTx_admits signedEnv Node.freshNode [] h⟩

theorem checkTx_admits_unfunded_gas :
    (checkTx signedEnv Node.freshNode []).2.1 = 0 ∧
      executorBalance Node.freshNode (hexToAddress zeroValueTx.fromAddr) = some 0 ∧
      setString zeroValueTx.gasPrice = some (10 ^ 9) ∧ zeroValueTx.gasLimit.toNat = 21000 :=
  ⟨rfl, rfl, by decide, rfl⟩

end OxyChain.Abci

import OxyChain.Execution.State

/-! # Transaction validation (`validateTransaction`, `validateTransactionComplete`)

`validateTransaction` checks the addresses only; `validateTransactionComplete` adds the hash,
nonce, balance, signature and hash-recomputation checks. The signature check and the hash
computation belong to `internal/crypto`, which is not among the sources: they are fields of
`Env`, and nothing below assumes anything of them.
-/

namespace OxyChain.Abci

open Execution Validators

structure AppState where
  height : Int
  appHash : Hash
  validators : List ValidatorUpdate

/-- The functions outside the repository that the application calls. -/
structure Env where
  evm : Evm
  /-- `json.Unmarshal` of a raw transaction. -/
  decodeTx : Bytes → Except String Transaction
  /-- `json.Marshal` of a mempool transaction. -/
  encodeTx : Transaction → Bytes
  /-- `cryptosigner.VerifyTransactionSignature`, on the transaction's fields. -/
  verifyTransactionSignature : Transaction → Except String String
  /-- `cryptosigner.CalculateTransactionHash`. -/
  calculateTransactionHash : Transaction → Except String Hash
  /-- `common.BytesToAddress(pubKey).Hex()`. -/
  pubKeyAddress : Bytes → String
  /-- `Keccak256(json.Marshal(app.state))`, the app hash when the state root is zero. -/
  appStateHash : AppState → Hash

def validateTransaction (tx : Transaction) : Except String Unit :=
  if tx.fromAddr = "" then .error "dirección remitente vacía"
  else if !isHexAddress tx.fromAddr then .error ("dirección remitente inválida: " ++ tx.fromAddr)
  else if tx.toAddr ≠ "" ∧ !isHexAddress tx.toAddr then
    .error ("dirección destino inválida: " ++ tx.toAddr)
  else .ok ()

def checkBalance (acct : Option AccountState) (tx : Transaction) : Except String Unit := do
  let some a := acct | throw ("cuenta no encontrada: " ++ tx.fromAddr)
  let some value := setString tx.value | throw ("valor inválido: " ++ tx.value)
  let some balance := setString a.balance | throw ("balance inválido: " ++ a.balance)
  let some gasPrice := setString tx.gasPrice | throw ("gas price inválido: " ++ tx.gasPrice)
  let totalCost := value + gasPrice * toInt64 tx.gasLimit.toNat
  if balance < totalCost then
    throw ("balance insuficiente: tiene " ++ toString balance ++ ", necesita " ++ toString totalCost)

def checkSignedTx (env : Env) (acct : Option AccountState) (tx : Transaction) :
    Except String Unit := do
  if let some a := acct then
    if tx.nonce.toNat < a.nonce then
      throw ("nonce inválido: esperado >= " ++ toString a.nonce ++ ", tiene " ++
        toString tx.nonce.toNat)
  if tx.value ≠ "" ∧ tx.value ≠ "0" then checkBalance acct tx
  if tx.signature = [] then throw "transacción sin firma"
  match env.verifyTransactionSignature tx with
  | .error err => throw ("firma criptográfica inválida: " ++ err)
  | .ok _ => pure ()
  match env.calculateTransactionHash tx with
  | .error err => throw ("error calculando hash de transacción: " ++ err)
  | .ok expected =>
    if tx.hash ≠ hashHex expected then
      throw ("hash de transacción inválido: esperado " ++ hashHex expected ++ ", tiene " ++ tx.hash)

def validateTransactionComplete (env : Env) (e : Engine) (st : Store) (tx : Transaction) :
    Engine × Except String Unit :=
  match validateTransaction tx with
  | .error err => (e, .error err)
  | .ok () =>
    if tx.hash = "" then (e, .error "transacción sin hash")
    else
      let (e, acct) := getState e st tx.fromAddr
      (e, checkSignedTx env acct.toOption tx)

end OxyChain.Abci

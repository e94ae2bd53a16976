import OxyChain.Validators.Set

/-! # Transactions, receipts and blocks

The records `internal/consensus` exchanges with the consensus engine and stores, and the
`execution.Transaction` it hands to the EVM. Hashes are numbers: the source keeps their
`0x` hex spelling, which is one-to-one with the number.
-/

namespace OxyChain

abbrev Hash := Nat

abbrev Bytes := List UInt8

/-- `consensus.Transaction`, as `json.Unmarshal` fills it from a raw transaction. -/
structure Transaction where
  hash : String
  fromAddr : String
  toAddr : String
  value : String
  data : Bytes
  gasLimit : UInt64
  gasPrice : String
  nonce : UInt64
  signature : Bytes
  deriving DecidableEq, Repr

structure ExecTx where
  hash : String
  fromAddr : String
  toAddr : String
  value : String
  data : Bytes
  gasLimit : UInt64
  gasPrice : String
  nonce : UInt64
  deriving DecidableEq, Repr

def Transaction.toExec (tx : Transaction) : ExecTx :=
  { hash := tx.hash, fromAddr := tx.fromAddr, toAddr := tx.toAddr, value := tx.value, data := tx.data,
    gasLimit := tx.gasLimit, gasPrice := tx.gasPrice, nonce := tx.nonce }

structure Log where
  address : Address
  topics : List Hash
  data : Bytes
  deriving DecidableEq, Repr

structure TransactionReceipt where
  transactionHash : String
  blockNumber : Nat
  gasUsed : Nat
  status : String
  logs : List Log
  error : String
  deriving DecidableEq, Repr

/-- `BlockHeader`. `parentHash` is `none` for the empty string the source writes when block
`h-1` is not in the store. -/
structure BlockHeader where
  height : Nat
  hash : Hash
  parentHash : Option Hash
  timestamp : Int
  chainID : String
  deriving DecidableEq, Repr

structure Block where
  header : BlockHeader
  transactions : List Transaction
  receipts : List TransactionReceipt
  deriving DecidableEq, Repr

end OxyChain

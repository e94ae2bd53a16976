import OxyChain.Abci.Types

/-! # The key-value store

`storage.BlockchainDB` is not among the sources; its callers are. What they need of it is
what the spec's §4.A and §6 say: a store of logical keys, each holding what its writer
serialised, where a write either happens or fails and changes nothing.
-/

namespace OxyChain

open Validators

/-- The `state_meta` record. `Commit` writes `{root, height, app_hash}`, `SaveState` writes
`{root, height, timestamp}`; `LoadState` reads only `root`. -/
structure StateMeta where
  root : Hash
  height : Int
  appHash : Option Hash
  deriving DecidableEq, Repr

inductive StoreKey where
  | stateMeta
  | block (height : Nat)
  | latestHeight
  | transaction (hash : String)
  | validatorSet
  deriving DecidableEq, Repr

/-- Modelled from the spec: the key-value store of §4.A with the keys of §6. The JSON each
key holds is kept as the value it encodes. `failing` names the keys whose writes fail in
this run. -/
structure Store where
  stateMeta : Option StateMeta
  blocks : Nat → Option Block
  latestHeight : Option Nat
  transactions : String → Option Transaction
  validatorSet : Option (List Validator)
  failing : StoreKey → Bool

namespace Store

def empty : Store :=
  ⟨none, fun _ => none, none, fun _ => none, none, fun _ => false⟩

def put (st : Store) (k : StoreKey) (f : Store → Store) : Except String Store :=
  if st.failing k then .error "storage write failed" else .ok (f st)

def saveState (st : Store) (m : StateMeta) : Except String Store :=
  st.put .stateMeta ({ · with stateMeta := some m })

def saveBlock (st : Store) (h : Nat) (b : Block) : Except String Store :=
  st.put (.block h) fun st => { st with blocks := Function.update st.blocks h (some b) }

def saveLatestHeight (st : Store) (h : Nat) : Except String Store :=
  st.put .latestHeight ({ · with latestHeight := some h })

def saveTransaction (st : Store) (hash : String) (tx : Transaction) : Except String Store :=
  st.put (.transaction hash) fun st =>
    { st with transactions := Function.update st.transactions hash (some tx) }

def saveValidatorSet (st : Store) (l : List Validator) : Except String Store :=
  st.put .validatorSet ({ · with validatorSet := some l })

def orKeep (st : Store) : Except String Store → Store
  | .ok st' => st'
  | .error _ => st

@[simp] theorem orKeep_saveState (st : Store) (m : StateMeta) :
    st.orKeep (st.saveState m) =
      { st with stateMeta := if st.failing .stateMeta then st.stateMeta else some m } := by
  cases h : st.failing .stateMeta <;> simp [saveState, put, orKeep, h]

@[simp] theorem orKeep_saveLatestHeight (st : Store) (h : Nat) :
    st.orKeep (st.saveLatestHeight h) =
      { st with latestHeight := if st.failing .latestHeight then st.latestHeight else some h } := by
  cases hf : st.failing .latestHeight <;> simp [saveLatestHeight, put, orKeep, hf]

theorem orKeep_put_blocks {st : Store} {k : StoreKey} {f : Store → Store}
    (hb : (f st).blocks = st.blocks) (hf : (f st).failing = st.failing) :
    (st.orKeep (st.put k f)).blocks = st.blocks ∧ (st.orKeep (st.put k f)).failing = st.failing := by
  unfold put
  split_ifs
  exacts [⟨rfl, rfl⟩, ⟨hb, hf⟩]

end Store

end OxyChain

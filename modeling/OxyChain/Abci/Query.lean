import OxyChain.Abci.App

/-! # `CheckTx`, `Query`, `PrepareProposal` and `ProcessProposal`

The methods the consensus engine calls outside the block sequence. `Query` compares each
path's first bytes with a literal; the paths are ASCII in every case it matches, so the
bytes are the characters here.
-/

namespace OxyChain.Abci

open Execution Validators

def checkTx (env : Env) (n : Node) (raw : Bytes) : Node × Nat × String :=
  match env.decodeTx raw with
  | .error err => (n, 1, "Error decodificando transacción: " ++ err)
  | .ok tx =>
    let (e, r) := validateTransactionComplete env n.engine n.store tx
    let n := { n with engine := e }
    match r with
    | .error err => (n, 2, "Transacción inválida: " ++ err)
    | .ok () => (n, 0, "OK")

inductive QueryValue where
  | empty
  | height (h : Nat)
  | balance (address : String) (balance : String)
  | account (a : AccountState)
  | transaction (tx : Transaction)
  | block (b : Block)

structure QueryResponse where
  code : Nat
  value : QueryValue
  log : String

def spaceRanges : List (Nat × Nat) :=
  [(0x0009, 0x000d), (0x0020, 0x0020), (0x0085, 0x0085), (0x00a0, 0x00a0), (0x1680, 0x1680),
    (0x2000, 0x200a), (0x2028, 0x2029), (0x202f, 0x202f), (0x205f, 0x205f), (0x3000, 0x3000)]

def isSpace (c : Char) : Bool := spaceRanges.any fun r => r.1 ≤ c.toNat && c.toNat ≤ r.2

/-- `SkipSpace` as `Sscanf` runs it, with newlines not spaces: the input after the spaces, or
`none` at a newline (`"unexpected newline"`, also as the end of `"\r\n"`). -/
def skipSpace : List Char → Option (List Char)
  | [] => some []
  | '\n' :: _ => none
  | c :: cs => if isSpace c then skipSpace cs else some (c :: cs)

theorem isSpace_of_isDigit {c : Char} (h : c.isDigit = true) : isSpace c = false := by
  simp only [Char.isDigit, Bool.and_eq_true, decide_eq_true_eq] at h
  have h₁ : 48 ≤ c.toNat := h.1
  have h₂ : c.toNat ≤ 57 := h.2
  simp only [isSpace, spaceRanges, List.any_cons, List.any_nil, Bool.or_eq_false_iff,
    Bool.and_eq_false_iff, decide_eq_false_iff_not, Bool.or_false]
  omega

theorem skipSpace_of_isDigit {c : Char} (cs : List Char) (h : c.isDigit = true) :
    skipSpace (c :: cs) = some (c :: cs) := by
  unfold skipSpace
  split
  · contradiction
  · rename_i heq
    cases heq
    exact absurd h (by decide)
  · rename_i heq
    cases heq
    simp [isSpace_of_isDigit h]

/-- `fmt.Sscanf(s, "%d", &height)` into a `uint64`: spaces skipped, then one or more decimal
digits, which `strconv.ParseUint` reads. A newline among the spaces, no digit, or a value
past 64 bits is an error, and `height` stays 0. -/
def scanUint (s : List Char) : Nat :=
  match skipSpace s with
  | none => 0
  | some s =>
    match parseDigits (s.takeWhile Char.isDigit) with
    | some v => if v < 2 ^ 64 then v else 0
    | none => 0

/-- `path[:k] == lit`, behind the guard `len(path) > k`. -/
def hasPrefixAt (path : List Char) (k : Nat) (lit : String) : Bool :=
  k < path.length && path.take k == lit.data

def query (n : Node) (path : String) : Node × QueryResponse :=
  let p := path.data
  if path = "height" then
    (n, ⟨0, .height (n.app.state.height % 2 ^ 64).toNat, ""⟩)
  else if hasPrefixAt p 8 "balance/" then
    let address := String.mk (p.drop 8)
    let (e, r) := getState n.engine n.store address
    let n := { n with engine := e }
    match r with
    | .error err => (n, ⟨1, .empty, "Error obteniendo balance: " ++ err⟩)
    | .ok a => (n, ⟨0, .balance address a.balance, ""⟩)
  else if hasPrefixAt p 7 "account/" then
    let address := String.mk (p.drop 7)
    let (e, r) := getState n.engine n.store address
    let n := { n with engine := e }
    match r with
    | .error err => (n, ⟨1, .empty, "Error obteniendo cuenta: " ++ err⟩)
    | .ok a => (n, ⟨0, .account a, ""⟩)
  else if hasPrefixAt p 3 "tx/" then
    let h := String.mk (p.drop 3)
    match n.store.transactions h with
    | none => (n, ⟨1, .empty, "Transacción no encontrada: " ++ h⟩)
    | some tx => (n, ⟨0, .transaction tx, ""⟩)
  else if hasPrefixAt p 6 "block/" then
    let h := scanUint (p.drop 6)
    match n.store.blocks h with
    | none => (n, ⟨1, .empty, "Bloque no encontrado: altura " ++ toString h⟩)
    | some b => (n, ⟨0, .block b, ""⟩)
  else (n, ⟨1, .empty, "Query path desconocido: " ++ path⟩)

structure PrepareProposalRequest where
  maxTxBytes : Int
  txs : List Bytes

def takeFitting (maxTxBytes : Int) : Int → List Bytes → List Bytes × Int
  | total, [] => ([], total)
  | total, b :: bs =>
    if maxTxBytes < total + b.length then ([], total)
    else
      let (rest, t) := takeFitting maxTxBytes (total + b.length) bs
      (b :: rest, t)

def appendHints (maxTxBytes : Int) : List Bytes → Int → List Bytes → List Bytes
  | txs, _, [] => txs
  | txs, total, b :: bs =>
    if maxTxBytes < total + b.length then txs
    else if txs.contains b then appendHints maxTxBytes txs total bs
    else appendHints maxTxBytes (txs ++ [b]) (total + b.length) bs

def prepareProposal (env : Env) (mempool : Option (List Transaction))
    (req : PrepareProposalRequest) : List Bytes :=
  let (txs, total) := takeFitting req.maxTxBytes 0 ((mempool.getD []).map env.encodeTx)
  appendHints req.maxTxBytes txs total req.txs

def processProposal (_txs : List Bytes) : Bool := true

end OxyChain.Abci

import OxyChain.Execution.Frame
import OxyChain.Abci.Admission

/-! # What each request does to the engine

Every request but `Commit` leaves the engine in `Frame` of where it was: only the object
the executor points at may change. The read-only requests (`CheckTx`, `Query`, `GET` on an
account) leave the whole node as it was.
-/

namespace OxyChain.Abci

open Execution Engine Validators

variable (env : Env) {n : Node} {i : Nat}

theorem validateTransactionComplete_eq {e : Engine} (h : e.executorDB = some i) (st : Store)
    (tx : Transaction) :
    validateTransactionComplete env e st tx = (e, (validateTransactionComplete env e st tx).2) := by
  unfold validateTransactionComplete
  split
  · rfl
  · split_ifs
    · rfl
    · rw [getState_eq h st]

theorem checkTx_node (h : n.engine.executorDB = some i) (raw : Bytes) : (checkTx env n raw).1 = n := by
  unfold checkTx
  split
  · rfl
  · rw [validateTransactionComplete_eq env h]
    dsimp only
    split <;> rfl

theorem query_fst (n : Node) (path : String) :
    (query n path).1 = n ∨ ∃ a, (query n path).1 = { n with engine := (getState n.engine n.store a).1 } := by
  unfold query
  by_cases hp : path = "height"
  · rw [if_pos hp]
    exact .inl rfl
  rw [if_neg hp]
  dsimp only
  repeat' split
  all_goals first | exact .inl rfl | exact .inr ⟨_, rfl⟩

theorem query_node (h : n.engine.executorDB = some i) (path : String) : (query n path).1 = n := by
  rcases query_fst n path with h' | ⟨a, h'⟩ <;> rw [h']
  rw [getState_eq h]

theorem deliverTx_frame (h : n.engine.executorDB = some i) (raw : Bytes) :
    Frame n.engine (deliverTx env n raw).1.engine := by
  unfold deliverTx
  split
  · rfl
  · split
    · rfl
    · dsimp only
      split <;> (try split) <;> exact executeTransaction_frame _ h _ _

theorem deliverTxs_frame (h : n.engine.executorDB = some i) (raws : List Bytes) :
    Frame n.engine (deliverTxs env n raws).1.engine := by
  induction raws generalizing n with
  | nil => rfl
  | cons raw raws ih =>
    have h₁ := deliverTx_frame env h raw
    exact h₁.trans (ih (h₁.executorDB.trans h))

theorem rotation_eq {n' : Node} {height : Int} {u : List ValidatorUpdate}
    (h : rotation n height = .ok (n', u)) : n' = { n with validators := n'.validators } := by
  unfold rotation at h
  repeat' first | split at h | split_ifs at h | dsimp only at h
  all_goals
    simp only [pure, Except.pure, throw, throwThe, MonadExceptOf.throw, Except.ok.injEq,
      Prod.mk.injEq, reduceCtorEq] at h <;> obtain ⟨rfl, -⟩ := h <;> rfl

theorem finalizeBlock_frame (h : n.engine.executorDB = some i) (req : FinalizeBlockRequest) :
    Frame n.engine (finalizeBlock env n req).1.engine := by
  have h₁ : Frame n.engine (deliverTxs env (beginBlock n req) req.txs).1.engine :=
    (setCurrentBlockInfo_frame n.engine _ req.time).trans (deliverTxs_frame env (n := beginBlock n req) h req.txs)
  unfold finalizeBlock
  dsimp only
  split
  · rename_i hr
    rwa [rotation_eq hr]
  · exact h₁

theorem initChain_eq {n' : Node} {req : InitChainRequest} {now : Time} {r : InitChainResponse}
    (h : initChain env n req now = .ok (n', r)) :
    n' = { n with
      validators := n'.validators, store := n'.store
      app := { n.app with state := { n.app.state with validators := n'.app.state.validators } } } := by
  unfold initChain at h
  repeat' first | split at h | split_ifs at h | dsimp only at h
  all_goals
    simp only [bind, Except.bind, pure, Except.pure, throw, throwThe, MonadExceptOf.throw,
      Except.ok.injEq, Prod.mk.injEq, reduceCtorEq] at h <;> obtain ⟨rfl, -⟩ := h <;> rfl

end OxyChain.Abci

namespace OxyChain.Node

open Abci Execution Engine Validators

variable {env : Env} {cfg : Config} {n n' : Abci.Node} {i : Nat}

theorem handleFundAccount_fst (n : Abci.Node) (m p a : String) (x : Option String) :
    (handleFundAccount n m p a x).1 = n ∨ ∃ addr amt,
      (handleFundAccount n m p a x).1 = { n with engine := (fundAccount n.engine n.store addr amt).1 } ∨
      (handleFundAccount n m p a x).1 =
        { n with engine := (getState (fundAccount n.engine n.store addr amt).1 n.store addr).1 } := by
  unfold handleFundAccount
  dsimp only
  repeat' split
  all_goals first | exact .inl rfl | exact .inr ⟨_, _, .inl rfl⟩ | exact .inr ⟨_, _, .inr rfl⟩

theorem handleFundAccount_frame (h : n.engine.executorDB = some i) (m p a : String)
    (x : Option String) : Frame n.engine (handleFundAccount n m p a x).1.engine := by
  have hf := fun a x => fundAccount_frame h n.store a x
  rcases handleFundAccount_fst n m p a x with h' | ⟨addr, amt, h' | h'⟩ <;> rw [h']
  · exact hf _ _
  · rw [getState_eq ((hf _ _).executorDB.trans h)]
    exact hf _ _

theorem handleAccounts_frame (h : n.engine.executorDB = some i) (m p : String)
    (x : Option String) : Frame n.engine (handleAccounts n m p x).1.engine := by
  unfold handleAccounts
  dsimp only
  split_ifs
  · exact handleFundAccount_frame h ..
  · rfl
  · rfl
  · rw [getState_eq h]

theorem handleFundAccount_onlyBalances (h : n.engine.executorDB = some i) (m p a : String)
    (x : Option String) :
    (handleFundAccount n m p a x).1 = { n with engine := (handleFundAccount n m p a x).1.engine } ∧
      OnlyBalances n.engine (handleFundAccount n m p a x).1.engine := by
  have hf := fun a x => fundAccount_onlyBalances h n.store a x
  rcases handleFundAccount_fst n m p a x with h' | ⟨addr, amt, h' | h'⟩ <;> rw [h']
  · exact ⟨rfl, .refl _⟩
  · exact ⟨rfl, hf _ _⟩
  · rw [getState_eq ((hf addr amt).executorDB.trans h)]
    exact ⟨rfl, hf _ _⟩

theorem handleAccounts_onlyBalances (h : n.engine.executorDB = some i) (m p : String)
    (x : Option String) :
    (handleAccounts n m p x).1 = { n with engine := (handleAccounts n m p x).1.engine } ∧
      OnlyBalances n.engine (handleAccounts n m p x).1.engine := by
  unfold handleAccounts
  dsimp only
  split_ifs
  · exact handleFundAccount_onlyBalances h ..
  · exact ⟨rfl, .refl _⟩
  · exact ⟨rfl, .refl _⟩
  · rw [getState_eq h]
    exact ⟨rfl, .refl _⟩

theorem callValidators_engine {c : Call} {now : Time} {o : Response}
    (h : callValidators n c now = (.up n', o)) : n'.engine = n.engine := by
  unfold callValidators at h
  repeat' first | split at h | split_ifs at h | dsimp only at h
  all_goals simp only [Prod.mk.injEq, Proc.up.injEq, reduceCtorEq, false_and] at h
  all_goals obtain ⟨rfl, -⟩ := h; rfl

theorem ofStall_ne_up (s : Stall) : Proc.ofStall n s ≠ .up n' := by
  cases s <;> simp [Proc.ofStall]

theorem stepUp_frame (h : n.engine.executorDB = some i) {r : Request} (hr : r ≠ .commit)
    {o : Response} (hu : stepUp env n r = (.up n', o)) : Frame n.engine n'.engine := by
  cases r with
  | initChain req now =>
    simp only [stepUp] at hu
    split at hu
    · cases hu
      rename_i hi
      rw [initChain_eq env hi]
    · cases ofStall_ne_up _ (Prod.mk.inj hu).1
  | finalizeBlock req =>
    simp only [stepUp] at hu
    have hf := finalizeBlock_frame env h req
    split at hu
    · cases hu
      simpa [*] using hf
    · cases ofStall_ne_up _ (Prod.mk.inj hu).1
  | commit => exact absurd rfl hr
  | validatorCall c now => rw [callValidators_engine hu]
  | checkTx raw =>
    simp only [stepUp, Prod.mk.injEq, Proc.up.injEq] at hu
    rw [← hu.1, checkTx_node env h]
  | query path =>
    simp only [stepUp, Prod.mk.injEq, Proc.up.injEq] at hu
    rw [← hu.1, query_node h]
  | rest q =>
    simp only [stepUp, Prod.mk.injEq, Proc.up.injEq] at hu
    rw [← hu.1]
    cases q with
    | accounts m p a => simpa only [handleRest] using handleAccounts_frame h m p a
    | other => simp only [handleRest]; rfl
  | stop | crash => simp only [stepUp, Prod.mk.injEq, reduceCtorEq, false_and] at hu
  | info | prepareProposal | processProposal | restart =>
    simp only [stepUp, Prod.mk.injEq, Proc.up.injEq] at hu
    rw [← hu.1]

end OxyChain.Node

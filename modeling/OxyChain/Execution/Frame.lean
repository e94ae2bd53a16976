import OxyChain.Execution.State

/-! # What the executor's methods change

Once `Start` has run, `ExecuteTransaction` and `FundAccount` write the object the executor
points at and nothing else, `GetState` changes nothing, and `SaveState` moves only the
manager's pointer. `Frame e e'` says that `e'` is `e` with at most the executor's object
and the block information changed.
-/

namespace OxyChain.Execution

namespace Engine

def Started (e : Engine) : Prop := ∃ i, e.executorDB = some i ∧ i < e.heap.length

structure Frame (e e' : Engine) : Prop where
  executorDB : e'.executorDB = e.executorDB
  managerDB : e'.managerDB = e.managerDB
  length : e'.heap.length = e.heap.length
  others : ∀ j, e.executorDB ≠ some j → e'.heap[j]? = e.heap[j]?
  tries : e'.tries = e.tries
  running : e'.running = e.running

namespace Frame

variable {e e₁ e₂ e₃ : Engine}

@[refl] theorem refl (e : Engine) : Frame e e := ⟨rfl, rfl, rfl, fun _ _ => rfl, rfl, rfl⟩

@[trans] theorem trans (h₁ : Frame e₁ e₂) (h₂ : Frame e₂ e₃) : Frame e₁ e₃ :=
  ⟨h₂.1.trans h₁.1, h₂.2.trans h₁.2, h₂.3.trans h₁.3,
    fun j hj => (h₂.4 j (h₁.1 ▸ hj)).trans (h₁.4 j hj), h₂.5.trans h₁.5, h₂.6.trans h₁.6⟩

theorem started (h : Frame e e') (hs : e.Started) : e'.Started := by
  obtain ⟨i, hi, hl⟩ := hs
  exact ⟨i, h.executorDB.trans hi, h.length ▸ hl⟩

theorem managerWorld_eq (h : Frame e e') (hne : e.executorDB ≠ e.managerDB) :
    e'.managerWorld = e.managerWorld := by
  unfold managerWorld deref
  rw [h.managerDB]
  cases hm : e.managerDB with
  | none => rfl
  | some j => simp [h.others j (hm ▸ hne)]

theorem write (h : e.executorDB = some i) (db : StateDB) : Frame e (e.write i db) :=
  ⟨rfl, rfl, List.length_set .., fun j hj => List.getElem?_set_ne (by rintro rfl; exact hj h),
    rfl, rfl⟩

end Frame

end Engine

open Engine

theorem setCurrentBlockInfo_frame (e : Engine) (h : Nat) (t : Int) :
    Frame e (setCurrentBlockInfo e h t) := ⟨rfl, rfl, rfl, fun _ _ => rfl, rfl, rfl⟩

theorem getStateDB_of_executorDB {e : Engine} (h : e.executorDB = some i) (st : Store) :
    getStateDB e st = e := by
  simp [getStateDB, h]

theorem executeTransaction_frame (evm : Evm) {e : Engine} (h : e.executorDB = some i)
    (st : Store) (tx : ExecTx) : Frame e (executeTransaction evm e st tx).1 := by
  unfold executeTransaction
  split
  · rfl
  · rw [getStateDB_of_executorDB h]
    dsimp only
    split
    · rfl
    · rfl
    · split
      · rename_i heq _
        obtain rfl : i = _ := Option.some_injective _ (h.symm.trans heq)
        split <;> exact Frame.write h _
      · rfl

def Engine.executorLogs (e : Engine) : Option (List Log) := (e.deref e.executorDB).map (·.logs)

theorem getState_eq {e : Engine} (h : e.executorDB = some i) (st : Store) (a : String) :
    getState e st a = (e, (getState e st a).2) := by
  unfold getState
  split
  · rfl
  · rw [getStateDB_of_executorDB h]
    dsimp only
    split <;> rfl

theorem fundAccount_frame {e : Engine} (h : e.executorDB = some i) (st : Store)
    (a x : String) : Frame e (fundAccount e st a x).1 := by
  unfold fundAccount
  split
  · rfl
  · rw [getStateDB_of_executorDB h]
    dsimp only
    split
    · rfl
    · split
      · rename_i heq _
        obtain rfl : i = _ := Option.some_injective _ (h.symm.trans heq)
        exact Frame.write h _
      · rfl

/-! ## Balances -/

structure Engine.OnlyBalances (e e' : Engine) extends Frame e e' : Prop where
  logs : e'.executorLogs = e.executorLogs
  accounts : ∀ w, e.executorWorld = some w → ∃ w', e'.executorWorld = some w' ∧
    ∀ a, (w' a).nonce = (w a).nonce ∧ (w' a).codeHash = (w a).codeHash ∧ (w' a).storage = (w a).storage

namespace Engine.OnlyBalances

variable {e₁ e₂ e₃ : Engine}

theorem refl (e : Engine) : OnlyBalances e e :=
  ⟨.refl e, rfl, fun w h => ⟨w, h, fun _ => ⟨rfl, rfl, rfl⟩⟩⟩

theorem trans (h₁ : OnlyBalances e₁ e₂) (h₂ : OnlyBalances e₂ e₃) : OnlyBalances e₁ e₃ := by
  refine ⟨h₁.toFrame.trans h₂.toFrame, h₂.logs.trans h₁.logs, fun w hw => ?_⟩
  obtain ⟨w', hw', h₁a⟩ := h₁.accounts w hw
  obtain ⟨w'', hw'', h₂a⟩ := h₂.accounts w' hw'
  exact ⟨w'', hw'', fun a =>
    ⟨(h₂a a).1.trans (h₁a a).1, (h₂a a).2.1.trans (h₁a a).2.1, (h₂a a).2.2.trans (h₁a a).2.2⟩⟩

end Engine.OnlyBalances

theorem addBalance_keeps (w : World) (b : Address) (x : Int) (a : Address) :
    (addBalance w b x a).nonce = (w a).nonce ∧ (addBalance w b x a).codeHash = (w a).codeHash ∧
      (addBalance w b x a).storage = (w a).storage := by
  by_cases h : a = b
  · subst h
    simp [addBalance]
  · simp [addBalance, Function.update_noteq h]

@[simp] theorem Engine.write_executorDB (e : Engine) (db : StateDB) :
    (e.write i db).executorDB = e.executorDB := rfl

theorem deref_write {e : Engine} {db : StateDB} (h : e.deref (some i) = some db) (db' : StateDB) :
    (e.write i db').deref (some i) = some db' := by
  have hi : i < e.heap.length := by
    simp only [Engine.deref, Option.some_bind] at h
    exact (List.getElem?_eq_some_iff.1 h).1
  simp [Engine.deref, Engine.write, hi]

theorem fundAccount_onlyBalances {e : Engine} (h : e.executorDB = some i) (st : Store)
    (a x : String) : OnlyBalances e (fundAccount e st a x).1 := by
  unfold fundAccount
  split
  · exact .refl e
  · rw [getStateDB_of_executorDB h]
    dsimp only
    split
    · exact .refl e
    · rename_i v _
      split
      · rename_i j db heq hdb
        obtain rfl : i = j := Option.some_injective _ (h.symm.trans heq)
        rw [h] at hdb
        refine ⟨Frame.write h _, ?_, fun w hw => ⟨addBalance db.world (hexToAddress a) v, ?_, ?_⟩⟩
        · simp [Engine.executorLogs, h, deref_write hdb, hdb]
        · simp [Engine.executorWorld, h, deref_write hdb]
        · simp only [Engine.executorWorld, h, hdb, Option.map_some', Option.some.injEq] at hw
          exact hw ▸ addBalance_keeps _ _ _
      · exact .refl e

/-! ## `SaveState` -/

section SaveState

variable (evm : Evm) {e : Engine} (st : Store)

theorem saveState_engine (h : e.managerWorld = some w) (hr : evm.intermediateRoot w ≠ 0) :
    (saveState evm e st).1 = ⟨e.heap ++ [⟨w, []⟩], e.executorDB, some e.heap.length,
      (evm.intermediateRoot w, w) :: e.tries, e.emptyRoot, e.running, e.currentHeight,
      e.currentTimestamp⟩ := by
  unfold managerWorld at h
  obtain ⟨db, hdb, rfl⟩ := Option.map_eq_some'.1 h
  simp only [saveState, hdb, reloadStateFromRoot, openAt, hr, if_false, List.lookup, beq_self_eq_true]
  split <;> rfl

theorem loadState_executorDB (h : loadState e st = .ok (e', i)) : e'.executorDB = e.executorDB := by
  unfold loadState at h
  dsimp only at h
  split at h <;> cases h
  rfl

theorem loadState_length (h : loadState e st = .ok (e', i)) :
    e'.heap.length = e.heap.length + 1 := by
  unfold loadState at h
  dsimp only at h
  split at h <;> cases h
  simp [alloc]

theorem loadState_managerDB (h : loadState e st = .ok (e', i)) :
    e'.managerDB = some i ∧ i = e.heap.length := by
  unfold loadState at h
  dsimp only at h
  split at h <;> cases h
  exact ⟨rfl, rfl⟩

theorem saveState_executorDB : (saveState evm e st).1.executorDB = e.executorDB := by
  unfold saveState
  split
  · rfl
  · dsimp only
    split <;> split <;> (try split) <;> first | rfl | (rename_i h; exact (loadState_executorDB st h).trans rfl)

theorem saveState_length : e.heap.length ≤ (saveState evm e st).1.heap.length := by
  unfold saveState
  split
  · rfl
  · dsimp only
    split <;> split <;> (try split) <;>
      first | (rename_i h; simp [loadState_length st h]) | simp [alloc]

theorem saveState_started (hs : e.Started) : (saveState evm e st).1.Started := by
  obtain ⟨i, hi, hl⟩ := hs
  exact ⟨i, (saveState_executorDB evm st).trans hi, hl.trans_le (saveState_length evm st)⟩

end SaveState

end OxyChain.Execution

import OxyChain.Validators.Set

/-! # The methods of `ValidatorSet` and `vs.mutex`

`Call.locks` is the sequence of `sync.RWMutex` operations a call performs, read off its
body; `Call.runAll` runs calls one after another on the set and its mutex, and a call that
waits for a mutex only it holds blocks every later one.
-/

namespace OxyChain.Validators

/-- The methods, with their arguments (the clock is passed separately). -/
inductive Call where
  | registerValidator (address : String) (pubKey : List UInt8) (initialStake : Int)
  | stake (address : String) (amount : Int)
  | unstake (address : String) (amount : Int)
  | slash (address : String) (slashPercent : Int) (jailDuration : Int)
  | unjail (address : String)
  | updateValidatorActivity (address : String) (missedBlock : Bool)
  | rotateValidators
  | initializeGenesisValidators (gvs : List GenesisValidator)
  | loadValidators (stored : Option (List Validator))
  | saveValidators
  | getActiveValidators
  | toCometBFTValidators

def Call.run (vs : ValidatorSet) (now : Time) : Call → Option (ValidatorSet × Bool)
  | .registerValidator a k s => let o := Validators.registerValidator vs a k s now; some (o.set, o.saved)
  | .stake a x => let o := Validators.stake vs a x now; some (o.set, o.saved)
  | .unstake a x => let o := Validators.unstake vs a x now; some (o.set, o.saved)
  | .slash a p d => let o := Validators.slash vs a p d now; some (o.set, o.saved)
  | .unjail a => let o := Validators.unjail vs a now; some (o.set, o.saved)
  | .updateValidatorActivity a m => some (Validators.updateValidatorActivity vs a m now, false)
  | .rotateValidators => (Validators.rotateValidators vs).map fun r => (r.2, false)
  | .initializeGenesisValidators gvs => some (Validators.initializeGenesisValidators vs gvs now, true)
  | .loadValidators l => some (Validators.loadValidators vs l, false)
  | .saveValidators | .getActiveValidators | .toCometBFTValidators => some (vs, false)

/-! ## The mutex -/

inductive LockOp where
  | lock | unlock | rLock | rUnlock
  deriving DecidableEq, Repr

/-- `sync.RWMutex`: free, read-held by `k + 1` readers, or write-held. -/
inductive Mutex where
  | free
  | readers (k : Nat)
  | writer
  deriving DecidableEq, Repr

def Mutex.step : Mutex → LockOp → Option Mutex
  | .free, .lock => some .writer
  | .free, .rLock => some (.readers 0)
  | .readers k, .rLock => some (.readers (k + 1))
  | .readers 0, .rUnlock => some .free
  | .readers (k + 1), .rUnlock => some (.readers k)
  | .writer, .unlock => some .free
  | _, _ => none

def Mutex.run (m : Mutex) : List LockOp → Option Mutex
  | [] => some m
  | op :: ops => (m.step op).bind (Mutex.run · ops)

def writeSection (saved : Bool) : List LockOp :=
  [.lock] ++ (if saved then [.rLock, .rUnlock] else []) ++ [.unlock]

def Call.locks (vs : ValidatorSet) (now : Time) : Call → List LockOp
  | .registerValidator a k s => writeSection (Validators.registerValidator vs a k s now).saved
  | .stake a x => writeSection (Validators.stake vs a x now).saved
  | .unstake a x => writeSection (Validators.unstake vs a x now).saved
  | .slash a p d => writeSection (Validators.slash vs a p d now).saved
  | .unjail a => writeSection (Validators.unjail vs a now).saved
  | .updateValidatorActivity _ _ => writeSection false
  | .rotateValidators => if (Validators.rotateValidators vs).isSome then [.lock, .unlock] else [.lock]
  | .initializeGenesisValidators _ => [.lock, .unlock, .rLock, .rUnlock]
  | .loadValidators _ => writeSection false
  | .saveValidators | .getActiveValidators | .toCometBFTValidators => [.rLock, .rUnlock]

@[simp] theorem run_writeSection (saved : Bool) :
    Mutex.free.run (writeSection saved) = if saved then none else some .free := by
  cases saved <;> rfl

/-- The calls that ask for the mutex while holding it are exactly the successful calls of
the five methods that save under `Lock`. -/
def Call.savesUnderLock (vs : ValidatorSet) (now : Time) : Call → Bool
  | .registerValidator a k s => (Validators.registerValidator vs a k s now).saved
  | .stake a x => (Validators.stake vs a x now).saved
  | .unstake a x => (Validators.unstake vs a x now).saved
  | .slash a p d => (Validators.slash vs a p d now).saved
  | .unjail a => (Validators.unjail vs a now).saved
  | _ => false

theorem run_locks_eq_none_iff (vs : ValidatorSet) (now : Time) (c : Call) :
    Mutex.free.run (c.locks vs now) = none ↔ c.savesUnderLock vs now = true := by
  cases c
  case rotateValidators =>
    cases hr : Validators.rotateValidators vs <;>
      simp [Call.locks, Call.savesUnderLock, hr, Mutex.run, Mutex.step]
  case registerValidator | stake | unstake | slash | unjail =>
    simp only [Call.locks, Call.savesUnderLock, run_writeSection]
    split <;> simp [*]
  all_goals exact iff_of_false (fun h => nomatch h) Bool.false_ne_true

theorem run_locks_of_not_saves (vs : ValidatorSet) (now : Time) (c : Call)
    (h : c.savesUnderLock vs now = false) :
    Mutex.free.run (c.locks vs now) = some .free ∨
      (c = .rotateValidators ∧ Validators.rotateValidators vs = none) := by
  cases c
  case rotateValidators =>
    cases hr : Validators.rotateValidators vs <;> simp [Call.locks, hr, Mutex.run, Mutex.step]
  case registerValidator | stake | unstake | slash | unjail =>
    simp only [Call.locks, Call.savesUnderLock] at h ⊢
    simp [h]
  all_goals exact .inl rfl

/-! ## Runs of calls -/

inductive Reply where
  | validators (l : List Validator)
  | updates (us : List ValidatorUpdate)
  | done
  deriving DecidableEq, Repr

def Call.reply (vs : ValidatorSet) : Call → Reply
  | .getActiveValidators => .validators (Validators.getActiveValidators vs)
  | .toCometBFTValidators => .updates (Validators.toCometBFTValidators vs)
  | .rotateValidators => .updates (((Validators.rotateValidators vs).map (·.1)).getD [])
  | _ => .done

/-- The set with the state of `vs.mutex`. -/
structure Guarded where
  mutex : Mutex
  set : ValidatorSet

/-- One call, made once the calls before it have returned or blocked for good, and its reply
(`none`: it never returns). It waits forever on a mutex a blocked caller holds. Otherwise it
runs its body, and blocks holding `Lock` when its own operations ask for the mutex again or
when it panics, which ends the process. -/
def Call.exec (g : Guarded) (now : Time) (c : Call) : Guarded × Option Reply :=
  if g.mutex ≠ .free then (g, none)
  else
    match c.run g.set now, Mutex.free.run (c.locks g.set now) with
    | some (vs, _), some m => (⟨m, vs⟩, some (c.reply g.set))
    | some (vs, _), none => (⟨.writer, vs⟩, none)
    | none, _ => (⟨.writer, g.set⟩, none)

def Call.runAll (g : Guarded) : List (Call × Time) → Guarded × List (Option Reply)
  | [] => (g, [])
  | (c, now) :: cs =>
    let r := c.exec g now
    let t := runAll r.1 cs
    (t.1, r.2 :: t.2)

theorem Call.exec_held {g : Guarded} (h : g.mutex ≠ .free) (now : Time) (c : Call) :
    c.exec g now = (g, none) := if_pos h

/-- Once a caller blocks holding the mutex, no later call returns or changes the set. -/
theorem Call.runAll_held {g : Guarded} (h : g.mutex ≠ .free) :
    ∀ cs : List (Call × Time), runAll g cs = (g, List.replicate cs.length none)
  | [] => rfl
  | (c, now) :: cs => by simp [runAll, exec_held h, runAll_held h cs, List.replicate_succ]

theorem Call.exec_free {g : Guarded} (h : g.mutex = .free) (now : Time) (c : Call) :
    c.exec g now = match c.run g.set now with
      | some (vs, _) =>
        if c.savesUnderLock g.set now then (⟨.writer, vs⟩, none) else (⟨.free, vs⟩, some (c.reply g.set))
      | none => (⟨.writer, g.set⟩, none) := by
  rw [exec, if_neg (not_not.2 h)]
  rcases hr : c.run g.set now with _ | ⟨vs, b⟩
  · rfl
  · dsimp only
    split_ifs with hs
    · rw [(run_locks_eq_none_iff g.set now c).2 hs]
    · rcases run_locks_of_not_saves g.set now c (by simpa using hs) with hl | ⟨rfl, hn⟩
      · rw [hl]
      · simp [Call.run, hn] at hr

theorem Call.exec_set (g : Guarded) (now : Time) (c : Call) :
    (c.exec g now).1.set = g.set ∨ ∃ b, c.run g.set now = some ((c.exec g now).1.set, b) := by
  by_cases h : g.mutex = .free
  · rw [exec_free h]
    rcases c.run g.set now with _ | ⟨vs, b⟩
    · exact .inl rfl
    · exact .inr ⟨b, by dsimp only; split_ifs <;> rfl⟩
  · exact .inl (by rw [exec_held h])

theorem Call.runAll_invariant {P : ValidatorSet → Prop} {Q : Call × Time → Prop}
    (hstep : ∀ {vs r} {c : Call × Time}, Q c → P vs → c.1.run vs c.2 = some r → P r.1) :
    ∀ {cs : List (Call × Time)} {g : Guarded}, (∀ c ∈ cs, Q c) → P g.set → P (runAll g cs).1.set
  | [], _, _, hp => hp
  | (c, now) :: cs, g, hok, hp => by
    change P (runAll (c.exec g now).1 cs).1.set
    refine runAll_invariant hstep (fun c hc => hok c (.tail _ hc)) ?_
    rcases exec_set g now c with he | ⟨b, hr⟩
    · rwa [he]
    · exact hstep (c := (c, now)) (hok _ (.head _)) hp hr

/-! ## A registration that never returns -/

def sampleKey : List UInt8 := List.replicate 32 7

def emptyTestnetSet : ValidatorSet := ⟨VMap.empty, 10 * 10 ^ 18, 100⟩

theorem registerValidator_blocks_on_own_lock :
    (Call.registerValidator "0x0000000000000000000000000000000000000001" sampleKey
        (1000 * 10 ^ 18)).locks emptyTestnetSet 0 = [.lock, .rLock, .rUnlock, .unlock] ∧
      Mutex.free.run ((Call.registerValidator "0x0000000000000000000000000000000000000001"
        sampleKey (1000 * 10 ^ 18)).locks emptyTestnetSet 0) = none := by
  constructor <;> decide

end OxyChain.Validators

import OxyChain.Hex

/-! # The validator set (`internal/consensus/validators.go`)

The map `vs.validators` is a list with distinct addresses in Go's open iteration order;
stakes are `*big.Int`, so `Int`, and times are `Int` nanoseconds with `time.Time{}` as `0`.
-/

namespace OxyChain.Validators

abbrev Time := Int

structure Validator where
  address : String
  pubKey : List UInt8
  stake : Int
  power : Int
  jailed : Bool
  jailedUntil : Time
  createdAt : Time
  lastActiveAt : Time
  missedBlocks : Int
  totalMissed : Int
  deriving DecidableEq, Repr

structure ValidatorUpdate where
  pubKeyBytes : List UInt8
  power : Int
  deriving DecidableEq, Repr

/-! ## The map -/

/-- `map[string]*Validator`, keyed by each validator's own address. -/
structure VMap where
  vals : List Validator
  keyed : (vals.map Validator.address).Nodup

namespace VMap

@[ext] theorem ext {m n : VMap} (h : m.vals = n.vals) : m = n := by
  cases m; cases n; cases h; rfl

instance : DecidableEq VMap := fun m n =>
  decidable_of_iff (m.vals = n.vals) ⟨ext, fun h => h ▸ rfl⟩

def empty : VMap := ⟨[], List.nodup_nil⟩

def find? (m : VMap) (a : String) : Option Validator := m.vals.find? (·.address == a)

def erase (m : VMap) (a : String) : VMap :=
  ⟨m.vals.filter (·.address != a), (List.filter_sublist m.vals).map _ |>.nodup m.keyed⟩

def modifyAll (m : VMap) (f : Validator → Validator) (hf : ∀ v, (f v).address = v.address) :
    VMap :=
  ⟨m.vals.map f, by
    rw [List.map_map, (funext hf : Validator.address ∘ f = Validator.address)]; exact m.keyed⟩

def set (m : VMap) (v : Validator) : VMap :=
  if h : m.vals.any (·.address == v.address) then
    m.modifyAll (fun w => if w.address = v.address then v else w) (fun w => by
      by_cases hw : w.address = v.address <;> simp [hw])
  else
    ⟨m.vals ++ [v], by
      rw [List.map_append, List.nodup_append]
      refine ⟨m.keyed, List.nodup_singleton _, ?_⟩
      simp only [List.any_eq_true, beq_iff_eq, not_exists, not_and] at h
      simpa [List.disjoint_singleton, List.mem_map] using h⟩

def ofList (l : List Validator) : VMap := l.foldl set empty

theorem set_vals_of_not_mem {m : VMap} {v : Validator} (h : v.address ∉ m.vals.map Validator.address) :
    (m.set v).vals = m.vals ++ [v] := by
  have hany : ¬m.vals.any (·.address == v.address) := by simpa using h
  rw [set, dif_neg hany]

theorem foldl_set_vals : ∀ (l : List Validator) (m : VMap),
    ((m.vals ++ l).map Validator.address).Nodup → (l.foldl set m).vals = m.vals ++ l
  | [], m, _ => by simp
  | v :: l, m, h => by
    have hv : v.address ∉ m.vals.map Validator.address := by
      simp only [List.map_append, List.map_cons, List.nodup_append, List.nodup_cons] at h
      exact fun hm => h.2.2 hm (List.mem_cons_self _ _)
    have hs := set_vals_of_not_mem hv
    rw [List.foldl_cons, foldl_set_vals l (m.set v) (by simpa [hs] using h), hs]
    simp

theorem ofList_vals (m : VMap) : ofList m.vals = m :=
  ext ((foldl_set_vals m.vals empty (by simpa [empty] using m.keyed)).trans (by simp [empty]))

end VMap

/-! ## The set and its derived views -/

structure ValidatorSet where
  validators : VMap
  minStake : Int
  maxValidators : Int

def maxPower : Int := 2 ^ 30

def calculatePower (stake : Int) : Int :=
  let power := stake / 10 ^ 18
  if power > maxPower then maxPower else toInt64 power

def isActive (vs : ValidatorSet) (v : Validator) : Bool := !v.jailed && decide (vs.minStake ≤ v.stake)

/-- `sort.Slice` by stake, highest first. Ties keep the order they came in, which is the
map's order: any order a Go sort leaves ties in is reached from some map order. -/
def stakeAtLeast (a b : Validator) : Prop := b.stake ≤ a.stake

instance : DecidableRel stakeAtLeast := fun a b => inferInstanceAs (Decidable (b.stake ≤ a.stake))

def sortByStake (l : List Validator) : List Validator := l.insertionSort stakeAtLeast

def activeByStake (vs : ValidatorSet) : List Validator :=
  sortByStake (vs.validators.vals.filter (isActive vs))

def getActiveValidators (vs : ValidatorSet) : List Validator := activeByStake vs

def getValidators (vs : ValidatorSet) : List Validator := vs.validators.vals.filter (!·.jailed)

/-- Go's `copy(dst, src)`: the first `min(len(dst), len(src))` bytes of `src` over `dst`. -/
def copy (dst src : List UInt8) : List UInt8 := src.take dst.length ++ dst.drop src.length

/-- A validator whose key has `ed25519.PubKeySize` bytes gives an update; any other is
skipped. The key is copied into `var pubKey ed25519.PubKey`, a nil slice, which takes none
of its bytes, so `pubKey.Bytes()` is empty. -/
def toUpdate? (v : Validator) : Option ValidatorUpdate :=
  if v.pubKey.length = 32 then some ⟨copy [] v.pubKey, v.power⟩ else none

theorem filterMap_toUpdate (l : List Validator) :
    l.filterMap toUpdate? = (l.filter (·.pubKey.length == 32)).map fun v => ⟨[], v.power⟩ := by
  induction l with
  | nil => rfl
  | cons v l ih =>
    by_cases hv : v.pubKey.length = 32 <;> simp [toUpdate?, copy, hv, ih]

def toCometBFTValidators (vs : ValidatorSet) : List ValidatorUpdate :=
  (activeByStake vs).filterMap toUpdate?

def lowerStake : Option Validator → Validator → Option Validator
  | none, v => some v
  | some w, v => if v.stake < w.stake then some v else some w

def findLowestStakeValidator (l : List Validator) : Option Validator := l.foldl lowerStake none

def saveValidators (vs : ValidatorSet) : List Validator := vs.validators.vals

/-! ## The methods -/

/-- What one call of a mutating method leaves: its Go return value, the new set, and
whether it ran `SaveValidators`. -/
structure Outcome (α : Type) where
  result : Except String α
  set : ValidatorSet
  saved : Bool

def Outcome.reject {α : Type} (vs : ValidatorSet) (msg : String) : Outcome α :=
  ⟨.error msg, vs, false⟩

def Outcome.store {α : Type} (vs : ValidatorSet) (a : α) : Outcome α := ⟨.ok a, vs, true⟩

def ValidatorSet.withMap (vs : ValidatorSet) (m : VMap) : ValidatorSet := { vs with validators := m }

/-- The room `RegisterValidator` makes: none when the set is full and the candidate does
not out-stake the lowest validator, which is evicted otherwise. -/
def makeRoom (vs : ValidatorSet) (initialStake : Int) : Option VMap :=
  if vs.maxValidators ≤ vs.validators.vals.length then
    match findLowestStakeValidator vs.validators.vals with
    | some m => if m.stake < initialStake then some (vs.validators.erase m.address) else none
    | none => none
  else some vs.validators

def newValidator (address : String) (pubKey : List UInt8) (initialStake : Int) (now : Time) :
    Validator :=
  { address, pubKey, stake := initialStake, power := calculatePower initialStake,
    jailed := false, jailedUntil := 0, createdAt := now, lastActiveAt := now,
    missedBlocks := 0, totalMissed := 0 }

def registerValidator (vs : ValidatorSet) (address : String) (pubKey : List UInt8)
    (initialStake : Int) (now : Time) : Outcome Validator :=
  if (vs.validators.find? address).isSome then
    .reject vs ("validador ya está registrado: " ++ address)
  else if initialStake < vs.minStake then
    .reject vs ("stake insuficiente: requiere mínimo " ++ toString vs.minStake ++ ", tiene " ++
      toString initialStake)
  else
    match makeRoom vs initialStake with
    | none => .reject vs ("número máximo de validadores alcanzado y stake insuficiente para " ++
        "reemplazar al validador con menor stake")
    | some m =>
      let v := newValidator address pubKey initialStake now
      .store (vs.withMap (m.set v)) v

def stake (vs : ValidatorSet) (address : String) (amount : Int) (now : Time) : Outcome Unit :=
  match vs.validators.find? address with
  | none => .reject vs ("validador no encontrado: " ++ address)
  | some v =>
    if v.jailed then .reject vs ("validador está en jail: " ++ address)
    else
      let s := v.stake + amount
      .store (vs.withMap (vs.validators.set
        { v with stake := s, power := calculatePower s, lastActiveAt := now })) ()

def unstake (vs : ValidatorSet) (address : String) (amount : Int) (now : Time) : Outcome Unit :=
  match vs.validators.find? address with
  | none => .reject vs ("validador no encontrado: " ++ address)
  | some v =>
    if v.jailed then .reject vs ("validador está en jail: " ++ address)
    else
      let newStake := v.stake - amount
      if newStake < vs.minStake then
        .reject vs ("no se puede unstake: quedaría con " ++ toString newStake ++
          ", requiere mínimo " ++ toString vs.minStake)
      else
        let m := vs.validators.set
          { v with stake := newStake, power := calculatePower newStake, lastActiveAt := now }
        .store (vs.withMap (if newStake < vs.minStake then m.erase address else m)) ()

/-- `Slash`: `floor(stake * percent / 100)` off (`big.Int` division is Euclidean), jail
until `now + jailDuration`, and removal below `minStake`. -/
def slash (vs : ValidatorSet) (address : String) (slashPercent : Int) (jailDuration : Int)
    (now : Time) : Outcome Unit :=
  match vs.validators.find? address with
  | none => .reject vs ("validador no encontrado: " ++ address)
  | some v =>
    let s := v.stake - v.stake * slashPercent / 100
    let m := vs.validators.set
      { v with stake := s, power := calculatePower s, jailed := true,
               jailedUntil := now + jailDuration }
    .store (vs.withMap (if s < vs.minStake then m.erase address else m)) ()

def unjail (vs : ValidatorSet) (address : String) (now : Time) : Outcome Unit :=
  match vs.validators.find? address with
  | none => .reject vs ("validador no encontrado: " ++ address)
  | some v =>
    if !v.jailed then .reject vs ("validador no está en jail: " ++ address)
    else if now < v.jailedUntil then
      .reject vs ("validador aún está en jail hasta " ++ toString v.jailedUntil)
    else
      .store (vs.withMap (vs.validators.set
        { v with jailed := false, jailedUntil := 0, missedBlocks := 0 })) ()

def updateValidatorActivity (vs : ValidatorSet) (address : String) (missedBlock : Bool)
    (now : Time) : ValidatorSet :=
  match vs.validators.find? address with
  | none => vs
  | some v =>
    let v := { v with lastActiveAt := now }
    let v :=
      if missedBlock then
        let v := { v with missedBlocks := v.missedBlocks + 1, totalMissed := v.totalMissed + 1 }
        if 100 ≤ v.missedBlocks then { v with missedBlocks := 0 } else v
      else { v with missedBlocks := 0 }
    vs.withMap (vs.validators.set v)

def refreshPowers (m : VMap) : VMap :=
  m.modifyAll (fun v => { v with power := calculatePower v.stake }) (fun _ => rfl)

/-- The cut of `RotateValidators`: sorted and sliced to `validatorsCopy[:maxValidators]` when
there are more; `none` is the panic of that slice when `maxValidators` is negative. -/
def cutToMax (maxValidators : Int) (copy : List Validator) : Option (List Validator) :=
  if maxValidators < copy.length then
    if maxValidators < 0 then none
    else some ((sortByStake copy).take maxValidators.toNat)
  else some copy

/-- `RotateValidators`. Powers are recomputed in place; the active ones are copied, and cut
to the `maxValidators` highest stakes when there are more. -/
def rotateValidators (vs : ValidatorSet) : Option (List ValidatorUpdate × ValidatorSet) :=
  let m := refreshPowers vs.validators
  (cutToMax vs.maxValidators (m.vals.filter (isActive vs))).map fun c =>
    (c.filterMap toUpdate?, vs.withMap m)

structure GenesisValidator where
  address : String
  pubKey : List UInt8
  stake : Int

def initializeGenesisValidators (vs : ValidatorSet) (gvs : List GenesisValidator) (now : Time) :
    ValidatorSet :=
  vs.withMap (gvs.foldl (fun m gv => m.set (newValidator gv.address gv.pubKey gv.stake now))
    vs.validators)

def loadValidators (vs : ValidatorSet) (stored : Option (List Validator)) : ValidatorSet :=
  match stored with
  | none => vs
  | some l => vs.withMap (VMap.ofList l)

end OxyChain.Validators

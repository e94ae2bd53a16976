import OxyChain.Node.Recovery

/-! # What node startup does to the disk (`main`, `cometbft_node.go`, `execution/state.go`)

`main` runs `evm.Start`, whose `LoadState` opens the Pebble store at `evm_state`, before
`NewCometBFTNode`. The file system is a map from path to entry; what the code leaves to
others (the `cometbft` binary, the decoders, the stores) is a `Host`.
-/

namespace OxyChain.Startup

inductive Entry where
  | dir
  | file (content : String)
  deriving DecidableEq, Repr

abbrev Fs := String → Option Entry

def under (d p : String) : Bool := p == d || (d ++ "/").data.isPrefixOf p.data

theorem under_iff {d p : String} : under d p ↔ p = d ∨ (d ++ "/").data <+: p.data := by
  simp [under]

theorem under_self (d : String) : under d d := under_iff.2 (.inl rfl)

theorem under_trans {a b c : String} (h₁ : under a b) (h₂ : under b c) : under a c := by
  rcases under_iff.1 h₁ with rfl | h₁
  · exact h₂
  refine under_iff.2 (.inr ?_)
  rcases under_iff.1 h₂ with rfl | h₂
  · exact h₁
  · exact h₁.trans ((List.prefix_append _ _).trans (by simpa [String.data_append] using h₂))

theorem under_append (d : String) {s : String} (hs : s.data.head? = some '/') : under d (d ++ s) := by
  obtain ⟨t, ht⟩ : ∃ t, s.data = '/' :: t := by
    rcases h : s.data with _ | ⟨c, t⟩ <;> simp_all
  exact under_iff.2 (.inr (by simp [String.data_append, ht]))

theorem take_of_under {d p : String} {k : Nat} (hk : k ≤ d.data.length) (h : under d p) :
    p.data.take k = d.data.take k := by
  rcases under_iff.1 h with rfl | h
  · rfl
  have hn : k ≤ (d ++ "/").data.length := by rw [String.data_append, List.length_append]; omega
  calc p.data.take k = (p.data.take (d ++ "/").data.length).take k := by
        rw [List.take_take, min_eq_left hn]
    _ = (d ++ "/").data.take k := by rw [← List.prefix_iff_eq_take.1 h]
    _ = d.data.take k := by simp [String.data_append, List.take_append_of_le_length hk]

namespace Fs

variable (fs : Fs)

def stat (p : String) : Bool := (fs p).isSome

def writeFile (p c : String) : Fs := fun q => if q = p then some (.file c) else fs q

def remove (p : String) : Fs := fun q => if q = p then none else fs q

def removeAll (d : String) : Fs := fun q => if under d q then none else fs q

def mkdirAll (d : String) : Fs := fun q => if q = d ∧ fs q = none then some .dir else fs q

def rename (a b : String) : Fs := fun q => if q = b then fs a else if q = a then none else fs q

def Extends (fs' : Fs) : Prop := ∀ p, fs p ≠ none → fs' p = fs p

variable {fs}

theorem Extends.refl : fs.Extends fs := fun _ _ => rfl

theorem Extends.trans {fs₁ fs₂ : Fs} (h₁ : fs.Extends fs₁) (h₂ : fs₁.Extends fs₂) : fs.Extends fs₂ :=
  fun p hp => (h₂ p (h₁ p hp ▸ hp)).trans (h₁ p hp)

theorem extends_mkdirAll (d : String) : fs.Extends (fs.mkdirAll d) := fun p hp => by
  simp [mkdirAll, hp]

theorem extends_writeFile {p : String} (hp : fs p = none) (c : String) :
    fs.Extends (fs.writeFile p c) := fun q hq => by
  rw [writeFile, if_neg (fun e : q = p => hq (e ▸ hp))]

theorem mkdirAll_ne {d p : String} (h : p ≠ d) : fs.mkdirAll d p = fs p := by
  simp [mkdirAll, h]

theorem writeFile_ne {p q : String} (c : String) (h : q ≠ p) : fs.writeFile p c q = fs q :=
  if_neg h

theorem remove_ne {p q : String} (h : q ≠ p) : fs.remove p q = fs q := if_neg h

def Outside (d : String) (fs fs' : Fs) : Prop := ∀ p, under d p = false → fs' p = fs p

section Outside

variable {d : String} {fs₁ fs₂ : Fs}

theorem Outside.refl : fs.Outside d fs := fun _ _ => rfl

theorem Outside.trans (h₁ : fs.Outside d fs₁) (h₂ : fs₁.Outside d fs₂) : fs.Outside d fs₂ :=
  fun p hp => (h₂ p hp).trans (h₁ p hp)

theorem ne_of_under {p q : String} (hq : under d q) (hp : under d p = false) : p ≠ q := by
  rintro rfl
  rw [hq] at hp
  cases hp

/-! Each operation at a path below `d`, after changes outside `d`, leaves the outside as it
was. -/

theorem Outside.writeFile (h : fs.Outside d fs₁) {p : String} (hp : under d p) (c : String) :
    fs.Outside d (fs₁.writeFile p c) :=
  fun _ hq => (writeFile_ne c (ne_of_under hp hq)).trans (h _ hq)

theorem Outside.remove (h : fs.Outside d fs₁) {p : String} (hp : under d p) :
    fs.Outside d (fs₁.remove p) :=
  fun _ hq => (remove_ne (ne_of_under hp hq)).trans (h _ hq)

theorem Outside.mkdirAll (h : fs.Outside d fs₁) {p : String} (hp : under d p) :
    fs.Outside d (fs₁.mkdirAll p) :=
  fun _ hq => (mkdirAll_ne (ne_of_under hp hq)).trans (h _ hq)

theorem Outside.removeAll (h : fs.Outside d fs₁) {p : String} (hp : under d p) :
    fs.Outside d (fs₁.removeAll p) := fun q hq => by
  have : under p q = false := by
    by_contra hpq
    exact absurd (under_trans hp (by simpa using hpq)) (by simp [hq])
  simp [Fs.removeAll, this, h q hq]

theorem Outside.rename (h : fs.Outside d fs₁) {a b : String} (ha : under d a) (hb : under d b) :
    fs.Outside d (fs₁.rename a b) :=
  fun _ hq => by simp [Fs.rename, ne_of_under ha hq, ne_of_under hb hq, h _ hq]

theorem Outside.ite {c : Prop} [Decidable c] (ha : fs.Outside d fs₁) (hb : fs.Outside d fs₂) :
    fs.Outside d (if c then fs₁ else fs₂) := by
  split_ifs
  exacts [ha, hb]

end Outside

end Fs

/-! ## The paths -/

/-- `cometConfig.RootDir`, that is `cfg.DataDir/cometbft`, and the executor's data directory
(`storage.GetDataDir()`), with `evm_state` outside the first. -/
structure Layout where
  root : String
  evmDir : String
  apart : ∀ p, under (evmDir ++ "/evm_state") p → under root p = false

namespace Layout

variable (l : Layout)

def configDir : String := l.root ++ "/config"
def genesisFile : String := l.root ++ "/config/genesis.json"
def keyFile : String := l.root ++ "/config/priv_validator_key.json"
def nodeKeyFile : String := l.root ++ "/config/node_key.json"
def marker : String := l.root ++ "/config/.genesis_changed"
def dataDir : String := l.root ++ "/data"
def stateFile : String := l.root ++ "/data/priv_validator_state.json"
def stateDB : String := l.root ++ "/data/state.db"
def evmState : String := l.evmDir ++ "/evm_state"

variable {l}

theorem under_root (s : String) (hs : s.data.head? = some '/') : under l.root (l.root ++ s) :=
  under_append _ hs

theorem evmState_apart {p : String} (hp : under l.root p) : under l.evmState p = false := by
  by_contra h
  rw [l.apart p (Bool.not_eq_false _ ▸ h)] at hp
  cases hp

theorem root_append_ne {a b : String} (h : a ≠ b) : l.root ++ a ≠ l.root ++ b := fun e =>
  h (String.ext (List.append_cancel_left (congrArg String.data e)))

theorem root_ne_append {a : String} (h : a ≠ "") : l.root ≠ l.root ++ a := fun e => by
  have := congrArg String.length e
  rw [String.length_append] at this
  exact h (String.ext (List.length_eq_zero.1 (by change a.length = 0; omega)))

end Layout

/-! ## `NewCometBFTNode` -/

inductive Generated where
  | privValidatorKey
  | privValidatorState
  | nodeKey
  | genesis
  | genesisWithChainID
  | genesisWithValidator

/-- What the code leaves to others. -/
structure Host where
  /-- `cometbft init --home root`: the disk it leaves, `none` when the command fails. -/
  cometbftInit : Fs → Option Fs
  /-- `types.GenesisDocFromFile`: the number of genesis validators, `none` on an error. -/
  genesisValidators : Option Entry → Option Nat
  /-- `cometConfig.ValidateBasic()`. -/
  configValid : Bool
  /-- `privval.LoadFilePV`, which ends the process when it cannot load the files. -/
  loadFilePV : Fs → Bool
  /-- `p2p.LoadNodeKey`. -/
  loadNodeKey : Fs → Bool
  /-- `ethdbpebble.New` on `evm_state`, and again after the directory is removed. -/
  pebbleOpens : Bool
  pebbleReopens : Bool
  content : Generated → String

variable (h : Host) (l : Layout)

def exitMessage : String := "LoadFilePV: exit"

def emptyState : String := "\x7b\"height\":\"0\",\"round\":0,\"step\":0\x7d"

def generateKeys (fs : Fs) : Fs :=
  if fs.stat l.keyFile then fs
  else
    let fs := (fs.mkdirAll l.configDir).mkdirAll l.dataDir
    let fs := (fs.writeFile l.keyFile (h.content .privValidatorKey)).writeFile l.stateFile
      (h.content .privValidatorState)
    if fs.stat l.nodeKeyFile then fs else fs.writeFile l.nodeKeyFile (h.content .nodeKey)

def createCometBFTConfig (fs : Fs) : Fs × Except String Unit :=
  let fs := ((fs.mkdirAll l.configDir).mkdirAll l.dataDir).writeFile l.genesisFile
    (h.content .genesis)
  let fs := generateKeys h l fs
  if !fs.stat l.keyFile then (fs, .error ("keyFile no existe después de generateKeys: " ++ l.keyFile))
  else if !h.loadFilePV fs then (fs, .error exitMessage)
  else
    match h.genesisValidators (fs l.genesisFile) with
    | none => (fs, .error "error recargando genesis")
    | some _ => (fs.writeFile l.genesisFile (h.content .genesisWithValidator), .ok ())

def initializeCometBFT (fs : Fs) : Fs × Except String Unit :=
  match h.cometbftInit fs with
  | none => createCometBFTConfig h l fs
  | some fs =>
    match h.genesisValidators (fs l.genesisFile) with
    | none => (fs, .error "error cargando genesis")
    | some _ => (fs.writeFile l.genesisFile (h.content .genesisWithChainID), .ok ())

def replaceGenesis (fs : Fs) : Fs × Except String Unit :=
  if !h.loadFilePV fs then (fs, .error exitMessage)
  else
    let backup := l.stateFile ++ ".backup"
    let fs := fs.writeFile l.genesisFile (h.content .genesisWithValidator)
    let fs := if fs.stat l.stateFile then fs.rename l.stateFile backup else fs
    let fs := (fs.removeAll l.dataDir).mkdirAll l.dataDir
    let fs := if fs.stat backup then fs.rename backup l.stateFile else fs
    (fs.writeFile l.marker "genesis updated", .ok ())

def checkInitialized (fs : Fs) : Fs × Except String Unit :=
  if !fs.stat l.genesisFile || !fs.stat l.keyFile then
    let fs := if !fs.stat l.keyFile then generateKeys h l fs else fs
    if !fs.stat l.genesisFile then initializeCometBFT h l fs else (fs, .ok ())
  else
    match h.genesisValidators (fs l.genesisFile) with
    | none => (fs, .error "error cargando genesis")
    | some 0 => replaceGenesis h l fs
    | some (_ + 1) => (fs, .ok ())

def dropStateFile (fs : Fs) : Fs :=
  if fs.stat l.stateDB && fs.stat l.stateFile then fs.remove l.stateFile else fs

def ensureStateFile (fs : Fs) : Fs :=
  if !fs.stat l.stateFile then fs.writeFile l.stateFile emptyState else fs

def wipeBeforeNode (fs : Fs) : Fs :=
  let markerExists := fs.stat l.marker
  if markerExists || fs.stat l.stateDB then
    let fs := if fs.stat l.stateFile then fs.remove l.stateFile else fs
    let fs := (fs.removeAll l.dataDir).mkdirAll l.dataDir
    if markerExists then fs.remove l.marker else fs
  else fs

def loadAndWipe (fs : Fs) : Fs × Except String Unit :=
  if !h.configValid then (fs, .error "configuración inválida")
  else
    let fs := (dropStateFile l fs).mkdirAll l.dataDir
    if !fs.stat l.keyFile then (fs, .error ("private validator key file no existe: " ++ l.keyFile))
    else
      let fs := ensureStateFile l fs
      if !h.loadFilePV fs then (fs, .error exitMessage)
      else if !h.loadNodeKey fs then (fs, .error "error cargando node key")
      else (wipeBeforeNode l fs, .ok ())

def newCometBFTNode (fs : Fs) : Fs × Except String Unit :=
  match checkInitialized h l (fs.mkdirAll l.root) with
  | (fs, .error e) => (fs, .error e)
  | (fs, .ok ()) => loadAndWipe h l fs

/-- `LoadState` on the store at `evm_state`: `ethdbpebble.New`, which makes the directory when
it is missing; on an error the directory removed and a new store opened there. -/
def loadState (fs : Fs) : Fs × Except String Unit :=
  if h.pebbleOpens then (fs.mkdirAll l.evmState, .ok ())
  else
    let fs := fs.removeAll l.evmState
    if h.pebbleReopens then (fs.mkdirAll l.evmState, .ok ())
    else (fs, .error "error creando base de datos EVM (después de limpieza)")

def startup (fs : Fs) : Fs × Except String Unit :=
  match loadState h l fs with
  | (fs, .error e) => (fs, .error e)
  | (fs, .ok ()) => newCometBFTNode h l fs

/-- `main` up to the consensus engine on both parts of the disk: `evm.Start` opens the store
at `evm_state` and then the state `state_meta` names (`Node.boot`), and `NewCometBFTNode`
follows; an error in either ends the process. -/
def mainStart (evm : Execution.Evm) (cfg : Node.Config) (fs : Fs) (d : Node.Disk) :
    Fs × Option Abci.Node :=
  match loadState h l fs with
  | (fs, .error _) => (fs, none)
  | (fs, .ok ()) =>
    match Node.boot evm cfg d with
    | none => (fs, none)
    | some n =>
      match newCometBFTNode h l fs with
      | (fs, .error _) => (fs, none)
      | (fs, .ok ()) => (fs, some n)

/-! ## What startup keeps and what it removes -/

variable {h l} {fs : Fs}

theorem Fs.Extends.stat {fs' : Fs} (he : fs.Extends fs') {p : String} (hp : fs.stat p) :
    fs'.stat p := by
  simp only [Fs.stat, Option.isSome_iff_ne_none] at hp ⊢
  rwa [he p hp]

theorem stateFile_ne_stateDB : l.stateFile ≠ l.stateDB := Layout.root_append_ne (by decide)
theorem stateFile_ne_marker : l.stateFile ≠ l.marker := Layout.root_append_ne (by decide)
theorem dataDir_ne_stateDB : l.dataDir ≠ l.stateDB := Layout.root_append_ne (by decide)
theorem dataDir_ne_marker : l.dataDir ≠ l.marker := Layout.root_append_ne (by decide)
theorem stateDB_ne_root : l.stateDB ≠ l.root := (Layout.root_ne_append (by decide)).symm
theorem marker_ne_root : l.marker ≠ l.root := (Layout.root_ne_append (by decide)).symm

theorem ensureStateFile_ne {p : String} (hp : p ≠ l.stateFile) : ensureStateFile l fs p = fs p := by
  unfold ensureStateFile
  split_ifs
  · exact Fs.writeFile_ne _ hp
  · rfl

theorem ensureStateFile_extends : fs.Extends (ensureStateFile l fs) := by
  unfold ensureStateFile
  split_ifs with hs
  · exact Fs.extends_writeFile (by simpa [Fs.stat] using hs) _
  · exact .refl

theorem dropStateFile_ne {p : String} (hp : p ≠ l.stateFile) : dropStateFile l fs p = fs p := by
  unfold dropStateFile
  split_ifs
  · exact Fs.remove_ne hp
  · rfl

theorem prepared_stat {p : String} (hs : p ≠ l.stateFile) (hd : p ≠ l.dataDir) :
    (ensureStateFile l ((dropStateFile l fs).mkdirAll l.dataDir)).stat p = fs.stat p := by
  simp only [Fs.stat, ensureStateFile_ne hs, Fs.mkdirAll_ne hd, dropStateFile_ne hs]

theorem wipeBeforeNode_of_absent (hm : fs.stat l.marker = false) (hdb : fs.stat l.stateDB = false) :
    wipeBeforeNode l fs = fs := by
  simp [wipeBeforeNode, hm, hdb]

theorem wipeBeforeNode_empties (hw : (fs.stat l.marker || fs.stat l.stateDB) = true) {p : String}
    (hp : under l.dataDir p) (hne : p ≠ l.dataDir) : wipeBeforeNode l fs p = none := by
  have hclear : ∀ fs' : Fs, (fs'.removeAll l.dataDir).mkdirAll l.dataDir p = none := fun fs' => by
    rw [Fs.mkdirAll_ne hne]
    simp [Fs.removeAll, hp]
  simp only [wipeBeforeNode, hw, if_true]
  split_ifs <;> simp only [Fs.remove, hclear, ite_self]

theorem loadAndWipe_extends (hm : fs.stat l.marker = false) (hdb : fs.stat l.stateDB = false) :
    fs.Extends (loadAndWipe h l fs).1 := by
  have hd : dropStateFile l fs = fs := by simp [dropStateFile, hdb]
  have h₁ : fs.Extends (ensureStateFile l (fs.mkdirAll l.dataDir)) :=
    (Fs.extends_mkdirAll _).trans ensureStateFile_extends
  have hw : wipeBeforeNode l (ensureStateFile l (fs.mkdirAll l.dataDir)) =
      ensureStateFile l (fs.mkdirAll l.dataDir) := by
    refine wipeBeforeNode_of_absent ?_ ?_
    · rw [← hd, prepared_stat stateFile_ne_marker.symm dataDir_ne_marker.symm, hm]
    · rw [← hd, prepared_stat stateFile_ne_stateDB.symm dataDir_ne_stateDB.symm, hdb]
  unfold loadAndWipe
  rw [hd]
  dsimp only
  split_ifs
  · exact .refl
  · exact Fs.extends_mkdirAll _
  · exact h₁
  · exact h₁
  · rw [hw]
    exact h₁

theorem loadAndWipe_empties (hw : fs.stat l.stateDB ∨ fs.stat l.marker)
    (hok : (loadAndWipe h l fs).2 = .ok ()) {p : String} (hp : under l.dataDir p)
    (hne : p ≠ l.dataDir) : (loadAndWipe h l fs).1 p = none := by
  have hw' : ((ensureStateFile l ((dropStateFile l fs).mkdirAll l.dataDir)).stat l.marker ||
      (ensureStateFile l ((dropStateFile l fs).mkdirAll l.dataDir)).stat l.stateDB) = true := by
    rw [prepared_stat stateFile_ne_marker.symm dataDir_ne_marker.symm,
      prepared_stat stateFile_ne_stateDB.symm dataDir_ne_stateDB.symm]
    simpa [or_comm] using hw
  unfold loadAndWipe at hok ⊢
  dsimp only at hok ⊢
  split_ifs at hok ⊢
  exact wipeBeforeNode_empties hw' hp hne

theorem checkInitialized_of_validators (hg : fs.stat l.genesisFile) (hk : fs.stat l.keyFile) {k : Nat}
    (hv : h.genesisValidators (fs l.genesisFile) = some (k + 1)) :
    checkInitialized h l fs = (fs, .ok ()) := by
  simp [checkInitialized, hg, hk, hv]

theorem checkInitialized_wipes (hg : fs.stat l.genesisFile) (hk : fs.stat l.keyFile)
    (hw : fs.stat l.stateDB ∨ fs.stat l.marker) (hok : (checkInitialized h l fs).2 = .ok ()) :
    (checkInitialized h l fs).1.stat l.stateDB ∨ (checkInitialized h l fs).1.stat l.marker := by
  simp only [checkInitialized, hg, hk, Bool.not_true, Bool.or_false, Bool.false_eq_true,
    if_false] at hok ⊢
  split at hok
  · cases hok
  · by_cases hpv : h.loadFilePV fs
    · simp [replaceGenesis, hpv, Fs.stat, Fs.writeFile]
    · simp [replaceGenesis, hpv] at hok
  · exact hw

theorem newCometBFTNode_of_ok (hok : (checkInitialized h l (fs.mkdirAll l.root)).2 = .ok ()) :
    newCometBFTNode h l fs = loadAndWipe h l (checkInitialized h l (fs.mkdirAll l.root)).1 := by
  unfold newCometBFTNode
  rcases hc : checkInitialized h l (fs.mkdirAll l.root) with ⟨fs₁, e | u⟩
  · rw [hc] at hok
    cases hok
  · cases u
    rfl

theorem newCometBFTNode_of_error (he : (checkInitialized h l (fs.mkdirAll l.root)).2 ≠ .ok ()) :
    newCometBFTNode h l fs = checkInitialized h l (fs.mkdirAll l.root) := by
  unfold newCometBFTNode
  rcases hc : checkInitialized h l (fs.mkdirAll l.root) with ⟨fs₁, e | u⟩
  · rfl
  · rw [hc] at he
    cases u
    exact absurd rfl he

theorem newCometBFTNode_extends (hg : fs.stat l.genesisFile) (hk : fs.stat l.keyFile) {k : Nat}
    (hv : h.genesisValidators (fs l.genesisFile) = some (k + 1)) (hdb : fs.stat l.stateDB = false)
    (hm : fs.stat l.marker = false) : fs.Extends (newCometBFTNode h l fs).1 := by
  have h₀ : fs.Extends (fs.mkdirAll l.root) := Fs.extends_mkdirAll _
  have hc : checkInitialized h l (fs.mkdirAll l.root) = (fs.mkdirAll l.root, .ok ()) :=
    checkInitialized_of_validators (h₀.stat hg) (h₀.stat hk)
      (by rwa [h₀ _ (Option.isSome_iff_ne_none.1 hg)])
  rw [newCometBFTNode_of_ok (by rw [hc]), hc]
  exact h₀.trans (loadAndWipe_extends
    (by simpa [Fs.stat, Fs.mkdirAll_ne (marker_ne_root (l := l))] using hm)
    (by simpa [Fs.stat, Fs.mkdirAll_ne (stateDB_ne_root (l := l))] using hdb))

theorem newCometBFTNode_empties (hg : fs.stat l.genesisFile) (hk : fs.stat l.keyFile)
    (hw : fs.stat l.stateDB ∨ fs.stat l.marker) (hok : (newCometBFTNode h l fs).2 = .ok ())
    {p : String} (hp : under l.dataDir p) (hne : p ≠ l.dataDir) :
    (newCometBFTNode h l fs).1 p = none := by
  have h₀ : fs.Extends (fs.mkdirAll l.root) := Fs.extends_mkdirAll _
  have hc : (checkInitialized h l (fs.mkdirAll l.root)).2 = .ok () := by
    by_contra he
    rw [newCometBFTNode_of_error he] at hok
    exact he hok
  rw [newCometBFTNode_of_ok hc] at hok ⊢
  exact loadAndWipe_empties
    (checkInitialized_wipes (h₀.stat hg) (h₀.stat hk) (hw.imp h₀.stat h₀.stat) hc) hok hp hne

/-! ## What `NewCometBFTNode` leaves alone -/

section Outside

theorem Layout.under_genesisFile : under l.root l.genesisFile := Layout.under_root _ (by decide)
theorem Layout.under_keyFile : under l.root l.keyFile := Layout.under_root _ (by decide)
theorem Layout.under_marker : under l.root l.marker := Layout.under_root _ (by decide)
theorem Layout.under_dataDir : under l.root l.dataDir := Layout.under_root _ (by decide)
theorem Layout.under_stateFile : under l.root l.stateFile := Layout.under_root _ (by decide)
theorem Layout.under_stateDB : under l.root l.stateDB := Layout.under_root _ (by decide)

theorem Layout.under_backup : under l.root (l.stateFile ++ ".backup") := by
  rw [Layout.stateFile, String.append_assoc]
  exact Layout.under_root _ (by decide)

theorem replaceGenesis_outside : fs.Outside l.root (replaceGenesis h l fs).1 := by
  unfold replaceGenesis
  split_ifs
  · exact .refl
  · have hw : fs.Outside l.root (fs.writeFile l.genesisFile (h.content .genesisWithValidator)) :=
      Fs.Outside.refl.writeFile Layout.under_genesisFile _
    refine Fs.Outside.writeFile (Fs.Outside.ite (Fs.Outside.rename ?_ Layout.under_backup
      Layout.under_stateFile) ?_) Layout.under_marker _ <;>
    exact Fs.Outside.mkdirAll (Fs.Outside.removeAll (Fs.Outside.ite
      (hw.rename Layout.under_stateFile Layout.under_backup) hw) Layout.under_dataDir) Layout.under_dataDir

theorem checkInitialized_outside (hg : fs.stat l.genesisFile) (hk : fs.stat l.keyFile) :
    fs.Outside l.root (checkInitialized h l fs).1 := by
  simp only [checkInitialized, hg, hk, Bool.not_true, Bool.or_false, Bool.false_eq_true, if_false]
  split
  · exact .refl
  · exact replaceGenesis_outside
  · exact .refl

theorem wipeBeforeNode_outside {fs₁ : Fs} (h₁ : fs.Outside l.root fs₁) :
    fs.Outside l.root (wipeBeforeNode l fs₁) := by
  unfold wipeBeforeNode
  dsimp only
  refine .ite (Fs.Outside.ite (Fs.Outside.remove ?_ Layout.under_marker) ?_) h₁ <;>
  exact Fs.Outside.mkdirAll (Fs.Outside.removeAll (Fs.Outside.ite (h₁.remove Layout.under_stateFile) h₁)
    Layout.under_dataDir) Layout.under_dataDir

theorem loadAndWipe_outside : fs.Outside l.root (loadAndWipe h l fs).1 := by
  have h₁ : fs.Outside l.root ((dropStateFile l fs).mkdirAll l.dataDir) :=
    (Fs.Outside.ite (Fs.Outside.refl.remove Layout.under_stateFile) .refl).mkdirAll Layout.under_dataDir
  have h₂ : fs.Outside l.root (ensureStateFile l ((dropStateFile l fs).mkdirAll l.dataDir)) :=
    .ite (h₁.writeFile Layout.under_stateFile _) h₁
  unfold loadAndWipe
  dsimp only
  split_ifs
  · exact .refl
  · exact h₁
  · exact h₂
  · exact h₂
  · exact wipeBeforeNode_outside h₂

theorem newCometBFTNode_outside (hg : fs.stat l.genesisFile) (hk : fs.stat l.keyFile) :
    fs.Outside l.root (newCometBFTNode h l fs).1 := by
  have h₀ : fs.Extends (fs.mkdirAll l.root) := Fs.extends_mkdirAll _
  have h₁ := (Fs.Outside.refl.mkdirAll (under_self l.root)).trans
    (checkInitialized_outside (h := h) (h₀.stat hg) (h₀.stat hk))
  unfold newCometBFTNode
  split <;> rename_i heq <;> rw [heq] at h₁
  · exact h₁
  · exact h₁.trans loadAndWipe_outside

end Outside

/-! ## `LoadState` on `evm_state` -/

theorem loadState_outside {p : String} (hp : under l.root p) : (loadState h l fs).1 p = fs p := by
  have ha := Layout.evmState_apart hp
  have hne := Fs.ne_of_under (under_self l.evmState) ha
  unfold loadState
  split_ifs <;> simp [Fs.mkdirAll_ne hne, Fs.removeAll, ha]

theorem loadState_stat {p : String} (hp : under l.root p) : (loadState h l fs).1.stat p = fs.stat p := by
  simp only [Fs.stat, loadState_outside hp]

theorem startup_of_ok (hok : (startup h l fs).2 = .ok ()) :
    startup h l fs = newCometBFTNode h l (loadState h l fs).1 := by
  unfold startup at hok ⊢
  rcases hl : loadState h l fs with ⟨fs₁, e | u⟩
  · rw [hl] at hok
    cases hok
  · rfl

/-- Startup of an initialized node. When the genesis has validators, neither
`data/state.db` nor the marker exists and the store at `evm_state` opens, it only adds
entries. When it gets through with `data/state.db` or the marker present, nothing is left
below `data`. When the store does not open, nothing is left below `evm_state`, which is a
new empty store if the second open succeeds; if it fails, so does startup. -/
theorem startup_disk_frame (h : Host) (l : Layout) (fs : Fs) (hg : fs.stat l.genesisFile)
    (hk : fs.stat l.keyFile) :
    ((∃ k, h.genesisValidators (fs l.genesisFile) = some (k + 1)) →
        fs.stat l.stateDB = false → fs.stat l.marker = false → h.pebbleOpens = true →
        fs.Extends (startup h l fs).1) ∧
      ((fs.stat l.stateDB ∨ fs.stat l.marker) → (startup h l fs).2 = .ok () →
        ∀ p, under l.dataDir p → p ≠ l.dataDir → (startup h l fs).1 p = none) ∧
      (h.pebbleOpens = false →
        (∀ p, under l.evmState p → p ≠ l.evmState → (startup h l fs).1 p = none) ∧
        (startup h l fs).1 l.evmState = (if h.pebbleReopens then some .dir else none) ∧
        (h.pebbleReopens = false → (startup h l fs).2 ≠ .ok ())) := by
  have hg₁ : (loadState h l fs).1.stat l.genesisFile := by rwa [loadState_stat Layout.under_genesisFile]
  have hk₁ : (loadState h l fs).1.stat l.keyFile := by rwa [loadState_stat Layout.under_keyFile]
  refine ⟨fun ⟨_, hv⟩ hdb hm hopen => ?_, fun hw hok p hp hne => ?_, fun hopen => ?_⟩
  · have hl : loadState h l fs = (fs.mkdirAll l.evmState, .ok ()) := by simp [loadState, hopen]
    have hs : startup h l fs = newCometBFTNode h l (loadState h l fs).1 := by simp only [startup, hl]
    rw [hs]
    refine (show fs.Extends (loadState h l fs).1 by rw [hl]; exact Fs.extends_mkdirAll _).trans
      (newCometBFTNode_extends hg₁ hk₁ (by rwa [loadState_outside Layout.under_genesisFile]) ?_ ?_)
    · rwa [loadState_stat Layout.under_stateDB]
    · rwa [loadState_stat Layout.under_marker]
  · have hs := startup_of_ok hok
    rw [hs] at hok ⊢
    exact newCometBFTNode_empties hg₁ hk₁
      (by rwa [loadState_stat Layout.under_stateDB, loadState_stat Layout.under_marker]) hok hp hne
  · have hrm : ∀ p, under l.evmState p → fs.removeAll l.evmState p = none := fun p hp => by
      simp [Fs.removeAll, hp]
    cases hre : h.pebbleReopens
    · have hs : startup h l fs = (fs.removeAll l.evmState,
          .error "error creando base de datos EVM (después de limpieza)") := by
        simp [startup, loadState, hopen, hre]
      rw [hs]
      exact ⟨fun p hp _ => hrm p hp, hrm _ (under_self _), fun _ => by simp⟩
    · have hl : loadState h l fs = ((fs.removeAll l.evmState).mkdirAll l.evmState, .ok ()) := by
        simp [loadState, hopen, hre]
      have hs : startup h l fs = newCometBFTNode h l (loadState h l fs).1 := by simp only [startup, hl]
      have ho := newCometBFTNode_outside (h := h) hg₁ hk₁
      rw [hs]
      refine ⟨fun p hp hne => ?_, ?_, fun h => absurd h (by simp)⟩
      · rw [ho p (l.apart p hp), hl]
        simp [Fs.mkdirAll_ne hne, hrm p hp]
      · rw [ho l.evmState (l.apart _ (under_self _)), hl]
        simp [Fs.mkdirAll, hrm _ (under_self _)]

/-! ## Startup and the node -/

/-- `main` comes up exactly when startup on the file system gets through and `Node.boot`
opens the state, that is when `state_meta` names the zero root or the empty state's. It
then runs the node a restart of `Node.run` brings up, on the file system `startup` leaves. -/
theorem mainStart_comes_up (h : Host) (l : Layout) (evm : Execution.Evm) (cfg : Node.Config) (fs : Fs)
    (d : Node.Disk) :
    (∀ n, (mainStart h l evm cfg fs d).2 = some n ↔
        (startup h l fs).2 = .ok () ∧ Node.boot evm cfg d = some n) ∧
      ((mainStart h l evm cfg fs d).2.isSome ↔
        (startup h l fs).2 = .ok () ∧ (d.root = 0 ∨ d.root = evm.intermediateRoot Execution.World.empty)) ∧
      ((mainStart h l evm cfg fs d).2.isSome → (mainStart h l evm cfg fs d).1 = (startup h l fs).1) := by
  have hboot : (Node.boot evm cfg d).isSome ↔
      (d.root = 0 ∨ d.root = evm.intermediateRoot Execution.World.empty) := by
    rw [Node.boot_eq]
    split_ifs with hc <;> simp [hc]
  rw [← hboot]
  unfold mainStart startup
  rcases loadState h l fs with ⟨fs₁, e | ⟨⟩⟩
  · simp
  · rcases Node.boot evm cfg d with _ | n
    · simp
    · rcases hn : newCometBFTNode h l fs₁ with ⟨fs₂, e | ⟨⟩⟩ <;> simp [hn]

/-! ## A directory after blocks were made -/

def usedLayout : Layout :=
  ⟨"/n/cometbft", "/n", fun p h₁ => by
    by_contra h₂
    have e₁ := take_of_under (k := 4) (by decide) h₁
    have e₂ := take_of_under (k := 4) (by decide) (show under "/n/cometbft" p by simpa using h₂)
    exact absurd (e₁.symm.trans e₂) (by decide)⟩

def blockstoreDB : String := usedLayout.dataDir ++ "/blockstore.db"

def evmLog : String := usedLayout.evmState ++ "/000001.log"

def usedDisk : Fs := fun p =>
  if p = usedLayout.stateFile then some (.file "\x7b\"height\":\"100\",\"round\":0,\"step\":3\x7d")
  else if p = usedLayout.genesisFile ∨ p = usedLayout.keyFile ∨ p = usedLayout.nodeKeyFile ∨ p = evmLog then
    some (.file "\x7b\x7d")
  else if p = usedLayout.root ∨ p = usedLayout.configDir ∨ p = usedLayout.dataDir ∨
      p = usedLayout.stateDB ∨ p = blockstoreDB ∨ p = usedLayout.evmState then some .dir
  else none

def plainHost : Host :=
  ⟨fun _ => none, fun _ => some 1, true, fun _ => true, fun _ => true, true, true, fun _ => "\x7b\x7d"⟩

def reopeningHost : Host := { plainHost with pebbleOpens := false }

theorem startup_disk_frame_used :
    usedDisk.stat usedLayout.genesisFile ∧ usedDisk.stat usedLayout.keyFile ∧
      (((∃ k, plainHost.genesisValidators (usedDisk usedLayout.genesisFile) = some (k + 1)) →
          usedDisk.stat usedLayout.stateDB = false → usedDisk.stat usedLayout.marker = false →
          plainHost.pebbleOpens = true →
          usedDisk.Extends (startup plainHost usedLayout usedDisk).1) ∧
        ((usedDisk.stat usedLayout.stateDB ∨ usedDisk.stat usedLayout.marker) →
          (startup plainHost usedLayout usedDisk).2 = .ok () →
          ∀ p, under usedLayout.dataDir p → p ≠ usedLayout.dataDir →
            (startup plainHost usedLayout usedDisk).1 p = none) ∧
        (plainHost.pebbleOpens = false →
          (∀ p, under usedLayout.evmState p → p ≠ usedLayout.evmState →
            (startup plainHost usedLayout usedDisk).1 p = none) ∧
          (startup plainHost usedLayout usedDisk).1 usedLayout.evmState =
            (if plainHost.pebbleReopens then some .dir else none) ∧
          (plainHost.pebbleReopens = false → (startup plainHost usedLayout usedDisk).2 ≠ .ok ()))) :=
  ⟨by decide, by decide, startup_disk_frame plainHost usedLayout usedDisk (by decide) (by decide)⟩

theorem startup_removes_chain_data :
    (startup plainHost usedLayout usedDisk).2 = .ok () ∧
      usedDisk.stat usedLayout.stateDB ∧ (startup plainHost usedLayout usedDisk).1 usedLayout.stateDB = none ∧
      usedDisk.stat blockstoreDB ∧ (startup plainHost usedLayout usedDisk).1 blockstoreDB = none ∧
      usedDisk.stat usedLayout.stateFile ∧
      (startup plainHost usedLayout usedDisk).1 usedLayout.stateFile = none ∧
      (startup reopeningHost usedLayout usedDisk).2 = .ok () ∧ usedDisk.stat evmLog ∧
      (startup reopeningHost usedLayout usedDisk).1 evmLog = none :=
  ⟨rfl, by decide, by decide, by decide, by decide, by decide, by decide, rfl, by decide, by decide⟩

end OxyChain.Startup

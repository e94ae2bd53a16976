import OxyChain.Hex

/-! # The health checker (`internal/health/health.go`) and its endpoints

A map of component statuses, in Go's iteration order, and four flags, of which the mesh
flag is written and never read; the timestamps no decision uses are left out.
-/

namespace OxyChain.Health

structure ComponentStatus where
  status : String
  message : String
  deriving DecidableEq, Repr

/-! ## The component map -/

/-- `map[string]ComponentStatus`: entries with distinct names, in iteration order. -/
structure Components where
  entries : List (String × ComponentStatus)
  keyed : (entries.map (·.1)).Nodup

namespace Components

def empty : Components := ⟨[], List.nodup_nil⟩

def set (m : Components) (name : String) (c : ComponentStatus) : Components :=
  if h : m.entries.any (·.1 == name) then
    ⟨m.entries.map (fun p => if p.1 = name then (name, c) else p), by
      rw [List.map_map]
      have : ((·.1) ∘ fun p : String × ComponentStatus => if p.1 = name then (name, c) else p) =
          (·.1) := funext fun p => by by_cases hp : p.1 = name <;> simp [hp]
      rw [this]
      exact m.keyed⟩
  else
    ⟨m.entries ++ [(name, c)], by
      rw [List.map_append, List.nodup_append]
      refine ⟨m.keyed, List.nodup_singleton _, ?_⟩
      simp only [List.any_eq_true, beq_iff_eq, not_exists, not_and] at h
      simpa [List.disjoint_singleton, List.mem_map] using fun x hx => h (name, x) hx rfl⟩

variable {m : Components} {name n : String} {c d : ComponentStatus}

theorem mem_set (h : (n, d) ∈ (m.set name c).entries) :
    (n = name ∧ d = c) ∨ ((n, d) ∈ m.entries ∧ n ≠ name) := by
  unfold set at h
  split at h
  · obtain ⟨p, hp, he⟩ := List.mem_map.1 h
    by_cases hpn : p.1 = name
    · simp only [hpn, if_true, Prod.mk.injEq] at he
      exact .inl ⟨he.1.symm, he.2.symm⟩
    · simp only [hpn, if_false] at he
      subst he
      exact .inr ⟨hp, hpn⟩
  · rename_i hany
    rcases List.mem_append.1 h with h | h
    · exact .inr ⟨h, fun hn => hany (List.any_eq_true.2 ⟨(n, d), h, by simp [hn]⟩)⟩
    · simp only [List.mem_singleton, Prod.mk.injEq] at h
      exact .inl h

end Components

/-! ## The checker -/

structure HealthChecker where
  components : Components
  blockHeight : Nat
  peers : Int
  storageHealthy : Bool
  evmHealthy : Bool
  consensusHealthy : Bool
  meshHealthy : Bool

def newHealthChecker : HealthChecker := ⟨.empty, 0, 0, false, false, false, false⟩

structure HealthStatus where
  status : String
  components : List (String × ComponentStatus)
  blockHeight : Nat
  peers : Int

def scanComponents : List ComponentStatus → String × Bool × Bool → String × Bool × Bool
  | [], acc => acc
  | c :: cs, (s, allHealthy, anyWarning) =>
    if c.status = "error" then ("unhealthy", false, anyWarning)
    else if c.status = "warning" then scanComponents cs (s, allHealthy, true)
    else scanComponents cs (s, allHealthy, anyWarning)

def verdict (r : String × Bool × Bool) : String := if r.2.2 && r.2.1 then "degraded" else r.1

def checkStatus (entries : List (String × ComponentStatus)) (storage evm consensus : Bool) :
    String :=
  let status := verdict (scanComponents (entries.map (·.2)) ("healthy", true, false))
  if !storage || !evm || !consensus then "unhealthy" else status

def checkHealth (h : HealthChecker) : HealthStatus :=
  ⟨checkStatus h.components.entries h.storageHealthy h.evmHealthy h.consensusHealthy,
    h.components.entries, h.blockHeight, h.peers⟩

def updateComponent (h : HealthChecker) (name status message : String) : HealthChecker :=
  { h with components := h.components.set name ⟨status, message⟩ }

def setBlockHeight (h : HealthChecker) (height : Nat) : HealthChecker := { h with blockHeight := height }

def setPeers (h : HealthChecker) (count : Int) : HealthChecker := { h with peers := count }

def setComponentHealth (h : HealthChecker) (name okMessage badStatus badMessage : String)
    (healthy : Bool) : HealthChecker :=
  let c : ComponentStatus := if healthy then ⟨"ok", okMessage⟩ else ⟨badStatus, badMessage⟩
  { h with components := h.components.set name c }

def setStorageHealth (h : HealthChecker) (healthy : Bool) : HealthChecker :=
  { (setComponentHealth h "storage" "Storage operativo" "error" "Storage no disponible" healthy) with
    storageHealthy := healthy }

def setEVMHealth (h : HealthChecker) (healthy : Bool) : HealthChecker :=
  { (setComponentHealth h "evm" "EVM operativo" "error" "EVM no disponible" healthy) with
    evmHealthy := healthy }

def setConsensusHealth (h : HealthChecker) (healthy : Bool) : HealthChecker :=
  { (setComponentHealth h "consensus" "Consenso operativo" "error" "Consenso no disponible" healthy) with
    consensusHealthy := healthy }

def setMeshHealth (h : HealthChecker) (healthy : Bool) : HealthChecker :=
  { (setComponentHealth h "mesh" "Mesh network operativa" "warning" "Mesh network degradada" healthy) with
    meshHealthy := healthy }

def isHealthy (h : HealthChecker) : Bool := (checkHealth h).status = "healthy"

def isLive (h : HealthChecker) : Bool := h.storageHealthy || h.evmHealthy || h.consensusHealthy

def isReady (h : HealthChecker) : Bool := h.storageHealthy && h.evmHealthy && h.consensusHealthy

/-! ## The endpoints (`rest_server.go`) -/

def HealthChecker.reportsUp (h : HealthChecker) : Bool :=
  (checkHealth h).status != "unhealthy" && isLive h && isReady h

def handleHealth (h : HealthChecker) (method : String) : Nat :=
  if method ≠ "GET" then 405
  else if (checkHealth h).status = "unhealthy" then 503 else 200

def handleLiveness (h : HealthChecker) (method : String) : Nat :=
  if method ≠ "GET" then 405 else if isLive h then 200 else 503

def handleReadiness (h : HealthChecker) (method : String) : Nat :=
  if method ≠ "GET" then 405 else if isReady h then 200 else 503

/-! ## The verdict -/

def isError (c : ComponentStatus) : Bool := c.status = "error"

def isWarning (c : ComponentStatus) : Bool := c.status = "warning"

theorem any_eq_of_perm {α : Type} {l l' : List α} (h : l.Perm l') (p : α → Bool) :
    l.any p = l'.any p := by
  rw [Bool.eq_iff_iff, List.any_eq_true, List.any_eq_true]
  exact ⟨fun ⟨x, hx, hp⟩ => ⟨x, h.subset hx, hp⟩, fun ⟨x, hx, hp⟩ => ⟨x, h.symm.subset hx, hp⟩⟩

theorem scanComponents_verdict (cs : List ComponentStatus) (w : Bool) :
    verdict (scanComponents cs ("healthy", true, w)) =
      if cs.any isError then "unhealthy"
      else if w || cs.any isWarning then "degraded" else "healthy" := by
  induction cs generalizing w with
  | nil => cases w <;> rfl
  | cons c cs ih =>
    by_cases he : c.status = "error"
    · simp [scanComponents, verdict, he, isError]
    · by_cases hw : c.status = "warning"
      · simpa [scanComponents, he, hw, isError, isWarning] using ih true
      · simpa [scanComponents, he, hw, isError, isWarning] using ih w

theorem checkStatus_perm (h : HealthChecker) {l : List (String × ComponentStatus)}
    (hl : l.Perm h.components.entries) :
    checkStatus l h.storageHealthy h.evmHealthy h.consensusHealthy =
      if (h.components.entries.map (·.2)).any isError || !isReady h then "unhealthy"
      else if (h.components.entries.map (·.2)).any isWarning then "degraded" else "healthy" := by
  have hflags : (!h.storageHealthy || !h.evmHealthy || !h.consensusHealthy) = !isReady h := by
    unfold isReady
    cases h.storageHealthy <;> cases h.evmHealthy <;> rfl
  rw [checkStatus, hflags, scanComponents_verdict, Bool.false_or, any_eq_of_perm (hl.map _),
    any_eq_of_perm (hl.map _)]
  cases isReady h
  · rw [Bool.not_false, Bool.or_true, if_pos rfl, if_pos rfl]
  · rw [Bool.not_true, Bool.or_false, if_neg Bool.false_ne_true]

/-- `CheckHealth`'s verdict, whatever the map's iteration order: `"unhealthy"` when a
component is in `"error"` or a critical flag is down, else `"degraded"` when a component is
in `"warning"`, else `"healthy"`. -/
theorem checkHealth_status (h : HealthChecker) (order : List (String × ComponentStatus))
    (ho : order.Perm h.components.entries) :
    checkStatus order h.storageHealthy h.evmHealthy h.consensusHealthy = (checkHealth h).status ∧
    (checkHealth h).status =
      if (h.components.entries.map (·.2)).any isError || !isReady h then "unhealthy"
      else if (h.components.entries.map (·.2)).any isWarning then "degraded" else "healthy" :=
  ⟨(checkStatus_perm h ho).trans (checkStatus_perm h (List.Perm.refl _)).symm,
    checkStatus_perm h (List.Perm.refl _)⟩

def meshDownChecker : HealthChecker := setMeshHealth (setStorageHealth newHealthChecker true) false

theorem checkHealth_status_reversed :
    meshDownChecker.components.entries.reverse.Perm meshDownChecker.components.entries ∧
    checkStatus meshDownChecker.components.entries.reverse meshDownChecker.storageHealthy
        meshDownChecker.evmHealthy meshDownChecker.consensusHealthy = (checkHealth meshDownChecker).status ∧
    (checkHealth meshDownChecker).status =
      if (meshDownChecker.components.entries.map (·.2)).any isError || !isReady meshDownChecker then
        "unhealthy"
      else if (meshDownChecker.components.entries.map (·.2)).any isWarning then "degraded" else "healthy" :=
  ⟨List.reverse_perm _, checkHealth_status _ _ (List.reverse_perm _)⟩

/-! ## Runs of the checker's methods -/

inductive HealthCall where
  | updateComponent (name status message : String)
  | setBlockHeight (height : Nat)
  | setPeers (count : Int)
  | setStorageHealth (healthy : Bool)
  | setEVMHealth (healthy : Bool)
  | setConsensusHealth (healthy : Bool)
  | setMeshHealth (healthy : Bool)
  deriving DecidableEq, Repr

def HealthCall.apply (h : HealthChecker) : HealthCall → HealthChecker
  | .updateComponent n s m => Health.updateComponent h n s m
  | .setBlockHeight x => Health.setBlockHeight h x
  | .setPeers x => Health.setPeers h x
  | .setStorageHealth b => Health.setStorageHealth h b
  | .setEVMHealth b => Health.setEVMHealth h b
  | .setConsensusHealth b => Health.setConsensusHealth h b
  | .setMeshHealth b => Health.setMeshHealth h b

def HealthCall.writesError : HealthCall → Bool
  | .updateComponent _ s _ => s = "error"
  | _ => false

def runHealth (h : HealthChecker) (calls : List HealthCall) : HealthChecker :=
  calls.foldl HealthCall.apply h

def Mirrors (h : HealthChecker) : Prop :=
  ∀ n c, (n, c) ∈ h.components.entries → isError c = true →
    (n = "storage" ∧ h.storageHealthy = false) ∨ (n = "evm" ∧ h.evmHealthy = false) ∨
      (n = "consensus" ∧ h.consensusHealthy = false)

theorem Mirrors.not_ready {h : HealthChecker} (hm : Mirrors h) {n : String} {c : ComponentStatus}
    (hc : (n, c) ∈ h.components.entries) (he : isError c = true) : isReady h = false := by
  rcases hm n c hc he with ⟨-, hf⟩ | ⟨-, hf⟩ | ⟨-, hf⟩ <;> simp [isReady, hf]

theorem Mirrors.set_critical {h : HealthChecker} (hm : Mirrors h) {name okMessage badMessage : String}
    (healthy : Bool) {h' : HealthChecker}
    (hc : h'.components = (Health.setComponentHealth h name okMessage "error" badMessage healthy).components)
    (hflag : ∀ n, n ≠ name → (n = "storage" ∧ h.storageHealthy = false) ∨ (n = "evm" ∧ h.evmHealthy = false) ∨
      (n = "consensus" ∧ h.consensusHealthy = false) →
      (n = "storage" ∧ h'.storageHealthy = false) ∨ (n = "evm" ∧ h'.evmHealthy = false) ∨
      (n = "consensus" ∧ h'.consensusHealthy = false))
    (hname : healthy = false → (name = "storage" ∧ h'.storageHealthy = false) ∨
      (name = "evm" ∧ h'.evmHealthy = false) ∨ (name = "consensus" ∧ h'.consensusHealthy = false)) :
    Mirrors h' := by
  intro n c hmem he
  rw [hc] at hmem
  rcases Components.mem_set hmem with ⟨rfl, rfl⟩ | ⟨hold, hn⟩
  · cases healthy
    · exact hname rfl
    · simp [isError] at he
  · exact hflag n hn (hm n c hold he)

theorem Mirrors.apply {h : HealthChecker} (hm : Mirrors h) (call : HealthCall)
    (hcall : call.writesError = false) : Mirrors (call.apply h) := by
  cases call with
  | updateComponent n s m =>
    intro n' c hmem he
    rcases Components.mem_set hmem with ⟨-, rfl⟩ | ⟨hold, -⟩
    · simp_all [HealthCall.writesError, isError]
    · exact hm n' c hold he
  | setBlockHeight => exact hm
  | setPeers => exact hm
  | setStorageHealth b =>
    refine hm.set_critical b rfl (fun n hn hf => ?_) (fun hb => .inl ⟨rfl, hb⟩)
    rcases hf with ⟨rfl, -⟩ | hf | hf
    · exact absurd rfl hn
    · exact .inr (.inl hf)
    · exact .inr (.inr hf)
  | setEVMHealth b =>
    refine hm.set_critical b rfl (fun n hn hf => ?_) (fun hb => .inr (.inl ⟨rfl, hb⟩))
    rcases hf with hf | ⟨rfl, -⟩ | hf
    · exact .inl hf
    · exact absurd rfl hn
    · exact .inr (.inr hf)
  | setConsensusHealth b =>
    refine hm.set_critical b rfl (fun n hn hf => ?_) (fun hb => .inr (.inr ⟨rfl, hb⟩))
    rcases hf with hf | hf | ⟨rfl, -⟩
    · exact .inl hf
    · exact .inr (.inl hf)
    · exact absurd rfl hn
  | setMeshHealth b =>
    intro n c hmem he
    rcases Components.mem_set hmem with ⟨-, rfl⟩ | ⟨hold, -⟩
    · cases b <;> simp [isError] at he
    · exact hm n c hold he

theorem Mirrors.run {h : HealthChecker} (hm : Mirrors h) :
    ∀ calls : List HealthCall, (∀ c ∈ calls, c.writesError = false) → Mirrors (runHealth h calls)
  | [], _ => hm
  | c :: cs, hcs => by
    rw [runHealth, List.foldl_cons]
    exact (hm.apply c (hcs c (List.mem_cons_self c cs))).run cs
      fun c' hc' => hcs c' (List.mem_cons_of_mem c hc')

theorem mirrors_new : Mirrors newHealthChecker := fun _ _ h => by cases h

/-- Over every run of the checker's methods from `NewHealthChecker` in which no
`UpdateComponent` writes `"error"`, `/health` answers 503 exactly when `/health/readiness`
does: a component in `"error"` is always a critical one that is down, and a mesh that is
down only degrades. -/
theorem health_unavailable_iff_not_ready (calls : List HealthCall)
    (hcalls : ∀ c ∈ calls, c.writesError = false) :
    handleHealth (runHealth newHealthChecker calls) "GET" = 503 ↔
      handleReadiness (runHealth newHealthChecker calls) "GET" = 503 := by
  set h := runHealth newHealthChecker calls
  have hm : Mirrors h := mirrors_new.run calls hcalls
  have hs : (checkHealth h).status = _ := checkStatus_perm h (List.Perm.refl _)
  simp only [handleHealth, handleReadiness, ne_eq, not_true_eq_false, if_false]
  cases hr : isReady h
  · simp only [hs, hr, Bool.not_false, Bool.or_true, if_true]
    decide
  · have hne : (h.components.entries.map (·.2)).any isError = false := by
      rw [Bool.eq_false_iff]
      intro ha
      obtain ⟨c, hc, he⟩ := List.any_eq_true.1 ha
      obtain ⟨⟨n, c'⟩, hmem, rfl⟩ := List.mem_map.1 hc
      exact absurd (hm.not_ready hmem he) (by simp [hr])
    simp only [hs, hr, hne, Bool.not_true, Bool.or_false, Bool.false_eq_true, if_false]
    cases (h.components.entries.map (·.2)).any isWarning <;> decide

def startupCalls : List HealthCall :=
  [.setStorageHealth true, .setEVMHealth true, .setConsensusHealth true, .setMeshHealth true]

theorem health_unavailable_iff_not_ready_at_startup :
    (∀ c ∈ startupCalls, c.writesError = false) ∧
    (handleHealth (runHealth newHealthChecker startupCalls) "GET" = 503 ↔
      handleReadiness (runHealth newHealthChecker startupCalls) "GET" = 503) :=
  ⟨by decide, health_unavailable_iff_not_ready _ (by decide)⟩

end OxyChain.Health

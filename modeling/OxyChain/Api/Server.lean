import OxyChain.Node.Frame
import OxyChain.Abci.Paths
import OxyChain.Api.RateLimit
import OxyChain.Api.Health

/-! # The REST server (`internal/api/rest_server.go`)

`serve` is one request through `maxBodyMiddleware`, `rateLimitMiddleware`, `corsMiddleware`
and the `ServeMux` of `Start`, and `serveAll` the server over requests in order; the
consensus engine's answers and the body decoders are `RestEnv` data.
-/

namespace OxyChain.Api

open Abci Execution Engine Node

/-! ## Requests, answers and what the server reads -/

/-- The consensus engine's answers: `GetLatestBlock`, `GetValidators`, and
`SubmitTransaction` on each transaction. -/
structure Consensus where
  latestBlock : Except String Block
  validators : List Validators.Validator
  submitTransaction : Transaction → Except String Unit

structure RestEnv where
  /-- `OXY_REST_RATE_LIMIT_RPS` and `OXY_REST_BURST`. -/
  rps : ℚ
  burst : ℚ
  /-- `OXY_REST_CORS_ORIGINS`. -/
  corsOrigins : String
  /-- `json.NewDecoder(r.Body).Decode` into `{"amount": ...}` and into a
  `consensus.Transaction`. -/
  decodeAmount : Bytes → Except String String
  decodeTransaction : Bytes → Except String Transaction
  consensus : Consensus

def defaultEnv (c : Consensus) (decodeAmount : Bytes → Except String String)
    (decodeTransaction : Bytes → Except String Transaction) : RestEnv :=
  ⟨50, 100, "", decodeAmount, decodeTransaction, c⟩

structure HttpRequest where
  method : String
  path : String
  origin : String
  remoteAddr : String
  time : ℚ
  body : Bytes

inductive RestBody where
  | empty
  | error (msg : String)
  | redirect (location : String)
  | health (status : Health.HealthStatus)
  | probe (status : String)
  | metrics
  | block (b : Block)
  | transaction (tx : Transaction)
  | validators (vs : List Validators.Validator)
  | submitted (hash : String)

structure HttpResponse where
  status : Nat
  allowOrigin : Option String
  body : RestBody

/-! ## Routing (`ServeMux`) -/

inductive Route where
  | health | liveness | readiness | metrics | prometheus
  | blocks | transactions | accounts | submitTx | validators
  deriving DecidableEq, Repr

def patterns : List (String × Route) :=
  [("/health", .health), ("/health/liveness", .liveness), ("/health/readiness", .readiness),
    ("/metrics", .metrics), ("/metrics/prometheus", .prometheus), ("/api/v1/blocks/", .blocks),
    ("/api/v1/transactions/", .transactions), ("/api/v1/accounts/", .accounts),
    ("/api/v1/submit-tx", .submitTx), ("/api/v1/validators", .validators)]

def subtreePatterns : List (String × Route) :=
  [("/api/v1/transactions/", .transactions), ("/api/v1/accounts/", .accounts),
    ("/api/v1/blocks/", .blocks)]

inductive Dispatch where
  | handler (r : Route)
  | redirect (location : String)
  | notFound
  deriving DecidableEq, Repr

def cleanElems : List (List Char) → List (List Char) → List (List Char)
  | acc, [] => acc.reverse
  | acc, e :: es =>
    if e = [] ∨ e = ['.'] then cleanElems acc es
    else if e = ['.', '.'] then cleanElems acc.tail es
    else cleanElems (e :: acc) es

def pathClean (p : String) : String :=
  ⟨'/' :: List.intercalate ['/'] (cleanElems [] (p.data.splitOn '/'))⟩

def cleanPath (p : String) : String :=
  if p = "" then "/"
  else
    let p := if p.data.head? ≠ some '/' then "/" ++ p else p
    let np := pathClean p
    if p.data.getLast? = some '/' ∧ np ≠ "/" then np ++ "/" else np

def muxMatch (path : String) : Option Route :=
  match patterns.find? (·.1 = path) with
  | some p => some p.2
  | none => (subtreePatterns.find? fun p => p.1.data.isPrefixOf path.data).map (·.2)

def shouldRedirect (path : String) : Bool :=
  (patterns.find? (·.1 = path)).isNone && (patterns.find? (·.1 = path ++ "/")).isSome

/-- `ServeMux.Handler`: but for `CONNECT` the path is cleaned first. A path whose slashed form
is a pattern is redirected there, a path that cleaning changes to its clean form, and any
other goes to `muxMatch`. -/
def dispatch (method path : String) : Dispatch :=
  let clean := if method = "CONNECT" then path else cleanPath path
  if shouldRedirect clean then .redirect (clean ++ "/")
  else if clean ≠ path then .redirect clean
  else
    match muxMatch path with
    | some rt => .handler rt
    | none => .notFound

/-! ## Middlewares -/

def isOriginAllowed (origin allowedList : String) : Bool :=
  (allowedList.splitOn ",").any fun a => a.trim = origin

def corsAllowOrigin (allowed origin : String) : Option String :=
  if allowed = "*" ∨ allowed = "" then some "*"
  else if origin ≠ "" ∧ isOriginAllowed origin allowed then some origin
  else none

/-! ## Handlers -/

def methodNotAllowed : RestBody := .error "Method not allowed"

def respondHealth (h : Health.HealthChecker) (method : String) : Nat × RestBody :=
  (Health.handleHealth h method,
    if method ≠ "GET" then methodNotAllowed else .health (Health.checkHealth h))

def respondLiveness (h : Health.HealthChecker) (method : String) : Nat × RestBody :=
  (Health.handleLiveness h method,
    if method ≠ "GET" then methodNotAllowed
    else .probe (if Health.isLive h then "alive" else "dead"))

def respondReadiness (h : Health.HealthChecker) (method : String) : Nat × RestBody :=
  (Health.handleReadiness h method,
    if method ≠ "GET" then methodNotAllowed
    else .probe (if Health.isReady h then "ready" else "not_ready"))

def handleMetrics (method : String) : Nat × RestBody :=
  if method ≠ "GET" then (405, methodNotAllowed) else (200, .metrics)

def parseUint (s : String) : Option Nat :=
  match parseDigits s.data with
  | some v => if v < 2 ^ 64 then some v else none
  | none => none

def blocksPrefix : String := "/api/v1/blocks/"

def transactionsPrefix : String := "/api/v1/transactions/"

def handleBlocks (c : Consensus) (st : Store) (method urlPath : String) : Nat × RestBody :=
  if method ≠ "GET" then (405, methodNotAllowed)
  else
    let path := trimPrefix urlPath blocksPrefix
    if path = "latest" ∨ path = "" then
      match c.latestBlock with
      | .error err => (500, .error err)
      | .ok b => (200, .block b)
    else
      match parseUint path with
      | none => (400, .error "Invalid block height")
      | some height =>
        match st.blocks height with
        | none => (404, .error "Block not found")
        | some b => (200, .block b)

def handleTransactions (st : Store) (method urlPath : String) : Nat × RestBody :=
  if method ≠ "GET" then (405, methodNotAllowed)
  else
    match st.transactions ⟨urlPath.data.drop transactionsPrefix.length⟩ with
    | none => (404, .error "Transaction not found")
    | some tx => (200, .transaction tx)

def handleSubmitTx (env : RestEnv) (method : String) (body : Bytes) : Nat × RestBody :=
  if method ≠ "POST" then (405, methodNotAllowed)
  else
    match env.decodeTransaction body with
    | .error err => (400, .error ("Invalid transaction format: " ++ err))
    | .ok tx =>
      if tx.hash = "" then (400, .error "Transaction hash required")
      else if tx.fromAddr = "" then (400, .error "Transaction from address required")
      else
        match env.consensus.submitTransaction tx with
        | .error err => (400, .error ("Error submitting transaction: " ++ err))
        | .ok () => (200, .submitted tx.hash)

def handleValidators (c : Consensus) (method : String) : Nat × RestBody :=
  if method ≠ "GET" then (405, methodNotAllowed) else (200, .validators c.validators)

/-! ## The server -/

structure Server where
  node : Abci.Node
  buckets : String → Option Bucket
  health : Health.HealthChecker

def Server.start (n : Abci.Node) (h : Health.HealthChecker) : Server := ⟨n, fun _ => none, h⟩

def route (env : RestEnv) (s : Server) (r : HttpRequest) : Abci.Node × Nat × RestBody :=
  match dispatch r.method r.path with
  | .notFound => (s.node, 404, .error "404 page not found")
  | .redirect location => (s.node, 301, .redirect location)
  | .handler rt =>
    match rt with
    | .health => (s.node, respondHealth s.health r.method)
    | .liveness => (s.node, respondLiveness s.health r.method)
    | .readiness => (s.node, respondReadiness s.health r.method)
    | .metrics | .prometheus => (s.node, handleMetrics r.method)
    | .blocks => (s.node, handleBlocks env.consensus s.node.store r.method r.path)
    | .transactions => (s.node, handleTransactions s.node.store r.method r.path)
    | .accounts =>
      let (n, code) := handleAccounts s.node r.method r.path (env.decodeAmount r.body).toOption
      (n, code, .empty)
    | .submitTx => (s.node, handleSubmitTx env r.method r.body)
    | .validators => (s.node, handleValidators env.consensus r.method)

/-- One request through `maxBodyMiddleware`, `rateLimitMiddleware`, `corsMiddleware` and the
mux. A refused request never reaches `corsMiddleware` and carries no CORS header. -/
def serve (env : RestEnv) (s : Server) (r : HttpRequest) : Server × HttpResponse :=
  let (buckets, ok) := rateLimit env.rps env.burst s.buckets r.remoteAddr r.time
  let s := { s with buckets := buckets }
  if !ok then (s, ⟨429, none, .error "Too Many Requests"⟩)
  else
    let origin := corsAllowOrigin env.corsOrigins r.origin
    if r.method = "OPTIONS" then (s, ⟨200, origin, .empty⟩)
    else
      let (n, code, body) := route env s r
      ({ s with node := n }, ⟨code, origin, body⟩)

def serveAll (env : RestEnv) : Server → List HttpRequest → Server × List HttpResponse
  | s, [] => (s, [])
  | s, r :: rs =>
    let (s, o) := serve env s r
    let (s, os) := serveAll env s rs
    (s, o :: os)

/-! ## Sample requests -/

def testEnv : RestEnv :=
  defaultEnv ⟨.error "no block", [], fun _ => .ok ()⟩ (fun _ => .ok "1000") (fun _ => .error "EOF")

def getBlockOne : HttpRequest := ⟨"GET", "/api/v1/blocks/1", "", "10.0.0.1:5001", 0, []⟩

def fundOne : HttpRequest :=
  ⟨"POST", "/api/v1/accounts/0x0000000000000000000000000000000000000001/fund", "", "10.0.0.1:5001", 0, []⟩

def txOne : Transaction := ⟨"0xabc", "0x01", "0x02", "1", [], 21000, "1", 0, []⟩

def txOneNode : Abci.Node :=
  { freshNode with store := { Store.empty with transactions := fun h => if h = "0xabc" then some txOne else none } }

def getTxOne : HttpRequest := ⟨"GET", "/api/v1/transactions/0xabc", "", "10.0.0.1:5001", 0, []⟩

/-! ## Routing -/

theorem pattern_eq_of_isPrefixOf : ∀ q ∈ patterns, ∀ p ∈ subtreePatterns,
    p.1.data.isPrefixOf q.1.data = true → q = p := by decide

theorem subtree_eq_of_isPrefixOf : ∀ p ∈ subtreePatterns, ∀ p' ∈ subtreePatterns,
    p.1.data.isPrefixOf p'.1.data = true → p = p' := by decide

theorem eq_of_names_subtree {pat : String} {rt : Route} (hp : (pat, rt) ∈ subtreePatterns)
    {x : String} : ∀ q ∈ patterns, (q.1 = pat ++ x ∨ q.1 = pat ++ x ++ "/") → q = (pat, rt) :=
  fun q hq he => pattern_eq_of_isPrefixOf q hq _ hp <| by
    rcases he with he | he <;> simp [he, String.data_append]

theorem shouldRedirect_subtree {pat : String} {rt : Route} (hp : (pat, rt) ∈ subtreePatterns)
    (x : String) : shouldRedirect (pat ++ x) = false := by
  have h : patterns.find? (·.1 = pat ++ x ++ "/") = none := by
    rw [List.find?_eq_none]
    intro q hq he
    obtain rfl := eq_of_names_subtree hp q hq (.inr (by simpa using he))
    have := congrArg String.length (of_decide_eq_true he)
    have h1 : "/".length = 1 := rfl
    simp only [String.length_append, h1] at this
    omega
  simp [shouldRedirect, h]

theorem muxMatch_subtree {pat : String} {rt : Route} (hp : (pat, rt) ∈ subtreePatterns)
    (x : String) : muxMatch (pat ++ x) = some rt := by
  unfold muxMatch
  split
  · rename_i q h₁
    rw [eq_of_names_subtree hp q (List.mem_of_find?_eq_some h₁) (.inl (by simpa using List.find?_some h₁))]
  · rcases h₃ : subtreePatterns.find? (fun p => p.1.data.isPrefixOf (pat ++ x).data) with _ | p
    · exact absurd hp (by simpa [String.data_append] using List.find?_eq_none.1 h₃ (pat, rt))
    · have hpre : p.1.data <+: (pat ++ x).data := by simpa using List.find?_some h₃
      have hmem := List.mem_of_find?_eq_some h₃
      rcases List.prefix_or_prefix_of_prefix hpre
          (show pat.data <+: (pat ++ x).data by simp [String.data_append]) with h | h
      · rw [h₃, Option.map_some', subtree_eq_of_isPrefixOf p hmem _ hp (by simpa using h)]
      · rw [h₃, Option.map_some', ← subtree_eq_of_isPrefixOf _ hp p hmem (by simpa using h)]

theorem dispatch_subtree {pat : String} {rt : Route} (hp : (pat, rt) ∈ subtreePatterns)
    {m x : String} (hc : m = "CONNECT" ∨ cleanPath (pat ++ x) = pat ++ x) :
    dispatch m (pat ++ x) = .handler rt := by
  have hclean : (if m = "CONNECT" then pat ++ x else cleanPath (pat ++ x)) = pat ++ x := by
    split_ifs with hm
    · rfl
    · exact hc.resolve_left hm
  simp only [dispatch, hclean, shouldRedirect_subtree hp, muxMatch_subtree hp, Bool.false_eq_true,
    if_false, ne_eq, not_true_eq_false]

theorem dispatch_of_unclean {m path : String} (hm : m ≠ "CONNECT") (hc : cleanPath path ≠ path) :
    ∃ loc, dispatch m path = .redirect loc := by
  simp only [dispatch, if_neg hm, if_neg hc]
  split_ifs
  exacts [⟨_, rfl⟩, ⟨_, rfl⟩]

example : dispatch "GET" "/api/v1/transactions/a/../0xabc" = .redirect "/api/v1/transactions/0xabc" := by
  decide

/-! ## The two readers of a height -/

/-- A height `strconv.ParseUint` accepts is the one `Sscanf("%d")` reads from the same text. -/
theorem scanUint_of_parseUint {s : String} {h : Nat} (hp : parseUint s = some h) :
    scanUint s.data = h := by
  unfold parseUint at hp
  split at hp
  · rename_i v hv
    split_ifs at hp with hlt
    cases hp
    have hd : s.data ≠ [] ∧ s.data.all Char.isDigit = true := by
      unfold parseDigits at hv
      split_ifs at hv with hc
      exact hc
    have hdigits : ∀ c ∈ s.data, c.isDigit = true := by simpa using hd.2
    have hskip : skipSpace s.data = some s.data := by
      obtain ⟨c, cs, hc⟩ := List.exists_cons_of_ne_nil hd.1
      rw [hc, skipSpace_of_isDigit cs (hdigits c (by simp [hc]))]
    simp only [scanUint, hskip, List.takeWhile_eq_self_iff.2 hdigits, hv, if_pos hlt]
  · cases hp

/-! ## The server refines the node's REST requests -/

def restRequest (env : RestEnv) (r : HttpRequest) : RestRequest :=
  if r.method ≠ "OPTIONS" ∧ dispatch r.method r.path = .handler .accounts then
    .accounts r.method r.path (env.decodeAmount r.body).toOption
  else .other r.path

def restTrace (env : RestEnv) : (String → Option Bucket) → List HttpRequest → List Request
  | _, [] => []
  | b, r :: rs =>
    if (rateLimit env.rps env.burst b r.remoteAddr r.time).2 then
      .rest (restRequest env r) :: restTrace env (rateLimit env.rps env.burst b r.remoteAddr r.time).1 rs
    else restTrace env (rateLimit env.rps env.burst b r.remoteAddr r.time).1 rs

section Serve

variable (env : RestEnv) (s : Server) (r : HttpRequest)

theorem route_node (hm : r.method ≠ "OPTIONS") :
    (route env s r).1 = (handleRest s.node (restRequest env r)).1 := by
  unfold route restRequest
  rcases hd : dispatch r.method r.path with rt | loc | _
  · cases rt <;> simp [hm, handleRest]
  · simp [handleRest]
  · simp [handleRest]

theorem serve_fst : (serve env s r).1 =
    { s with buckets := (rateLimit env.rps env.burst s.buckets r.remoteAddr r.time).1,
             node := (serve env s r).1.node } := by
  unfold serve
  rcases rateLimit env.rps env.burst s.buckets r.remoteAddr r.time with ⟨b, ok⟩
  cases ok <;> dsimp only <;> split_ifs <;> rfl

theorem serve_snd : (serve env s r).2 =
    if (rateLimit env.rps env.burst s.buckets r.remoteAddr r.time).2 then
      if r.method = "OPTIONS" then ⟨200, corsAllowOrigin env.corsOrigins r.origin, .empty⟩
      else ⟨(route env s r).2.1, corsAllowOrigin env.corsOrigins r.origin, (route env s r).2.2⟩
    else ⟨429, none, .error "Too Many Requests"⟩ := by
  unfold serve
  rcases rateLimit env.rps env.burst s.buckets r.remoteAddr r.time with ⟨b, ok⟩
  cases ok <;> dsimp only <;> split_ifs <;> first | rfl | contradiction

@[simp] theorem serve_buckets :
    (serve env s r).1.buckets = (rateLimit env.rps env.burst s.buckets r.remoteAddr r.time).1 := by
  rw [serve_fst]

@[simp] theorem serve_health : (serve env s r).1.health = s.health := by
  rw [serve_fst]

theorem serve_node :
    (serve env s r).1.node = if (rateLimit env.rps env.burst s.buckets r.remoteAddr r.time).2 then
      (handleRest s.node (restRequest env r)).1 else s.node := by
  unfold serve
  rcases rateLimit env.rps env.burst s.buckets r.remoteAddr r.time with ⟨b, ok⟩
  dsimp only
  cases ok
  · rfl
  · by_cases hm : r.method = "OPTIONS"
    · simp [restRequest, hm, handleRest]
    · simpa [hm] using route_node env s r hm

end Serve

theorem serveAll_cons (env : RestEnv) (s : Server) (r : HttpRequest) (rs : List HttpRequest) :
    serveAll env s (r :: rs) =
      ((serveAll env (serve env s r).1 rs).1, (serve env s r).2 :: (serveAll env (serve env s r).1 rs).2) :=
  rfl

theorem serve_onlyBalances {env : RestEnv} {s : Server} (r : HttpRequest)
    (h : s.node.engine.executorDB = some i) :
    (serve env s r).1.node = { s.node with engine := (serve env s r).1.node.engine } ∧
      OnlyBalances s.node.engine (serve env s r).1.node.engine := by
  rw [serve_node]
  split_ifs
  · cases restRequest env r with
    | accounts m p a => exact handleAccounts_onlyBalances h m p a
    | other => exact ⟨rfl, .refl _⟩
  · exact ⟨rfl, .refl _⟩

theorem handleAccounts_status (n : Abci.Node) (m p : String) (x : Option String) :
    (handleAccounts n m p x).2 ∈ [200, 400, 405, 500] := by
  have h : ∀ {α : Type} (r : Except String α), statusOf r ∈ [200, 400, 405, 500] := fun r => by
    cases r <;> simp [statusOf]
  unfold handleAccounts handleFundAccount
  dsimp only
  repeat' split
  all_goals first | exact h _ | simp

theorem route_status (env : RestEnv) (s : Server) (r : HttpRequest) :
    (route env s r).2.1 ∈ [200, 301, 400, 404, 405, 500] ∨
      (route env s r).2.1 = 503 ∧ s.health.reportsUp = false := by
  have hacc : ∀ n m p x, (handleAccounts n m p x).2 ∈ [200, 301, 400, 404, 405, 500] :=
    fun n m p x => by
      have := handleAccounts_status n m p x
      simp only [List.mem_cons, List.mem_singleton, List.not_mem_nil, or_false] at this ⊢
      omega
  unfold route
  split
  · simp
  · simp
  · split
    all_goals
      simp only [respondHealth, respondLiveness, respondReadiness, Health.handleHealth,
        Health.handleLiveness, Health.handleReadiness, handleMetrics, handleBlocks,
        handleTransactions, handleSubmitTx, handleValidators]
    all_goals (repeat' split) <;> simp [Health.HealthChecker.reportsUp, *]

/-! ## The probes after `main`'s startup -/

theorem serve_ne_unavailable (env : RestEnv) (s : Server) (r : HttpRequest)
    (hup : s.health.reportsUp = true) : (serve env s r).2.status ≠ 503 := by
  rw [serve_snd]
  split_ifs
  · simp
  · rcases route_status env s r with h | ⟨-, h⟩
    · simp only [List.mem_cons, List.mem_singleton, List.not_mem_nil, or_false] at h
      dsimp only
      omega
    · exact absurd h (by simpa using hup)
  · simp

theorem serveAll_ne_unavailable (env : RestEnv) : ∀ (s : Server) (reqs : List HttpRequest),
    s.health.reportsUp = true → ∀ o ∈ (serveAll env s reqs).2, o.status ≠ 503
  | _, [], _ => fun _ ho => absurd ho (List.not_mem_nil _)
  | s, r :: rs, hup => by
    rw [serveAll_cons]
    intro o ho
    rcases List.mem_cons.1 ho with rfl | ho
    · exact serve_ne_unavailable env s r hup
    · exact serveAll_ne_unavailable env _ rs (by rw [serve_health]; exact hup) o ho

/-- Nothing after `main`'s startup calls writes the health checker, and they leave it passing
every probe: over every run of the server `main` starts, on any node and whatever the
consensus engine answers, no request is answered with 503. -/
theorem startup_never_unavailable (env : RestEnv) (n : Abci.Node) (reqs : List HttpRequest) :
    503 ∉ (serveAll env (Server.start n (Health.runHealth Health.newHealthChecker Health.startupCalls))
      reqs).2.map (·.status) := fun h => by
  obtain ⟨o, ho, h503⟩ := List.mem_map.1 h
  exact serveAll_ne_unavailable env _ reqs
    (show (Health.runHealth Health.newHealthChecker Health.startupCalls).reportsUp = true by decide) o ho h503

/-! ## The REST reads and `Query` -/

theorem serve_of_pass (env : RestEnv) (s : Server) {r : HttpRequest}
    (hpass : (rateLimit env.rps env.burst s.buckets r.remoteAddr r.time).2 = true)
    (hm : r.method ≠ "OPTIONS") :
    (serve env s r).2 = ⟨(route env s r).2.1, corsAllowOrigin env.corsOrigins r.origin, (route env s r).2.2⟩ := by
  rw [serve_snd, if_pos hpass, if_neg hm]

theorem rateLimit_first {rps burst : ℚ} (hb : 1 ≤ burst) (k : String) (t : ℚ) :
    (rateLimit rps burst (fun _ => none) k t).2 = true := by
  simp [rateLimit_eq, take, Bucket.refill, minFloat, not_lt.2 hb]

theorem handleBlocks_block {c : Consensus} {st : Store} {method p : String} (hl : p ≠ "latest")
    (he : p ≠ "") {b : Block} (hb : (handleBlocks c st method (blocksPrefix ++ p)).2 = .block b) :
    st.blocks (scanUint p.data) = some b := by
  unfold handleBlocks at hb
  simp only [trimPrefix_append, hl, he, or_self, if_false] at hb
  split_ifs at hb
  · simp [methodNotAllowed] at hb
  · split at hb
    · cases hb
    · rename_i height hh
      split at hb
      · cases hb
      · rename_i b' hb'
        cases hb
        rwa [scanUint_of_parseUint hh]

/-- Every block the REST endpoint serves by height, `Query` serves on `block/` followed by the
same text: `Sscanf` reads every height `ParseUint` accepts. -/
theorem serve_block_query (env : RestEnv) (s : Server) (r : HttpRequest) {p : String}
    (hp : r.path = blocksPrefix ++ p) (hl : p ≠ "latest") (he : p ≠ "") {b : Block}
    (hb : (serve env s r).2.body = .block b) :
    (query s.node ("block/" ++ p)).2 = ⟨0, .block b, ""⟩ := by
  rw [serve_snd] at hb
  -- the preflight and the refusal carry no block
  split_ifs at hb
  by_cases hc : r.method = "CONNECT" ∨ cleanPath (blocksPrefix ++ p) = blocksPrefix ++ p
  · simp only [route, hp, dispatch_subtree (show (blocksPrefix, Route.blocks) ∈ subtreePatterns by decide) hc] at hb
    rw [query_block s.node he, handleBlocks_block hl he hb]
  · obtain ⟨loc, hloc⟩ := dispatch_of_unclean (not_or.1 hc).1 (not_or.1 hc).2
    simp only [route, hp, hloc, reduceCtorEq] at hb

theorem serve_block_query_one :
    getBlockOne.path = blocksPrefix ++ "1" ∧ "1" ≠ "latest" ∧ "1" ≠ "" ∧
    (serve testEnv (Server.start blockOneNode Health.newHealthChecker) getBlockOne).2.body =
      .block blockOne ∧
    (query blockOneNode ("block/" ++ "1")).2 = ⟨0, .block blockOne, ""⟩ := by
  have hpass : (rateLimit testEnv.rps testEnv.burst (Server.start blockOneNode Health.newHealthChecker).buckets
      getBlockOne.remoteAddr getBlockOne.time).2 = true :=
    rateLimit_first (by norm_num [testEnv, defaultEnv]) _ _
  have hb : (serve testEnv (Server.start blockOneNode Health.newHealthChecker) getBlockOne).2.body =
      .block blockOne := by
    rw [serve_of_pass testEnv _ hpass (by decide)]
    rfl
  exact ⟨by decide, by decide, by decide, hb,
    serve_block_query testEnv _ getBlockOne (by decide) (by decide) (by decide) hb⟩

end OxyChain.Api

import OxyChain.Hex

/-! # The REST server's rate limit (`internal/api/rest_server.go`)

A token bucket per `r.RemoteAddr` (address and port, so one per connection of a client),
refilled by `rps` a second up to `burst`. The source's `float64` arithmetic is exact here, and
requests run one at a time: the source's map has no lock, and overlapping requests race on it.
-/

namespace OxyChain.Api

def minFloat (a b : ℚ) : ℚ := if a < b then a else b

structure Bucket where
  tokens : ℚ
  lastRefill : ℚ
  deriving DecidableEq

def Bucket.refill (rps burst : ℚ) (b : Bucket) (now : ℚ) : Bucket :=
  ⟨minFloat burst (b.tokens + (now - b.lastRefill) * rps), now⟩

def take (rps burst : ℚ) (o : Option Bucket) (now : ℚ) : Bucket × Bool :=
  let b := (o.getD ⟨burst, now⟩).refill rps burst now
  if b.tokens < 1 then (b, false) else (⟨b.tokens - 1, now⟩, true)

def rateLimit (rps burst : ℚ) (store : String → Option Bucket) (remoteAddr : String) (now : ℚ) :
    (String → Option Bucket) × Bool :=
  let (b, ok) := take rps burst (store remoteAddr) now
  (Function.update store remoteAddr (some b), ok)

theorem rateLimit_eq (rps burst : ℚ) (store : String → Option Bucket) (remoteAddr : String)
    (now : ℚ) : rateLimit rps burst store remoteAddr now =
      (Function.update store remoteAddr (some (take rps burst (store remoteAddr) now).1),
        (take rps burst (store remoteAddr) now).2) := rfl

def passedFrom (rps burst : ℚ) : (String → Option Bucket) → List (String × ℚ) → List (String × ℚ)
  | _, [] => []
  | store, (r, t) :: rs =>
    (if (rateLimit rps burst store r t).2 then [(r, t)] else []) ++
      passedFrom rps burst (rateLimit rps burst store r t).1 rs

def passedTimes (rps burst : ℚ) : Option Bucket → List ℚ → List ℚ
  | _, [] => []
  | o, t :: ts =>
    (if (take rps burst o t).2 then [t] else []) ++ passedTimes rps burst (some (take rps burst o t).1) ts

/-! ## The keys do not meet -/

theorem passedFrom_key (rps burst : ℚ) (key : String) :
    ∀ (store : String → Option Bucket) (reqs : List (String × ℚ)),
      ((passedFrom rps burst store reqs).filter (·.1 = key)).map (·.2) =
        passedTimes rps burst (store key) ((reqs.filter (·.1 = key)).map (·.2))
  | _, [] => rfl
  | store, (r, t) :: rs => by
    have ih := passedFrom_key rps burst key (rateLimit rps burst store r t).1 rs
    rw [rateLimit_eq] at ih
    by_cases hr : r = key
    · subst hr
      simp only [passedFrom, rateLimit_eq, List.filter_append, List.map_append, ih,
        Function.update_same, List.filter_cons_of_pos (by simp : decide ((r, t).1 = r) = true),
        List.map_cons]
      split <;> rename_i hc <;> simp [passedTimes, hc]
    · simp only [passedFrom, rateLimit_eq, List.filter_append, List.map_append, ih,
        Function.update_noteq (Ne.symm hr),
        List.filter_cons_of_neg (by simpa using hr : ¬decide ((r, t).1 = key) = true)]
      split <;> simp [hr]

/-! ## One bucket -/

section Bucket

variable {rps burst : ℚ}

@[simp] theorem minFloat_eq_min (a b : ℚ) : minFloat a b = min a b := by
  unfold minFloat
  split_ifs with h
  · exact (min_eq_left h.le).symm
  · exact (min_eq_right (not_lt.1 h)).symm

theorem Bucket.refill_refill (b : Bucket) (t : ℚ) :
    (b.refill rps burst t).refill rps burst t = b.refill rps burst t := by
  simp [Bucket.refill]

theorem Bucket.refill_tokens_nonneg (hr : 0 ≤ rps) (hb : 0 ≤ burst) {c : Bucket} {t : ℚ}
    (h0 : 0 ≤ c.tokens) (ht : c.lastRefill ≤ t) : 0 ≤ (c.refill rps burst t).tokens := by
  simp only [Bucket.refill, minFloat_eq_min]
  exact le_min hb (add_nonneg h0 (mul_nonneg (sub_nonneg.2 ht) hr))

theorem refill_getD_tokens_nonneg (hr : 0 ≤ rps) (hb : 0 ≤ burst) {o : Option Bucket} {t : ℚ}
    (ho : ∀ c ∈ o, 0 ≤ c.tokens ∧ c.lastRefill ≤ t) :
    0 ≤ ((o.getD ⟨burst, t⟩).refill rps burst t).tokens := by
  cases o with
  | none => exact Bucket.refill_tokens_nonneg hr hb hb le_rfl
  | some c => exact Bucket.refill_tokens_nonneg hr hb (ho c rfl).1 (ho c rfl).2

theorem take_tokens (hr : 0 ≤ rps) (hb : 0 ≤ burst) {o : Option Bucket} {t : ℚ}
    (ho : ∀ c ∈ o, 0 ≤ c.tokens ∧ c.lastRefill ≤ t) :
    (take rps burst o t).1.lastRefill = t ∧ 0 ≤ (take rps burst o t).1.tokens ∧
      (take rps burst o t).1.tokens + (if (take rps burst o t).2 then 1 else 0) =
        ((o.getD ⟨burst, t⟩).refill rps burst t).tokens := by
  have h0 := refill_getD_tokens_nonneg hr hb ho
  by_cases h : ((o.getD ⟨burst, t⟩).refill rps burst t).tokens < 1
  · simp only [take, h, if_true]
    exact ⟨by simp [Bucket.refill], h0, by simp⟩
  · simp only [take, h, if_false]
    exact ⟨by simp [Bucket.refill], by linarith [not_lt.1 h], by simp⟩

theorem take_refilled (o : Option Bucket) (t : ℚ) :
    take rps burst (some ((o.getD ⟨burst, t⟩).refill rps burst t)) t = take rps burst o t := by
  simp only [take, Option.getD_some, Bucket.refill_refill]

end Bucket

/-! ## The requests of one key -/

section Times

variable {rps burst : ℚ}

theorem passedTimes_sublist : ∀ (o : Option Bucket) (ts : List ℚ),
    (passedTimes rps burst o ts).Sublist ts
  | _, [] => .slnil
  | o, t :: ts => by
    unfold passedTimes
    split
    · exact (passedTimes_sublist _ ts).cons₂ t
    · exact (passedTimes_sublist _ ts).cons t

theorem passedTimes_refilled (o : Option Bucket) (t : ℚ) (ts : List ℚ) :
    passedTimes rps burst (some ((o.getD ⟨burst, t⟩).refill rps burst t)) (t :: ts) =
      passedTimes rps burst o (t :: ts) := by
  simp only [passedTimes, take_refilled]

theorem filter_passedTimes_cons (p : ℚ → Bool) (o : Option Bucket) (t : ℚ) (ts : List ℚ) :
    ((passedTimes rps burst o (t :: ts)).filter p).length =
      (if (take rps burst o t).2 ∧ p t then 1 else 0) +
        ((passedTimes rps burst (some (take rps burst o t).1) ts).filter p).length := by
  rw [passedTimes, List.filter_append, List.length_append]
  by_cases h1 : (take rps burst o t).2 <;> by_cases h2 : p t <;> simp [h1, h2]

theorem filter_passedTimes_of_lt {p : ℚ → Bool} {b t : ℚ} (hp : ∀ x, b < x → p x = false)
    (o : Option Bucket) {ts : List ℚ} (hs : (t :: ts).Pairwise (· ≤ ·)) (htb : b < t) :
    (passedTimes rps burst o (t :: ts)).filter p = [] :=
  List.filter_eq_nil_iff.2 fun x hx => by
    have hge := List.forall_mem_cons.2 ⟨le_rfl, (List.pairwise_cons.1 hs).1⟩ x
      ((passedTimes_sublist o _).subset hx)
    simp [hp x (htb.trans_le hge)]

variable (hr : 0 ≤ rps) (hb : 0 ≤ burst)
include hr hb

theorem passedTimes_le_tokens (b : ℚ) : ∀ (c : Bucket) (ts : List ℚ), 0 ≤ c.tokens →
    c.lastRefill ≤ b → (c.lastRefill :: ts).Pairwise (· ≤ ·) →
      (((passedTimes rps burst (some c) ts).filter (· ≤ b)).length : ℚ) ≤
        c.tokens + rps * (b - c.lastRefill)
  | c, [], h0, hℓ, _ => by
    simp only [passedTimes, List.filter_nil, List.length_nil, Nat.cast_zero]
    exact add_nonneg h0 (mul_nonneg hr (sub_nonneg.2 hℓ))
  | c, t :: ts, h0, hℓ, hs => by
    obtain ⟨hℓt, hts⟩ := List.pairwise_cons.1 hs
    have hct : c.lastRefill ≤ t := hℓt t (List.mem_cons_self t ts)
    by_cases htb : t ≤ b
    · obtain ⟨hlast, hpos, hsum⟩ :=
        take_tokens hr hb (o := some c) (t := t) fun _ h => by cases h; exact ⟨h0, hct⟩
      have ih := passedTimes_le_tokens b _ ts hpos (by rwa [hlast]) (by rwa [hlast])
      have hrefill : (c.refill rps burst t).tokens ≤ c.tokens + (t - c.lastRefill) * rps := by
        simp [Bucket.refill]
      rw [hlast] at ih
      rw [filter_passedTimes_cons, Nat.cast_add, Nat.cast_ite]
      simp only [Option.getD_some, htb, decide_True, and_true, Nat.cast_one, Nat.cast_zero] at hsum ⊢
      linarith
    · rw [filter_passedTimes_of_lt (fun x hx => by simpa using hx) _ hts (not_le.1 htb)]
      simpa using add_nonneg h0 (mul_nonneg hr (sub_nonneg.2 hℓ))

theorem passedTimes_window {a b : ℚ} (hab : a ≤ b) : ∀ (o : Option Bucket) (ts : List ℚ),
    ts.Pairwise (· ≤ ·) → (∀ c ∈ o, 0 ≤ c.tokens ∧ ∀ t ∈ ts, c.lastRefill ≤ t) →
      (((passedTimes rps burst o ts).filter fun t => a ≤ t ∧ t ≤ b).length : ℚ) ≤
        burst + rps * (b - a)
  | _, [], _, _ => by
    simp only [passedTimes, List.filter_nil, List.length_nil, Nat.cast_zero]
    exact add_nonneg hb (mul_nonneg hr (sub_nonneg.2 hab))
  | o, t :: ts, hs, ho => by
    have hge : ∀ x ∈ t :: ts, t ≤ x := List.forall_mem_cons.2 ⟨le_rfl, (List.pairwise_cons.1 hs).1⟩
    have ho' : ∀ c ∈ o, 0 ≤ c.tokens ∧ c.lastRefill ≤ t := fun c hc =>
      ⟨(ho c hc).1, (ho c hc).2 t (List.mem_cons_self t ts)⟩
    by_cases hta : a ≤ t
    · by_cases htb : t ≤ b
      · -- From `t` on every request lies at or after `a`: only `b` cuts the window.
        have hc0 := refill_getD_tokens_nonneg hr hb ho'
        have hcb : ((o.getD ⟨burst, t⟩).refill rps burst t).tokens ≤ burst := by
          simp [Bucket.refill]
        have hle := passedTimes_le_tokens hr hb b _ (t :: ts) hc0 htb (List.pairwise_cons.2 ⟨hge, hs⟩)
        rw [passedTimes_refilled] at hle
        rw [List.filter_congr (q := (· ≤ b)) fun x hx => by
          simp [hta.trans (hge x ((passedTimes_sublist o _).subset hx))]]
        calc _ ≤ ((o.getD ⟨burst, t⟩).refill rps burst t).tokens + rps * (b - t) := hle
          _ ≤ burst + rps * (b - a) := add_le_add hcb (mul_le_mul_of_nonneg_left (by linarith) hr)
      · rw [filter_passedTimes_of_lt (fun x hx => by simp [hx]) o hs (not_le.1 htb)]
        simpa using add_nonneg hb (mul_nonneg hr (sub_nonneg.2 hab))
    · -- `t` lies before the window and leaves a bucket refilled at `t`.
      obtain ⟨hlast, hpos, -⟩ := take_tokens hr hb ho'
      rw [filter_passedTimes_cons]
      simpa [hta] using passedTimes_window hab _ ts (List.pairwise_cons.1 hs).2 fun c hc => by
        cases hc
        exact ⟨hpos, fun x hx => by rw [hlast]; exact hge x (List.mem_cons_of_mem t hx)⟩

/-- The limit `rateLimitMiddleware` enforces, per `RemoteAddr`: from its empty map and over
requests at non-decreasing times, at most `burst + rps · (b - a)` requests of one
`RemoteAddr` with arrival time in a window `[a, b]` are passed on. -/
theorem rateLimit_window (reqs : List (String × ℚ)) (hs : (reqs.map (·.2)).Pairwise (· ≤ ·))
    (remoteAddr : String) {a b : ℚ} (hab : a ≤ b) :
    (((passedFrom rps burst (fun _ => none) reqs).filter
      fun p => p.1 = remoteAddr ∧ a ≤ p.2 ∧ p.2 ≤ b).length : ℚ) ≤ burst + rps * (b - a) := by
  have hsplit : ∀ l : List (String × ℚ),
      (l.filter fun p => p.1 = remoteAddr ∧ a ≤ p.2 ∧ p.2 ≤ b).length =
        (((l.filter (·.1 = remoteAddr)).map (·.2)).filter fun t => a ≤ t ∧ t ≤ b).length := by
    intro l
    rw [List.filter_map, List.length_map, List.filter_filter]
    congr 2
    funext p
    simp only [Function.comp, Bool.decide_and]
    exact Bool.and_comm _ _
  rw [hsplit, passedFrom_key]
  exact passedTimes_window hr hb hab none _ (hs.sublist ((List.filter_sublist _).map _)) (by simp)

end Times

/-! ## One client, two connections -/

/-- With `rps = 0` and `burst = 1`, two requests at time 0 from the ports 5001 and 5002 of
`10.0.0.1` are both passed on: two requests of one IP in the window `[0, 0]`, whose bound is
`1 + 0 · (0 - 0) = 1`. -/
theorem rateLimit_two_connections :
    passedFrom 0 1 (fun _ => none) [("10.0.0.1:5001", 0), ("10.0.0.1:5002", 0)] =
      [("10.0.0.1:5001", 0), ("10.0.0.1:5002", 0)] ∧
    (1 : ℚ) + 0 * (0 - 0) < 2 := by
  have h : ("10.0.0.1:5002" : String) ≠ "10.0.0.1:5001" := by decide
  have h1 : take 0 1 none 0 = (⟨0, 0⟩, true) := by simp [take, Bucket.refill]
  simp only [passedFrom, rateLimit_eq, h1, Function.update_noteq h]
  simp

end OxyChain.Api

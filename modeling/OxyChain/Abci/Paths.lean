import OxyChain.Node.Run

/-! # The paths `Query` answers

Each case tests `len(path) > k && path[:k] == lit` and hands `path[k:]` to its handler;
`"account/"` has eight characters and is compared with seven, so no path reaches the
account handler.
-/

namespace OxyChain.Abci

open Execution

section Prefix

variable {k : Nat} {lit : String}

theorem hasPrefixAt_iff {p : List Char} (hk : lit.length = k) :
    hasPrefixAt p k lit = true ↔ ∃ rest, rest ≠ [] ∧ p = lit.data ++ rest := by
  have hl : lit.data.length = k := hk
  constructor
  · intro h
    simp only [hasPrefixAt, Bool.and_eq_true, decide_eq_true_eq, beq_iff_eq] at h
    refine ⟨p.drop k, ?_, by rw [← h.2, List.take_append_drop]⟩
    simpa [List.drop_eq_nil_iff] using h.1
  · rintro ⟨rest, hr, rfl⟩
    have : rest.length ≠ 0 := by simpa using hr
    simp [hasPrefixAt, hl, List.take_append_of_le_length (le_of_eq hl.symm)]
    omega

theorem hasPrefixAt_of_length_ne (p : List Char) (hk : lit.length ≠ k) : hasPrefixAt p k lit = false := by
  have hl : lit.data.length ≠ k := hk
  simp only [hasPrefixAt, Bool.and_eq_false_iff, decide_eq_false_iff_not, not_lt, beq_eq_false_iff_ne]
  by_cases h : k < p.length
  · exact .inr fun he => hl (by rw [← he, List.length_take, min_eq_left h.le])
  · exact .inl (not_lt.1 h)

theorem hasPrefixAt_append (s rest : List Char) (hk : k ≤ s.length) :
    hasPrefixAt (s ++ rest) k lit = (decide (k < s.length + rest.length) && s.take k == lit.data) := by
  simp [hasPrefixAt, List.take_append_of_le_length hk]

theorem hasPrefixAt_of_take_ne {p : List Char} {j : Nat} (hj : j ≤ k)
    (h : p.take j ≠ lit.data.take j) : hasPrefixAt p k lit = false := by
  simp only [hasPrefixAt, Bool.and_eq_false_iff, beq_eq_false_iff_ne]
  exact .inr fun he => h (by rw [← he, List.take_take, min_eq_left hj])

theorem eq_append_of_hasPrefixAt {path : String} (hk : lit.length = k)
    (h : hasPrefixAt path.data k lit = true) :
    path = lit ++ String.mk (path.data.drop k) ∧ String.mk (path.data.drop k) ≠ "" := by
  obtain ⟨rest, hr, hp⟩ := (hasPrefixAt_iff hk).1 h
  have hd : path.data.drop k = rest := by
    rw [hp]
    exact List.drop_left' hk
  rw [hd]
  exact ⟨String.ext (by simpa using hp), fun he => hr (congrArg String.data he)⟩

end Prefix

/-- `Query` answers code 0 only to `height`, to `balance/` followed by any text `GetState`
reads, to `tx/` followed by a stored hash, and to `block/` followed by text that `Sscanf`
reads as the height of a stored block; each with what its handler reads. -/
theorem query_answers (n : Node) (path : String) :
    (query n path).2.code = 0 →
      path = "height" ∨
      (∃ a acct, path = "balance/" ++ a ∧ a ≠ "" ∧ (getState n.engine n.store a).2 = .ok acct ∧
        (query n path).2.value = .balance a acct.balance) ∨
      (∃ h tx, path = "tx/" ++ h ∧ h ≠ "" ∧ n.store.transactions h = some tx ∧
        (query n path).2.value = .transaction tx) ∨
      (∃ s b, path = "block/" ++ s ∧ s ≠ "" ∧ n.store.blocks (scanUint s.data) = some b ∧
        (query n path).2.value = .block b) := by
  intro h0
  unfold query at h0 ⊢
  by_cases hh : path = "height"
  · exact .inl hh
  rw [if_neg hh] at h0 ⊢
  simp only [hasPrefixAt_of_length_ne _ (by decide : "account/".length ≠ 7), Bool.false_eq_true,
    if_false] at h0 ⊢
  by_cases hb : hasPrefixAt path.data 8 "balance/" = true
  · rw [if_pos hb] at h0 ⊢
    obtain ⟨hp, hne⟩ := eq_append_of_hasPrefixAt (by decide) hb
    rcases hg : getState n.engine n.store ⟨path.data.drop 8⟩ with ⟨e, err | acct⟩
    · simp [hg] at h0
    · exact .inr (.inl ⟨_, acct, hp, hne, by rw [hg], by simp [hg]⟩)
  rw [if_neg hb] at h0 ⊢
  by_cases ht : hasPrefixAt path.data 3 "tx/" = true
  · rw [if_pos ht] at h0 ⊢
    obtain ⟨hp, hne⟩ := eq_append_of_hasPrefixAt (by decide) ht
    rcases hs : n.store.transactions ⟨path.data.drop 3⟩ with _ | tx
    · simp [hs] at h0
    · exact .inr (.inr (.inl ⟨_, tx, hp, hne, hs, by simp [hs]⟩))
  rw [if_neg ht] at h0 ⊢
  by_cases hk : hasPrefixAt path.data 6 "block/" = true
  · rw [if_pos hk] at h0 ⊢
    obtain ⟨hp, hne⟩ := eq_append_of_hasPrefixAt (by decide) hk
    rcases hs : n.store.blocks (scanUint (path.data.drop 6)) with _ | b
    · simp [hs] at h0
    · exact .inr (.inr (.inr ⟨_, b, hp, hne, hs, by simp [hs]⟩))
  rw [if_neg hk] at h0
  cases h0

theorem query_answers_height : (query Node.freshNode "height").2.code = 0 ∧
    ("height" = "height" ∨
      (∃ a acct, "height" = "balance/" ++ a ∧ a ≠ "" ∧
        (getState Node.freshNode.engine Node.freshNode.store a).2 = .ok acct ∧
        (query Node.freshNode "height").2.value = .balance a acct.balance) ∨
      (∃ h tx, "height" = "tx/" ++ h ∧ h ≠ "" ∧ Node.freshNode.store.transactions h = some tx ∧
        (query Node.freshNode "height").2.value = .transaction tx) ∨
      (∃ s b, "height" = "block/" ++ s ∧ s ≠ "" ∧ Node.freshNode.store.blocks (scanUint s.data) = some b ∧
        (query Node.freshNode "height").2.value = .block b)) :=
  ⟨rfl, query_answers Node.freshNode "height" rfl⟩

theorem query_tx (n : Node) {h : String} (hh : h ≠ "") :
    query n ("tx/" ++ h) = (n, match n.store.transactions h with
      | none => ⟨1, .empty, "Transacción no encontrada: " ++ h⟩
      | some tx => ⟨0, .transaction tx, ""⟩) := by
  have hl : 0 < h.length := List.length_pos.2 fun he => hh (String.ext he)
  have hne : "tx/" ++ h ≠ "height" := fun he => by
    have := congrArg (fun s : String => s.data.take 1) he
    simp only [String.data_append, List.take_append_of_le_length (by decide : 1 ≤ "tx/".data.length)] at this
    exact absurd this (by decide)
  have hb : hasPrefixAt ("tx/".data ++ h.data) 8 "balance/" = false :=
    hasPrefixAt_of_take_ne (by decide : 1 ≤ 8) (by rw [List.take_append_of_le_length (by decide)]; decide)
  unfold query
  rw [if_neg hne]
  simp only [String.data_append, hb, hasPrefixAt_of_length_ne _ (by decide : "account/".length ≠ 7),
    hasPrefixAt_append _ _ (by decide : 3 ≤ "tx/".data.length)]
  rcases ht : n.store.transactions h with _ | tx <;> simp [hl, ht]

theorem query_block (n : Node) {s : String} (hs : s ≠ "") :
    query n ("block/" ++ s) = (n, match n.store.blocks (scanUint s.data) with
      | none => ⟨1, .empty, "Bloque no encontrado: altura " ++ toString (scanUint s.data)⟩
      | some b => ⟨0, .block b, ""⟩) := by
  have hl : 0 < s.length := List.length_pos.2 fun he => hs (String.ext he)
  have hne : "block/" ++ s ≠ "height" := fun he => by
    have := congrArg (fun s : String => s.data.take 1) he
    simp only [String.data_append, List.take_append_of_le_length (by decide : 1 ≤ "block/".data.length)] at this
    exact absurd this (by decide)
  have hb : hasPrefixAt ("block/".data ++ s.data) 8 "balance/" = false :=
    hasPrefixAt_of_take_ne (by decide : 2 ≤ 8) (by rw [List.take_append_of_le_length (by decide)]; decide)
  unfold query
  rw [if_neg hne]
  simp only [String.data_append, hb, hasPrefixAt_of_length_ne _ (by decide : "account/".length ≠ 7),
    hasPrefixAt_append _ _ (by decide : 3 ≤ "block/".data.length),
    hasPrefixAt_append _ _ (by decide : 6 ≤ "block/".data.length)]
  rcases ht : n.store.blocks (scanUint s.data) with _ | b <;> simp [hl, ht]

def blockOne : Block := ⟨⟨1, 0, none, 0, "oxy-gen-testnet"⟩, [], []⟩

def blockOneNode : Node :=
  { Node.freshNode with store := { Store.empty with blocks := fun h => if h = 1 then some blockOne else none } }

theorem query_paths_outside_grammar :
    (query Node.freshNode "balance/xyz").2.code = 0 ∧ (query blockOneNode "block/1abc").2.code = 0 ∧
      (query blockOneNode "block/\u30001").2.code = 0 :=
  ⟨rfl, rfl, rfl⟩

end OxyChain.Abci

import OxyChain.Abci.Admission

/-! # `PrepareProposal` and the byte budget

The proposal is a prefix of the mempool's serialisations followed by a subsequence of the
hints, within `MaxTxBytes`; a hint is skipped only when its bytes are already in the list.
-/

namespace OxyChain.Abci

def totalBytes (txs : List Bytes) : Int := ((txs.map List.length).sum : Nat)

@[simp] theorem totalBytes_nil : totalBytes [] = 0 := rfl

@[simp] theorem totalBytes_cons (b : Bytes) (bs : List Bytes) :
    totalBytes (b :: bs) = b.length + totalBytes bs := by
  simp [totalBytes]

@[simp] theorem totalBytes_append (bs bs' : List Bytes) :
    totalBytes (bs ++ bs') = totalBytes bs + totalBytes bs' := by
  simp [totalBytes]

theorem takeFitting_spec (m : Int) : ∀ (t : Int) (bs : List Bytes), t ≤ m →
    ∃ k, (takeFitting m t bs).1 = bs.take k ∧ (takeFitting m t bs).2 = t + totalBytes (bs.take k) ∧
      (takeFitting m t bs).2 ≤ m
  | t, [], ht => ⟨0, rfl, by simp [takeFitting], ht⟩
  | t, b :: bs, ht => by
    unfold takeFitting
    split_ifs with hb
    · exact ⟨0, rfl, by simp, ht⟩
    · obtain ⟨k, h₁, h₂, h₃⟩ := takeFitting_spec m (t + b.length) bs (by omega)
      refine ⟨k + 1, by simp [h₁], by simp [h₂]; ring, h₃⟩

theorem appendHints_spec (m : Int) : ∀ (hs txs : List Bytes) (t : Int), t = totalBytes txs → t ≤ m →
    ∃ l, appendHints m txs t hs = txs ++ l ∧ l.Sublist hs ∧ totalBytes (txs ++ l) ≤ m
  | [], txs, t, ht, hm => ⟨[], by simp [appendHints], .slnil, by simpa [← ht]⟩
  | b :: hs, txs, t, ht, hm => by
    unfold appendHints
    split_ifs with hb hd
    · exact ⟨[], by simp, List.nil_sublist _, by simpa [← ht]⟩
    · obtain ⟨l, h₁, h₂, h₃⟩ := appendHints_spec m hs txs t ht hm
      exact ⟨l, h₁, h₂.cons b, h₃⟩
    · obtain ⟨l, h₁, h₂, h₃⟩ := appendHints_spec m hs (txs ++ [b]) (t + b.length) (by simp [ht]) (by omega)
      exact ⟨b :: l, by simp [h₁], h₂.cons₂ b, by simpa using h₃⟩

/-- With `MaxTxBytes` not negative, the proposal holds at most `MaxTxBytes` bytes, and is
the serialisations of a prefix of the mempool, in its order, followed by a subsequence of
`req.Txs`, in theirs. -/
theorem prepareProposal_fits (env : Env) (mempool : Option (List Transaction))
    (req : PrepareProposalRequest) (h : 0 ≤ req.maxTxBytes) :
    totalBytes (prepareProposal env mempool req) ≤ req.maxTxBytes ∧
      ∃ k l, prepareProposal env mempool req = ((mempool.getD []).take k).map env.encodeTx ++ l ∧
        l.Sublist req.txs := by
  obtain ⟨k, h₁, h₂, h₃⟩ := takeFitting_spec req.maxTxBytes 0 ((mempool.getD []).map env.encodeTx) h
  unfold prepareProposal
  rcases hr : takeFitting req.maxTxBytes 0 ((mempool.getD []).map env.encodeTx) with ⟨txs, total⟩
  rw [hr] at h₁ h₂ h₃
  dsimp only at h₁ h₂ h₃ ⊢
  obtain ⟨l, h₄, h₅, h₆⟩ := appendHints_spec req.maxTxBytes req.txs txs total (by rw [h₂, h₁]; simp) h₃
  exact ⟨by rw [h₄]; exact h₆, k, l, by rw [h₄, h₁, List.map_take], h₅⟩

theorem prepareProposal_fits_hints :
    0 ≤ (⟨100, [[1], [2, 3]]⟩ : PrepareProposalRequest).maxTxBytes ∧
      totalBytes (prepareProposal (creditEnv (fun _ => .ok "") (fun _ => .ok 0)) (some [unsignedTx])
          ⟨100, [[1], [2, 3]]⟩) ≤ (⟨100, [[1], [2, 3]]⟩ : PrepareProposalRequest).maxTxBytes ∧
        ∃ k l, prepareProposal (creditEnv (fun _ => .ok "") (fun _ => .ok 0)) (some [unsignedTx])
            ⟨100, [[1], [2, 3]]⟩ =
          (((some [unsignedTx]).getD []).take k).map (creditEnv (fun _ => .ok "") (fun _ => .ok 0)).encodeTx ++ l ∧
          l.Sublist (⟨100, [[1], [2, 3]]⟩ : PrepareProposalRequest).txs :=
  ⟨by decide, prepareProposal_fits _ _ _ (by decide)⟩

/-! ## Duplicates -/

theorem takeFitting_take (m : Int) : ∀ (t : Int) (bs : List Bytes), ∃ k, (takeFitting m t bs).1 = bs.take k
  | _, [] => ⟨0, rfl⟩
  | t, b :: bs => by
    unfold takeFitting
    split_ifs
    · exact ⟨0, rfl⟩
    · obtain ⟨k, hk⟩ := takeFitting_take m (t + b.length) bs
      exact ⟨k + 1, by simp [hk]⟩

theorem appendHints_nodup (m : Int) : ∀ (hs txs : List Bytes) (t : Int), txs.Nodup →
    (appendHints m txs t hs).Nodup
  | [], _, _, h => h
  | b :: hs, txs, t, h => by
    unfold appendHints
    split_ifs with hb hd
    · exact h
    · exact appendHints_nodup m hs txs t h
    · refine appendHints_nodup m hs _ _ (List.nodup_append.2 ⟨h, List.nodup_singleton b, ?_⟩)
      simpa using hd

/-- When the mempool's serialisations are distinct, no two entries of the proposal are the
same bytes. The comparison is of bytes only. -/
theorem prepareProposal_nodup (env : Env) (mempool : Option (List Transaction))
    (req : PrepareProposalRequest) (h : ((mempool.getD []).map env.encodeTx).Nodup) :
    (prepareProposal env mempool req).Nodup := by
  obtain ⟨k, hk⟩ := takeFitting_take req.maxTxBytes 0 ((mempool.getD []).map env.encodeTx)
  unfold prepareProposal
  rcases hr : takeFitting req.maxTxBytes 0 ((mempool.getD []).map env.encodeTx) with ⟨txs, total⟩
  rw [hr] at hk
  dsimp only at hk ⊢
  exact appendHints_nodup _ _ _ _ (hk ▸ (List.take_sublist _ _).nodup h)

theorem prepareProposal_nodup_hints :
    (((some [unsignedTx]).getD []).map (creditEnv (fun _ => .ok "") (fun _ => .ok 0)).encodeTx).Nodup ∧
      (prepareProposal (creditEnv (fun _ => .ok "") (fun _ => .ok 0)) (some [unsignedTx])
        ⟨100, [[1], [1], [2]]⟩).Nodup :=
  ⟨by decide, prepareProposal_nodup _ _ _ (by decide)⟩

def spacedEnv : Env := { creditEnv (fun _ => .ok "") (fun _ => .ok 0) with encodeTx := fun _ => [1] }

theorem prepareProposal_repeats_hash :
    prepareProposal spacedEnv (some [unsignedTx]) ⟨100, [[1, 32]]⟩ = [[1], [1, 32]] ∧
      [[1], [1, 32]].map (fun raw => (spacedEnv.decodeTx raw).toOption.map (·.hash)) =
        [some unsignedTx.hash, some unsignedTx.hash] :=
  ⟨rfl, rfl⟩

end OxyChain.Abci

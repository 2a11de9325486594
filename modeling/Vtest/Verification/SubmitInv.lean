import Vtest.Verification.SyncInv

/-! # Submits and context fences keep the invariant

A queued batch of `SUBMIT_CMD2` references each of its syncs into a new submit, which
then joins its queue behind a new pending fence or is freed; an unqueued batch signals
its syncs at once. A context-fence callback pops the submits of the queue stored at its
cookie, up to the one it names, and releases them. -/

namespace Vtest

variable {st : VtestRenderer} {c : ℕ}

/-! ## The sync loop of a batch -/

theorem batchSyncs_waitsOnly (now c : ℕ) (queued : Bool) (syncs : ℕ → ℕ) :
    ∀ (is : List ℕ) (st : VtestRenderer),
    WaitsOnly st (vtestSubmitCmd2BatchSyncs now c queued syncs st is).1
  | [], st => .refl st
  | i :: is, st => by
    simp only [vtestSubmitCmd2BatchSyncs]
    split
    · exact .refl st
    · split
      · exact (WaitsOnly.of_pool st _).trans (batchSyncs_waitsOnly now c queued syncs is _)
      · exact (signalSync_waitsOnly now st _ _).trans (batchSyncs_waitsOnly now c queued syncs is _)

theorem batchSyncs_of_not_mem (now c : ℕ) (queued : Bool) (syncs : ℕ → ℕ) {d : ℕ} :
    ∀ (is : List ℕ) (st : VtestRenderer), d ∉ st.activeContexts →
    (vtestSubmitCmd2BatchSyncs now c queued syncs st is).1.contexts d = st.contexts d
  | [], _, _ => rfl
  | i :: is, st, hd => by
    simp only [vtestSubmitCmd2BatchSyncs]
    split
    · rfl
    · split
      · exact batchSyncs_of_not_mem now c queued syncs is _ hd
      · rw [batchSyncs_of_not_mem now c queued syncs is _
          (by rwa [(signalSync_waitsOnly now st _ _).activeContexts]),
          signalSync_of_not_mem now st _ _ hd]

/-- An unqueued batch keeps no slot. -/
theorem batchSyncs_unqueued (now c : ℕ) (syncs : ℕ → ℕ) :
    ∀ (is : List ℕ) (st : VtestRenderer), (vtestSubmitCmd2BatchSyncs now c false syncs st is).2.1 = []
  | [], _ => rfl
  | i :: is, st => by
    simp only [vtestSubmitCmd2BatchSyncs, Bool.false_eq_true, ↓reduceIte]
    split
    · rfl
    · exact batchSyncs_unqueued now c syncs is _

/-- The loop takes one reference per slot it fills, for context `c`. -/
theorem SyncLedger.batchSyncs (now : ℕ) (queued : Bool) (syncs : ℕ → ℕ) :
    ∀ (is : List ℕ) (st : VtestRenderer) (X : List (ℕ × ℕ)), c ∈ st.activeContexts →
    st.activeContexts.Nodup → SyncLedger st.pool (st.syncRefs ++ X) →
    SyncLedger (vtestSubmitCmd2BatchSyncs now c queued syncs st is).1.pool
      ((vtestSubmitCmd2BatchSyncs now c queued syncs st is).1.syncRefs ++
        tagged c ((vtestSubmitCmd2BatchSyncs now c queued syncs st is).2.1.map Prod.fst) ++ X)
  | [], _, _, _, _, h => by simpa using h
  | i :: is, st, X, hc, hnd, h => by
    simp only [vtestSubmitCmd2BatchSyncs]
    split
    · simpa using h
    · rename_i s hs
      split
      · have h1 := h.ref (c := c) (s := s) (List.mem_append_left _ (mem_syncRefs_of_tableGet hc hs))
        have h2 := SyncLedger.batchSyncs now queued syncs is { st with pool := vtestRefSync st.pool s }
          ((c, s) :: X) hc hnd (h1.perm List.perm_middle.symm)
        refine h2.perm ?_
        simp only [List.map_cons, tagged_cons, List.append_assoc, List.cons_append]
        exact List.Perm.append_left _ List.perm_middle
      · have hw := signalSync_waitsOnly now st s (vtestSyncDecodeIdAndValue syncs i).2
        exact SyncLedger.batchSyncs now queued syncs is _ X (hw.activeContexts ▸ hc)
          (hw.activeContexts ▸ hnd) (SyncLedger.signalSync now _ _ hnd h)

/-- A queued batch's loop changes only the pool. -/
theorem batchSyncs_queued (now c : ℕ) (syncs : ℕ → ℕ) :
    ∀ (is : List ℕ) (st : VtestRenderer), (vtestSubmitCmd2BatchSyncs now c true syncs st is).1 =
      { st with pool := (vtestSubmitCmd2BatchSyncs now c true syncs st is).1.pool }
  | [], _ => rfl
  | i :: is, st => by
    simp only [vtestSubmitCmd2BatchSyncs, ↓reduceIte]
    split
    · rfl
    · rw [batchSyncs_queued now c syncs is]

/-! ## The end of a batch -/

/-- The end of a queued batch keeps the invariant, given the references its submit holds
and a cookie no pending fence carries. -/
theorem SyncInv.submitCmd2BatchFinish (h : SyncInv st) (hc : c ∈ st.activeContexts)
    {p : SyncPool} {submit : VtestSyncQueueSubmit}
    (hl : SyncLedger p (st.syncRefs ++ tagged c submit.refs)) (hsq : submit.syncQueue.1 = c)
    (hfresh : ∀ f ∈ st.fences, f.cookie ≠ submit.cookie) (hcookie : submit.cookie < st.nextCookie)
    (n : ℕ) (batch : VcmdSubmitCmd2Batch) (io : SubmitCmd2Io) (found : Bool) :
    SyncInv (vtestSubmitCmd2BatchFinish c n { st with pool := p } batch io true submit found).1 := by
  have hfree := SyncLedger.unrefs (hl.perm List.perm_append_comm)
  have hold : ∀ f ∈ st.fences, FenceOk { st with
      submitMemory := Function.update st.submitMemory submit.cookie submit.syncQueue } f :=
    fun f hf => by
      obtain ⟨h1, h2, h3⟩ := h.fences f hf
      exact ⟨h1, by dsimp only; rw [Function.update_noteq (hfresh f hf)]; exact h2, h3⟩
  rcases submitCmd2BatchFinish_cases c n { st with pool := p } batch io true submit found with
    ⟨h0, -⟩ | ⟨-, -, he⟩ | ⟨-, -, he⟩ | ⟨-, -, he⟩
  · cases h0
  all_goals rw [he]
  · exact h.of_local hc rfl rfl rfl (fun _ _ => rfl) hfree (h.keys c hc) (h.keys_nodup c hc)
      (h.fences_of_eq rfl rfl rfl rfl)
  · exact h.of_local hc rfl rfl rfl (fun _ _ => rfl) hfree (h.keys c hc) (h.keys_nodup c hc) hold
  · refine h.of_local hc rfl rfl rfl (fun d hd => by simp [hd]) (hl.perm ?_)
      (by simpa only [modifyContext_contexts, if_pos] using h.keys c hc)
      (by simpa only [modifyContext_contexts, if_pos] using h.keys_nodup c hc) ?_
    · have := syncRefs_modify_perm st (A := submit.refs) (B := []) hc h.active_nodup
        (f := fun x => { x with
          syncQueues := Function.update x.syncQueues submit.syncQueue.2
            (x.syncQueues submit.syncQueue.2 ++ [submit]),
          appended := Function.update x.appended submit.syncQueue.2
            (x.appended submit.syncQueue.2 ++ [submit]) }) (by
          have hpush := queuedSubmits_push_perm (x := st.contexts c)
            (y := { st.contexts c with
              syncQueues := Function.update (st.contexts c).syncQueues submit.syncQueue.2
                ((st.contexts c).syncQueues submit.syncQueue.2 ++ [submit]),
              appended := Function.update (st.contexts c).appended submit.syncQueue.2
                ((st.contexts c).appended submit.syncQueue.2 ++ [submit]) }) rfl
          simp only [VtestContext.syncRefs, List.append_nil]
          exact List.perm_iff_count.mpr fun a => by
            have := hpush.count_eq a
            simp only [List.count_append] at this ⊢
            omega)
      simpa using (this.trans List.perm_append_comm).symm
    · simp only [modifyContext_fences, List.mem_append, List.mem_singleton]
      rintro f (hf | rfl)
      · exact hold f hf
      · exact ⟨hc, by simp [hsq], by simpa using hcookie⟩

/-- A new cookie keeps the invariant. -/
theorem SyncInv.nextCookie_succ (h : SyncInv st) : SyncInv { st with nextCookie := st.nextCookie + 1 } :=
  { h with
    fences := fun f hf => by
      obtain ⟨h1, h2, h3⟩ := h.fences f hf
      exact ⟨h1, h2, Nat.lt_succ_of_lt h3⟩ }

/-- `vtest_submit_cmd2_batch` keeps the invariant. -/
theorem SyncInv.submitCmd2Batch (h : SyncInv st) (hc : c ∈ st.activeContexts) (now n : ℕ)
    (batch : VcmdSubmitCmd2Batch) (buf : ℕ → ℕ) (io : SubmitCmd2Io) :
    SyncInv (vtestSubmitCmd2Batch now c n st batch buf io).1 := by
  let st0 : VtestRenderer := { st with
    rendererLog := st.rendererLog ++ [RendererCall.submitCmd c batch.cmdOffset batch.cmdSize] }
  have h0 : SyncInv st0 := h.of_syncFrame hc ((SyncFrame.refl c st).log _)
  rcases submitCmd2Batch_cases now c n st batch buf io with he | he | he <;> rw [he]
  · exact h0
  · have hl := SyncLedger.batchSyncs now false (fun j => buf (batch.syncOffset + j))
      (List.range batch.syncCount) st0 [] hc h0.active_nodup (by simpa using h0.ledger)
    rw [batchSyncs_unqueued] at hl
    exact h0.of_waitsOnly (batchSyncs_waitsOnly _ _ _ _ _ _)
      (fun _ hd => batchSyncs_of_not_mem _ _ _ _ _ _ hd) (by simpa using hl)
  · have h1 := h0.nextCookie_succ
    have hl := SyncLedger.batchSyncs now true (fun j => buf (batch.syncOffset + j))
      (List.range batch.syncCount) { st0 with nextCookie := st0.nextCookie + 1 } [] hc
      h1.active_nodup (by simpa using h1.ledger)
    rw [batchSyncs_queued] at hl ⊢
    exact h1.submitCmd2BatchFinish hc (by simpa [VtestSyncQueueSubmit.refs] using hl) rfl
      (fun f hf => (h0.fences f hf).2.2.ne) (Nat.lt_succ_self _) _ _ _ _

theorem submitCmd2BatchFinish_activeContexts (c n : ℕ) (st : VtestRenderer)
    (batch : VcmdSubmitCmd2Batch) (io : SubmitCmd2Io) (queued : Bool)
    (submit : VtestSyncQueueSubmit) (found : Bool) :
    (vtestSubmitCmd2BatchFinish c n st batch io queued submit found).1.activeContexts =
      st.activeContexts := by
  rcases submitCmd2BatchFinish_cases c n st batch io queued submit found with
    ⟨-, he⟩ | ⟨-, -, he⟩ | ⟨-, -, he⟩ | ⟨-, -, he⟩ <;> rw [he]
  rfl

theorem submitCmd2Batch_activeContexts (now c n : ℕ) (st : VtestRenderer)
    (batch : VcmdSubmitCmd2Batch) (buf : ℕ → ℕ) (io : SubmitCmd2Io) :
    (vtestSubmitCmd2Batch now c n st batch buf io).1.activeContexts = st.activeContexts := by
  rcases submitCmd2Batch_cases now c n st batch buf io with he | he | he <;> rw [he] <;>
    simp only [submitCmd2BatchFinish_activeContexts, (batchSyncs_waitsOnly _ _ _ _ _ _).activeContexts]

theorem SyncInv.submitCmd2Batches (now lengthDw : ℕ) (buf : ℕ → ℕ) (io : SubmitCmd2Io) :
    ∀ (is : List ℕ) (st : VtestRenderer), SyncInv st → c ∈ st.activeContexts →
    SyncInv (vtestSubmitCmd2Batches now c lengthDw buf io st is).1
  | [], _, h, _ => h
  | i :: is, st, h, hc => by
    simp only [vtestSubmitCmd2Batches]
    split
    · exact h
    · have h1 := h.submitCmd2Batch hc now i (vtestSubmitCmd2DecodeBatch buf i) buf io
      split
      · exact h1
      · exact SyncInv.submitCmd2Batches now lengthDw buf io is _ h1
          (by rw [submitCmd2Batch_activeContexts]; exact hc)

/-- `vtest_submit_cmd2` keeps the invariant. -/
theorem SyncInv.submitCmd2 (h : SyncInv st) (hc : c ∈ st.activeContexts) (now lengthDw : ℕ)
    (buf : ℕ → ℕ) (io : SubmitCmd2Io) : SyncInv (vtestSubmitCmd2 now st c lengthDw buf io).1 := by
  rcases submitCmd2_cases now st c lengthDw buf io with he | ⟨b, is, he⟩ <;> rw [he]
  exacts [h, h.submitCmd2Batches now lengthDw b io _ _ hc]

/-! ## Context fences -/

theorem signalSubmit_of_not_mem (now : ℕ) {d : ℕ} :
    ∀ (slots : List (ℕ × ℕ)) (st : VtestRenderer), d ∉ st.activeContexts →
    (vtestSignalSubmit now st slots).contexts d = st.contexts d
  | [], _, _ => rfl
  | (s, v) :: rest, st, hd => by
    simp only [vtestSignalSubmit]
    rw [signalSubmit_of_not_mem now rest _ (by rwa [(signalSync_waitsOnly now st s v).activeContexts])]
    exact signalSync_of_not_mem now st s v hd

theorem SyncStep.signalSubmit (now : ℕ) (slots : List (ℕ × ℕ)) (st : VtestRenderer) :
    SyncStep st (vtestSignalSubmit now st slots) :=
  .of_waitsOnly (signalSubmit_waitsOnly now slots st) fun _ hd => signalSubmit_of_not_mem now slots st hd

theorem SyncStep.pop (hc : c ∈ st.activeContexts) (q : Fin 64) (submit : VtestSyncQueueSubmit)
    (rest : List VtestSyncQueueSubmit) : SyncStep st (st.modifyContext c (popSubmit q submit rest)) :=
  ⟨rfl, rfl, rfl, rfl, rfl, rfl, fun d => by by_cases hd : d = c <;> simp [hd, popSubmit],
    fun d hd => by simp [show d ≠ c from fun e => hd (e ▸ hc)]⟩

theorem SyncStep.signalSyncQueue (now : ℕ) (q : Fin 64) (toSubmit : ℕ) :
    ∀ (l : List VtestSyncQueueSubmit) (st : VtestRenderer), c ∈ st.activeContexts →
    SyncStep st (vtestSignalSyncQueue now c q toSubmit st l)
  | [], st, _ => .refl st
  | submit :: rest, st, hc => by
    simp only [vtestSignalSyncQueue]
    have h1 := (SyncStep.pop hc q submit rest).trans (.signalSubmit now submit.slots _)
    split
    · exact h1
    · exact h1.trans (SyncStep.signalSyncQueue now q toSubmit rest _ (h1.activeContexts ▸ hc))

/-- A context-fence callback for a pending fence keeps the invariant. -/
theorem SyncInv.contextFence (h : SyncInv st) {f : PendingFence} (hf : f ∈ st.fences) (now : ℕ) :
    SyncInv (vtestWriteContextFence now { st with fences := st.fences.erase f } f.cookie) := by
  let st1 := { st with fences := st.fences.erase f }
  have h1 : SyncInv st1 := { h with fences := fun g hg => h.fences g (List.erase_subset _ _ hg) }
  obtain ⟨hc, hq, -⟩ := h.fences f hf
  unfold vtestWriteContextFence
  dsimp only
  rw [hq]
  exact h1.of_syncStep (SyncStep.signalSyncQueue now _ _ _ st1 hc) (by
    simpa using SyncLedger.signalSyncQueue (X := []) _ st1 hc h1.active_nodup rfl
      (by simpa using h1.ledger))

end Vtest

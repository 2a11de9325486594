import Vtest.Verification.QueueInv

/-! # Sync values are 64-bit

A sync's value is written in two places only: `vtest_new_sync`, with the value
`SYNC_CREATE` decoded, and `vtest_signal_sync`, with the value `SYNC_WRITE` or a
`SUBMIT_CMD2` entry decoded, or the value a queued submit kept until its fence. Every
decode is `lo | hi << 32` of two `uint32_t` words, so every value a sync holds, and every
value a queued submit will assign, is a `uint64_t`. -/

namespace Vtest

/-- Every sync's value, and every value a queued submit will assign, fits in 64 bits. -/
structure ValueInv (st : VtestRenderer) : Prop where
  values : ∀ s, st.pool.value s < 2 ^ 64
  queued : ∀ c q, ∀ x ∈ (st.contexts c).syncQueues q, ∀ e ∈ x.slots, e.2 < 2 ^ 64

variable {st st' : VtestRenderer} {c : ℕ}

theorem update_value_lt {f : ℕ → ℕ} (h : ∀ t, f t < 2 ^ 64) {s v : ℕ} (hv : v < 2 ^ 64) (t : ℕ) :
    Function.update f s v t < 2 ^ 64 := by
  rw [Function.update_apply]
  split
  exacts [hv, h t]

/-- `SYNC_WAIT` only references and unreferences syncs. -/
theorem syncWait_value (now : ℕ) (st : VtestRenderer) (c lengthDw : ℕ) (buf : ℕ → ℕ)
    (io : SyncWaitIo) : (vtestSyncWait now st c lengthDw buf io).1.pool.value = st.pool.value := by
  rcases syncWait_cases now st c lengthDw buf io with he | ⟨b, ⟨n, p, hi, he⟩ | ⟨n, p, w, hi, he⟩⟩ <;>
    rw [he]
  · exact syncWaitInit_value hi
  · rw [syncWaitFinish_eq]
    split_ifs <;> simp [writeReady, syncWaitInit_value hi]

namespace ValueInv

theorem of_frame (h : ValueInv st) (hq : ∀ c, (st'.contexts c).syncQueues = (st.contexts c).syncQueues)
    (hv : st'.pool.value = st.pool.value) : ValueInv st' :=
  ⟨fun s => hv ▸ h.values s, fun c q => hq c ▸ h.queued c q⟩

theorem signalSync (h : ValueInv st) (now : ℕ) {s v : ℕ} (hv : v < 2 ^ 64) :
    ValueInv (vtestSignalSync now st s v) :=
  ⟨by rw [signalSync_value]; exact update_value_lt h.values hv,
    fun c => (signalSync_waitsOnly now st s v).syncQueues c ▸ h.queued c⟩

/-! ## The timeline commands -/

theorem syncCreate (h : ValueInv st) (lo hi : ℕ) (mallocOk writeOk : Bool) :
    ValueInv (vtestSyncCreate st c lo hi mallocOk writeOk).1 := by
  refine ⟨fun t => ?_, fun d => (queueFrame_syncCreate st c lo hi mallocOk writeOk).syncQueues d ▸ h.queued d⟩
  unfold vtestSyncCreate
  split
  · exact h.values t
  · rename_i p s hn
    have hlt : u32 lo + u32 hi * 2 ^ 32 < 2 ^ 64 := by
      have := u32_lt lo; have := u32_lt hi; omega
    have hp := update_value_lt h.values (s := s) hlt t
    rw [← value_newSync hn] at hp
    split <;> simpa using hp

theorem syncUnref (h : ValueInv st) (syncId : ℕ) : ValueInv (vtestSyncUnref st c syncId).1 :=
  h.of_frame (queueFrame_syncUnref st c syncId).syncQueues (by simp [vtestSyncUnref])

theorem syncWrite (h : ValueInv st) (now syncId lo hi : ℕ) :
    ValueInv (vtestSyncWrite now st c syncId lo hi).1 := by
  unfold vtestSyncWrite
  dsimp only
  split
  · exact h
  · exact h.signalSync now (decode_value_lt _ _)

theorem syncWait (h : ValueInv st) (now lengthDw : ℕ) (buf : ℕ → ℕ) (io : SyncWaitIo) :
    ValueInv (vtestSyncWait now st c lengthDw buf io).1 :=
  h.of_frame (queueFrame_syncWait now st c lengthDw buf io).syncQueues (syncWait_value ..)

/-! ## `SUBMIT_CMD2` -/

/-- The sync loop of a batch keeps the invariant, and the slots it fills for a queued
submit hold decoded values. -/
theorem batchSyncs (now c : ℕ) (queued : Bool) (syncs : ℕ → ℕ) :
    ∀ (is : List ℕ) (st : VtestRenderer), ValueInv st →
    ValueInv (vtestSubmitCmd2BatchSyncs now c queued syncs st is).1 ∧
      ∀ e ∈ (vtestSubmitCmd2BatchSyncs now c queued syncs st is).2.1, e.2 < 2 ^ 64
  | [], _, h => ⟨h, fun _ he => by cases he⟩
  | i :: is, st, h => by
    simp only [vtestSubmitCmd2BatchSyncs]
    split
    · exact ⟨h, fun _ he => by cases he⟩
    next s _ =>
    split
    · have hr := batchSyncs now c queued syncs is { st with pool := vtestRefSync st.pool s }
        (h.of_frame (fun _ => rfl) (SyncPool.value_refSync st.pool s))
      refine ⟨hr.1, fun e he => ?_⟩
      rcases List.mem_cons.mp he with rfl | he
      exacts [decode_value_lt syncs i, hr.2 e he]
    · exact batchSyncs now c queued syncs is _ (h.signalSync now (decode_value_lt syncs i))

theorem submitCmd2BatchFinish (h : ValueInv st) {submit : VtestSyncQueueSubmit}
    (hs : ∀ e ∈ submit.slots, e.2 < 2 ^ 64) (n : ℕ) (batch : VcmdSubmitCmd2Batch)
    (io : SubmitCmd2Io) (queued found : Bool) :
    ValueInv (vtestSubmitCmd2BatchFinish c n st batch io queued submit found).1 := by
  rcases submitCmd2BatchFinish_cases c n st batch io queued submit found with
    ⟨-, hf⟩ | ⟨-, -, hf⟩ | ⟨-, -, hf⟩ | ⟨-, -, hf⟩ <;> rw [hf]
  · exact h
  iterate 2 exact h.of_frame (fun _ => rfl) (SyncPool.value_freeSyncQueueSubmit _ _)
  refine ⟨h.values, fun d q' x hx e he => ?_⟩
  by_cases hd : d = c
  · subst hd
    simp only [modifyContext_contexts, if_true, Function.update_apply] at hx
    split at hx
    · rcases List.mem_append.mp hx with hx | hx
      · exact h.queued _ _ x hx e he
      · exact hs e (List.mem_singleton.mp hx ▸ he)
    · exact h.queued _ _ x hx e he
  · simp only [modifyContext_contexts, if_neg hd] at hx
    exact h.queued d q' x hx e he

theorem submitCmd2Batch (h : ValueInv st) (now n : ℕ) (batch : VcmdSubmitCmd2Batch)
    (buf : ℕ → ℕ) (io : SubmitCmd2Io) : ValueInv (vtestSubmitCmd2Batch now c n st batch buf io).1 := by
  rcases submitCmd2Batch_cases now c n st batch buf io with he | he | he <;> rw [he]
  · exact ⟨h.values, h.queued⟩
  · exact (batchSyncs now c _ _ _ _ (by exact ⟨h.values, h.queued⟩)).1
  · refine submitCmd2BatchFinish ?_ ?_ _ _ _ _ _
    exacts [(batchSyncs now c _ _ _ _ (by exact ⟨h.values, h.queued⟩)).1,
      (batchSyncs now c _ _ _ _ (by exact ⟨h.values, h.queued⟩)).2]

theorem submitCmd2Batches (now lengthDw : ℕ) (buf : ℕ → ℕ) (io : SubmitCmd2Io) :
    ∀ (is : List ℕ) (st : VtestRenderer), ValueInv st →
    ValueInv (vtestSubmitCmd2Batches now c lengthDw buf io st is).1
  | [], _, h => h
  | i :: is, st, h => by
    simp only [vtestSubmitCmd2Batches]
    have h1 := h.submitCmd2Batch (c := c) now i (vtestSubmitCmd2DecodeBatch buf i) buf io
    split
    · exact h
    · split
      · exact h1
      · exact submitCmd2Batches now lengthDw buf io is _ h1

theorem submitCmd2 (h : ValueInv st) (now lengthDw : ℕ) (buf : ℕ → ℕ) (io : SubmitCmd2Io) :
    ValueInv (vtestSubmitCmd2 now st c lengthDw buf io).1 := by
  rcases submitCmd2_cases now st c lengthDw buf io with he | ⟨b, is, he⟩ <;> rw [he]
  exacts [h, h.submitCmd2Batches now lengthDw b io _ _]

/-! ## Fence callbacks -/

theorem signalSubmit (now : ℕ) : ∀ (l : List (ℕ × ℕ)) (st : VtestRenderer), ValueInv st →
    (∀ e ∈ l, e.2 < 2 ^ 64) → ValueInv (vtestSignalSubmit now st l)
  | [], _, h, _ => h
  | (s, v) :: rest, st, h, hl => by
    simp only [vtestSignalSubmit]
    refine signalSubmit now rest _ ?_ fun e he => hl e (.tail _ he)
    exact (h.signalSync now (hl _ (.head _))).of_frame (fun _ => rfl) (SyncPool.value_unrefSync _ _)

/-- Popping the head of a queue leaves the rest of it. -/
theorem pop (h : ValueInv st) {q : Fin 64} {submit : VtestSyncQueueSubmit}
    {rest : List VtestSyncQueueSubmit} (hq : (st.contexts c).syncQueues q = submit :: rest) :
    ValueInv (st.modifyContext c (popSubmit q submit rest)) := by
  refine ⟨h.values, fun d q' x hx => ?_⟩
  by_cases hd : d = c
  · simp only [modifyContext_contexts, hd, if_true, popSubmit, Function.update_apply] at hx
    split at hx
    · exact h.queued c q x (by rw [hq]; exact .tail _ hx)
    · exact h.queued c q' x hx
  · simp only [modifyContext_contexts, if_neg hd] at hx
    exact h.queued d q' x hx

theorem signalSyncQueue (now : ℕ) (q : Fin 64) (toSubmit : ℕ) :
    ∀ (l : List VtestSyncQueueSubmit) (st : VtestRenderer), ValueInv st →
    (st.contexts c).syncQueues q = l → ValueInv (vtestSignalSyncQueue now c q toSubmit st l)
  | [], _, h, _ => h
  | submit :: rest, st, h, hq => by
    have hw := signalSubmit_waitsOnly now submit.slots (st.modifyContext c (popSubmit q submit rest))
    have h2 := (h.pop hq).signalSubmit now _ _ (h.queued c q submit (hq ▸ .head _))
    simp only [vtestSignalSyncQueue]
    split
    · exact h2
    · exact signalSyncQueue now q toSubmit rest _ h2 (by simp [hw.syncQueues, popSubmit])

theorem contextFence (h : ValueInv st) (now cookie : ℕ) :
    ValueInv (vtestWriteContextFence now st cookie) :=
  signalSyncQueue now _ _ _ _ h rfl

/-! ## Contexts -/

theorem newContext (h : ValueInv st) {ok : Bool} {st1 : VtestRenderer}
    (he : vtestNewContext st ok = some (st1, c)) : ValueInv st1 := by
  unfold vtestNewContext at he
  split at he
  · obtain ⟨rfl, rfl⟩ := Prod.mk.inj (Option.some.inj he)
    exact h.of_frame (fun d => by simp only [modifyContext_contexts]; split <;> simp_all) rfl
  · split at he
    · obtain ⟨rfl, rfl⟩ := Prod.mk.inj (Option.some.inj he)
      refine ⟨h.values, fun d q x hx => ?_⟩
      by_cases hd : d = st.nextContextId
      · subst hd
        simp [VtestContext.empty] at hx
      · exact h.queued d q x (by simpa [hd] using hx)
    · cases he

theorem createContext (h : ValueInv st) (length : ℕ) (mallocOk callocOk readOk : Bool) :
    ValueInv (vtestCreateContext st length mallocOk callocOk readOk).1 := by
  unfold vtestCreateContext
  split
  · exact h
  split
  · exact h
  have h1 := h.newContext ‹_›
  split <;> exact ⟨h1.values, h1.queued⟩

theorem destroyContext (h : ValueInv st) (c : ℕ) : ValueInv (vtestDestroyContext st c) := by
  unfold vtestDestroyContext
  dsimp only
  generalize hp : vtestUnrefSyncs _ _ = p
  have hf := SyncFrame.unrefResources c { st with pool := p } (st.contexts c).resourceTable
  generalize vtestUnrefResources { st with pool := p } (st.contexts c).resourceTable = st1 at hf
  refine ⟨fun s => ?_, fun d q x hx => ?_⟩
  · rw [modifyContext_pool, hf.pool, ← hp]
    simpa [foldl_freeSyncWait, foldl_freeSyncQueueSubmit] using h.values s
  · by_cases hd : d = c
    · simp [hd] at hx
    · simp only [modifyContext_contexts, if_neg hd, hf.syncQueues] at hx
      exact h.queued d q x hx

/-! ## Runs -/

theorem init (multiClients : Bool) : ValueInv (VtestRenderer.init multiClients) where
  values _ := Nat.two_pow_pos 64
  queued _ _ _ hx := by cases hx

theorem runCommand (h : ValueInv st) (now : ℕ) (cmd : Command) : ValueInv (runCommand now st c cmd) := by
  have hsf : ∀ {st'}, SyncFrame c st st' → ValueInv st' := fun hf =>
    h.of_frame (fun d => hf.syncQueues d) (by rw [hf.pool])
  cases cmd with
  | syncCreate lo hi mallocOk writeOk => exact h.syncCreate lo hi mallocOk writeOk
  | syncUnref syncId => exact h.syncUnref syncId
  | syncWrite syncId lo hi => exact h.syncWrite now syncId lo hi
  | syncWait lengthDw buf io => exact h.syncWait now lengthDw buf io
  | submitCmd2 lengthDw buf io => exact h.submitCmd2 now lengthDw buf io
  | submitCmd lengthDw mallocOk input r => exact hsf (.submitCmd st lengthDw mallocOk input r)
  | resourceCreate handle shmSize io => exact hsf (.createResourceInternal st handle shmSize io)
  | resourceCreateBlob size io => exact hsf (.resourceCreateBlob st size io)
  | resourceUnref handle => exact hsf (.resourceUnref st handle)
  | protocolVersion v server readOk shmOk writeOk =>
    exact hsf (.protocolVersion st v server readOk shmOk writeOk)
  | contextInit capsetId r => exact hsf (.contextInit st capsetId r)
  | lazyInitContext r => exact hsf (.lazyInitContext st r)

theorem step (h : ValueInv st) (e : Event) : ValueInv (Vtest.step st e) := by
  cases e with
  | createContext length mallocOk callocOk readOk =>
    exact h.createContext length mallocOk callocOk readOk
  | command c cmd now =>
    simp only [Vtest.step]
    split
    · exact ValueInv.runCommand (by exact ⟨h.values, h.queued⟩) now cmd
    · exact h
  | contextFence cookie now =>
    simp only [Vtest.step]
    split
    · exact ValueInv.contextFence (by exact ⟨h.values, h.queued⟩) now cookie
    · exact h
  | implicitFence fenceId =>
    simp only [Vtest.step]
    split <;> exact ⟨h.values, h.queued⟩
  | destroyContext c =>
    simp only [Vtest.step]
    split
    · exact h.destroyContext c
    · exact h
  | setMaxLength length => exact ⟨h.values, h.queued⟩

end ValueInv

end Vtest

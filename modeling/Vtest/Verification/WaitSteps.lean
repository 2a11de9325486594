import Vtest.Verification.WaitInv

/-! # Every step keeps the wait invariant

Submits and fence callbacks change waits only through `vtest_signal_sync`. `SYNC_WAIT`
gives its wait the next fd, and queues it only when it is not ready and has a
timeout. `SYNC_CREATE` sets the value of a sync that no wait holds. A context joins the
active list with no waits, and leaves it with them. -/

namespace Vtest

variable {st : VtestRenderer} {c : ℕ}

/-! ## `SUBMIT_CMD2` -/

theorem WaitInv.batchSyncs (now c : ℕ) (queued : Bool) (syncs : ℕ → ℕ) :
    ∀ (is : List ℕ) (st : VtestRenderer), WaitInv st → st.activeContexts.Nodup →
    WaitInv (vtestSubmitCmd2BatchSyncs now c queued syncs st is).1
  | [], _, h, _ => h
  | i :: is, st, h, hnd => by
    simp only [vtestSubmitCmd2BatchSyncs]
    split
    · exact h
    · split
      · exact WaitInv.batchSyncs now c queued syncs is _ (h.pool (by simp)) hnd
      · exact WaitInv.batchSyncs now c queued syncs is _ (h.signalSync hnd _ _ _)
          (by rwa [(signalSync_waitsOnly _ _ _ _).activeContexts])

theorem WaitInv.submitCmd2BatchFinish (h : WaitInv st) (n : ℕ) (batch : VcmdSubmitCmd2Batch)
    (io : SubmitCmd2Io) (queued : Bool) (submit : VtestSyncQueueSubmit) (found : Bool) :
    WaitInv (vtestSubmitCmd2BatchFinish c n st batch io queued submit found).1 := by
  rcases submitCmd2BatchFinish_cases c n st batch io queued submit found with
    ⟨-, he⟩ | ⟨-, -, he⟩ | ⟨-, -, he⟩ | ⟨-, -, he⟩ <;> rw [he] <;>
    exact h.of_frame rfl (fun d _ => by by_cases hd : d = c <;> simp [hd]) (by simp) rfl le_rfl

theorem WaitInv.submitCmd2Batch (h : WaitInv st) (hnd : st.activeContexts.Nodup) (now n : ℕ)
    (batch : VcmdSubmitCmd2Batch) (buf : ℕ → ℕ) (io : SubmitCmd2Io) :
    WaitInv (vtestSubmitCmd2Batch now c n st batch buf io).1 := by
  have h0 : WaitInv { st with rendererLog :=
      st.rendererLog ++ [RendererCall.submitCmd c batch.cmdOffset batch.cmdSize] } :=
    h.of_frame rfl (fun _ _ => rfl) rfl rfl le_rfl
  rcases submitCmd2Batch_cases now c n st batch buf io with he | he | he <;> rw [he]
  · exact h0
  · exact WaitInv.batchSyncs _ _ _ _ _ _ h0 hnd
  · refine (WaitInv.batchSyncs _ _ _ _ _ _ ?_ ?_).submitCmd2BatchFinish _ _ _ _ _ _
    exacts [h0.of_frame rfl (fun _ _ => rfl) rfl rfl le_rfl, hnd]

theorem WaitInv.submitCmd2Batches (now lengthDw : ℕ) (buf : ℕ → ℕ) (io : SubmitCmd2Io) :
    ∀ (is : List ℕ) (st : VtestRenderer), WaitInv st → st.activeContexts.Nodup →
    WaitInv (vtestSubmitCmd2Batches now c lengthDw buf io st is).1
  | [], _, h, _ => h
  | i :: is, st, h, hnd => by
    simp only [vtestSubmitCmd2Batches]
    have h1 := h.submitCmd2Batch (c := c) hnd now i (vtestSubmitCmd2DecodeBatch buf i) buf io
    split
    · exact h
    · split
      · exact h1
      · exact WaitInv.submitCmd2Batches now lengthDw buf io is _ h1
          (by rwa [submitCmd2Batch_activeContexts])

theorem WaitInv.submitCmd2 (h : WaitInv st) (hnd : st.activeContexts.Nodup) (now lengthDw : ℕ)
    (buf : ℕ → ℕ) (io : SubmitCmd2Io) : WaitInv (vtestSubmitCmd2 now st c lengthDw buf io).1 := by
  rcases submitCmd2_cases now st c lengthDw buf io with he | ⟨b, is, he⟩ <;> rw [he]
  exacts [h, h.submitCmd2Batches now lengthDw b io _ _ hnd]

/-! ## The timeline commands -/

/-- A pending pair of a queued wait is a reference of its context. -/
theorem mem_syncRefs_of_pending (hc : c ∈ st.activeContexts) {w : VtestSyncWait}
    (hw : w ∈ (st.contexts c).syncWaits) {e : ℕ × ℕ} (he : e ∈ w.pending) :
    (c, e.1) ∈ st.syncRefs :=
  mem_syncRefs hc (by
    simp only [VtestContext.syncRefs, List.mem_append, List.mem_flatMap]
    exact .inl (.inr ⟨w, hw, by rw [VtestSyncWait.refs_eq]; exact List.mem_map_of_mem _ he⟩))

/-- `SYNC_CREATE` sets the value of a sync no wait holds. -/
theorem WaitInv.syncCreate (h : WaitInv st) (hs : SyncInv st) (lo hi : ℕ) (mallocOk writeOk : Bool) :
    WaitInv (vtestSyncCreate st c lo hi mallocOk writeOk).1 := by
  unfold vtestSyncCreate
  split
  · exact h
  rename_i p s hn
  have hz := hs.ledger.new_fresh hn
  have hp : WaitInv { st with pool := p } :=
    h.of_le (fun d hd w hw => (h.ok d hd w hw).of_le fun e he => by
      rw [value_newSync hn, Function.update_apply,
        if_neg fun hes => refCount_eq_zero.mp hz _ (mem_syncRefs_of_pending hd hw he) hes])
      (fun _ => .inl) (fun _ => le_rfl) le_rfl
  split
  all_goals
    exact hp.of_frame rfl (fun d _ => by by_cases hd : d = c <;> simp [hd]) (by simp) rfl le_rfl

theorem WaitInv.syncUnref (h : WaitInv st) (syncId : ℕ) : WaitInv (vtestSyncUnref st c syncId).1 := by
  unfold vtestSyncUnref
  exact h.of_frame rfl (fun d _ => by by_cases hd : d = c <;> simp [hd]) (by simp) rfl le_rfl

theorem WaitInv.syncWrite (h : WaitInv st) (hnd : st.activeContexts.Nodup) (now syncId lo hi : ℕ) :
    WaitInv (vtestSyncWrite now st c syncId lo hi).1 := by
  unfold vtestSyncWrite
  dsimp only
  split
  · exact h
  · exact h.signalSync hnd _ _ _

/-! ## `SYNC_WAIT` -/

section SyncWaitInit

variable (table : List (ℕ × ℕ)) (syncs : ℕ → ℕ)

theorem syncWaitInitSlots_value : ∀ (is : List ℕ) (p : SyncPool),
    (vtestSyncWaitInitSlots table syncs p is).1.value = p.value
  | [], _ => rfl
  | i :: is, p => by
    simp only [vtestSyncWaitInitSlots]
    split
    · rfl
    · split <;> simp [syncWaitInitSlots_value is]

/-- The slots of `vtest_sync_wait_init` are the resolved pairs whose sync is still below
its threshold. -/
theorem syncWaitInitSlots_slots : ∀ (is : List ℕ) (p : SyncPool),
    (vtestSyncWaitInitSlots table syncs p is).2.1 =
      ((vtestSyncWaitInitSlots table syncs p is).2.2.1.filter fun e => p.value e.1 < e.2).map
        fun e => (some e.1, e.2)
  | [], _ => rfl
  | i :: is, p => by
    simp only [vtestSyncWaitInitSlots]
    split
    · rfl
    · split
      · rename_i hlt
        rw [syncWaitInitSlots_slots is, SyncPool.value_refSync]
        simp [List.filter_cons, SyncPool.value, hlt]
      · rename_i hge
        rw [syncWaitInitSlots_slots is]
        simp [List.filter_cons, SyncPool.value, hge]

/-- When every id is found, every entry is resolved. -/
theorem syncWaitInitSlots_found : ∀ (is : List ℕ) (p : SyncPool),
    (vtestSyncWaitInitSlots table syncs p is).2.2.2 = true →
    (vtestSyncWaitInitSlots table syncs p is).2.2.1.length = is.length
  | [], _, _ => rfl
  | i :: is, p, h => by
    cases hg : tableGet table (vtestSyncDecodeIdAndValue syncs i).1 with
    | none => simp [vtestSyncWaitInitSlots, hg] at h
    | some s =>
      simp only [vtestSyncWaitInitSlots, hg] at h ⊢
      by_cases hlt : (p.syncs s).value < (vtestSyncDecodeIdAndValue syncs i).2 <;>
        simp only [hlt, ↓reduceIte] at h ⊢ <;> simp [syncWaitInitSlots_found is _ h]

end SyncWaitInit

theorem pendingSlots_map_some (l : List (ℕ × ℕ)) :
    pendingSlots (l.map fun e => (some e.1, e.2)) = l := by
  induction l with
  | nil => rfl
  | cons e l ih => simp [ih]

variable {p p' : SyncPool} {table : List (ℕ × ℕ)} {fd flags timeout now n : ℕ} {syncs : ℕ → ℕ}

theorem syncWaitInit_value {o : Option VtestSyncWait}
    (he : vtestSyncWaitInit p table fd flags timeout now syncs n = (p', o)) : p'.value = p.value := by
  unfold vtestSyncWaitInit at he
  dsimp only at he
  split at he <;> cases he <;> simp [syncWaitInitSlots_value]

theorem syncWaitInit_fd {w : VtestSyncWait}
    (he : vtestSyncWaitInit p table fd flags timeout now syncs n = (p', some w)) : w.fd = fd := by
  unfold vtestSyncWaitInit at he
  dsimp only at he
  split at he <;> cases he
  rfl

/-- A wait that `vtest_sync_wait` queues, not ready and with a timeout, is unready. -/
theorem syncWaitInit_ok {w : VtestSyncWait}
    (he : vtestSyncWaitInit p table fd flags timeout now syncs n = (p', some w))
    (hr : w.isReady n = false) (ht : timeout ≠ 0) : WaitOk p'.value w := by
  have hv := syncWaitInit_value he
  unfold vtestSyncWaitInit at he
  dsimp only at he
  split at he
  · rename_i hf
    cases he
    rw [hv]
    have hs := syncWaitInitSlots_slots table syncs (List.range n) p
    have hl := syncWaitInitSlots_found table syncs (List.range n) p hf
    simp only [VtestSyncWait.isReady, VtestSyncWait.count, Bool.or_eq_false_iff,
      decide_eq_false_iff_not, Bool.and_eq_false_iff] at hr
    simp only [List.length_range] at hl
    have hle := List.length_filter_le (fun e => decide (p.value e.1 < e.2))
      (vtestSyncWaitInitSlots table syncs p (List.range n)).2.2.1
    refine ⟨?_, ?_, ?_, ?_, ht, fun ha => ⟨rfl, ?_⟩⟩ <;>
      simp only [VtestSyncWait.pending, VtestSyncWait.count, hs, pendingSlots_map_some,
        List.length_map] at hr ⊢
    · omega
    · intro e he; simpa using (List.mem_filter.mp he).2
    · exact List.filter_sublist _
    · omega
    · rcases hr.2 with h | h
      · simp [ha] at h
      · omega
  · cases he

/-- A wait that `vtest_sync_wait` finds ready is written with a pair of its request
already at its threshold, and in `ALL` mode with no slot. -/
theorem syncWaitInit_notify {w : VtestSyncWait}
    (he : vtestSyncWaitInit p table fd flags timeout now syncs n = (p', some w))
    (hr : w.isReady n = true) : NotifyOk ⟨w, w.request.map fun e => (p'.syncs e.1).value⟩ := by
  have hv := syncWaitInit_value he
  unfold vtestSyncWaitInit at he
  dsimp only at he
  split at he
  · rename_i hf
    cases he
    have hs := syncWaitInitSlots_slots table syncs (List.range n) p
    have hl := syncWaitInitSlots_found table syncs (List.range n) p hf
    simp only [List.length_range] at hl
    simp only [VtestSyncWait.isReady, VtestSyncWait.count, Bool.or_eq_true, decide_eq_true_eq,
      Bool.and_eq_true, hs, List.length_map] at hr
    refine NotifyOk.of_reached (fun hne => ?_) (fun ha => ?_)
    · have hlt : ((vtestSyncWaitInitSlots table syncs p (List.range n)).2.2.1.filter
          fun e => p.value e.1 < e.2).length < (vtestSyncWaitInitSlots table syncs p (List.range n)).2.2.1.length := by
        have := List.length_pos.mpr hne
        dsimp only at this
        rcases hr with hr | hr <;> omega
      obtain ⟨e, he, hle⟩ := List.length_filter_lt_length_iff_exists.mp hlt
      refine ⟨e, he, ?_⟩
      have := congrFun hv e.1
      simp only [SyncPool.value, decide_eq_true_eq, not_lt] at this hle ⊢
      omega
    · simp only [ha, Bool.false_eq_true, false_and, or_false] at hr
      simp only [VtestSyncWait.pending, hs, pendingSlots_map_some]
      exact List.eq_nil_of_length_eq_zero hr
  · cases he

/-- What the end of `vtest_sync_wait` does: a ready wait is written and freed; an unready
one is freed when the reply fails or it has no timeout, and queued otherwise. -/
theorem syncWaitFinish_eq (st : VtestRenderer) (c : ℕ) (w : VtestSyncWait) (n timeout : ℕ)
    (writeOk sendOk : Bool) :
    (vtestSyncWaitFinish st c w n timeout writeOk sendOk).1 =
      if w.isReady n then { writeReady st w with pool := vtestFreeSyncWait st.pool w }
      else if (writeOk && sendOk) = false ∨ timeout = 0 then
        { st with pool := vtestFreeSyncWait st.pool w }
      else st.modifyContext c fun x => { x with syncWaits := x.syncWaits ++ [w] } := by
  unfold vtestSyncWaitFinish
  cases w.isReady n
  · have hr : ((if (!writeOk) = true then -eio else if (!sendOk) = true then -einval else (0 : ℤ)) ≠ 0) ↔
        (writeOk && sendOk) = false := by
      cases writeOk <;> cases sendOk <;> decide
    simp only [Bool.false_eq_true, false_or, ↓reduceIte, hr]
    exact apply_ite Prod.fst _ _ _
  · simp only [↓reduceIte, or_true, true_or]
    rfl

/-- The end of `vtest_sync_wait` keeps the invariant: the new wait has the next fd, and
is queued only when it is unready. -/
theorem WaitInv.syncWaitFinish (h : WaitInv st) (hc : c ∈ st.activeContexts)
    (hnd : st.activeContexts.Nodup) (hp : p.value = st.pool.value) {w : VtestSyncWait}
    (hfd : w.fd = st.nextFd) (hok : w.isReady n = false → timeout ≠ 0 → WaitOk p.value w)
    (hready : w.isReady n = true → NotifyOk ⟨w, w.request.map fun e => (p.syncs e.1).value⟩)
    (writeOk sendOk : Bool) :
    WaitInv (vtestSyncWaitFinish { st with pool := p, nextFd := st.nextFd + 1 } c w n timeout
      writeOk sendOk).1 := by
  have hL : (st.nextFd :: st.waitFds).Nodup :=
    List.nodup_cons.mpr ⟨fun hm => lt_irrefl _ (h.fds_lt _ hm), h.fds_nodup⟩
  have hlt : ∀ f ∈ st.nextFd :: st.waitFds, f < st.nextFd + 1 := by
    intro f hf
    rcases List.mem_cons.mp hf with rfl | hf
    · exact Nat.lt_succ_self _
    · exact Nat.lt_succ_of_lt (h.fds_lt f hf)
  have hold : ∀ d ∈ st.activeContexts, ∀ x ∈ (st.contexts d).syncWaits, WaitOk p.value x :=
    fun d hd x hx => hp ▸ h.ok d hd x hx
  have hcons : ∀ f, (st.waitFds ++ [w.fd]).count f ≤ (st.nextFd :: st.waitFds).count f := fun f => by
    rw [hfd, (List.perm_append_singleton _ _).count_eq]
  rw [syncWaitFinish_eq]
  split_ifs with hr hq
  · refine .of_count hL hlt (fun d hd x hx => by simpa using hold d hd x hx) (fun x hx => ?_)
      fun f => (hcons f).trans_eq' ?_
    · simp only [writeReady, List.mem_append, List.mem_singleton] at hx
      rcases hx with hx | rfl
      · exact h.notified_ok x hx
      · exact hready hr
    exact congrArg (List.count f) (waitFds_writeReady { st with pool := p, nextFd := st.nextFd + 1 } w)
  · exact .of_count hL hlt (fun d hd x hx => by simpa using hold d hd x hx) h.notified_ok
      fun f => List.count_le_count_cons _ _ _
  · refine .of_count hL hlt (fun d hd x hx => ?_) h.notified_ok (fun f => ?_)
    · by_cases hdc : d = c
      · subst hdc
        simp only [modifyContext_contexts, if_true, List.mem_append, List.mem_singleton] at hx
        rcases hx with hx | rfl
        · exact hold d hd x hx
        · exact hok (by simpa using hr) fun ht => hq (.inr ht)
      · simp only [modifyContext_contexts, if_neg hdc] at hx
        exact hold d hd x hx
    · have hm := count_waitFds_modify ({ st with pool := p, nextFd := st.nextFd + 1 }.modifyContext
        c fun x => { x with syncWaits := x.syncWaits ++ [w] }) hc hnd rfl (fun d hd => by simp [hd]) f
      have hw := hcons f
      simp only [modifyContext_contexts, if_true, List.map_append, List.map_singleton, List.count_append,
        VtestRenderer.notifiedFds, modifyContext_notified] at hm hw
      omega

/-- `vtest_sync_wait` keeps the invariant. -/
theorem WaitInv.syncWait (h : WaitInv st) (hc : c ∈ st.activeContexts) (hnd : st.activeContexts.Nodup)
    (now lengthDw : ℕ) (buf : ℕ → ℕ) (io : SyncWaitIo) :
    WaitInv (vtestSyncWait now st c lengthDw buf io).1 := by
  rcases syncWait_cases now st c lengthDw buf io with he | ⟨b, ⟨n, p, hi, he⟩ | ⟨n, p, w, hi, he⟩⟩ <;>
    rw [he]
  · exact h
  · exact h.of_frame rfl (fun _ _ => rfl) (syncWaitInit_value hi) rfl (Nat.le_succ _)
  · exact h.syncWaitFinish hc hnd (syncWaitInit_value hi) (syncWaitInit_fd hi)
      (fun hr ht => syncWaitInit_ok hi hr ht) (fun hr => syncWaitInit_notify hi hr) _ _

/-! ## Contexts -/

theorem WaitInv.newContext (h : WaitInv st) (hs : SyncInv st) {ok : Bool} {st1 : VtestRenderer}
    (he : vtestNewContext st ok = some (st1, c)) : WaitInv st1 := by
  unfold vtestNewContext at he
  split at he
  · obtain ⟨rfl, rfl⟩ := Prod.mk.inj (Option.some.inj he)
    exact h.of_frame rfl (fun e _ => by simp only [modifyContext_contexts]; split <;> simp_all)
      rfl rfl le_rfl
  · split at he
    · obtain ⟨rfl, rfl⟩ := Prod.mk.inj (Option.some.inj he)
      exact h.of_frame rfl (fun d hd => by
        simp only [Function.update_noteq (Nat.ne_of_lt (hs.bound d (.inl hd)))]) rfl rfl le_rfl
    · cases he

theorem WaitInv.activate (h : WaitInv st) (hx : (st.contexts c).syncWaits = []) :
    WaitInv { st with activeContexts := st.activeContexts ++ [c] } := by
  refine h.of_le (fun d hd w hw => ?_) (fun _ => .inl) (fun f => ?_) le_rfl
  · rcases List.mem_append.mp hd with hd | hd
    · exact h.ok d hd w hw
    · rw [List.mem_singleton.mp hd, hx] at hw; cases hw
  · simp [VtestRenderer.waitFds, VtestRenderer.queuedWaits, VtestRenderer.notifiedFds, hx]

theorem WaitInv.createContext (h : WaitInv st) (hs : SyncInv st) (length : ℕ)
    (mallocOk callocOk readOk : Bool) :
    WaitInv (vtestCreateContext st length mallocOk callocOk readOk).1 := by
  unfold vtestCreateContext
  split
  · exact h
  split
  · exact h
  rename_i st1 c he
  have h1 := h.newContext hs he
  split
  · exact h1.of_frame rfl (fun _ _ => rfl) rfl rfl le_rfl
  · exact h1.activate (hs.newContext_record he).1.2.2.2

/-- Removing an active context drops its waits' fds and keeps the others. -/
theorem count_waitFds_erase {st' : VtestRenderer} (hc : c ∈ st.activeContexts)
    (hnd : st.activeContexts.Nodup) (hact : st'.activeContexts = st.activeContexts.erase c)
    (hother : ∀ d, d ≠ c → (st'.contexts d).syncWaits = (st.contexts d).syncWaits)
    (hn : st'.notified = st.notified) (f : ℕ) : st'.waitFds.count f ≤ st.waitFds.count f := by
  have hperm := (flatMap_perm_erase (f := fun d => (st.contexts d).syncWaits) hc hnd).map
    VtestSyncWait.fd
  simp only [VtestRenderer.waitFds, VtestRenderer.queuedWaits, VtestRenderer.notifiedFds, hact, hn,
    List.flatMap_congr fun d hd => hother d (hnd.mem_erase_iff.mp hd).1, List.count_append,
    hperm.count_eq, List.map_append]
  omega

/-- `vtest_destroy_context` frees the waits of the context it removes from the active
list. -/
theorem WaitInv.destroyContext (h : WaitInv st) (hs : SyncInv st) (hc : c ∈ st.activeContexts) :
    WaitInv (vtestDestroyContext st c) := by
  have hnd := hs.active_nodup
  unfold vtestDestroyContext
  dsimp only
  generalize hp : vtestUnrefSyncs _ _ = p
  have hv : p.value = st.pool.value := by
    rw [← hp, SyncPool.value_unrefSyncs, foldl_freeSyncWait, SyncPool.value_unrefSyncs,
      foldl_freeSyncQueueSubmit, SyncPool.value_unrefSyncs]
  have hf := SyncFrame.unrefResources c { st with pool := p } (st.contexts c).resourceTable
  generalize vtestUnrefResources { st with pool := p } (st.contexts c).resourceTable = st1 at hf
  refine h.of_le (fun d hd w hw => ?_) (fun n hn => .inl (by simpa [hf.notified] using hn))
    (count_waitFds_erase hc hnd rfl
    (fun d hd => by simp [hd, hf.syncWaits d]) hf.notified) (by rw [hf.eq]; exact le_rfl)
  obtain ⟨hdc, hd⟩ := hnd.mem_erase_iff.mp hd
  simp only [modifyContext_contexts, if_neg hdc, modifyContext_pool] at hw ⊢
  rw [hf.pool, hv]
  exact h.ok d hd w (hf.syncWaits d ▸ hw)

/-! ## Runs -/

theorem WaitInv.init (multiClients : Bool) : WaitInv (VtestRenderer.init multiClients) where
  ok _ hd := by cases hd
  notified_ok _ hn := by cases hn
  fds_nodup := by simp [VtestRenderer.waitFds, VtestRenderer.queuedWaits, VtestRenderer.notifiedFds,
    VtestRenderer.init]
  fds_lt _ hf := by
    simp [VtestRenderer.waitFds, VtestRenderer.queuedWaits, VtestRenderer.notifiedFds,
      VtestRenderer.init] at hf

/-- A client command on an active context keeps the invariant. -/
theorem WaitInv.runCommand (h : WaitInv st) (hs : SyncInv st) (hc : c ∈ st.activeContexts)
    (now : ℕ) (cmd : Command) : WaitInv (runCommand now st c cmd) := by
  cases cmd with
  | syncCreate lo hi mallocOk writeOk => exact h.syncCreate hs lo hi mallocOk writeOk
  | syncUnref syncId => exact h.syncUnref syncId
  | syncWrite syncId lo hi => exact h.syncWrite hs.active_nodup now syncId lo hi
  | syncWait lengthDw buf io => exact h.syncWait hc hs.active_nodup now lengthDw buf io
  | submitCmd2 lengthDw buf io => exact h.submitCmd2 hs.active_nodup now lengthDw buf io
  | submitCmd lengthDw mallocOk input r => exact h.of_syncFrame (.submitCmd st lengthDw mallocOk input r)
  | resourceCreate handle shmSize io => exact h.of_syncFrame (.createResourceInternal st handle shmSize io)
  | resourceCreateBlob size io => exact h.of_syncFrame (.resourceCreateBlob st size io)
  | resourceUnref handle => exact h.of_syncFrame (.resourceUnref st handle)
  | protocolVersion v server readOk shmOk writeOk =>
    exact h.of_syncFrame (.protocolVersion st v server readOk shmOk writeOk)
  | contextInit capsetId r => exact h.of_syncFrame (.contextInit st capsetId r)
  | lazyInitContext r => exact h.of_syncFrame (.lazyInitContext st r)

/-- Every step keeps the invariant. -/
theorem WaitInv.step (h : WaitInv st) (hs : SyncInv st) (e : Event) : WaitInv (Vtest.step st e) := by
  have hframe : ∀ {st' : VtestRenderer}, st'.activeContexts = st.activeContexts →
      st'.contexts = st.contexts → st'.pool = st.pool → st'.notified = st.notified →
      st'.nextFd = st.nextFd → WaitInv st' := fun ha hc hp hn hf =>
    h.of_frame ha (fun d _ => by rw [hc]) (by rw [hp]) hn (by rw [hf])
  cases e with
  | createContext length mallocOk callocOk readOk =>
    exact h.createContext hs length mallocOk callocOk readOk
  | command c cmd now =>
    simp only [Vtest.step]
    split
    · rename_i hc
      refine WaitInv.runCommand ?_ ?_ ?_ now cmd
      · exact hframe rfl rfl rfl rfl rfl
      · exact hs.of_syncFrame hc ⟨rfl, fun _ => rfl, fun _ _ => rfl⟩
      · exact hc
    · exact h
  | contextFence cookie now =>
    simp only [Vtest.step]
    split
    · refine WaitInv.contextFence ?_ ?_ now cookie
      · exact hframe rfl rfl rfl rfl rfl
      · exact hs.active_nodup
    · exact h
  | implicitFence fenceId =>
    simp only [Vtest.step]
    split
    · exact hframe rfl rfl rfl rfl rfl
    · exact h
  | destroyContext c =>
    simp only [Vtest.step]
    split
    · exact h.destroyContext hs ‹_›
    · exact h
  | setMaxLength length => exact hframe rfl rfl rfl rfl rfl

/-- Every reachable state satisfies the wait invariant. -/
theorem Reachable.waitInv (h : Reachable st) : WaitInv st := by
  induction h with
  | init multiClients => exact WaitInv.init multiClients
  | step e hr ih => exact ih.step hr.syncInv e

end Vtest

import Vtest.Verification.Signal
import Vtest.Verification.Frame

/-! # The invariant of the sync subsystem

`SyncInv` collects what every reachable state satisfies: the sync ledger against the
active contexts' references, the bookkeeping of the context lists, sync tables keyed
by the ids of their syncs, and pending fences whose cookies name live queues. This
module proves that the handlers of the timeline commands keep it. -/

namespace Vtest

/-- A context with no tables, no queued submits and no waits. -/
def VtestContext.IsEmpty (x : VtestContext) : Prop :=
  x.resourceTable = [] ∧ x.syncTable = [] ∧ (∀ q, x.syncQueues q = []) ∧ x.syncWaits = []

theorem VtestContext.IsEmpty.syncRefs {x : VtestContext} (h : x.IsEmpty) : x.syncRefs = [] := by
  obtain ⟨-, ht, hq, hw⟩ := h
  have hs : x.queuedSubmits = [] := List.flatMap_eq_nil_iff.mpr fun q _ => hq q
  simp only [VtestContext.syncRefs, ht, hw, hs, List.map_nil, List.flatMap_nil, List.append_nil]

/-- The bookkeeping of a pending context fence: its context is active, and the
`sync_queue` stored at its cookie names that context. -/
def FenceOk (st : VtestRenderer) (f : PendingFence) : Prop :=
  f.ctxId ∈ st.activeContexts ∧ (st.submitMemory f.cookie).1 = f.ctxId ∧ f.cookie < st.nextCookie

structure SyncInv (st : VtestRenderer) : Prop where
  ledger : SyncLedger st.pool st.syncRefs
  active_nodup : st.activeContexts.Nodup
  free_nodup : st.freeContexts.Nodup
  active_free : ∀ c ∈ st.freeContexts, c ∉ st.activeContexts
  bound : ∀ c, c ∈ st.activeContexts ∨ c ∈ st.freeContexts → c < st.nextContextId
  free_empty : ∀ c ∈ st.freeContexts, (st.contexts c).IsEmpty
  keys : ∀ c ∈ st.activeContexts, ∀ e ∈ (st.contexts c).syncTable, e.1 = e.2
  keys_nodup : ∀ c ∈ st.activeContexts, ((st.contexts c).syncTable.map Prod.fst).Nodup
  fences : ∀ f ∈ st.fences, FenceOk st f

variable {st st' : VtestRenderer} {c : ℕ}

theorem mem_syncRefs {s : ℕ} (hc : c ∈ st.activeContexts) (hs : s ∈ (st.contexts c).syncRefs) :
    (c, s) ∈ st.syncRefs := by
  simp only [VtestRenderer.syncRefs, refsOf, List.mem_flatMap]
  exact ⟨c, hc, List.mem_map_of_mem _ hs⟩

/-- A sync found in an active context's table is referenced by that context. -/
theorem mem_syncRefs_of_tableGet (hc : c ∈ st.activeContexts) {k s : ℕ}
    (hg : tableGet (st.contexts c).syncTable k = some s) : (c, s) ∈ st.syncRefs :=
  mem_syncRefs hc (by
    simp only [VtestContext.syncRefs, List.mem_append, List.mem_map]
    exact .inl (.inl ⟨(k, s), Vtest.mem_of_tableGet hg, rfl⟩))

/-- Changing one active context's record by references `A` in and `B` out. -/
theorem syncRefs_modify_perm (st : VtestRenderer) (hc : c ∈ st.activeContexts)
    (hnd : st.activeContexts.Nodup)
    {f : VtestContext → VtestContext} {A B : List ℕ}
    (hAB : ((f (st.contexts c)).syncRefs ++ B).Perm (A ++ (st.contexts c).syncRefs)) :
    ((st.modifyContext c f).syncRefs ++ tagged c B).Perm (tagged c A ++ st.syncRefs) := by
  simp only [VtestRenderer.syncRefs, VtestRenderer.modifyContext]
  refine ((refsOf_update_perm _ hc hnd).append_right _).trans ?_
  refine List.Perm.trans ?_ ((refsOf_perm hc hnd).append_left _).symm
  have hmap := hAB.map (c, ·)
  exact List.perm_iff_count.mpr fun a => by
    have := hmap.count_eq a
    simp only [tagged, List.map_append, List.count_append] at this ⊢
    omega

/-- A step that changes the pool, one active context's record and nothing else the
invariant reads keeps the invariant when it keeps the ledger and the table keys. -/
theorem SyncInv.of_local (h : SyncInv st) (hc : c ∈ st.activeContexts)
    (hact : st'.activeContexts = st.activeContexts) (hfree : st'.freeContexts = st.freeContexts)
    (hnext : st'.nextContextId = st.nextContextId)
    (hother : ∀ d, d ≠ c → st'.contexts d = st.contexts d)
    (hl : SyncLedger st'.pool st'.syncRefs)
    (hk : ∀ e ∈ (st'.contexts c).syncTable, e.1 = e.2)
    (hkn : ((st'.contexts c).syncTable.map Prod.fst).Nodup)
    (hf : ∀ f ∈ st'.fences, FenceOk st' f) : SyncInv st' where
  ledger := hl
  active_nodup := hact ▸ h.active_nodup
  free_nodup := hfree ▸ h.free_nodup
  active_free d hd := by rw [hact]; exact h.active_free d (hfree ▸ hd)
  bound d hd := by rw [hact, hfree] at hd; rw [hnext]; exact h.bound d hd
  free_empty d hd := by
    rw [hfree] at hd
    have hdc : d ≠ c := fun e => h.active_free d hd (e ▸ hc)
    rw [hother d hdc]; exact h.free_empty d hd
  keys d hd := by
    rw [hact] at hd
    by_cases hdc : d = c
    · subst hdc; exact hk
    · rw [hother d hdc]; exact h.keys d hd
  keys_nodup d hd := by
    rw [hact] at hd
    by_cases hdc : d = c
    · subst hdc; exact hkn
    · rw [hother d hdc]; exact h.keys_nodup d hd
  fences := hf

/-- The fences are untouched. -/
theorem SyncInv.fences_of_eq (h : SyncInv st) (hact : st'.activeContexts = st.activeContexts)
    (hfe : st'.fences = st.fences) (hm : st'.submitMemory = st.submitMemory)
    (hn : st'.nextCookie = st.nextCookie) : ∀ f ∈ st'.fences, FenceOk st' f := by
  intro f hf
  rw [hfe] at hf
  obtain ⟨h1, h2, h3⟩ := h.fences f hf
  exact ⟨hact ▸ h1, hm ▸ h2, hn ▸ h3⟩

/-- `st'` agrees with `st` on the context lists, the fences and cookies, the sync
tables, and every context that is not active: what a release of queued submits keeps. -/
structure SyncStep (st st' : VtestRenderer) : Prop where
  activeContexts : st'.activeContexts = st.activeContexts
  freeContexts : st'.freeContexts = st.freeContexts
  nextContextId : st'.nextContextId = st.nextContextId
  fences : st'.fences = st.fences
  submitMemory : st'.submitMemory = st.submitMemory
  nextCookie : st'.nextCookie = st.nextCookie
  syncTable : ∀ d, (st'.contexts d).syncTable = (st.contexts d).syncTable
  inactive : ∀ d, d ∉ st.activeContexts → st'.contexts d = st.contexts d

theorem SyncStep.refl (st : VtestRenderer) : SyncStep st st :=
  ⟨rfl, rfl, rfl, rfl, rfl, rfl, fun _ => rfl, fun _ _ => rfl⟩

theorem SyncStep.trans {st'' : VtestRenderer} (h : SyncStep st st') (h' : SyncStep st' st'') :
    SyncStep st st'' where
  activeContexts := h'.activeContexts.trans h.activeContexts
  freeContexts := h'.freeContexts.trans h.freeContexts
  nextContextId := h'.nextContextId.trans h.nextContextId
  fences := h'.fences.trans h.fences
  submitMemory := h'.submitMemory.trans h.submitMemory
  nextCookie := h'.nextCookie.trans h.nextCookie
  syncTable d := (h'.syncTable d).trans (h.syncTable d)
  inactive d hd := (h'.inactive d (h.activeContexts ▸ hd)).trans (h.inactive d hd)

theorem SyncStep.of_waitsOnly (hw : WaitsOnly st st')
    (hin : ∀ d, d ∉ st.activeContexts → st'.contexts d = st.contexts d) : SyncStep st st' :=
  ⟨hw.activeContexts, hw.freeContexts, hw.nextContextId, hw.fences, hw.submitMemory,
    hw.nextCookie, hw.syncTable, hin⟩

/-- A step that keeps the context lists, fences, sync tables and inactive contexts keeps
the invariant when it keeps the ledger. -/
theorem SyncInv.of_syncStep (h : SyncInv st) (hs : SyncStep st st')
    (hl : SyncLedger st'.pool st'.syncRefs) : SyncInv st' where
  ledger := hl
  active_nodup := hs.activeContexts ▸ h.active_nodup
  free_nodup := hs.freeContexts ▸ h.free_nodup
  active_free d hd := by rw [hs.activeContexts]; exact h.active_free d (hs.freeContexts ▸ hd)
  bound d hd := by
    rw [hs.activeContexts, hs.freeContexts] at hd; rw [hs.nextContextId]; exact h.bound d hd
  free_empty d hd := by
    rw [hs.freeContexts] at hd
    rw [hs.inactive d (h.active_free d hd)]; exact h.free_empty d hd
  keys d hd := by rw [hs.syncTable]; exact h.keys d (hs.activeContexts ▸ hd)
  keys_nodup d hd := by rw [hs.syncTable]; exact h.keys_nodup d (hs.activeContexts ▸ hd)
  fences := h.fences_of_eq hs.activeContexts hs.fences hs.submitMemory hs.nextCookie

/-- A step that only rewrites wait lists of active contexts keeps the invariant when it
keeps the ledger. -/
theorem SyncInv.of_waitsOnly (h : SyncInv st) (hw : WaitsOnly st st')
    (hin : ∀ d, d ∉ st.activeContexts → st'.contexts d = st.contexts d)
    (hl : SyncLedger st'.pool st'.syncRefs) : SyncInv st' :=
  h.of_syncStep (.of_waitsOnly hw hin) hl

/-- A step outside the sync subsystem keeps the invariant. -/
theorem SyncInv.of_syncFrame (h : SyncInv st) (hc : c ∈ st.activeContexts) (hf : SyncFrame c st st') :
    SyncInv st' :=
  h.of_local hc hf.activeContexts hf.freeContexts hf.nextContextId hf.other
    (hf.pool ▸ hf.syncRefs ▸ h.ledger) (hf.syncTable c ▸ h.keys c hc)
    (hf.syncTable c ▸ h.keys_nodup c hc)
    (h.fences_of_eq hf.activeContexts hf.fences hf.submitMemory hf.nextCookie)

/-- `vtest_signal_sync` keeps the invariant. -/
theorem SyncInv.signalSync (h : SyncInv st) (now s v : ℕ) : SyncInv (vtestSignalSync now st s v) :=
  h.of_waitsOnly (signalSync_waitsOnly now st s v) (fun _ hd => signalSync_of_not_mem now st s v hd)
    (by simpa using SyncLedger.signalSync now s v (X := []) h.active_nodup (by simpa using h.ledger))

theorem mem_syncRefs_of_mem_table (hc : c ∈ st.activeContexts) {e : ℕ × ℕ}
    (he : e ∈ (st.contexts c).syncTable) : (c, e.2) ∈ st.syncRefs :=
  mem_syncRefs hc (by
    simp only [VtestContext.syncRefs, List.mem_append, List.mem_map]
    exact .inl (.inl ⟨e, he, rfl⟩))

/-- A sync nobody references is not in an active context's table. -/
theorem SyncInv.tableGet_fresh (h : SyncInv st) (hc : c ∈ st.activeContexts) {s : ℕ}
    (hz : refCount st.syncRefs s = 0) : tableGet (st.contexts c).syncTable s = none :=
  tableGet_of_forall fun e he hes => by
    have hm := mem_syncRefs_of_mem_table hc he
    rw [← h.keys c hc e he, hes] at hm
    exact refCount_eq_zero.mp hz _ hm rfl

/-- `vtest_sync_create` keeps the invariant. -/
theorem SyncInv.syncCreate (h : SyncInv st) (hc : c ∈ st.activeContexts) (lo hi : ℕ)
    (mallocOk writeOk : Bool) : SyncInv (vtestSyncCreate st c lo hi mallocOk writeOk).1 := by
  unfold vtestSyncCreate
  split
  · exact h
  · rename_i p s hn
    have hl := h.ledger.new (c := c) hn
    have hnone := h.tableGet_fresh hc (h.ledger.new_fresh hn)
    split
    · simp only [tableSet, hnone, destroySync, filter_key_of_none hnone]
      refine h.of_local hc rfl rfl rfl (fun d hd => by simp [hd]) (hl.perm ?_) ?_ ?_
        (h.fences_of_eq rfl rfl rfl rfl)
      · have := syncRefs_modify_perm { st with pool := p } (A := [s]) (B := []) hc
          h.active_nodup (f := fun x => { x with syncTable := (s, s) :: x.syncTable })
          (by simp [VtestContext.syncRefs, VtestContext.queuedSubmits])
        simpa using this.symm
      · simp only [modifyContext_contexts, if_true, List.mem_cons]
        rintro e (rfl | he)
        · rfl
        · exact h.keys c hc e he
      · simp only [modifyContext_contexts, if_true, List.map_cons, List.nodup_cons]
        exact ⟨fun hm => by
          obtain ⟨e, he, hes⟩ := List.mem_map.mp hm
          exact tableGet_eq_none hnone e he hes, h.keys_nodup c hc⟩
    · exact h.of_local hc rfl rfl rfl (fun _ _ => rfl) hl.unref (h.keys c hc) (h.keys_nodup c hc)
        (h.fences_of_eq rfl rfl rfl rfl)

/-- `vtest_sync_unref` keeps the invariant: the table entry's reference goes with it. -/
theorem SyncInv.syncUnref (h : SyncInv st) (hc : c ∈ st.activeContexts) (syncId : ℕ) :
    SyncInv (vtestSyncUnref st c syncId).1 := by
  unfold vtestSyncUnref tableRemove
  have hk : ∀ e ∈ (st.contexts c).syncTable.filter (fun e => e.1 != u32 syncId), e.1 = e.2 :=
    fun e he => h.keys c hc e (List.mem_filter.mp he).1
  have hkn : (((st.contexts c).syncTable.filter (fun e => e.1 != u32 syncId)).map Prod.fst).Nodup :=
    (h.keys_nodup c hc).sublist ((List.filter_sublist _).map _)
  cases hg : tableGet (st.contexts c).syncTable (u32 syncId) with
  | none =>
    simp only [destroySync, filter_key_of_none hg]
    exact h.of_local hc rfl rfl rfl (fun d hd => by simp [hd]) (by
      simpa [VtestRenderer.syncRefs, VtestRenderer.modifyContext] using h.ledger)
      (by simpa only [modifyContext_contexts, if_pos] using h.keys c hc)
      (by simpa only [modifyContext_contexts, if_pos] using h.keys_nodup c hc)
      (h.fences_of_eq rfl rfl rfl rfl)
  | some s =>
    simp only [destroySync]
    refine h.of_local hc rfl rfl rfl (fun d hd => by simp [hd]) ?_
      (by simpa only [modifyContext_contexts, if_pos] using hk)
      (by simpa only [modifyContext_contexts, if_pos] using hkn) (h.fences_of_eq rfl rfl rfl rfl)
    have hp := syncRefs_modify_perm st (A := []) (B := [s]) hc h.active_nodup
      (f := fun x => { x with syncTable := x.syncTable.filter fun e => e.1 != u32 syncId }) (by
        have := (table_remove_perm (h.keys_nodup c hc) hg).append_right
          ((st.contexts c).syncWaits.flatMap VtestSyncWait.refs ++
            (st.contexts c).queuedSubmits.flatMap VtestSyncQueueSubmit.refs)
        rw [List.nil_append]
        simp only [VtestContext.syncRefs, VtestContext.queuedSubmits, List.append_assoc,
          List.cons_append] at this ⊢
        refine List.Perm.trans ?_ this.symm
        exact List.perm_iff_count.mpr fun a => by
          simp only [List.count_append, List.count_cons, List.count_nil]; omega)
    simp only [tagged_nil, List.nil_append] at hp
    exact (h.ledger.perm (hp.symm.trans List.perm_append_comm)).unref

theorem SyncInv.syncWrite (h : SyncInv st) (now syncId lo hi : ℕ) :
    SyncInv (vtestSyncWrite now st c syncId lo hi).1 := by
  unfold vtestSyncWrite
  dsimp only
  split
  · exact h
  · exact h.signalSync _ _ _

/-- The loop of `vtest_sync_wait_init` references only syncs of the context's table. -/
theorem SyncLedger.syncWaitInitSlots {R : List (ℕ × ℕ)} {table : List (ℕ × ℕ)} (syncs : ℕ → ℕ)
    (hmem : ∀ k s, tableGet table k = some s → (c, s) ∈ R) :
    ∀ (is : List ℕ) (p : SyncPool) (X : List (ℕ × ℕ)), SyncLedger p (X ++ R) →
    SyncLedger (vtestSyncWaitInitSlots table syncs p is).1
      (tagged c ((vtestSyncWaitInitSlots table syncs p is).2.1.filterMap Prod.fst) ++ X ++ R)
  | [], _, _, h => h
  | i :: is, p, X, h => by
    simp only [vtestSyncWaitInitSlots]
    split
    · exact h
    · rename_i s hs
      split
      · have h1 := h.ref (c := c) (s := s) (List.mem_append_right _ (hmem _ _ hs))
        have h2 := SyncLedger.syncWaitInitSlots syncs hmem is _ ((c, s) :: X) h1
        simp only [List.filterMap_cons_some, tagged_cons]
        exact h2.perm (by simp only [List.append_assoc]; exact List.perm_middle)
      · exact SyncLedger.syncWaitInitSlots syncs hmem is p X h

/-- `vtest_sync_wait_init` takes one reference per slot it keeps, and gives them back
when an id is missing. -/
theorem SyncLedger.syncWaitInit {R : List (ℕ × ℕ)} {table : List (ℕ × ℕ)}
    (hmem : ∀ k s, tableGet table k = some s → (c, s) ∈ R) {p p' : SyncPool}
    {fd flags timeout now syncCount : ℕ} {syncs : ℕ → ℕ} {o : Option VtestSyncWait}
    (he : vtestSyncWaitInit p table fd flags timeout now syncs syncCount = (p', o))
    (h : SyncLedger p R) : SyncLedger p' (tagged c ((o.map VtestSyncWait.refs).getD []) ++ R) := by
  have hr := SyncLedger.syncWaitInitSlots syncs hmem (List.range syncCount) p [] h
  unfold vtestSyncWaitInit at he
  generalize vtestSyncWaitInitSlots table syncs p (List.range syncCount) = r at hr he
  dsimp only at he
  split at he <;> cases he
  · simpa [VtestSyncWait.refs] using hr
  · exact SyncLedger.unrefs (c := c) (by simpa [VtestSyncWait.refs] using hr)

/-- Writing a ready wait's fd changes only the notifications. -/
theorem writeReady_if (st : VtestRenderer) (w : VtestSyncWait) (b : Bool) :
    (if b then writeReady st w else st) =
      { st with notified := if b then (writeReady st w).notified else st.notified } := by
  cases b <;> rfl

/-- What the end of `vtest_sync_wait` does to the state: the wait is either freed or
queued on context `c`, after its fd may have been written. -/
theorem syncWaitFinish_cases (st : VtestRenderer) (c : ℕ) (w : VtestSyncWait)
    (syncCount timeout : ℕ) (writeOk sendOk : Bool) :
    let st1 := { st with notified := if w.isReady syncCount then (writeReady st w).notified else st.notified }
    (vtestSyncWaitFinish st c w syncCount timeout writeOk sendOk).1 =
        { st1 with pool := vtestFreeSyncWait st.pool w } ∨
      (vtestSyncWaitFinish st c w syncCount timeout writeOk sendOk).1 =
        st1.modifyContext c fun x => { x with syncWaits := x.syncWaits ++ [w] } := by
  unfold vtestSyncWaitFinish
  rw [writeReady_if]
  dsimp only
  generalize (if w.isReady syncCount then (writeReady st w).notified else st.notified) = ns
  generalize (if (!writeOk) = true then -eio else if (!sendOk) = true then -einval else (0 : ℤ)) = ret
  split
  · exact .inl rfl
  · exact .inr rfl

/-- The end of `vtest_sync_wait` keeps the invariant once the new wait's references are
accounted for. -/
theorem SyncInv.syncWaitFinish (h : SyncInv st) (hc : c ∈ st.activeContexts) {p : SyncPool}
    {w : VtestSyncWait} (hl : SyncLedger p (tagged c w.refs ++ st.syncRefs))
    (fd syncCount timeout : ℕ) (writeOk sendOk : Bool) :
    SyncInv (vtestSyncWaitFinish { st with pool := p, nextFd := fd } c w syncCount timeout
      writeOk sendOk).1 := by
  rcases syncWaitFinish_cases { st with pool := p, nextFd := fd } c w syncCount timeout writeOk sendOk
    with he | he <;> rw [he]
  · exact h.of_local hc rfl rfl rfl (fun _ _ => rfl) (SyncLedger.unrefs hl) (h.keys c hc)
      (h.keys_nodup c hc) (h.fences_of_eq rfl rfl rfl rfl)
  · refine h.of_local hc rfl rfl rfl (fun d hd => by simp [hd]) (hl.perm ?_)
      (by simpa only [modifyContext_contexts, if_pos] using h.keys c hc)
      (by simpa only [modifyContext_contexts, if_pos] using h.keys_nodup c hc)
      (h.fences_of_eq rfl rfl rfl rfl)
    have := syncRefs_modify_perm st (A := w.refs) (B := []) hc h.active_nodup
      (f := fun x => { x with syncWaits := x.syncWaits ++ [w] }) (by
        simp only [VtestContext.syncRefs, VtestContext.queuedSubmits, List.flatMap_append, List.flatMap_singleton, List.append_nil]
        exact List.perm_iff_count.mpr fun a => by simp only [List.count_append]; omega)
    simpa using this.symm

/-- `vtest_sync_wait` keeps the invariant. -/
theorem SyncInv.syncWait (h : SyncInv st) (hc : c ∈ st.activeContexts) (now lengthDw : ℕ)
    (buf : ℕ → ℕ) (io : SyncWaitIo) : SyncInv (vtestSyncWait now st c lengthDw buf io).1 := by
  have hmem : ∀ k s, tableGet (st.contexts c).syncTable k = some s → (c, s) ∈ st.syncRefs :=
    fun _ _ hg => mem_syncRefs_of_tableGet hc hg
  rcases syncWait_cases now st c lengthDw buf io with he | ⟨b, ⟨n, p, hi, he⟩ | ⟨n, p, w, hi, he⟩⟩ <;>
    rw [he]
  · exact h
  · exact h.of_local hc rfl rfl rfl (fun _ _ => rfl) (by simpa using h.ledger.syncWaitInit hmem hi)
      (h.keys c hc) (h.keys_nodup c hc) (h.fences_of_eq rfl rfl rfl rfl)
  · exact h.syncWaitFinish hc (by simpa using h.ledger.syncWaitInit hmem hi) _ _ _ _ _

end Vtest

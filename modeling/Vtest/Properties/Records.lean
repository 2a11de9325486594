import Vtest.Verification.Records
import Vtest.Properties.References
import Vtest.Model.Cleanup

/-! # Context and resource records, and the shutdown

The two record allocators never lose or duplicate a record: each context record handed
out is active or free, each resource record is free or held by one table entry of one
active context, and a table maps each key, once, to a record whose `res_id` is that key,
even when a server id collides with a client's handle. Hence `vtest_cleanup_renderer`,
from any reachable state, frees every context, resource and sync record the server ever
numbered exactly once, and its assertion on the free syncs holds. -/

namespace Vtest

variable {st : VtestRenderer} {p : SyncPool}

/-- Every context record numbered so far is active or free, exactly once. -/
theorem context_records_accounted (h : Reachable st) :
    (st.activeContexts ++ st.freeContexts).Perm (handedOut st.nextContextId) :=
  h.recordInv.contexts

/-- Three clients connect, the first leaves, and a fourth receives its record. -/
def recycledContextRun : List Event :=
  [.createContext 0 true true true, .createContext 0 true true true, .destroyContext 1,
    .createContext 0 true true true]

theorem context_records_accounted_recycled :
    ((run (.init false) recycledContextRun).activeContexts ++
        (run (.init false) recycledContextRun).freeContexts).Perm
      (handedOut (run (.init false) recycledContextRun).nextContextId) :=
  context_records_accounted (reachable_run false _)

/-- Every resource record numbered so far is free or held by one table entry of an
active context, exactly once; each table entry `(k, r)` has `res_id` `k` in record `r`,
and no table has a key twice. -/
theorem resource_records_accounted (h : Reachable st) :
    (st.freeResources ++ st.heldResources).Perm (handedOut st.nextResourceId) ∧
      (∀ c ∈ st.activeContexts, ∀ e ∈ (st.contexts c).resourceTable,
        (st.resources e.2).resId = e.1) ∧
      ∀ c ∈ st.activeContexts, ((st.contexts c).resourceTable.map Prod.fst).Nodup :=
  ⟨h.recordInv.resources, h.recordInv.keys, h.recordInv.keys_nodup⟩

/-- A client at protocol version 0 creates resource handle 2, then a resource with
handle 0, whose server id 2 replaces the first entry. -/
def collidingResourceRun : List Event :=
  [.createContext 0 true true true,
    .command 1 (.resourceCreate 2 0 ⟨true, 0, true, true, true⟩) 0,
    .command 1 (.resourceCreate 0 0 ⟨true, 0, true, true, true⟩) 0]

theorem resource_records_accounted_colliding :
    ((run (.init false) collidingResourceRun).freeResources ++
        (run (.init false) collidingResourceRun).heldResources).Perm
        (handedOut (run (.init false) collidingResourceRun).nextResourceId) ∧
      (∀ c ∈ (run (.init false) collidingResourceRun).activeContexts,
        ∀ e ∈ ((run (.init false) collidingResourceRun).contexts c).resourceTable,
          ((run (.init false) collidingResourceRun).resources e.2).resId = e.1) ∧
      ∀ c ∈ (run (.init false) collidingResourceRun).activeContexts,
        (((run (.init false) collidingResourceRun).contexts c).resourceTable.map Prod.fst).Nodup :=
  resource_records_accounted (reachable_run false _)

/-! ## The shutdown -/

theorem handedOut_of_le_one {n : ℕ} (h : n ≤ 1) : handedOut n = [] := by
  rw [handedOut, Nat.sub_eq_zero_of_le h]
  rfl

/-- With no active context, every record handed out is on its free list. -/
theorem Reachable.drained (h : Reachable st) (hnil : st.activeContexts = []) :
    st.freeContexts.Perm (handedOut st.nextContextId) ∧
      st.freeResources.Perm (handedOut st.nextResourceId) ∧ SyncLedger st.pool [] := by
  have hr := h.recordInv
  have hheld : st.heldResources = [] := by rw [VtestRenderer.heldResources, hnil]; rfl
  have hrefs : st.syncRefs = [] := by rw [VtestRenderer.syncRefs, hnil]; rfl
  refine ⟨?_, ?_, hrefs ▸ h.syncInv.ledger⟩
  · simpa [hnil] using hr.contexts
  · simpa [hheld] using hr.resources

/-- A sync pool with no reference left has every sync it numbered on its free list. -/
theorem SyncLedger.free_perm (h : SyncLedger p []) : p.freeSyncs.Perm (handedOut p.nextSyncId) :=
  (List.perm_ext_iff_of_nodup h.free_nodup (nodup_handedOut _)).mpr fun s => by
    rw [h.mem_free, mem_handedOut]
    simp [refCount]

theorem foldl_destroyContext_eq_run : ∀ (cs : List ℕ) (st : VtestRenderer), st.activeContexts = cs →
    cs.foldl vtestDestroyContext st = run st (cs.map Event.destroyContext)
  | [], _, _ => rfl
  | c :: cs, st, h => by
    have hstep : step st (.destroyContext c) = vtestDestroyContext st c :=
      if_pos (h ▸ List.mem_cons_self _ _)
    show cs.foldl vtestDestroyContext (vtestDestroyContext st c) =
      run (step st (.destroyContext c)) (cs.map Event.destroyContext)
    rw [hstep]
    exact foldl_destroyContext_eq_run cs _ (by rw [destroyContext_activeContexts, h,
      List.erase_cons_head])

theorem foldl_destroyContext_counters (cs : List ℕ) (st : VtestRenderer) :
    (cs.foldl vtestDestroyContext st).nextContextId = st.nextContextId ∧
      (cs.foldl vtestDestroyContext st).nextResourceId = st.nextResourceId ∧
      (cs.foldl vtestDestroyContext st).pool.nextSyncId = st.pool.nextSyncId := by
  induction cs generalizing st with
  | nil => exact ⟨rfl, rfl, rfl⟩
  | cons c cs ih =>
    obtain ⟨h1, h2, h3⟩ := ih (vtestDestroyContext st c)
    exact ⟨h1.trans (destroyContext_nextContextId st c), h2.trans (destroyContext_nextResourceId st c),
      h3.trans (destroyContext_nextSyncId st c)⟩

/-- The context loop of `vtest_cleanup_renderer` frees every context record, and leaves
every resource and sync record on its free list. -/
theorem cleanupContexts_spec (h : Reachable st) :
    (vtestCleanupContexts st).2.Perm (handedOut st.nextContextId) ∧
      (vtestCleanupContexts st).1.freeResources.Perm (handedOut st.nextResourceId) ∧
      (vtestCleanupContexts st).1.nextResourceId = st.nextResourceId ∧
      SyncLedger (vtestCleanupContexts st).1.pool [] ∧
      (vtestCleanupContexts st).1.pool.nextSyncId = st.pool.nextSyncId := by
  unfold vtestCleanupContexts
  split
  · rw [foldl_destroyContext_eq_run _ _ rfl]
    obtain ⟨h1, h2, h3⟩ := foldl_destroyContext_counters st.activeContexts st
    rw [foldl_destroyContext_eq_run _ _ rfl] at h1 h2 h3
    have hd := (h.run _).drained (run_destroyAll _ _ rfl)
    rw [h1, h2] at hd
    exact ⟨hd.1, hd.2.1, h2, hd.2.2, h3⟩
  · rename_i hn
    have hnil : st.activeContexts = [] := by
      have := h.recordInv.contexts.subset
      rw [handedOut_of_le_one (by omega)] at this
      exact List.eq_nil_iff_forall_not_mem.mpr fun c hc => by simpa using this (List.mem_append_left _ hc)
    have hd := h.drained hnil
    exact ⟨by rw [handedOut_of_le_one (by omega)], hd.2.1, rfl, hd.2.2, rfl⟩

theorem cleanupResources_spec (hf : st.freeResources.Perm (handedOut st.nextResourceId)) :
    (vtestCleanupResources st).2.Perm (handedOut st.nextResourceId) ∧
      (vtestCleanupResources st).1.pool = st.pool := by
  unfold vtestCleanupResources
  split
  · exact ⟨hf, rfl⟩
  · rename_i hn
    exact ⟨by rw [handedOut_of_le_one (by omega)], rfl⟩

theorem cleanupSyncs_spec (h : SyncLedger p []) :
    (vtestCleanupSyncs p).2.Perm (handedOut p.nextSyncId) ∧
      (vtestCleanupSyncs p).1.assertFailed = false := by
  unfold vtestCleanupSyncs
  split
  · refine ⟨h.free_perm, ?_⟩
    simp only [h.no_assert, Bool.false_or, List.any_eq_false, bne_iff_ne, ne_eq, not_not]
    intro s hs
    obtain ⟨h0, hlt, -⟩ := (h.mem_free s).mp hs
    rw [h.refcount_eq s h0 hlt]
    rfl
  · rename_i hn
    exact ⟨by rw [handedOut_of_le_one (by omega)], h.no_assert⟩

/-- From any reachable state, `vtest_cleanup_renderer` passes every context, resource
and sync record the server ever numbered to `free`, each exactly once, and no free sync
fails its `assert(!sync->refcount)`. -/
theorem cleanup_frees_each_record_once (h : Reachable st) :
    (vtestCleanupRenderer st).2.contexts.Perm (handedOut st.nextContextId) ∧
      (vtestCleanupRenderer st).2.resources.Perm (handedOut st.nextResourceId) ∧
      (vtestCleanupRenderer st).2.syncs.Perm (handedOut st.pool.nextSyncId) ∧
      (vtestCleanupRenderer st).1.pool.assertFailed = false := by
  obtain ⟨hc, hfr, hnr, hl, hns⟩ := cleanupContexts_spec h
  obtain ⟨hr, hp⟩ := cleanupResources_spec (by rw [hnr]; exact hfr)
  obtain ⟨hs, ha⟩ := cleanupSyncs_spec (hp ▸ hl)
  have hn : (vtestCleanupResources (vtestCleanupContexts st).1).1.pool.nextSyncId =
      st.pool.nextSyncId := by rw [hp, hns]
  rw [hnr] at hr
  rw [hn] at hs
  exact ⟨hc, hr, hs, ha⟩

/-- A client with a context, a sync and a resource, at shutdown. -/
def busyShutdownRun : List Event :=
  [.createContext 0 true true true, .command 1 (.syncCreate 0 0 true true) 0,
    .command 1 (.resourceCreate 7 0 ⟨true, 0, true, true, true⟩) 0]

theorem cleanup_frees_each_record_once_busy :
    (vtestCleanupRenderer (run (.init false) busyShutdownRun)).2.contexts.Perm
        (handedOut (run (.init false) busyShutdownRun).nextContextId) ∧
      (vtestCleanupRenderer (run (.init false) busyShutdownRun)).2.resources.Perm
        (handedOut (run (.init false) busyShutdownRun).nextResourceId) ∧
      (vtestCleanupRenderer (run (.init false) busyShutdownRun)).2.syncs.Perm
        (handedOut (run (.init false) busyShutdownRun).pool.nextSyncId) ∧
      (vtestCleanupRenderer (run (.init false) busyShutdownRun)).1.pool.assertFailed = false :=
  cleanup_frees_each_record_once (reachable_run false _)

end Vtest

import Vtest.Verification.Reachable

/-! # Reference counts of syncs

In every reachable state, a sync's `refcount` counts exactly the references that the
active contexts' sync tables, queued waits and queued submits hold to it; all of them
belong to one context; and the sync is on `free_syncs`, once, exactly when the count is
zero. Destroying every context then returns every sync to the free list. -/

namespace Vtest

variable {st : VtestRenderer}

/-- The entries of the active contexts' sync tables holding sync `s`. -/
def tableRefCount (st : VtestRenderer) (s : ℕ) : ℕ :=
  (st.activeContexts.flatMap fun c => (st.contexts c).syncTable.map Prod.snd).count s

/-- The non-null slots of the active contexts' queued waits holding `s`. -/
def waitRefCount (st : VtestRenderer) (s : ℕ) : ℕ :=
  (st.activeContexts.flatMap fun c => (st.contexts c).syncWaits.flatMap VtestSyncWait.refs).count s

/-- The slots of the active contexts' queued submits holding `s`. -/
def submitRefCount (st : VtestRenderer) (s : ℕ) : ℕ :=
  (st.activeContexts.flatMap fun c =>
    (st.contexts c).queuedSubmits.flatMap VtestSyncQueueSubmit.refs).count s

theorem refCount_refsOf (f : ℕ → VtestContext) (cs : List ℕ) (s : ℕ) :
    refCount (refsOf f cs) s =
      (cs.flatMap fun c => (f c).syncTable.map Prod.snd).count s +
      (cs.flatMap fun c => (f c).syncWaits.flatMap VtestSyncWait.refs).count s +
      (cs.flatMap fun c => (f c).queuedSubmits.flatMap VtestSyncQueueSubmit.refs).count s := by
  induction cs with
  | nil => rfl
  | cons c cs ih =>
    simp only [refsOf, refCount, List.flatMap_cons, List.map_append, tagged_snd,
      VtestContext.syncRefs, List.count_append] at ih ⊢
    omega

theorem SyncInv.refcount_eq_counts (h : SyncInv st) {s : ℕ} (hs : 0 < s ∧ s < st.pool.nextSyncId) :
    (st.pool.syncs s).refcount = (tableRefCount st s + waitRefCount st s + submitRefCount st s : ℕ) := by
  rw [h.ledger.refcount_eq s hs.1 hs.2, VtestRenderer.syncRefs, refCount_refsOf]
  rfl

/-- All references to a sync come from one active context. -/
theorem SyncInv.single_owner (h : SyncInv st) {s c d : ℕ} (hc : c ∈ st.activeContexts)
    (hd : d ∈ st.activeContexts) (hsc : s ∈ (st.contexts c).syncRefs)
    (hsd : s ∈ (st.contexts d).syncRefs) : c = d :=
  h.ledger.owner (c, s) (mem_syncRefs hc hsc) (d, s) (mem_syncRefs hd hsd) rfl

/-- No two table entries of active contexts hold the same sync. -/
theorem SyncInv.tableValues_nodup (h : SyncInv st) :
    (st.activeContexts.flatMap fun c => (st.contexts c).syncTable.map Prod.snd).Nodup := by
  refine List.nodup_flatMap.mpr ⟨fun c hc => ?_, h.active_nodup.imp_of_mem fun hc hd hcd => ?_⟩
  · rw [List.map_congr_left fun e he => (h.keys c hc e he).symm]
    exact h.keys_nodup c hc
  · refine List.disjoint_left.mpr fun {s} hs hs' => hcd (h.single_owner (s := s) hc hd ?_ ?_) <;>
      simp only [VtestContext.syncRefs, List.mem_append] <;> tauto

theorem SyncInv.tableRefCount_eq (h : SyncInv st) (s : ℕ) :
    tableRefCount st s =
      if ∃ c ∈ st.activeContexts, s ∈ (st.contexts c).syncTable.map Prod.snd then 1 else 0 := by
  simp only [tableRefCount, List.count_eq_of_nodup h.tableValues_nodup, List.mem_flatMap]

/-- Destroying the active contexts in order leaves none. -/
theorem run_destroyAll : ∀ (cs : List ℕ) (st : VtestRenderer), st.activeContexts = cs →
    (run st (cs.map Event.destroyContext)).activeContexts = []
  | [], _, h => h
  | c :: cs, st, h => by
    have hc : c ∈ st.activeContexts := h ▸ List.mem_cons_self _ _
    have hstep : step st (.destroyContext c) = vtestDestroyContext st c := if_pos hc
    refine run_destroyAll cs _ ?_
    rw [hstep]
    simp only [vtestDestroyContext, modifyContext_activeContexts, h, List.erase_cons_head]

theorem destroyContext_nextSyncId (st : VtestRenderer) (c : ℕ) :
    (vtestDestroyContext st c).pool.nextSyncId = st.pool.nextSyncId := by
  simp only [vtestDestroyContext, modifyContext_pool, unrefResources_pool, foldl_freeSyncWait,
    foldl_freeSyncQueueSubmit, unrefSyncs_nextSyncId]

theorem run_destroy_nextSyncId : ∀ (cs : List ℕ) (st : VtestRenderer),
    (run st (cs.map Event.destroyContext)).pool.nextSyncId = st.pool.nextSyncId
  | [], _ => rfl
  | c :: cs, st => by
    refine (run_destroy_nextSyncId cs _).trans ?_
    simp only [step]
    split
    · exact destroyContext_nextSyncId st c
    · rfl

theorem Reachable.run (h : Reachable st) (es : List Event) : Reachable (run st es) := by
  induction es generalizing st with
  | nil => exact h
  | cons e es ih => exact ih (.step e h)

/-- With no active context left, every allocated sync is free with no reference. -/
theorem SyncInv.all_free (h : SyncInv st) (hnil : st.activeContexts = []) {s : ℕ}
    (hs : 0 < s ∧ s < st.pool.nextSyncId) :
    s ∈ st.pool.freeSyncs ∧ (st.pool.syncs s).refcount = 0 := by
  have hz : refCount st.syncRefs s = 0 := by simp [VtestRenderer.syncRefs, hnil, refsOf]
  exact ⟨(h.ledger.mem_free s).mpr ⟨hs.1, hs.2, hz⟩, by rw [h.ledger.refcount_eq s hs.1 hs.2, hz]; rfl⟩

/-- What the reference counting of sync `s` guarantees in state `st`. -/
structure SyncAccounting (st : VtestRenderer) (s : ℕ) : Prop where
  /-- One reference per table entry (at most one), non-null wait slot and submit slot. -/
  refcount_eq : (st.pool.syncs s).refcount =
    ((if ∃ c ∈ st.activeContexts, s ∈ (st.contexts c).syncTable.map Prod.snd then 1 else 0) +
      waitRefCount st s + submitRefCount st s : ℕ)
  table_key : ∀ c ∈ st.activeContexts, ∀ k, (k, s) ∈ (st.contexts c).syncTable → k = s
  one_owner : ∀ c ∈ st.activeContexts, ∀ d ∈ st.activeContexts,
    s ∈ (st.contexts c).syncRefs → s ∈ (st.contexts d).syncRefs → c = d
  /-- On `free_syncs` exactly once when unreferenced, otherwise not at all. -/
  free_count : st.pool.freeSyncs.count s = if (st.pool.syncs s).refcount = 0 then 1 else 0
  /-- `vtest_unref_sync` has never met a zero count. -/
  no_assert : st.pool.assertFailed = false
  new_unreferenced : ∀ v ok p t, vtestNewSync st.pool v ok = some (p, t) →
    ∀ c ∈ st.activeContexts, t ∉ (st.contexts c).syncRefs
  /-- After `vtest_destroy_context` on every context, `s` is free and unreferenced. -/
  destroyed_free :
    s ∈ (run st (st.activeContexts.map Event.destroyContext)).pool.freeSyncs ∧
      ((run st (st.activeContexts.map Event.destroyContext)).pool.syncs s).refcount = 0

theorem sync_refcount_accounting (h : Reachable st) (s : ℕ) (hs : 0 < s ∧ s < st.pool.nextSyncId) :
    SyncAccounting st s := by
  have hi := h.syncInv
  have hfree : s ∈ st.pool.freeSyncs ↔ (st.pool.syncs s).refcount = 0 := by
    rw [hi.ledger.mem_free, hi.ledger.refcount_eq s hs.1 hs.2]
    simp only [hs.1, hs.2, true_and]
    omega
  refine ⟨by rw [hi.refcount_eq_counts hs, hi.tableRefCount_eq], fun c hc k hk => hi.keys c hc _ hk,
    fun c hc d hd => hi.single_owner hc hd, ?_, hi.ledger.no_assert,
    fun v ok p t hn c hc ht => ?_, ?_⟩
  · simp only [List.count_eq_of_nodup hi.ledger.free_nodup, hfree]
  · exact refCount_eq_zero.mp (hi.ledger.new_fresh hn) _ (mem_syncRefs hc ht) rfl
  · have hrun := h.run (st.activeContexts.map Event.destroyContext)
    exact hrun.syncInv.all_free (run_destroyAll _ _ rfl)
      ⟨hs.1, (run_destroy_nextSyncId _ _).symm ▸ hs.2⟩

/-- A client that created sync 1 with value 5. -/
theorem sync_refcount_accounting_oneSync :
    (0 < 1 ∧ 1 < (run (.init false)
        [.createContext 0 true true true, .command 1 (.syncCreate 5 0 true true) 0]).pool.nextSyncId) ∧
      SyncAccounting (run (.init false)
        [.createContext 0 true true true, .command 1 (.syncCreate 5 0 true true) 0]) 1 :=
  ⟨by decide, sync_refcount_accounting (reachable_run false _) 1 (by decide)⟩

end Vtest

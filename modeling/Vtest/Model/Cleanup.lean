import Vtest.Model.Context

/-! # Shutting the server down

`vtest_cleanup_renderer` destroys the active contexts in list order, then passes every
record on the three free lists to `free`: contexts, resources and syncs, each list only
when its counter shows that a record was ever handed out. Before freeing a sync it
asserts that the sync's count is zero. -/

namespace Vtest

/-- The records `vtest_cleanup_renderer` passes to `free`, each list in the order it
frees them: contexts (by `vtest_free_context(ctx, true)`), resources and syncs. -/
structure CleanupFrees where
  contexts : List ℕ
  resources : List ℕ
  syncs : List ℕ
deriving Repr, DecidableEq

/-- The context records: every active context is destroyed (the list walk saves the
next entry before `vtest_destroy_context` unlinks the current one, so it visits the
list as it was), then every record on `free_contexts` is freed. -/
def vtestCleanupContexts (st : VtestRenderer) : VtestRenderer × List ℕ :=
  if 1 < st.nextContextId then
    let st1 := st.activeContexts.foldl vtestDestroyContext st
    ({ st1 with activeContexts := [], freeContexts := [], nextContextId := 1,
                currentContext := none }, st1.freeContexts)
  else (st, [])

/-- The resource records on `free_resources`. -/
def vtestCleanupResources (st : VtestRenderer) : VtestRenderer × List ℕ :=
  if 1 < st.nextResourceId then
    ({ st with freeResources := [], nextResourceId := 1 }, st.freeResources)
  else (st, [])

/-- The sync records on `free_syncs`; a failed `assert(!sync->refcount)` raises the
pool's ghost flag. -/
def vtestCleanupSyncs (p : SyncPool) : SyncPool × List ℕ :=
  if 1 < p.nextSyncId then
    ({ p with freeSyncs := [], nextSyncId := 1,
              assertFailed := p.assertFailed || p.freeSyncs.any fun s => (p.syncs s).refcount != 0 },
      p.freeSyncs)
  else (p, [])

/-- `vtest_cleanup_renderer`, up to `virgl_renderer_cleanup`. -/
def vtestCleanupRenderer (st : VtestRenderer) : VtestRenderer × CleanupFrees :=
  let r1 := vtestCleanupContexts st
  let r2 := vtestCleanupResources r1.1
  let r3 := vtestCleanupSyncs r2.1.pool
  ({ r2.1 with pool := r3.1 }, ⟨r1.2, r2.2, r3.2⟩)

end Vtest

import Vtest.Model.State

/-! # Reference-counted syncs and the hash tables

`vtest_new_sync`, `vtest_ref_sync`, `vtest_unref_sync` and the two free functions
that drop the references a submit or a wait holds. The per-context tables are
`util_hash_table`s, whose source is not among the sources. -/

namespace Vtest

/-- Replace the record of sync `s`. -/
def SyncPool.set (p : SyncPool) (s : ℕ) (r : VtestSync) : SyncPool :=
  { p with syncs := Function.update p.syncs s r }

/-- `sync->value = value`. -/
def SyncPool.setValue (p : SyncPool) (s value : ℕ) : SyncPool :=
  p.set s { p.syncs s with value := value }

/-- `vtest_new_sync`: the record at the head of `free_syncs`, or a fresh one numbered
`next_sync_id++`; `none` when that `malloc` fails. -/
def vtestNewSync (p : SyncPool) (value : ℕ) (mallocOk : Bool) : Option (SyncPool × ℕ) :=
  match p.freeSyncs with
  | s :: rest => some ({ p.set s ⟨1, value⟩ with freeSyncs := rest }, s)
  | [] =>
    if mallocOk then
      some ({ p.set p.nextSyncId ⟨1, value⟩ with nextSyncId := p.nextSyncId + 1 }, p.nextSyncId)
    else none

/-- `vtest_ref_sync`. -/
def vtestRefSync (p : SyncPool) (s : ℕ) : SyncPool :=
  p.set s { p.syncs s with refcount := (p.syncs s).refcount + 1 }

/-- `vtest_unref_sync`. A failing `assert(sync->refcount)` is recorded; the decrement
then happens as in a build without assertions. -/
def vtestUnrefSync (p : SyncPool) (s : ℕ) : SyncPool :=
  let r := p.syncs s
  let p' := { p.set s { r with refcount := r.refcount - 1 } with
    assertFailed := p.assertFailed || decide (r.refcount = 0) }
  if r.refcount - 1 = 0 then { p' with freeSyncs := s :: p'.freeSyncs } else p'

/-- Unreference the syncs of a list, in order. -/
def vtestUnrefSyncs : SyncPool → List ℕ → SyncPool
  | p, [] => p
  | p, s :: ss => vtestUnrefSyncs (vtestUnrefSync p s) ss

/-- The syncs a submit holds. -/
def VtestSyncQueueSubmit.refs (submit : VtestSyncQueueSubmit) : List ℕ :=
  submit.slots.map Prod.fst

/-- The syncs a wait still holds: its slots not yet signaled. -/
def VtestSyncWait.refs (w : VtestSyncWait) : List ℕ :=
  w.slots.filterMap Prod.fst

/-- `vtest_free_sync_queue_submit`. -/
def vtestFreeSyncQueueSubmit (p : SyncPool) (submit : VtestSyncQueueSubmit) : SyncPool :=
  vtestUnrefSyncs p submit.refs

/-- `vtest_free_sync_wait`: drops the slots not yet signaled (and closes the fd). -/
def vtestFreeSyncWait (p : SyncPool) (w : VtestSyncWait) : SyncPool :=
  vtestUnrefSyncs p w.refs

theorem unrefSyncs_append (p : SyncPool) (ss ts : List ℕ) :
    vtestUnrefSyncs p (ss ++ ts) = vtestUnrefSyncs (vtestUnrefSyncs p ss) ts := by
  induction ss generalizing p with
  | nil => rfl
  | cons s ss ih => exact ih _

/-- Freeing submits one after the other drops all their references. -/
theorem foldl_freeSyncQueueSubmit (p : SyncPool) (l : List VtestSyncQueueSubmit) :
    l.foldl vtestFreeSyncQueueSubmit p = vtestUnrefSyncs p (l.flatMap VtestSyncQueueSubmit.refs) := by
  induction l generalizing p with
  | nil => rfl
  | cons x l ih => rw [List.foldl_cons, ih, List.flatMap_cons, unrefSyncs_append]; rfl

theorem foldl_freeSyncWait (p : SyncPool) (l : List VtestSyncWait) :
    l.foldl vtestFreeSyncWait p = vtestUnrefSyncs p (l.flatMap VtestSyncWait.refs) := by
  induction l generalizing p with
  | nil => rfl
  | cons x l ih => rw [List.foldl_cons, ih, List.flatMap_cons, unrefSyncs_append]; rfl

@[simp] theorem SyncPool.set_nextSyncId (p : SyncPool) (s : ℕ) (r : VtestSync) :
    (p.set s r).nextSyncId = p.nextSyncId := rfl

@[simp] theorem SyncPool.set_freeSyncs (p : SyncPool) (s : ℕ) (r : VtestSync) :
    (p.set s r).freeSyncs = p.freeSyncs := rfl

@[simp] theorem SyncPool.set_assertFailed (p : SyncPool) (s : ℕ) (r : VtestSync) :
    (p.set s r).assertFailed = p.assertFailed := rfl

@[simp] theorem SyncPool.set_syncs (p : SyncPool) (s t : ℕ) (r : VtestSync) :
    (p.set s r).syncs t = if t = s then r else p.syncs t := by
  simp only [SyncPool.set, Function.update_apply]

/-- Reference counting never changes a value. -/
@[simp] theorem unrefSync_value (p : SyncPool) (s t : ℕ) :
    ((vtestUnrefSync p s).syncs t).value = (p.syncs t).value := by
  simp only [vtestUnrefSync]
  split <;> simp only [SyncPool.set_syncs] <;> split <;> simp_all

@[simp] theorem unrefSyncs_value (p : SyncPool) (ss : List ℕ) (t : ℕ) :
    ((vtestUnrefSyncs p ss).syncs t).value = (p.syncs t).value := by
  induction ss generalizing p with
  | nil => rfl
  | cons s ss ih => simp only [vtestUnrefSyncs, ih, unrefSync_value]

@[simp] theorem unrefSync_nextSyncId (p : SyncPool) (s : ℕ) :
    (vtestUnrefSync p s).nextSyncId = p.nextSyncId := by
  simp only [vtestUnrefSync]; split <;> rfl

@[simp] theorem unrefSyncs_nextSyncId (p : SyncPool) (ss : List ℕ) :
    (vtestUnrefSyncs p ss).nextSyncId = p.nextSyncId := by
  induction ss generalizing p with
  | nil => rfl
  | cons s ss ih => simp only [vtestUnrefSyncs, ih, unrefSync_nextSyncId]

@[simp] theorem setValue_value (p : SyncPool) (s v t : ℕ) :
    ((p.setValue s v).syncs t).value = if t = s then v else (p.syncs t).value := by
  simp only [SyncPool.setValue, SyncPool.set_syncs]
  split <;> simp_all

/-! ## The tables

Modelled from the spec: a `util_hash_table` is a map from keys to records, and
"removal triggers unref". `set` on a present key replaces the entry and hands the
old record to the table's destroy callback, as a removal does. The functions below
return the record to destroy; the caller unreferences it. -/

/-- Modelled from the spec: `util_hash_table_get`. -/
def tableGet (t : List (ℕ × ℕ)) (k : ℕ) : Option ℕ := t.lookup k

/-- Modelled from the spec: `util_hash_table_set`, with the replaced record. -/
def tableSet (t : List (ℕ × ℕ)) (k v : ℕ) : Option ℕ × List (ℕ × ℕ) :=
  (tableGet t k, (k, v) :: t.filter (fun e => e.1 != k))

/-- Modelled from the spec: `util_hash_table_remove`, with the removed record. -/
def tableRemove (t : List (ℕ × ℕ)) (k : ℕ) : Option ℕ × List (ℕ × ℕ) :=
  (tableGet t k, t.filter (fun e => e.1 != k))

end Vtest

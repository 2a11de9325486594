import Vtest.Model.Pool

/-! # Signaling timelines

`vtest_signal_sync` walks the waits of every active context; `vtest_signal_sync_queue`
releases a sync queue's submits in FIFO order when a context fence fires. -/

namespace Vtest

/-- `write_ready(wait->fd)`. The model records the wait and the values its request's
syncs have at that moment. -/
def writeReady (st : VtestRenderer) (w : VtestSyncWait) : VtestRenderer :=
  { st with notified := st.notified ++ [⟨w, w.request.map fun e => (st.pool.syncs e.1).value⟩] }

/-- The slot loop of `vtest_signal_sync` over one wait, from `signaled_count = n`: each
slot holding `sync` with a threshold at most `value` is unreferenced and cleared, and
the loop breaks at the first one that makes the wait ready. Returns the pool, the new
`signaled_count`, the slots and `is_ready`. -/
def vtestSignalSlots (sync value count : ℕ) (any : Bool) :
    SyncPool → ℕ → List (Option ℕ × ℕ) → SyncPool × ℕ × List (Option ℕ × ℕ) × Bool
  | p, n, [] => (p, n, [], false)
  | p, n, slot :: rest =>
    if slot.1 = some sync ∧ slot.2 ≤ value then
      if n + 1 = count ∨ any = true then
        (vtestUnrefSync p sync, n + 1, (none, slot.2) :: rest, true)
      else
        let r := vtestSignalSlots sync value count any (vtestUnrefSync p sync) (n + 1) rest
        (r.1, r.2.1, (none, slot.2) :: r.2.2.1, r.2.2.2)
    else
      let r := vtestSignalSlots sync value count any p n rest
      (r.1, r.2.1, slot :: r.2.2.1, r.2.2.2)

/-- One iteration of `vtest_signal_sync`'s wait loop: an expired wait is garbage
collected; otherwise its slots are scanned, and a ready wait is written and freed.
The wait is returned when it stays queued. -/
def vtestSignalSyncWait (sync value now : ℕ) (st : VtestRenderer) (w : VtestSyncWait) :
    VtestRenderer × Option VtestSyncWait :=
  if w.validBefore < now then ({ st with pool := vtestFreeSyncWait st.pool w }, none)
  else
    let r := vtestSignalSlots sync value w.count (hasFlag w.flags vcmdSyncWaitFlagAny)
      st.pool w.signaledCount w.slots
    let w' := { w with slots := r.2.2.1, signaledCount := r.2.1 }
    if r.2.2.2 then
      let st' := writeReady { st with pool := r.1 } w'
      ({ st' with pool := vtestFreeSyncWait st'.pool w' }, none)
    else ({ st with pool := r.1 }, some w')

/-- What one iteration of the wait loop can do: collect the wait; or scan its slots,
then write and free it when the scan made it ready, and keep it with its new slots and
count otherwise. -/
theorem signalSyncWait_cases (sync value now : ℕ) (st : VtestRenderer) (w : VtestSyncWait) :
    let r := vtestSignalSlots sync value w.count (hasFlag w.flags vcmdSyncWaitFlagAny)
      st.pool w.signaledCount w.slots
    let w' := { w with slots := r.2.2.1, signaledCount := r.2.1 }
    vtestSignalSyncWait sync value now st w = ({ st with pool := vtestFreeSyncWait st.pool w }, none) ∨
    (r.2.2.2 = true ∧ vtestSignalSyncWait sync value now st w =
      ({ writeReady { st with pool := r.1 } w' with pool := vtestFreeSyncWait r.1 w' }, none)) ∨
    (r.2.2.2 = false ∧ vtestSignalSyncWait sync value now st w = ({ st with pool := r.1 }, some w')) := by
  unfold vtestSignalSyncWait
  by_cases he : w.validBefore < now
  · exact .inl (if_pos he)
  · rw [if_neg he]
    generalize vtestSignalSlots sync value w.count (hasFlag w.flags vcmdSyncWaitFlagAny)
      st.pool w.signaledCount w.slots = r
    rcases r with ⟨p, n, slots, _ | _⟩
    · exact .inr (.inr ⟨rfl, rfl⟩)
    · exact .inr (.inl ⟨rfl, rfl⟩)

/-- The wait loop of `vtest_signal_sync` over one context's `sync_waits`. -/
def vtestSignalSyncWaits (sync value now : ℕ) :
    VtestRenderer → List VtestSyncWait → VtestRenderer × List VtestSyncWait
  | st, [] => (st, [])
  | st, w :: ws =>
    let r := vtestSignalSyncWait sync value now st w
    let r' := vtestSignalSyncWaits sync value now r.1 ws
    (r'.1, r.2.toList ++ r'.2)

/-- The context loop of `vtest_signal_sync`. -/
def vtestSignalSyncContexts (sync value now : ℕ) : VtestRenderer → List ℕ → VtestRenderer
  | st, [] => st
  | st, c :: cs =>
    let r := vtestSignalSyncWaits sync value now st (st.contexts c).syncWaits
    vtestSignalSyncContexts sync value now
      (r.1.modifyContext c fun x => { x with syncWaits := r.2 }) cs

/-- `vtest_signal_sync`, at monotonic time `now`. The value is assigned on both
branches; only a raise walks the waits. -/
def vtestSignalSync (now : ℕ) (st : VtestRenderer) (sync value : ℕ) : VtestRenderer :=
  let st' := { st with pool := st.pool.setValue sync value }
  if value ≤ (st.pool.syncs sync).value then st'
  else vtestSignalSyncContexts sync value now st' st.activeContexts

/-- The body of `vtest_signal_sync_queue` for one submit: each slot is signaled and
then unreferenced. -/
def vtestSignalSubmit (now : ℕ) : VtestRenderer → List (ℕ × ℕ) → VtestRenderer
  | st, [] => st
  | st, (s, v) :: rest =>
    let st' := vtestSignalSync now st s v
    vtestSignalSubmit now { st' with pool := vtestUnrefSync st'.pool s } rest

/-- `list_del(&submit->head)` for the head `submit` of queue `q`, whose rest is `rest`;
the submit's pairs are logged in the ghost `signaled`. -/
def popSubmit (q : Fin 64) (submit : VtestSyncQueueSubmit) (rest : List VtestSyncQueueSubmit)
    (x : VtestContext) : VtestContext :=
  { x with syncQueues := Function.update x.syncQueues q rest,
           signaled := Function.update x.signaled q (x.signaled q ++ submit.slots) }

/-- `vtest_signal_sync_queue` on queue `q` of context `c`: pops submits from the head,
releasing each, up to and including the one at address `toSubmit`, and the whole
queue when that submit is not on it. -/
def vtestSignalSyncQueue (now c : ℕ) (q : Fin 64) (toSubmit : ℕ) :
    VtestRenderer → List VtestSyncQueueSubmit → VtestRenderer
  | st, [] => st
  | st, submit :: rest =>
    let st2 := vtestSignalSubmit now (st.modifyContext c (popSubmit q submit rest)) submit.slots
    if submit.cookie = toSubmit then st2 else vtestSignalSyncQueue now c q toSubmit st2 rest

/-- `vtest_write_context_fence`: the queue is read from the submit at address
`cookie`. -/
def vtestWriteContextFence (now : ℕ) (st : VtestRenderer) (cookie : ℕ) : VtestRenderer :=
  let cq := st.submitMemory cookie
  vtestSignalSyncQueue now cq.1 cq.2 cookie st ((st.contexts cq.1).syncQueues cq.2)

end Vtest

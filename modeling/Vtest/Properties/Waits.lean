import Vtest.Verification.WaitSteps

/-! # Sync waits

A queued wait is never ready: no wake-up is missed, and every fd is written at most
once. What a write of `write_ready` guarantees is weaker than the specification
states: an `ANY` wait over no pair is written at once, and a timeline lowered after
crossing its threshold leaves an `ALL` wait's pair below it when the last slot fires. -/

namespace Vtest

variable {st : VtestRenderer}

/-- A wait queued in a state with pool `p`: its signaled and non-null slots add up to
its count, every non-null slot is below its threshold, it is not ready, and the syncs
of its request have not reached what it waits for. -/
structure QueuedWaitSound (p : SyncPool) (w : VtestSyncWait) : Prop where
  counts : w.signaledCount + w.refs.length = w.count
  below : ∀ s t, (some s, t) ∈ w.slots → (p.syncs s).value < t
  unready : w.signaledCount < w.count
  timeout : w.timeout ≠ 0
  any : hasFlag w.flags vcmdSyncWaitFlagAny = true →
    w.signaledCount = 0 ∧ w.count = w.request.length
  not_reached : if hasFlag w.flags vcmdSyncWaitFlagAny then ∀ e ∈ w.request, (p.syncs e.1).value < e.2
    else ∃ e ∈ w.request, (p.syncs e.1).value < e.2

theorem WaitOk.sound {p : SyncPool} {w : VtestSyncWait} (h : WaitOk p.value w) :
    QueuedWaitSound p w where
  counts := by rw [VtestSyncWait.refs_eq, List.length_map]; exact h.counts
  below s t hm := h.below (s, t) (VtestSyncWait.mem_pending.mpr hm)
  unready := h.unready
  timeout := h.timeout
  any := h.any
  not_reached := by
    have h1 := h.counts
    split
    · rename_i ha
      have heq := h.sublist.eq_of_length (by have := h.any ha; omega)
      exact fun e he => h.below e (heq ▸ he)
    · obtain ⟨e, he⟩ := List.exists_mem_of_length_pos (l := w.pending) (by have := h.unready; omega)
      exact ⟨e, h.sublist.subset he, h.below e he⟩

/-- The waits of a state: every queued wait is sound, also once any timeline has been
signaled, and the fds of the queued and of the written waits are all distinct. -/
structure WaitsSound (st : VtestRenderer) : Prop where
  queued : ∀ c ∈ st.activeContexts, ∀ w ∈ (st.contexts c).syncWaits, QueuedWaitSound st.pool w
  after_signal : ∀ now s v, ∀ c ∈ (vtestSignalSync now st s v).activeContexts,
    ∀ w ∈ ((vtestSignalSync now st s v).contexts c).syncWaits,
      QueuedWaitSound (vtestSignalSync now st s v).pool w
  written_once : (st.queuedWaits.map VtestSyncWait.fd ++ st.notified.map (·.wait.fd)).Nodup

theorem queued_waits_unready (h : Reachable st) : WaitsSound st := by
  have hw := h.waitInv
  have hnd := h.syncInv.active_nodup
  exact ⟨fun c hc w hw' => (hw.ok c hc w hw').sound,
    fun now s v c hc w hw' => ((hw.signalSync hnd now s v).ok c hc w hw').sound, hw.fds_nodup⟩

/-- A payload buffer whose old bytes are all 0. -/
def zeroHeap : ℕ → ℕ := fun _ => 0

/-- A `SYNC_WAIT` whose client sends the words `ws` and whose environment answers every
call. -/
def syncWaitIo (ws : List ℕ) : SyncWaitIo := ⟨true, ⟨wordsBytes ws, 0⟩, true, true, true, true⟩

/-- A client waits, with a timeout of one second, for its sync 1 to reach 5. -/
theorem queued_waits_unready_oneWait :
    WaitsSound (run (.init false) [.createContext 0 true true true,
      .command 1 (.syncCreate 0 0 true true) 0,
      .command 1 (.syncWait 5 zeroHeap (syncWaitIo [0, 1000, 1, 5, 0])) 0]) :=
  queued_waits_unready (reachable_run false _)

example : ((run (.init false) [.createContext 0 true true true,
    .command 1 (.syncCreate 0 0 true true) 0,
    .command 1 (.syncWait 5 zeroHeap (syncWaitIo [0, 1000, 1, 5, 0])) 0]).contexts 1).syncWaits.length =
      1 := by decide

/-! ## What a write of `write_ready` guarantees -/

/-- The specification's reading of a write: in `ALL` mode every pair of the request is at
or above its threshold, in `ANY` mode some pair is. -/
def writeReadySpec (n : Notification) : Prop :=
  if hasFlag n.wait.flags vcmdSyncWaitFlagAny then ∃ x ∈ n.wait.request.zip n.values, x.1.2 ≤ x.2
  else ∀ x ∈ n.wait.request.zip n.values, x.1.2 ≤ x.2

instance (n : Notification) : Decidable (writeReadySpec n) := by
  unfold writeReadySpec; infer_instance

/-- Two runs whose write breaks the specification's reading: an `ANY` wait over no pair
(`length_dw = 2`), and an `ALL` wait over syncs 1 and 2 at threshold 1 where sync 1 is
written 1, then 0, before sync 2 is written 1. -/
theorem write_ready_below_threshold :
    (∃ n ∈ (run (.init false) [.createContext 0 true true true,
      .command 1 (.syncWait 2 zeroHeap (syncWaitIo [1, 1000])) 0]).notified,
      ¬ writeReadySpec n) ∧
    (∃ n ∈ (run (.init false) [.createContext 0 true true true,
      .command 1 (.syncCreate 0 0 true true) 0, .command 1 (.syncCreate 0 0 true true) 0,
      .command 1 (.syncWait 8 zeroHeap (syncWaitIo [0, 1000, 1, 1, 0, 2, 1, 0])) 0,
      .command 1 (.syncWrite 1 1 0) 0, .command 1 (.syncWrite 1 0 0) 0,
      .command 1 (.syncWrite 2 1 0) 0]).notified, ¬ writeReadySpec n) :=
  ⟨by decide, by decide⟩

/-- Every write of `write_ready` in the log of `st`: some pair of a non-empty request is
at or above its threshold, and a wait in `ALL` mode has had every slot signaled. -/
def WritesReached (st : VtestRenderer) : Prop :=
  ∀ n ∈ st.notified, (n.wait.request ≠ [] → ∃ x ∈ n.wait.request.zip n.values, x.1.2 ≤ x.2) ∧
    (hasFlag n.wait.flags vcmdSyncWaitFlagAny = false → n.wait.pending = [])

theorem written_waits_reached (h : Reachable st) : WritesReached st :=
  fun n hn => ⟨(h.waitInv.notified_ok n hn).reached, (h.waitInv.notified_ok n hn).cleared⟩

/-- The `ALL` wait of the second run above, written once sync 2 reaches 1. -/
theorem written_waits_reached_lowered :
    WritesReached (run (.init false) [.createContext 0 true true true,
      .command 1 (.syncCreate 0 0 true true) 0, .command 1 (.syncCreate 0 0 true true) 0,
      .command 1 (.syncWait 8 zeroHeap (syncWaitIo [0, 1000, 1, 1, 0, 2, 1, 0])) 0,
      .command 1 (.syncWrite 1 1 0) 0, .command 1 (.syncWrite 1 0 0) 0,
      .command 1 (.syncWrite 2 1 0) 0]) :=
  written_waits_reached (reachable_run false _)

end Vtest

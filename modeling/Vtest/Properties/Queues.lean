import Vtest.Verification.QueueInv
import Vtest.Properties.Waits

/-! # Sync queues release in order

Whatever order the rendering library delivers context fences in, a sync queue only
ever loses a prefix of what `vtest_submit_cmd2_batch` appended to it, and the pairs
handed to `vtest_signal_sync` are a prefix of the appended submits' pairs, in append
order. A callback for a submit still on its queue releases exactly the submits from the
head through it, and leaves every sync with the value the last released pair for it
assigned. -/

namespace Vtest

variable {st : VtestRenderer}

/-- The sync queues of `st`: each is what was appended to it with a prefix removed, the
pairs released from it are that prefix's and so a prefix of all appended pairs, and a
callback for the fence of a submit `s` on its queue releases the submits up to and
including `s`, assigns their pairs to the syncs in that order, and changes no other
queue. -/
structure QueuesInOrder (st : VtestRenderer) : Prop where
  history : ∀ c q, ∃ pre, (st.contexts c).appended q = pre ++ (st.contexts c).syncQueues q ∧
    (st.contexts c).signaled q = pre.flatMap VtestSyncQueueSubmit.slots
  released : ∀ c q, (st.contexts c).signaled q <+:
    ((st.contexts c).appended q).flatMap VtestSyncQueueSubmit.slots
  callback : ∀ f ∈ st.fences, ∀ c q A s B, (st.contexts c).syncQueues q = A ++ s :: B →
    s.cookie = f.cookie → ∀ now, QueueReleased st (step st (.contextFence f.cookie now)) c q (A ++ [s]) B

theorem queues_release_in_order (h : Reachable st) : QueuesInOrder st where
  history := h.queueInv.queues
  released c q := by
    obtain ⟨pre, h1, h2⟩ := h.queueInv.queues c q
    rw [h1, h2, List.flatMap_append]
    exact List.prefix_append _ _
  callback _ hf _ _ _ _ _ hq hs now := h.queueInv.contextFence_release hf hq hs now

/-- A `SUBMIT_CMD2` whose client sends the frame `ws` and whose environment answers every
call. -/
def submitCmd2Io (ws : List ℕ) : SubmitCmd2Io := ⟨true, ⟨wordsBytes ws, 0⟩, fun _ => 0, fun _ => true, fun _ => 0⟩

/-- A `SUBMIT_CMD2` frame of two queued batches on sync queue 0 and renderer queue 0,
with no commands; the first raises sync 1 to 1, the second to 2. -/
def twoSubmitsFrame : List ℕ :=
  [2, 1, 17, 0, 17, 1, 0, 0, 0, 1, 20, 0, 20, 1, 0, 0, 0, 1, 1, 0, 1, 2, 0]

/-- Context 1 queues the two batches, then the fence of the second arrives before the
fence of the first. -/
theorem queues_release_in_order_twoSubmits :
    QueuesInOrder (run (.init false) [.createContext 0 true true true,
      .command 1 (.syncCreate 0 0 true true) 0, .command 1 (.submitCmd2 23 zeroHeap (submitCmd2Io twoSubmitsFrame)) 0,
      .contextFence 2 0, .contextFence 1 0]) :=
  queues_release_in_order (reachable_run false _)

example : ((run (.init false) [.createContext 0 true true true,
    .command 1 (.syncCreate 0 0 true true) 0, .command 1 (.submitCmd2 23 zeroHeap (submitCmd2Io twoSubmitsFrame)) 0,
    .contextFence 2 0, .contextFence 1 0]).contexts 1).signaled 0 = [(1, 1), (1, 2)] := by decide

/-! ## A late fence drains its queue

`vtest_write_context_fence` reads the queue from the submit its fence names and
`vtest_signal_sync_queue` pops until it meets that submit, without checking that the
submit is still queued. When a fence arrives after a later submit's fence has already
released its submit (fences on distinct renderer queues complete in any order), the
callback releases every submit left on the queue, whose own fences are still pending. -/

/-- A `SUBMIT_CMD2` frame of three queued batches on sync queue 0, on renderer queues 0,
1 and 2, with no commands; they raise sync 1 to 1, 2 and 3. -/
def threeSubmitsFrame : List ℕ :=
  [3, 1, 25, 0, 25, 1, 0, 0, 0, 1, 28, 0, 28, 1, 0, 1, 0, 1, 31, 0, 31, 1, 0, 2, 0,
    1, 1, 0, 1, 2, 0, 1, 3, 0]

/-- Context 1 queues the three batches, and the fence of the second arrives first. -/
def threeSubmitsRun : List Event :=
  [.createContext 0 true true true, .command 1 (.syncCreate 0 0 true true) 0,
    .command 1 (.submitCmd2 34 zeroHeap (submitCmd2Io threeSubmitsFrame)) 0, .contextFence 2 0]

set_option maxRecDepth 4000 in
/-- The late fence of the first submit releases the third, whose fence is still pending,
and sync 1 reaches 3. -/
theorem stale_fence_drains_queue :
    QueueReleased (run (.init false) threeSubmitsRun)
      (step (run (.init false) threeSubmitsRun) (.contextFence 1 0)) 1 0 [⟨3, (1, 0), [(1, 3)]⟩] [] ∧
    (step (run (.init false) threeSubmitsRun) (.contextFence 1 0)).fences = [⟨1, 2, 3⟩] ∧
    ((step (run (.init false) threeSubmitsRun) (.contextFence 1 0)).pool.syncs 1).value = 3 := by
  have hq : ((run (.init false) threeSubmitsRun).contexts 1).syncQueues 0 =
      [⟨3, (1, 0), [(1, 3)]⟩] := by decide
  have h : QueueReleased (run (.init false) threeSubmitsRun)
      (step (run (.init false) threeSubmitsRun) (.contextFence 1 0)) 1 0
      (((run (.init false) threeSubmitsRun).contexts 1).syncQueues 0) [] :=
    contextFence_drain (f := ⟨1, 0, 1⟩) (by decide) (by decide) (by decide) 0
  exact ⟨hq ▸ h, by decide, by decide⟩

end Vtest

import Vtest.Model.SyncCommands

/-! # `SUBMIT_CMD2`

A frame holds a batch count, eight words per batch, and the command and sync words
the batches point into. `vtest_submit_cmd2` checks each batch's bounds in `uint32_t`
arithmetic and hands it to `vtest_submit_cmd2_batch`, which submits the commands and
then either signals the batch's syncs at once or queues them behind a context fence.
Every function also returns the word indices of the payload buffer it read. -/

namespace Vtest

/-- `struct vcmd_submit_cmd2_batch`. -/
structure VcmdSubmitCmd2Batch where
  flags : ℕ
  cmdOffset : ℕ
  cmdSize : ℕ
  syncOffset : ℕ
  syncCount : ℕ
  syncQueueIndex : ℕ
  syncQueueId : ℕ
deriving Repr, DecidableEq

/-- The indices `VCMD_SUBMIT_CMD2_BATCH_*(i)`, computed in `uint32_t`. -/
def vtestSubmitCmd2BatchIndices (i : ℕ) : List ℕ :=
  (List.range 8).map fun k => u32 (vcmdSubmitCmd2BatchField i k)

/-- The batch `i` of a `SUBMIT_CMD2` buffer. -/
def vtestSubmitCmd2DecodeBatch (buf : ℕ → ℕ) (i : ℕ) : VcmdSubmitCmd2Batch :=
  let w := fun k => u32 (buf (u32 (vcmdSubmitCmd2BatchField i k)))
  { flags := w 0, cmdOffset := w 1, cmdSize := w 2, syncOffset := w 3, syncCount := w 4,
    syncQueueIndex := w 5, syncQueueId := w 6 + w 7 * 2 ^ 32 }

/-- The answers of the client, the rendering library and the allocator during a
`SUBMIT_CMD2`: the frame buffer's `malloc`, what the client sends for the frame, and for
batch `i` the result of `virgl_renderer_submit_cmd`, the submit's `malloc` and the
result of `virgl_renderer_context_create_fence`. -/
structure SubmitCmd2Io where
  bufOk : Bool
  input : ClientInput
  submitResult : ℕ → ℤ
  submitMallocOk : ℕ → Bool
  fenceResult : ℕ → ℤ

/-- The sync loop of `vtest_submit_cmd2_batch` over entries `is`, for context `c`.
A queued batch references each sync into a slot of the submit; an unqueued one signals
it at once. Returns the state, the slots, whether every id was found (the loop stops
at the first missing one), and the indices read, relative to `syncs`. -/
def vtestSubmitCmd2BatchSyncs (now c : ℕ) (queued : Bool) (syncs : ℕ → ℕ) :
    VtestRenderer → List ℕ → VtestRenderer × List (ℕ × ℕ) × Bool × List ℕ
  | st, [] => (st, [], true, [])
  | st, i :: is =>
    let d := vtestSyncDecodeIdAndValue syncs i
    match tableGet (st.contexts c).syncTable d.1 with
    | none => (st, [], false, vtestSyncDecodeIndices i)
    | some s =>
      if queued then
        let r := vtestSubmitCmd2BatchSyncs now c queued syncs
          { st with pool := vtestRefSync st.pool s } is
        (r.1, (s, d.2) :: r.2.1, r.2.2.1, vtestSyncDecodeIndices i ++ r.2.2.2)
      else
        let r := vtestSubmitCmd2BatchSyncs now c queued syncs (vtestSignalSync now st s d.2) is
        (r.1, r.2.1, r.2.2.1, vtestSyncDecodeIndices i ++ r.2.2.2)

/-- The end of `vtest_submit_cmd2_batch` for context `c`, once the sync loop has left
the state `st`, filled the slots of `submit` and found every id (`found`) or not: the
queued submit is freed on a missing id; otherwise it gets a context fence on the
renderer queue `batch.syncQueueId` and joins its queue, or is freed when the fence
cannot be created. -/
def vtestSubmitCmd2BatchFinish (c n : ℕ) (st : VtestRenderer) (batch : VcmdSubmitCmd2Batch)
    (io : SubmitCmd2Io) (queued : Bool) (submit : VtestSyncQueueSubmit) (found : Bool) :
    VtestRenderer × ℤ :=
  if !found then
    ((if queued then { st with pool := vtestFreeSyncQueueSubmit st.pool submit } else st), -eexist)
  else if !queued then (st, 0)
  else
    let q := submit.syncQueue.2
    let fence : PendingFence := ⟨c, batch.syncQueueId, submit.cookie⟩
    let st1 := { st with
      submitMemory := Function.update st.submitMemory submit.cookie submit.syncQueue,
      rendererLog := st.rendererLog ++ [RendererCall.createFence fence] }
    if io.fenceResult n ≠ 0 then
      ({ st1 with pool := vtestFreeSyncQueueSubmit st1.pool submit }, io.fenceResult n)
    else
      ({ st1 with fences := st1.fences ++ [fence] }.modifyContext c fun x =>
        { x with syncQueues := Function.update x.syncQueues q (x.syncQueues q ++ [submit]),
                 appended := Function.update x.appended q (x.appended q ++ [submit]) }, 0)

/-- `vtest_submit_cmd2_batch` for batch number `n` of context `c`, whose commands start
at word `batch.cmdOffset` and syncs at word `batch.syncOffset` of `buf`. A queued
batch's submit is named by the cookie `next_cookie`, standing for its address. -/
def vtestSubmitCmd2Batch (now c n : ℕ) (st : VtestRenderer) (batch : VcmdSubmitCmd2Batch)
    (buf : ℕ → ℕ) (io : SubmitCmd2Io) : VtestRenderer × ℤ × List ℕ :=
  let st := { st with
    rendererLog := st.rendererLog ++ [RendererCall.submitCmd c batch.cmdOffset batch.cmdSize] }
  let cmdReads := (List.range batch.cmdSize).map (batch.cmdOffset + ·)
  if io.submitResult n ≠ 0 then (st, -einval, cmdReads)
  else if batch.syncCount = 0 then (st, 0, cmdReads)
  else
    let queued := hasFlag batch.flags vcmdSubmitCmd2FlagSyncQueue
    if queued ∧ !io.submitMallocOk n then (st, -enomem, cmdReads)
    else
      let cookie := st.nextCookie
      let st := if queued then { st with nextCookie := cookie + 1 } else st
      let r := vtestSubmitCmd2BatchSyncs now c queued (fun j => buf (batch.syncOffset + j)) st
        (List.range batch.syncCount)
      let q : Fin 64 := ⟨batch.syncQueueIndex % 64, Nat.mod_lt _ (by decide)⟩
      let f := vtestSubmitCmd2BatchFinish c n r.1 batch io queued ⟨cookie, (c, q), r.2.1⟩ r.2.2.1
      (f.1, f.2, cmdReads ++ r.2.2.2.map (batch.syncOffset + ·))

/-- The batch loop of `vtest_submit_cmd2` over batches `i :: is` of `batchCount`:
each batch is read, bounds-checked, and submitted; the first error ends the frame. -/
def vtestSubmitCmd2Batches (now c lengthDw : ℕ) (buf : ℕ → ℕ) (io : SubmitCmd2Io) :
    VtestRenderer → List ℕ → VtestRenderer × ℤ × List ℕ
  | st, [] => (st, 0, [])
  | st, i :: is =>
    let batch := vtestSubmitCmd2DecodeBatch buf i
    let reads := vtestSubmitCmd2BatchIndices i
    if lengthDw < u32 (batch.cmdOffset + batch.cmdSize) ∨
        lengthDw < u32 (batch.syncOffset + u32 (batch.syncCount * 3)) ∨
        vtestMaxSyncQueueCount ≤ batch.syncQueueIndex then
      (st, -einval, reads)
    else
      let r := vtestSubmitCmd2Batch now c i st batch buf io
      if r.2.1 ≠ 0 then (r.1, r.2.1, reads ++ r.2.2)
      else
        let r' := vtestSubmitCmd2Batches now c lengthDw buf io r.1 is
        (r'.1, r'.2.1, reads ++ r.2.2 ++ r'.2.2)

/-- `vtest_submit_cmd2`, whose frame buffer holds the bytes `heap` before the read (the
bytes past its `length_dw * 4` are whatever follows it). The frame is read with the size
`vtestPayloadReadSize` gives, which `(int)length_dw * 4` equals, and its words are then
read from the buffer the read filled. -/
def vtestSubmitCmd2 (now : ℕ) (st : VtestRenderer) (c lengthDw : ℕ) (heap : ℕ → ℕ)
    (io : SubmitCmd2Io) : VtestRenderer × ℤ × List ℕ :=
  match vtestPayloadReadSize st.maxLength lengthDw with
  | none => (st, -einval, [])
  | some size =>
    if !io.bufOk then (st, -enomem, [])
    else
      let rd := vtestBlockRead io.input heap size
      if rd.2 ≠ size then (st, -1, [])
      else
        let buf := wordAt rd.1
        let batchCount := u32 (buf vcmdSubmitCmd2BatchCount)
        if lengthDw < u32 (vcmdSubmitCmd2BatchCount + 8 * batchCount) then
          (st, -einval, [vcmdSubmitCmd2BatchCount])
        else
          let r := vtestSubmitCmd2Batches now c lengthDw buf io st (List.range batchCount)
          (r.1, r.2.1, vcmdSubmitCmd2BatchCount :: r.2.2)

/-- What the end of a batch can do to the state: nothing, for an unqueued batch; free
the queued submit on a missing id; log the fence and free the submit when the fence
cannot be created; or log the fence, hold it, and append the submit to its queue. -/
theorem submitCmd2BatchFinish_cases (c n : ℕ) (st : VtestRenderer) (batch : VcmdSubmitCmd2Batch)
    (io : SubmitCmd2Io) (queued : Bool) (submit : VtestSyncQueueSubmit) (found : Bool) :
    let fence : PendingFence := ⟨c, batch.syncQueueId, submit.cookie⟩
    let st1 := { st with
      submitMemory := Function.update st.submitMemory submit.cookie submit.syncQueue,
      rendererLog := st.rendererLog ++ [RendererCall.createFence fence] }
    (queued = false ∧ (vtestSubmitCmd2BatchFinish c n st batch io queued submit found).1 = st) ∨
    (queued = true ∧ found = false ∧
      (vtestSubmitCmd2BatchFinish c n st batch io queued submit found).1 =
        { st with pool := vtestFreeSyncQueueSubmit st.pool submit }) ∨
    (queued = true ∧ found = true ∧
      (vtestSubmitCmd2BatchFinish c n st batch io queued submit found).1 =
        { st1 with pool := vtestFreeSyncQueueSubmit st1.pool submit }) ∨
    (queued = true ∧ found = true ∧
      (vtestSubmitCmd2BatchFinish c n st batch io queued submit found).1 =
        { st1 with fences := st1.fences ++ [fence] }.modifyContext c fun x =>
          { x with syncQueues := Function.update x.syncQueues submit.syncQueue.2
                     (x.syncQueues submit.syncQueue.2 ++ [submit]),
                   appended := Function.update x.appended submit.syncQueue.2
                     (x.appended submit.syncQueue.2 ++ [submit]) }) := by
  intro fence st1
  generalize hr : (vtestSubmitCmd2BatchFinish c n st batch io queued submit found).1 = st'
  unfold vtestSubmitCmd2BatchFinish at hr
  cases found <;> cases queued
  · exact .inl ⟨rfl, hr.symm⟩
  · exact .inr (.inl ⟨rfl, rfl, hr.symm⟩)
  · exact .inl ⟨rfl, hr.symm⟩
  · simp only [Bool.not_true, Bool.false_eq_true, ↓reduceIte] at hr
    split at hr
    · exact .inr (.inr (.inl ⟨rfl, rfl, hr.symm⟩))
    · exact .inr (.inr (.inr ⟨rfl, rfl, hr.symm⟩))

/-- What `vtest_submit_cmd2_batch` can do to the state once its commands are logged
(`st0`): stop there; signal the syncs of an unqueued batch; or take the next cookie,
reference the syncs of a queued one and end as `vtestSubmitCmd2BatchFinish` does. -/
theorem submitCmd2Batch_cases (now c n : ℕ) (st : VtestRenderer) (batch : VcmdSubmitCmd2Batch)
    (buf : ℕ → ℕ) (io : SubmitCmd2Io) :
    let st0 := { st with
      rendererLog := st.rendererLog ++ [RendererCall.submitCmd c batch.cmdOffset batch.cmdSize] }
    let syncs := fun j => buf (batch.syncOffset + j)
    let r := vtestSubmitCmd2BatchSyncs now c true syncs { st0 with nextCookie := st.nextCookie + 1 }
      (List.range batch.syncCount)
    (vtestSubmitCmd2Batch now c n st batch buf io).1 = st0 ∨
    (vtestSubmitCmd2Batch now c n st batch buf io).1 =
      (vtestSubmitCmd2BatchSyncs now c false syncs st0 (List.range batch.syncCount)).1 ∨
    (vtestSubmitCmd2Batch now c n st batch buf io).1 =
      (vtestSubmitCmd2BatchFinish c n r.1 batch io true
        ⟨st.nextCookie, (c, ⟨batch.syncQueueIndex % 64, Nat.mod_lt _ (by decide)⟩), r.2.1⟩ r.2.2.1).1 := by
  intro st0 syncs r
  generalize hr : (vtestSubmitCmd2Batch now c n st batch buf io).1 = st'
  unfold vtestSubmitCmd2Batch at hr
  dsimp only at hr
  by_cases h1 : io.submitResult n ≠ 0
  · rw [if_pos h1] at hr; exact .inl hr.symm
  rw [if_neg h1] at hr
  by_cases h2 : batch.syncCount = 0
  · rw [if_pos h2] at hr; exact .inl hr.symm
  rw [if_neg h2] at hr
  cases hq : hasFlag batch.flags vcmdSubmitCmd2FlagSyncQueue <;>
    simp only [hq, Bool.false_eq_true, false_and, true_and, ↓reduceIte] at hr
  · refine .inr (.inl (hr.symm.trans ?_))
    cases (vtestSubmitCmd2BatchSyncs now c false syncs st0 (List.range batch.syncCount)).2.2.1 <;> rfl
  · split at hr
    · exact .inl hr.symm
    · exact .inr (.inr hr.symm)

/-- What `vtest_submit_cmd2` can do to the state: nothing, when the frame is rejected
before its batches, or what the batch loop does over the frame's words `buf`. -/
theorem submitCmd2_cases (now : ℕ) (st : VtestRenderer) (c lengthDw : ℕ) (heap : ℕ → ℕ)
    (io : SubmitCmd2Io) :
    (vtestSubmitCmd2 now st c lengthDw heap io).1 = st ∨
    ∃ buf is, (vtestSubmitCmd2 now st c lengthDw heap io).1 =
      (vtestSubmitCmd2Batches now c lengthDw buf io st is).1 := by
  generalize hr : (vtestSubmitCmd2 now st c lengthDw heap io).1 = st'
  unfold vtestSubmitCmd2 at hr
  split at hr
  · exact .inl hr.symm
  split at hr
  · exact .inl hr.symm
  dsimp only at hr
  split at hr
  · exact .inl hr.symm
  split at hr
  · exact .inl hr.symm
  · exact .inr ⟨_, _, hr.symm⟩

end Vtest

namespace Vtest

/-- `vtest_submit_cmd`: a legacy submission, tracked by an implicit fence. The commands
are read with the size `vtestPayloadReadSize` gives from what the client sends; the
words read go to `virgl_renderer_submit_cmd`, whose log entry records their range. -/
def vtestSubmitCmd (st : VtestRenderer) (c lengthDw : ℕ) (mallocOk : Bool) (input : ClientInput)
    (submitResult : ℤ) : VtestRenderer × ℤ :=
  match vtestPayloadReadSize st.maxLength lengthDw with
  | none => (st, -1)
  | some size =>
    if !mallocOk then (st, -1)
    else if (vtestBlockRead input (fun _ => 0) size).2 ≠ size then (st, -1)
    else
      let st1 := { st with rendererLog := st.rendererLog ++ [RendererCall.submitCmd c 0 lengthDw] }
      if submitResult ≠ 0 then (st1, -1)
      else
        let id := st1.implicitFenceSubmitted + 1
        ({ st1 with implicitFenceSubmitted := id,
                    rendererLog := st1.rendererLog ++ [RendererCall.createImplicitFence id] }, 0)

/-- `vtest_write_implicit_fence`. -/
def vtestWriteImplicitFence (st : VtestRenderer) (fenceId : ℕ) : VtestRenderer :=
  { st with implicitFenceCompleted := fenceId }

end Vtest

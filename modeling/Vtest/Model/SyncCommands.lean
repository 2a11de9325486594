import Vtest.Model.Signal

/-! # The timeline commands

`SYNC_CREATE`, `SYNC_UNREF`, `SYNC_READ`, `SYNC_WRITE` and `SYNC_WAIT`, run on the
current context `c`. Each returns the handler's return value. -/

namespace Vtest

/-- The words of a fixed-size request buffer. -/
def wordsOf (l : List ℕ) : ℕ → ℕ := fun i => l.getD i 0

/-- `sync_destroy_func`, applied to the record a table operation removed. -/
def destroySync (p : SyncPool) : Option ℕ → SyncPool
  | some s => vtestUnrefSync p s
  | none => p

/-- `vtest_gettime(offset_ms)` at monotonic time `now` in ns: `UINT64_MAX` past
`INT32_MAX` ms, otherwise `uint64_t` arithmetic. -/
def vtestGettime (now offsetMs : ℕ) : ℕ :=
  if 2 ^ 31 - 1 < offsetMs then 2 ^ 64 - 1 else (now + 1000000 * offsetMs) % 2 ^ 64

/-- `vtest_sync_create`: `value_lo | value_hi << 32` becomes a new sync, entered in the
sync table under its id once the reply is written. -/
def vtestSyncCreate (st : VtestRenderer) (c valueLo valueHi : ℕ) (mallocOk writeOk : Bool) :
    VtestRenderer × ℤ :=
  match vtestNewSync st.pool (u32 valueLo + u32 valueHi * 2 ^ 32) mallocOk with
  | none => (st, -enomem)
  | some (p, s) =>
    if writeOk then
      let r := tableSet (st.contexts c).syncTable s s
      ({ st with pool := destroySync p r.1 }.modifyContext c fun x => { x with syncTable := r.2 }, 0)
    else ({ st with pool := vtestUnrefSync p s }, -eio)

/-- `vtest_sync_unref`. -/
def vtestSyncUnref (st : VtestRenderer) (c syncId : ℕ) : VtestRenderer × ℤ :=
  let r := tableRemove (st.contexts c).syncTable (u32 syncId)
  ({ st with pool := destroySync st.pool r.1 }.modifyContext c fun x => { x with syncTable := r.2 },
    0)

/-- `vtest_sync_write`. -/
def vtestSyncWrite (now : ℕ) (st : VtestRenderer) (c syncId valueLo valueHi : ℕ) :
    VtestRenderer × ℤ :=
  let d := vtestSyncDecodeIdAndValue (wordsOf [syncId, valueLo, valueHi]) 0
  match tableGet (st.contexts c).syncTable d.1 with
  | none => (st, -eexist)
  | some s => (vtestSignalSync now st s d.2, 0)

/-- The loop of `vtest_sync_wait_init` over entries `is` of the `(sync_id, value)`
array: a sync already at its value is skipped, any other gets a referenced slot.
Returns the pool, the slots, the resolved pairs (ghost) and whether every id was found;
the loop stops at the first missing one. -/
def vtestSyncWaitInitSlots (table : List (ℕ × ℕ)) (syncs : ℕ → ℕ) :
    SyncPool → List ℕ → SyncPool × List (Option ℕ × ℕ) × List (ℕ × ℕ) × Bool
  | p, [] => (p, [], [], true)
  | p, i :: is =>
    let d := vtestSyncDecodeIdAndValue syncs i
    match tableGet table d.1 with
    | none => (p, [], [], false)
    | some s =>
      if (p.syncs s).value < d.2 then
        let r := vtestSyncWaitInitSlots table syncs (vtestRefSync p s) is
        (r.1, (some s, d.2) :: r.2.1, (s, d.2) :: r.2.2.1, r.2.2.2)
      else
        let r := vtestSyncWaitInitSlots table syncs p is
        (r.1, r.2.1, (s, d.2) :: r.2.2.1, r.2.2.2)

/-- What the environment answers during a `SYNC_WAIT`: the payload buffer's `malloc`,
what the client sends for the payload, the wait's `malloc`, `eventfd`, the reply's write
and the fd transfer. -/
structure SyncWaitIo where
  bufOk : Bool
  input : ClientInput
  waitOk : Bool
  eventfdOk : Bool
  writeOk : Bool
  sendOk : Bool

/-- `vtest_sync_wait_init` once `eventfd` has returned `fd`: the wait over the
`syncCount` entries at `syncs`, or `none` when an id is missing, the partial wait
then being freed. -/
def vtestSyncWaitInit (p : SyncPool) (table : List (ℕ × ℕ)) (fd flags timeout now : ℕ)
    (syncs : ℕ → ℕ) (syncCount : ℕ) : SyncPool × Option VtestSyncWait :=
  let r := vtestSyncWaitInitSlots table syncs p (List.range syncCount)
  let w : VtestSyncWait :=
    { fd := fd, flags := flags, validBefore := vtestGettime now timeout, slots := r.2.1,
      signaledCount := 0, request := r.2.2.1, timeout := timeout }
  if r.2.2.2 then (r.1, some w) else (vtestFreeSyncWait r.1 w, none)

/-- `is_ready` of `vtest_sync_wait`: no slot was left to wait for, or an `ANY` wait had
an entry already signaled. -/
def VtestSyncWait.isReady (w : VtestSyncWait) (syncCount : ℕ) : Bool :=
  w.count = 0 || (hasFlag w.flags vcmdSyncWaitFlagAny && decide (w.count < syncCount))

/-- The end of `vtest_sync_wait` for an initialized wait `w` of `syncCount` entries and
timeout `timeout`: a ready wait's fd is written; the wait is queued on context `c`
unless it is ready, its timeout is zero, or the reply failed. -/
def vtestSyncWaitFinish (st : VtestRenderer) (c : ℕ) (w : VtestSyncWait) (syncCount timeout : ℕ)
    (writeOk sendOk : Bool) : VtestRenderer × ℤ :=
  let st1 := if w.isReady syncCount then writeReady st w else st
  let ret : ℤ := if !writeOk then -eio else if !sendOk then -einval else 0
  if ret ≠ 0 ∨ w.isReady syncCount ∨ timeout = 0 then
    ({ st1 with pool := vtestFreeSyncWait st1.pool w }, ret)
  else (st1.modifyContext c fun x => { x with syncWaits := x.syncWaits ++ [w] }, 0)

/-- `vtest_sync_wait` once its payload has been read as the words `buf`: the wait is
allocated over the entries from word 2 on, with the flags of word 0 and the timeout of
word 1. -/
def vtestSyncWaitWords (now : ℕ) (st : VtestRenderer) (c lengthDw : ℕ) (buf : ℕ → ℕ)
    (io : SyncWaitIo) : VtestRenderer × ℤ :=
  if !io.waitOk then (st, -enomem)
  else if !io.eventfdOk then (st, -enodev)
  else
    match vtestSyncWaitInit st.pool (st.contexts c).syncTable st.nextFd (u32 (buf 0)) (u32 (buf 1))
      now (fun i => buf (i + 2)) (u32 (lengthDw + (2 ^ 32 - 2)) / 3) with
    | (p, none) => ({ st with pool := p, nextFd := st.nextFd + 1 }, -eexist)
    | (p, some w) =>
      vtestSyncWaitFinish { st with pool := p, nextFd := st.nextFd + 1 } c w
        (u32 (lengthDw + (2 ^ 32 - 2)) / 3) (u32 (buf 1)) io.writeOk io.sendOk

/-- `vtest_sync_wait`, whose payload buffer holds the bytes `heap` before the read (the
bytes past its `length_dw * 4` are whatever follows it). The payload is read with the
size `vtestPayloadReadSize` gives, which `(int)length_dw * 4` equals, and the words are
then read from the buffer the read filled. -/
def vtestSyncWait (now : ℕ) (st : VtestRenderer) (c lengthDw : ℕ) (heap : ℕ → ℕ)
    (io : SyncWaitIo) : VtestRenderer × ℤ :=
  match vtestPayloadReadSize st.maxLength lengthDw with
  | none => (st, -einval)
  | some size =>
    if u32 (lengthDw + (2 ^ 32 - 2)) % 3 ≠ 0 then (st, -einval)
    else if !io.bufOk then (st, -enomem)
    else
      let rd := vtestBlockRead io.input heap size
      if rd.2 ≠ size then (st, -1)
      else vtestSyncWaitWords now st c lengthDw (wordAt rd.1) io

/-- What `vtest_sync_wait` can do to the state: nothing, when a check fails before the
wait is initialized; or, once the payload has been read as the words `buf`, take the next
fd and free the partial wait, when an id is missing, or take the next fd and end as
`vtestSyncWaitFinish` does, over the entries' count. -/
theorem syncWait_cases (now : ℕ) (st : VtestRenderer) (c lengthDw : ℕ) (heap : ℕ → ℕ)
    (io : SyncWaitIo) :
    (vtestSyncWait now st c lengthDw heap io).1 = st ∨ ∃ buf : ℕ → ℕ,
    (∃ n p, vtestSyncWaitInit st.pool (st.contexts c).syncTable st.nextFd (u32 (buf 0)) (u32 (buf 1))
        now (fun i => buf (i + 2)) n = (p, none) ∧
      (vtestSyncWait now st c lengthDw heap io).1 = { st with pool := p, nextFd := st.nextFd + 1 }) ∨
    ∃ n p w, vtestSyncWaitInit st.pool (st.contexts c).syncTable st.nextFd (u32 (buf 0)) (u32 (buf 1))
        now (fun i => buf (i + 2)) n = (p, some w) ∧
      (vtestSyncWait now st c lengthDw heap io).1 =
        (vtestSyncWaitFinish { st with pool := p, nextFd := st.nextFd + 1 } c w n (u32 (buf 1))
          io.writeOk io.sendOk).1 := by
  generalize hw : (vtestSyncWait now st c lengthDw heap io).1 = st'
  revert hw
  unfold vtestSyncWait
  split
  · exact fun hw => .inl hw.symm
  rename_i size _
  by_cases h2 : u32 (lengthDw + (2 ^ 32 - 2)) % 3 ≠ 0
  · rw [if_pos h2]; exact fun hw => .inl hw.symm
  rw [if_neg h2]
  cases io.bufOk
  · exact fun hw => .inl hw.symm
  by_cases h3 : (vtestBlockRead io.input heap size).2 ≠ size
  · rw [Bool.not_true, if_neg Bool.false_ne_true, if_pos h3]; exact fun hw => .inl hw.symm
  rw [Bool.not_true, if_neg Bool.false_ne_true, if_neg h3]
  unfold vtestSyncWaitWords
  cases io.waitOk
  · exact fun hw => .inl hw.symm
  cases io.eventfdOk
  · exact fun hw => .inl hw.symm
  simp only [Bool.not_true, Bool.false_eq_true, ↓reduceIte]
  split
  · exact fun hw => .inr ⟨_, .inl ⟨_, _, ‹_›, hw.symm⟩⟩
  · exact fun hw => .inr ⟨_, .inr ⟨_, _, _, ‹_›, hw.symm⟩⟩

end Vtest

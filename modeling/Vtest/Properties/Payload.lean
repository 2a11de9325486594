import Vtest.Properties.Queues
import Vtest.Properties.Waits

/-! # Payload sizes and reads

The payload handlers admit up to `max_length` bytes but pass the byte count on as an
`int`, and the default `UINT_MAX` admits payloads whose count turns negative. `vtest_submit_cmd2`
checks its batches in `uint32_t` arithmetic, and its header check is one word short;
`vtest_sync_wait` admits a one-word payload as 1431655765 entries. -/

namespace Vtest

/-! ## The `int` byte counts -/

/-- Under the default `max_length`, a payload of `2^29` words and a transfer of `2^31`
bytes are admitted, and both byte counts reach the loops as `-2^31`. -/
theorem payload_size_wraps_negative :
    vtestPayloadReadSize (VtestRenderer.init false).maxLength (2 ^ 29) = some (-2 ^ 31) ∧
    vtestTransferIoSize (VtestRenderer.init false).maxLength (2 ^ 31) = some (-2 ^ 31) := by
  constructor <;> decide

/-! ## The words `vtest_submit_cmd2` reads -/

/-- Two frames `vtest_submit_cmd2` accepts while reading past them: a batch count of 1
in an 8-word frame, whose last batch word is word 8, and a batch whose commands start at
word `2^32 - 1` and pass the check because `cmd_offset + cmd_size` wraps to 1. -/
theorem submit_cmd2_reads_past_frame :
    (vtestSubmitCmd2 0 (.init false) 1 8 zeroHeap (submitCmd2Io [1, 0, 0, 0, 0, 0, 0, 0])).2.1 = 0 ∧
    8 ∈ (vtestSubmitCmd2 0 (.init false) 1 8 zeroHeap (submitCmd2Io [1, 0, 0, 0, 0, 0, 0, 0])).2.2 ∧
    (vtestSubmitCmd2 0 (.init false) 1 9 zeroHeap
      (submitCmd2Io [1, 0, 4294967295, 2, 0, 0, 0, 0, 0])).2.1 = 0 ∧
    4294967295 ∈ (vtestSubmitCmd2 0 (.init false) 1 9 zeroHeap
      (submitCmd2Io [1, 0, 4294967295, 2, 0, 0, 0, 0, 0])).2.2 := by
  refine ⟨?_, ?_, ?_, ?_⟩ <;> decide

/-! ## The words `vtest_sync_wait` reads

`vtest_sync_wait` admits a `length_dw` when `(length_dw - 2) % 3` is zero in `uint32_t`
arithmetic, and decodes `sync_count = (length_dw - 2) / 3` entries from word 2 on of the
buffer its read filled. -/

variable {st : VtestRenderer} {c lengthDw : ℕ} {heap mem : ℕ → ℕ} {input : ClientInput}

/-- The loop of `vtest_sync_wait_init` runs to its end when every entry names a sync of
the table. -/
theorem syncWaitInitSlots_completes (table : List (ℕ × ℕ)) (syncs : ℕ → ℕ) :
    ∀ (is : List ℕ) (p : SyncPool),
    (∀ i ∈ is, (tableGet table (vtestSyncDecodeIdAndValue syncs i).1).isSome) →
    (vtestSyncWaitInitSlots table syncs p is).2.2.2 = true
  | [], _, _ => rfl
  | i :: is, p, h => by
    obtain ⟨s, hs⟩ := Option.isSome_iff_exists.mp (h i (.head _))
    have ih := syncWaitInitSlots_completes table syncs is
    simp only [vtestSyncWaitInitSlots, hs]
    split_ifs
    · exact ih _ fun j hj => h j (.tail _ hj)
    · exact ih _ fun j hj => h j (.tail _ hj)

theorem syncWaitFinish_reply (st : VtestRenderer) (c : ℕ) (w : VtestSyncWait) (syncCount timeout : ℕ) :
    (vtestSyncWaitFinish st c w syncCount timeout true true).2 = 0 := by
  simp only [vtestSyncWaitFinish, Bool.not_true, Bool.false_eq_true, ↓reduceIte]
  split <;> rfl

/-- An admitted `SYNC_WAIT` whose payload read filled the buffer `mem`, and whose buffer
is allocated, is decided by the words of `mem`. -/
theorem syncWait_of_read {io : SyncWaitIo} (hm : ¬ st.maxLength / 4 < lengthDw)
    (hacc : u32 (lengthDw + (2 ^ 32 - 2)) % 3 = 0) (hb : io.bufOk = true)
    (hread : vtestBlockRead io.input heap (toInt32 (u32 (lengthDw * 4))) =
      (mem, toInt32 (u32 (lengthDw * 4)))) (now : ℕ) :
    vtestSyncWait now st c lengthDw heap io = vtestSyncWaitWords now st c lengthDw (wordAt mem) io := by
  unfold vtestSyncWait
  rw [vtestPayloadReadSize, if_neg hm]
  dsimp only
  rw [if_neg (not_not_intro hacc), hb, hread, Bool.not_true, if_neg Bool.false_ne_true,
    if_neg (not_not_intro rfl)]

/-- `vtest_sync_wait_init` returns a wait exactly when its loop found every entry. -/
theorem syncWaitInit_isSome (p : SyncPool) (table : List (ℕ × ℕ)) (fd flags timeout now : ℕ)
    (syncs : ℕ → ℕ) (n : ℕ) :
    (vtestSyncWaitInit p table fd flags timeout now syncs n).2.isSome =
      (vtestSyncWaitInitSlots table syncs p (List.range n)).2.2.2 := by
  unfold vtestSyncWaitInit
  dsimp only
  cases (vtestSyncWaitInitSlots table syncs p (List.range n)).2.2.2 <;> rfl

/-- The words of a `SYNC_WAIT` whose environment answers every call get 0 when
`vtest_sync_wait_init` returns a wait, and `-EEXIST` when it does not. -/
theorem syncWaitWords_reply (now : ℕ) (buf : ℕ → ℕ) (input : ClientInput) :
    (vtestSyncWaitWords now st c lengthDw buf ⟨true, input, true, true, true, true⟩).2 =
      if (vtestSyncWaitInit st.pool (st.contexts c).syncTable st.nextFd (u32 (buf 0)) (u32 (buf 1))
        now (fun i => buf (i + 2)) (u32 (lengthDw + (2 ^ 32 - 2)) / 3)).2.isSome then 0 else -eexist := by
  rw [vtestSyncWaitWords, Bool.not_true, if_neg Bool.false_ne_true, if_neg Bool.false_ne_true]
  split <;> rename_i h <;> rw [h]
  · rfl
  · exact syncWaitFinish_reply _ _ _ _ _

/-- An admitted `SYNC_WAIT` whose environment answers every call replies 0 when every
entry it decodes names a sync of the context, and `-EEXIST` when its first entry, at
word 2, names none. -/
theorem syncWait_reply_of_found (hm : ¬ st.maxLength / 4 < lengthDw)
    (hacc : u32 (lengthDw + (2 ^ 32 - 2)) % 3 = 0)
    (hread : vtestBlockRead input heap (toInt32 (u32 (lengthDw * 4))) = (mem, toInt32 (u32 (lengthDw * 4))))
    (hfound : ∀ i < u32 (lengthDw + (2 ^ 32 - 2)) / 3,
      (tableGet (st.contexts c).syncTable (vtestSyncDecodeIdAndValue (fun j => wordAt mem (j + 2)) i).1).isSome)
    (now : ℕ) : (vtestSyncWait now st c lengthDw heap ⟨true, input, true, true, true, true⟩).2 = 0 := by
  have hf := syncWaitInitSlots_completes (st.contexts c).syncTable (fun j => wordAt mem (j + 2))
    (List.range (u32 (lengthDw + (2 ^ 32 - 2)) / 3)) st.pool fun i hi => hfound i (List.mem_range.mp hi)
  rw [syncWait_of_read hm hacc rfl hread, syncWaitWords_reply, syncWaitInit_isSome, if_pos hf]

theorem syncWait_reply_of_missing (hm : ¬ st.maxLength / 4 < lengthDw)
    (hacc : u32 (lengthDw + (2 ^ 32 - 2)) % 3 = 0) (hpos : 0 < u32 (lengthDw + (2 ^ 32 - 2)) / 3)
    (hread : vtestBlockRead input heap (toInt32 (u32 (lengthDw * 4))) = (mem, toInt32 (u32 (lengthDw * 4))))
    (hmiss : tableGet (st.contexts c).syncTable (u32 (wordAt mem 2)) = none) (now : ℕ) :
    (vtestSyncWait now st c lengthDw heap ⟨true, input, true, true, true, true⟩).2 = -eexist := by
  obtain ⟨n, hn⟩ : ∃ n, u32 (lengthDw + (2 ^ 32 - 2)) / 3 = n + 1 :=
    ⟨_, (Nat.succ_pred_eq_of_pos hpos).symm⟩
  have hd : (vtestSyncDecodeIdAndValue (fun j => wordAt mem (j + 2)) 0).1 = u32 (wordAt mem 2) := rfl
  have hs : (vtestSyncWaitInitSlots (st.contexts c).syncTable (fun j => wordAt mem (j + 2)) st.pool
      (List.range (n + 1))).2.2.2 = false := by
    rw [List.range_succ_eq_map, vtestSyncWaitInitSlots]
    simp only [hd, hmiss]
  rw [syncWait_of_read hm hacc rfl hread, syncWaitWords_reply, syncWaitInit_isSome, hn, hs]
  rfl

/-- Context 1 with sync 1, of value 0, in its table. -/
def oneSyncRun : List Event :=
  [.createContext 0 true true true, .command 1 (.syncCreate 0 0 true true) 0]

/-- A buffer whose old words all read 1. -/
def onesHeap : ℕ → ℕ := fun i => if i % 4 = 0 then 1 else 0

theorem wordAt_onesHeap (k : ℕ) : wordAt onesHeap k = 1 := by
  simp only [wordAt, onesHeap]
  rw [if_pos (by omega), if_neg (by omega), if_neg (by omega), if_neg (by omega)]
  rfl

/-- Past the one word a client sends, the buffer reads as its old words. -/
theorem wordAt_storeBytes_of_one {heap : ℕ → ℕ} {w k : ℕ} (hk : 1 ≤ k) :
    wordAt (storeBytes heap (wordsBytes [w])) k = wordAt heap k := by
  have h : ∀ j, 4 ≤ j → storeBytes heap (wordsBytes [w]) j = heap j := fun j hj => by
    rw [storeBytes, List.getD_eq_getElem?_getD,
      List.getElem?_eq_none (by simp [wordsBytes, wordBytes]; omega), Option.getD_none]
  simp only [wordAt, h _ (by omega : 4 ≤ 4 * k), h _ (by omega : 4 ≤ 4 * k + 1),
    h _ (by omega : 4 ≤ 4 * k + 2), h _ (by omega : 4 ≤ 4 * k + 3)]

/-- A `SYNC_WAIT` of `length_dw = 1` is admitted with `sync_count = 1431655765`, and its
reply is decided by words past its one-word buffer: for the same word 0 from the client,
it is `-EEXIST` when the buffer's old word 2 names no sync and 0 when every old word
names sync 1. -/
theorem sync_wait_length_one_reads_past :
    ¬ (run (.init false) oneSyncRun).maxLength / 4 < 1 ∧
    u32 (1 + (2 ^ 32 - 2)) % 3 = 0 ∧ u32 (1 + (2 ^ 32 - 2)) / 3 = 1431655765 ∧
    (vtestSyncWait 0 (run (.init false) oneSyncRun) 1 1 zeroHeap (syncWaitIo [0])).2 = -eexist ∧
    (vtestSyncWait 0 (run (.init false) oneSyncRun) 1 1 onesHeap (syncWaitIo [0])).2 = 0 := by
  have ht : ((run (.init false) oneSyncRun).contexts 1).syncTable = [(1, 1)] := by decide
  have hm : ¬ (run (.init false) oneSyncRun).maxLength / 4 < 1 := by decide
  have hacc : u32 (1 + (2 ^ 32 - 2)) % 3 = 0 := by decide
  have hcount : u32 (1 + (2 ^ 32 - 2)) / 3 = 1431655765 := by decide
  have hread : ∀ heap, vtestBlockRead ⟨wordsBytes [0], 0⟩ heap (toInt32 (u32 (1 * 4))) =
      (storeBytes heap (wordsBytes [0]), toInt32 (u32 (1 * 4))) := fun _ => rfl
  refine ⟨hm, hacc, hcount, syncWait_reply_of_missing hm hacc (by rw [hcount]; decide) (hread _)
    (by rw [ht, wordAt_storeBytes_of_one (by decide)]; rfl) 0,
    syncWait_reply_of_found hm hacc (hread _) (fun i _ => ?_) 0⟩
  have hid : (vtestSyncDecodeIdAndValue (fun j => wordAt (storeBytes onesHeap (wordsBytes [0])) (j + 2))
      i).1 = 1 := by
    simp only [vtestSyncDecodeIdAndValue, wordAt_storeBytes_of_one (by omega : 1 ≤ u32 (i * 3) + 2),
      wordAt_onesHeap]
    rfl
  rw [ht, hid]
  rfl

end Vtest

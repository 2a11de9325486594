import Vtest.Verification.WaitSteps

/-! # The sync queues

Each context keeps, per queue, the ghost list `appended` of the submits
`vtest_submit_cmd2_batch` appended to it and the ghost list `signaled` of the
`(sync, value)` pairs `vtest_signal_sync_queue` released from it. A queue is always
what was appended with a prefix removed, the released pairs are that prefix's, the
appended submits carry increasing cookies, and the memory of each appended submit
names its own queue. Every step keeps this; a callback for a submit on its queue
releases exactly the submits from the head through it. -/

namespace Vtest

/-- Queue `q` of `x` is what was appended to it with a prefix removed, and the pairs
released from it are that prefix's. -/
def QueueOk (x : VtestContext) (q : Fin 64) : Prop :=
  ∃ pre, x.appended q = pre ++ x.syncQueues q ∧ x.signaled q = pre.flatMap VtestSyncQueueSubmit.slots

/-- What the queue invariant reads of a context. -/
def VtestContext.queueView (x : VtestContext) :
    (Fin 64 → List VtestSyncQueueSubmit) × (Fin 64 → List VtestSyncQueueSubmit) ×
      (Fin 64 → List (ℕ × ℕ)) :=
  (x.syncQueues, x.appended, x.signaled)

structure QueueInv (st : VtestRenderer) : Prop where
  queues : ∀ c q, QueueOk (st.contexts c) q
  cookies : ∀ c q, ((st.contexts c).appended q).Pairwise fun a b => a.cookie < b.cookie
  cookie_lt : ∀ c q, ∀ s ∈ (st.contexts c).appended q, s.cookie < st.nextCookie
  memory : ∀ c q, ∀ s ∈ (st.contexts c).appended q, st.submitMemory s.cookie = (c, q)

/-- `st'` keeps every context's queues, appended submits and released pairs, the memory
of the appended submits, and does not lower the next cookie. -/
structure QueueFrame (st st' : VtestRenderer) : Prop where
  ctx : ∀ c, (st'.contexts c).queueView = (st.contexts c).queueView
  memory : ∀ c q, ∀ s ∈ (st.contexts c).appended q, st'.submitMemory s.cookie = st.submitMemory s.cookie
  nextCookie : st.nextCookie ≤ st'.nextCookie

variable {st st' : VtestRenderer} {c : ℕ}

namespace QueueFrame

theorem refl (st : VtestRenderer) : QueueFrame st st := ⟨fun _ => rfl, fun _ _ _ _ => rfl, le_rfl⟩

theorem syncQueues (h : QueueFrame st st') (c : ℕ) :
    (st'.contexts c).syncQueues = (st.contexts c).syncQueues := congrArg Prod.fst (h.ctx c)

theorem appended (h : QueueFrame st st') (c : ℕ) :
    (st'.contexts c).appended = (st.contexts c).appended := congrArg (·.2.1) (h.ctx c)

theorem signaled (h : QueueFrame st st') (c : ℕ) :
    (st'.contexts c).signaled = (st.contexts c).signaled := congrArg (·.2.2) (h.ctx c)

/-- A step that keeps the contexts, the submit memory, and does not lower the next
cookie. -/
theorem of_eq (hc : st'.contexts = st.contexts) (hm : st'.submitMemory = st.submitMemory)
    (hn : st.nextCookie ≤ st'.nextCookie) : QueueFrame st st' :=
  ⟨fun c => by rw [hc], fun _ _ _ _ => by rw [hm], hn⟩

theorem trans {st'' : VtestRenderer} (h : QueueFrame st st') (h' : QueueFrame st' st'') :
    QueueFrame st st'' where
  ctx c := (h'.ctx c).trans (h.ctx c)
  memory c q s hs := (h'.memory c q s (by rwa [h.appended])).trans (h.memory c q s hs)
  nextCookie := h.nextCookie.trans h'.nextCookie

theorem of_waitsOnly (h : WaitsOnly st st') : QueueFrame st st' :=
  ⟨fun c => by rw [h.ctx c]; rfl, fun _ _ _ _ => by rw [h.submitMemory], h.nextCookie.ge⟩

theorem of_syncFrame (h : SyncFrame c st st') : QueueFrame st st' :=
  ⟨fun c => by rw [h.ctx c]; rfl, fun _ _ _ _ => by rw [h.submitMemory], h.nextCookie.ge⟩

end QueueFrame

theorem QueueInv.of_frame (h : QueueInv st) (hf : QueueFrame st st') : QueueInv st' where
  queues c q := by rw [QueueOk, hf.appended, hf.syncQueues, hf.signaled]; exact h.queues c q
  cookies c q := by rw [hf.appended]; exact h.cookies c q
  cookie_lt c q s hs := by
    rw [hf.appended] at hs; exact lt_of_lt_of_le (h.cookie_lt c q s hs) hf.nextCookie
  memory c q s hs := by
    rw [hf.appended] at hs; rw [hf.memory c q s hs]; exact h.memory c q s hs

theorem QueueOk.empty (q : Fin 64) : QueueOk VtestContext.empty q := ⟨[], rfl, rfl⟩

/-- A step that changes only context `c`'s record, into one that satisfies the
invariant, and keeps the memory of the submits appended before. -/
theorem QueueInv.of_other (h : QueueInv st) (ho : ∀ d, d ≠ c → st'.contexts d = st.contexts d)
    (hn : st.nextCookie ≤ st'.nextCookie)
    (hm : ∀ d q, ∀ s ∈ (st.contexts d).appended q, st'.submitMemory s.cookie = st.submitMemory s.cookie)
    (hx : ∀ q, QueueOk (st'.contexts c) q)
    (hc : ∀ q, ((st'.contexts c).appended q).Pairwise fun a b => a.cookie < b.cookie)
    (hl : ∀ q, ∀ s ∈ (st'.contexts c).appended q, s.cookie < st'.nextCookie)
    (hmc : ∀ q, ∀ s ∈ (st'.contexts c).appended q, st'.submitMemory s.cookie = (c, q)) :
    QueueInv st' := by
  refine ⟨fun d q => ?_, fun d q => ?_, fun d q => ?_, fun d q => ?_⟩ <;> by_cases hd : d = c
  all_goals try (subst hd; solve_by_elim)
  all_goals rw [ho d hd]
  · exact h.queues d q
  · exact h.cookies d q
  · exact fun s hs => lt_of_lt_of_le (h.cookie_lt d q s hs) hn
  · exact fun s hs => (hm d q s hs).trans (h.memory d q s hs)

/-! ## Handlers that leave the queues alone -/

theorem queueFrame_syncCreate (st : VtestRenderer) (c lo hi : ℕ) (mallocOk writeOk : Bool) :
    QueueFrame st (vtestSyncCreate st c lo hi mallocOk writeOk).1 := by
  unfold vtestSyncCreate
  split
  · exact .refl st
  · split <;> exact ⟨fun d => by by_cases hd : d = c <;> simp [hd, VtestContext.queueView],
      fun _ _ _ _ => rfl, le_rfl⟩

theorem queueFrame_syncUnref (st : VtestRenderer) (c syncId : ℕ) :
    QueueFrame st (vtestSyncUnref st c syncId).1 :=
  ⟨fun d => by by_cases hd : d = c <;> simp [vtestSyncUnref, hd, VtestContext.queueView],
    fun _ _ _ _ => rfl, le_rfl⟩

theorem queueFrame_syncWrite (now : ℕ) (st : VtestRenderer) (c syncId lo hi : ℕ) :
    QueueFrame st (vtestSyncWrite now st c syncId lo hi).1 := by
  unfold vtestSyncWrite
  dsimp only
  split
  · exact .refl st
  · exact .of_waitsOnly (signalSync_waitsOnly _ _ _ _)

theorem queueFrame_syncWait (now : ℕ) (st : VtestRenderer) (c lengthDw : ℕ) (buf : ℕ → ℕ)
    (io : SyncWaitIo) : QueueFrame st (vtestSyncWait now st c lengthDw buf io).1 := by
  rcases syncWait_cases now st c lengthDw buf io with he | ⟨b, ⟨n, p, -, he⟩ | ⟨n, p, w, -, he⟩⟩ <;>
    rw [he]
  · exact .refl st
  · exact ⟨fun _ => rfl, fun _ _ _ _ => rfl, le_rfl⟩
  · rw [syncWaitFinish_eq]
    split_ifs <;> exact ⟨fun d => by
      by_cases hd : d = c <;> simp [hd, VtestContext.queueView, writeReady], fun _ _ _ _ => rfl, le_rfl⟩

/-! ## `SUBMIT_CMD2` -/

/-- The end of a batch keeps the invariant when its submit names a queue of context `c`,
and its cookie is above every appended one and below the next cookie. -/
theorem QueueInv.submitCmd2BatchFinish (h : QueueInv st) {submit : VtestSyncQueueSubmit}
    (hsq : submit.syncQueue.1 = c) (hlt : submit.cookie < st.nextCookie)
    (hck : ∀ d q, ∀ s ∈ (st.contexts d).appended q, s.cookie < submit.cookie)
    (n : ℕ) (batch : VcmdSubmitCmd2Batch) (io : SubmitCmd2Io) (queued found : Bool) :
    QueueInv (vtestSubmitCmd2BatchFinish c n st batch io queued submit found).1 := by
  have hm : ∀ d q, ∀ s ∈ (st.contexts d).appended q,
      Function.update st.submitMemory submit.cookie submit.syncQueue s.cookie =
        st.submitMemory s.cookie :=
    fun d q s hs => Function.update_noteq (hck d q s hs).ne _ _
  rcases submitCmd2BatchFinish_cases c n st batch io queued submit found with
    ⟨-, he⟩ | ⟨-, -, he⟩ | ⟨-, -, he⟩ | ⟨-, -, he⟩ <;> rw [he]
  · exact h
  · exact h.of_frame (.of_eq rfl rfl le_rfl)
  · exact h.of_frame ⟨fun _ => rfl, hm, le_rfl⟩
  set q := submit.syncQueue.2
  refine h.of_other (c := c) (fun d hd => by simp [hd]) le_rfl hm (fun q' => ?_) (fun q' => ?_)
    (fun q' => ?_) (fun q' => ?_) <;>
    by_cases hq : q' = q <;>
    simp only [QueueOk, modifyContext_contexts, ↓reduceIte, hq, Function.update_same, ne_eq,
      not_false_eq_true, Function.update_noteq, modifyContext_nextCookie, modifyContext_submitMemory]
  · obtain ⟨pre, h1, h2⟩ := h.queues c q
    exact ⟨pre, by rw [h1, List.append_assoc], h2⟩
  · exact h.queues c q'
  · exact List.pairwise_append.mpr ⟨h.cookies c q, List.pairwise_singleton _ _,
      fun a ha b hb => (List.mem_singleton.mp hb) ▸ hck c q a ha⟩
  · exact h.cookies c q'
  · intro s hs
    rcases List.mem_append.mp hs with hs | hs
    · exact h.cookie_lt c q s hs
    · exact (List.mem_singleton.mp hs) ▸ hlt
  · exact h.cookie_lt c q'
  · intro s hs
    rcases List.mem_append.mp hs with hs | hs
    · rw [hm c q s hs]; exact h.memory c q s hs
    · rw [List.mem_singleton.mp hs, Function.update_same, ← hsq]
  · exact fun s hs => (hm c q' s hs).trans (h.memory c q' s hs)

theorem QueueInv.submitCmd2Batch (h : QueueInv st) (now n : ℕ) (batch : VcmdSubmitCmd2Batch)
    (buf : ℕ → ℕ) (io : SubmitCmd2Io) : QueueInv (vtestSubmitCmd2Batch now c n st batch buf io).1 := by
  have h0 : QueueInv { st with rendererLog :=
      st.rendererLog ++ [RendererCall.submitCmd c batch.cmdOffset batch.cmdSize] } :=
    h.of_frame (.of_eq rfl rfl le_rfl)
  rcases submitCmd2Batch_cases now c n st batch buf io with he | he | he <;> rw [he]
  · exact h0
  · exact h0.of_frame (.of_waitsOnly (batchSyncs_waitsOnly _ _ _ _ _ _))
  · have h1 : QueueInv { st with
        rendererLog := st.rendererLog ++ [RendererCall.submitCmd c batch.cmdOffset batch.cmdSize],
        nextCookie := st.nextCookie + 1 } := h.of_frame (.of_eq rfl rfl (Nat.le_succ _))
    have hw := QueueFrame.of_waitsOnly (batchSyncs_waitsOnly now c true
      (fun j => buf (batch.syncOffset + j)) (List.range batch.syncCount) { st with
        rendererLog := st.rendererLog ++ [RendererCall.submitCmd c batch.cmdOffset batch.cmdSize],
        nextCookie := st.nextCookie + 1 })
    refine (h1.of_frame hw).submitCmd2BatchFinish rfl ?_ (fun d q s hs => ?_) _ _ _ _ _
    · exact lt_of_lt_of_le (Nat.lt_succ_self _) hw.nextCookie
    · rw [hw.appended] at hs; exact h.cookie_lt d q s hs

theorem QueueInv.submitCmd2Batches (now lengthDw : ℕ) (buf : ℕ → ℕ) (io : SubmitCmd2Io) :
    ∀ (is : List ℕ) (st : VtestRenderer), QueueInv st →
    QueueInv (vtestSubmitCmd2Batches now c lengthDw buf io st is).1
  | [], _, h => h
  | i :: is, st, h => by
    simp only [vtestSubmitCmd2Batches]
    have h1 := h.submitCmd2Batch (c := c) now i (vtestSubmitCmd2DecodeBatch buf i) buf io
    split
    · exact h
    · split
      · exact h1
      · exact QueueInv.submitCmd2Batches now lengthDw buf io is _ h1

theorem QueueInv.submitCmd2 (h : QueueInv st) (now lengthDw : ℕ) (buf : ℕ → ℕ)
    (io : SubmitCmd2Io) : QueueInv (vtestSubmitCmd2 now st c lengthDw buf io).1 := by
  rcases submitCmd2_cases now st c lengthDw buf io with he | ⟨b, is, he⟩ <;> rw [he]
  exacts [h, h.submitCmd2Batches now lengthDw b io _ _]

/-! ## Fence callbacks -/

/-- Popping the head of a queue moves its pairs to the released ones. -/
theorem QueueInv.pop (h : QueueInv st) {q : Fin 64} {submit : VtestSyncQueueSubmit}
    {rest : List VtestSyncQueueSubmit} (hq : (st.contexts c).syncQueues q = submit :: rest) :
    QueueInv (st.modifyContext c (popSubmit q submit rest)) := by
  refine h.of_other (c := c) (fun d hd => by simp [hd]) le_rfl (fun _ _ _ _ => rfl)
    (fun q' => ?_) (fun q' => ?_) (fun q' => ?_) (fun q' => ?_) <;>
    simp only [QueueOk, modifyContext_contexts, ↓reduceIte, popSubmit, modifyContext_nextCookie,
      modifyContext_submitMemory]
  · by_cases hq' : q' = q
    · subst hq'
      obtain ⟨pre, h1, h2⟩ := h.queues c q'
      refine ⟨pre ++ [submit], ?_, ?_⟩ <;> simp only [Function.update_same]
      · rw [h1, hq, List.append_assoc, List.singleton_append]
      · rw [h2, List.flatMap_append, List.flatMap_singleton]
    · simp only [ne_eq, hq', not_false_eq_true, Function.update_noteq]
      exact h.queues c q'
  exacts [h.cookies c q', h.cookie_lt c q', h.memory c q']

theorem QueueInv.signalSyncQueue (now : ℕ) (q : Fin 64) (toSubmit : ℕ) :
    ∀ (l : List VtestSyncQueueSubmit) (st : VtestRenderer), QueueInv st →
    (st.contexts c).syncQueues q = l → QueueInv (vtestSignalSyncQueue now c q toSubmit st l)
  | [], _, h, _ => h
  | submit :: rest, st, h, hq => by
    have hw := signalSubmit_waitsOnly now submit.slots (st.modifyContext c (popSubmit q submit rest))
    have h2 := (h.pop hq).of_frame (.of_waitsOnly hw)
    simp only [vtestSignalSyncQueue]
    split
    · exact h2
    · exact QueueInv.signalSyncQueue now q toSubmit rest _ h2 (by simp [hw.syncQueues, popSubmit])

theorem QueueInv.contextFence (h : QueueInv st) (now cookie : ℕ) :
    QueueInv (vtestWriteContextFence now st cookie) :=
  QueueInv.signalSyncQueue now _ _ _ _ h rfl

/-! ## What a release assigns -/

/-- The values of the syncs once the `(sync, value)` pairs `l` are assigned in order. -/
def assignAll (val : ℕ → ℕ) (l : List (ℕ × ℕ)) : ℕ → ℕ :=
  l.foldl (fun f e => Function.update f e.1 e.2) val

@[simp] theorem assignAll_nil (val : ℕ → ℕ) : assignAll val [] = val := rfl

theorem assignAll_append (val : ℕ → ℕ) (l l' : List (ℕ × ℕ)) :
    assignAll val (l ++ l') = assignAll (assignAll val l) l' := List.foldl_append _ _ _ _

/-- The body of `vtest_signal_sync_queue` for one submit assigns the submit's pairs in
order, whatever waits they wake. -/
theorem signalSubmit_value (now : ℕ) :
    ∀ (l : List (ℕ × ℕ)) (st : VtestRenderer),
    (vtestSignalSubmit now st l).pool.value = assignAll st.pool.value l
  | [], _ => rfl
  | (s, v) :: rest, st => by
    simp only [vtestSignalSubmit, signalSubmit_value now rest, SyncPool.value_unrefSync,
      signalSync_value]
    rfl

/-- `st'` released the submits `P` from the head of queue `q` of context `c`, leaving
`B` on it, assigned their pairs in order, and changed no other queue. -/
structure QueueReleased (st st' : VtestRenderer) (c : ℕ) (q : Fin 64)
    (P B : List VtestSyncQueueSubmit) : Prop where
  queue : (st'.contexts c).syncQueues q = B
  released : (st'.contexts c).signaled q =
    (st.contexts c).signaled q ++ P.flatMap VtestSyncQueueSubmit.slots
  values : st'.pool.value = assignAll st.pool.value (P.flatMap VtestSyncQueueSubmit.slots)
  others : ∀ d q', (d, q') ≠ (c, q) → (st'.contexts d).syncQueues q' = (st.contexts d).syncQueues q' ∧
    (st'.contexts d).signaled q' = (st.contexts d).signaled q'

namespace QueueReleased

variable {st'' : VtestRenderer} {q : Fin 64} {P B P' B' : List VtestSyncQueueSubmit}

theorem trans (h : QueueReleased st st' c q P B) (h' : QueueReleased st' st'' c q P' B') :
    QueueReleased st st'' c q (P ++ P') B' where
  queue := h'.queue
  released := by rw [h'.released, h.released, List.flatMap_append, List.append_assoc]
  values := by rw [h'.values, h.values, List.flatMap_append, assignAll_append]
  others d q' hd := ⟨(h'.others d q' hd).1.trans (h.others d q' hd).1,
    (h'.others d q' hd).2.trans (h.others d q' hd).2⟩

/-- A step that releases nothing. -/
theorem refl (st : VtestRenderer) (c : ℕ) (q : Fin 64) :
    QueueReleased st st c q [] ((st.contexts c).syncQueues q) :=
  ⟨rfl, (List.append_nil _).symm, rfl, fun _ _ _ => ⟨rfl, rfl⟩⟩

/-- Popping the head of the queue and signaling its pairs. -/
theorem release {submit : VtestSyncQueueSubmit} {rest : List VtestSyncQueueSubmit}
    (hq : (st.contexts c).syncQueues q = submit :: rest) (now : ℕ) :
    QueueReleased st (vtestSignalSubmit now (st.modifyContext c (popSubmit q submit rest))
      submit.slots) c q [submit] rest := by
  have hw := QueueFrame.of_waitsOnly (signalSubmit_waitsOnly now submit.slots
    (st.modifyContext c (popSubmit q submit rest)))
  refine ⟨?_, ?_, ?_, fun d q' hd => ?_⟩
  · simp [hw.syncQueues, popSubmit]
  · simp [hw.signaled, popSubmit]
  · rw [signalSubmit_value, List.flatMap_singleton]
    rfl
  · rw [hw.syncQueues, hw.signaled]
    by_cases hdc : d = c
    · subst hdc
      have hq' : q' ≠ q := fun e => hd (by rw [e])
      simp [popSubmit, hq']
    · simp [hdc]

end QueueReleased

/-- Releasing queue `q` of context `c` up to the submit `s` pops exactly the submits
before it and `s` itself, when no submit before it carries its cookie. -/
theorem signalSyncQueue_release (now : ℕ) (q : Fin 64) (s : VtestSyncQueueSubmit)
    (B : List VtestSyncQueueSubmit) :
    ∀ (A : List VtestSyncQueueSubmit) (st : VtestRenderer), (∀ x ∈ A, x.cookie ≠ s.cookie) →
    (st.contexts c).syncQueues q = A ++ s :: B →
    QueueReleased st (vtestSignalSyncQueue now c q s.cookie st (A ++ s :: B)) c q (A ++ [s]) B
  | [], st, _, hq => by
    simp only [List.nil_append, vtestSignalSyncQueue, ↓reduceIte]
    exact QueueReleased.release hq now
  | a :: A, st, hA, hq => by
    simp only [List.cons_append, vtestSignalSyncQueue, if_neg (hA a (.head _))]
    have h1 := QueueReleased.release hq now
    exact h1.trans (signalSyncQueue_release now q s B A _ (fun x hx => hA x (.tail _ hx)) h1.queue)

/-- Releasing queue `q` of context `c` up to a cookie that no submit on it carries pops
the whole queue. -/
theorem signalSyncQueue_drain (now : ℕ) (q : Fin 64) (k : ℕ) :
    ∀ (l : List VtestSyncQueueSubmit) (st : VtestRenderer), (∀ x ∈ l, x.cookie ≠ k) →
    (st.contexts c).syncQueues q = l → QueueReleased st (vtestSignalSyncQueue now c q k st l) c q l []
  | [], st, _, hq => by simpa only [hq] using QueueReleased.refl st c q
  | a :: l, st, hl, hq => by
    simp only [vtestSignalSyncQueue, if_neg (hl a (.head _))]
    have h1 := QueueReleased.release hq now
    exact h1.trans (signalSyncQueue_drain now q k l _ (fun x hx => hl x (.tail _ hx)) h1.queue)

theorem QueueInv.newContext (h : QueueInv st) {ok : Bool} {st1 : VtestRenderer}
    (he : vtestNewContext st ok = some (st1, c)) : QueueInv st1 := by
  unfold vtestNewContext at he
  split at he
  · obtain ⟨rfl, rfl⟩ := Prod.mk.inj (Option.some.inj he)
    exact h.of_frame ⟨fun d => by
      simp only [modifyContext_contexts]; split <;> simp_all [VtestContext.queueView],
      fun _ _ _ _ => rfl, le_rfl⟩
  · split at he
    · obtain ⟨rfl, rfl⟩ := Prod.mk.inj (Option.some.inj he)
      refine h.of_other (c := st.nextContextId) (fun d hd => Function.update_noteq hd _ _) le_rfl
        (fun _ _ _ _ => rfl) (fun q => ?_) (fun q => ?_) (fun q => ?_) (fun q => ?_) <;>
        simp [QueueOk, VtestContext.empty]
    · cases he

theorem QueueInv.createContext (h : QueueInv st) (length : ℕ) (mallocOk callocOk readOk : Bool) :
    QueueInv (vtestCreateContext st length mallocOk callocOk readOk).1 := by
  unfold vtestCreateContext
  split
  · exact h
  split
  · exact h
  rename_i st1 c he
  have h1 := h.newContext he
  split <;> exact h1.of_frame (.of_eq rfl rfl le_rfl)

theorem QueueInv.destroyContext (h : QueueInv st) (c : ℕ) : QueueInv (vtestDestroyContext st c) := by
  unfold vtestDestroyContext
  dsimp only
  generalize vtestUnrefSyncs _ _ = p
  have hf := SyncFrame.unrefResources c { st with pool := p } (st.contexts c).resourceTable
  generalize vtestUnrefResources { st with pool := p } (st.contexts c).resourceTable = st1 at hf
  have h0 : QueueInv { st with pool := p } := h.of_frame (.of_eq rfl rfl le_rfl)
  refine (h0.of_frame (.of_syncFrame hf)).of_other (c := c) (fun d hd => by simp [hd]) le_rfl
    (fun _ _ _ _ => rfl) (fun q => ?_) (fun q => ?_) (fun q => ?_) (fun q => ?_) <;>
    simp [QueueOk]

/-! ## Runs -/

theorem QueueInv.init (multiClients : Bool) : QueueInv (VtestRenderer.init multiClients) where
  queues _ q := QueueOk.empty q
  cookies _ _ := List.Pairwise.nil
  cookie_lt _ _ _ hs := by cases hs
  memory _ _ _ hs := by cases hs

theorem QueueInv.runCommand (h : QueueInv st) (now : ℕ) (cmd : Command) :
    QueueInv (runCommand now st c cmd) := by
  cases cmd with
  | syncCreate lo hi mallocOk writeOk => exact h.of_frame (queueFrame_syncCreate st c lo hi mallocOk writeOk)
  | syncUnref syncId => exact h.of_frame (queueFrame_syncUnref st c syncId)
  | syncWrite syncId lo hi => exact h.of_frame (queueFrame_syncWrite now st c syncId lo hi)
  | syncWait lengthDw buf io => exact h.of_frame (queueFrame_syncWait now st c lengthDw buf io)
  | submitCmd2 lengthDw buf io => exact h.submitCmd2 now lengthDw buf io
  | submitCmd lengthDw mallocOk input r =>
    exact h.of_frame (.of_syncFrame (c := c) (.submitCmd st lengthDw mallocOk input r))
  | resourceCreate handle shmSize io =>
    exact h.of_frame (.of_syncFrame (c := c) (.createResourceInternal st handle shmSize io))
  | resourceCreateBlob size io => exact h.of_frame (.of_syncFrame (c := c) (.resourceCreateBlob st size io))
  | resourceUnref handle => exact h.of_frame (.of_syncFrame (c := c) (.resourceUnref st handle))
  | protocolVersion v server readOk shmOk writeOk =>
    exact h.of_frame (.of_syncFrame (c := c) (.protocolVersion st v server readOk shmOk writeOk))
  | contextInit capsetId r => exact h.of_frame (.of_syncFrame (c := c) (.contextInit st capsetId r))
  | lazyInitContext r => exact h.of_frame (.of_syncFrame (c := c) (.lazyInitContext st r))

/-- Every step keeps the invariant. -/
theorem QueueInv.step (h : QueueInv st) (e : Event) : QueueInv (Vtest.step st e) := by
  have hframe : ∀ {st' : VtestRenderer}, st'.contexts = st.contexts →
      st'.submitMemory = st.submitMemory → st'.nextCookie = st.nextCookie → QueueInv st' :=
    fun hc hm hn => h.of_frame (.of_eq hc hm hn.ge)
  cases e with
  | createContext length mallocOk callocOk readOk =>
    exact h.createContext length mallocOk callocOk readOk
  | command c cmd now =>
    simp only [Vtest.step]
    split
    · refine QueueInv.runCommand ?_ now cmd
      exact hframe rfl rfl rfl
    · exact h
  | contextFence cookie now =>
    simp only [Vtest.step]
    split
    · refine QueueInv.contextFence ?_ now cookie
      exact hframe rfl rfl rfl
    · exact h
  | implicitFence fenceId =>
    simp only [Vtest.step]
    split
    · exact hframe rfl rfl rfl
    · exact h
  | destroyContext c =>
    simp only [Vtest.step]
    split
    · exact h.destroyContext c
    · exact h
  | setMaxLength length => exact hframe rfl rfl rfl

/-- A callback for the fence of a submit `s` on queue `q` of context `c` releases the
submits from the head of that queue through `s`, and no other queue. -/
theorem QueueInv.contextFence_release (h : QueueInv st) {f : PendingFence} (hf : f ∈ st.fences)
    {q : Fin 64} {A B : List VtestSyncQueueSubmit} {s : VtestSyncQueueSubmit}
    (hq : (st.contexts c).syncQueues q = A ++ s :: B) (hs : s.cookie = f.cookie) (now : ℕ) :
    QueueReleased st (Vtest.step st (.contextFence f.cookie now)) c q (A ++ [s]) B := by
  obtain ⟨pre, happ, -⟩ := h.queues c q
  have hp := (List.pairwise_append.mp (happ ▸ h.cookies c q)).2.1
  rw [hq] at hp
  have hA : ∀ x ∈ A, x.cookie ≠ s.cookie :=
    fun x hx => ((List.pairwise_append.mp hp).2.2 x hx s (.head _)).ne
  have hmem : st.submitMemory s.cookie = (c, q) := h.memory c q s (by simp [happ, hq])
  rw [← hs]
  rcases hfind : st.fences.find? (·.cookie = s.cookie) with _ | f'
  · exact (List.find?_eq_none.mp hfind f hf (by simp [hs])).elim
  · simp only [Vtest.step, hfind, vtestWriteContextFence, hmem, hq]
    have hr := signalSyncQueue_release now q s B A { st with fences := st.fences.erase f' } hA hq
    exact ⟨hr.queue, hr.released, hr.values, hr.others⟩

/-- A callback for a fence whose submit is no longer on the queue its memory names
releases that whole queue. -/
theorem contextFence_drain {f : PendingFence} (hf : f ∈ st.fences) {q : Fin 64}
    (hm : st.submitMemory f.cookie = (c, q))
    (hn : ∀ x ∈ (st.contexts c).syncQueues q, x.cookie ≠ f.cookie) (now : ℕ) :
    QueueReleased st (Vtest.step st (.contextFence f.cookie now)) c q ((st.contexts c).syncQueues q) [] := by
  rcases hfind : st.fences.find? (·.cookie = f.cookie) with _ | f'
  · exact (List.find?_eq_none.mp hfind f hf (by simp)).elim
  · simp only [Vtest.step, hfind, vtestWriteContextFence, hm]
    have hr := signalSyncQueue_drain now q f.cookie _ { st with fences := st.fences.erase f' } hn rfl
    exact ⟨hr.queue, hr.released, hr.values, hr.others⟩

/-- Every reachable state satisfies the queue invariant. -/
theorem Reachable.queueInv (h : Reachable st) : QueueInv st := by
  induction h with
  | init multiClients => exact QueueInv.init multiClients
  | step e _ ih => exact ih.step e

end Vtest

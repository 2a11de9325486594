import Vtest.Verification.Refs
import Vtest.Model.Signal

/-! # What signaling a timeline changes

`vtest_signal_sync` changes the pool, the notification log and the wait lists, and
nothing else. Every reference it drops is a wait slot it clears or a wait it frees, so
the sync ledger is preserved; `vtest_signal_sync_queue` then drops the references of
the submits it pops. -/

namespace Vtest

/-- `st'` differs from `st` only in the pool, the notifications, and the wait lists. -/
structure WaitsOnly (st st' : VtestRenderer) : Prop where
  eq : st' = { st with pool := st'.pool, notified := st'.notified, contexts := st'.contexts }
  ctx : ∀ c, st'.contexts c = { st.contexts c with syncWaits := (st'.contexts c).syncWaits }

namespace WaitsOnly

variable {st st' st'' : VtestRenderer}

theorem refl (st : VtestRenderer) : WaitsOnly st st := ⟨rfl, fun _ => rfl⟩

theorem trans (h : WaitsOnly st st') (h' : WaitsOnly st' st'') : WaitsOnly st st'' where
  eq := by
    rw [h'.eq]; conv_lhs => rw [h.eq]
  ctx c := by rw [h'.ctx c, h.ctx c]

theorem of_pool (st : VtestRenderer) (p : SyncPool) : WaitsOnly st { st with pool := p } :=
  ⟨rfl, fun _ => rfl⟩

theorem activeContexts (h : WaitsOnly st st') : st'.activeContexts = st.activeContexts := by
  rw [h.eq]

theorem freeContexts (h : WaitsOnly st st') : st'.freeContexts = st.freeContexts := by
  rw [h.eq]

theorem nextContextId (h : WaitsOnly st st') : st'.nextContextId = st.nextContextId := by
  rw [h.eq]

theorem fences (h : WaitsOnly st st') : st'.fences = st.fences := by
  rw [h.eq]

theorem submitMemory (h : WaitsOnly st st') : st'.submitMemory = st.submitMemory := by
  rw [h.eq]

theorem nextCookie (h : WaitsOnly st st') : st'.nextCookie = st.nextCookie := by
  rw [h.eq]

theorem syncTable (h : WaitsOnly st st') (c : ℕ) :
    (st'.contexts c).syncTable = (st.contexts c).syncTable := by
  rw [h.ctx c]

theorem syncQueues (h : WaitsOnly st st') (c : ℕ) :
    (st'.contexts c).syncQueues = (st.contexts c).syncQueues := by
  rw [h.ctx c]

end WaitsOnly

/-! ## Frames -/

@[simp] theorem writeReady_pool (st : VtestRenderer) (w : VtestSyncWait) :
    (writeReady st w).pool = st.pool := rfl

@[simp] theorem writeReady_contexts (st : VtestRenderer) (w : VtestSyncWait) :
    (writeReady st w).contexts = st.contexts := rfl

@[simp] theorem writeReady_activeContexts (st : VtestRenderer) (w : VtestSyncWait) :
    (writeReady st w).activeContexts = st.activeContexts := rfl

@[simp] theorem writeReady_fences (st : VtestRenderer) (w : VtestSyncWait) :
    (writeReady st w).fences = st.fences := rfl

theorem signalSyncWait_waitsOnly (sync value now : ℕ) (st : VtestRenderer) (w : VtestSyncWait) :
    WaitsOnly st (vtestSignalSyncWait sync value now st w).1 := by
  rcases signalSyncWait_cases sync value now st w with he | ⟨-, he⟩ | ⟨-, he⟩ <;> rw [he]
  · exact .of_pool _ _
  · exact ⟨rfl, fun _ => rfl⟩
  · exact .of_pool _ _

theorem signalSyncWait_contexts (sync value now : ℕ) (st : VtestRenderer) (w : VtestSyncWait) :
    (vtestSignalSyncWait sync value now st w).1.contexts = st.contexts := by
  rcases signalSyncWait_cases sync value now st w with he | ⟨-, he⟩ | ⟨-, he⟩ <;> rw [he]
  rfl

theorem signalSyncWaits_contexts (sync value now : ℕ) (st : VtestRenderer)
    (ws : List VtestSyncWait) : (vtestSignalSyncWaits sync value now st ws).1.contexts = st.contexts := by
  induction ws generalizing st with
  | nil => rfl
  | cons w ws ih => simp only [vtestSignalSyncWaits, ih, signalSyncWait_contexts]

theorem signalSyncWaits_waitsOnly (sync value now : ℕ) (st : VtestRenderer)
    (ws : List VtestSyncWait) : WaitsOnly st (vtestSignalSyncWaits sync value now st ws).1 := by
  induction ws generalizing st with
  | nil => exact .refl _
  | cons w ws ih => exact (signalSyncWait_waitsOnly _ _ _ _ _).trans (ih _)

theorem modifyWaits_waitsOnly (st : VtestRenderer) (c : ℕ) (ws : List VtestSyncWait) :
    WaitsOnly st (st.modifyContext c fun x => { x with syncWaits := ws }) where
  eq := rfl
  ctx d := by
    simp only [modifyContext_contexts]
    split <;> simp_all

theorem signalSyncContexts_waitsOnly (sync value now : ℕ) (st : VtestRenderer) (cs : List ℕ) :
    WaitsOnly st (vtestSignalSyncContexts sync value now st cs) := by
  induction cs generalizing st with
  | nil => exact .refl _
  | cons c cs ih =>
    exact ((signalSyncWaits_waitsOnly _ _ _ _ _).trans (modifyWaits_waitsOnly _ _ _)).trans (ih _)

theorem signalSyncContexts_of_not_mem (sync value now : ℕ) {d : ℕ} :
    ∀ (cs : List ℕ) (st : VtestRenderer), d ∉ cs →
    (vtestSignalSyncContexts sync value now st cs).contexts d = st.contexts d
  | [], _, _ => rfl
  | c :: cs, st, hd => by
    have hdc : d ≠ c := fun e => hd (e ▸ List.mem_cons_self _ _)
    simp only [vtestSignalSyncContexts]
    rw [signalSyncContexts_of_not_mem sync value now cs _ fun h => hd (List.mem_cons_of_mem _ h),
      modifyContext_contexts, if_neg hdc, signalSyncWaits_contexts]

/-- `vtest_signal_sync` only touches the waits of active contexts. -/
theorem signalSync_of_not_mem (now : ℕ) (st : VtestRenderer) (s v : ℕ) {d : ℕ}
    (hd : d ∉ st.activeContexts) : (vtestSignalSync now st s v).contexts d = st.contexts d := by
  unfold vtestSignalSync
  dsimp only
  split
  · rfl
  · exact signalSyncContexts_of_not_mem _ _ _ _ _ hd

theorem signalSync_waitsOnly (now : ℕ) (st : VtestRenderer) (s v : ℕ) :
    WaitsOnly st (vtestSignalSync now st s v) := by
  unfold vtestSignalSync
  dsimp only
  split
  · exact .of_pool _ _
  · exact (WaitsOnly.of_pool _ _).trans (signalSyncContexts_waitsOnly _ _ _ _ _)

/-! ## The ledger -/

theorem filterMap_fst_cons (o : Option ℕ) (t : ℕ) (l : List (Option ℕ × ℕ)) :
    ((o, t) :: l).filterMap Prod.fst = o.toList ++ l.filterMap Prod.fst := by
  cases o <;> rfl

/-- Moving a holder's first block of references past a second one. -/
theorem tagged_swap_perm (c : ℕ) (A F : List ℕ) (Y : List (ℕ × ℕ)) :
    (tagged c (A ++ F) ++ Y).Perm (tagged c F ++ (tagged c A ++ Y)) := by
  rw [tagged_append, List.append_assoc]; exact List.perm_append_comm_assoc _ _ _

variable {c : ℕ}

/-- The slot scan drops exactly the references of the slots it clears. -/
theorem SyncLedger.signalSlots (sync value count : ℕ) (any : Bool) :
    ∀ (slots : List (Option ℕ × ℕ)) (p : SyncPool) (n : ℕ) (Y : List (ℕ × ℕ)),
    SyncLedger p (tagged c (slots.filterMap Prod.fst) ++ Y) →
    SyncLedger (vtestSignalSlots sync value count any p n slots).1
      (tagged c ((vtestSignalSlots sync value count any p n slots).2.2.1.filterMap Prod.fst) ++ Y)
  | [], _, _, _, h => h
  | (o, t) :: rest, p, n, Y, h => by
    simp only [vtestSignalSlots]
    split
    · rename_i hs
      obtain ⟨rfl, -⟩ := hs
      have h' : SyncLedger (vtestUnrefSync p sync) (tagged c (rest.filterMap Prod.fst) ++ Y) :=
        SyncLedger.unref (c := c) (by simpa using h)
      split
      · simpa using h'
      · simpa using SyncLedger.signalSlots sync value count any rest _ (n + 1) Y h'
    · rw [filterMap_fst_cons] at h
      have h' := SyncLedger.signalSlots sync value count any rest p n (tagged c o.toList ++ Y)
        (h.perm (tagged_swap_perm c _ _ Y))
      rw [filterMap_fst_cons]
      exact h'.perm (tagged_swap_perm c _ _ Y).symm

/-- One iteration of the wait loop keeps the ledger against the waits that stay. -/
theorem SyncLedger.signalSyncWait (sync value now : ℕ) {st : VtestRenderer} {w : VtestSyncWait}
    {Y : List (ℕ × ℕ)} (h : SyncLedger st.pool (tagged c w.refs ++ Y)) :
    SyncLedger (vtestSignalSyncWait sync value now st w).1.pool
      (tagged c ((vtestSignalSyncWait sync value now st w).2.toList.flatMap VtestSyncWait.refs) ++ Y) := by
  have hs := SyncLedger.signalSlots (c := c) sync value w.count (hasFlag w.flags vcmdSyncWaitFlagAny)
    w.slots st.pool w.signaledCount Y h
  rcases signalSyncWait_cases sync value now st w with he | ⟨-, he⟩ | ⟨-, he⟩ <;> rw [he]
  · exact SyncLedger.unrefs h
  · exact SyncLedger.unrefs hs
  · simpa [VtestSyncWait.refs] using hs

theorem SyncLedger.signalSyncWaits (sync value now : ℕ) :
    ∀ (ws : List VtestSyncWait) (st : VtestRenderer) (Y : List (ℕ × ℕ)),
    SyncLedger st.pool (tagged c (ws.flatMap VtestSyncWait.refs) ++ Y) →
    SyncLedger (vtestSignalSyncWaits sync value now st ws).1.pool
      (tagged c ((vtestSignalSyncWaits sync value now st ws).2.flatMap VtestSyncWait.refs) ++ Y)
  | [], _, _, h => h
  | w :: ws, st, Y, h => by
    simp only [vtestSignalSyncWaits, List.flatMap_cons] at h ⊢
    rw [tagged_append, List.append_assoc] at h
    have h1 := SyncLedger.signalSyncWait sync value now h
    have h2 := SyncLedger.signalSyncWaits sync value now ws _ _
      (h1.perm (List.perm_append_comm_assoc _ _ _))
    rw [List.flatMap_append, tagged_append, List.append_assoc]
    exact h2.perm (List.perm_append_comm_assoc _ _ _)

/-- Rewriting one active context's wait list keeps the global ledger when it keeps
the ledger of that list. -/
theorem SyncLedger.modifyWaits {st : VtestRenderer} {p' : SyncPool} {ws' : List VtestSyncWait}
    {X : List (ℕ × ℕ)} (hc : c ∈ st.activeContexts) (hnd : st.activeContexts.Nodup)
    (hw : ∀ Y, SyncLedger st.pool (tagged c ((st.contexts c).syncWaits.flatMap VtestSyncWait.refs) ++ Y) →
      SyncLedger p' (tagged c (ws'.flatMap VtestSyncWait.refs) ++ Y))
    (h : SyncLedger st.pool (st.syncRefs ++ X)) :
    SyncLedger p' (({ st with pool := p' }.modifyContext c fun x => { x with syncWaits := ws' }).syncRefs
      ++ X) := by
  have h1 := h.perm ((refsOf_perm hc hnd).append_right X)
  simp only [VtestContext.syncRefs, tagged_append, List.append_assoc] at h1
  have h2 := SyncLedger.frame hw
    (by simpa only [List.append_assoc] using h1 : SyncLedger st.pool
      (tagged c ((st.contexts c).syncTable.map Prod.snd) ++ _ ++ _))
  refine h2.perm ?_
  simp only [VtestRenderer.syncRefs, VtestRenderer.modifyContext]
  refine List.Perm.trans ?_ ((refsOf_update_perm _ hc hnd).append_right X).symm
  simp [VtestContext.syncRefs, VtestContext.queuedSubmits, List.append_assoc]

theorem SyncLedger.signalSyncContexts {sync value now : ℕ} {X : List (ℕ × ℕ)} :
    ∀ (cs : List ℕ) (st : VtestRenderer), st.activeContexts.Nodup →
    (∀ c ∈ cs, c ∈ st.activeContexts) → SyncLedger st.pool (st.syncRefs ++ X) →
    SyncLedger (vtestSignalSyncContexts sync value now st cs).pool
      ((vtestSignalSyncContexts sync value now st cs).syncRefs ++ X)
  | [], _, _, _, h => h
  | c :: cs, st, hnd, hsub, h => by
    simp only [vtestSignalSyncContexts]
    have hc := hsub c (List.mem_cons_self _ _)
    have hw := signalSyncWaits_waitsOnly sync value now st (st.contexts c).syncWaits
    have hctx := signalSyncWaits_contexts sync value now st (st.contexts c).syncWaits
    have key := SyncLedger.modifyWaits (c := c) (X := X) hc hnd
      (fun Y hY => SyncLedger.signalSyncWaits sync value now _ st Y hY) h
    apply SyncLedger.signalSyncContexts cs _ (by simpa [hw.activeContexts] using hnd)
      (fun d hd => by simpa [hw.activeContexts] using hsub d (List.mem_cons_of_mem _ hd))
    simpa only [VtestRenderer.syncRefs, VtestRenderer.modifyContext, hctx, hw.activeContexts]
      using key

/-- `vtest_signal_sync` keeps the sync ledger, whatever other references `X` are
held outside the contexts' lists. -/
theorem SyncLedger.signalSync (now s v : ℕ) {st : VtestRenderer} {X : List (ℕ × ℕ)}
    (hnd : st.activeContexts.Nodup) (h : SyncLedger st.pool (st.syncRefs ++ X)) :
    SyncLedger (vtestSignalSync now st s v).pool ((vtestSignalSync now st s v).syncRefs ++ X) := by
  unfold vtestSignalSync
  dsimp only
  split
  · exact h.setValue
  · exact SyncLedger.signalSyncContexts _ _ hnd (fun _ h => h) h.setValue

/-! ## Releasing a sync queue -/

theorem signalSubmit_waitsOnly (now : ℕ) :
    ∀ (slots : List (ℕ × ℕ)) (st : VtestRenderer), WaitsOnly st (vtestSignalSubmit now st slots)
  | [], st => .refl st
  | (s, v) :: rest, st =>
    ((signalSync_waitsOnly now st s v).trans (.of_pool _ _)).trans (signalSubmit_waitsOnly now rest _)

/-- Releasing a popped submit signals and then drops each of its references. -/
theorem SyncLedger.signalSubmit (now : ℕ) {X : List (ℕ × ℕ)} :
    ∀ (slots : List (ℕ × ℕ)) (st : VtestRenderer), st.activeContexts.Nodup →
    SyncLedger st.pool (st.syncRefs ++ (tagged c (slots.map Prod.fst) ++ X)) →
    SyncLedger (vtestSignalSubmit now st slots).pool ((vtestSignalSubmit now st slots).syncRefs ++ X)
  | [], _, _, h => by simpa using h
  | (s, v) :: rest, st, hnd, h => by
    simp only [vtestSignalSubmit]
    have h1 := SyncLedger.signalSync now s v hnd h
    have h2 := (h1.perm List.perm_middle).unref
    exact SyncLedger.signalSubmit now rest _
      (by rw [(signalSync_waitsOnly now st s v).activeContexts]; exact hnd) h2

theorem syncRefs_pop_perm {st : VtestRenderer} {q : Fin 64} {submit : VtestSyncQueueSubmit}
    {rest : List VtestSyncQueueSubmit} (hc : c ∈ st.activeContexts) (hnd : st.activeContexts.Nodup)
    (hq : (st.contexts c).syncQueues q = submit :: rest) :
    st.syncRefs.Perm ((st.modifyContext c (popSubmit q submit rest)).syncRefs ++
      tagged c submit.refs) := by
  have hpop := queuedSubmits_pop_perm (st.contexts c) hq
  refine (refsOf_perm hc hnd).trans ?_
  simp only [VtestRenderer.syncRefs, VtestRenderer.modifyContext, modifyContext_activeContexts]
  refine List.Perm.trans ?_ ((refsOf_update_perm _ hc hnd).append_right _).symm
  simp only [VtestContext.syncRefs, popSubmit, tagged_append, List.append_assoc]
  refine List.Perm.append_left _ (List.Perm.append_left _ ?_)
  refine ((hpop.map (c, ·)).append_right _).trans ?_
  simp only [List.map_append, List.append_assoc]
  refine List.perm_append_comm_assoc _ _ _ |>.trans (List.Perm.append_left _ ?_)
  exact List.perm_append_comm

theorem SyncLedger.signalSyncQueue {now : ℕ} {q : Fin 64} {toSubmit : ℕ} {X : List (ℕ × ℕ)} :
    ∀ (l : List VtestSyncQueueSubmit) (st : VtestRenderer), c ∈ st.activeContexts →
    st.activeContexts.Nodup → (st.contexts c).syncQueues q = l →
    SyncLedger st.pool (st.syncRefs ++ X) →
    SyncLedger (vtestSignalSyncQueue now c q toSubmit st l).pool
      ((vtestSignalSyncQueue now c q toSubmit st l).syncRefs ++ X)
  | [], _, _, _, _, h => h
  | submit :: rest, st, hc, hnd, hq, h => by
    simp only [vtestSignalSyncQueue]
    have h1 : SyncLedger (st.modifyContext c (popSubmit q submit rest)).pool
        ((st.modifyContext c (popSubmit q submit rest)).syncRefs ++
          (tagged c (submit.slots.map Prod.fst) ++ X)) :=
      h.perm (((syncRefs_pop_perm hc hnd hq).append_right X).trans (by
        simp [VtestSyncQueueSubmit.refs, List.append_assoc]))
    have h2 := SyncLedger.signalSubmit (c := c) now submit.slots
      (st.modifyContext c (popSubmit q submit rest)) hnd h1
    have hw := signalSubmit_waitsOnly now submit.slots (st.modifyContext c (popSubmit q submit rest))
    split
    · exact h2
    · refine SyncLedger.signalSyncQueue rest _ (by rw [hw.activeContexts]; exact hc)
        (by rw [hw.activeContexts]; exact hnd) ?_ h2
      rw [hw.syncQueues]; simp [popSubmit]

end Vtest

import Vtest.Verification.Values

/-! # The context and resource records

`vtest_new_context` and `vtest_new_resource` take the record at the head of a free list,
or number a fresh one from a counter that starts at 1, and nothing releases a record
before `vtest_cleanup_renderer`. Every context record handed out is active or free, and
every resource record is free or held by one entry of one active context's resource
table, each exactly once; a table maps every key to a record whose `res_id` is that key.
The timeline commands and the callbacks leave all of this alone; the resource commands
and the context lifecycle move records between the lists. -/

namespace Vtest

/-- The ids `1, …, n - 1` that a counter starting at 1 has handed out when it reads `n`. -/
def handedOut (n : ℕ) : List ℕ := List.range' 1 (n - 1)

theorem handedOut_succ {n : ℕ} (h : 0 < n) : handedOut (n + 1) = handedOut n ++ [n] := by
  obtain ⟨m, rfl⟩ : ∃ m, n = m + 1 := ⟨n - 1, by omega⟩
  simp only [handedOut, Nat.add_sub_cancel, List.range'_concat, Nat.one_mul, Nat.add_comm 1 m]

theorem nodup_handedOut (n : ℕ) : (handedOut n).Nodup := List.nodup_range' 1 (n - 1)

theorem mem_handedOut {m n : ℕ} : m ∈ handedOut n ↔ 0 < m ∧ m < n := by
  simp only [handedOut, List.mem_range'_1]
  omega

/-- The resource records the active contexts' tables hold, context by context. -/
def VtestRenderer.heldResources (st : VtestRenderer) : List ℕ :=
  st.activeContexts.flatMap fun c => (st.contexts c).resourceTable.map Prod.snd

/-- The bookkeeping of the two allocators, while a handler holds the resource records
`hand` that `vtest_new_resource` gave it and that it has not yet stored or returned. -/
structure RecordInv (st : VtestRenderer) (hand : List ℕ) : Prop where
  contexts : (st.activeContexts ++ st.freeContexts).Perm (handedOut st.nextContextId)
  resources : (hand ++ st.freeResources ++ st.heldResources).Perm (handedOut st.nextResourceId)
  keys : ∀ c ∈ st.activeContexts, ∀ e ∈ (st.contexts c).resourceTable,
    (st.resources e.2).resId = e.1
  keys_nodup : ∀ c ∈ st.activeContexts, ((st.contexts c).resourceTable.map Prod.fst).Nodup
  context_pos : 0 < st.nextContextId
  resource_pos : 0 < st.nextResourceId

/-! ## What the timeline commands keep -/

/-- A context's record outside the sync subsystem: its protocol state and resource table. -/
structure ContextControl where
  protocolVersion : ℕ
  capsetId : ℕ
  contextInitialized : Bool
  resourceTable : List (ℕ × ℕ)

def VtestContext.control (x : VtestContext) : ContextControl :=
  ⟨x.protocolVersion, x.capsetId, x.contextInitialized, x.resourceTable⟩

/-- The part of the state outside the sync subsystem: the mode, both allocators, and each
context's protocol state and resource table. The timeline commands and the fence
callbacks leave it alone. -/
structure ControlView where
  multiClients : Bool
  activeContexts : List ℕ
  freeContexts : List ℕ
  nextContextId : ℕ
  freeResources : List ℕ
  nextResourceId : ℕ
  resources : ℕ → VtestResource
  controls : ℕ → ContextControl

def VtestRenderer.controlView (st : VtestRenderer) : ControlView :=
  ⟨st.multiClients, st.activeContexts, st.freeContexts, st.nextContextId, st.freeResources,
    st.nextResourceId, st.resources, fun c => (st.contexts c).control⟩

variable {st st' : VtestRenderer} {c : ℕ} {hand : List ℕ}

@[simp] theorem modifyContext_freeResources (f : VtestContext → VtestContext) :
    (st.modifyContext c f).freeResources = st.freeResources := rfl

@[simp] theorem modifyContext_resources (f : VtestContext → VtestContext) :
    (st.modifyContext c f).resources = st.resources := rfl

theorem control_of_view (hv : st'.controlView = st.controlView) (d : ℕ) :
    (st'.contexts d).control = (st.contexts d).control :=
  congrFun (congrArg ControlView.controls hv) d

theorem resourceTable_of_view (hv : st'.controlView = st.controlView) (d : ℕ) :
    (st'.contexts d).resourceTable = (st.contexts d).resourceTable :=
  congrArg ContextControl.resourceTable (control_of_view hv d)

theorem heldResources_of_view (hv : st'.controlView = st.controlView) :
    st'.heldResources = st.heldResources := by
  have ha : st'.activeContexts = st.activeContexts := congrArg ControlView.activeContexts hv
  simp only [VtestRenderer.heldResources, ha, resourceTable_of_view hv]

theorem RecordInv.of_view (h : RecordInv st hand) (hv : st'.controlView = st.controlView) :
    RecordInv st' hand := by
  obtain ⟨ha, hf, hn, hfr, hnr, hr⟩ : st'.activeContexts = st.activeContexts ∧
      st'.freeContexts = st.freeContexts ∧ st'.nextContextId = st.nextContextId ∧
      st'.freeResources = st.freeResources ∧ st'.nextResourceId = st.nextResourceId ∧
      st'.resources = st.resources :=
    ⟨congrArg ControlView.activeContexts hv, congrArg ControlView.freeContexts hv,
      congrArg ControlView.nextContextId hv, congrArg ControlView.freeResources hv,
      congrArg ControlView.nextResourceId hv, congrArg ControlView.resources hv⟩
  refine ⟨?_, ?_, fun d hd => ?_, fun d hd => ?_, hn ▸ h.context_pos, hnr ▸ h.resource_pos⟩
  · rw [ha, hf, hn]; exact h.contexts
  · rw [hfr, heldResources_of_view hv, hnr]; exact h.resources
  · rw [hr, resourceTable_of_view hv d]; exact h.keys d (ha ▸ hd)
  · rw [resourceTable_of_view hv d]; exact h.keys_nodup d (ha ▸ hd)

/-- Changing a context's record outside its protocol state and resource table. -/
theorem controlView_modifyContext {f : VtestContext → VtestContext}
    (hv : st'.controlView = st.controlView) (hf : ∀ x, (f x).control = x.control) :
    (st'.modifyContext c f).controlView = st.controlView := by
  refine Eq.trans ?_ hv
  simp only [VtestRenderer.controlView, modifyContext_contexts, ControlView.mk.injEq]
  refine ⟨rfl, rfl, rfl, rfl, rfl, rfl, rfl, funext fun d => ?_⟩
  split
  · subst d; exact hf _
  · rfl

theorem WaitsOnly.controlView (h : WaitsOnly st st') : st'.controlView = st.controlView := by
  have ht : ∀ d, (st'.contexts d).control = (st.contexts d).control := fun d => by
    rw [h.ctx d]
    rfl
  rw [h.eq]
  simp only [VtestRenderer.controlView, ht]

/-! ## The timeline commands -/

theorem controlView_syncCreate (st : VtestRenderer) (c lo hi : ℕ) (mallocOk writeOk : Bool) :
    (vtestSyncCreate st c lo hi mallocOk writeOk).1.controlView = st.controlView := by
  unfold vtestSyncCreate
  split
  · rfl
  · split
    · exact controlView_modifyContext rfl fun _ => rfl
    · rfl

theorem controlView_syncUnref (st : VtestRenderer) (c syncId : ℕ) :
    (vtestSyncUnref st c syncId).1.controlView = st.controlView :=
  controlView_modifyContext rfl fun _ => rfl

theorem controlView_syncWrite (now : ℕ) (st : VtestRenderer) (c syncId lo hi : ℕ) :
    (vtestSyncWrite now st c syncId lo hi).1.controlView = st.controlView := by
  unfold vtestSyncWrite
  dsimp only
  split
  · rfl
  · exact (signalSync_waitsOnly _ _ _ _).controlView

theorem controlView_syncWait (now : ℕ) (st : VtestRenderer) (c lengthDw : ℕ) (buf : ℕ → ℕ)
    (io : SyncWaitIo) : (vtestSyncWait now st c lengthDw buf io).1.controlView = st.controlView := by
  rcases syncWait_cases now st c lengthDw buf io with he | ⟨b, ⟨n, p, -, he⟩ | ⟨n, p, w, -, he⟩⟩ <;>
    rw [he]
  · rfl
  rcases syncWaitFinish_cases { st with pool := p, nextFd := st.nextFd + 1 } c w n (u32 (b 1))
    io.writeOk io.sendOk with hf | hf <;> rw [hf]
  · rfl
  · exact controlView_modifyContext rfl fun _ => rfl

/-! ## `SUBMIT_CMD2` -/

theorem controlView_batchSyncs (now c : ℕ) (queued : Bool) (syncs : ℕ → ℕ) :
    ∀ (is : List ℕ) (st : VtestRenderer),
    (vtestSubmitCmd2BatchSyncs now c queued syncs st is).1.controlView = st.controlView
  | [], _ => rfl
  | i :: is, st => by
    simp only [vtestSubmitCmd2BatchSyncs]
    split
    · rfl
    split
    · exact controlView_batchSyncs now c queued syncs is _
    · exact (controlView_batchSyncs now c queued syncs is _).trans
        (signalSync_waitsOnly _ _ _ _).controlView

theorem controlView_submitCmd2BatchFinish (c n : ℕ) (st : VtestRenderer)
    (batch : VcmdSubmitCmd2Batch) (io : SubmitCmd2Io) (queued : Bool)
    (submit : VtestSyncQueueSubmit) (found : Bool) :
    (vtestSubmitCmd2BatchFinish c n st batch io queued submit found).1.controlView = st.controlView := by
  rcases submitCmd2BatchFinish_cases c n st batch io queued submit found with
    ⟨-, he⟩ | ⟨-, -, he⟩ | ⟨-, -, he⟩ | ⟨-, -, he⟩ <;> rw [he]
  · rfl
  · rfl
  · exact controlView_modifyContext rfl fun _ => rfl

theorem controlView_submitCmd2Batch (now c n : ℕ) (st : VtestRenderer)
    (batch : VcmdSubmitCmd2Batch) (buf : ℕ → ℕ) (io : SubmitCmd2Io) :
    (vtestSubmitCmd2Batch now c n st batch buf io).1.controlView = st.controlView := by
  rcases submitCmd2Batch_cases now c n st batch buf io with he | he | he <;> rw [he]
  · rfl
  · exact (controlView_batchSyncs ..).trans rfl
  · refine (controlView_submitCmd2BatchFinish ..).trans ((controlView_batchSyncs ..).trans ?_)
    rfl

theorem controlView_submitCmd2Batches (now c lengthDw : ℕ) (buf : ℕ → ℕ) (io : SubmitCmd2Io) :
    ∀ (is : List ℕ) (st : VtestRenderer),
    (vtestSubmitCmd2Batches now c lengthDw buf io st is).1.controlView = st.controlView
  | [], _ => rfl
  | i :: is, st => by
    simp only [vtestSubmitCmd2Batches]
    split
    · rfl
    split
    · exact controlView_submitCmd2Batch ..
    · exact (controlView_submitCmd2Batches now c lengthDw buf io is _).trans
        (controlView_submitCmd2Batch ..)

theorem controlView_submitCmd2 (now : ℕ) (st : VtestRenderer) (c lengthDw : ℕ) (buf : ℕ → ℕ)
    (io : SubmitCmd2Io) : (vtestSubmitCmd2 now st c lengthDw buf io).1.controlView = st.controlView := by
  rcases submitCmd2_cases now st c lengthDw buf io with he | ⟨b, is, he⟩ <;> rw [he]
  exact controlView_submitCmd2Batches ..

theorem controlView_submitCmd (st : VtestRenderer) (c lengthDw : ℕ) (mallocOk : Bool)
    (input : ClientInput) (r : ℤ) :
    (vtestSubmitCmd st c lengthDw mallocOk input r).1.controlView = st.controlView := by
  unfold vtestSubmitCmd
  split
  · rfl
  · split_ifs <;> rfl

/-! ## Fence callbacks -/

theorem controlView_signalSyncQueue (now c : ℕ) (q : Fin 64) (toSubmit : ℕ) :
    ∀ (l : List VtestSyncQueueSubmit) (st : VtestRenderer),
    (vtestSignalSyncQueue now c q toSubmit st l).controlView = st.controlView
  | [], _ => rfl
  | submit :: rest, st => by
    have h2 := (signalSubmit_waitsOnly now submit.slots
      (st.modifyContext c (popSubmit q submit rest))).controlView.trans
      (controlView_modifyContext rfl fun _ => rfl)
    simp only [vtestSignalSyncQueue]
    split
    · exact h2
    · exact (controlView_signalSyncQueue now c q toSubmit rest _).trans h2

theorem controlView_writeContextFence (now : ℕ) (st : VtestRenderer) (cookie : ℕ) :
    (vtestWriteContextFence now st cookie).controlView = st.controlView :=
  controlView_signalSyncQueue ..

/-! ## Facts read off the invariant -/

theorem mem_heldResources {e : ℕ × ℕ} (hc : c ∈ st.activeContexts)
    (he : e ∈ (st.contexts c).resourceTable) : e.2 ∈ st.heldResources :=
  List.mem_flatMap.mpr ⟨c, hc, List.mem_map_of_mem _ he⟩

theorem RecordInv.nodup (h : RecordInv st hand) :
    (hand ++ st.freeResources ++ st.heldResources).Nodup :=
  h.resources.nodup_iff.mpr (nodup_handedOut _)

theorem RecordInv.active_nodup (h : RecordInv st hand) : st.activeContexts.Nodup :=
  (h.contexts.nodup_iff.mpr (nodup_handedOut _)).sublist (List.sublist_append_left _ _)

/-- A record in hand or on the free list is in no active context's table. -/
theorem RecordInv.not_held (h : RecordInv st hand) {r : ℕ} (hr : r ∈ hand ++ st.freeResources) :
    r ∉ st.heldResources :=
  List.disjoint_of_nodup_append h.nodup hr

theorem RecordInv.lt_next (h : RecordInv st hand) {r : ℕ}
    (hr : r ∈ hand ++ st.freeResources ++ st.heldResources) : r < st.nextResourceId :=
  (mem_handedOut.mp (h.resources.subset hr)).2

/-! ## The resource records -/

/-- Changing a record that no table holds. -/
theorem RecordInv.keys_update (h : RecordInv st hand) {r : ℕ} (hr : r ∉ st.heldResources)
    (x : VtestResource) : ∀ d ∈ st.activeContexts, ∀ e ∈ (st.contexts d).resourceTable,
      (Function.update st.resources r x e.2).resId = e.1 := fun d hd e he => by
  rw [Function.update_noteq (ne_of_mem_of_not_mem (mem_heldResources hd he) hr)]
  exact h.keys d hd e he

theorem RecordInv.setResource (h : RecordInv st hand) {r : ℕ} (hr : r ∈ hand) (x : VtestResource) :
    RecordInv { st with resources := Function.update st.resources r x } hand :=
  { h with keys := h.keys_update (h.not_held (List.mem_append_left _ hr)) x }

/-- `vtest_new_resource` puts the record it returns in the handler's hand. -/
theorem RecordInv.newResource (h : RecordInv st hand) {k r : ℕ} {ok : Bool} {st1 : VtestRenderer}
    (he : vtestNewResource st k ok = some (st1, r)) : RecordInv st1 (r :: hand) := by
  unfold vtestNewResource at he
  dsimp only at he
  split at he
  · rename_i r' rest hfr
    obtain ⟨rfl, rfl⟩ := Prod.mk.inj (Option.some.inj he)
    have hres := h.resources
    rw [hfr] at hres
    exact { h with
      resources := (List.perm_middle.symm.append_right _).trans hres
      keys := h.keys_update (h.not_held (by simp [hfr])) _ }
  · split at he
    · obtain ⟨rfl, rfl⟩ := Prod.mk.inj (Option.some.inj he)
      have hres := h.resources.append_right [st.nextResourceId]
      rw [← handedOut_succ h.resource_pos] at hres
      exact { h with
        resources := (List.perm_append_singleton _ _).symm.trans hres
        keys := h.keys_update (fun hm => (h.lt_next (List.mem_append_right _ hm)).false) _
        resource_pos := Nat.succ_pos _ }
    · cases he

/-- `vtest_unref_resource` returns a record in hand to the free list. -/
theorem RecordInv.unrefResource (h : RecordInv st (r :: hand)) :
    RecordInv (vtestUnrefResource st r) hand :=
  { h with resources := (List.perm_middle.append_right _).trans h.resources }

theorem RecordInv.destroyResource {o : Option ℕ} (h : RecordInv st (o.toList ++ hand)) :
    RecordInv (destroyResource st o) hand := by
  cases o
  · exact h
  · exact h.unrefResource

/-- The resource records the active contexts' tables hold, after one active context's
table changed. -/
theorem heldResources_modifyContext_perm (hc : c ∈ st.activeContexts)
    (hnd : st.activeContexts.Nodup) (f : VtestContext → VtestContext) :
    ((st.modifyContext c f).heldResources ++ (st.contexts c).resourceTable.map Prod.snd).Perm
      ((f (st.contexts c)).resourceTable.map Prod.snd ++ st.heldResources) := by
  let rest := (st.activeContexts.erase c).flatMap fun d => (st.contexts d).resourceTable.map Prod.snd
  have h3 : (st.activeContexts.erase c).flatMap (fun d =>
      ((st.modifyContext c f).contexts d).resourceTable.map Prod.snd) = rest :=
    List.flatMap_congr fun d hd => by
      rw [modifyContext_contexts, if_neg (fun e => hnd.not_mem_erase (e ▸ hd))]
  have h1 : (st.modifyContext c f).heldResources.Perm
      ((f (st.contexts c)).resourceTable.map Prod.snd ++ rest) := by
    have := flatMap_perm_erase (f := fun d => ((st.modifyContext c f).contexts d).resourceTable.map
      Prod.snd) hc hnd
    beta_reduce at this
    rwa [h3, modifyContext_contexts st c c f, if_pos rfl] at this
  have h2 : st.heldResources.Perm ((st.contexts c).resourceTable.map Prod.snd ++ rest) :=
    flatMap_perm_erase hc hnd
  refine (h1.append_right _).trans ?_
  rw [List.append_assoc]
  exact (List.perm_append_comm.append_left _).trans (h2.symm.append_left _)

/-- Replacing an active context's resource table by one whose records are those of the
old table and the hand, up to the records that go into the new hand. -/
theorem RecordInv.setTable (h : RecordInv st hand) (hc : c ∈ st.activeContexts)
    {T : List (ℕ × ℕ)} {hand' : List ℕ}
    (hT : (hand' ++ T.map Prod.snd).Perm (hand ++ (st.contexts c).resourceTable.map Prod.snd))
    (hkeys : ∀ e ∈ T, (st.resources e.2).resId = e.1) (hnd : (T.map Prod.fst).Nodup) :
    RecordInv (st.modifyContext c fun x => { x with resourceTable := T }) hand' := by
  have hm := heldResources_modifyContext_perm hc h.active_nodup fun x => { x with resourceTable := T }
  refine { h with resources := ?_, keys := fun d hd => ?_, keys_nodup := fun d hd => ?_ }
  · refine List.Perm.trans ?_ h.resources
    rw [List.perm_iff_count] at hm hT ⊢
    intro a
    have h1 := hm a
    have h2 := hT a
    simp only [List.count_append, modifyContext_freeResources] at h1 h2 ⊢
    omega
  · simp only [modifyContext_contexts]
    split
    · exact hkeys
    · exact h.keys d hd
  · simp only [modifyContext_contexts]
    split
    · exact hnd
    · exact h.keys_nodup d hd

/-- `util_hash_table_set` of a record in hand, with the replaced record unreferenced. -/
theorem RecordInv.resourceTableSet (h : RecordInv st (r :: hand)) (hc : c ∈ st.activeContexts) :
    RecordInv (vtestResourceTableSet st c r) hand := by
  refine RecordInv.destroyResource (h.setTable hc ?_ ?_ ?_)
  · cases hg : tableGet (st.contexts c).resourceTable (st.resources r).resId with
    | none =>
      simp only [tableSet, hg, Option.toList_none, List.nil_append, List.map_cons,
        filter_key_of_none hg]
      exact List.perm_middle
    | some v =>
      simp only [tableSet, hg, Option.toList_some, List.map_cons]
      have hp := (table_remove_perm (h.keys_nodup c hc) hg).count_eq
      rw [List.perm_iff_count]
      intro a
      have := hp a
      simp only [List.count_append, List.count_cons, List.count_nil] at this ⊢
      omega
  · simp only [tableSet, List.forall_mem_cons, List.mem_filter, true_and]
    exact fun e he => h.keys c hc e he.1
  · simp only [tableSet, List.map_cons, List.nodup_cons, List.mem_map, List.mem_filter]
    refine ⟨?_, (h.keys_nodup c hc).sublist ((List.filter_sublist _).map _)⟩
    rintro ⟨e, ⟨-, he⟩, hk⟩
    simp [hk] at he

/-- `util_hash_table_remove`, with the removed record unreferenced. -/
theorem RecordInv.resourceUnref (h : RecordInv st hand) (hc : c ∈ st.activeContexts) (handle : ℕ) :
    RecordInv (vtestResourceUnref st c handle) hand := by
  refine RecordInv.destroyResource (h.setTable hc ?_ ?_ ?_)
  · cases hg : tableGet (st.contexts c).resourceTable (u32 handle) with
    | none => simp only [tableRemove, hg, filter_key_of_none hg, Option.toList_none, List.nil_append,
        List.Perm.refl]
    | some v =>
      simp only [tableRemove, hg, Option.toList_some]
      have hp := (table_remove_perm (h.keys_nodup c hc) hg).count_eq
      rw [List.perm_iff_count]
      intro a
      have := hp a
      simp only [List.count_append, List.count_cons, List.count_nil] at this ⊢
      omega
  · exact fun e he => h.keys c hc e (List.mem_filter.mp he).1
  · exact (h.keys_nodup c hc).sublist ((List.filter_sublist _).map _)

/-! ## The resource commands -/

theorem RecordInv.ite {α : Type} {p : Prop} [Decidable p] {x y : VtestRenderer × α}
    (hx : RecordInv x.1 hand) (hy : RecordInv y.1 hand) : RecordInv (if p then x else y).1 hand := by
  split
  · exact hx
  · exact hy

theorem RecordInv.ite_state {p : Prop} [Decidable p] {x y : VtestRenderer}
    (hx : RecordInv x hand) (hy : RecordInv y hand) : RecordInv (if p then x else y) hand := by
  split
  · exact hx
  · exact hy

theorem RecordInv.log (h : RecordInv st hand) (l : List RendererCall) :
    RecordInv { st with rendererLog := l } hand := { h with }

/-- Changing a context's record but not its resource table. -/
theorem RecordInv.modifyContext (h : RecordInv st hand) {f : VtestContext → VtestContext}
    (hf : ∀ x, (f x).resourceTable = x.resourceTable) : RecordInv (st.modifyContext c f) hand := by
  have ht : ∀ d, ((st.modifyContext c f).contexts d).resourceTable =
      (st.contexts d).resourceTable := fun d => by
    rw [modifyContext_contexts]
    split
    · subst d; exact hf _
    · rfl
  have held : (st.modifyContext c f).heldResources = st.heldResources :=
    List.flatMap_congr fun d _ => by rw [ht d]
  exact { h with
    resources := held ▸ h.resources
    keys := fun d hd => (ht d).symm ▸ h.keys d hd
    keys_nodup := fun d hd => (ht d).symm ▸ h.keys_nodup d hd }

/-! ## The protocol commands -/

theorem RecordInv.protocolVersion (h : RecordInv st hand) (c version serverVersion : ℕ)
    (readOk shmOk writeOk : Bool) :
    RecordInv (vtestProtocolVersion st c version serverVersion readOk shmOk writeOk).1 hand := by
  refine .ite h (.ite h ?_)
  dsimp only
  exact h.modifyContext fun _ => rfl

theorem RecordInv.lazyInitContext (h : RecordInv st hand) (c : ℕ) (createResult : ℤ) :
    RecordInv (vtestLazyInitContext st c createResult).1 hand := by
  refine .ite h (.ite h ?_)
  dsimp only
  exact (h.log _).modifyContext fun _ => rfl

theorem RecordInv.contextInit (h : RecordInv st hand) (c capsetId : ℕ) (createResult : ℤ) :
    RecordInv (vtestContextInit st c capsetId createResult).1 hand := by
  refine .ite h (.ite h (RecordInv.lazyInitContext ?_ c createResult))
  exact h.modifyContext fun _ => rfl

/-- `RESOURCE_CREATE` and `RESOURCE_CREATE2`: the new record ends in the context's table
or back on the free list. -/
theorem RecordInv.createResourceInternal (h : RecordInv st []) (hc : c ∈ st.activeContexts)
    (handle shmSize : ℕ) (io : ResourceCreateIo) :
    RecordInv (vtestCreateResourceInternal st c handle shmSize io).1 [] := by
  unfold vtestCreateResourceInternal
  refine .ite h (.ite h ?_)
  split
  · exact h
  rename_i st1 r he
  have hc1 : c ∈ st1.activeContexts := (SyncFrame.newResource (c := c) he).activeContexts ▸ hc
  have h2 := fun l => (h.newResource he).log l
  have h3 := fun l x => RecordInv.ite_state (p := shmSize ≠ 0)
    ((h2 l).setResource (List.mem_singleton_self r) x) (h2 l)
  exact .ite (h2 _).unrefResource (.ite (h2 _).unrefResource (.ite (h2 _).unrefResource
    (.ite (h3 _ _).unrefResource ((h3 _ _).resourceTableSet (by split <;> exact hc1)))))

theorem RecordInv.resourceCreateBlob (h : RecordInv st []) (hc : c ∈ st.activeContexts)
    (size : ℕ) (io : BlobCreateIo) : RecordInv (vtestResourceCreateBlob st c size io).1 [] := by
  unfold vtestResourceCreateBlob
  split
  · exact h
  rename_i st1 r he
  have hc1 : c ∈ st1.activeContexts := (SyncFrame.newResource (c := c) he).activeContexts ▸ hc
  have h1 := h.newResource he
  split
  · exact h1.unrefResource
  have h3 := fun x l => (RecordInv.ite_state (p := io.blobMem = .shm)
    (h1.setResource (List.mem_singleton_self r) x) h1).log l
  exact .ite h1.unrefResource (.ite (h3 _ _).unrefResource (.ite (h3 _ _).unrefResource
    (.ite (h3 _ _).unrefResource (.ite (h3 _ _).unrefResource (.ite (h3 _ _).unrefResource
      ((h3 _ _).resourceTableSet (by split <;> exact hc1)))))))

/-! ## The context records -/

/-- Replacing the record of a context that is not active. -/
theorem RecordInv.update_inactive (h : RecordInv st hand) (hc : c ∉ st.activeContexts)
    (x : VtestContext) : RecordInv { st with contexts := Function.update st.contexts c x } hand := by
  have hne : ∀ d ∈ st.activeContexts, d ≠ c := fun d hd e => hc (e ▸ hd)
  have held : { st with contexts := Function.update st.contexts c x }.heldResources =
      st.heldResources :=
    List.flatMap_congr fun d hd => by dsimp only; rw [Function.update_noteq (hne d hd)]
  refine { h with
    resources := held ▸ h.resources
    keys := fun d hd => ?_
    keys_nodup := fun d hd => ?_ }
  · dsimp only
    rw [Function.update_noteq (hne d hd)]
    exact h.keys d hd
  · dsimp only
    rw [Function.update_noteq (hne d hd)]
    exact h.keys_nodup d hd

/-- `vtest_new_context`'s record, put back on the free list by a failed
`vtest_create_context`. -/
theorem RecordInv.newContext (h : RecordInv st []) {ok : Bool} {st1 : VtestRenderer}
    (he : vtestNewContext st ok = some (st1, c)) :
    RecordInv { st1 with freeContexts := c :: st1.freeContexts } [] := by
  have hnd := h.contexts.nodup_iff.mpr (nodup_handedOut _)
  unfold vtestNewContext at he
  split at he
  · rename_i d rest hf
    obtain ⟨rfl, rfl⟩ := Prod.mk.inj (Option.some.inj he)
    have hd : d ∉ st.activeContexts := fun ha => List.disjoint_of_nodup_append hnd ha (by simp [hf])
    have hctx : (st.activeContexts ++ d :: rest).Perm (handedOut st.nextContextId) := hf ▸ h.contexts
    exact { h.update_inactive hd _ with contexts := hctx }
  · split at he
    · obtain ⟨rfl, rfl⟩ := Prod.mk.inj (Option.some.inj he)
      have hd : st.nextContextId ∉ st.activeContexts := fun ha =>
        (mem_handedOut.mp (h.contexts.subset (List.mem_append_left _ ha))).2.false
      have hctx : (st.activeContexts ++ st.nextContextId :: st.freeContexts).Perm
          (handedOut (st.nextContextId + 1)) := by
        rw [handedOut_succ h.context_pos]
        exact List.perm_middle.trans ((List.perm_append_singleton _ _).symm.trans
          (h.contexts.append_right _))
      exact { h.update_inactive hd VtestContext.empty with
        contexts := hctx
        context_pos := Nat.succ_pos _ }
    · cases he

/-- The head of the free list becomes active, with its empty resource table. -/
theorem RecordInv.activate (h : RecordInv st hand) {rest : List ℕ}
    (hf : st.freeContexts = c :: rest) (hx : (st.contexts c).resourceTable = []) :
    RecordInv { st with freeContexts := rest, activeContexts := st.activeContexts ++ [c] } hand := by
  have hctx := h.contexts
  rw [hf] at hctx
  have held : VtestRenderer.heldResources
      { st with freeContexts := rest, activeContexts := st.activeContexts ++ [c] } =
      st.heldResources := by
    simp only [VtestRenderer.heldResources, List.flatMap_append, List.flatMap_cons, hx,
      List.map_nil, List.flatMap_nil, List.append_nil]
  refine { h with
    contexts := by simpa using hctx
    resources := held ▸ h.resources
    keys := fun d hd => ?_
    keys_nodup := fun d hd => ?_ } <;>
  rcases List.mem_append.mp hd with hd | hd
  · exact h.keys d hd
  · simp [List.mem_singleton.mp hd, hx]
  · exact h.keys_nodup d hd
  · simp [List.mem_singleton.mp hd, hx]

/-- `vtest_create_context` keeps the records accounted. -/
theorem RecordInv.createContext (h : RecordInv st []) (hs : SyncInv st) (length : ℕ)
    (mallocOk callocOk readOk : Bool) :
    RecordInv (vtestCreateContext st length mallocOk callocOk readOk).1 [] := by
  unfold vtestCreateContext
  split
  · exact h
  split
  · exact h
  rename_i st1 c he
  split
  · exact h.newContext he
  · exact (h.newContext he).activate rfl (hs.newContext_record he).1.1

/-- `util_hash_table_clear` of a resource table: every record of the table is
unreferenced, in table order, and pushed on the free list. -/
theorem unrefResources_eq (st : VtestRenderer) (l : List (ℕ × ℕ)) :
    vtestUnrefResources st l = { st with
      rendererLog := st.rendererLog ++ l.map fun e => RendererCall.resourceUnref (st.resources e.2).resId
      freeResources := (l.map Prod.snd).reverse ++ st.freeResources } := by
  induction l generalizing st with
  | nil => simp [vtestUnrefResources]
  | cons e l ih =>
    rw [vtestUnrefResources, ih]
    simp [vtestUnrefResource]

section DestroyContext

variable (st : VtestRenderer) (c : ℕ)

@[simp] theorem destroyContext_activeContexts :
    (vtestDestroyContext st c).activeContexts = st.activeContexts.erase c := rfl

@[simp] theorem destroyContext_freeContexts :
    (vtestDestroyContext st c).freeContexts = c :: st.freeContexts := rfl

@[simp] theorem destroyContext_nextContextId :
    (vtestDestroyContext st c).nextContextId = st.nextContextId := by
  simp only [vtestDestroyContext, unrefResources_eq]
  rfl

@[simp] theorem destroyContext_freeResources : (vtestDestroyContext st c).freeResources =
    ((st.contexts c).resourceTable.map Prod.snd).reverse ++ st.freeResources := by
  simp only [vtestDestroyContext, unrefResources_eq]
  rfl

@[simp] theorem destroyContext_nextResourceId :
    (vtestDestroyContext st c).nextResourceId = st.nextResourceId := by
  simp only [vtestDestroyContext, unrefResources_eq]
  rfl

@[simp] theorem destroyContext_resources :
    (vtestDestroyContext st c).resources = st.resources := by
  simp only [vtestDestroyContext, unrefResources_eq]
  rfl

@[simp] theorem destroyContext_resourceTable (d : ℕ) :
    ((vtestDestroyContext st c).contexts d).resourceTable =
      if d = c then [] else (st.contexts d).resourceTable := by
  simp only [vtestDestroyContext, unrefResources_eq, modifyContext_contexts]
  split <;> rfl

end DestroyContext

/-- `vtest_destroy_context` returns the context's record to the free list and its table's
resource records to theirs. -/
theorem RecordInv.destroyContext (h : RecordInv st []) (hc : c ∈ st.activeContexts) :
    RecordInv (vtestDestroyContext st c) [] := by
  have hnd := h.active_nodup
  have hne : ∀ d ∈ st.activeContexts.erase c, d ≠ c := fun d hd e => hnd.not_mem_erase (e ▸ hd)
  have hrest : (vtestDestroyContext st c).heldResources =
      (st.activeContexts.erase c).flatMap fun d => (st.contexts d).resourceTable.map Prod.snd :=
    List.flatMap_congr fun d hd => by rw [destroyContext_resourceTable, if_neg (hne d hd)]
  have hheld := (flatMap_perm_erase (f := fun d => (st.contexts d).resourceTable.map Prod.snd)
    hc hnd).count_eq
  have hres := h.resources.count_eq
  refine ⟨?_, ?_, fun d hd => ?_, fun d hd => ?_, ?_, ?_⟩
  · rw [destroyContext_activeContexts, destroyContext_freeContexts, destroyContext_nextContextId]
    exact List.perm_middle.trans (((List.perm_cons_erase hc).symm.append_right _).trans h.contexts)
  · rw [List.perm_iff_count, hrest, destroyContext_freeResources, destroyContext_nextResourceId]
    intro a
    have h1 := hheld a
    have h2 := hres a
    simp only [VtestRenderer.heldResources, List.count_append, List.count_reverse,
      List.count_nil] at h1 h2 ⊢
    omega
  · rw [destroyContext_activeContexts] at hd
    rw [destroyContext_resourceTable, if_neg (hne d hd), destroyContext_resources]
    exact h.keys d (List.mem_of_mem_erase hd)
  · rw [destroyContext_activeContexts] at hd
    rw [destroyContext_resourceTable, if_neg (hne d hd)]
    exact h.keys_nodup d (List.mem_of_mem_erase hd)
  · rw [destroyContext_nextContextId]
    exact h.context_pos
  · rw [destroyContext_nextResourceId]
    exact h.resource_pos

/-! ## Every reachable state -/

theorem RecordInv.init (multiClients : Bool) : RecordInv (VtestRenderer.init multiClients) [] where
  contexts := List.Perm.refl _
  resources := List.Perm.refl _
  keys _ hd := by cases hd
  keys_nodup _ hd := by cases hd
  context_pos := Nat.one_pos
  resource_pos := Nat.one_pos

/-- A client command on an active context keeps the records accounted. -/
theorem RecordInv.runCommand (h : RecordInv st []) (hc : c ∈ st.activeContexts) (now : ℕ)
    (cmd : Command) : RecordInv (runCommand now st c cmd) [] := by
  cases cmd with
  | syncCreate lo hi mallocOk writeOk => exact h.of_view (controlView_syncCreate ..)
  | syncUnref syncId => exact h.of_view (controlView_syncUnref ..)
  | syncWrite syncId lo hi => exact h.of_view (controlView_syncWrite ..)
  | syncWait lengthDw buf io => exact h.of_view (controlView_syncWait ..)
  | submitCmd2 lengthDw buf io => exact h.of_view (controlView_submitCmd2 ..)
  | submitCmd lengthDw mallocOk input r => exact h.of_view (controlView_submitCmd ..)
  | resourceCreate handle shmSize io => exact h.createResourceInternal hc handle shmSize io
  | resourceCreateBlob size io => exact h.resourceCreateBlob hc size io
  | resourceUnref handle => exact h.resourceUnref hc handle
  | protocolVersion v server readOk shmOk writeOk => exact h.protocolVersion c v server readOk shmOk writeOk
  | contextInit capsetId r => exact h.contextInit c capsetId r
  | lazyInitContext r => exact h.lazyInitContext c r

/-- Every step keeps the records accounted. -/
theorem RecordInv.step (h : RecordInv st []) (hs : SyncInv st) (e : Event) :
    RecordInv (step st e) [] := by
  cases e with
  | createContext length mallocOk callocOk readOk =>
    exact h.createContext hs length mallocOk callocOk readOk
  | command c cmd now =>
    simp only [Vtest.step]
    split
    · rename_i hc
      have h1 : RecordInv { st with currentContext := some c } [] := { h with }
      exact h1.runCommand hc now cmd
    · exact h
  | contextFence cookie now =>
    simp only [Vtest.step]
    split
    · exact h.of_view (controlView_writeContextFence ..)
    · exact h
  | implicitFence fenceId =>
    simp only [Vtest.step]
    split
    · exact { h with }
    · exact h
  | destroyContext c =>
    simp only [Vtest.step]
    split
    · exact h.destroyContext ‹_›
    · exact h
  | setMaxLength length => exact { h with }

theorem Reachable.recordInv (h : Reachable st) : RecordInv st [] := by
  induction h with
  | init multiClients => exact RecordInv.init multiClients
  | step e hr ih => exact ih.step hr.syncInv e

end Vtest

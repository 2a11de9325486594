import Vtest.Verification.Refs
import Vtest.Model.Submit

/-! # Steps outside the sync subsystem

The resource registry, the renderer's log and counters, and a context's protocol state
are invisible to the sync subsystem. `SyncFrame c st st'` says that `st'` differs from
`st` only there, and only in context `c`; every invariant of the later modules reads
nothing such a step changes. This module shows that the resource and protocol
commands, and `SUBMIT_CMD`, are such steps. -/

namespace Vtest

/-- `st'` differs from `st` only in the resource registry, the renderer's log, counters
and current context, and the resource table and protocol state of context `c`. -/
structure SyncFrame (c : ℕ) (st st' : VtestRenderer) : Prop where
  eq : st' = { st with
    maxLength := st'.maxLength, implicitFenceSubmitted := st'.implicitFenceSubmitted,
    implicitFenceCompleted := st'.implicitFenceCompleted, contexts := st'.contexts,
    freeResources := st'.freeResources, nextResourceId := st'.nextResourceId,
    resources := st'.resources, currentContext := st'.currentContext,
    rendererLog := st'.rendererLog }
  ctx : ∀ d, st'.contexts d = { st.contexts d with
    protocolVersion := (st'.contexts d).protocolVersion, capsetId := (st'.contexts d).capsetId,
    contextInitialized := (st'.contexts d).contextInitialized,
    resourceTable := (st'.contexts d).resourceTable }
  other : ∀ d, d ≠ c → st'.contexts d = st.contexts d

namespace SyncFrame

variable {c : ℕ} {st st' st'' : VtestRenderer}

theorem refl (c : ℕ) (st : VtestRenderer) : SyncFrame c st st := ⟨rfl, fun _ => rfl, fun _ _ => rfl⟩

theorem trans (h : SyncFrame c st st') (h' : SyncFrame c st' st'') : SyncFrame c st st'' where
  eq := by rw [h'.eq]; conv_lhs => rw [h.eq]
  ctx d := by rw [h'.ctx d, h.ctx d]
  other d hd := by rw [h'.other d hd, h.other d hd]

/-- Changing context `c`'s protocol state or resource table. -/
theorem modifyContext {f : VtestContext → VtestContext}
    (hf : ∀ x, f x = { x with
      protocolVersion := (f x).protocolVersion, capsetId := (f x).capsetId,
      contextInitialized := (f x).contextInitialized, resourceTable := (f x).resourceTable }) :
    SyncFrame c st (st.modifyContext c f) where
  eq := rfl
  ctx d := by
    by_cases hd : d = c
    · subst hd; simpa using hf (st.contexts d)
    · simp [hd]
  other d hd := by simp [hd]

theorem pool (h : SyncFrame c st st') : st'.pool = st.pool := by rw [h.eq]

theorem activeContexts (h : SyncFrame c st st') : st'.activeContexts = st.activeContexts := by
  rw [h.eq]

theorem freeContexts (h : SyncFrame c st st') : st'.freeContexts = st.freeContexts := by
  rw [h.eq]

theorem nextContextId (h : SyncFrame c st st') : st'.nextContextId = st.nextContextId := by
  rw [h.eq]

theorem fences (h : SyncFrame c st st') : st'.fences = st.fences := by rw [h.eq]

theorem submitMemory (h : SyncFrame c st st') : st'.submitMemory = st.submitMemory := by
  rw [h.eq]

theorem nextCookie (h : SyncFrame c st st') : st'.nextCookie = st.nextCookie := by rw [h.eq]

theorem notified (h : SyncFrame c st st') : st'.notified = st.notified := by rw [h.eq]

theorem syncTable (h : SyncFrame c st st') (d : ℕ) :
    (st'.contexts d).syncTable = (st.contexts d).syncTable := by rw [h.ctx d]

theorem syncQueues (h : SyncFrame c st st') (d : ℕ) :
    (st'.contexts d).syncQueues = (st.contexts d).syncQueues := by rw [h.ctx d]

theorem syncWaits (h : SyncFrame c st st') (d : ℕ) :
    (st'.contexts d).syncWaits = (st.contexts d).syncWaits := by rw [h.ctx d]

theorem appended (h : SyncFrame c st st') (d : ℕ) :
    (st'.contexts d).appended = (st.contexts d).appended := by rw [h.ctx d]

theorem signaled (h : SyncFrame c st st') (d : ℕ) :
    (st'.contexts d).signaled = (st.contexts d).signaled := by rw [h.ctx d]

theorem contextSyncRefs (h : SyncFrame c st st') (d : ℕ) :
    (st'.contexts d).syncRefs = (st.contexts d).syncRefs := by
  simp only [VtestContext.syncRefs, VtestContext.queuedSubmits, h.syncTable, h.syncWaits,
    h.syncQueues]

theorem syncRefs (h : SyncFrame c st st') : st'.syncRefs = st.syncRefs := by
  rw [VtestRenderer.syncRefs, h.activeContexts]
  exact refsOf_congr fun d _ => h.contextSyncRefs d

end SyncFrame

/-! ## Resources -/

variable {c : ℕ} {st st' : VtestRenderer}

/-- Both branches of a handler's test are frames. -/
theorem SyncFrame.ite {α : Type} {p : Prop} [Decidable p] {x y : VtestRenderer × α}
    (hx : SyncFrame c st x.1) (hy : SyncFrame c st y.1) : SyncFrame c st (if p then x else y).1 := by
  split
  · exact hx
  · exact hy

theorem SyncFrame.ite_state {p : Prop} [Decidable p] {x y : VtestRenderer}
    (hx : SyncFrame c st x) (hy : SyncFrame c st y) : SyncFrame c st (if p then x else y) := by
  split
  · exact hx
  · exact hy

theorem SyncFrame.log (h : SyncFrame c st st') (l : List RendererCall) :
    SyncFrame c st { st' with rendererLog := l } := h.trans ⟨rfl, fun _ => rfl, fun _ _ => rfl⟩

theorem SyncFrame.resources (h : SyncFrame c st st') (f : ℕ → VtestResource) :
    SyncFrame c st { st' with resources := f } := h.trans ⟨rfl, fun _ => rfl, fun _ _ => rfl⟩

theorem SyncFrame.newResource {h r : ℕ} {ok : Bool} (he : vtestNewResource st h ok = some (st', r)) :
    SyncFrame c st st' := by
  unfold vtestNewResource at he
  dsimp only at he
  split at he
  · cases he; exact ⟨rfl, fun _ => rfl, fun _ _ => rfl⟩
  · split at he <;> cases he; exact ⟨rfl, fun _ => rfl, fun _ _ => rfl⟩

theorem SyncFrame.unrefResource (st : VtestRenderer) (r : ℕ) :
    SyncFrame c st (vtestUnrefResource st r) := ⟨rfl, fun _ => rfl, fun _ _ => rfl⟩

theorem SyncFrame.destroyResource (st : VtestRenderer) (o : Option ℕ) :
    SyncFrame c st (destroyResource st o) := by
  cases o
  · exact .refl c st
  · exact .unrefResource st _

theorem SyncFrame.unrefResources (c : ℕ) :
    ∀ (st : VtestRenderer) (l : List (ℕ × ℕ)), SyncFrame c st (vtestUnrefResources st l)
  | _, [] => .refl c _
  | st, e :: l => (SyncFrame.unrefResource st e.2).trans (SyncFrame.unrefResources c _ l)

@[simp] theorem unrefResources_pool (st : VtestRenderer) (l : List (ℕ × ℕ)) :
    (vtestUnrefResources st l).pool = st.pool :=
  (SyncFrame.unrefResources 0 st l).pool

@[simp] theorem unrefResources_contexts (st : VtestRenderer) (l : List (ℕ × ℕ)) :
    (vtestUnrefResources st l).contexts = st.contexts :=
  funext fun d => (SyncFrame.unrefResources (d + 1) st l).other d (Nat.succ_ne_self d).symm

@[simp] theorem unrefResources_notified (st : VtestRenderer) (l : List (ℕ × ℕ)) :
    (vtestUnrefResources st l).notified = st.notified :=
  (SyncFrame.unrefResources 0 st l).notified

@[simp] theorem unrefResources_nextFd (st : VtestRenderer) (l : List (ℕ × ℕ)) :
    (vtestUnrefResources st l).nextFd = st.nextFd := by
  rw [(SyncFrame.unrefResources 0 st l).eq]

theorem SyncFrame.resourceTableSet (st : VtestRenderer) (r : ℕ) :
    SyncFrame c st (vtestResourceTableSet st c r) :=
  SyncFrame.trans (.modifyContext (by intro; rfl)) (.destroyResource _ _)

theorem SyncFrame.thenUnrefResource (h : SyncFrame c st st') (r : ℕ) :
    SyncFrame c st (vtestUnrefResource st' r) := h.trans (.unrefResource st' r)

theorem SyncFrame.thenTableSet (h : SyncFrame c st st') (r : ℕ) :
    SyncFrame c st (vtestResourceTableSet st' c r) := h.trans (.resourceTableSet st' r)

/-- A resource command's every path ends in `vtest_unref_resource` or in the table
insertion, after allocating and updating the record. -/
theorem SyncFrame.createResourceInternal (st : VtestRenderer) (handle shmSize : ℕ)
    (io : ResourceCreateIo) : SyncFrame c st (vtestCreateResourceInternal st c handle shmSize io).1 := by
  unfold vtestCreateResourceInternal
  refine .ite (.refl c st) (.ite (.refl c st) ?_)
  split
  · exact .refl c st
  rename_i st1 r he
  have h2 := (SyncFrame.newResource (c := c) he).log
  have h3 := fun l f => SyncFrame.ite_state (p := shmSize ≠ 0) ((h2 l).resources f) (h2 l)
  exact .ite ((h2 _).thenUnrefResource r) (.ite ((h2 _).thenUnrefResource r)
    (.ite ((h2 _).thenUnrefResource r) (.ite ((h3 _ _).thenUnrefResource r) ((h3 _ _).thenTableSet r))))

theorem SyncFrame.resourceCreateBlob (st : VtestRenderer) (size : ℕ) (io : BlobCreateIo) :
    SyncFrame c st (vtestResourceCreateBlob st c size io).1 := by
  unfold vtestResourceCreateBlob
  split
  · exact .refl c st
  rename_i st1 r he
  have h1 := SyncFrame.newResource (c := c) he
  split
  · exact h1.thenUnrefResource r
  have h3 := fun f l => (SyncFrame.ite_state (p := io.blobMem = .shm) (h1.resources f) h1).log l
  exact .ite (h1.thenUnrefResource r) (.ite ((h3 _ _).thenUnrefResource r)
    (.ite ((h3 _ _).thenUnrefResource r) (.ite ((h3 _ _).thenUnrefResource r)
      (.ite ((h3 _ _).thenUnrefResource r) (.ite ((h3 _ _).thenUnrefResource r)
        ((h3 _ _).thenTableSet r))))))

theorem SyncFrame.resourceUnref (st : VtestRenderer) (handle : ℕ) :
    SyncFrame c st (vtestResourceUnref st c handle) :=
  SyncFrame.trans (.modifyContext (by intro; rfl)) (.destroyResource _ _)

theorem SyncFrame.protocolVersion (st : VtestRenderer) (version serverVersion : ℕ)
    (readOk shmOk writeOk : Bool) :
    SyncFrame c st (vtestProtocolVersion st c version serverVersion readOk shmOk writeOk).1 := by
  refine .ite (.refl c st) (.ite (.refl c st) ?_)
  dsimp only
  exact .modifyContext fun _ => rfl

theorem SyncFrame.lazyInitContext (st : VtestRenderer) (createResult : ℤ) :
    SyncFrame c st (vtestLazyInitContext st c createResult).1 := by
  refine .ite (.refl c st) (.ite (.refl c st) ?_)
  dsimp only
  exact ((SyncFrame.refl c st).log _).trans (.modifyContext fun _ => rfl)

theorem SyncFrame.contextInit (st : VtestRenderer) (capsetId : ℕ) (createResult : ℤ) :
    SyncFrame c st (vtestContextInit st c capsetId createResult).1 := by
  refine .ite (.refl c st) (.ite (.refl c st) ?_)
  exact (SyncFrame.modifyContext fun _ => rfl).trans (.lazyInitContext _ _)

theorem SyncFrame.submitCmd (st : VtestRenderer) (lengthDw : ℕ) (mallocOk : Bool)
    (input : ClientInput) (submitResult : ℤ) :
    SyncFrame c st (vtestSubmitCmd st c lengthDw mallocOk input submitResult).1 := by
  unfold vtestSubmitCmd
  split
  · exact .refl c st
  · exact .ite (.refl c st) (.ite (.refl c st) (.ite ⟨rfl, fun _ => rfl, fun _ _ => rfl⟩
      ⟨rfl, fun _ => rfl, fun _ _ => rfl⟩))

end Vtest

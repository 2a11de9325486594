import Vtest.Verification.Records

/-! # Protocol negotiation

In multi-client mode `vtest_protocol_version` refuses every version below 3, and
`vtest_lazy_init_context` creates no renderer context below version 3; a context starts
at version 0 with none. So every active context has negotiated version 0 or at least 3,
and has a renderer context only at version 3 or later. Once a context's renderer
context exists, `vtest_context_init` and the lazy init return before writing anything,
and no other step writes a context's capset or its `context_initialized`: both stay as
they are until the context is destroyed. -/

namespace Vtest

/-- A context's protocol version, capset and `context_initialized`. -/
def VtestContext.protocolState (x : VtestContext) : ℕ × ℕ × Bool :=
  (x.protocolVersion, x.capsetId, x.contextInitialized)

/-- The mode, the active contexts and each context's protocol state. -/
structure ProtocolView where
  multiClients : Bool
  activeContexts : List ℕ
  states : ℕ → ℕ × ℕ × Bool

def VtestRenderer.protocolView (st : VtestRenderer) : ProtocolView :=
  ⟨st.multiClients, st.activeContexts, fun d => (st.contexts d).protocolState⟩

variable {st st' : VtestRenderer} {c : ℕ}

theorem protocolState_of_view (hv : st'.protocolView = st.protocolView) (d : ℕ) :
    (st'.contexts d).protocolState = (st.contexts d).protocolState :=
  congrFun (congrArg ProtocolView.states hv) d

theorem protocolView_of_controlView (hv : st'.controlView = st.controlView) :
    st'.protocolView = st.protocolView := by
  have hc : ∀ d, (st'.contexts d).protocolState = (st.contexts d).protocolState := fun d => by
    have := control_of_view hv d
    simp only [VtestContext.control, ContextControl.mk.injEq] at this
    simp only [VtestContext.protocolState, this]
  simp only [VtestRenderer.protocolView, ProtocolView.mk.injEq, hc]
  exact ⟨congrArg ControlView.multiClients hv, congrArg ControlView.activeContexts hv, trivial⟩

/-- Changing a context's record but not its protocol state. -/
theorem protocolView_modifyContext {f : VtestContext → VtestContext}
    (hv : st'.protocolView = st.protocolView) (hf : ∀ x, (f x).protocolState = x.protocolState) :
    (st'.modifyContext c f).protocolView = st.protocolView := by
  refine Eq.trans ?_ hv
  simp only [VtestRenderer.protocolView, modifyContext_contexts, ProtocolView.mk.injEq]
  refine ⟨rfl, rfl, funext fun d => ?_⟩
  split
  · subst d; exact hf _
  · rfl

theorem protocolView_ite {α : Type} {p : Prop} [Decidable p] {x y : VtestRenderer × α}
    (hx : x.1.protocolView = st.protocolView) (hy : y.1.protocolView = st.protocolView) :
    (if p then x else y).1.protocolView = st.protocolView := by
  split
  · exact hx
  · exact hy

theorem protocolView_ite_state {p : Prop} [Decidable p] {x y : VtestRenderer}
    (hx : x.protocolView = st.protocolView) (hy : y.protocolView = st.protocolView) :
    (if p then x else y).protocolView = st.protocolView := by
  split
  · exact hx
  · exact hy

/-! ## The resource commands keep every protocol state -/

theorem protocolView_newResource {k r : ℕ} {ok : Bool} {st1 : VtestRenderer}
    (he : vtestNewResource st k ok = some (st1, r)) : st1.protocolView = st.protocolView := by
  unfold vtestNewResource at he
  dsimp only at he
  split at he
  · cases he; rfl
  · split at he <;> cases he; rfl

theorem protocolView_destroyResource (st : VtestRenderer) (o : Option ℕ) :
    (destroyResource st o).protocolView = st.protocolView := by
  cases o <;> rfl

theorem protocolView_log (hv : st'.protocolView = st.protocolView) (l : List RendererCall) :
    { st' with rendererLog := l }.protocolView = st.protocolView := hv

theorem protocolView_unrefResource (hv : st'.protocolView = st.protocolView) (r : ℕ) :
    (vtestUnrefResource st' r).protocolView = st.protocolView := hv

theorem protocolView_resourceTableSet (hv : st'.protocolView = st.protocolView) (c r : ℕ) :
    (vtestResourceTableSet st' c r).protocolView = st.protocolView :=
  (protocolView_destroyResource _ _).trans (protocolView_modifyContext hv fun _ => rfl)

theorem protocolView_resourceUnref (st : VtestRenderer) (c handle : ℕ) :
    (vtestResourceUnref st c handle).protocolView = st.protocolView :=
  (protocolView_destroyResource _ _).trans (protocolView_modifyContext rfl fun _ => rfl)

theorem protocolView_createResourceInternal (st : VtestRenderer) (c handle shmSize : ℕ)
    (io : ResourceCreateIo) :
    (vtestCreateResourceInternal st c handle shmSize io).1.protocolView = st.protocolView := by
  unfold vtestCreateResourceInternal
  refine protocolView_ite rfl (protocolView_ite rfl ?_)
  split
  · rfl
  rename_i st1 r he
  have h1 := protocolView_newResource he
  have h3 := fun x l => protocolView_ite_state (p := shmSize ≠ 0)
    (x := { st1 with rendererLog := l, resources := x }) (y := { st1 with rendererLog := l }) h1 h1
  exact protocolView_ite h1 (protocolView_ite h1 (protocolView_ite h1 (protocolView_ite
    (protocolView_unrefResource (h3 _ _) r) (protocolView_resourceTableSet (h3 _ _) c r))))

theorem protocolView_resourceCreateBlob (st : VtestRenderer) (c size : ℕ) (io : BlobCreateIo) :
    (vtestResourceCreateBlob st c size io).1.protocolView = st.protocolView := by
  unfold vtestResourceCreateBlob
  split
  · rfl
  rename_i st1 r he
  have h1 := protocolView_newResource he
  split
  · exact h1
  have h3 := fun x l => protocolView_log (protocolView_ite_state (p := io.blobMem = .shm)
    (x := { st1 with resources := x }) h1 h1) l
  exact protocolView_ite h1 (protocolView_ite (protocolView_unrefResource (h3 _ _) r)
    (protocolView_ite (protocolView_unrefResource (h3 _ _) r)
      (protocolView_ite (protocolView_unrefResource (h3 _ _) r)
        (protocolView_ite (protocolView_unrefResource (h3 _ _) r)
          (protocolView_ite (protocolView_unrefResource (h3 _ _) r)
            (protocolView_resourceTableSet (h3 _ _) c r))))))

/-! ## The context lifecycle -/

theorem newContext_frame {ok : Bool} {st1 : VtestRenderer}
    (he : vtestNewContext st ok = some (st1, c)) :
    st1.multiClients = st.multiClients ∧ st1.activeContexts = st.activeContexts ∧
      ∀ d, d ≠ c → st1.contexts d = st.contexts d := by
  unfold vtestNewContext at he
  split at he
  · obtain ⟨rfl, rfl⟩ := Prod.mk.inj (Option.some.inj he)
    exact ⟨rfl, rfl, fun d hd => by rw [modifyContext_contexts, if_neg hd]⟩
  · split at he
    · obtain ⟨rfl, rfl⟩ := Prod.mk.inj (Option.some.inj he)
      exact ⟨rfl, rfl, fun d hd => Function.update_noteq hd _ _⟩
    · cases he

/-- The record `vtest_new_context` hands out is not an active context's. -/
theorem SyncInv.newContext_inactive (h : SyncInv st) {ok : Bool} {st1 : VtestRenderer}
    (he : vtestNewContext st ok = some (st1, c)) : c ∉ st.activeContexts := by
  unfold vtestNewContext at he
  split at he
  · rename_i d rest hf
    obtain ⟨-, rfl⟩ := Prod.mk.inj (Option.some.inj he)
    exact h.active_free d (hf ▸ List.mem_cons_self _ _)
  · split at he
    · obtain ⟨-, rfl⟩ := Prod.mk.inj (Option.some.inj he)
      exact fun hc => lt_irrefl _ (h.bound _ (.inl hc))
    · cases he

@[simp] theorem destroyContext_multiClients (st : VtestRenderer) (c : ℕ) :
    (vtestDestroyContext st c).multiClients = st.multiClients := by
  simp only [vtestDestroyContext, unrefResources_eq]
  rfl

@[simp] theorem destroyContext_protocolState (st : VtestRenderer) (c d : ℕ) :
    ((vtestDestroyContext st c).contexts d).protocolState = (st.contexts d).protocolState := by
  simp only [vtestDestroyContext, unrefResources_eq, modifyContext_contexts]
  split
  · next hd => subst hd; rfl
  · rfl

/-! ## The invariant -/

/-- A context's protocol state as multi-client mode requires it. -/
structure ProtocolOk (x : VtestContext) : Prop where
  version : x.protocolVersion = 0 ∨ 3 ≤ x.protocolVersion
  initialized : x.contextInitialized = true → 3 ≤ x.protocolVersion

/-- In multi-client mode, every active context's protocol state is as required. -/
def ProtocolInv (st : VtestRenderer) : Prop :=
  st.multiClients = true → ∀ c ∈ st.activeContexts, ProtocolOk (st.contexts c)

theorem ProtocolOk.of_state {x y : VtestContext} (h : ProtocolOk x)
    (hs : y.protocolState = x.protocolState) : ProtocolOk y := by
  simp only [VtestContext.protocolState, Prod.mk.injEq] at hs
  obtain ⟨h1, -, h3⟩ := hs
  exact ⟨by rw [h1]; exact h.version, fun hi => by rw [h1]; exact h.initialized (h3 ▸ hi)⟩

/-- A state with the same mode, fewer active contexts and their protocol states kept. -/
theorem ProtocolInv.of_sub (h : ProtocolInv st) (hm : st'.multiClients = st.multiClients)
    (ha : ∀ d ∈ st'.activeContexts, d ∈ st.activeContexts)
    (hs : ∀ d ∈ st'.activeContexts, (st'.contexts d).protocolState = (st.contexts d).protocolState) :
    ProtocolInv st' :=
  fun hm' d hd => (h (hm ▸ hm') d (ha d hd)).of_state (hs d hd)

theorem ProtocolInv.of_view (h : ProtocolInv st) (hv : st'.protocolView = st.protocolView) :
    ProtocolInv st' := by
  have ha : st'.activeContexts = st.activeContexts := congrArg ProtocolView.activeContexts hv
  exact h.of_sub (congrArg ProtocolView.multiClients hv) (fun d hd => ha ▸ hd)
    fun d _ => protocolState_of_view hv d

/-- A property of the state a handler returns, from one for each branch of its test. -/
theorem fst_ite {α : Type} {P : VtestRenderer → Prop} {p : Prop} [Decidable p]
    {x y : VtestRenderer × α} (hx : p → P x.1) (hy : ¬p → P y.1) : P (if p then x else y).1 := by
  split
  · exact hx ‹_›
  · exact hy ‹_›

/-- Changing one context's record to one that multi-client mode accepts. -/
theorem ProtocolInv.modifyContext (h : ProtocolInv st) {f : VtestContext → VtestContext}
    (hf : st.multiClients = true → c ∈ st.activeContexts → ProtocolOk (f (st.contexts c))) :
    ProtocolInv (st.modifyContext c f) := by
  intro hm d hd
  rw [modifyContext_contexts]
  split
  · subst d; exact hf hm hd
  · exact h hm d hd

theorem ProtocolInv.protocolVersion (h : ProtocolInv st) (c version serverVersion : ℕ)
    (readOk shmOk writeOk : Bool) :
    ProtocolInv (vtestProtocolVersion st c version serverVersion readOk shmOk writeOk).1 := by
  have key : ∀ v : ℕ, (st.multiClients = true → 3 ≤ v) →
      ProtocolInv (st.modifyContext c fun x => { x with protocolVersion := v }) :=
    fun v hv => h.modifyContext fun hm _ => ⟨.inr (hv hm), fun _ => hv hm⟩
  exact fst_ite (P := ProtocolInv) (fun _ => h) fun _ => fst_ite (fun _ => h) fun hv =>
    key _ fun hm => not_lt.mp fun hl => hv ⟨hm, hl⟩

theorem ProtocolInv.lazyInitContext (h : ProtocolInv st) (c : ℕ) (createResult : ℤ) :
    ProtocolInv (vtestLazyInitContext st c createResult).1 := by
  have hl : ProtocolInv { st with rendererLog := st.rendererLog ++
      [RendererCall.contextCreate c (st.contexts c).capsetId] } := h
  exact fst_ite (P := ProtocolInv) (fun _ => h) fun _ => fst_ite (fun _ => h) fun hv =>
    hl.modifyContext fun hm hc => ⟨(h hm c hc).version, fun _ => not_lt.mp fun hl => hv ⟨hm, hl⟩⟩

theorem ProtocolInv.contextInit (h : ProtocolInv st) (c capsetId : ℕ) (createResult : ℤ) :
    ProtocolInv (vtestContextInit st c capsetId createResult).1 :=
  fst_ite (P := ProtocolInv) (fun _ => h) fun _ => fst_ite (fun _ => h) fun _ =>
    (h.modifyContext fun hm hc => ⟨(h hm c hc).version, (h hm c hc).initialized⟩).lazyInitContext
      c createResult

theorem ProtocolInv.createContext (h : ProtocolInv st) (hs : SyncInv st) (length : ℕ)
    (mallocOk callocOk readOk : Bool) :
    ProtocolInv (vtestCreateContext st length mallocOk callocOk readOk).1 := by
  unfold vtestCreateContext
  split
  · exact h
  split
  · exact h
  rename_i st1 c he
  obtain ⟨hm, ha, hother⟩ := newContext_frame he
  have hc := hs.newContext_inactive he
  have h1 : ProtocolInv st1 := h.of_sub hm (fun d hd => ha ▸ hd) fun d hd =>
    by rw [hother d fun e => hc (e ▸ ha ▸ hd)]
  split
  · exact h1
  · intro hm' d hd
    rcases List.mem_append.mp hd with hd | hd
    · exact h1 hm' d hd
    · obtain ⟨-, h0, -, hi⟩ := hs.newContext_record he
      rw [List.mem_singleton.mp hd]
      exact ⟨.inl h0, fun h' => absurd (h'.symm.trans hi) (by decide)⟩

theorem ProtocolInv.destroyContext (h : ProtocolInv st) (c : ℕ) :
    ProtocolInv (vtestDestroyContext st c) :=
  h.of_sub (destroyContext_multiClients st c) (fun _ hd => List.mem_of_mem_erase hd)
    fun d _ => destroyContext_protocolState st c d

/-! ## Reachable states -/

theorem ProtocolInv.init (multiClients : Bool) : ProtocolInv (VtestRenderer.init multiClients) :=
  fun _ _ hd => by cases hd

/-- A client command keeps the invariant: the sync and submit commands leave every
context's control fields as they are, the resource commands every protocol state. -/
theorem ProtocolInv.runCommand (h : ProtocolInv st) (now : ℕ) (cmd : Command) :
    ProtocolInv (runCommand now st c cmd) := by
  cases cmd with
  | syncCreate lo hi mallocOk writeOk =>
    exact h.of_view (protocolView_of_controlView (controlView_syncCreate ..))
  | syncUnref syncId => exact h.of_view (protocolView_of_controlView (controlView_syncUnref ..))
  | syncWrite syncId lo hi =>
    exact h.of_view (protocolView_of_controlView (controlView_syncWrite ..))
  | syncWait lengthDw buf io =>
    exact h.of_view (protocolView_of_controlView (controlView_syncWait ..))
  | submitCmd2 lengthDw buf io =>
    exact h.of_view (protocolView_of_controlView (controlView_submitCmd2 ..))
  | submitCmd lengthDw mallocOk input r =>
    exact h.of_view (protocolView_of_controlView (controlView_submitCmd ..))
  | resourceCreate handle shmSize io => exact h.of_view (protocolView_createResourceInternal ..)
  | resourceCreateBlob size io => exact h.of_view (protocolView_resourceCreateBlob ..)
  | resourceUnref handle => exact h.of_view (protocolView_resourceUnref ..)
  | protocolVersion v server readOk shmOk writeOk =>
    exact h.protocolVersion c v server readOk shmOk writeOk
  | contextInit capsetId r => exact h.contextInit c capsetId r
  | lazyInitContext r => exact h.lazyInitContext c r

theorem ProtocolInv.step (h : ProtocolInv st) (hs : SyncInv st) (e : Event) :
    ProtocolInv (step st e) := by
  cases e with
  | createContext length mallocOk callocOk readOk =>
    exact h.createContext hs length mallocOk callocOk readOk
  | command c cmd now =>
    simp only [Vtest.step]
    split
    · have h' : ProtocolInv { st with currentContext := some c } := h
      exact h'.runCommand now cmd
    · exact h
  | contextFence cookie now =>
    simp only [Vtest.step]
    split
    · exact h.of_view (protocolView_of_controlView (controlView_writeContextFence ..))
    · exact h
  | implicitFence fenceId =>
    simp only [Vtest.step]
    split
    · exact h
    · exact h
  | destroyContext c =>
    simp only [Vtest.step]
    split
    · exact h.destroyContext c
    · exact h
  | setMaxLength length => exact h

theorem Reachable.protocolInv (h : Reachable st) : ProtocolInv st := by
  induction h with
  | init multiClients => exact ProtocolInv.init multiClients
  | step e hr ih => exact ih.step hr.syncInv e

/-! ## A context's renderer context and capset -/

/-- Context `c` is active and has its renderer context, made with capset `cap`. -/
structure CapsetBound (st : VtestRenderer) (c cap : ℕ) : Prop where
  active : c ∈ st.activeContexts
  initialized : (st.contexts c).contextInitialized = true
  capset : (st.contexts c).capsetId = cap

variable {cap d : ℕ}

theorem CapsetBound.of_state (h : CapsetBound st c cap) (ha : c ∈ st'.activeContexts)
    (hs : (st'.contexts c).protocolState = (st.contexts c).protocolState) :
    CapsetBound st' c cap := by
  simp only [VtestContext.protocolState, Prod.mk.injEq] at hs
  exact ⟨ha, hs.2.2.trans h.initialized, hs.2.1.trans h.capset⟩

theorem CapsetBound.of_view (h : CapsetBound st c cap) (hv : st'.protocolView = st.protocolView) :
    CapsetBound st' c cap := by
  have ha : st'.activeContexts = st.activeContexts := congrArg ProtocolView.activeContexts hv
  exact h.of_state (ha ▸ h.active) (protocolState_of_view hv c)

/-- Changing a context's record keeps `c` bound when it is another context, or when the
change keeps `c`'s renderer context and capset. -/
theorem CapsetBound.modifyContext (h : CapsetBound st c cap) {f : VtestContext → VtestContext}
    (hf : d = c → (f (st.contexts c)).contextInitialized = true ∧ (f (st.contexts c)).capsetId = cap) :
    CapsetBound (st.modifyContext d f) c cap := by
  by_cases hd : d = c
  · subst hd
    obtain ⟨h1, h2⟩ := hf rfl
    exact ⟨h.active, by rw [modifyContext_contexts, if_pos rfl]; exact h1,
      by rw [modifyContext_contexts, if_pos rfl]; exact h2⟩
  · exact ⟨h.active, by rw [modifyContext_contexts, if_neg (Ne.symm hd)]; exact h.initialized,
      by rw [modifyContext_contexts, if_neg (Ne.symm hd)]; exact h.capset⟩

/-- A context that has no renderer context is not `c`. -/
theorem CapsetBound.ne_of_uninitialized (h : CapsetBound st c cap)
    (hd : ¬(st.contexts d).contextInitialized = true) : d ≠ c :=
  fun e => hd (e ▸ h.initialized)

theorem CapsetBound.protocolVersion (h : CapsetBound st c cap) (d version serverVersion : ℕ)
    (readOk shmOk writeOk : Bool) :
    CapsetBound (vtestProtocolVersion st d version serverVersion readOk shmOk writeOk).1 c cap := by
  refine fst_ite (P := (CapsetBound · c cap)) (fun _ => h) fun _ =>
    fst_ite (P := (CapsetBound · c cap)) (fun _ => h) fun _ => ?_
  dsimp only
  exact h.modifyContext fun _ => ⟨h.initialized, h.capset⟩

theorem CapsetBound.lazyInitContext (h : CapsetBound st c cap) (d : ℕ) (createResult : ℤ) :
    CapsetBound (vtestLazyInitContext st d createResult).1 c cap := by
  refine fst_ite (P := (CapsetBound · c cap)) (fun _ => h) fun hd =>
    fst_ite (P := (CapsetBound · c cap)) (fun _ => h) fun _ => ?_
  dsimp only
  refine CapsetBound.modifyContext ?_ fun e => absurd e (h.ne_of_uninitialized hd)
  exact { h with }

theorem CapsetBound.contextInit (h : CapsetBound st c cap) (d capsetId : ℕ) (createResult : ℤ) :
    CapsetBound (vtestContextInit st d capsetId createResult).1 c cap :=
  fst_ite (P := (CapsetBound · c cap)) (fun _ => h) fun _ =>
    fst_ite (P := (CapsetBound · c cap)) (fun _ => h) fun hd =>
      (h.modifyContext fun e => absurd e (h.ne_of_uninitialized hd)).lazyInitContext d createResult

theorem CapsetBound.createContext (h : CapsetBound st c cap) (hs : SyncInv st) (length : ℕ)
    (mallocOk callocOk readOk : Bool) :
    CapsetBound (vtestCreateContext st length mallocOk callocOk readOk).1 c cap := by
  unfold vtestCreateContext
  split
  · exact h
  split
  · exact h
  rename_i st1 c' he
  obtain ⟨-, ha, hother⟩ := newContext_frame he
  have hc : c ≠ c' := fun e => hs.newContext_inactive he (e ▸ h.active)
  have h1 : CapsetBound st1 c cap := h.of_state (ha ▸ h.active) (by rw [hother c hc])
  split
  · exact { h1 with }
  · exact { h1 with active := List.mem_append_left _ h1.active }

/-- No step but the client's disconnect changes an active context's renderer context or
capset once it has one. -/
theorem CapsetBound.step (h : CapsetBound st c cap) (hs : SyncInv st) {e : Event}
    (he : e ≠ .destroyContext c) : CapsetBound (step st e) c cap := by
  cases e with
  | createContext length mallocOk callocOk readOk =>
    exact h.createContext hs length mallocOk callocOk readOk
  | command d cmd now =>
    simp only [Vtest.step]
    split
    · have h' : CapsetBound { st with currentContext := some d } c cap := { h with }
      cases cmd with
      | syncCreate lo hi mallocOk writeOk =>
        exact h'.of_view (protocolView_of_controlView (controlView_syncCreate ..))
      | syncUnref syncId => exact h'.of_view (protocolView_of_controlView (controlView_syncUnref ..))
      | syncWrite syncId lo hi =>
        exact h'.of_view (protocolView_of_controlView (controlView_syncWrite ..))
      | syncWait lengthDw buf io =>
        exact h'.of_view (protocolView_of_controlView (controlView_syncWait ..))
      | submitCmd2 lengthDw buf io =>
        exact h'.of_view (protocolView_of_controlView (controlView_submitCmd2 ..))
      | submitCmd lengthDw mallocOk input r =>
        exact h'.of_view (protocolView_of_controlView (controlView_submitCmd ..))
      | resourceCreate handle shmSize io => exact h'.of_view (protocolView_createResourceInternal ..)
      | resourceCreateBlob size io => exact h'.of_view (protocolView_resourceCreateBlob ..)
      | resourceUnref handle => exact h'.of_view (protocolView_resourceUnref ..)
      | protocolVersion v server readOk shmOk writeOk =>
        exact h'.protocolVersion d v server readOk shmOk writeOk
      | contextInit capsetId r => exact h'.contextInit d capsetId r
      | lazyInitContext r => exact h'.lazyInitContext d r
    · exact h
  | contextFence cookie now =>
    simp only [Vtest.step]
    split
    · exact h.of_view (protocolView_of_controlView (controlView_writeContextFence ..))
    · exact h
  | implicitFence fenceId =>
    simp only [Vtest.step]
    split
    · exact { h with }
    · exact h
  | destroyContext d =>
    have hd : d ≠ c := fun e => he (e ▸ rfl)
    simp only [Vtest.step]
    split
    · exact h.of_state (List.mem_erase_of_ne (Ne.symm hd) |>.mpr h.active)
        (destroyContext_protocolState st d c)
    · exact h
  | setMaxLength length => exact { h with }

theorem CapsetBound.run {es : List Event} (h : CapsetBound st c cap) (hr : Reachable st)
    (he : ∀ e ∈ es, e ≠ .destroyContext c) : CapsetBound (run st es) c cap := by
  induction es generalizing st with
  | nil => exact h
  | cons e es ih =>
    exact ih (h.step hr.syncInv (he e (List.mem_cons_self _ _))) (hr.step e)
      fun e' h' => he e' (List.mem_cons_of_mem _ h')

end Vtest

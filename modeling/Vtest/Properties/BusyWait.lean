import Vtest.Model.BusyWait
import Vtest.Properties.References

/-! # The legacy busy-wait

A poll of the rendering library only runs fence callbacks, which submit no implicit
fence, and the last implicit fence it reports is the one it leaves completed. So a
`RESOURCE_BUSY_WAIT` with the wait flag ends as soon as a poll reports the last submitted
implicit fence, whatever the polls before and after it report. -/

namespace Vtest

variable {st st' : VtestRenderer}

/-- The id of the last implicit fence among the callbacks `p`. -/
def FenceCallback.lastImplicit : List FenceCallback → Option ℕ
  | [] => none
  | .implicit fenceId :: p => some ((lastImplicit p).getD fenceId)
  | .context _ _ :: p => lastImplicit p

/-! ## One poll -/

theorem WaitsOnly.implicitFences (h : WaitsOnly st st') :
    st'.implicitFenceSubmitted = st.implicitFenceSubmitted ∧
      st'.implicitFenceCompleted = st.implicitFenceCompleted := by
  rw [h.eq]
  exact ⟨rfl, rfl⟩

theorem signalSyncQueue_implicitFences (now c : ℕ) (q : Fin 64) (toSubmit : ℕ) :
    ∀ (l : List VtestSyncQueueSubmit) (st : VtestRenderer),
    (vtestSignalSyncQueue now c q toSubmit st l).implicitFenceSubmitted = st.implicitFenceSubmitted ∧
      (vtestSignalSyncQueue now c q toSubmit st l).implicitFenceCompleted =
        st.implicitFenceCompleted
  | [], _ => ⟨rfl, rfl⟩
  | submit :: rest, st => by
    have h2 := (signalSubmit_waitsOnly now submit.slots
      (st.modifyContext c (popSubmit q submit rest))).implicitFences
    simp only [vtestSignalSyncQueue]
    split
    · exact h2
    · obtain ⟨h3, h4⟩ := signalSyncQueue_implicitFences now c q toSubmit rest _
      exact ⟨h3.trans h2.1, h4.trans h2.2⟩

/-- A context fence leaves both implicit fence counters alone. -/
theorem step_contextFence_implicitFences (cookie now : ℕ) :
    (step st (.contextFence cookie now)).implicitFenceSubmitted = st.implicitFenceSubmitted ∧
      (step st (.contextFence cookie now)).implicitFenceCompleted = st.implicitFenceCompleted := by
  simp only [step]
  split
  · exact signalSyncQueue_implicitFences ..
  · exact ⟨rfl, rfl⟩

theorem step_implicitFence (fenceId : ℕ) :
    step st (.implicitFence fenceId) =
      if fenceId ≤ st.implicitFenceSubmitted then { st with implicitFenceCompleted := fenceId }
      else st := rfl

@[simp] theorem vtestPoll_nil : vtestPoll st [] = st := rfl

theorem vtestPoll_cons (e : FenceCallback) (p : List FenceCallback) :
    vtestPoll st (e :: p) = vtestPoll (step st e.toEvent) p := rfl

/-- A fence callback submits no implicit fence. -/
theorem step_fence_implicitFenceSubmitted (e : FenceCallback) :
    (step st e.toEvent).implicitFenceSubmitted = st.implicitFenceSubmitted := by
  cases e with
  | implicit fenceId =>
    show (step st (.implicitFence fenceId)).implicitFenceSubmitted = _
    rw [step_implicitFence]
    split <;> rfl
  | context cookie now => exact (step_contextFence_implicitFences cookie now).1

/-- No poll submits an implicit fence. -/
theorem vtestPoll_implicitFenceSubmitted (p : List FenceCallback) :
    (vtestPoll st p).implicitFenceSubmitted = st.implicitFenceSubmitted := by
  induction p generalizing st with
  | nil => rfl
  | cons e p ih => rw [vtestPoll_cons, ih, step_fence_implicitFenceSubmitted]

/-- A poll that reports no implicit fence leaves the completed one as it was. -/
theorem vtestPoll_completed_of_none {p : List FenceCallback}
    (hp : FenceCallback.lastImplicit p = none) :
    (vtestPoll st p).implicitFenceCompleted = st.implicitFenceCompleted := by
  induction p generalizing st with
  | nil => rfl
  | cons e p ih =>
    cases e with
    | implicit fenceId => cases hp
    | context cookie now =>
      rw [vtestPoll_cons, ih hp]
      exact (step_contextFence_implicitFences cookie now).2

/-- A poll whose last implicit fence is one the server submitted completes it. -/
theorem vtestPoll_completed_of_last {p : List FenceCallback} {j : ℕ}
    (hp : FenceCallback.lastImplicit p = some j) (hj : j ≤ st.implicitFenceSubmitted) :
    (vtestPoll st p).implicitFenceCompleted = j := by
  induction p generalizing st with
  | nil => cases hp
  | cons e p ih =>
    rw [vtestPoll_cons]
    have hj' : j ≤ (step st e.toEvent).implicitFenceSubmitted := by
      rw [step_fence_implicitFenceSubmitted]; exact hj
    cases e with
    | implicit fenceId =>
      cases hl : FenceCallback.lastImplicit p with
      | none =>
        simp only [FenceCallback.lastImplicit, hl, Option.getD_none, Option.some.injEq] at hp
        subst hp
        rw [vtestPoll_completed_of_none hl]
        show (step st (.implicitFence fenceId)).implicitFenceCompleted = _
        rw [step_implicitFence, if_pos hj]
      | some j' =>
        simp only [FenceCallback.lastImplicit, hl, Option.getD_some, Option.some.injEq] at hp
        subst hp
        exact ih hl hj'
    | context cookie now => exact ih hp hj'

/-! ## The loop -/

theorem busyWaitLoop_eq (wait : Bool) (st : VtestRenderer) (polls : List (List FenceCallback)) :
    vtestBusyWaitLoop wait st polls =
      if (!(st.implicitFenceCompleted != st.implicitFenceSubmitted) || !wait) = true then
        some (st, st.implicitFenceCompleted != st.implicitFenceSubmitted)
      else
        match polls with
        | [] => none
        | p :: ps => vtestBusyWaitLoop wait (vtestPoll st p) ps :=
  vtestBusyWaitLoop.eq_def wait st polls

theorem busyWaitLoop_of_idle (wait : Bool) (polls : List (List FenceCallback))
    (h : st.implicitFenceCompleted = st.implicitFenceSubmitted) :
    vtestBusyWaitLoop wait st polls = some (st, false) := by
  rw [busyWaitLoop_eq, if_pos (by simp [h])]
  simp [h]

/-- The loop ends, not busy, once a poll reports the last submitted implicit fence,
whatever the polls before and after it report. -/
theorem busyWaitLoop_returns (p : List FenceCallback) (post : List (List FenceCallback)) :
    ∀ (pre : List (List FenceCallback)) (st : VtestRenderer),
      FenceCallback.lastImplicit p = some st.implicitFenceSubmitted →
      ∃ st', vtestBusyWaitLoop true st (pre ++ p :: post) = some (st', false)
  | pre, st, hp => by
    by_cases hidle : st.implicitFenceCompleted = st.implicitFenceSubmitted
    · exact ⟨st, busyWaitLoop_of_idle true _ hidle⟩
    rw [busyWaitLoop_eq, if_neg (by simpa using hidle)]
    cases pre with
    | nil =>
      exact ⟨_, busyWaitLoop_of_idle true post ((vtestPoll_completed_of_last hp le_rfl).trans
        (vtestPoll_implicitFenceSubmitted p).symm)⟩
    | cons q pre =>
      exact busyWaitLoop_returns p post pre (vtestPoll st q)
        (by rw [vtestPoll_implicitFenceSubmitted]; exact hp)

/-! ## The handler -/

/-- A legacy client submits twice. -/
def legacyRun : List Event :=
  [.createContext 0 true true true, .command 1 (.submitCmd 0 true ⟨[], 0⟩ 0) 0,
    .command 1 (.submitCmd 0 true ⟨[], 0⟩ 0) 0]

/-- With the wait flag, `RESOURCE_BUSY_WAIT` returns, and replies "not busy" when its
write succeeds, once a poll of the rendering library reports the last submitted implicit
fence as the last it retired, whatever the polls before and after it report; only a
nonzero handle before the renderer context exists is refused. -/
theorem busy_wait_returns_once_fence_reported {c handle : ℕ} (writeOk : Bool)
    (hh : (st.contexts c).contextInitialized = true ∨ u32 handle = 0)
    (pre post : List (List FenceCallback)) {p : List FenceCallback}
    (hp : FenceCallback.lastImplicit p = some st.implicitFenceSubmitted) :
    ∃ st', vtestResourceBusyWait st c handle true true writeOk (pre ++ p :: post) =
      some (st', if writeOk then 0 else -eio, if writeOk then some 0 else none) := by
  obtain ⟨st', hl⟩ := busyWaitLoop_returns p post pre st hp
  refine ⟨st', ?_⟩
  have hacc : ¬((!(st.contexts c).contextInitialized) = true ∧ u32 handle ≠ 0) := by
    rcases hh with h | h <;> simp [h]
  rw [vtestResourceBusyWait, if_neg (by decide), if_neg hacc, hl]
  rfl

/-- The context's ping probe: handle 0, before the renderer context exists; the first
poll reports the first implicit fence, the second a context fence the library no longer
holds, the third both implicit fences. -/
theorem busy_wait_returns_once_fence_reported_probe :
    (((run (.init false) legacyRun).contexts 1).contextInitialized = true ∨ u32 0 = 0) ∧
      FenceCallback.lastImplicit [.implicit 1, .implicit 2] =
        some (run (.init false) legacyRun).implicitFenceSubmitted ∧
      ∃ st', vtestResourceBusyWait (run (.init false) legacyRun) 1 0 true true true
        ([[.implicit 1], [.context 9 0]] ++ [.implicit 1, .implicit 2] :: []) =
          some (st', if true then 0 else -eio, if true then some 0 else none) :=
  have hh : ((run (.init false) legacyRun).contexts 1).contextInitialized = true ∨ u32 0 = 0 :=
    .inr rfl
  have hp : FenceCallback.lastImplicit [.implicit 1, .implicit 2] =
      some (run (.init false) legacyRun).implicitFenceSubmitted := rfl
  ⟨hh, hp, busy_wait_returns_once_fence_reported true hh _ [] hp⟩

end Vtest

import Vtest.Verification.Isolation
import Vtest.Properties.Waits
import Mathlib.Data.List.Pairwise

/-! # Contexts are isolated

A step on behalf of one active context leaves another active context's record as it
was, except that `vtest_signal_sync`'s walk over every context collects the other's
expired waits. Those waits' references are then dropped: the syncs the other context
still references keep their values, and their reference counts fall by exactly the
references the collected waits held. Only fds of the stepping context's waits, or fds
not yet handed out, are written. -/

namespace Vtest

variable {st st' : VtestRenderer} {a b now : ℕ}

/-- A sync referenced by an active context is counted once for each of its references
there, since no other context references it. -/
theorem SyncInv.refcount_of_owner (h : SyncInv st) (hb : b ∈ st.activeContexts) {s : ℕ}
    (hs : s ∈ (st.contexts b).syncRefs) :
    (st.pool.syncs s).refcount = ((st.contexts b).syncRefs.count s : ℕ) := by
  have hmem := mem_syncRefs hb hs
  obtain ⟨h0, hlt⟩ := h.ledger.allocated _ hmem
  have hrest : refCount (refsOf st.contexts (st.activeContexts.erase b)) s = 0 := by
    refine refCount_eq_zero.mpr fun e he hes => ?_
    obtain ⟨c, hc, he⟩ := List.mem_flatMap.mp he
    obtain ⟨x, hx, rfl⟩ := List.mem_map.mp he
    have hcb : c ≠ b := fun hcb => h.active_nodup.not_mem_erase (hcb ▸ hc)
    exact hcb (h.ledger.owner _ (mem_syncRefs (List.mem_of_mem_erase hc) hx) _ hmem hes)
  rw [h.ledger.refcount_eq s h0 hlt, VtestRenderer.syncRefs,
    refCount_perm (refsOf_perm hb h.active_nodup), refCount_append, hrest, refCount, tagged_snd]
  rfl

/-- What a step does to another context `b`: only expired waits leave its record; the
syncs `b` referenced keep their values, and those it still references lose exactly the
references of the waits that left; no fd of a wait of `b` is written. -/
structure LeavesAlone (b now : ℕ) (st st' : VtestRenderer) : Prop where
  record : ∃ P : VtestSyncWait → Bool,
    st'.contexts b = { st.contexts b with syncWaits := (st.contexts b).syncWaits.filter P } ∧
    (∀ w ∈ (st.contexts b).syncWaits, P w = false → w.validBefore < now) ∧
    ∀ s ∈ (st'.contexts b).syncRefs, (st'.pool.syncs s).refcount +
      (((st.contexts b).syncWaits.filter fun w => !P w).flatMap VtestSyncWait.refs).count s =
        (st.pool.syncs s).refcount
  values : ∀ s ∈ (st.contexts b).syncRefs, st'.pool.value s = st.pool.value s
  writes : ∃ new, st'.notified = st.notified ++ new ∧
    ∀ n ∈ new, ∀ w ∈ (st.contexts b).syncWaits, n.wait.fd ≠ w.fd
  active : b ∈ st'.activeContexts

/-- The references of a list of waits, split by a predicate. -/
theorem count_flatMap_filter (L : List VtestSyncWait) (P : VtestSyncWait → Bool) (s : ℕ) :
    (L.flatMap VtestSyncWait.refs).count s =
      ((L.filter P).flatMap VtestSyncWait.refs).count s +
        ((L.filter fun w => !P w).flatMap VtestSyncWait.refs).count s := by
  rw [← List.count_append, ← List.flatMap_append]
  exact ((List.filter_append_perm P L).symm.flatMap_right _).count_eq s

/-- The fds of the waits of two distinct active contexts are distinct. -/
theorem WaitInv.fd_ne (h : WaitInv st) (ha : a ∈ st.activeContexts) (hb : b ∈ st.activeContexts)
    (hab : a ≠ b) {v w : VtestSyncWait} (hv : v ∈ (st.contexts a).syncWaits)
    (hw : w ∈ (st.contexts b).syncWaits) : v.fd ≠ w.fd := by
  have hnd : (st.activeContexts.flatMap fun c => (st.contexts c).syncWaits.map VtestSyncWait.fd).Nodup := by
    have := (List.nodup_append.mp h.fds_nodup).1
    rwa [VtestRenderer.queuedWaits, List.map_flatMap] at this
  have hsym : Symmetric (List.Disjoint on fun c => (st.contexts c).syncWaits.map VtestSyncWait.fd) :=
    fun _ _ h _ h1 h2 => h h2 h1
  have hdis := (List.nodup_flatMap.mp hnd).2.forall hsym ha hb hab
  exact fun he => hdis (List.mem_map_of_mem _ hv) (he ▸ List.mem_map_of_mem _ hw)

/-- A step of `a`, foreign to the other contexts, leaves every other active context alone. -/
theorem Foreign.leavesAlone (hf : Foreign a now st st st') (hs : SyncInv st) (hs' : SyncInv st')
    (hw : WaitInv st) (ha : a ∈ st.activeContexts) (hb : b ∈ st.activeContexts) (hab : a ≠ b) :
    LeavesAlone b now st st' := by
  obtain ⟨P, hP, hPe⟩ := hf.others b (Ne.symm hab)
  have hb' : b ∈ st'.activeContexts := hf.keeps b hb (Ne.symm hab)
  have hsub : ∀ s ∈ (st'.contexts b).syncRefs, s ∈ (st.contexts b).syncRefs := fun s hs => by
    rw [hP] at hs
    simp only [VtestContext.syncRefs, List.mem_append, List.mem_flatMap, List.mem_filter] at hs ⊢
    rcases hs with (h | ⟨w, ⟨hw, -⟩, h⟩) | h
    · exact .inl (.inl h)
    · exact .inl (.inr ⟨w, hw, h⟩)
    · exact .inr h
  refine ⟨⟨P, hP, hPe, fun s hs1 => ?_⟩, fun s hs1 => ?_, ?_, hb'⟩
  · rw [hs'.refcount_of_owner hb' hs1, hs.refcount_of_owner hb (hsub s hs1), hP]
    simp only [VtestContext.syncRefs, VtestContext.queuedSubmits, List.count_append,
      count_flatMap_filter (st.contexts b).syncWaits P s]
    push_cast
    omega
  · by_contra hne
    have hbs := mem_syncRefs hb hs1
    rcases hf.values s hne with hown | hnone
    · exact hab (hs.ledger.owner _ hown _ hbs rfl)
    · exact hnone b hbs
  · obtain ⟨new, hn, hnew⟩ := hf.notified
    refine ⟨new, hn, fun n hn' w hw' he => ?_⟩
    rcases hnew n hn' with hfd | hfd
    · obtain ⟨v, hv, hvfd⟩ := List.mem_map.mp hfd
      exact hw.fd_ne ha hb hab hv hw' (hvfd.trans he)
    · have hlt := hw.fds_lt w.fd (List.mem_append_left _ (List.mem_map_of_mem _
        (List.mem_flatMap.mpr ⟨b, hb, hw'⟩)))
      omega

/-- From any reachable state, a step on behalf of an active context `a` (a command while
`a` is current, the fence of one of its submits, its destruction) leaves every other
active context alone. -/
theorem other_context_isolated (h : Reachable st) (ha : a ∈ st.activeContexts)
    (hb : b ∈ st.activeContexts) (hab : a ≠ b) {e : Event} (he : e.byContext st a) :
    LeavesAlone b e.time st (step st e) :=
  (Foreign.step h.syncInv he).leavesAlone h.syncInv (h.step e).syncInv h.waitInv ha hb hab

/-- Contexts 1 and 2 each create a sync at 0; context 2 then waits, with a timeout of one
millisecond, for its sync 2 to reach 5. -/
def expiredWaitRun : List Event :=
  [.createContext 0 true true true, .createContext 0 true true true,
    .command 1 (.syncCreate 0 0 true true) 0, .command 2 (.syncCreate 0 0 true true) 0,
    .command 2 (.syncWait 5 zeroHeap (syncWaitIo [0, 1, 2, 5, 0])) 0]

theorem other_context_isolated_expiredWait :
    (1 : ℕ) ∈ (run (.init false) expiredWaitRun).activeContexts ∧
    2 ∈ (run (.init false) expiredWaitRun).activeContexts ∧ (1 : ℕ) ≠ 2 ∧
    (Event.command 1 (.syncWrite 1 1 0) 2000001).byContext (run (.init false) expiredWaitRun) 1 ∧
    LeavesAlone 2 2000001 (run (.init false) expiredWaitRun)
      (step (run (.init false) expiredWaitRun) (.command 1 (.syncWrite 1 1 0) 2000001)) :=
  ⟨by decide, by decide, by decide, rfl,
    @other_context_isolated _ 1 2 (reachable_run false _) (by decide) (by decide) (by decide)
      (.command 1 (.syncWrite 1 1 0) 2000001) rfl⟩

/-- Context 1's `SYNC_WRITE`, two milliseconds later, walks context 2's waits, collects its
expired wait and drops that wait's reference: the reference count of context 2's sync 2
falls from 2 to 1. -/
theorem sync_write_collects_other_wait :
    ((run (.init false) expiredWaitRun).contexts 2).syncWaits.length = 1 ∧
    ((run (.init false) expiredWaitRun).pool.syncs 2).refcount = 2 ∧
    ((step (run (.init false) expiredWaitRun) (.command 1 (.syncWrite 1 1 0) 2000001)).contexts 2).syncWaits = [] ∧
    ((step (run (.init false) expiredWaitRun) (.command 1 (.syncWrite 1 1 0) 2000001)).pool.syncs 2).refcount = 1 ∧
    ((step (run (.init false) expiredWaitRun) (.command 1 (.syncWrite 1 1 0) 2000001)).contexts 2).syncTable =
      ((run (.init false) expiredWaitRun).contexts 2).syncTable := by
  refine ⟨?_, ?_, ?_, ?_, ?_⟩ <;> decide

end Vtest

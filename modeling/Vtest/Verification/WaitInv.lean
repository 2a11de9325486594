import Vtest.Verification.Reachable

/-! # The invariant of the queued waits

A wait stays on its context's `sync_waits` only while it is not ready: some slot is
still below its threshold, and in `ANY` mode no slot has been signaled. `WaitOk` says
this of one wait against the syncs' values; `WaitInv` says it of every wait queued on an
active context, and that the fds of the queued and of the written waits are distinct
and already handed out. Every step keeps `WaitInv`, so it holds in every reachable
state. -/

namespace Vtest

/-! ## Values -/

/-- The value of every sync. -/
def SyncPool.value (p : SyncPool) (s : ℕ) : ℕ := (p.syncs s).value

@[simp] theorem SyncPool.value_unrefSync (p : SyncPool) (s : ℕ) :
    (vtestUnrefSync p s).value = p.value :=
  funext (unrefSync_value p s)

@[simp] theorem SyncPool.value_unrefSyncs (p : SyncPool) (ss : List ℕ) :
    (vtestUnrefSyncs p ss).value = p.value :=
  funext (unrefSyncs_value p ss)

@[simp] theorem SyncPool.value_freeSyncWait (p : SyncPool) (w : VtestSyncWait) :
    (vtestFreeSyncWait p w).value = p.value :=
  SyncPool.value_unrefSyncs p _

@[simp] theorem SyncPool.value_freeSyncQueueSubmit (p : SyncPool) (submit : VtestSyncQueueSubmit) :
    (vtestFreeSyncQueueSubmit p submit).value = p.value :=
  SyncPool.value_unrefSyncs p _

@[simp] theorem SyncPool.value_destroySync (p : SyncPool) (o : Option ℕ) :
    (destroySync p o).value = p.value := by
  cases o <;> simp [destroySync]

@[simp] theorem SyncPool.value_refSync (p : SyncPool) (s : ℕ) : (vtestRefSync p s).value = p.value := by
  funext t
  simp only [SyncPool.value, vtestRefSync, SyncPool.set_syncs]
  split <;> simp_all

@[simp] theorem SyncPool.value_setValue (p : SyncPool) (s v : ℕ) :
    (p.setValue s v).value = Function.update p.value s v := by
  funext t
  simp only [SyncPool.value, setValue_value, Function.update_apply]

/-- `vtest_new_sync` sets the value of the record it hands out, and no other. -/
theorem value_newSync {p p' : SyncPool} {v s : ℕ} {ok : Bool}
    (hn : vtestNewSync p v ok = some (p', s)) : p'.value = Function.update p.value s v := by
  unfold vtestNewSync at hn
  split at hn
  · obtain ⟨rfl, rfl⟩ := Option.some.inj hn |> Prod.mk.inj
    funext t; simp only [SyncPool.value, SyncPool.set_syncs, Function.update_apply]; split <;> rfl
  · split at hn
    · obtain ⟨rfl, rfl⟩ := Option.some.inj hn |> Prod.mk.inj
      funext t; simp only [SyncPool.value, SyncPool.set_syncs, Function.update_apply]; split <;> rfl
    · cases hn

/-! ## One wait -/

/-- The `(sync, threshold)` pairs of the slots not yet signaled. -/
def pendingSlots (slots : List (Option ℕ × ℕ)) : List (ℕ × ℕ) :=
  slots.filterMap fun x => x.1.map (·, x.2)

@[simp] theorem pendingSlots_nil : pendingSlots [] = [] := rfl

@[simp] theorem pendingSlots_cons_none (t : ℕ) (l : List (Option ℕ × ℕ)) :
    pendingSlots ((none, t) :: l) = pendingSlots l := rfl

@[simp] theorem pendingSlots_cons_some (s t : ℕ) (l : List (Option ℕ × ℕ)) :
    pendingSlots ((some s, t) :: l) = (s, t) :: pendingSlots l := rfl

/-- The pairs a wait still waits for. -/
def VtestSyncWait.pending (w : VtestSyncWait) : List (ℕ × ℕ) := pendingSlots w.slots

theorem VtestSyncWait.refs_eq (w : VtestSyncWait) : w.refs = w.pending.map Prod.fst := by
  simp only [VtestSyncWait.refs, VtestSyncWait.pending, pendingSlots, List.map_filterMap,
    Option.map_map]
  congr 1
  funext x
  cases x.1 <;> rfl

theorem VtestSyncWait.mem_pending {w : VtestSyncWait} {s t : ℕ} :
    (s, t) ∈ w.pending ↔ (some s, t) ∈ w.slots := by
  simp only [VtestSyncWait.pending, pendingSlots, List.mem_filterMap]
  constructor
  · rintro ⟨⟨o, t'⟩, hm, he⟩
    cases o <;> simp_all
  · exact fun hm => ⟨_, hm, rfl⟩

/-- What a queued wait satisfies, against the syncs' values `val`: its signaled slots
and its pending ones add up to its count, every pending slot is below its threshold,
the pending pairs come from its request, and it is not ready. -/
structure WaitOk (val : ℕ → ℕ) (w : VtestSyncWait) : Prop where
  counts : w.signaledCount + w.pending.length = w.count
  below : ∀ e ∈ w.pending, val e.1 < e.2
  sublist : w.pending.Sublist w.request
  unready : w.signaledCount < w.count
  timeout : w.timeout ≠ 0
  any : hasFlag w.flags vcmdSyncWaitFlagAny = true →
    w.signaledCount = 0 ∧ w.count = w.request.length

variable {val val' : ℕ → ℕ} {w : VtestSyncWait}

/-- Lowering the values of pending syncs keeps a wait unready. -/
theorem WaitOk.of_le (h : WaitOk val w) (hv : ∀ e ∈ w.pending, val' e.1 ≤ val e.1) :
    WaitOk val' w :=
  { h with below := fun e he => lt_of_le_of_lt (hv e he) (h.below e he) }

/-! ## The slot scan of `vtest_signal_sync` -/

section SignalSlots

variable (sync value count : ℕ) (any : Bool)

theorem signalSlots_value : ∀ (slots : List (Option ℕ × ℕ)) (p : SyncPool) (n : ℕ),
    (vtestSignalSlots sync value count any p n slots).1.value = p.value
  | [], _, _ => rfl
  | _ :: rest, p, n => by
    simp only [vtestSignalSlots]
    split_ifs <;> simp [signalSlots_value rest]

theorem signalSlots_length : ∀ (slots : List (Option ℕ × ℕ)) (p : SyncPool) (n : ℕ),
    (vtestSignalSlots sync value count any p n slots).2.2.1.length = slots.length
  | [], _, _ => rfl
  | _ :: rest, p, n => by
    simp only [vtestSignalSlots]
    split_ifs <;> simp [signalSlots_length rest]

/-- Each cleared slot moves from the pending pairs to `signaled_count`. -/
theorem signalSlots_count : ∀ (slots : List (Option ℕ × ℕ)) (p : SyncPool) (n : ℕ),
    (vtestSignalSlots sync value count any p n slots).2.1 +
        (pendingSlots (vtestSignalSlots sync value count any p n slots).2.2.1).length =
      n + (pendingSlots slots).length
  | [], _, _ => rfl
  | (o, t) :: rest, p, n => by
    simp only [vtestSignalSlots]
    split_ifs with h1
    · obtain ⟨rfl, -⟩ := h1; simp; omega
    · obtain ⟨rfl, -⟩ := h1
      have ih := signalSlots_count rest (vtestUnrefSync p sync) (n + 1)
      simp only [pendingSlots_cons_none, pendingSlots_cons_some, List.length_cons]; omega
    · have ih := signalSlots_count rest p n
      cases o <;> simp only [pendingSlots_cons_none, pendingSlots_cons_some, List.length_cons] <;>
        omega

theorem signalSlots_sublist : ∀ (slots : List (Option ℕ × ℕ)) (p : SyncPool) (n : ℕ),
    (pendingSlots (vtestSignalSlots sync value count any p n slots).2.2.1).Sublist (pendingSlots slots)
  | [], _, _ => .slnil
  | (o, t) :: rest, p, n => by
    have ih := signalSlots_sublist rest
    simp only [vtestSignalSlots]
    split_ifs with h1
    · obtain ⟨rfl, -⟩ := h1; simp
    · obtain ⟨rfl, -⟩ := h1; simpa using (ih _ _).cons _
    · cases o with
      | none => simpa using ih p n
      | some s => simpa using (ih p n).cons₂ (s, t)

/-- A scan that does not make the wait ready clears every pending slot of `sync` at a
threshold up to `value`, never reaches `count`, and clears nothing in `ANY` mode. -/
theorem signalSlots_unready : ∀ (slots : List (Option ℕ × ℕ)) (p : SyncPool) (n : ℕ),
    (vtestSignalSlots sync value count any p n slots).2.2.2 = false →
    (∀ e ∈ pendingSlots (vtestSignalSlots sync value count any p n slots).2.2.1,
      e.1 = sync → value < e.2) ∧
    (n < count → (vtestSignalSlots sync value count any p n slots).2.1 < count) ∧
    (any = true → (vtestSignalSlots sync value count any p n slots).2.1 = n)
  | [], _, _, _ => by simp [vtestSignalSlots]
  | (o, t) :: rest, p, n, hr => by
    simp only [vtestSignalSlots] at hr ⊢
    split_ifs at hr ⊢ with h1 h2
    · obtain ⟨rfl, -⟩ := h1
      obtain ⟨hb, hlt, -⟩ := signalSlots_unready rest _ _ hr
      simp only [not_or] at h2
      refine ⟨by simpa only [pendingSlots_cons_none] using hb, fun hn => hlt (by omega),
        fun ha => absurd ha h2.2⟩
    · obtain ⟨hb, hlt, hany⟩ := signalSlots_unready rest _ _ hr
      refine ⟨fun e he hes => ?_, hlt, hany⟩
      cases o with
      | none => exact hb e (by simpa using he) hes
      | some s =>
        rcases List.mem_cons.mp (by simpa using he) with rfl | he
        · simp only [not_and, not_le] at h1; exact h1 (congrArg some hes)
        · exact hb e he hes

/-- A scan that makes the wait ready cleared a pending slot of `sync` at a threshold up
to `value`, and reached `count` unless the wait is in `ANY` mode. -/
theorem signalSlots_ready : ∀ (slots : List (Option ℕ × ℕ)) (p : SyncPool) (n : ℕ),
    (vtestSignalSlots sync value count any p n slots).2.2.2 = true →
    (∃ e ∈ pendingSlots slots, e.1 = sync ∧ e.2 ≤ value) ∧
    ((vtestSignalSlots sync value count any p n slots).2.1 = count ∨ any = true)
  | [], _, _, hr => by simp [vtestSignalSlots] at hr
  | (o, t) :: rest, p, n, hr => by
    simp only [vtestSignalSlots] at hr ⊢
    split_ifs at hr ⊢ with h1 h2
    · obtain ⟨rfl, ht⟩ := h1
      exact ⟨⟨(sync, t), by simp, rfl, ht⟩, h2⟩
    · obtain ⟨rfl, ht⟩ := h1
      exact ⟨⟨(sync, t), by simp, rfl, ht⟩, (signalSlots_ready rest _ _ hr).2⟩
    · obtain ⟨⟨e, he, hes⟩, hc⟩ := signalSlots_ready rest _ _ hr
      refine ⟨⟨e, ?_, hes⟩, hc⟩
      cases o <;> simp [he]

end SignalSlots

/-! ## `vtest_signal_sync` -/

/-- A scanned wait that stays queued is still unready once `sync` holds `value`. -/
theorem WaitOk.signalSyncWait (h : WaitOk val w) (sync value now : ℕ) (st : VtestRenderer) :
    ∀ w' ∈ (vtestSignalSyncWait sync value now st w).2, WaitOk (Function.update val sync value) w' := by
  rcases signalSyncWait_cases sync value now st w with he | ⟨-, he⟩ | ⟨hr, he⟩ <;> rw [he]
  · simp
  · simp
  simp only [Option.mem_def, Option.some.injEq, forall_eq']
  obtain ⟨hb, hlt, hany⟩ := signalSlots_unready _ _ _ _ w.slots st.pool w.signaledCount hr
  have hc := signalSlots_count sync value w.count (hasFlag w.flags vcmdSyncWaitFlagAny) w.slots
    st.pool w.signaledCount
  have hl := signalSlots_length sync value w.count (hasFlag w.flags vcmdSyncWaitFlagAny) w.slots
    st.pool w.signaledCount
  have hs := signalSlots_sublist sync value w.count (hasFlag w.flags vcmdSyncWaitFlagAny) w.slots
    st.pool w.signaledCount
  have h1 := h.counts
  have h2 := h.unready
  simp only [VtestSyncWait.count, VtestSyncWait.pending] at h1 h2 hc hl hs hb
  refine ⟨?_, fun e he => ?_, hs.trans h.sublist, ?_, h.timeout, fun ha => ?_⟩
  · simp only [VtestSyncWait.count, VtestSyncWait.pending]; omega
  · rw [Function.update_apply]
    split
    · exact hb e he ‹_›
    · exact h.below e (hs.subset he)
  · have := hlt h.unready
    simp only [VtestSyncWait.count] at this ⊢; omega
  · obtain ⟨h0, hn⟩ := h.any ha
    simp only [VtestSyncWait.count] at hn
    exact ⟨(hany ha).trans h0, hl.trans hn⟩

theorem signalSyncWaits_ok (sync value now : ℕ) :
    ∀ (ws : List VtestSyncWait) (st : VtestRenderer), (∀ w ∈ ws, WaitOk val w) →
    ∀ w ∈ (vtestSignalSyncWaits sync value now st ws).2, WaitOk (Function.update val sync value) w
  | [], _, _ => by simp [vtestSignalSyncWaits]
  | w :: ws, st, h => by
    simp only [vtestSignalSyncWaits, List.mem_append, Option.mem_toList]
    rintro w' (hw' | hw')
    · exact (h w (List.mem_cons_self _ _)).signalSyncWait sync value now st w' hw'
    · exact signalSyncWaits_ok sync value now ws _ (fun x hx => h x (List.mem_cons_of_mem _ hx)) w' hw'

/-- The scan of the active contexts leaves only unready waits: those of the contexts
`cs` it went through are unready once `sync` holds `value`. -/
theorem signalSyncContexts_ok (sync value now : ℕ) :
    ∀ (cs : List ℕ) (st : VtestRenderer), cs.Nodup →
    (∀ d ∈ cs, ∀ w ∈ (st.contexts d).syncWaits, WaitOk val w) →
    ∀ d ∈ cs, ∀ w ∈ ((vtestSignalSyncContexts sync value now st cs).contexts d).syncWaits,
      WaitOk (Function.update val sync value) w
  | [], _, _, _ => by simp
  | c :: cs, st, hnd, h => by
    rw [List.nodup_cons] at hnd
    have hctx := signalSyncWaits_contexts sync value now st (st.contexts c).syncWaits
    intro d hd
    simp only [vtestSignalSyncContexts]
    by_cases hdc : d = c
    · subst hdc
      rw [signalSyncContexts_of_not_mem _ _ _ cs _ hnd.1]
      simpa using signalSyncWaits_ok sync value now _ st (h d (List.mem_cons_self _ _))
    · refine signalSyncContexts_ok sync value now cs _ hnd.2 (fun e he => ?_) d
        ((List.mem_cons.mp hd).resolve_left hdc)
      have hec : e ≠ c := fun h' => hnd.1 (h' ▸ he)
      simpa [hec, hctx] using h e (List.mem_cons_of_mem _ he)

theorem signalSyncWait_value (sync value now : ℕ) (st : VtestRenderer) (w : VtestSyncWait) :
    (vtestSignalSyncWait sync value now st w).1.pool.value = st.pool.value := by
  rcases signalSyncWait_cases sync value now st w with he | ⟨-, he⟩ | ⟨-, he⟩ <;> rw [he]
  · simp
  all_goals simp [signalSlots_value]

theorem signalSyncWaits_value (sync value now : ℕ) :
    ∀ (ws : List VtestSyncWait) (st : VtestRenderer),
    (vtestSignalSyncWaits sync value now st ws).1.pool.value = st.pool.value
  | [], _ => rfl
  | w :: ws, st => by
    simp only [vtestSignalSyncWaits, signalSyncWaits_value sync value now ws, signalSyncWait_value]

theorem signalSyncContexts_value (sync value now : ℕ) :
    ∀ (cs : List ℕ) (st : VtestRenderer),
    (vtestSignalSyncContexts sync value now st cs).pool.value = st.pool.value
  | [], _ => rfl
  | c :: cs, st => by
    simp only [vtestSignalSyncContexts, signalSyncContexts_value sync value now cs,
      modifyContext_pool, signalSyncWaits_value]

/-- `vtest_signal_sync` assigns the value it is given, on both of its branches. -/
theorem signalSync_value (now : ℕ) (st : VtestRenderer) (s v : ℕ) :
    (vtestSignalSync now st s v).pool.value = Function.update st.pool.value s v := by
  unfold vtestSignalSync
  split <;> simp only [signalSyncContexts_value, SyncPool.value_setValue]

/-! ## The writes of `write_ready` -/

/-- What a write of `write_ready` records: some pair of a non-empty request is at or
above its threshold, and a wait in `ALL` mode has no slot left. -/
structure NotifyOk (n : Notification) : Prop where
  reached : n.wait.request ≠ [] → ∃ x ∈ n.wait.request.zip n.values, x.1.2 ≤ x.2
  cleared : hasFlag n.wait.flags vcmdSyncWaitFlagAny = false → n.wait.pending = []

theorem zip_map_self {α β : Type} (l : List α) (f : α → β) :
    l.zip (l.map f) = l.map fun a => (a, f a) := by
  induction l with
  | nil => rfl
  | cons a l ih => simp [ih]

/-- A write of the values `g` of a wait's request pairs. -/
theorem NotifyOk.of_reached {w : VtestSyncWait} {g : ℕ × ℕ → ℕ}
    (hr : w.request ≠ [] → ∃ e ∈ w.request, e.2 ≤ g e)
    (hc : hasFlag w.flags vcmdSyncWaitFlagAny = false → w.pending = []) :
    NotifyOk ⟨w, w.request.map g⟩ where
  reached hne := by
    obtain ⟨e, he, hle⟩ := hr hne
    exact ⟨(e, g e), by rw [zip_map_self]; exact List.mem_map_of_mem _ he, hle⟩
  cleared := hc

/-- A wait the scan makes ready is written with the slot that made it ready at or above
its threshold, and in `ALL` mode with every slot cleared. -/
theorem WaitOk.signalSyncWait_notify (h : WaitOk val w) (sync value now : ℕ) (st : VtestRenderer)
    (hv : st.pool.value = Function.update val sync value) :
    ∀ n ∈ (vtestSignalSyncWait sync value now st w).1.notified, n ∈ st.notified ∨ NotifyOk n := by
  rcases signalSyncWait_cases sync value now st w with he | ⟨hr, he⟩ | ⟨-, he⟩ <;> rw [he]
  · exact fun n hn => .inl hn
  · simp only [writeReady, List.mem_append, List.mem_singleton]
    rintro n (hn | rfl)
    · exact .inl hn
    obtain ⟨⟨e, he, hes, hle⟩, hall⟩ := signalSlots_ready sync value w.count
      (hasFlag w.flags vcmdSyncWaitFlagAny) w.slots st.pool w.signaledCount hr
    have hc := signalSlots_count sync value w.count (hasFlag w.flags vcmdSyncWaitFlagAny) w.slots
      st.pool w.signaledCount
    have h1 := h.counts
    refine .inr (NotifyOk.of_reached ?_ ?_)
    · refine fun _ => ⟨e, h.sublist.subset he, ?_⟩
      have := congrFun (signalSlots_value sync value w.count (hasFlag w.flags vcmdSyncWaitFlagAny)
        w.slots st.pool w.signaledCount) e.1
      simp only [SyncPool.value] at this
      rw [this, ← SyncPool.value, hv, hes, Function.update_same]
      exact hle
    · intro ha
      rw [ha] at hall hc ⊢
      simp only [VtestSyncWait.pending, VtestSyncWait.count, Bool.false_eq_true, or_false] at hall h1 hc ⊢
      exact List.eq_nil_of_length_eq_zero (by omega)
  · exact fun n hn => .inl hn

theorem signalSyncWaits_notify (sync value now : ℕ) :
    ∀ (ws : List VtestSyncWait) (st : VtestRenderer), (∀ w ∈ ws, WaitOk val w) →
    st.pool.value = Function.update val sync value →
    ∀ n ∈ (vtestSignalSyncWaits sync value now st ws).1.notified, n ∈ st.notified ∨ NotifyOk n
  | [], _, _, _ => fun _ hn => .inl hn
  | w :: ws, st, h, hv => by
    intro n hn
    have hw := h w (List.mem_cons_self _ _)
    rcases signalSyncWaits_notify sync value now ws _ (fun x hx => h x (List.mem_cons_of_mem _ hx))
      (by rw [signalSyncWait_value, hv]) n hn with hn | hn
    · exact hw.signalSyncWait_notify sync value now st hv n hn
    · exact .inr hn

/-- The scan of the active contexts writes only waits it makes ready. -/
theorem signalSyncContexts_notify (sync value now : ℕ) :
    ∀ (cs : List ℕ) (st : VtestRenderer), cs.Nodup →
    (∀ d ∈ cs, ∀ w ∈ (st.contexts d).syncWaits, WaitOk val w) →
    st.pool.value = Function.update val sync value →
    ∀ n ∈ (vtestSignalSyncContexts sync value now st cs).notified, n ∈ st.notified ∨ NotifyOk n
  | [], _, _, _, _ => fun _ hn => .inl hn
  | c :: cs, st, hnd, h, hv => by
    rw [List.nodup_cons] at hnd
    have hctx := signalSyncWaits_contexts sync value now st (st.contexts c).syncWaits
    intro n hn
    simp only [vtestSignalSyncContexts] at hn
    rcases signalSyncContexts_notify sync value now cs _ hnd.2 (fun e he => by
        have hec : e ≠ c := fun h' => hnd.1 (h' ▸ he)
        simpa [hec, hctx] using h e (List.mem_cons_of_mem _ he))
      (by rw [modifyContext_pool, signalSyncWaits_value, hv]) n hn with hn | hn
    · exact signalSyncWaits_notify sync value now _ st (h c (List.mem_cons_self _ _)) hv n hn
    · exact .inr hn

/-! ## The fds of the waits -/

/-- The waits queued on the active contexts. -/
def VtestRenderer.queuedWaits (st : VtestRenderer) : List VtestSyncWait :=
  st.activeContexts.flatMap fun c => (st.contexts c).syncWaits

/-- The fds `write_ready` wrote to. -/
def VtestRenderer.notifiedFds (st : VtestRenderer) : List ℕ := st.notified.map (·.wait.fd)

/-- The fds of the queued waits, then of the written ones. -/
def VtestRenderer.waitFds (st : VtestRenderer) : List ℕ :=
  st.queuedWaits.map VtestSyncWait.fd ++ st.notifiedFds

@[simp] theorem notifiedFds_writeReady (st : VtestRenderer) (w : VtestSyncWait) :
    (writeReady st w).notifiedFds = st.notifiedFds ++ [w.fd] := by
  simp [VtestRenderer.notifiedFds, writeReady]

theorem waitFds_writeReady (st : VtestRenderer) (w : VtestSyncWait) :
    (writeReady st w).waitFds = st.waitFds ++ [w.fd] := by
  rw [VtestRenderer.waitFds, notifiedFds_writeReady, ← List.append_assoc]
  rfl

/-- A wait scanned by `vtest_signal_sync` keeps its fd, or has it written, or is
dropped. -/
theorem signalSyncWait_fds (sync value now : ℕ) (st : VtestRenderer) (w : VtestSyncWait) (f : ℕ) :
    ((vtestSignalSyncWait sync value now st w).2.toList.map VtestSyncWait.fd ++
        (vtestSignalSyncWait sync value now st w).1.notifiedFds).count f ≤
      (w.fd :: st.notifiedFds).count f := by
  rcases signalSyncWait_cases sync value now st w with he | ⟨-, he⟩ | ⟨-, he⟩ <;> rw [he]
  · exact List.count_le_count_cons _ _ _
  · exact (congrArg (List.count f) (notifiedFds_writeReady _ _)).trans_le
      ((List.perm_append_singleton _ _).count_eq f).le
  · exact le_rfl

theorem signalSyncWaits_fds (sync value now f : ℕ) :
    ∀ (ws : List VtestSyncWait) (st : VtestRenderer),
    ((vtestSignalSyncWaits sync value now st ws).2.map VtestSyncWait.fd ++
        (vtestSignalSyncWaits sync value now st ws).1.notifiedFds).count f ≤
      (ws.map VtestSyncWait.fd ++ st.notifiedFds).count f
  | [], _ => le_rfl
  | w :: ws, st => by
    have h1 := signalSyncWait_fds sync value now st w f
    have h2 := signalSyncWaits_fds sync value now f ws (vtestSignalSyncWait sync value now st w).1
    simp only [vtestSignalSyncWaits, List.map_append, List.map_cons, List.count_append,
      List.count_cons] at h1 h2 ⊢
    omega

variable {st st' : VtestRenderer} {c : ℕ}

/-- Changing the waits of one active context: the fds change only there. -/
theorem count_waitFds_modify (st' : VtestRenderer) (hc : c ∈ st.activeContexts)
    (hnd : st.activeContexts.Nodup)
    (hact : st'.activeContexts = st.activeContexts)
    (hother : ∀ d, d ≠ c → (st'.contexts d).syncWaits = (st.contexts d).syncWaits) (f : ℕ) :
    st'.waitFds.count f + (((st.contexts c).syncWaits.map VtestSyncWait.fd).count f +
        st.notifiedFds.count f) =
      st.waitFds.count f + (((st'.contexts c).syncWaits.map VtestSyncWait.fd).count f +
        st'.notifiedFds.count f) := by
  have h1 := (flatMap_perm_erase (f := fun d => (st.contexts d).syncWaits) hc hnd).map
    VtestSyncWait.fd
  have h2 := (flatMap_perm_erase (f := fun d => (st'.contexts d).syncWaits) hc hnd).map
    VtestSyncWait.fd
  have hrest : (st.activeContexts.erase c).flatMap (fun d => (st'.contexts d).syncWaits) =
      (st.activeContexts.erase c).flatMap (fun d => (st.contexts d).syncWaits) :=
    List.flatMap_congr fun d hd => hother d (hnd.mem_erase_iff.mp hd).1
  rw [hrest] at h2
  simp only [VtestRenderer.waitFds, VtestRenderer.queuedWaits, hact, List.count_append,
    h1.count_eq, h2.count_eq, List.map_append]
  omega

theorem signalSyncContexts_fds (sync value now f : ℕ) :
    ∀ (cs : List ℕ) (st : VtestRenderer), st.activeContexts.Nodup →
    (∀ c ∈ cs, c ∈ st.activeContexts) →
    (vtestSignalSyncContexts sync value now st cs).waitFds.count f ≤ st.waitFds.count f
  | [], _, _, _ => le_rfl
  | c :: cs, st, hnd, hsub => by
    simp only [vtestSignalSyncContexts]
    have hw := signalSyncWaits_waitsOnly sync value now st (st.contexts c).syncWaits
    have hctx := signalSyncWaits_contexts sync value now st (st.contexts c).syncWaits
    have hl := signalSyncWaits_fds sync value now f (st.contexts c).syncWaits st
    have hm := count_waitFds_modify ((vtestSignalSyncWaits sync value now st
      (st.contexts c).syncWaits).1.modifyContext c fun x => { x with
        syncWaits := (vtestSignalSyncWaits sync value now st (st.contexts c).syncWaits).2 })
      (hsub c (List.mem_cons_self _ _)) hnd hw.activeContexts
      (fun d hd => by simp [hd, hctx]) f
    refine (signalSyncContexts_fds sync value now f cs _ (by simpa [hw.activeContexts] using hnd)
      fun d hd => by simpa [hw.activeContexts] using hsub d (List.mem_cons_of_mem _ hd)).trans ?_
    simp only [modifyContext_contexts, if_true, VtestRenderer.notifiedFds, modifyContext_notified,
      List.count_append] at hm hl
    omega

/-! ## The invariant -/

/-- Every wait queued on an active context is unready, every write records a reached
pair, and the fds of the queued and of the written waits are distinct and below
`nextFd`. -/
structure WaitInv (st : VtestRenderer) : Prop where
  ok : ∀ c ∈ st.activeContexts, ∀ w ∈ (st.contexts c).syncWaits, WaitOk st.pool.value w
  notified_ok : ∀ n ∈ st.notified, NotifyOk n
  fds_nodup : st.waitFds.Nodup
  fds_lt : ∀ f ∈ st.waitFds, f < st.nextFd

/-- A step keeps the invariant when its waits are unready and its fds are among a list
of distinct fds already handed out. -/
theorem WaitInv.of_count {L : List ℕ} (hL : L.Nodup) (hlt : ∀ f ∈ L, f < st'.nextFd)
    (hok : ∀ c ∈ st'.activeContexts, ∀ w ∈ (st'.contexts c).syncWaits, WaitOk st'.pool.value w)
    (hnot : ∀ n ∈ st'.notified, NotifyOk n)
    (hfds : ∀ f, st'.waitFds.count f ≤ L.count f) : WaitInv st' where
  ok := hok
  notified_ok := hnot
  fds_nodup := List.nodup_iff_count_le_one.mpr fun f =>
    (hfds f).trans (List.nodup_iff_count_le_one.mp hL f)
  fds_lt f hf := hlt f (List.count_pos_iff.mp (lt_of_lt_of_le (List.count_pos_iff.mpr hf) (hfds f)))

theorem WaitInv.of_le (h : WaitInv st)
    (hok : ∀ c ∈ st'.activeContexts, ∀ w ∈ (st'.contexts c).syncWaits, WaitOk st'.pool.value w)
    (hnot : ∀ n ∈ st'.notified, n ∈ st.notified ∨ NotifyOk n)
    (hfds : ∀ f, st'.waitFds.count f ≤ st.waitFds.count f) (hfd : st.nextFd ≤ st'.nextFd) :
    WaitInv st' :=
  .of_count h.fds_nodup (fun f hf => lt_of_lt_of_le (h.fds_lt f hf) hfd) hok
    (fun n hn => (hnot n hn).elim (h.notified_ok n) id) hfds

/-- A step that keeps the active contexts' waits, the values and the notifications. -/
theorem WaitInv.of_frame (h : WaitInv st) (hact : st'.activeContexts = st.activeContexts)
    (hw : ∀ c ∈ st.activeContexts, (st'.contexts c).syncWaits = (st.contexts c).syncWaits)
    (hv : st'.pool.value = st.pool.value) (hn : st'.notified = st.notified)
    (hfd : st.nextFd ≤ st'.nextFd) : WaitInv st' := by
  have hq : st'.waitFds = st.waitFds := by
    simp only [VtestRenderer.waitFds, VtestRenderer.queuedWaits, VtestRenderer.notifiedFds, hact,
      hn, List.flatMap_congr hw]
  refine h.of_le (fun d hd w hw' => ?_) (fun n hn' => .inl (hn ▸ hn')) (fun f => by rw [hq]) hfd
  rw [hact] at hd
  rw [hw d hd] at hw'
  exact hv ▸ h.ok d hd w hw'

theorem WaitInv.pool (h : WaitInv st) {p : SyncPool} (hv : p.value = st.pool.value) :
    WaitInv { st with pool := p } :=
  h.of_frame rfl (fun _ _ => rfl) hv rfl le_rfl

theorem WaitInv.modifyContext (h : WaitInv st) {f : VtestContext → VtestContext}
    (hf : (f (st.contexts c)).syncWaits = (st.contexts c).syncWaits) :
    WaitInv (st.modifyContext c f) :=
  h.of_frame rfl (fun d _ => by by_cases hd : d = c <;> simp [hd, hf]) rfl rfl le_rfl

theorem WaitInv.of_syncFrame (h : WaitInv st) (hf : SyncFrame c st st') : WaitInv st' :=
  h.of_frame hf.activeContexts (fun d _ => hf.syncWaits d) (by rw [hf.pool]) hf.notified
    (by rw [hf.eq])

theorem WaitsOnly.nextFd (h : WaitsOnly st st') : st'.nextFd = st.nextFd := by rw [h.eq]

/-- `vtest_signal_sync` keeps the invariant: a lower value keeps every slot below its
threshold, and a higher one is scanned in every active context. -/
theorem WaitInv.signalSync (h : WaitInv st) (hnd : st.activeContexts.Nodup) (now s v : ℕ) :
    WaitInv (vtestSignalSync now st s v) := by
  unfold vtestSignalSync
  dsimp only
  split
  · rename_i hle
    refine h.of_le (fun d hd w hw => (h.ok d hd w hw).of_le fun e _ => ?_) (fun _ => .inl)
      (fun _ => le_rfl) le_rfl
    simp only [SyncPool.value_setValue, Function.update_apply]
    split
    · subst_vars; exact hle
    · exact le_rfl
  · have hw := signalSyncContexts_waitsOnly s v now { st with pool := st.pool.setValue s v }
      st.activeContexts
    have hv : ({ st with pool := st.pool.setValue s v } : VtestRenderer).pool.value =
        Function.update st.pool.value s v := by simp
    have hok : ∀ d ∈ st.activeContexts, ∀ w ∈ (st.contexts d).syncWaits, WaitOk st.pool.value w :=
      h.ok
    refine h.of_le (fun d hd w hw' => ?_)
      (signalSyncContexts_notify s v now _ { st with pool := st.pool.setValue s v } hnd hok hv)
      (fun f => signalSyncContexts_fds s v now f _ _ hnd fun _ h => h) (by rw [hw.nextFd])
    rw [signalSyncContexts_value]
    simp only [SyncPool.value_setValue]
    exact signalSyncContexts_ok s v now _ { st with pool := st.pool.setValue s v } hnd
      (fun d hd w hw => by simpa [Function.update_eq_self] using h.ok d hd w hw) d
      (hw.activeContexts ▸ hd) w hw'

theorem WaitInv.signalSubmit (now : ℕ) :
    ∀ (slots : List (ℕ × ℕ)) (st : VtestRenderer), WaitInv st → st.activeContexts.Nodup →
    WaitInv (vtestSignalSubmit now st slots)
  | [], _, h, _ => h
  | (s, v) :: rest, st, h, hnd => by
    simp only [vtestSignalSubmit]
    exact WaitInv.signalSubmit now rest _ ((h.signalSync hnd now s v).pool (by simp))
      (by rwa [(signalSync_waitsOnly now st s v).activeContexts])

theorem WaitInv.signalSyncQueue (now : ℕ) (q : Fin 64) (toSubmit : ℕ) :
    ∀ (l : List VtestSyncQueueSubmit) (st : VtestRenderer), WaitInv st → st.activeContexts.Nodup →
    WaitInv (vtestSignalSyncQueue now c q toSubmit st l)
  | [], _, h, _ => h
  | submit :: rest, st, h, hnd => by
    simp only [vtestSignalSyncQueue]
    have h2 := (h.modifyContext (c := c) (f := popSubmit q submit rest) rfl).signalSubmit now
      submit.slots _ hnd
    split
    · exact h2
    · exact WaitInv.signalSyncQueue now q toSubmit rest _ h2
        (by rwa [(signalSubmit_waitsOnly now _ _).activeContexts])

theorem WaitInv.contextFence (h : WaitInv st) (hnd : st.activeContexts.Nodup) (now cookie : ℕ) :
    WaitInv (vtestWriteContextFence now st cookie) :=
  h.signalSyncQueue now _ _ _ _ hnd

end Vtest

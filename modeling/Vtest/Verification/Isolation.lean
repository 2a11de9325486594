import Vtest.Verification.QueueInv

/-! # What a step of one context does to the others

`Foreign a now st0 st st'` says that `st'` follows `st` by work done on behalf of
context `a` at time `now`, in a step that began in `st0`: every other context loses only
waits whose deadline has passed, a value changes only on a sync that `a` or no context
referenced in `st0`, and only waits of `a`, or new ones, are written. The relation is
closed under composition; each handler is a composition of the primitive changes below.
The one place a step reaches another context is `vtest_signal_sync`'s walk over every
context's waits, which collects the expired ones. -/

namespace Vtest

/-- Sync `s` is referenced in `st0` by context `a` or by no active context. -/
def HeldBy (st0 : VtestRenderer) (a s : ℕ) : Prop :=
  (a, s) ∈ st0.syncRefs ∨ ∀ c, (c, s) ∉ st0.syncRefs

/-- Fd `f` is that of a wait of context `a` in `st`, or was not handed out yet. -/
def FdOf (st : VtestRenderer) (a f : ℕ) : Prop :=
  f ∈ (st.contexts a).syncWaits.map VtestSyncWait.fd ∨ st.nextFd ≤ f

/-- No slot of a wait of an active context other than `a` holds `sync`. -/
def SlotsFree (st : VtestRenderer) (a sync : ℕ) : Prop :=
  ∀ c ∈ st.activeContexts, c ≠ a → ∀ w ∈ (st.contexts c).syncWaits, ∀ x ∈ w.slots, x.1 ≠ some sync

structure Foreign (a now : ℕ) (st0 st st' : VtestRenderer) : Prop where
  others : ∀ c, c ≠ a → ∃ P : VtestSyncWait → Bool,
    st'.contexts c = { st.contexts c with syncWaits := (st.contexts c).syncWaits.filter P } ∧
    ∀ w ∈ (st.contexts c).syncWaits, P w = false → w.validBefore < now
  values : ∀ s, st'.pool.value s ≠ st.pool.value s → HeldBy st0 a s
  notified : ∃ new, st'.notified = st.notified ++ new ∧ ∀ n ∈ new, FdOf st a n.wait.fd
  waits : ∀ w ∈ (st'.contexts a).syncWaits, FdOf st a w.fd
  nextFd : st.nextFd ≤ st'.nextFd
  active : ∀ c ∈ st'.activeContexts, c ∈ st.activeContexts
  keeps : ∀ c ∈ st.activeContexts, c ≠ a → c ∈ st'.activeContexts

variable {a now : ℕ} {st0 st st' st'' : VtestRenderer}

theorem FdOf.trans {f : ℕ} (h : FdOf st' a f) (hw : ∀ w ∈ (st'.contexts a).syncWaits, FdOf st a w.fd)
    (hn : st.nextFd ≤ st'.nextFd) : FdOf st a f := by
  rcases h with h | h
  · obtain ⟨w, hw', rfl⟩ := List.mem_map.mp h
    exact hw w hw'
  · exact .inr (hn.trans h)

namespace Foreign

theorem refl (st : VtestRenderer) : Foreign a now st0 st st where
  others _ _ := ⟨fun _ => true, by simp, fun _ _ h => by cases h⟩
  values _ h := absurd rfl h
  notified := ⟨[], by simp, by simp⟩
  waits w hw := .inl (List.mem_map_of_mem _ hw)
  nextFd := le_rfl
  active _ h := h
  keeps _ h _ := h

theorem trans (h : Foreign a now st0 st st') (h' : Foreign a now st0 st' st'') :
    Foreign a now st0 st st'' where
  others c hc := by
    obtain ⟨P, hP, hPe⟩ := h.others c hc
    obtain ⟨Q, hQ, hQe⟩ := h'.others c hc
    refine ⟨fun w => Q w && P w, by rw [hQ, hP, List.filter_filter], fun w hw hpq => ?_⟩
    cases hp : P w
    · exact hPe w hw hp
    · exact hQe w (by rw [hP]; exact List.mem_filter.mpr ⟨hw, hp⟩) (by simpa [hp] using hpq)
  values s hs := by
    by_cases h1 : st'.pool.value s = st.pool.value s
    · exact h'.values s (by rwa [h1])
    · exact h.values s h1
  notified := by
    obtain ⟨n1, h1, hn1⟩ := h.notified
    obtain ⟨n2, h2, hn2⟩ := h'.notified
    refine ⟨n1 ++ n2, by rw [h2, h1, List.append_assoc], fun n hn => ?_⟩
    rcases List.mem_append.mp hn with hn | hn
    · exact hn1 n hn
    · exact (hn2 n hn).trans h.waits h.nextFd
  waits w hw := (h'.waits w hw).trans h.waits h.nextFd
  nextFd := h.nextFd.trans h'.nextFd
  active c hc := h.active c (h'.active c hc)
  keeps c hc hca := h'.keeps c (h.keeps c hc hca) hca

/-- A change of context `a`'s record that keeps its waits, with no write and no new fd,
whose value changes are on syncs held by `a` or by nobody. -/
theorem of_local (ho : ∀ c, c ≠ a → st'.contexts c = st.contexts c)
    (hw : (st'.contexts a).syncWaits = (st.contexts a).syncWaits)
    (hv : ∀ s, st'.pool.value s ≠ st.pool.value s → HeldBy st0 a s)
    (hn : st'.notified = st.notified) (hf : st.nextFd ≤ st'.nextFd)
    (hact : st'.activeContexts = st.activeContexts) : Foreign a now st0 st st' where
  others c hc := ⟨fun _ => true, by simp [ho c hc], fun _ _ h => by cases h⟩
  values := hv
  notified := ⟨[], by simp [hn], by simp⟩
  waits w h := .inl (List.mem_map_of_mem _ (hw ▸ h))
  nextFd := hf
  active c h := hact ▸ h
  keeps c h _ := hact ▸ h

/-- A step outside the sync subsystem, on context `a`. -/
theorem of_syncFrame (h : SyncFrame a st st') : Foreign a now st0 st st' :=
  of_local h.other (h.syncWaits a) (fun s hs => absurd (by rw [h.pool]) hs) h.notified
    (by rw [h.eq]) h.activeContexts

/-- A change of the pool that changes no value. -/
theorem of_pool (st : VtestRenderer) {p : SyncPool} (hp : p.value = st.pool.value) :
    Foreign a now st0 st { st with pool := p } :=
  of_local (fun _ _ => rfl) rfl (fun s hs => absurd (by simp [hp]) hs) rfl le_rfl rfl

/-- The reference point of the value changes only matters through its references. -/
theorem of_syncRefs {st1 : VtestRenderer} (hr : st1.syncRefs = st0.syncRefs)
    (h : Foreign a now st1 st st') : Foreign a now st0 st st' :=
  { h with values := fun s hs => by simpa only [HeldBy, hr] using h.values s hs }

end Foreign

/-! ## `vtest_signal_sync` -/

theorem signalSlots_of_not_mem (sync value count : ℕ) (any : Bool) :
    ∀ (slots : List (Option ℕ × ℕ)) (p : SyncPool) (n : ℕ), (∀ x ∈ slots, x.1 ≠ some sync) →
    vtestSignalSlots sync value count any p n slots = (p, n, slots, false)
  | [], _, _, _ => rfl
  | x :: rest, p, n, h => by
    simp only [vtestSignalSlots, h x (.head _), false_and, ↓reduceIte,
      signalSlots_of_not_mem sync value count any rest p n fun y hy => h y (.tail _ hy)]

/-- A wait with no slot on the signaled sync is collected when expired and otherwise
left as it is. -/
theorem signalSyncWait_of_not_mem (sync value now : ℕ) (st : VtestRenderer) {w : VtestSyncWait}
    (hw : ∀ x ∈ w.slots, x.1 ≠ some sync) :
    vtestSignalSyncWait sync value now st w =
      if w.validBefore < now then ({ st with pool := vtestFreeSyncWait st.pool w }, none)
      else (st, some w) := by
  unfold vtestSignalSyncWait
  rw [signalSlots_of_not_mem _ _ _ _ _ _ _ hw]
  rfl

theorem signalSyncWaits_of_not_mem (sync value now : ℕ) :
    ∀ (ws : List VtestSyncWait) (st : VtestRenderer), (∀ w ∈ ws, ∀ x ∈ w.slots, x.1 ≠ some sync) →
    (vtestSignalSyncWaits sync value now st ws).2 = ws.filter (fun w => !decide (w.validBefore < now)) ∧
    (vtestSignalSyncWaits sync value now st ws).1.notified = st.notified
  | [], _, _ => ⟨rfl, rfl⟩
  | w :: ws, st, h => by
    have ih := signalSyncWaits_of_not_mem sync value now ws
    simp only [vtestSignalSyncWaits, signalSyncWait_of_not_mem sync value now st (h w (.head _))]
    split_ifs with hv
    · simpa [hv] using ih _ fun w' hw' => h w' (.tail _ hw')
    · simpa [hv] using ih _ fun w' hw' => h w' (.tail _ hw')

/-- The writes of one iteration of the wait loop are of the wait it visits, and so is
the wait it keeps. -/
theorem signalSyncWait_writes (sync value now : ℕ) (st : VtestRenderer) (w : VtestSyncWait) :
    (∃ new, (vtestSignalSyncWait sync value now st w).1.notified = st.notified ++ new ∧
      ∀ n ∈ new, n.wait.fd = w.fd) ∧
    ∀ w' ∈ (vtestSignalSyncWait sync value now st w).2, w'.fd = w.fd := by
  rcases signalSyncWait_cases sync value now st w with he | ⟨-, he⟩ | ⟨-, he⟩ <;> rw [he]
  · exact ⟨⟨[], by simp, by simp⟩, by simp⟩
  · exact ⟨⟨[_], rfl, by simp⟩, by simp⟩
  · exact ⟨⟨[], by simp, by simp⟩, by simp⟩

theorem signalSyncWaits_writes (sync value now : ℕ) :
    ∀ (ws : List VtestSyncWait) (st : VtestRenderer),
    (∃ new, (vtestSignalSyncWaits sync value now st ws).1.notified = st.notified ++ new ∧
      ∀ n ∈ new, n.wait.fd ∈ ws.map VtestSyncWait.fd) ∧
    ∀ w' ∈ (vtestSignalSyncWaits sync value now st ws).2, w'.fd ∈ ws.map VtestSyncWait.fd
  | [], _ => ⟨⟨[], by simp [vtestSignalSyncWaits], by simp⟩, by simp [vtestSignalSyncWaits]⟩
  | w :: ws, st => by
    obtain ⟨⟨n1, h1, hn1⟩, hw1⟩ := signalSyncWait_writes sync value now st w
    obtain ⟨⟨n2, h2, hn2⟩, hw2⟩ := signalSyncWaits_writes sync value now ws
      (vtestSignalSyncWait sync value now st w).1
    simp only [vtestSignalSyncWaits, List.map_cons, List.mem_cons, List.mem_append]
    refine ⟨⟨n1 ++ n2, by rw [h2, h1, List.append_assoc], fun n hn => ?_⟩, fun w' hw' => ?_⟩
    · rcases List.mem_append.mp hn with hn | hn
      · exact .inl (hn1 n hn)
      · exact .inr (hn2 n hn)
    · rcases hw' with hw' | hw'
      · exact .inl (hw1 w' (Option.mem_toList.mp hw'))
      · exact .inr (hw2 w' hw')

/-- One context of `vtest_signal_sync`'s walk: context `a`'s waits may be written, and
another context whose waits hold no slot on the sync only loses its expired waits. -/
theorem Foreign.signalSyncWaitsOf (sync value now : ℕ) (st : VtestRenderer) {c : ℕ}
    (hs : c ≠ a → ∀ w ∈ (st.contexts c).syncWaits, ∀ x ∈ w.slots, x.1 ≠ some sync) :
    Foreign a now st0 st ((vtestSignalSyncWaits sync value now st (st.contexts c).syncWaits).1.modifyContext c
      fun x => { x with syncWaits := (vtestSignalSyncWaits sync value now st (st.contexts c).syncWaits).2 }) := by
  have hw := signalSyncWaits_waitsOnly sync value now st (st.contexts c).syncWaits
  have hv := signalSyncWaits_value sync value now (st.contexts c).syncWaits st
  have hctx := signalSyncWaits_contexts sync value now st (st.contexts c).syncWaits
  have hvals : ∀ s, (vtestSignalSyncWaits sync value now st (st.contexts c).syncWaits).1.pool.value s ≠
      st.pool.value s → HeldBy st0 a s := fun s h => absurd (by rw [hv]) h
  by_cases hca : c = a
  · subst hca
    obtain ⟨⟨new, hn, hnew⟩, hws⟩ := signalSyncWaits_writes sync value now (st.contexts c).syncWaits st
    exact { others := fun d hd => ⟨fun _ => true, by simp [hd, hctx], fun _ _ h => by cases h⟩
            values := hvals
            notified := ⟨new, by simpa using hn, fun n hn' => .inl (hnew n hn')⟩
            waits := fun w hw' => .inl (hws w (by simpa using hw'))
            nextFd := hw.nextFd.ge
            active := fun d hd => by simpa [hw.activeContexts] using hd
            keeps := fun d hd _ => by simpa [hw.activeContexts] using hd }
  · obtain ⟨hws, hn⟩ := signalSyncWaits_of_not_mem sync value now _ st (hs hca)
    refine { others := fun d hd => ?_
             values := hvals
             notified := ⟨[], by simpa using hn, by simp⟩
             waits := fun w hw' => .inl (List.mem_map_of_mem _ (by simpa [Ne.symm hca, hctx] using hw'))
             nextFd := hw.nextFd.ge
             active := fun d hd => by simpa [hw.activeContexts] using hd
             keeps := fun d hd _ => by simpa [hw.activeContexts] using hd }
    by_cases hdc : d = c
    · subst hdc
      exact ⟨fun w => !decide (w.validBefore < now), by simp [hws, hctx], fun w _ h => by simpa using h⟩
    · exact ⟨fun _ => true, by simp [hdc, hctx], fun _ _ h => by cases h⟩

/-- The walk of `vtest_signal_sync` over contexts `cs`, when only context `a`'s waits
can hold the sync. -/
theorem Foreign.signalSyncContexts (sync value now : ℕ) :
    ∀ (cs : List ℕ) (st : VtestRenderer),
    (∀ c ∈ cs, c ≠ a → ∀ w ∈ (st.contexts c).syncWaits, ∀ x ∈ w.slots, x.1 ≠ some sync) →
    Foreign a now st0 st (vtestSignalSyncContexts sync value now st cs)
  | [], st, _ => .refl st
  | c :: cs, st, hs => by
    have h1 : Foreign a now st0 st _ := Foreign.signalSyncWaitsOf sync value now st (c := c) (hs c (.head _))
    refine h1.trans (Foreign.signalSyncContexts sync value now cs _ fun d hd hda w hw x hx => ?_)
    obtain ⟨P, hP, -⟩ := h1.others d hda
    rw [hP] at hw
    exact hs d (.tail _ hd) hda w (List.mem_filter.mp hw).1 x hx

/-- `vtest_signal_sync` of a sync held by `a` or by nobody, which no other context's
wait holds. -/
theorem Foreign.signalSync (now : ℕ) (st : VtestRenderer) {sync : ℕ} (hheld : HeldBy st0 a sync)
    (hfree : SlotsFree st a sync) (v : ℕ) : Foreign a now st0 st (vtestSignalSync now st sync v) := by
  have h1 : Foreign a now st0 st { st with pool := st.pool.setValue sync v } :=
    .of_local (fun _ _ => rfl) rfl (fun s hs => by
      by_cases h : s = sync
      · exact h ▸ hheld
      · simp [h] at hs) rfl le_rfl rfl
  unfold vtestSignalSync
  dsimp only
  split
  · exact h1
  · exact h1.trans (.signalSyncContexts sync v now _ _ hfree)

/-- In the middle of a step of `a` begun in `st0`, a sync that `a` referenced in `st0`
is held by no other context's wait. -/
theorem Foreign.slotsFree (hs : SyncInv st0) (hacc : Foreign a now st0 st0 st) {sync : ℕ}
    (hown : (a, sync) ∈ st0.syncRefs) : SlotsFree st a sync := by
  intro c hc hca w hw x hx hxs
  obtain ⟨P, hP, -⟩ := hacc.others c hca
  rw [hP] at hw
  have hw0 := (List.mem_filter.mp hw).1
  have hmem : sync ∈ (st0.contexts c).syncRefs := by
    simp only [VtestContext.syncRefs, List.mem_append, List.mem_flatMap]
    exact .inl (.inr ⟨w, hw0, List.mem_filterMap.mpr ⟨x, hx, hxs⟩⟩)
  exact hca (hs.ledger.owner _ (mem_syncRefs (hacc.active c hc) hmem) _ hown rfl)

/-! ## The timeline commands -/

theorem Foreign.syncCreate (hs : SyncInv st) (lo hi : ℕ) (mallocOk writeOk : Bool) :
    Foreign a now st st (vtestSyncCreate st a lo hi mallocOk writeOk).1 := by
  unfold vtestSyncCreate
  split
  · exact .refl st
  rename_i p s hn
  have hv : ∀ t, p.value t ≠ st.pool.value t → HeldBy st a t := fun t ht => by
    rw [value_newSync hn, Function.update_apply] at ht
    split_ifs at ht with hts
    · exact hts ▸ .inr fun c hc => refCount_eq_zero.mp (hs.ledger.new_fresh hn) _ hc rfl
    · exact absurd rfl ht
  split
  · exact .of_local (fun d hd => by simp [hd]) (by simp) (fun t ht => hv t (by simpa using ht)) rfl
      le_rfl rfl
  · exact .of_local (fun _ _ => rfl) rfl (fun t ht => hv t (by simpa using ht)) rfl le_rfl rfl

theorem Foreign.syncUnref (st : VtestRenderer) (syncId : ℕ) :
    Foreign a now st0 st (vtestSyncUnref st a syncId).1 :=
  .of_local (fun d hd => by simp [vtestSyncUnref, hd]) (by simp [vtestSyncUnref])
    (fun _ ht => absurd (by simp [vtestSyncUnref]) ht) rfl le_rfl rfl

theorem Foreign.syncWrite (hs : SyncInv st) (ha : a ∈ st.activeContexts) (now syncId lo hi : ℕ) :
    Foreign a now st st (vtestSyncWrite now st a syncId lo hi).1 := by
  unfold vtestSyncWrite
  dsimp only
  split
  · exact .refl st
  · rename_i s hg
    have hown := mem_syncRefs_of_tableGet ha hg
    exact .signalSync now st (.inl hown) (Foreign.slotsFree hs (.refl st : Foreign a now st st st) hown) _

/-- `vtest_sync_wait`: the new wait has the next fd, and only it may be written. -/
theorem Foreign.syncWait (now lengthDw : ℕ) (buf : ℕ → ℕ) (io : SyncWaitIo) :
    Foreign a now st0 st (vtestSyncWait now st a lengthDw buf io).1 := by
  rcases syncWait_cases now st a lengthDw buf io with he | ⟨b, ⟨n, p, hi, he⟩ | ⟨n, p, w, hi, he⟩⟩ <;>
    rw [he]
  · exact .refl st
  · exact .of_local (fun _ _ => rfl) rfl (fun t ht => absurd (by simp [syncWaitInit_value hi]) ht) rfl
      (Nat.le_succ _) rfl
  have hfd : FdOf st a w.fd := .inr (syncWaitInit_fd hi).ge
  have hn : ∃ new, (if w.isReady n then
      (writeReady { st with pool := p, nextFd := st.nextFd + 1 } w).notified else st.notified) =
      st.notified ++ new ∧ ∀ n ∈ new, FdOf st a n.wait.fd := by
    split
    · exact ⟨[_], rfl, by simpa using hfd⟩
    · exact ⟨[], by simp, by simp⟩
  have hv : ∀ t, (vtestFreeSyncWait p w).value t ≠ st.pool.value t → HeldBy st0 a t :=
    fun t ht => absurd (by simp [syncWaitInit_value hi]) ht
  rcases syncWaitFinish_cases { st with pool := p, nextFd := st.nextFd + 1 } a w n (u32 (b 1))
    io.writeOk io.sendOk with hf | hf <;> rw [hf]
  · exact { others := fun _ _ => ⟨fun _ => true, by simp, fun _ _ h => by cases h⟩
            values := hv
            notified := hn
            waits := fun w' hw' => .inl (List.mem_map_of_mem _ hw')
            nextFd := Nat.le_succ _
            active := fun _ h => h
            keeps := fun _ h _ => h }
  · refine { others := fun d hd => ⟨fun _ => true, by simp [hd], fun _ _ h => by cases h⟩
             values := fun t ht => absurd (by simp [syncWaitInit_value hi]) ht
             notified := hn
             waits := fun w' hw' => ?_
             nextFd := Nat.le_succ _
             active := fun _ h => h
             keeps := fun _ h _ => h }
    simp only [modifyContext_contexts, if_true, List.mem_append, List.mem_singleton] at hw'
    rcases hw' with hw' | rfl
    · exact .inl (List.mem_map_of_mem _ hw')
    · exact hfd

/-! ## `SUBMIT_CMD2`

A step of `a` begun in `st0` keeps `a`'s sync table, so every sync a batch looks up is
one `a` referenced in `st0`. -/

section Submit

variable (hs : SyncInv st0) (ha : a ∈ st0.activeContexts)
include hs ha

theorem Foreign.batchSyncs (now : ℕ) (queued : Bool) (syncs : ℕ → ℕ) :
    ∀ (is : List ℕ) (st : VtestRenderer), Foreign a now st0 st0 st →
    (st.contexts a).syncTable = (st0.contexts a).syncTable →
    Foreign a now st0 st0 (vtestSubmitCmd2BatchSyncs now a queued syncs st is).1
  | [], _, hacc, _ => hacc
  | i :: is, st, hacc, htab => by
    simp only [vtestSubmitCmd2BatchSyncs]
    split
    · exact hacc
    rename_i s hg
    have hown : (a, s) ∈ st0.syncRefs := mem_syncRefs_of_tableGet ha (htab ▸ hg)
    split
    · exact Foreign.batchSyncs now queued syncs is _
        (hacc.trans (.of_pool st (SyncPool.value_refSync _ _))) htab
    · exact Foreign.batchSyncs now queued syncs is _
        (hacc.trans (.signalSync now st (.inl hown) (hacc.slotsFree hs hown) _))
        (by rw [(signalSync_waitsOnly now st _ _).syncTable]; exact htab)

end Submit

theorem Foreign.submitCmd2BatchFinish (n : ℕ) (st : VtestRenderer) (batch : VcmdSubmitCmd2Batch)
    (io : SubmitCmd2Io) (queued : Bool) (submit : VtestSyncQueueSubmit) (found : Bool) :
    Foreign a now st0 st (vtestSubmitCmd2BatchFinish a n st batch io queued submit found).1 := by
  rcases submitCmd2BatchFinish_cases a n st batch io queued submit found with
    ⟨-, he⟩ | ⟨-, -, he⟩ | ⟨-, -, he⟩ | ⟨-, -, he⟩ <;> rw [he] <;>
    exact .of_local (fun d hd => by simp [hd]) (by simp) (fun _ ht => absurd (by simp) ht) rfl le_rfl rfl

theorem submitCmd2BatchFinish_syncTable (c n : ℕ) (st : VtestRenderer) (batch : VcmdSubmitCmd2Batch)
    (io : SubmitCmd2Io) (queued : Bool) (submit : VtestSyncQueueSubmit) (found : Bool) (d : ℕ) :
    ((vtestSubmitCmd2BatchFinish c n st batch io queued submit found).1.contexts d).syncTable =
      (st.contexts d).syncTable := by
  rcases submitCmd2BatchFinish_cases c n st batch io queued submit found with
    ⟨-, he⟩ | ⟨-, -, he⟩ | ⟨-, -, he⟩ | ⟨-, -, he⟩ <;> rw [he]
  simp only [modifyContext_contexts]
  split <;> simp_all

theorem submitCmd2Batch_syncTable (now c n : ℕ) (st : VtestRenderer) (batch : VcmdSubmitCmd2Batch)
    (buf : ℕ → ℕ) (io : SubmitCmd2Io) (d : ℕ) :
    ((vtestSubmitCmd2Batch now c n st batch buf io).1.contexts d).syncTable = (st.contexts d).syncTable := by
  rcases submitCmd2Batch_cases now c n st batch buf io with he | he | he <;> rw [he] <;>
    simp only [submitCmd2BatchFinish_syncTable, (batchSyncs_waitsOnly _ _ _ _ _ _).syncTable]

section Submit

variable (hs : SyncInv st0) (ha : a ∈ st0.activeContexts)
include hs ha

theorem Foreign.submitCmd2Batch (now n : ℕ) (st : VtestRenderer) (hacc : Foreign a now st0 st0 st)
    (htab : (st.contexts a).syncTable = (st0.contexts a).syncTable) (batch : VcmdSubmitCmd2Batch)
    (buf : ℕ → ℕ) (io : SubmitCmd2Io) :
    Foreign a now st0 st0 (vtestSubmitCmd2Batch now a n st batch buf io).1 := by
  have h1 : Foreign a now st0 st0 { st with
      rendererLog := st.rendererLog ++ [RendererCall.submitCmd a batch.cmdOffset batch.cmdSize] } :=
    hacc.trans (.of_local (fun _ _ => rfl) rfl (fun _ ht => absurd rfl ht) rfl le_rfl rfl)
  rcases submitCmd2Batch_cases now a n st batch buf io with he | he | he <;> rw [he]
  · exact h1
  · exact Foreign.batchSyncs hs ha now _ _ _ _ h1 (by exact htab)
  · refine (Foreign.batchSyncs hs ha now _ _ _ _ (h1.trans ?_) (by exact htab)).trans
      (.submitCmd2BatchFinish _ _ _ _ _ _ _)
    exact .of_local (fun _ _ => rfl) rfl (fun _ ht => absurd rfl ht) rfl le_rfl rfl

theorem Foreign.submitCmd2Batches (now lengthDw : ℕ) (buf : ℕ → ℕ) (io : SubmitCmd2Io) :
    ∀ (is : List ℕ) (st : VtestRenderer), Foreign a now st0 st0 st →
    (st.contexts a).syncTable = (st0.contexts a).syncTable →
    Foreign a now st0 st0 (vtestSubmitCmd2Batches now a lengthDw buf io st is).1
  | [], _, hacc, _ => hacc
  | i :: is, st, hacc, htab => by
    have h1 := Foreign.submitCmd2Batch hs ha now i st hacc htab (vtestSubmitCmd2DecodeBatch buf i) buf io
    simp only [vtestSubmitCmd2Batches]
    split_ifs
    · exact hacc
    · exact h1
    · exact Foreign.submitCmd2Batches now lengthDw buf io is _ h1
        (by rw [submitCmd2Batch_syncTable]; exact htab)

end Submit

theorem Foreign.submitCmd2 (hs : SyncInv st) (ha : a ∈ st.activeContexts) (now lengthDw : ℕ)
    (buf : ℕ → ℕ) (io : SubmitCmd2Io) : Foreign a now st st (vtestSubmitCmd2 now st a lengthDw buf io).1 := by
  rcases submitCmd2_cases now st a lengthDw buf io with he | ⟨b, is, he⟩ <;> rw [he]
  exacts [.refl st, Foreign.submitCmd2Batches hs ha now lengthDw b io _ st (.refl st) rfl]

/-! ## Context fences and destruction -/

/-- A sync in a slot of a submit queued on an active context is referenced by it. -/
theorem mem_syncRefs_of_queued {q : Fin 64} {x : VtestSyncQueueSubmit} {e : ℕ × ℕ}
    (ha : a ∈ st.activeContexts) (hx : x ∈ (st.contexts a).syncQueues q) (he : e ∈ x.slots) :
    (a, e.1) ∈ st.syncRefs :=
  mem_syncRefs ha (by
    simp only [VtestContext.syncRefs, VtestContext.queuedSubmits, VtestSyncQueueSubmit.refs,
      List.mem_append, List.mem_flatMap, List.mem_map]
    exact .inr ⟨x, ⟨q, List.mem_finRange q, hx⟩, e, he, rfl⟩)

theorem Foreign.pop (st : VtestRenderer) (q : Fin 64) (submit : VtestSyncQueueSubmit)
    (rest : List VtestSyncQueueSubmit) :
    Foreign a now st0 st (st.modifyContext a (popSubmit q submit rest)) :=
  .of_local (fun d hd => by simp [hd]) (by simp [popSubmit]) (fun _ ht => absurd rfl ht) rfl le_rfl rfl

section Fence

variable (hs : SyncInv st0)
include hs

theorem Foreign.signalSubmit (now : ℕ) :
    ∀ (slots : List (ℕ × ℕ)) (st : VtestRenderer), Foreign a now st0 st0 st →
    (∀ e ∈ slots, (a, e.1) ∈ st0.syncRefs) → Foreign a now st0 st0 (vtestSignalSubmit now st slots)
  | [], _, hacc, _ => hacc
  | (s, v) :: rest, st, hacc, hown => by
    have h1 := hacc.trans
      (.signalSync now st (.inl (hown _ (.head _))) (hacc.slotsFree hs (hown _ (.head _))) v)
    exact Foreign.signalSubmit now rest _ (h1.trans (.of_pool _ (SyncPool.value_unrefSync _ _)))
      fun e he => hown e (.tail _ he)

theorem Foreign.signalSyncQueue (now : ℕ) (q : Fin 64) (toSubmit : ℕ) :
    ∀ (l : List VtestSyncQueueSubmit) (st : VtestRenderer), Foreign a now st0 st0 st →
    (∀ x ∈ l, ∀ e ∈ x.slots, (a, e.1) ∈ st0.syncRefs) →
    Foreign a now st0 st0 (vtestSignalSyncQueue now a q toSubmit st l)
  | [], _, hacc, _ => hacc
  | submit :: rest, st, hacc, hown => by
    have h1 := Foreign.signalSubmit hs now submit.slots _ (hacc.trans (.pop st q submit rest))
      (hown submit (.head _))
    simp only [vtestSignalSyncQueue]
    split
    · exact h1
    · exact Foreign.signalSyncQueue now q toSubmit rest _ h1 fun x hx => hown x (.tail _ hx)

end Fence

/-- The callback for a pending fence of a submit of `a`. -/
theorem Foreign.contextFence (hs : SyncInv st) {f : PendingFence} (hf : f ∈ st.fences)
    (ha : (st.submitMemory f.cookie).1 = a) (now : ℕ) :
    Foreign a now st st (vtestWriteContextFence now { st with fences := st.fences.erase f } f.cookie) := by
  obtain ⟨hc, hq, -⟩ := hs.fences f hf
  have hact : a ∈ st.activeContexts := ha ▸ hq ▸ hc
  have h1 : Foreign a now st st { st with fences := st.fences.erase f } :=
    .of_local (fun _ _ => rfl) rfl (fun _ ht => absurd rfl ht) rfl le_rfl rfl
  have hm : ({ st with fences := st.fences.erase f }.submitMemory f.cookie) =
      (a, (st.submitMemory f.cookie).2) := Prod.ext ha rfl
  unfold vtestWriteContextFence
  rw [hm]
  exact Foreign.signalSyncQueue hs now _ _ _ _ h1 fun x hx e he => mem_syncRefs_of_queued hact hx he

/-- `vtest_destroy_context(a)` frees `a`'s records and reaches no other context. -/
theorem Foreign.destroyContext (st : VtestRenderer) : Foreign a now st0 st (vtestDestroyContext st a) where
  others d hd := ⟨fun _ => true, by simp [vtestDestroyContext, hd], fun _ _ h => by cases h⟩
  values _ ht := absurd (by simp [vtestDestroyContext, foldl_freeSyncQueueSubmit, foldl_freeSyncWait]) ht
  notified := ⟨[], by simp [vtestDestroyContext], by simp⟩
  waits _ hw := by simp [vtestDestroyContext] at hw
  nextFd := by simp [vtestDestroyContext, VtestRenderer.modifyContext]
  active _ hc := List.mem_of_mem_erase (by simpa [vtestDestroyContext] using hc)
  keeps _ hc hca := by simpa [vtestDestroyContext] using (List.mem_erase_of_ne hca).mpr hc

/-! ## A step on behalf of a context -/

/-- The steps taken on behalf of context `a` in `st`: a command while `a` is current,
the callback for the fence of a submit of `a`, and the destruction of `a`. -/
def Event.byContext (st : VtestRenderer) (a : ℕ) : Event → Prop
  | .command c _ _ => c = a
  | .contextFence cookie _ => (st.submitMemory cookie).1 = a
  | .destroyContext c => c = a
  | _ => False

instance (st : VtestRenderer) (a : ℕ) : (e : Event) → Decidable (e.byContext st a)
  | .command c _ _ => inferInstanceAs (Decidable (c = a))
  | .contextFence cookie _ => inferInstanceAs (Decidable ((st.submitMemory cookie).1 = a))
  | .destroyContext c => inferInstanceAs (Decidable (c = a))
  | .createContext .. | .implicitFence _ | .setMaxLength _ => inferInstanceAs (Decidable False)

/-- The monotonic time a step runs at. -/
def Event.time : Event → ℕ
  | .command _ _ now => now
  | .contextFence _ now => now
  | _ => 0

theorem Foreign.runCommand (hs : SyncInv st) (ha : a ∈ st.activeContexts) (now : ℕ) (cmd : Command) :
    Foreign a now st st (runCommand now st a cmd) := by
  cases cmd with
  | syncCreate lo hi mallocOk writeOk => exact .syncCreate hs lo hi mallocOk writeOk
  | syncUnref syncId => exact .syncUnref st syncId
  | syncWrite syncId lo hi => exact .syncWrite hs ha now syncId lo hi
  | syncWait lengthDw buf io => exact .syncWait now lengthDw buf io
  | submitCmd2 lengthDw buf io => exact .submitCmd2 hs ha now lengthDw buf io
  | submitCmd lengthDw mallocOk input r => exact .of_syncFrame (.submitCmd st lengthDw mallocOk input r)
  | resourceCreate handle shmSize io => exact .of_syncFrame (.createResourceInternal st handle shmSize io)
  | resourceCreateBlob size io => exact .of_syncFrame (.resourceCreateBlob st size io)
  | resourceUnref handle => exact .of_syncFrame (.resourceUnref st handle)
  | protocolVersion v server readOk shmOk writeOk =>
    exact .of_syncFrame (.protocolVersion st v server readOk shmOk writeOk)
  | contextInit capsetId r => exact .of_syncFrame (.contextInit st capsetId r)
  | lazyInitContext r => exact .of_syncFrame (.lazyInitContext st r)

/-- Every step on behalf of `a` is foreign to the other contexts. -/
theorem Foreign.step (hs : SyncInv st) {e : Event} (he : e.byContext st a) :
    Foreign a e.time st st (step st e) := by
  cases e with
  | command c cmd now =>
    obtain rfl : c = a := he
    simp only [Vtest.step, Event.time]
    split
    · rename_i hc
      have hf : SyncFrame c st { st with currentContext := some c } := ⟨rfl, fun _ => rfl, fun _ _ => rfl⟩
      exact (Foreign.of_syncFrame hf).trans
        ((Foreign.runCommand (hs.of_syncFrame hc hf) hc now cmd).of_syncRefs (by rfl))
    · exact .refl st
  | contextFence cookie now =>
    simp only [Vtest.step, Event.time]
    split
    · rename_i f hfind
      obtain rfl : f.cookie = cookie := by simpa using List.find?_some hfind
      exact .contextFence hs (List.mem_of_find?_eq_some hfind) he now
    · exact .refl st
  | destroyContext c =>
    obtain rfl : c = a := he
    simp only [Vtest.step]
    split
    · exact .destroyContext st
    · exact .refl st
  | createContext | implicitFence | setMaxLength => exact he.elim

end Vtest

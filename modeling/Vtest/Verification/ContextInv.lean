import Vtest.Verification.SubmitInv

/-! # Creating and destroying contexts

`vtest_new_context` hands out the head of `free_contexts` or a fresh record, and a
failed `vtest_create_context` puts it back on the list; `vtest_destroy_context` drops
every reference the context holds and returns its emptied record to the free list.
Both keep `SyncInv`. -/

namespace Vtest

variable {st : VtestRenderer} {c : ℕ}

/-! ## Creation -/

/-- Replacing the record of a context that is not active, by an empty one if it is on
the free list. -/
theorem SyncInv.update_inactive (h : SyncInv st) (hc : c ∉ st.activeContexts) (x : VtestContext)
    (hx : c ∈ st.freeContexts → x.IsEmpty) :
    SyncInv { st with contexts := Function.update st.contexts c x } where
  ledger := by
    simpa [VtestRenderer.syncRefs, refsOf_update_of_not_mem x hc] using h.ledger
  active_nodup := h.active_nodup
  free_nodup := h.free_nodup
  active_free := h.active_free
  bound := h.bound
  free_empty d hd := by
    by_cases hdc : d = c
    · subst hdc; simpa using hx hd
    · simpa [hdc] using h.free_empty d hd
  keys d hd := by
    simpa [show d ≠ c from fun e => hc (e ▸ hd)] using h.keys d hd
  keys_nodup d hd := by
    simpa [show d ≠ c from fun e => hc (e ▸ hd)] using h.keys_nodup d hd
  fences := h.fences

/-- A fresh empty record numbered below the next id joins the free list. -/
theorem SyncInv.pushFree (h : SyncInv st) (hc : c ∉ st.activeContexts) (hcf : c ∉ st.freeContexts)
    (hx : (st.contexts c).IsEmpty) {n : ℕ} (hn : st.nextContextId ≤ n) (hcn : c < n) :
    SyncInv { st with freeContexts := c :: st.freeContexts, nextContextId := n } :=
  { h with
    free_nodup := List.nodup_cons.mpr ⟨hcf, h.free_nodup⟩
    active_free := fun d hd => by
      rcases List.mem_cons.mp hd with rfl | hd
      · exact hc
      · exact h.active_free d hd
    bound := fun d hd => by
      rcases hd with hd | hd
      · exact lt_of_lt_of_le (h.bound d (.inl hd)) hn
      · rcases List.mem_cons.mp hd with rfl | hd
        · exact hcn
        · exact lt_of_lt_of_le (h.bound d (.inr hd)) hn
    free_empty := fun d hd => by
      rcases List.mem_cons.mp hd with rfl | hd
      · exact hx
      · exact h.free_empty d hd }

/-- The head of the free list becomes active. -/
theorem SyncInv.activate (h : SyncInv st) {rest : List ℕ} (hf : st.freeContexts = c :: rest) :
    SyncInv { st with freeContexts := rest, activeContexts := st.activeContexts ++ [c] } := by
  have hcf : c ∈ st.freeContexts := hf ▸ List.mem_cons_self _ _
  have hca := h.active_free c hcf
  have hx := h.free_empty c hcf
  have hnd := hf ▸ h.free_nodup
  rw [List.nodup_cons] at hnd
  have hrest : ∀ d ∈ rest, d ∈ st.freeContexts := fun d hd => hf ▸ List.mem_cons_of_mem _ hd
  refine ⟨?_, ?_, hnd.2, fun d hd => ?_, fun d hd => ?_, fun d hd => h.free_empty d (hrest d hd),
    fun d hd => ?_, fun d hd => ?_, fun f hf => ?_⟩
  · simpa [VtestRenderer.syncRefs, refsOf, hx.syncRefs] using h.ledger
  · exact h.active_nodup.append (List.nodup_singleton c) (List.disjoint_singleton.mpr hca)
  · simp only [List.mem_append, List.mem_singleton, not_or]
    exact ⟨h.active_free d (hrest d hd), fun e => hnd.1 (e ▸ hd)⟩
  · simp only [List.mem_append, List.mem_singleton] at hd
    rcases hd with (hd | rfl) | hd
    · exact h.bound d (.inl hd)
    · exact h.bound d (.inr hcf)
    · exact h.bound d (.inr (hrest d hd))
  · simp only [List.mem_append, List.mem_singleton] at hd
    rcases hd with hd | rfl
    · exact h.keys d hd
    · simp [hx.2.1]
  · simp only [List.mem_append, List.mem_singleton] at hd
    rcases hd with hd | rfl
    · exact h.keys_nodup d hd
    · simp [hx.2.1]
  · obtain ⟨h1, h2, h3⟩ := h.fences f hf
    exact ⟨List.mem_append_left _ h1, h2, h3⟩

/-- What `vtest_new_context` hands out, put back on the free list, keeps the invariant. -/
theorem SyncInv.newContext (h : SyncInv st) {ok : Bool} {st1 : VtestRenderer}
    (he : vtestNewContext st ok = some (st1, c)) :
    SyncInv { st1 with freeContexts := c :: st1.freeContexts } := by
  unfold vtestNewContext at he
  split at he
  · rename_i d rest hf
    obtain ⟨rfl, rfl⟩ := Prod.mk.inj (Option.some.inj he)
    have hd : d ∈ st.freeContexts := hf ▸ List.mem_cons_self _ _
    have key := h.update_inactive (h.active_free d hd)
      { st.contexts d with protocolVersion := 0, capsetId := 0, contextInitialized := false }
      fun _ => (h.free_empty d hd)
    rw [hf] at key
    exact key
  · split at he
    · obtain ⟨rfl, rfl⟩ := Prod.mk.inj (Option.some.inj he)
      have hn : ∀ d, d ∈ st.activeContexts ∨ d ∈ st.freeContexts → d ≠ st.nextContextId :=
        fun d hd e => lt_irrefl _ (e ▸ h.bound d hd)
      have h1 := h.update_inactive (fun hm => hn _ (.inl hm) rfl) VtestContext.empty
        fun _ => ⟨rfl, rfl, fun _ => rfl, rfl⟩
      exact h1.pushFree (fun hm => hn _ (.inl hm) rfl) (fun hm => hn _ (.inr hm) rfl)
        (by simpa using (⟨rfl, rfl, fun _ => rfl, rfl⟩ : VtestContext.empty.IsEmpty))
        (Nat.le_succ _) (Nat.lt_succ_self _)
    · cases he

/-- The record `vtest_new_context` hands out is empty and reset. -/
theorem SyncInv.newContext_record (h : SyncInv st) {ok : Bool} {st1 : VtestRenderer}
    (he : vtestNewContext st ok = some (st1, c)) :
    (st1.contexts c).IsEmpty ∧ (st1.contexts c).protocolVersion = 0 ∧
      (st1.contexts c).capsetId = 0 ∧ (st1.contexts c).contextInitialized = false := by
  unfold vtestNewContext at he
  split at he
  · rename_i d rest hf
    obtain ⟨rfl, rfl⟩ := Prod.mk.inj (Option.some.inj he)
    obtain ⟨h1, h2, h3, h4⟩ := h.free_empty d (hf ▸ List.mem_cons_self _ _)
    simp [VtestContext.IsEmpty, h1, h2, h3, h4]
  · split at he
    · obtain ⟨rfl, rfl⟩ := Prod.mk.inj (Option.some.inj he)
      simp [VtestContext.IsEmpty, VtestContext.empty]
    · cases he

/-- `vtest_create_context` keeps the invariant. -/
theorem SyncInv.createContext (h : SyncInv st) (length : ℕ) (mallocOk callocOk readOk : Bool) :
    SyncInv (vtestCreateContext st length mallocOk callocOk readOk).1 := by
  unfold vtestCreateContext
  split
  · exact h
  split
  · exact h
  rename_i st1 c he
  have h1 := h.newContext he
  split
  · exact h1
  · exact h1.activate rfl

/-! ## Destruction -/

/-- Freeing the submits, then the waits, then the table's syncs drops every reference
context `c` holds. -/
theorem SyncInv.destroyLedger (h : SyncInv st) (hc : c ∈ st.activeContexts) :
    SyncLedger (vtestUnrefSyncs ((st.contexts c).syncWaits.foldl vtestFreeSyncWait
        ((st.contexts c).queuedSubmits.foldl vtestFreeSyncQueueSubmit st.pool))
        ((st.contexts c).syncTable.map Prod.snd))
      (refsOf st.contexts (st.activeContexts.erase c)) := by
  rw [foldl_freeSyncWait, foldl_freeSyncQueueSubmit, ← unrefSyncs_append, ← unrefSyncs_append]
  refine SyncLedger.unrefs (c := c) (h.ledger.perm ((refsOf_perm hc h.active_nodup).trans ?_))
  simp only [VtestContext.syncRefs, tagged, List.map_append]
  exact List.perm_iff_count.mpr fun a => by simp only [List.count_append]; omega

/-- The state `vtest_destroy_context` leaves, from any resource cleanup `st1` of the
state with the dropped references' pool. -/
theorem SyncInv.destroyed (h : SyncInv st) (hc : c ∈ st.activeContexts) {p : SyncPool}
    {st1 : VtestRenderer} (hf : SyncFrame c { st with pool := p } st1)
    (hl : SyncLedger p (refsOf st.contexts (st.activeContexts.erase c))) (cur : Option ℕ) :
    SyncInv ({ st1 with
      currentContext := cur, activeContexts := st.activeContexts.erase c,
      freeContexts := c :: st.freeContexts, fences := st.fences.filter (·.ctxId != c) }.modifyContext
        c fun y => { y with
          resourceTable := [], syncTable := [], syncQueues := fun _ => [], syncWaits := [],
          appended := fun _ => [], signaled := fun _ => [] }) := by
  have hnd := h.active_nodup
  have hcf : c ∉ st.freeContexts := fun hm => h.active_free c hm hc
  have hother : ∀ d, d ≠ c → st1.contexts d = st.contexts d := hf.other
  have hmem : ∀ {d}, d ∈ st.activeContexts.erase c ↔ d ≠ c ∧ d ∈ st.activeContexts :=
    hnd.mem_erase_iff
  refine ⟨?_, hnd.erase c, List.nodup_cons.mpr ⟨hcf, h.free_nodup⟩, fun d hd => ?_,
    fun d hd => ?_, fun d hd => ?_, fun d hd => ?_, fun d hd => ?_, fun f hf' => ?_⟩
  · rw [modifyContext_pool, hf.pool]
    simpa only [VtestRenderer.syncRefs, VtestRenderer.modifyContext,
      refsOf_update_of_not_mem _ (hnd.not_mem_erase), refsOf_congr fun d _ => hf.contextSyncRefs d]
      using hl
  · rcases List.mem_cons.mp hd with rfl | hd
    · exact hnd.not_mem_erase
    · exact fun hm => h.active_free d hd (hmem.mp hm).2
  · rcases hd with hd | hd
    · exact hf.nextContextId ▸ h.bound d (.inl (hmem.mp hd).2)
    · rcases List.mem_cons.mp hd with rfl | hd
      · exact hf.nextContextId ▸ h.bound _ (.inl hc)
      · exact hf.nextContextId ▸ h.bound d (.inr hd)
  · rcases List.mem_cons.mp hd with rfl | hd
    · simp [VtestContext.IsEmpty]
    · have hdc : d ≠ c := fun e => hcf (e ▸ hd)
      simpa [hdc, hother d hdc] using h.free_empty d hd
  · obtain ⟨hdc, hd⟩ := hmem.mp hd
    simpa [hdc, hother d hdc] using h.keys d hd
  · obtain ⟨hdc, hd⟩ := hmem.mp hd
    simpa [hdc, hother d hdc] using h.keys_nodup d hd
  · obtain ⟨hf', hfc⟩ := List.mem_filter.mp hf'
    obtain ⟨h1, h2, h3⟩ := h.fences f hf'
    exact ⟨hmem.mpr ⟨by simpa using hfc, h1⟩, by simpa [hf.submitMemory] using h2,
      by simpa [hf.nextCookie] using h3⟩

/-- `vtest_destroy_context` keeps the invariant. -/
theorem SyncInv.destroyContext (h : SyncInv st) (hc : c ∈ st.activeContexts) :
    SyncInv (vtestDestroyContext st c) :=
  h.destroyed hc (SyncFrame.unrefResources c _ _) (h.destroyLedger hc) _

end Vtest

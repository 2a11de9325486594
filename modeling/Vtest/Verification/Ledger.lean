import Vtest.Model.Pool
import Mathlib.Data.List.Perm.Basic

/-! # The sync ledger

`SyncLedger p R` says that the pool `p` accounts exactly for the references listed
in `R`, each a `(holder, sync)` pair: every allocated sync's `refcount` is the number
of references to it, `free_syncs` lists, once each, exactly the allocated syncs that
nobody references, and all references to one sync have the same holder. Each of
`vtest_new_sync`, `vtest_ref_sync` and `vtest_unref_sync` moves the ledger by one
reference; the handlers' invariants are all built from these four lemmas. -/

namespace Vtest

/-- The number of references to sync `s` among `R`. -/
def refCount (R : List (ℕ × ℕ)) (s : ℕ) : ℕ := (R.map Prod.snd).count s

@[simp] theorem refCount_nil (s : ℕ) : refCount [] s = 0 := rfl

@[simp] theorem refCount_cons (e : ℕ × ℕ) (R : List (ℕ × ℕ)) (s : ℕ) :
    refCount (e :: R) s = refCount R s + if e.2 = s then 1 else 0 := by
  simp [refCount, List.count_cons]

@[simp] theorem refCount_append (R R' : List (ℕ × ℕ)) (s : ℕ) :
    refCount (R ++ R') s = refCount R s + refCount R' s := by
  simp [refCount, List.count_append]

theorem refCount_eq_zero {R : List (ℕ × ℕ)} {s : ℕ} :
    refCount R s = 0 ↔ ∀ e ∈ R, e.2 ≠ s := by
  simp only [refCount, List.count_eq_zero, List.mem_map]
  exact ⟨fun h e he hs => h ⟨e, he, hs⟩, fun h ⟨e, he, hs⟩ => h e he hs⟩

theorem refCount_perm {R R' : List (ℕ × ℕ)} (h : R.Perm R') (s : ℕ) :
    refCount R s = refCount R' s :=
  (h.map Prod.snd).count_eq s

structure SyncLedger (p : SyncPool) (R : List (ℕ × ℕ)) : Prop where
  refcount_eq : ∀ s, 0 < s → s < p.nextSyncId → (p.syncs s).refcount = refCount R s
  mem_free : ∀ s, s ∈ p.freeSyncs ↔ 0 < s ∧ s < p.nextSyncId ∧ refCount R s = 0
  free_nodup : p.freeSyncs.Nodup
  allocated : ∀ e ∈ R, 0 < e.2 ∧ e.2 < p.nextSyncId
  owner : ∀ e ∈ R, ∀ e' ∈ R, e.2 = e'.2 → e.1 = e'.1
  no_assert : p.assertFailed = false
  next_pos : 0 < p.nextSyncId

variable {p : SyncPool} {R R' : List (ℕ × ℕ)}

theorem SyncLedger.perm (h : SyncLedger p R) (hp : R.Perm R') : SyncLedger p R' where
  refcount_eq s h0 hs := by rw [h.refcount_eq s h0 hs, refCount_perm hp]
  mem_free s := by rw [h.mem_free, refCount_perm hp]
  free_nodup := h.free_nodup
  allocated e he := h.allocated e (hp.mem_iff.mpr he)
  owner e he e' he' := h.owner e (hp.mem_iff.mpr he) e' (hp.mem_iff.mpr he')
  no_assert := h.no_assert
  next_pos := h.next_pos

theorem SyncLedger.refcount_pos (h : SyncLedger p R) {e : ℕ × ℕ} (he : e ∈ R) :
    0 < (p.syncs e.2).refcount := by
  obtain ⟨h0, hs⟩ := h.allocated e he
  have : 0 < refCount R e.2 :=
    Nat.pos_of_ne_zero fun hz => refCount_eq_zero.mp hz e he rfl
  rw [h.refcount_eq _ h0 hs]
  exact_mod_cast this

/-- Dropping one reference: `vtest_unref_sync` never trips its assertion and returns
the record to `free_syncs` exactly when the last reference goes. -/
theorem SyncLedger.unref {c s : ℕ} (h : SyncLedger p ((c, s) :: R)) :
    SyncLedger (vtestUnrefSync p s) R := by
  have hpos := h.refcount_pos (List.mem_cons_self _ _)
  obtain ⟨h0, hs⟩ := h.allocated _ (List.mem_cons_self _ _)
  have hrc : (p.syncs s).refcount - 1 = refCount R s := by
    have := h.refcount_eq s h0 hs
    simp only [refCount_cons, if_true] at this
    omega
  have hnf : s ∉ p.freeSyncs := by simp [h.mem_free]
  have hrefc : ∀ t, 0 < t → t < p.nextSyncId →
      ((p.set s { p.syncs s with refcount := (p.syncs s).refcount - 1 }).syncs t).refcount =
        refCount R t := by
    intro t ht0 ht
    rw [SyncPool.set_syncs]
    split
    · subst t; exact hrc
    · rename_i hts; rw [h.refcount_eq t ht0 ht]; simp [Ne.symm hts]
  have hall := fun e he => h.allocated e (List.mem_cons_of_mem (c, s) he)
  have hown := fun e he e' he' =>
    h.owner e (List.mem_cons_of_mem (c, s) he) e' (List.mem_cons_of_mem (c, s) he')
  have hna : (p.assertFailed || decide ((p.syncs s).refcount = 0)) = false := by
    simp [h.no_assert]; omega
  have hfree : ∀ t, t ≠ s → (t ∈ p.freeSyncs ↔ 0 < t ∧ t < p.nextSyncId ∧ refCount R t = 0) := by
    intro t hts; rw [h.mem_free]; simp [Ne.symm hts]
  simp only [vtestUnrefSync]
  split
  · rename_i h1
    refine ⟨hrefc, fun t => ?_, List.nodup_cons.mpr ⟨hnf, h.free_nodup⟩, hall, hown, hna,
      h.next_pos⟩
    by_cases hts : t = s
    · subst t; simp only [List.mem_cons, true_or, true_iff]; exact ⟨h0, hs, by omega⟩
    · simpa [hts] using hfree t hts
  · rename_i h1
    refine ⟨hrefc, fun t => ?_, h.free_nodup, hall, hown, hna, h.next_pos⟩
    by_cases hts : t = s
    · subst t; simp only [SyncPool.set_freeSyncs, hnf, false_iff]; omega
    · simpa using hfree t hts

theorem SyncLedger.unrefs {c : ℕ} {L : List ℕ} (h : SyncLedger p (L.map (c, ·) ++ R)) :
    SyncLedger (vtestUnrefSyncs p L) R := by
  induction L generalizing p with
  | nil => exact h
  | cons s L ih => exact ih h.unref

/-- Taking one more reference to a sync that is already referenced. -/
theorem SyncLedger.ref {c s : ℕ} (h : SyncLedger p R) (hm : (c, s) ∈ R) :
    SyncLedger (vtestRefSync p s) ((c, s) :: R) := by
  have hpos : 0 < refCount R s := Nat.pos_of_ne_zero fun hz => refCount_eq_zero.mp hz _ hm rfl
  refine ⟨fun t ht0 ht => ?_, fun t => ?_, h.free_nodup, ?_, ?_, h.no_assert, h.next_pos⟩
  · simp only [vtestRefSync, SyncPool.set_syncs, SyncPool.set_nextSyncId, refCount_cons] at ht ⊢
    split
    · subst t; simp [h.refcount_eq _ ht0 ht]
    · rename_i hts; simp [h.refcount_eq _ ht0 ht, Ne.symm hts]
  · simp only [vtestRefSync, SyncPool.set_freeSyncs, SyncPool.set_nextSyncId, h.mem_free,
      refCount_cons]
    by_cases hts : s = t
    · subst t; simp; omega
    · simp [hts]
  · intro e he
    rcases List.mem_cons.mp he with rfl | he
    · exact h.allocated _ hm
    · exact h.allocated e he
  · intro e he e' he' hee
    rcases List.mem_cons.mp he with rfl | he <;> rcases List.mem_cons.mp he' with rfl | he'
    · rfl
    · exact h.owner _ hm _ he' hee
    · exact h.owner _ he _ hm hee
    · exact h.owner _ he _ he' hee

/-- A first reference to a sync nobody references keeps one holder per sync. -/
theorem owner_cons_fresh {c t : ℕ} (hown : ∀ e ∈ R, ∀ e' ∈ R, e.2 = e'.2 → e.1 = e'.1)
    (hz : refCount R t = 0) : ∀ e ∈ (c, t) :: R, ∀ e' ∈ (c, t) :: R, e.2 = e'.2 → e.1 = e'.1 := by
  intro e he e' he' hee
  rcases List.mem_cons.mp he with rfl | he <;> rcases List.mem_cons.mp he' with rfl | he'
  · rfl
  · exact absurd hee.symm (refCount_eq_zero.mp hz _ he')
  · exact absurd hee (refCount_eq_zero.mp hz _ he)
  · exact hown _ he _ he' hee

/-- The record a new sync gets counts the one reference it is handed out with. -/
theorem refcount_set_fresh {c t v u : ℕ} (hz : refCount R t = 0)
    (hu : u ≠ t → (p.syncs u).refcount = refCount R u) :
    ((p.set t ⟨1, v⟩).syncs u).refcount = refCount ((c, t) :: R) u := by
  rw [SyncPool.set_syncs, refCount_cons]
  split
  · subst u; simp [hz]
  · rename_i hut; simp [hu hut, Ne.symm hut]

/-- A new sync is referenced by nobody else: its first reference may go to any holder. -/
theorem SyncLedger.new {c v s : ℕ} {ok : Bool} {p' : SyncPool} (h : SyncLedger p R)
    (hn : vtestNewSync p v ok = some (p', s)) : SyncLedger p' ((c, s) :: R) := by
  unfold vtestNewSync at hn
  split at hn
  · rename_i t rest hfl
    obtain ⟨rfl, rfl⟩ := Option.some.inj hn |> Prod.mk.inj
    have ht : t ∈ p.freeSyncs := by simp [hfl]
    obtain ⟨h0, hlt, hz⟩ := (h.mem_free t).mp ht
    have hnd := h.free_nodup
    rw [hfl, List.nodup_cons] at hnd
    refine ⟨fun u hu0 hu => ?_, fun u => ?_, hnd.2, fun e he => ?_, owner_cons_fresh h.owner hz,
      h.no_assert, h.next_pos⟩
    · exact refcount_set_fresh hz fun _ => h.refcount_eq u hu0 hu
    · have := h.mem_free u
      rw [hfl] at this
      by_cases hut : u = t
      · subst u; simp [hnd.1]
      · simpa [hut, Ne.symm hut] using this
    · rcases List.mem_cons.mp he with rfl | he
      · exact ⟨h0, hlt⟩
      · exact h.allocated e he
  · split at hn
    · obtain ⟨rfl, rfl⟩ := Option.some.inj hn |> Prod.mk.inj
      have hz : refCount R p.nextSyncId = 0 :=
        refCount_eq_zero.mpr fun e he het => by have := (h.allocated e he).2; omega
      have h0 := h.next_pos
      refine ⟨fun u hu0 hu => ?_, fun u => ?_, h.free_nodup, fun e he => ?_,
        owner_cons_fresh h.owner hz, h.no_assert, Nat.succ_pos _⟩ <;> dsimp only at *
      · exact refcount_set_fresh hz fun hut => h.refcount_eq u hu0 (by omega)
      · simp only [SyncPool.set_freeSyncs, h.mem_free, refCount_cons]
        by_cases hut : u = p.nextSyncId
        · subst u; simp
        · have : u < p.nextSyncId + 1 ↔ u < p.nextSyncId := by omega
          simp [this, Ne.symm hut]
      · rcases List.mem_cons.mp he with rfl | he
        · constructor <;> omega
        · have := h.allocated e he; constructor <;> omega
    · cases hn

/-- `vtest_new_sync` hands out a record nobody references. -/
theorem SyncLedger.new_fresh {v s : ℕ} {ok : Bool} {p' : SyncPool} (h : SyncLedger p R)
    (hn : vtestNewSync p v ok = some (p', s)) : refCount R s = 0 := by
  unfold vtestNewSync at hn
  split at hn
  · rename_i t rest hfl
    obtain ⟨-, rfl⟩ := Option.some.inj hn |> Prod.mk.inj
    exact ((h.mem_free t).mp (by simp [hfl])).2.2
  · split at hn
    · obtain ⟨-, rfl⟩ := Option.some.inj hn |> Prod.mk.inj
      exact refCount_eq_zero.mpr fun e he het => by have := (h.allocated e he).2; omega
    · cases hn

/-- Values do not enter the ledger. -/
theorem SyncLedger.setValue {s v : ℕ} (h : SyncLedger p R) : SyncLedger (p.setValue s v) R where
  refcount_eq t ht0 ht := by
    simp only [SyncPool.setValue, SyncPool.set_syncs, SyncPool.set_nextSyncId] at ht ⊢
    split
    · subst t; exact h.refcount_eq _ ht0 ht
    · exact h.refcount_eq _ ht0 ht
  mem_free := h.mem_free
  free_nodup := h.free_nodup
  allocated := h.allocated
  owner := h.owner
  no_assert := h.no_assert
  next_pos := h.next_pos

end Vtest

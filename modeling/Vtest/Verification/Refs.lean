import Vtest.Verification.Ledger
import Vtest.Model.Context

/-! # Where the references live

A context references a sync from an entry of its sync table, from a slot of one of its
queued waits that is not yet signaled, and from a slot of one of its queued submits.
`VtestRenderer.syncRefs` lists these references over all active contexts, each tagged
with its context; the sync ledger of a reachable state is kept against this list. -/

namespace Vtest

/-- References held by context `c`. -/
def tagged (c : ℕ) (l : List ℕ) : List (ℕ × ℕ) := l.map (c, ·)

@[simp] theorem tagged_nil (c : ℕ) : tagged c [] = [] := rfl

@[simp] theorem tagged_cons (c s : ℕ) (l : List ℕ) : tagged c (s :: l) = (c, s) :: tagged c l :=
  rfl

@[simp] theorem tagged_append (c : ℕ) (l l' : List ℕ) :
    tagged c (l ++ l') = tagged c l ++ tagged c l' := List.map_append _ _ _

/-! ## The hash tables -/

@[simp] theorem tagged_snd (c : ℕ) (l : List ℕ) : (tagged c l).map Prod.snd = l := by
  simp [tagged, Function.comp_def]

theorem tableGet_cons (e : ℕ × ℕ) (t : List (ℕ × ℕ)) (k : ℕ) :
    tableGet (e :: t) k = if e.1 = k then some e.2 else tableGet t k := by
  obtain ⟨a, b⟩ := e
  by_cases h : a = k
  · subst h; simp [tableGet, List.lookup_cons]
  · have : (k == a) = false := by simpa using Ne.symm h
    simp [tableGet, List.lookup_cons, this, h]

theorem mem_of_tableGet {t : List (ℕ × ℕ)} {k v : ℕ} (h : tableGet t k = some v) : (k, v) ∈ t := by
  induction t with
  | nil => simp [tableGet] at h
  | cons e t ih =>
    rw [tableGet_cons] at h
    split at h
    · cases h; rename_i he; simp [← he]
    · exact List.mem_cons_of_mem _ (ih h)

theorem tableGet_eq_none {t : List (ℕ × ℕ)} {k : ℕ} (h : tableGet t k = none) :
    ∀ e ∈ t, e.1 ≠ k := by
  induction t with
  | nil => simp
  | cons e t ih =>
    rw [tableGet_cons] at h
    split at h
    · cases h
    · rename_i he
      intro e' he'
      rcases List.mem_cons.mp he' with rfl | he'
      · exact he
      · exact ih h e' he'

theorem tableGet_of_forall {t : List (ℕ × ℕ)} {k : ℕ} (h : ∀ e ∈ t, e.1 ≠ k) : tableGet t k = none := by
  induction t with
  | nil => rfl
  | cons e t ih =>
    rw [tableGet_cons, if_neg (h e (List.mem_cons_self _ _))]
    exact ih fun e' he' => h e' (List.mem_cons_of_mem _ he')

theorem filter_key_of_none {t : List (ℕ × ℕ)} {k : ℕ} (h : tableGet t k = none) :
    t.filter (fun e => e.1 != k) = t :=
  List.filter_eq_self.mpr fun e he => by simpa using tableGet_eq_none h e he

/-- Removing a present key from a table with distinct keys removes exactly its entry. -/
theorem table_remove_perm {t : List (ℕ × ℕ)} {k v : ℕ} (hnd : (t.map Prod.fst).Nodup)
    (h : tableGet t k = some v) :
    (t.map Prod.snd).Perm (v :: (t.filter fun e => e.1 != k).map Prod.snd) := by
  induction t with
  | nil => simp [tableGet] at h
  | cons e t ih =>
    rw [List.map_cons, List.nodup_cons] at hnd
    rw [tableGet_cons] at h
    split at h
    · rename_i he
      cases h
      have hrest : tableGet t k = none :=
        tableGet_of_forall fun e' he' hk => hnd.1 (he ▸ hk ▸ List.mem_map_of_mem _ he')
      simp [he, filter_key_of_none hrest]
    · rename_i he
      simp only [List.filter_cons, List.map_cons, bne_iff_ne, ne_eq, he, not_false_eq_true,
        decide_True, if_true]
      exact ((ih hnd.2 h).cons _).trans (List.Perm.swap _ _ _)

/-- The syncs a context references. -/
def VtestContext.syncRefs (x : VtestContext) : List ℕ :=
  x.syncTable.map Prod.snd ++ x.syncWaits.flatMap VtestSyncWait.refs ++
    x.queuedSubmits.flatMap VtestSyncQueueSubmit.refs

/-- The references held by the contexts `cs`. -/
def refsOf (f : ℕ → VtestContext) (cs : List ℕ) : List (ℕ × ℕ) :=
  cs.flatMap fun c => tagged c (f c).syncRefs

/-- The references held by the active contexts. -/
def VtestRenderer.syncRefs (st : VtestRenderer) : List (ℕ × ℕ) :=
  refsOf st.contexts st.activeContexts

theorem refsOf_congr {f g : ℕ → VtestContext} {cs : List ℕ}
    (h : ∀ d ∈ cs, (f d).syncRefs = (g d).syncRefs) : refsOf f cs = refsOf g cs :=
  List.flatMap_congr fun d hd => by rw [h d hd]

theorem refsOf_update_of_not_mem {f : ℕ → VtestContext} {c : ℕ} {cs : List ℕ} (x : VtestContext)
    (h : c ∉ cs) : refsOf (Function.update f c x) cs = refsOf f cs := by
  induction cs with
  | nil => rfl
  | cons d cs ih =>
    have hd : d ≠ c := fun e => h (e ▸ List.mem_cons_self _ _)
    simp only [refsOf, List.flatMap_cons, Function.update_noteq hd] at ih ⊢
    rw [ih fun hm => h (List.mem_cons_of_mem _ hm)]

theorem refsOf_perm {f : ℕ → VtestContext} {c : ℕ} {cs : List ℕ} (hc : c ∈ cs) (hnd : cs.Nodup) :
    (refsOf f cs).Perm (tagged c (f c).syncRefs ++ refsOf f (cs.erase c)) := by
  induction cs with
  | nil => cases hc
  | cons d cs ih =>
    rw [List.nodup_cons] at hnd
    by_cases hdc : d = c
    · subst d; simp [refsOf]
    · have hc' : c ∈ cs := (List.mem_cons.mp hc).resolve_left (Ne.symm hdc)
      have hbeq : ¬(d == c) = true := by simpa using hdc
      simp only [refsOf, List.flatMap_cons, List.erase_cons_tail hbeq] at ih ⊢
      exact ((ih hc' hnd.2).append_left _).trans (List.perm_append_comm_assoc _ _ _)

/-- Replacing one active context's record changes only that context's references. -/
theorem refsOf_update_perm {f : ℕ → VtestContext} {c : ℕ} {cs : List ℕ} (x : VtestContext)
    (hc : c ∈ cs) (hnd : cs.Nodup) :
    (refsOf (Function.update f c x) cs).Perm (tagged c x.syncRefs ++ refsOf f (cs.erase c)) := by
  have h := refsOf_perm (f := Function.update f c x) hc hnd
  rwa [Function.update_same, refsOf_update_of_not_mem x (hnd.not_mem_erase)] at h

theorem flatMap_perm_erase {α β : Type} [DecidableEq α] {f : α → List β} {a : α} {L : List α}
    (ha : a ∈ L) (hnd : L.Nodup) : (L.flatMap f).Perm (f a ++ (L.erase a).flatMap f) := by
  induction L with
  | nil => cases ha
  | cons b L ih =>
    rw [List.nodup_cons] at hnd
    by_cases hba : b = a
    · subst b; simp
    · have ha' : a ∈ L := (List.mem_cons.mp ha).resolve_left (Ne.symm hba)
      have hbeq : ¬(b == a) = true := by simpa using hba
      simp only [List.flatMap_cons, List.erase_cons_tail hbeq]
      exact ((ih ha' hnd.2).append_left _).trans (List.perm_append_comm_assoc _ _ _)

/-- Replacing queue `q`'s submits by `l` trades their references for those of `l`. -/
theorem queuedSubmits_update_perm {x y : VtestContext} {q : Fin 64} {l : List VtestSyncQueueSubmit}
    (hy : y.syncQueues = Function.update x.syncQueues q l) :
    (y.queuedSubmits.flatMap VtestSyncQueueSubmit.refs ++
        (x.syncQueues q).flatMap VtestSyncQueueSubmit.refs).Perm
      (x.queuedSubmits.flatMap VtestSyncQueueSubmit.refs ++ l.flatMap VtestSyncQueueSubmit.refs) := by
  have hnd := List.nodup_finRange 64
  have hq := List.mem_finRange q
  have hrest : ((List.finRange 64).erase q).flatMap (fun i => (y.syncQueues i).flatMap
      VtestSyncQueueSubmit.refs) = ((List.finRange 64).erase q).flatMap (fun i =>
        (x.syncQueues i).flatMap VtestSyncQueueSubmit.refs) :=
    List.flatMap_congr fun i hi => by
      rw [hy, Function.update_noteq (ne_of_mem_of_not_mem hi hnd.not_mem_erase)]
  simp only [VtestContext.queuedSubmits, List.flatMap_assoc]
  refine ((flatMap_perm_erase hq hnd).append_right _).trans
    (List.Perm.trans ?_ ((flatMap_perm_erase hq hnd).append_right _).symm)
  rw [hrest, hy, Function.update_same]
  exact List.perm_iff_count.mpr fun a => by simp only [List.count_append]; omega

/-- Popping the head of queue `q` moves its submit's references out of the queues. -/
theorem queuedSubmits_pop_perm (x : VtestContext) {q : Fin 64} {submit : VtestSyncQueueSubmit}
    {rest : List VtestSyncQueueSubmit} (h : x.syncQueues q = submit :: rest) :
    (x.queuedSubmits.flatMap VtestSyncQueueSubmit.refs).Perm (submit.refs ++
      ({ x with syncQueues := Function.update x.syncQueues q rest }.queuedSubmits.flatMap
        VtestSyncQueueSubmit.refs)) := by
  have hu := queuedSubmits_update_perm (y := { x with syncQueues := Function.update x.syncQueues q rest }) rfl
  rw [h, List.flatMap_cons] at hu
  exact List.perm_iff_count.mpr fun a => by
    have := hu.count_eq a
    simp only [List.count_append] at this ⊢
    omega

/-- Appending a submit to queue `q` adds its references. -/
theorem queuedSubmits_push_perm {x y : VtestContext} {q : Fin 64} {submit : VtestSyncQueueSubmit}
    (hy : y.syncQueues = Function.update x.syncQueues q (x.syncQueues q ++ [submit])) :
    (y.queuedSubmits.flatMap VtestSyncQueueSubmit.refs).Perm
      (x.queuedSubmits.flatMap VtestSyncQueueSubmit.refs ++ submit.refs) := by
  have hu := queuedSubmits_update_perm hy
  rw [List.flatMap_append, List.flatMap_singleton] at hu
  exact List.perm_iff_count.mpr fun a => by
    have := hu.count_eq a
    simp only [List.count_append] at this ⊢
    omega

/-- A local transformation of one holder's references, valid next to any other
references, is valid inside any list. -/
theorem SyncLedger.frame {p p' : SyncPool} {A B Z₁ Z₂ : List (ℕ × ℕ)}
    (hAB : ∀ Y, SyncLedger p (A ++ Y) → SyncLedger p' (B ++ Y)) (h : SyncLedger p (Z₁ ++ A ++ Z₂)) :
    SyncLedger p' (Z₁ ++ B ++ Z₂) := by
  have h1 := hAB (Z₁ ++ Z₂) (h.perm (by
    rw [List.append_assoc]; exact List.perm_append_comm_assoc _ _ _))
  exact h1.perm (by rw [List.append_assoc]; exact List.perm_append_comm_assoc _ _ _)

end Vtest

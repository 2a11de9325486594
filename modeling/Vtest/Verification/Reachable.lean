import Vtest.Verification.ContextInv
import Vtest.Model.Step

/-! # The sync invariant holds in every reachable state

The initial renderer satisfies `SyncInv`, and every step keeps it: the commands by the
lemmas of the previous modules, a context-fence callback because it names a pending
fence, and the steps outside the sync subsystem because they are frames. -/

namespace Vtest

variable {st : VtestRenderer} {c : ℕ}

theorem SyncInv.init (multiClients : Bool) : SyncInv (VtestRenderer.init multiClients) where
  ledger :=
    { refcount_eq := fun s h0 hs => by simp only [VtestRenderer.init] at hs; omega
      mem_free := fun s => by simp only [VtestRenderer.init, List.not_mem_nil, false_iff]; omega
      free_nodup := List.nodup_nil
      allocated := fun _ he => by cases he
      owner := fun _ he => by cases he
      no_assert := rfl
      next_pos := Nat.one_pos }
  active_nodup := List.nodup_nil
  free_nodup := List.nodup_nil
  active_free _ hd := by cases hd
  bound _ hd := by rcases hd with hd | hd <;> cases hd
  free_empty _ hd := by cases hd
  keys _ hd := by cases hd
  keys_nodup _ hd := by cases hd
  fences _ hf := by cases hf

/-- A client command on an active context keeps the invariant. -/
theorem SyncInv.runCommand (h : SyncInv st) (hc : c ∈ st.activeContexts) (now : ℕ)
    (cmd : Command) : SyncInv (runCommand now st c cmd) := by
  cases cmd with
  | syncCreate lo hi mallocOk writeOk => exact h.syncCreate hc lo hi mallocOk writeOk
  | syncUnref syncId => exact h.syncUnref hc syncId
  | syncWrite syncId lo hi => exact h.syncWrite now syncId lo hi
  | syncWait lengthDw buf io => exact h.syncWait hc now lengthDw buf io
  | submitCmd2 lengthDw buf io => exact h.submitCmd2 hc now lengthDw buf io
  | submitCmd lengthDw mallocOk input r => exact h.of_syncFrame hc (.submitCmd st lengthDw mallocOk input r)
  | resourceCreate handle shmSize io =>
    exact h.of_syncFrame hc (.createResourceInternal st handle shmSize io)
  | resourceCreateBlob size io => exact h.of_syncFrame hc (.resourceCreateBlob st size io)
  | resourceUnref handle => exact h.of_syncFrame hc (.resourceUnref st handle)
  | protocolVersion v server readOk shmOk writeOk =>
    exact h.of_syncFrame hc (.protocolVersion st v server readOk shmOk writeOk)
  | contextInit capsetId r => exact h.of_syncFrame hc (.contextInit st capsetId r)
  | lazyInitContext r => exact h.of_syncFrame hc (.lazyInitContext st r)

/-- Every step keeps the invariant. -/
theorem SyncInv.step (h : SyncInv st) (e : Event) : SyncInv (step st e) := by
  cases e with
  | createContext length mallocOk callocOk readOk => exact h.createContext length mallocOk callocOk readOk
  | command c cmd now =>
    simp only [Vtest.step]
    split
    · rename_i hc
      have h1 : SyncInv { st with currentContext := some c } :=
        h.of_syncFrame hc ⟨rfl, fun _ => rfl, fun _ _ => rfl⟩
      exact h1.runCommand hc now cmd
    · exact h
  | contextFence cookie now =>
    simp only [Vtest.step]
    split
    · rename_i f hf
      obtain rfl : f.cookie = cookie := by simpa using List.find?_some hf
      exact h.contextFence (List.mem_of_find?_eq_some hf) now
    · exact h
  | implicitFence fenceId =>
    simp only [Vtest.step]
    split
    · exact { h with }
    · exact h
  | destroyContext c =>
    simp only [Vtest.step]
    split
    · rename_i hc
      exact h.destroyContext hc
    · exact h
  | setMaxLength length => exact { h with }

/-- Every reachable state satisfies the invariant. -/
theorem Reachable.syncInv (h : Reachable st) : SyncInv st := by
  induction h with
  | init multiClients => exact SyncInv.init multiClients
  | step e _ ih => exact ih.step e

end Vtest

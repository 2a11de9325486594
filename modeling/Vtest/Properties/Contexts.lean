import Vtest.Verification.Reachable

/-! # Recycled context records

A destroyed context, or one whose creation failed, goes back to `free_contexts` with
no resource, sync, submit or wait left in it, so the next client to receive the record
sees none of the previous one's state. -/

namespace Vtest

variable {st : VtestRenderer}

/-- Every record a client can next receive is empty and reset. -/
structure ContextsReusable (st : VtestRenderer) : Prop where
  free_empty : ∀ c ∈ st.freeContexts, (st.contexts c).IsEmpty
  new_record : ∀ ok st1 c, vtestNewContext st ok = some (st1, c) →
    (st1.contexts c).IsEmpty ∧ (st1.contexts c).protocolVersion = 0 ∧
      (st1.contexts c).capsetId = 0 ∧ (st1.contexts c).contextInitialized = false

theorem free_context_records_empty (h : Reachable st) : ContextsReusable st :=
  ⟨h.syncInv.free_empty, fun _ _ _ he => h.syncInv.newContext_record he⟩

/-- A context created and destroyed again. -/
theorem free_context_records_empty_recycled :
    ContextsReusable (run (.init false) [.createContext 0 true true true, .destroyContext 1]) :=
  free_context_records_empty (reachable_run false _)

end Vtest

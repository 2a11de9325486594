import Vtest.Verification.Protocol

/-! # Protocol negotiation and the renderer context

In multi-client mode every active context speaks protocol version 0 or a version of at
least 3, and has a renderer context only at version 3 or later. Once a context has its
renderer context, it keeps it, and keeps the capset it was made with, through every run
of the server until its client disconnects. -/

namespace Vtest

variable {st : VtestRenderer} {c : ℕ}

/-- From any reachable state of a multi-client server, every active context has
negotiated version 0 or a version of at least 3, and has a renderer context only at
version 3 or later. -/
theorem multi_client_contexts_negotiated (h : Reachable st) (hm : st.multiClients = true)
    (hc : c ∈ st.activeContexts) :
    ((st.contexts c).protocolVersion = 0 ∨ 3 ≤ (st.contexts c).protocolVersion) ∧
      ((st.contexts c).contextInitialized = true → 3 ≤ (st.contexts c).protocolVersion) :=
  let ok := h.protocolInv hm c hc
  ⟨ok.version, ok.initialized⟩

/-- A multi-client server: a client asks for version 1 and is refused, negotiates
version 3, then creates its renderer context with capset 5. -/
def negotiatedRun : List Event :=
  [.createContext 0 true true true,
    .command 1 (.protocolVersion 1 3 true true true) 0,
    .command 1 (.protocolVersion 3 3 true true true) 0,
    .command 1 (.contextInit 5 0) 0]

theorem multi_client_contexts_negotiated_negotiated :
    (run (.init true) negotiatedRun).multiClients = true ∧
      1 ∈ (run (.init true) negotiatedRun).activeContexts ∧
      ((((run (.init true) negotiatedRun).contexts 1).protocolVersion = 0 ∨
          3 ≤ ((run (.init true) negotiatedRun).contexts 1).protocolVersion) ∧
        (((run (.init true) negotiatedRun).contexts 1).contextInitialized = true →
          3 ≤ ((run (.init true) negotiatedRun).contexts 1).protocolVersion)) :=
  ⟨rfl, by decide,
    multi_client_contexts_negotiated (reachable_run true _) rfl (by decide)⟩

/-- From any reachable state, a context that has its renderer context stays active,
keeps that renderer context and keeps its capset through every run in which its client
does not disconnect: `vtest_context_init` and the lazy init return before writing, and
no other step writes either field of an active context. -/
theorem renderer_context_keeps_capset (h : Reachable st) (hc : c ∈ st.activeContexts)
    (hi : (st.contexts c).contextInitialized = true) {es : List Event}
    (hd : ∀ e ∈ es, e ≠ .destroyContext c) :
    c ∈ (run st es).activeContexts ∧ ((run st es).contexts c).contextInitialized = true ∧
      ((run st es).contexts c).capsetId = (st.contexts c).capsetId :=
  let b := CapsetBound.run ⟨hc, hi, rfl⟩ h hd
  ⟨b.active, b.initialized, b.capset⟩

/-- After `negotiatedRun`, the client asks for capset 7 and renegotiates, a second client
connects and leaves, and context 1 keeps capset 5. -/
def rebindRun : List Event :=
  [.command 1 (.contextInit 7 0) 0, .command 1 (.protocolVersion 4 4 true true true) 0,
    .command 1 (.lazyInitContext 0) 0, .createContext 0 true true true, .destroyContext 2]

theorem renderer_context_keeps_capset_rebind :
    1 ∈ (run (.init true) negotiatedRun).activeContexts ∧
      ((run (.init true) negotiatedRun).contexts 1).contextInitialized = true ∧
      (∀ e ∈ rebindRun, e ≠ .destroyContext 1) ∧
      (1 ∈ (run (run (.init true) negotiatedRun) rebindRun).activeContexts ∧
        ((run (run (.init true) negotiatedRun) rebindRun).contexts 1).contextInitialized = true ∧
        ((run (run (.init true) negotiatedRun) rebindRun).contexts 1).capsetId =
          ((run (.init true) negotiatedRun).contexts 1).capsetId) :=
  have hd : ∀ e ∈ rebindRun, e ≠ .destroyContext 1 := by simp [rebindRun]
  ⟨by decide, by decide, hd,
    renderer_context_keeps_capset (reachable_run true _) (by decide) (by decide) hd⟩

end Vtest

import Vtest.Model.Words
import Mathlib.Logic.Function.Basic

/-! # The renderer's records

The structs of `vtest_renderer.c`, with pointers replaced by the identities the
records keep for their whole life: a sync by its `sync_id`, a resource by its
`server_res_id`, a context by its `ctx_id`, a queued submit by its address (its
fence cookie). Records are never handed back to `free`: the free lists keep them,
so these identities are stable. Fields named *ghost* are kept by the model only, to
state what the C structs cannot remember. -/

namespace Vtest

/-- `struct vtest_sync`. -/
structure VtestSync where
  refcount : ℤ
  value : ℕ
deriving Repr, DecidableEq, Inhabited

/-- `struct vtest_sync_wait`. Slot `i` is `(syncs[i], values[i])` for `i < count`;
a signaled slot's sync is `none` (`NULL`). The request's resolved
`(sync, threshold)` pairs and its timeout are ghost. -/
structure VtestSyncWait where
  fd : ℕ
  flags : ℕ
  validBefore : ℕ
  slots : List (Option ℕ × ℕ)
  signaledCount : ℕ
  request : List (ℕ × ℕ)
  timeout : ℕ
deriving Repr, DecidableEq

/-- `wait->count`. -/
def VtestSyncWait.count (w : VtestSyncWait) : ℕ := w.slots.length

/-- `struct vtest_sync_queue_submit`: its address (the fence cookie), its queue as
`(ctx_id, index)`, and `(syncs[i], values[i])` for `i < count`. -/
structure VtestSyncQueueSubmit where
  cookie : ℕ
  syncQueue : ℕ × Fin 64
  slots : List (ℕ × ℕ)
deriving Repr, DecidableEq

/-- `struct vtest_resource`, keyed by its `server_res_id`; `iovLen` is the length of
the shared-memory mapping when `iov.iov_base` is set. -/
structure VtestResource where
  resId : ℕ
  iovLen : Option ℕ
deriving Repr, DecidableEq, Inhabited

/-- `struct vtest_context`. The two hash tables map a key to a record identity.
`appended` and `signaled` are ghost: per queue, the submits appended and the
`(sync, value)` pairs released since the record last became a fresh context. -/
structure VtestContext where
  protocolVersion : ℕ
  capsetId : ℕ
  contextInitialized : Bool
  resourceTable : List (ℕ × ℕ)
  syncTable : List (ℕ × ℕ)
  syncQueues : Fin 64 → List VtestSyncQueueSubmit
  syncWaits : List VtestSyncWait
  appended : Fin 64 → List VtestSyncQueueSubmit
  signaled : Fin 64 → List (ℕ × ℕ)

/-- A context with empty tables, queues and waits, as `vtest_new_context` builds one. -/
def VtestContext.empty : VtestContext where
  protocolVersion := 0
  capsetId := 0
  contextInitialized := false
  resourceTable := []
  syncTable := []
  syncQueues := fun _ => []
  syncWaits := []
  appended := fun _ => []
  signaled := fun _ => []

instance : Inhabited VtestContext := ⟨VtestContext.empty⟩

/-- The sync allocator: the records, `renderer.free_syncs`, `renderer.next_sync_id`,
and a ghost flag raised when `vtest_unref_sync`'s `assert(sync->refcount)` fails. -/
structure SyncPool where
  syncs : ℕ → VtestSync
  freeSyncs : List ℕ
  nextSyncId : ℕ
  assertFailed : Bool

/-- A context fence the rendering library holds: `context_create_fence(ctx_id, ..,
queue_id, cookie)`, not yet delivered to `vtest_write_context_fence`. -/
structure PendingFence where
  ctxId : ℕ
  queueId : ℕ
  cookie : ℕ
deriving Repr, DecidableEq

/-- A write of `write_ready` to a wait's fd, with the values the wait's request syncs
have at that moment (ghost). -/
structure Notification where
  wait : VtestSyncWait
  values : List ℕ
deriving Repr, DecidableEq

/-- A call vtest makes into the rendering library, as the renderer's log records it: a
resource creation (`virgl_renderer_resource_create` or
`virgl_renderer_resource_create_blob`) and `virgl_renderer_resource_unref` with the
`res_id` they name, `virgl_renderer_submit_cmd` with the context and the word range of
the commands, `virgl_renderer_context_create_fence` with the fence it creates,
`virgl_renderer_create_fence` with the implicit fence's id, and the creation of a
context's renderer context with its capset. -/
inductive RendererCall where
  | resourceCreate (resId : ℕ)
  | resourceUnref (resId : ℕ)
  | submitCmd (ctxId : ℕ) (cmdOffset cmdSize : ℕ)
  | createFence (fence : PendingFence)
  | createImplicitFence (fenceId : ℕ)
  | contextCreate (ctxId capsetId : ℕ)
deriving Repr, DecidableEq

/-- `struct vtest_renderer`, the records it reaches, and what vtest observes of the
rendering library: the pending context fences, the `sync_queue` field stored at each
submit address (still readable after `free`), and the calls made to it. -/
structure VtestRenderer where
  multiClients : Bool
  maxLength : ℕ
  implicitFenceSubmitted : ℕ
  implicitFenceCompleted : ℕ
  activeContexts : List ℕ
  freeContexts : List ℕ
  nextContextId : ℕ
  contexts : ℕ → VtestContext
  freeResources : List ℕ
  nextResourceId : ℕ
  resources : ℕ → VtestResource
  pool : SyncPool
  currentContext : Option ℕ
  fences : List PendingFence
  submitMemory : ℕ → ℕ × Fin 64
  nextCookie : ℕ
  nextFd : ℕ
  notified : List Notification
  rendererLog : List RendererCall

/-- The renderer after `vtest_init_renderer`: empty lists, every id counter at 1. -/
def VtestRenderer.init (multiClients : Bool) : VtestRenderer where
  multiClients := multiClients
  maxLength := uintMax
  implicitFenceSubmitted := 0
  implicitFenceCompleted := 0
  activeContexts := []
  freeContexts := []
  nextContextId := 1
  contexts := fun _ => VtestContext.empty
  freeResources := []
  nextResourceId := 1
  resources := fun _ => default
  pool := ⟨fun _ => default, [], 1, false⟩
  currentContext := none
  fences := []
  submitMemory := fun _ => (0, 0)
  nextCookie := 1
  nextFd := 0
  notified := []
  rendererLog := []

/-- Replace the record of context `c`. -/
def VtestRenderer.modifyContext (st : VtestRenderer) (c : ℕ)
    (f : VtestContext → VtestContext) : VtestRenderer :=
  { st with contexts := Function.update st.contexts c (f (st.contexts c)) }

@[simp] theorem modifyContext_contexts (st : VtestRenderer) (c d : ℕ)
    (f : VtestContext → VtestContext) :
    (st.modifyContext c f).contexts d = if d = c then f (st.contexts c) else st.contexts d := by
  simp only [VtestRenderer.modifyContext, Function.update_apply]

@[simp] theorem modifyContext_pool (st : VtestRenderer) (c : ℕ) (f : VtestContext → VtestContext) :
    (st.modifyContext c f).pool = st.pool := rfl

@[simp] theorem modifyContext_activeContexts (st : VtestRenderer) (c : ℕ)
    (f : VtestContext → VtestContext) :
    (st.modifyContext c f).activeContexts = st.activeContexts := rfl

@[simp] theorem modifyContext_notified (st : VtestRenderer) (c : ℕ)
    (f : VtestContext → VtestContext) :
    (st.modifyContext c f).notified = st.notified := rfl

@[simp] theorem modifyContext_fences (st : VtestRenderer) (c : ℕ)
    (f : VtestContext → VtestContext) :
    (st.modifyContext c f).fences = st.fences := rfl

@[simp] theorem modifyContext_submitMemory (st : VtestRenderer) (c : ℕ)
    (f : VtestContext → VtestContext) :
    (st.modifyContext c f).submitMemory = st.submitMemory := rfl

@[simp] theorem modifyContext_nextCookie (st : VtestRenderer) (c : ℕ)
    (f : VtestContext → VtestContext) :
    (st.modifyContext c f).nextCookie = st.nextCookie := rfl

end Vtest

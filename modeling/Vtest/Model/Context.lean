import Vtest.Model.Pool
import Mathlib.Data.List.FinRange

/-! # Contexts and resources

The lifecycle of a client's context (`vtest_new_context`, `vtest_create_context`,
`vtest_destroy_context`) and the resource registry (`vtest_new_resource`,
`vtest_unref_resource` and the three create commands). -/

namespace Vtest

/-! ## Resources -/

/-- `vtest_new_resource`: the record at the head of `free_resources`, or a fresh one
numbered `next_resource_id++`; its `res_id` is the client's handle when that is not
zero, its `server_res_id` otherwise. `none` when that `malloc` fails. -/
def vtestNewResource (st : VtestRenderer) (clientResId : ℕ) (mallocOk : Bool) :
    Option (VtestRenderer × ℕ) :=
  let fresh := fun r : ℕ => (⟨if clientResId ≠ 0 then clientResId else r, none⟩ : VtestResource)
  match st.freeResources with
  | r :: rest =>
    some ({ st with freeResources := rest,
                    resources := Function.update st.resources r (fresh r) }, r)
  | [] =>
    if mallocOk then
      some ({ st with nextResourceId := st.nextResourceId + 1,
                      resources := Function.update st.resources st.nextResourceId
                        (fresh st.nextResourceId) }, st.nextResourceId)
    else none

/-- `vtest_unref_resource`: the renderer drops `res_id`, the mapping goes, and the
record returns to `free_resources`. -/
def vtestUnrefResource (st : VtestRenderer) (r : ℕ) : VtestRenderer :=
  { st with rendererLog := st.rendererLog ++ [RendererCall.resourceUnref (st.resources r).resId],
            freeResources := r :: st.freeResources }

/-- `resource_destroy_func`, applied to the record a table operation removed. -/
def destroyResource (st : VtestRenderer) : Option ℕ → VtestRenderer
  | some r => vtestUnrefResource st r
  | none => st

/-- `util_hash_table_set(ctx->resource_table, res_id, res)` in context `c`. -/
def vtestResourceTableSet (st : VtestRenderer) (c r : ℕ) : VtestRenderer :=
  let t := tableSet (st.contexts c).resourceTable (st.resources r).resId r
  destroyResource (st.modifyContext c fun x => { x with resourceTable := t.2 }) t.1

/-- The answers the environment gives a `RESOURCE_CREATE`/`RESOURCE_CREATE2`: the
record's `malloc`, `virgl_renderer_resource_create`, the reply's write, the shared
memory's creation and mapping, and the fd transfer. -/
structure ResourceCreateIo where
  mallocOk : Bool
  createResult : ℤ
  writeOk : Bool
  shmOk : Bool
  sendOk : Bool

/-- `vtest_create_resource_internal` for `RESOURCE_CREATE` (`shmSize = 0`) and
`RESOURCE_CREATE2`. -/
def vtestCreateResourceInternal (st : VtestRenderer) (c handle shmSize : ℕ)
    (io : ResourceCreateIo) : VtestRenderer × ℤ :=
  let x := st.contexts c
  if 3 ≤ x.protocolVersion ∧ handle ≠ 0 then (st, -einval)
  else if x.protocolVersion < 3 ∧ (tableGet x.resourceTable handle).isSome then (st, -eexist)
  else
    match vtestNewResource st handle io.mallocOk with
    | none => (st, -enomem)
    | some (st1, r) =>
      let st2 := { st1 with rendererLog :=
        st1.rendererLog ++ [RendererCall.resourceCreate (st1.resources r).resId] }
      if io.createResult ≠ 0 then (vtestUnrefResource st2 r, io.createResult)
      else if 3 ≤ x.protocolVersion ∧ !io.writeOk then (vtestUnrefResource st2 r, -eio)
      else if shmSize ≠ 0 ∧ !io.shmOk then (vtestUnrefResource st2 r, -enomem)
      else
        let st3 := if shmSize ≠ 0 then
          let mapped : VtestResource := { st2.resources r with iovLen := some shmSize }
          { st2 with resources := Function.update st2.resources r mapped } else st2
        if shmSize ≠ 0 ∧ !io.sendOk then (vtestUnrefResource st3 r, -einval)
        else (vtestResourceTableSet st3 c r, 0)

/-- How `vtest_resource_create_blob` treats the blob's `blob_mem`: backed by new shared
memory (`GUEST`, `HOST3D_GUEST`), exported by the renderer (`HOST3D`), or rejected. -/
inductive BlobMem where
  | shm
  | host3d
  | invalid
deriving Repr, DecidableEq

/-- The answers the environment gives a `RESOURCE_CREATE_BLOB`. -/
structure BlobCreateIo where
  mallocOk : Bool
  blobMem : BlobMem
  shmOk : Bool
  createResult : ℤ
  exportResult : ℤ
  exportTypeOk : Bool
  writeOk : Bool
  sendOk : Bool

/-- `vtest_resource_create_blob`: the record always takes its `server_res_id`. -/
def vtestResourceCreateBlob (st : VtestRenderer) (c : ℕ) (size : ℕ) (io : BlobCreateIo) :
    VtestRenderer × ℤ :=
  match vtestNewResource st 0 io.mallocOk with
  | none => (st, -enomem)
  | some (st1, r) =>
    match io.blobMem with
    | .invalid => (vtestUnrefResource st1 r, -einval)
    | mem =>
      if mem = .shm ∧ !io.shmOk then (vtestUnrefResource st1 r, -enomem)
      else
        let st2 := if mem = .shm then
          let mapped : VtestResource := { st1.resources r with iovLen := some size }
          { st1 with resources := Function.update st1.resources r mapped } else st1
        let st3 := { st2 with rendererLog :=
          st2.rendererLog ++ [RendererCall.resourceCreate (st2.resources r).resId] }
        if io.createResult ≠ 0 then (vtestUnrefResource st3 r, io.createResult)
        else if mem = .host3d ∧ io.exportResult ≠ 0 then (vtestUnrefResource st3 r, io.exportResult)
        else if mem = .host3d ∧ !io.exportTypeOk then (vtestUnrefResource st3 r, -einval)
        else if !io.writeOk then (vtestUnrefResource st3 r, -eio)
        else if !io.sendOk then (vtestUnrefResource st3 r, -einval)
        else (vtestResourceTableSet st3 c r, 0)

/-- `vtest_resource_unref`. -/
def vtestResourceUnref (st : VtestRenderer) (c handle : ℕ) : VtestRenderer :=
  let t := tableRemove (st.contexts c).resourceTable (u32 handle)
  destroyResource (st.modifyContext c fun x => { x with resourceTable := t.2 }) t.1

/-! ## Contexts -/

/-- `vtest_new_context`: the record at the head of `free_contexts`, or a fresh one
with empty tables, queues and waits, numbered `next_context_id++`. Either way it
starts at protocol version 0, capset 0, not initialized. `none` when an allocation
fails. -/
def vtestNewContext (st : VtestRenderer) (mallocOk : Bool) : Option (VtestRenderer × ℕ) :=
  match st.freeContexts with
  | c :: rest =>
    some ({ st with freeContexts := rest }.modifyContext c fun x =>
      { x with protocolVersion := 0, capsetId := 0, contextInitialized := false }, c)
  | [] =>
    if mallocOk then
      some ({ st with nextContextId := st.nextContextId + 1,
                      contexts := Function.update st.contexts st.nextContextId
                        VtestContext.empty }, st.nextContextId)
    else none

/-- `vtest_create_context`: a name longer than 1 MiB is refused; a failed name read
returns the record to `free_contexts` (`vtest_free_context(ctx, false)`). -/
def vtestCreateContext (st : VtestRenderer) (length : ℕ) (mallocOk callocOk readOk : Bool) :
    VtestRenderer × ℤ :=
  if 1024 * 1024 < length then (st, -1)
  else
    match vtestNewContext st mallocOk with
    | none => (st, -1)
    | some (st1, c) =>
      if !callocOk ∨ !readOk then ({ st1 with freeContexts := c :: st1.freeContexts }, -1)
      else ({ st1 with activeContexts := st1.activeContexts ++ [c] }, 0)

/-- `vtest_lazy_init_context`: the renderer context is created once, and only at
protocol version 3 or later in multi-client mode. -/
def vtestLazyInitContext (st : VtestRenderer) (c : ℕ) (createResult : ℤ) : VtestRenderer × ℤ :=
  let x := st.contexts c
  if x.contextInitialized then (st, 0)
  else if st.multiClients ∧ x.protocolVersion < 3 then (st, -einval)
  else
    ({ st with rendererLog := st.rendererLog ++ [RendererCall.contextCreate c x.capsetId] }
      |>.modifyContext c fun y => { y with contextInitialized := decide (createResult = 0) },
      createResult)

/-- `vtest_protocol_version` with `VTEST_PROTOCOL_VERSION = serverVersion` (its header is
not among the sources) and `vtest_shm_check()`'s answer `shmOk`: the negotiated version
is the smaller one, with 1 and shm-less hosts falling back to 0. -/
def vtestProtocolVersion (st : VtestRenderer) (c version serverVersion : ℕ)
    (readOk shmOk writeOk : Bool) : VtestRenderer × ℤ × Option ℕ :=
  let v0 := min (u32 version) serverVersion
  let v1 := if v0 = 1 then 0 else v0
  let v := if shmOk then v1 else 0
  if !readOk then (st, -1, none)
  else if st.multiClients ∧ v < 3 then (st, -einval, none)
  else
    (st.modifyContext c fun x => { x with protocolVersion := v },
      if writeOk then 0 else -eio, if writeOk then some v else none)

/-- `vtest_context_init`: the capset is chosen once, before the renderer context exists. -/
def vtestContextInit (st : VtestRenderer) (c capsetId : ℕ) (createResult : ℤ) :
    VtestRenderer × ℤ :=
  let x := st.contexts c
  if u32 capsetId = 0 then (st, -einval)
  else if x.contextInitialized then (st, if x.capsetId = u32 capsetId then 0 else -einval)
  else vtestLazyInitContext (st.modifyContext c fun y => { y with capsetId := u32 capsetId }) c
    createResult

/-- Unreference the resources of a list of table entries, in order. -/
def vtestUnrefResources : VtestRenderer → List (ℕ × ℕ) → VtestRenderer
  | st, [] => st
  | st, e :: es => vtestUnrefResources (vtestUnrefResource st e.2) es

/-- The submits of every sync queue of a context, queue 0 first. -/
def VtestContext.queuedSubmits (x : VtestContext) : List VtestSyncQueueSubmit :=
  (List.finRange 64).flatMap x.syncQueues

/-- `vtest_destroy_context`: the queues' submits are freed without signaling, the
waits are freed, both tables are cleared, and the record goes back to
`free_contexts`. The rendering library drops the context's pending fences. -/
def vtestDestroyContext (st : VtestRenderer) (c : ℕ) : VtestRenderer :=
  let x := st.contexts c
  let p1 := x.queuedSubmits.foldl vtestFreeSyncQueueSubmit st.pool
  let p2 := x.syncWaits.foldl vtestFreeSyncWait p1
  let p3 := vtestUnrefSyncs p2 (x.syncTable.map Prod.snd)
  let st1 := vtestUnrefResources { st with pool := p3 } x.resourceTable
  { st1 with
    currentContext := if st.currentContext = some c then none else st.currentContext,
    activeContexts := st.activeContexts.erase c,
    freeContexts := c :: st.freeContexts,
    fences := st.fences.filter (·.ctxId != c) }.modifyContext c fun y =>
    { y with resourceTable := [], syncTable := [], syncQueues := fun _ => [], syncWaits := [],
             appended := fun _ => [], signaled := fun _ => [] }

end Vtest

import Vtest.Model.Submit
import Vtest.Model.Context

/-! # Runs of the server

One step is a client command on its context, a callback of the rendering library, a
context's creation or destruction, or a change of `max_length`. Each step carries the
answers of everything outside vtest: the rendering library, the allocator, the
client's socket and the monotonic clock. Callbacks are steps of their own, between
commands. -/

namespace Vtest

/-- A client command, with the request words it carries; a payload command carries the
bytes its buffer held before the read, and what the client sends for it. -/
inductive Command where
  | syncCreate (valueLo valueHi : ℕ) (mallocOk writeOk : Bool)
  | syncUnref (syncId : ℕ)
  | syncWrite (syncId valueLo valueHi : ℕ)
  | syncWait (lengthDw : ℕ) (heap : ℕ → ℕ) (io : SyncWaitIo)
  | submitCmd2 (lengthDw : ℕ) (heap : ℕ → ℕ) (io : SubmitCmd2Io)
  | submitCmd (lengthDw : ℕ) (mallocOk : Bool) (input : ClientInput) (submitResult : ℤ)
  | resourceCreate (handle shmSize : ℕ) (io : ResourceCreateIo)
  | resourceCreateBlob (size : ℕ) (io : BlobCreateIo)
  | resourceUnref (handle : ℕ)
  | protocolVersion (version serverVersion : ℕ) (readOk shmOk writeOk : Bool)
  | contextInit (capsetId : ℕ) (createResult : ℤ)
  | lazyInitContext (createResult : ℤ)

/-- Run a command on context `c` at time `now`; the handler's return value is dropped
(a failed command leaves the state as the handler left it). -/
def runCommand (now : ℕ) (st : VtestRenderer) (c : ℕ) : Command → VtestRenderer
  | .syncCreate lo hi mallocOk writeOk => (vtestSyncCreate st c lo hi mallocOk writeOk).1
  | .syncUnref id => (vtestSyncUnref st c id).1
  | .syncWrite id lo hi => (vtestSyncWrite now st c id lo hi).1
  | .syncWait lengthDw heap io => (vtestSyncWait now st c lengthDw heap io).1
  | .submitCmd2 lengthDw heap io => (vtestSubmitCmd2 now st c lengthDw heap io).1
  | .submitCmd lengthDw mallocOk input r => (vtestSubmitCmd st c lengthDw mallocOk input r).1
  | .resourceCreate handle shmSize io => (vtestCreateResourceInternal st c handle shmSize io).1
  | .resourceCreateBlob size io => (vtestResourceCreateBlob st c size io).1
  | .resourceUnref handle => vtestResourceUnref st c handle
  | .protocolVersion v server readOk shmOk writeOk =>
    (vtestProtocolVersion st c v server readOk shmOk writeOk).1
  | .contextInit capsetId r => (vtestContextInit st c capsetId r).1
  | .lazyInitContext r => (vtestLazyInitContext st c r).1

/-- A step of the server. -/
inductive Event where
  | createContext (length : ℕ) (mallocOk callocOk readOk : Bool)
  | command (c : ℕ) (cmd : Command) (now : ℕ)
  | contextFence (cookie : ℕ) (now : ℕ)
  | implicitFence (fenceId : ℕ)
  | destroyContext (c : ℕ)
  | setMaxLength (length : ℕ)

/-- The state after one step. A command runs with its context current, and only
while that context is active; the rendering library delivers only the fences it
holds, each once. -/
def step (st : VtestRenderer) : Event → VtestRenderer
  | .createContext length mallocOk callocOk readOk =>
    (vtestCreateContext st length mallocOk callocOk readOk).1
  | .command c cmd now =>
    if c ∈ st.activeContexts then runCommand now { st with currentContext := some c } c cmd
    else st
  | .contextFence cookie now =>
    match st.fences.find? (·.cookie = cookie) with
    | some f => vtestWriteContextFence now { st with fences := st.fences.erase f } cookie
    | none => st
  | .implicitFence fenceId =>
    if fenceId ≤ st.implicitFenceSubmitted then vtestWriteImplicitFence st fenceId else st
  | .destroyContext c => if c ∈ st.activeContexts then vtestDestroyContext st c else st
  | .setMaxLength length => { st with maxLength := u32 length }

/-- The states the server reaches from `vtest_init_renderer` through any steps. -/
inductive Reachable : VtestRenderer → Prop where
  | init (multiClients : Bool) : Reachable (VtestRenderer.init multiClients)
  | step {st : VtestRenderer} (e : Event) : Reachable st → Reachable (step st e)

/-- The state after a sequence of steps. -/
def run (st : VtestRenderer) (es : List Event) : VtestRenderer := es.foldl step st

theorem reachable_run (multiClients : Bool) (es : List Event) :
    Reachable (run (VtestRenderer.init multiClients) es) := by
  suffices ∀ st, Reachable st → Reachable (run st es) from this _ (.init multiClients)
  induction es with
  | nil => exact fun st h => h
  | cons e es ih => exact fun st h => ih _ (.step e h)

end Vtest

import Vtest.Model.Step

/-! # The legacy busy-wait

`RESOURCE_BUSY_WAIT` tells a client whether the last implicit fence (one per
`SUBMIT_CMD`) has completed; with `VCMD_BUSY_WAIT_FLAG_WAIT` it polls the rendering
library until it has. Each `virgl_renderer_poll` makes the fence callbacks of the
library, and each callback is a step of the server, so a busy wait is a run of fence
steps. The library's polls are the environment's choices: what each poll reports. -/

namespace Vtest

/-- A callback the rendering library makes from `virgl_renderer_poll`: an implicit fence
retired (`vtest_write_implicit_fence`) or a context fence retired at time `now`
(`vtest_write_context_fence`). -/
inductive FenceCallback where
  | implicit (fenceId : ℕ)
  | context (cookie now : ℕ)
deriving Repr, DecidableEq

/-- The server step a callback is. -/
def FenceCallback.toEvent : FenceCallback → Event
  | .implicit fenceId => .implicitFence fenceId
  | .context cookie now => .contextFence cookie now

/-- `virgl_renderer_poll` making the callbacks `p` in order; this is all of
`vtest_poll_resource_busy_wait`. -/
def vtestPoll (st : VtestRenderer) (p : List FenceCallback) : VtestRenderer :=
  run st (p.map FenceCallback.toEvent)

/-- The `do … while` loop of `vtest_resource_busy_wait`: `busy` is whether an implicit
fence is outstanding; the loop ends when none is, or at once without the wait flag
(`wait`), and otherwise polls. Its result is the state and the last `busy`, or `none`
while it still waits once the polls `polls` are used up. Waiting on the poll fd changes
no state. -/
def vtestBusyWaitLoop (wait : Bool) (st : VtestRenderer) (polls : List (List FenceCallback)) :
    Option (VtestRenderer × Bool) :=
  let busy := st.implicitFenceCompleted != st.implicitFenceSubmitted
  if !busy || !wait then some (st, busy)
  else
    match polls with
    | [] => none
    | p :: ps => vtestBusyWaitLoop wait (vtestPoll st p) ps

/-- `vtest_resource_busy_wait` on the current context `c`, once `bw_buf` is read
(`readOk`): its `handle`, and whether its flags have `VCMD_BUSY_WAIT_FLAG_WAIT`
(`wait`; the flag's value is not among the sources). Before the renderer context exists
only handle 0 is accepted, for the ping probe. The result is the state, the return
value and the reply's `busy` word when the reply was written (`writeOk`), or `none`
while the loop still waits. -/
def vtestResourceBusyWait (st : VtestRenderer) (c handle : ℕ) (wait readOk writeOk : Bool)
    (polls : List (List FenceCallback)) : Option (VtestRenderer × ℤ × Option ℕ) :=
  if !readOk then some (st, -1, none)
  else if !(st.contexts c).contextInitialized ∧ u32 handle ≠ 0 then some (st, -1, none)
  else
    (vtestBusyWaitLoop wait st polls).map fun r =>
      (r.1, if writeOk then 0 else -eio, if writeOk then some (if r.2 then 1 else 0) else none)

/-- `vtest_resource_busy_wait_nop`: the reply is always "not busy". -/
def vtestResourceBusyWaitNop (readOk writeOk : Bool) : ℤ × Option ℕ :=
  if !readOk then (-1, none)
  else if writeOk then (0, some 0) else (-eio, none)

end Vtest

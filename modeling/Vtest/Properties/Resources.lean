import Vtest.Properties.Payload
import Vtest.Model.Transfer

/-! # Resources and their transfers

Below protocol version 3 a client names its resources, and `vtest_new_resource` gives a
resource created with handle 0 (and every blob) its `server_res_id`. Nothing keeps the
two apart: a server id can equal a handle the client already uses.

A `TRANSFER_GET` sends its whole staging buffer to the client, and a `TRANSFER_PUT` hands
its whole staging buffer to the rendering library, whatever was written into it. A failed
read of the rendering library, or a client that sends fewer bytes than `data_size`,
leaves old heap contents in what goes out. -/

namespace Vtest

/-! ## Resource ids -/

/-- A `RESOURCE_CREATE` whose environment answers every call. -/
def okResourceCreateIo : ResourceCreateIo := ⟨true, 0, true, true, true⟩

/-- Context 1, at protocol version 0, creates a resource under the client handle 2. -/
def clientHandleRun : List Event :=
  [.createContext 0 true true true, .command 1 (.resourceCreate 2 0 okResourceCreateIo) 0]

/-- A `RESOURCE_CREATE` with handle 0 then gets record 2, whose `res_id` is the live key
2. When `virgl_renderer_resource_create` fails, the unref names id 2 while the table still
maps it; when it succeeds, the table entry is replaced and the replaced record goes back
to `free_resources` with an unref of id 2. -/
theorem server_id_collides_with_handle :
    ((run (.init false) clientHandleRun).contexts 1).resourceTable = [(2, 1)] ∧
    ((run (.init false) clientHandleRun).resources 1).resId = 2 ∧
    (vtestNewResource (run (.init false) clientHandleRun) 0 true).map
      (fun x => (x.1.resources x.2).resId) = some 2 ∧
    (step (run (.init false) clientHandleRun)
      (.command 1 (.resourceCreate 0 0 ⟨true, -einval, true, true, true⟩) 0)).rendererLog =
      [.resourceCreate 2, .resourceCreate 2, .resourceUnref 2] ∧
    ((step (run (.init false) clientHandleRun)
      (.command 1 (.resourceCreate 0 0 ⟨true, -einval, true, true, true⟩) 0)).contexts 1).resourceTable =
      [(2, 1)] ∧
    (step (run (.init false) clientHandleRun)
      (.command 1 (.resourceCreate 0 0 okResourceCreateIo) 0)).rendererLog =
      [.resourceCreate 2, .resourceCreate 2, .resourceUnref 2] ∧
    ((step (run (.init false) clientHandleRun)
      (.command 1 (.resourceCreate 0 0 okResourceCreateIo) 0)).contexts 1).resourceTable = [(2, 2)] ∧
    (step (run (.init false) clientHandleRun)
      (.command 1 (.resourceCreate 0 0 okResourceCreateIo) 0)).freeResources = [1] := by
  refine ⟨?_, ?_, ?_, ?_, ?_, ?_, ?_, ?_⟩ <;> decide

/-! ## Staging buffers of the transfers -/

/-- Context 1 holds resource 1. -/
def resourceRun : List Event :=
  [.createContext 0 true true true, .command 1 (.resourceCreate 1 0 okResourceCreateIo) 0]

/-- A transfer whose rendering library call fails and writes nothing. -/
def failedTransferIo : TransferIo := ⟨true, -einval, [], true⟩

/-- A transfer whose environment answers every call, the rendering library writing
nothing. -/
def okTransferIo : TransferIo := ⟨true, 0, [], true⟩

/-- A `TRANSFER_GET` of 4 bytes whose rendering library read fails replies 0 and sends
the staging buffer's old contents; a `TRANSFER_PUT` of 4 bytes whose client sends 2 and
closes hands the library the buffer's last 2 old bytes. -/
theorem transfer_sends_old_heap_bytes :
    vtestTransferGet (run (.init false) resourceRun) 1 1 4 true true (fun _ => 0) failedTransferIo =
      (0, [0, 0, 0, 0]) ∧
    vtestTransferGet (run (.init false) resourceRun) 1 1 4 true true (fun _ => 7) failedTransferIo =
      (0, [7, 7, 7, 7]) ∧
    vtestTransferPut (run (.init false) resourceRun) 1 1 4 true true (fun _ => 0) ⟨[1, 2], 0⟩
      okTransferIo = (0, some [1, 2, 0, 0]) ∧
    vtestTransferPut (run (.init false) resourceRun) 1 1 4 true true (fun _ => 7) ⟨[1, 2], 0⟩
      okTransferIo = (0, some [1, 2, 7, 7]) := by
  refine ⟨?_, ?_, ?_, ?_⟩ <;> decide

end Vtest

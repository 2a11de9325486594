import Vtest.Model.Pool

/-! # Transfers

`TRANSFER_GET` and `TRANSFER_PUT`, and their `_NOP` forms that skip the rendering
library, move `data_size` bytes through a staging buffer that `malloc` returns
uninitialised. The buffer is modelled byte by byte as its old contents, overwritten where
the client, the rendering library or `memset` writes. A transfer changes no state of the
renderer; each handler returns its reply and the bytes it hands on. -/

namespace Vtest

/-- What the environment answers during a transfer: the staging buffer's `malloc`, the
return value of `virgl_renderer_transfer_read_iov` or `virgl_renderer_transfer_write_iov`
and, for a read, the bytes it stores from the start of the buffer, and the write of the
data to the client. -/
structure TransferIo where
  mallocOk : Bool
  transferResult : ℤ
  transferBytes : List ℕ
  writeOk : Bool

/-- `vtest_transfer_get_internal` on context `c` with staging memory `buf`: the return
value and the bytes written to the client. Without `do_transfer` (`TRANSFER_GET_NOP`)
the buffer is zeroed; a failed `virgl_renderer_transfer_read_iov` is only logged, and
the buffer is sent all the same. `vtest_block_write` gets `iov_len` as the `int` `size`:
when that is negative, the kernel refuses the `size_t` count of its first `write` with
`EFAULT`, and nothing is sent. -/
def vtestTransferGetInternal (st : VtestRenderer) (c handle offset dataSize : ℕ) (size : ℤ)
    (doTransfer : Bool) (buf : ℕ → ℕ) (io : TransferIo) : ℤ × List ℕ :=
  match tableGet (st.contexts c).resourceTable handle with
  | none => (-esrch, [])
  | some r =>
    if dataSize = 0 then
      if ((st.resources r).iovLen.getD 0) ≤ offset then (-efault, [])
      else (if doTransfer then io.transferResult else 0, [])
    else if !io.mallocOk then (-enomem, [])
    else
      let data := if doTransfer then storeBytes buf io.transferBytes else fun _ => 0
      if size < 0 then (-efault, [])
      else (if io.writeOk then 0 else -eio, loadBytes data dataSize)

/-- `vtest_transfer_put_internal` on context `c` with staging memory `buf`, reading the
client's `input`: the return value and the bytes passed to
`virgl_renderer_transfer_write_iov`, `none` when it is not called. The read gets
`iov_len` as the `int` `size`. Without `do_transfer` (`TRANSFER_PUT_NOP`) the return value
is the read's. -/
def vtestTransferPutInternal (st : VtestRenderer) (c handle dataSize : ℕ) (size : ℤ)
    (doTransfer : Bool) (buf : ℕ → ℕ) (input : ClientInput) (io : TransferIo) :
    ℤ × Option (List ℕ) :=
  match tableGet (st.contexts c).resourceTable handle with
  | none => (-esrch, none)
  | some _ =>
    if dataSize ≠ 0 ∧ !io.mallocOk then (-enomem, none)
    else
      let rd := if dataSize = 0 then (buf, 0) else vtestBlockRead input buf size
      if rd.2 < 0 then (rd.2, none)
      else if doTransfer then (io.transferResult, some (loadBytes rd.1 dataSize))
      else (rd.2, none)

/-- `vtest_transfer_get` (`doTransfer`) and `vtest_transfer_get_nop` once the header is
read (`readOk`) and decoded: its handle and `data_size`; a v1 transfer has offset 0.
`vtest_transfer_decode_args` refuses a `data_size` above `max_length`, which is where
`vtestTransferIoSize` has no size; otherwise its size is the one the data is written
with. -/
def vtestTransferGet (st : VtestRenderer) (c handle dataSize : ℕ) (readOk doTransfer : Bool)
    (buf : ℕ → ℕ) (io : TransferIo) : ℤ × List ℕ :=
  if !readOk then (-1, [])
  else match vtestTransferIoSize st.maxLength dataSize with
    | none => (-enomem, [])
    | some size => vtestTransferGetInternal st c handle 0 dataSize size doTransfer buf io

/-- `vtest_transfer_put` (`doTransfer`) and `vtest_transfer_put_nop`, whose data is read
with the size `vtestTransferIoSize` gives. -/
def vtestTransferPut (st : VtestRenderer) (c handle dataSize : ℕ) (readOk doTransfer : Bool)
    (buf : ℕ → ℕ) (input : ClientInput) (io : TransferIo) : ℤ × Option (List ℕ) :=
  if !readOk then (-1, none)
  else match vtestTransferIoSize st.maxLength dataSize with
    | none => (-enomem, none)
    | some size => vtestTransferPutInternal st c handle dataSize size doTransfer buf input io

/-- `vtest_transfer_get2` (`doTransfer`) and `vtest_transfer_get2_nop` once the header is
read (`readOk`) and decoded by `vtest_transfer_decode_args2`: its handle and `offset`. The
renderer reads into the resource's own shared memory: `data_size` is 0, and nothing is
written. -/
def vtestTransferGet2 (st : VtestRenderer) (c handle offset : ℕ) (readOk doTransfer : Bool)
    (buf : ℕ → ℕ) (io : TransferIo) : ℤ × List ℕ :=
  if !readOk then (-1, []) else vtestTransferGetInternal st c handle offset 0 0 doTransfer buf io

/-- `vtest_transfer_put2` (`doTransfer`) and `vtest_transfer_put2_nop`: `data_size` is 0,
and nothing is read. -/
def vtestTransferPut2 (st : VtestRenderer) (c handle : ℕ) (readOk doTransfer : Bool)
    (buf : ℕ → ℕ) (input : ClientInput) (io : TransferIo) : ℤ × Option (List ℕ) :=
  if !readOk then (-1, none) else vtestTransferPutInternal st c handle 0 0 doTransfer buf input io

end Vtest

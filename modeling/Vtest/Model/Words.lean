import Mathlib.Data.Nat.Defs
import Mathlib.Order.Basic
import Mathlib.Algebra.Group.Nat.Basic
import Mathlib.Algebra.Group.Int

/-! # Machine words of the vtest wire protocol

Frames are little-endian 32-bit words. The renderer computes with `uint32_t`,
`uint64_t` and `int`; this module fixes their arithmetic once, so that every
handler wraps exactly where the C code does. -/

namespace Vtest

/-- A `uint32_t` result: arithmetic modulo `2^32`. -/
def u32 (n : ℕ) : ℕ := n % 2 ^ 32

/-- The conversion of a `uint32_t` to `int` (two's complement on the targets vtest
runs on). -/
def toInt32 (n : ℕ) : ℤ :=
  if u32 n < 2 ^ 31 then (u32 n : ℤ) else (u32 n : ℤ) - 2 ^ 32

/-- `UINT_MAX`, the default of `renderer.max_length`. -/
def uintMax : ℕ := 2 ^ 32 - 1

@[simp] theorem u32_lt (n : ℕ) : u32 n < 2 ^ 32 := Nat.mod_lt _ (Nat.two_pow_pos 32)

/-- `EIO`, standing for the `errno` of a failed write to the client. -/
def eio : ℤ := 5
/-- `ESRCH`. -/
def esrch : ℤ := 3
/-- `ENOMEM`. -/
def enomem : ℤ := 12
/-- `EFAULT`. -/
def efault : ℤ := 14
/-- `EEXIST`. -/
def eexist : ℤ := 17
/-- `ENODEV`. -/
def enodev : ℤ := 19
/-- `EINVAL`. -/
def einval : ℤ := 22

/-! ## The protocol layout

`vtest_protocol.h` is not part of the sources; the layout of a `SUBMIT_CMD2`
frame and the flag bits below are those of the specification's wire table. -/

/-- `VTEST_MAX_SYNC_QUEUE_COUNT`. -/
def vtestMaxSyncQueueCount : ℕ := 64

/-- Modelled from the spec: `VCMD_SUBMIT_CMD2_BATCH_COUNT`, the index of the batch
count ("batch_count, batches[…], cmds[…], syncs[…]"). -/
def vcmdSubmitCmd2BatchCount : ℕ := 0

/-- Modelled from the spec: the index of word `field` of batch `n`, after the batch
count ("{flags, cmd_offset_dw, cmd_size_dw, sync_offset_dw, sync_count,
sync_queue_index, queue_id_lo, queue_id_hi}"). -/
def vcmdSubmitCmd2BatchField (n field : ℕ) : ℕ := 1 + 8 * n + field

/-- Modelled from the spec: bit 0 of a batch's flags, `VCMD_SUBMIT_CMD2_FLAG_SYNC_QUEUE`. -/
def vcmdSubmitCmd2FlagSyncQueue : ℕ := 1

/-- Modelled from the spec: bit 0 of a wait's flags, `VCMD_SYNC_WAIT_FLAG_ANY`. -/
def vcmdSyncWaitFlagAny : ℕ := 1

/-- `flags & bit` for the one-bit masks of the protocol. -/
def hasFlag (flags bit : ℕ) : Bool := flags &&& bit != 0

/-- `vtest_sync_decode_id_and_value`: the sync id and the 64-bit value of entry
`index` of a `(sync_id, value_lo, value_hi)` array. `index * 3` is `uint32_t`
arithmetic; `value_lo | value_hi << 32` is a sum, the two halves being disjoint. -/
def vtestSyncDecodeIdAndValue (data : ℕ → ℕ) (index : ℕ) : ℕ × ℕ :=
  let base := u32 (index * 3)
  (u32 (data base), u32 (data (base + 1)) + u32 (data (base + 2)) * 2 ^ 32)

/-- The word indices, relative to `data`, that the decoding of entry `index` reads. -/
def vtestSyncDecodeIndices (index : ℕ) : List ℕ :=
  [u32 (index * 3), u32 (index * 3) + 1, u32 (index * 3) + 2]

/-- A decoded value is a `uint64_t`. -/
theorem decode_value_lt (data : ℕ → ℕ) (index : ℕ) :
    (vtestSyncDecodeIdAndValue data index).2 < 2 ^ 64 := by
  have hlo := u32_lt (data (u32 (index * 3) + 1))
  have hhi := u32_lt (data (u32 (index * 3) + 2))
  simp only [vtestSyncDecodeIdAndValue]
  omega

/-! ## The client's bytes

`ctx->input->read(ctx->input, buf, size)` fills a buffer from the client's socket, and
the payload handlers then read `uint32_t` words from that buffer, low byte first on the
hosts vtest runs on. -/

/-- What the client has sent when `ctx->input->read` runs: the bytes `read` returns
before it stops, and what `read` returns then, 0 at the end of the input or `-errno`. -/
structure ClientInput where
  bytes : List ℕ
  stop : ℤ

/-- `buf` with the bytes `l` stored from its start. -/
def storeBytes (buf : ℕ → ℕ) (l : List ℕ) : ℕ → ℕ := fun i => l.getD i (buf i)

/-- The first `n` bytes of `buf`. -/
def loadBytes (buf : ℕ → ℕ) (n : ℕ) : List ℕ := (List.range n).map buf

/-- `vtest_block_read(input, buf, size)`: the buffer after the read, and the return
value. A `size` that is negative as an `int` reaches `read` as a `size_t` count past
`SSIZE_MAX`, which the kernel refuses with `EFAULT` before storing a byte. Otherwise
`read` is called until `size` bytes have come or it returns no byte. -/
def vtestBlockRead (input : ClientInput) (buf : ℕ → ℕ) (size : ℤ) : (ℕ → ℕ) × ℤ :=
  if size < 0 then (buf, -efault)
  else if size ≤ input.bytes.length then (storeBytes buf (input.bytes.take size.toNat), size)
  else (storeBytes buf input.bytes, input.stop)

/-- The `uint32_t` at word `k` of the byte memory `mem`, low byte first. -/
def wordAt (mem : ℕ → ℕ) (k : ℕ) : ℕ :=
  mem (4 * k) + 2 ^ 8 * mem (4 * k + 1) + 2 ^ 16 * mem (4 * k + 2) + 2 ^ 24 * mem (4 * k + 3)

/-- The four bytes of a 32-bit word, low byte first. -/
def wordBytes (w : ℕ) : List ℕ := [w % 2 ^ 8, w / 2 ^ 8 % 2 ^ 8, w / 2 ^ 16 % 2 ^ 8, w / 2 ^ 24 % 2 ^ 8]

/-- The bytes of a `uint32_t` array. -/
def wordsBytes (ws : List ℕ) : List ℕ := ws.flatMap wordBytes

/-! ## Payload sizes

The handlers read their payloads with `ctx->input->read(ctx->input, buf, size)` and
write transfer data with `vtest_block_write(fd, buf, size)`, whose `size` is an `int`;
both loop on `int left = size` until it reaches 0. -/

/-- The `size` that `vtest_submit_cmd`, `vtest_sync_wait` and `vtest_submit_cmd2` pass
to `ctx->input->read` for a payload of `length_dw` words, once the check
`length_dw > renderer.max_length / 4` has passed: the `uint32_t` product
`length_dw * 4`, converted to `int`. -/
def vtestPayloadReadSize (maxLength lengthDw : ℕ) : Option ℤ :=
  if maxLength / 4 < lengthDw then none else some (toInt32 (u32 (lengthDw * 4)))

/-- The `size` that `vtest_transfer_put_internal` passes to `ctx->input->read`, and
`vtest_transfer_get_internal` to `vtest_block_write`, for a nonzero `data_size`, once
`vtest_transfer_decode_args` has checked `data_size > renderer.max_length`: the buffer's
`iov_len`, converted to `int`. -/
def vtestTransferIoSize (maxLength dataSize : ℕ) : Option ℤ :=
  if maxLength < u32 dataSize then none else some (toInt32 (u32 dataSize))

end Vtest

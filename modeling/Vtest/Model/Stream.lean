import Vtest.Model.Transfer

/-! # Socket reads and writes

`vtest_block_read` and `vtest_block_write` call `read` and `write` until `size` bytes
have moved, and the kernel may move fewer bytes per call than asked. The loops are
modelled call by call, with the kernel's choices as parameters: for a read, at most how
many of the bytes the client has sent each call returns; for a write, at most how many
bytes each call accepts, and whether the socket fails once those choices are used up.
The handlers use the closed form `vtestBlockRead`, and a write that either sends the
whole buffer or fails. A replay reads from a buffer instead (`vtest_buf_read`). -/

namespace Vtest

/-- `buf` with the bytes `l` stored from offset `ptr`. -/
def storeBytesAt (buf : ℕ → ℕ) (ptr : ℕ) (l : List ℕ) : ℕ → ℕ :=
  fun i => if ptr ≤ i then l.getD (i - ptr) (buf i) else buf i

/-- The `n` bytes of `buf` from offset `ptr`. -/
def loadBytesFrom (buf : ℕ → ℕ) (ptr n : ℕ) : List ℕ := (List.range n).map fun j => buf (ptr + j)

/-- The number of bytes `read(fd, ptr, left)` returns from the unread input `rest`, for a
`left` that is not negative, when the kernel returns at most `k + 1`: none only when
`rest` is empty or `left` is 0. -/
def readCount (rest : List ℕ) (left k : ℕ) : ℕ := min (k + 1) (min rest.length left)

theorem readCount_le (rest : List ℕ) (left k : ℕ) : readCount rest left k ≤ rest.length := by
  unfold readCount
  omega

/-- The loop of `vtest_block_read(input, buf, size)` over the unread input `rest`, with
`ptr` and `left` as in the source. A negative `left` (only ever the first, since a
`read` returns at most `left` bytes) reaches `read` as a `size_t` count past
`SSIZE_MAX`, which the kernel refuses with `EFAULT` before storing a byte. A `read` that
returns no byte ends the loop: with 0 when it was asked for none, or else with what the
input's end gives (0, or `-errno`). The kernel's `i`-th choice in `chunks` caps the
`i`-th read; once they are used up a read returns all it can. The `VTEST_SAVE` copy is
left out. -/
def vtestBlockReadLoop (stop size : ℤ) (chunks rest : List ℕ) (buf : ℕ → ℕ) (ptr : ℕ)
    (left : ℤ) : (ℕ → ℕ) × ℤ :=
  if left < 0 then (buf, -efault)
  else
    let n := readCount rest left.toNat (chunks.headD rest.length)
    if n = 0 then (buf, if left = 0 then 0 else stop)
    else if left - n = 0 then (storeBytesAt buf ptr (rest.take n), size)
    else vtestBlockReadLoop stop size chunks.tail (rest.drop n)
      (storeBytesAt buf ptr (rest.take n)) (ptr + n) (left - n)
termination_by rest.length
decreasing_by
  have := readCount_le rest left.toNat (chunks.headD rest.length)
  simp only [List.length_drop]
  omega

/-- The loop of `vtest_block_write(fd, buf, size)` for a `size` in `[0, INT_MAX]`, from
offset `ptr` with `left` bytes to go: the bytes the client receives, and the return
value. The `i`-th `write` accepts at most `k + 1` of the bytes asked, for the `i`-th
choice `k` in `chunks`; once they are used up the socket accepts all the rest, or fails
with `errno` `e` when `fail = some e`. -/
def vtestBlockWriteLoop (buf : ℕ → ℕ) (size : ℕ) (fail : Option ℕ) :
    List ℕ → ℕ → ℕ → List ℕ × ℤ
  | k :: ks, ptr, left =>
    let n := min (k + 1) left
    if left - n = 0 then (loadBytesFrom buf ptr n, size)
    else
      let r := vtestBlockWriteLoop buf size fail ks (ptr + n) (left - n)
      (loadBytesFrom buf ptr n ++ r.1, r.2)
  | [], ptr, left =>
    match fail with
    | some e => ([], -e)
    | none => (loadBytesFrom buf ptr left, size)

end Vtest

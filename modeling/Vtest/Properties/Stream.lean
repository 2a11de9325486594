import Vtest.Model.Stream
import Mathlib.Data.List.GetD

/-! # The read and write loops

However many bytes the kernel moves per call, the loop of `vtest_block_read` leaves the
buffer and returns exactly what the closed form `vtestBlockRead` that the handlers use
says, and the loop of `vtest_block_write` sends the client a prefix of the buffer, all
of it when it returns `size`, and otherwise returns the failing call's `-errno`. A replay
buffer read by `vtest_buf_read` looks to a handler like a client that stops after the
same bytes, for every size that is not negative. -/

namespace Vtest

theorem storeBytesAt_storeBytes (buf : ℕ → ℕ) (P l : List ℕ) :
    storeBytesAt (storeBytes buf P) P.length l = storeBytes buf (P ++ l) := by
  funext i
  simp only [storeBytesAt, storeBytes]
  split
  · rename_i h
    rw [List.getD_append_right _ _ _ _ h, List.getD_eq_default _ _ h]
  · rw [List.getD_append _ _ _ _ (by omega)]

theorem readCount_le_left (rest : List ℕ) (left k : ℕ) : readCount rest left k ≤ left := by
  unfold readCount
  omega

theorem readCount_eq_zero (rest : List ℕ) (left k : ℕ) :
    readCount rest left k = 0 ↔ rest = [] ∨ left = 0 := by
  unfold readCount
  rw [← List.length_eq_zero]
  omega

/-- The read loop once the bytes `P` have been read: it ends as `vtestBlockRead` on the
whole input. -/
theorem blockReadLoop_of_prefix (stop size : ℤ) (buf : ℕ → ℕ) (chunks P rest : List ℕ)
    (hP : P = [] ∨ (P.length : ℤ) < size) :
    vtestBlockReadLoop stop size chunks rest (storeBytes buf P) P.length (size - P.length) =
      vtestBlockRead ⟨P ++ rest, stop⟩ buf size := by
  rw [vtestBlockReadLoop]
  split
  · -- a negative `size`: the first read fails with `EFAULT`
    rename_i hneg
    obtain rfl : P = [] := hP.resolve_right (by omega)
    rw [vtestBlockRead, if_pos (by simpa using hneg)]
    rfl
  rename_i hnn
  have htn : (((size - P.length).toNat : ℕ) : ℤ) = size - P.length := Int.toNat_of_nonneg (by omega)
  have hle := readCount_le rest (size - P.length).toNat (chunks.headD rest.length)
  have hleft := readCount_le_left rest (size - P.length).toNat (chunks.headD rest.length)
  have hzero := readCount_eq_zero rest (size - P.length).toNat (chunks.headD rest.length)
  generalize readCount rest (size - P.length).toNat (chunks.headD rest.length) = n at hle hleft hzero ⊢
  dsimp only
  by_cases h0 : n = 0
  · -- a read returns no byte
    rw [if_pos h0]
    by_cases hl : size - P.length = 0
    · obtain rfl : P = [] := hP.resolve_right (by omega)
      obtain rfl : size = 0 := by simpa using hl
      rw [vtestBlockRead, if_neg (Int.lt_irrefl 0), if_pos (by omega)]
      rfl
    · obtain rfl : rest = [] := (hzero.mp h0).resolve_right (by omega)
      rw [vtestBlockRead, if_neg hl, if_neg (by omega), if_neg (by simp only [List.append_nil]; omega),
        List.append_nil]
  rw [if_neg h0, storeBytesAt_storeBytes]
  split
  · -- the read completes `size` bytes
    rename_i hl
    have hs : size.toNat = P.length + n := by omega
    rw [vtestBlockRead, if_neg (by omega), if_pos (by simp only [List.length_append]; omega), hs,
      List.take_append]
  · -- the loop goes on with `P ++ rest.take n` read
    rename_i hl
    have hlen : (P ++ rest.take n).length = P.length + n := by simp [hle]
    have := blockReadLoop_of_prefix stop size buf chunks.tail (P ++ rest.take n) (rest.drop n)
      (by right; rw [hlen]; push_cast; omega)
    rw [hlen, List.append_assoc, List.take_append_drop] at this
    push_cast at this
    rwa [sub_sub]
termination_by rest.length
decreasing_by
  simp only [List.length_drop]
  omega

/-- However the kernel splits the client's bytes into `read`s, the loop of
`vtest_block_read` leaves the buffer and returns what the closed form `vtestBlockRead`
says: the first `size` bytes stored and `size` when that many were sent, and otherwise
every byte sent stored and the input's end returned. -/
theorem block_read_loop_refines (bytes : List ℕ) (stop size : ℤ) (buf : ℕ → ℕ)
    (chunks : List ℕ) :
    vtestBlockReadLoop stop size chunks bytes buf 0 size = vtestBlockRead ⟨bytes, stop⟩ buf size := by
  simpa using blockReadLoop_of_prefix stop size buf chunks [] bytes (.inl rfl)

theorem loadBytesFrom_add (buf : ℕ → ℕ) (ptr n m : ℕ) :
    loadBytesFrom buf ptr (n + m) = loadBytesFrom buf ptr n ++ loadBytesFrom buf (ptr + n) m := by
  simp only [loadBytesFrom, List.range_add, List.map_append, List.map_map, Function.comp_def,
    Nat.add_assoc]

/-- The write loop from offset `ptr` with `left` bytes to go sends a prefix of them, all
of them unless the socket failed. -/
theorem blockWriteLoop_sends (buf : ℕ → ℕ) (size : ℕ) (fail : Option ℕ) :
    ∀ (chunks : List ℕ) (ptr left : ℕ),
      (vtestBlockWriteLoop buf size fail chunks ptr left).1 <+: loadBytesFrom buf ptr left ∧
        (vtestBlockWriteLoop buf size fail chunks ptr left = (loadBytesFrom buf ptr left, (size : ℤ)) ∨
          ∃ e, fail = some e ∧ (vtestBlockWriteLoop buf size fail chunks ptr left).2 = -e)
  | [], ptr, left => by
    cases fail with
    | none => exact ⟨List.prefix_refl _, .inl rfl⟩
    | some e => exact ⟨List.nil_prefix, .inr ⟨e, rfl, rfl⟩⟩
  | k :: ks, ptr, left => by
    have hsplit := loadBytesFrom_add buf ptr (min (k + 1) left) (left - min (k + 1) left)
    rw [Nat.add_sub_cancel' (min_le_right _ _)] at hsplit
    simp only [vtestBlockWriteLoop]
    split
    · -- the write completes the buffer
      rename_i hl
      rw [show min (k + 1) left = left by omega]
      exact ⟨List.prefix_refl _, .inl rfl⟩
    · -- the loop goes on after a partial write
      obtain ⟨hp, hr⟩ := blockWriteLoop_sends buf size fail ks (ptr + min (k + 1) left)
        (left - min (k + 1) left)
      refine ⟨hsplit ▸ (List.prefix_append_right_inj _).mpr hp, ?_⟩
      rcases hr with hr | ⟨e, he, hr⟩
      · exact .inl (by rw [hr, hsplit])
      · exact .inr ⟨e, he, hr⟩

/-- However the kernel splits a reply into `write`s, `vtest_block_write` sends the client
a prefix of the buffer's first `size` bytes: all of them when it returns `size`, and
otherwise it returns `-errno` of the failed call. -/
theorem block_write_loop_sends_prefix (buf : ℕ → ℕ) (size : ℕ) (fail : Option ℕ)
    (chunks : List ℕ) :
    (vtestBlockWriteLoop buf size fail chunks 0 size).1 <+: loadBytes buf size ∧
      (vtestBlockWriteLoop buf size fail chunks 0 size = (loadBytes buf size, (size : ℤ)) ∨
        ∃ e, fail = some e ∧ (vtestBlockWriteLoop buf size fail chunks 0 size).2 = -e) := by
  have h : loadBytesFrom buf 0 size = loadBytes buf size := by
    simp only [loadBytesFrom, loadBytes, Nat.zero_add]
  rw [← h]
  exact blockWriteLoop_sends buf size fail chunks 0 size

end Vtest

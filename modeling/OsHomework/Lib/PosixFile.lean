import Mathlib

/-
  The content of a POSIX regular file under `pwrite`,
  `ftruncate` and `pread`, as a list of bytes over any type
  with a zero byte `z`.

  A write puts its data at `[offset, offset + |data|)`, keeps
  every other byte, and a gap between the old end and `offset`
  reads as zeros, so the file ends up `max(|c|, offset + |data|)`
  long.  A truncation cuts or zero-extends to the given length.
  A read returns the bytes `[offset, min(offset + size, |c|))`.

  Main declarations:
    * `PosixFile.write`, `PosixFile.truncate`, `PosixFile.read`
    * `PosixFile.Op`, `PosixFile.apply`, `PosixFile.NoGap`
    * `PosixFile.write_of_le`, `PosixFile.length_write`,
      `PosixFile.write_eq_store_truncate`
    * `PosixFile.foldl_eq_of_noGap`, for a file semantics that
      agrees with POSIX wherever no gap opens
-/

------------------------------------------------------------
-- Operations
------------------------------------------------------------

namespace OsHomework

namespace PosixFile

variable {α : Type}

variable (z : α)

/- `pwrite(fd, d, |d|, off)` on a file holding `c`. -/
def write
    (c d : List α)
    (off : Nat) : List α :=
  let c' := c ++ List.replicate (off - c.length) z
  c'.take off ++ d ++ c'.drop (off + d.length)

/- `ftruncate(fd, n)` on a file holding `c`. -/
def truncate
    (c : List α)
    (n : Nat) : List α :=
  c.take n ++ List.replicate (n - c.length) z

/- `pread(fd, buf, size, off)` on a file holding `c`. -/
def read
    (c : List α)
    (size off : Nat) : List α :=
  (c.drop off).take size

/- A write that starts inside the file, or at its end, leaves no gap. -/
theorem write_of_le
    {c : List α}
    (d : List α)
    {off : Nat}
    (hOff : off ≤ c.length) :
    write z c d off = c.take off ++ d ++ c.drop (off + d.length) := by
  have hGap : off - c.length = 0 := Nat.sub_eq_zero_of_le hOff
  rw [write, hGap, List.replicate_zero, List.append_nil]

theorem length_write
    (c d : List α)
    (off : Nat) :
    (write z c d off).length = max c.length (off + d.length) := by
  simp only [write, List.length_append, List.length_take, List.length_drop,
    List.length_replicate]
  omega

/-
  `pwrite` done in two steps: zero-extend a file that ends before
  the range does to the range's end, then store the data in
  place.
-/
theorem write_eq_store_truncate
    (c d : List α)
    (off : Nat) :
    write z c d off =
      let c' := if c.length < off + d.length then truncate z c (off + d.length) else c
      c'.take off ++ d ++ c'.drop (off + d.length) := by
  by_cases hShort : c.length < off + d.length
  · -- both extend `c` with zeros: by `off - |c|` bytes, or up to the range's end
    simp only [if_pos hShort, write, truncate, List.take_of_length_le (Nat.le_of_lt hShort)]
    have hTake : ∀ m, off - c.length ≤ m →
        (c ++ List.replicate m z).take off = c.take off ++ List.replicate (off - c.length) z := by
      intro m hm
      rw [List.take_append, List.take_replicate, Nat.min_eq_left hm]
    rw [hTake _ (Nat.le_refl _), hTake _ (by omega), List.drop_eq_nil_of_le, List.drop_eq_nil_of_le]
    · simp only [List.length_append, List.length_replicate]
      omega
    · simp only [List.length_append, List.length_replicate]
      omega
  · simp only [if_neg hShort]
    exact write_of_le z d (by omega)

/- The two mutating operations of a run. -/
inductive Op (α : Type)
  | write (data : List α) (off : Nat)
  | truncate (n : Nat)

/- The content after one operation. -/
def apply
    (c : List α) : Op α → List α
  | .write d off => write z c d off
  | .truncate n => truncate z c n

/- No write of the run starts past the end of the file as it then is. -/
def NoGap : List α → List (Op α) → Prop
  | _, [] => True
  | c, .write d off :: ops => off ≤ c.length ∧ NoGap (write z c d off) ops
  | c, .truncate n :: ops => NoGap (truncate z c n) ops

/-
  A file semantics `f` whose writes are POSIX's when they start
  inside the file or at its end, and whose truncations are
  POSIX's, keeps the POSIX content along every run without gaps.
-/
theorem foldl_eq_of_noGap
    (f : List α → Op α → List α)
    (hWrite : ∀ c d off, off ≤ c.length → f c (.write d off) = write z c d off)
    (hTruncate : ∀ c n, f c (.truncate n) = truncate z c n) :
    ∀ (ops : List (Op α)) (c : List α), NoGap z c ops →
      ops.foldl f c = ops.foldl (apply z) c := by
  intro ops
  -- induction on the run; `NoGap` unfolds one operation at a time
  induction ops with
  | nil =>
      intro c _
      rfl
  | cons op ops ih =>
      intro c hNoGap
      cases op with
      | write d off =>
          obtain ⟨hOff, hRest⟩ := hNoGap
          rw [List.foldl_cons, List.foldl_cons, hWrite c d off hOff]
          exact ih _ hRest
      | truncate n =>
          rw [List.foldl_cons, List.foldl_cons, hTruncate c n]
          exact ih _ hNoGap

end PosixFile

end OsHomework

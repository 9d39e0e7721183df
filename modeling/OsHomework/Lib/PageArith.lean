import Mathlib.Data.Nat.Basic
import Mathlib.Algebra.Order.Group.Nat

/-
  Page arithmetic: rounding up to a multiple of the page size,
  and splitting an offset from a page-aligned base into a page
  index and an offset inside the page.

  The page size `P` is any positive number; the kernel's is a
  power of two, for which `x & ~(P - 1)` is `x / P * P` and
  `x & (P - 1)` is `x % P`.

  Main declarations:
    * `PageArith.alignUp` and its bounds
    * `PageArith.frame_add_offset`
-/

------------------------------------------------------------
-- Rounding Up
------------------------------------------------------------

namespace OsHomework

namespace PageArith

/- `ALIGN(x, a)`: the least multiple of `a` that is at least `x`. -/
def alignUp
    (x a : Nat) : Nat :=
  (x + a - 1) / a * a

theorem le_alignUp
    {a : Nat}
    (ha : 0 < a)
    (x : Nat) :
    x ≤ alignUp x a := by
  unfold alignUp
  have hMod := Nat.mod_lt (x + a - 1) ha
  have hSplit := Nat.div_add_mod (x + a - 1) a
  rw [Nat.mul_comm] at hSplit
  omega

theorem alignUp_lt_add
    {a : Nat}
    (ha : 0 < a)
    (x : Nat) :
    alignUp x a < x + a := by
  unfold alignUp
  have hSplit := Nat.div_add_mod (x + a - 1) a
  rw [Nat.mul_comm] at hSplit
  omega

theorem alignUp_mod
    (x a : Nat) :
    alignUp x a % a = 0 := by
  unfold alignUp
  exact Nat.mul_mod_left _ _

end PageArith

end OsHomework

------------------------------------------------------------
-- Frames and Offsets
------------------------------------------------------------

namespace OsHomework

namespace PageArith

/-
  Map the page `(pa % P + j) / P` pages past the frame of `pa`
  and read it at the offset `(pa % P + j) % P`: that is byte
  `pa + j`.  This is the address rule of a mapping whose first
  data page shows the frame holding `pa`, read through a
  pointer placed `pa % P` bytes into that page.
-/
theorem frame_add_offset
    {P : Nat}
    (hP : 0 < P)
    (pa j : Nat) :
    (pa + (pa % P + j) / P * P) / P * P + (pa % P + j) % P = pa + j := by
  have hPa := Nat.div_add_mod pa P
  have hSum := Nat.div_add_mod (pa % P + j) P
  have hSmall : pa % P / P = 0 := Nat.div_eq_of_lt (Nat.mod_lt pa hP)
  have hFrame :
      (pa + (pa % P + j) / P * P) / P = pa / P + (pa % P + j) / P := by
    calc (pa + (pa % P + j) / P * P) / P
        = (pa % P + (pa / P + (pa % P + j) / P) * P) / P := by
          congr 1
          rw [Nat.add_mul]
          rw [Nat.mul_comm] at hPa
          omega
      _ = pa % P / P + (pa / P + (pa % P + j) / P) :=
          Nat.add_mul_div_right _ _ hP
      _ = pa / P + (pa % P + j) / P := by
          rw [hSmall, Nat.zero_add]
  rw [hFrame, Nat.add_mul]
  rw [Nat.mul_comm] at hPa hSum
  omega

end PageArith

end OsHomework

import Mathlib

/-
  A byte-addressed memory: little-endian reads of fixed width,
  a copy that behaves as if through a temporary buffer (so that
  overlapping ranges are fine), and 8-bit checksums.

  `sum8` adds bytes into an 8-bit accumulator that wraps at
  every step, as a C loop over `UINT8` does; `byteSum` is the
  plain sum, and the two agree modulo 256.  `checkSum8 s` is
  `(UINT8)(0x100 - s)`, the byte that brings a sum `s` to zero.

  Main declarations:
    * `Mem`, `readLE`, `copy`, `bytesAt`, `encodeLE`, `load`
    * `byteSum`, `sum8`, `checkSum8`
    * `readLE_congr`, `readLE_lt`, `copy_of_lt`, `sum8_toNat`
    * `byteSum_update_checkSum8`
-/

------------------------------------------------------------
-- Reads and Copies
------------------------------------------------------------

namespace OsHomework

namespace ByteMem

/- Memory: a byte at every address. -/
abbrev Mem := Nat → UInt8

/- The `n` bytes from `a`, read as a little-endian number. -/
def readLE
    (mem : Mem)
    (a : Nat) : Nat → Nat
  | 0 => 0
  | n + 1 => (mem a).toNat + 256 * readLE mem (a + 1) n

/-
  Copy `n` bytes from `src` to `dst`.  Each destination byte
  takes the source byte of the memory before the copy, as a
  copy that allows overlap (`memmove`, `CopyMem`) leaves it.
-/
def copy
    (mem : Mem)
    (dst src n : Nat) : Mem :=
  fun x => if dst ≤ x ∧ x < dst + n then mem (src + (x - dst)) else mem x

/- The `n` bytes from `a`. -/
def bytesAt
    (mem : Mem)
    (a n : Nat) : List UInt8 :=
  (List.range n).map (fun i => mem (a + i))

/- `v` as `n` little-endian bytes, as a C initializer lays out an integer field. -/
def encodeLE
    (v : Nat) : Nat → List UInt8
  | 0 => []
  | n + 1 => UInt8.ofNat (v % 256) :: encodeLE (v / 256) n

/- Memory with `bytes` placed from `a`. -/
def load
    (mem : Mem)
    (a : Nat)
    (bytes : List UInt8) : Mem :=
  fun x => if a ≤ x then (bytes[x - a]?).getD (mem x) else mem x

/- Reads of the same bytes, at any two places, agree. -/
theorem readLE_congr
    {mem mem' : Mem} :
    ∀ {a b n : Nat}, (∀ i < n, mem (a + i) = mem' (b + i)) →
      readLE mem a n = readLE mem' b n
  | _, _, 0, _ => rfl
  | a, b, n + 1, h => by
      have hHead : mem a = mem' b := h 0 (Nat.succ_pos n)
      have hTail : readLE mem (a + 1) n = readLE mem' (b + 1) n := by
        apply readLE_congr
        intro i hi
        have hIdx : ∀ c, c + 1 + i = c + (i + 1) := by omega
        rw [hIdx a, hIdx b]
        exact h (i + 1) (by omega)
      simp only [readLE, hHead, hTail]

/- `n` bytes read as a number stay below `256 ^ n`. -/
theorem readLE_lt
    (mem : Mem) :
    ∀ (a n : Nat), readLE mem a n < 256 ^ n
  | _, 0 => Nat.one_pos
  | a, n + 1 => by
      have hByte := (mem a).toNat_lt
      have hRest := readLE_lt mem (a + 1) n
      simp only [readLE, Nat.pow_succ]
      omega

theorem copy_of_lt
    {mem : Mem}
    {dst src n i : Nat}
    (hi : i < n) :
    copy mem dst src n (dst + i) = mem (src + i) := by
  simp only [copy]
  rw [if_pos (by omega), Nat.add_sub_cancel_left]

theorem copy_of_not_mem
    {mem : Mem}
    {dst src n x : Nat}
    (hx : ¬ (dst ≤ x ∧ x < dst + n)) :
    copy mem dst src n x = mem x := by
  simp only [copy, if_neg hx]

theorem load_of_lt
    {mem : Mem}
    {a i : Nat}
    {bytes : List UInt8}
    (hi : i < bytes.length) :
    load mem a bytes (a + i) = bytes[i] := by
  simp only [load, Nat.le_add_right, if_true, Nat.add_sub_cancel_left, List.getElem?_eq_getElem hi,
    Option.getD_some]

theorem load_of_not_mem
    {mem : Mem}
    {a x : Nat}
    {bytes : List UInt8}
    (hx : ¬ (a ≤ x ∧ x < a + bytes.length)) :
    load mem a bytes x = mem x := by
  simp only [load]
  split_ifs with hLe
  · rw [List.getElem?_eq_none (by omega), Option.getD_none]
  · rfl

@[simp] theorem length_encodeLE
    (v : Nat) :
    ∀ n, (encodeLE v n).length = n
  | 0 => rfl
  | n + 1 => by simp only [encodeLE, List.length_cons, length_encodeLE _ n]

/- Bytes that hold the encoding of `v` read back as `v` modulo `256 ^ n`. -/
theorem readLE_encodeLE
    {mem : Mem} :
    ∀ {a v n : Nat}, (∀ i < n, (encodeLE v n)[i]? = some (mem (a + i))) →
      readLE mem a n = v % 256 ^ n
  | _, v, 0, _ => (Nat.mod_one v).symm
  | a, v, n + 1, h => by
      have hHead : mem a = UInt8.ofNat (v % 256) := by
        simpa [encodeLE] using (h 0 (Nat.succ_pos n)).symm
      -- the rest of the bytes encode `v / 256`
      have hTail : readLE mem (a + 1) n = v / 256 % 256 ^ n := by
        apply readLE_encodeLE
        intro i hi
        have hNext := h (i + 1) (by omega)
        rw [show a + (i + 1) = a + 1 + i by omega] at hNext
        simpa [encodeLE] using hNext
      have hByte : (UInt8.ofNat (v % 256)).toNat = v % 256 := by
        rw [UInt8.toNat_ofNat']
        omega
      simp only [readLE, hHead, hTail, hByte]
      rw [Nat.pow_succ', Nat.mod_mul]

/- The bytes from `a` are those of `bytesAt`. -/
theorem getElem?_bytesAt
    {mem : Mem}
    {a n i : Nat}
    (hi : i < n) :
    (bytesAt mem a n)[i]? = some (mem (a + i)) := by
  simp only [bytesAt, List.getElem?_map, List.getElem?_range hi, Option.map_some]

/-
  Where the bytes from `a` are a prefix, the encoding of `v` in
  `w` bytes and the rest, the `w` bytes past the prefix read
  back as `v` modulo `256 ^ w`.
-/
theorem readLE_of_bytesAt
    {mem : Mem}
    {a n v w : Nat}
    {pre post : List UInt8}
    (h : bytesAt mem a n = pre ++ encodeLE v w ++ post) :
    readLE mem (a + pre.length) w = v % 256 ^ w := by
  have hLen : n = pre.length + w + post.length := by
    have hBytes := congrArg List.length h
    simp only [bytesAt, List.length_map, List.length_range, List.length_append,
      length_encodeLE] at hBytes
    omega
  apply readLE_encodeLE
  intro i hi
  have hAt := @getElem?_bytesAt mem a n (pre.length + i) (by omega)
  rw [h, List.append_assoc, List.getElem?_append_right (by omega), Nat.add_sub_cancel_left,
    List.getElem?_append_left (by simpa using hi)] at hAt
  rw [hAt, Nat.add_assoc]

end ByteMem

end OsHomework

------------------------------------------------------------
-- Checksums
------------------------------------------------------------

namespace OsHomework

namespace ByteMem

/- The bytes `[a, a + n)` summed as natural numbers. -/
def byteSum
    (mem : Mem)
    (a : Nat) : Nat → Nat
  | 0 => 0
  | n + 1 => byteSum mem a n + (mem (a + n)).toNat

/- The bytes `[a, a + n)` summed into a wrapping 8-bit accumulator. -/
def sum8
    (mem : Mem)
    (a n : Nat) : UInt8 :=
  (List.range n).foldl (fun sum i => sum + mem (a + i)) 0

/- `(UINT8)(0x100 - sum)`: the byte that brings `sum` to zero modulo 256. -/
def checkSum8
    (sum : UInt8) : UInt8 :=
  UInt8.ofNat (0x100 - sum.toNat)

theorem sum8_succ
    (mem : Mem)
    (a n : Nat) :
    sum8 mem a (n + 1) = sum8 mem a n + mem (a + n) := by
  simp [sum8, List.range_succ, List.foldl_append]

/- Wrapping at every step loses nothing modulo 256. -/
theorem sum8_toNat
    (mem : Mem)
    (a : Nat) :
    ∀ n, (sum8 mem a n).toNat = byteSum mem a n % 256
  | 0 => rfl
  | n + 1 => by
      rw [sum8_succ, UInt8.toNat_add, sum8_toNat mem a n, byteSum]
      omega

/- A sum sees only the bytes it covers. -/
theorem byteSum_congr
    {mem mem' : Mem}
    {a : Nat} :
    ∀ {n : Nat}, (∀ i < n, mem (a + i) = mem' (a + i)) →
      byteSum mem a n = byteSum mem' a n
  | 0, _ => rfl
  | n + 1, h => by
      simp only [byteSum]
      rw [byteSum_congr (fun i hi => h i (by omega)), h n (by omega)]

/- Changing one byte of the range changes the sum by the difference. -/
theorem byteSum_update
    (mem : Mem)
    (a k : Nat)
    (v : UInt8) :
    ∀ {n : Nat}, k < n →
      byteSum (Function.update mem (a + k) v) a n + (mem (a + k)).toNat =
        byteSum mem a n + v.toNat
  | n + 1, hk => by
      simp only [byteSum]
      by_cases hLast : k = n
      · -- the changed byte is the last one: the rest of the range is untouched
        subst hLast
        have hRest : byteSum (Function.update mem (a + k) v) a k = byteSum mem a k :=
          byteSum_congr (fun i hi => Function.update_of_ne (by omega) _ _)
        rw [hRest, Function.update_self]
        omega
      · have hIH := byteSum_update mem a k v (n := n) (by omega)
        rw [Function.update_of_ne (by omega)]
        omega

/-
  With the checksum byte zeroed, storing `checkSum8` of the
  8-bit sum there makes the whole range sum to 0 modulo 256.
-/
theorem byteSum_update_checkSum8
    {mem : Mem}
    {a k n : Nat}
    (hk : k < n)
    (hZero : mem (a + k) = 0) :
    byteSum (Function.update mem (a + k) (checkSum8 (sum8 mem a n))) a n % 256 = 0 := by
  have hSplit := byteSum_update mem a k (checkSum8 (sum8 mem a n)) hk
  have hSum := sum8_toNat mem a n
  have hByte : (checkSum8 (sum8 mem a n)).toNat = (256 - (sum8 mem a n).toNat) % 256 := by
    rw [checkSum8, UInt8.toNat_ofNat']
  have hLt := (sum8 mem a n).toNat_lt
  rw [hZero, UInt8.toNat_zero, Nat.add_zero] at hSplit
  omega

end ByteMem

end OsHomework

import OsHomework.Mmap.FileWrite
import OsHomework.Lib.ByteMem

/-
  `mmap_remap` of `memctrl/mmap/impl.c`: move `size` bytes at
  `addr` to a fresh private anonymous mapping, and unmap them.

  A user address space is which pages are mapped and its bytes.
  Anonymous `mmap` refuses a zero length with `EINVAL` and a
  length past the user address space with `ENOMEM`, and else
  maps, zero-filled, the pages of the area `get_unmapped_area`
  picks, or fails as the environment says.  `memcpy` faults on a
  byte outside the mapped pages.  `munmap` unmaps every page the
  range touches, so the tail of the last page of a range whose
  length is not a multiple of the page goes too; it fails with
  `ENOMEM` when splitting a mapping would pass the limit on the
  number of mappings, which the environment decides.
  `mmap_remap` ignores what `munmap` returns, and returns NULL
  when `mmap` fails.  Every mapping here is `PROT_READ |
  PROT_WRITE`, so the model keeps no protection bits: a mapped
  page is one that can be read and written.

  Main declarations:
    * `UserMem`, `pagesOf`, `RemapEnv`
    * `mmapAnon`, `memcpyUser`, `munmapUser`, `mmapRemap`
-/

------------------------------------------------------------
-- The Address Space and Its Calls
------------------------------------------------------------

namespace OsHomework

namespace Mmap

open ByteMem

def pageSize : Nat := 4096

/- Which pages, by number, are mapped, and the bytes of memory. -/
structure UserMem where
  mapped : Nat → Bool
  bytes : Mem

/- Whether page `p` holds a byte of `[addr, addr + len)`. -/
def pagesOf
    (addr len : Nat)
    (p : Nat) : Bool :=
  decide (addr / pageSize ≤ p) && decide (p * pageSize < addr + len)

/-
  Where `get_unmapped_area` puts an anonymous mapping of each
  length, the errno with which the environment makes `mmap`
  fail, or none, and whether `munmap` runs out of mappings.
-/
structure RemapEnv where
  area : Nat → Nat
  mmapErr : Option Nat
  munmapNoMem : Bool

/-
  `mmap(NULL, len, PROT_READ | PROT_WRITE, MAP_PRIVATE |
  MAP_ANONYMOUS, -1, 0)`: the new pages read as zero.
-/
def mmapAnon
    (env : RemapEnv)
    (um : UserMem)
    (len : Nat) : Except Nat (UserMem × Nat) :=
  if len = 0 then .error EINVAL
  else if taskSizeMax < len then .error ENOMEM
  else
    match env.mmapErr with
    | some e => .error e
    | none =>
        let a := env.area len
        .ok (⟨fun p => um.mapped p || pagesOf a len p,
          fun x => if pagesOf a len (x / pageSize) then 0 else um.bytes x⟩, a)

/- `memcpy(dst, src, n)`: a fault unless both ranges are mapped. -/
def memcpyUser
    (um : UserMem)
    (dst src n : Nat) : Option UserMem :=
  if (∀ i < n, um.mapped ((src + i) / pageSize) = true) ∧
      (∀ i < n, um.mapped ((dst + i) / pageSize) = true) then
    some { um with bytes := copy um.bytes dst src n }
  else none

/-
  `munmap(addr, len)`: `EINVAL` for an address off a page, a zero
  length or a range past the user address space; `ENOMEM` when
  a split would pass `sysctl_max_map_count`; else the pages the
  range touches are unmapped.
-/
def munmapUser
    (env : RemapEnv)
    (um : UserMem)
    (addr len : Nat) : UserMem × Int :=
  if addr % pageSize ≠ 0 ∨ len = 0 ∨ taskSizeMax < addr + len then (um, -(EINVAL : Int))
  else if env.munmapNoMem then (um, -(ENOMEM : Int))
  else ({ um with mapped := fun p => um.mapped p && !pagesOf addr len p }, 0)

/- How `mmap_remap` ends: the address space and the pointer it returns, or a fault. -/
inductive RemapOutcome
  | ret (um : UserMem) (ptr : Nat)
  | fault

/- `mmap_remap(addr, size)`; NULL is 0. -/
def mmapRemap
    (env : RemapEnv)
    (um : UserMem)
    (addr size : Nat) : RemapOutcome :=
  match mmapAnon env um size with
  | .error _ => .ret um 0
  | .ok (um, newAddr) =>
      if addr ≠ 0 then
        match memcpyUser um newAddr addr size with
        | none => .fault
        | some um => .ret (munmapUser env um addr size).1 newAddr
      else .ret um newAddr

end Mmap

end OsHomework

------------------------------------------------------------
-- What mmap_remap Leaves
------------------------------------------------------------

namespace OsHomework

namespace Mmap

open ByteMem

/- The page of a byte of a range is one of the range's pages. -/
theorem pagesOf_of_mem
    {addr len x : Nat}
    (hLo : addr ≤ x)
    (hHi : x < addr + len) :
    pagesOf addr len (x / pageSize) = true := by
  have hP : pageSize = 4096 := rfl
  simp only [pagesOf, Bool.and_eq_true, decide_eq_true_eq]
  rw [hP]
  omega

theorem mmapAnon_eq_ok
    {env : RemapEnv}
    {um : UserMem}
    {len : Nat}
    (hPos : 0 < len)
    (hTop : len ≤ taskSizeMax)
    (hOk : env.mmapErr = none) :
    mmapAnon env um len =
      .ok (⟨fun p => um.mapped p || pagesOf (env.area len) len p,
        fun x => if pagesOf (env.area len) len (x / pageSize) then 0 else um.bytes x⟩,
        env.area len) := by
  simp only [mmapAnon, if_neg (Nat.pos_iff_ne_zero.mp hPos), if_neg (Nat.not_lt.mpr hTop), hOk]

theorem memcpyUser_eq_some
    {um : UserMem}
    {dst src n : Nat}
    (hSrc : ∀ i < n, um.mapped ((src + i) / pageSize) = true)
    (hDst : ∀ i < n, um.mapped ((dst + i) / pageSize) = true) :
    memcpyUser um dst src n = some { um with bytes := copy um.bytes dst src n } := by
  simp only [memcpyUser, if_pos (And.intro hSrc hDst)]

/-
  `munmap` of a page-aligned range below the top of user space
  keeps the bytes, and unmaps the range's pages unless it fails
  with `ENOMEM`, which leaves every page as it was.
-/
theorem munmapUser_of_valid
    (env : RemapEnv)
    (um : UserMem)
    {addr len : Nat}
    (hAligned : addr % pageSize = 0)
    (hPos : 0 < len)
    (hTop : addr + len ≤ taskSizeMax) :
    (munmapUser env um addr len).1.bytes = um.bytes ∧
      (env.munmapNoMem = false → ∀ p,
        (munmapUser env um addr len).1.mapped p = (um.mapped p && !pagesOf addr len p)) ∧
      (env.munmapNoMem = true → ∀ p,
        (munmapUser env um addr len).1.mapped p = um.mapped p) := by
  have hOk : ¬ (addr % pageSize ≠ 0 ∨ len = 0 ∨ taskSizeMax < addr + len) := by omega
  cases hNoMem : env.munmapNoMem <;> simp [munmapUser, if_neg hOk, hNoMem]

/- A failed `mmap` returns NULL and leaves the address space, old range included. -/
theorem mmapRemap_of_error
    {env : RemapEnv}
    {um : UserMem}
    {addr size e : Nat}
    (hErr : mmapAnon env um size = .error e) :
    mmapRemap env um addr size = .ret um 0 := by
  simp only [mmapRemap, hErr]

/-
  On a mapped, page-aligned range below the top of user space,
  with `mmap` placing a new area on free pages: `mmap_remap`
  returns the new area, which holds the old bytes and zeros up
  to its last page's end; the new pages are mapped, the pages
  of the old range unmapped unless `munmap` fails with `ENOMEM`,
  and every other byte is left.
-/
theorem mmap_remap_moves_contents
    (env : RemapEnv)
    (um : UserMem)
    (addr size : Nat)
    (hAddr : addr ≠ 0)
    (hAligned : addr % pageSize = 0)
    (hSize : 0 < size)
    (hTop : addr + size ≤ taskSizeMax)
    (hMapped : ∀ i < size, um.mapped ((addr + i) / pageSize) = true)
    (hOk : env.mmapErr = none)
    (hFree : ∀ p, pagesOf (env.area size) size p = true → um.mapped p = false) :
    ∃ um', mmapRemap env um addr size = .ret um' (env.area size) ∧
      (∀ i < size, um'.bytes (env.area size + i) = um.bytes (addr + i)) ∧
      (∀ x, pagesOf (env.area size) size (x / pageSize) = true → env.area size + size ≤ x →
        um'.bytes x = 0) ∧
      (env.munmapNoMem = false → ∀ p, um'.mapped p =
        ((um.mapped p || pagesOf (env.area size) size p) && !pagesOf addr size p)) ∧
      (env.munmapNoMem = true → ∀ p, um'.mapped p =
        (um.mapped p || pagesOf (env.area size) size p)) ∧
      (∀ x, pagesOf (env.area size) size (x / pageSize) = false →
        ¬ (env.area size ≤ x ∧ x < env.area size + size) → um'.bytes x = um.bytes x) := by
  set a := env.area size with hA
  -- the address space right after `mmap`
  set um₁ : UserMem := ⟨fun p => um.mapped p || pagesOf a size p,
    fun x => if pagesOf a size (x / pageSize) then 0 else um.bytes x⟩ with hUm₁
  have hMmap : mmapAnon env um size = .ok (um₁, a) := mmapAnon_eq_ok hSize (by omega) hOk
  -- the old bytes lie on old pages, which the new area misses
  have hOldByte : ∀ i < size, um₁.bytes (addr + i) = um.bytes (addr + i) := by
    intro i hi
    have hNotNew : pagesOf a size ((addr + i) / pageSize) = false := by
      cases hNew : pagesOf a size ((addr + i) / pageSize)
      · rfl
      · have := hFree _ hNew
        rw [hMapped i hi] at this
        cases this
    simp only [hUm₁, hNotNew, Bool.false_eq_true, if_false]
  -- after the copy, and after the unmap
  set um₂ : UserMem := ⟨um₁.mapped, copy um₁.bytes a addr size⟩ with hUm₂
  have hCopy : memcpyUser um₁ a addr size = some um₂ := by
    have hSrc : ∀ i < size, um₁.mapped ((addr + i) / pageSize) = true := by
      intro i hi
      simp only [hUm₁, hMapped i hi, Bool.true_or]
    have hDst : ∀ i < size, um₁.mapped ((a + i) / pageSize) = true := by
      intro i hi
      simp only [hUm₁, @pagesOf_of_mem a size (a + i) (Nat.le_add_right a i) (by omega), Bool.or_true]
    exact memcpyUser_eq_some hSrc hDst
  obtain ⟨hBytes, hUnmapped, hKept⟩ := munmapUser_of_valid env um₂ hAligned hSize hTop
  refine ⟨(munmapUser env um₂ addr size).1, ?_, ?_, ?_, hUnmapped, hKept, ?_⟩
  · simp only [mmapRemap, hMmap, if_pos hAddr, hCopy]
  · intro i hi
    rw [hBytes]
    change copy um₁.bytes a addr size (a + i) = _
    rw [copy_of_lt hi, hOldByte i hi]
  · -- past `size` the new area keeps the zeros `mmap` gave it
    intro x hNew hPast
    rw [hBytes]
    change copy um₁.bytes a addr size x = 0
    rw [copy_of_not_mem (show ¬ (a ≤ x ∧ x < a + size) by omega)]
    simp only [hUm₁, hNew, if_true]
  · intro x hNotNew hOut
    rw [hBytes]
    change copy um₁.bytes a addr size x = _
    rw [copy_of_not_mem hOut]
    simp only [hUm₁, hNotNew, Bool.false_eq_true, if_false]

/- The test's case: two pages of 0xAA move from 0x10000 to 0x20000. -/
def remapEnv : RemapEnv :=
  ⟨fun _ => 0x20000, none, false⟩

def twoPagesAA : UserMem :=
  ⟨fun p => decide (0x10 ≤ p ∧ p < 0x12), fun _ => 0xAA⟩

theorem mmap_remap_moves_contents_test :
    0x10000 ≠ 0 ∧ 0x10000 % pageSize = 0 ∧ 0 < 8192 ∧ 0x10000 + 8192 ≤ taskSizeMax ∧
      (∀ i < 8192, twoPagesAA.mapped ((0x10000 + i) / pageSize) = true) ∧
      remapEnv.mmapErr = none ∧
      (∀ p, pagesOf (remapEnv.area 8192) 8192 p = true → twoPagesAA.mapped p = false) ∧
      ∃ um', mmapRemap remapEnv twoPagesAA 0x10000 8192 = .ret um' 0x20000 ∧
        ∀ i < 8192, um'.bytes (0x20000 + i) = 0xAA := by
  have hP : pageSize = 4096 := rfl
  have hMapped : ∀ i < 8192, twoPagesAA.mapped ((0x10000 + i) / pageSize) = true := by
    intro i hi
    simp only [twoPagesAA, hP, decide_eq_true_eq]
    omega
  have hFree : ∀ p, pagesOf (remapEnv.area 8192) 8192 p = true → twoPagesAA.mapped p = false := by
    intro p hp
    simp only [pagesOf, remapEnv, hP, Bool.and_eq_true, decide_eq_true_eq] at hp
    simp only [twoPagesAA, decide_eq_false_iff_not]
    omega
  obtain ⟨um', hRet, hBytes, -⟩ := mmap_remap_moves_contents remapEnv twoPagesAA 0x10000 8192
    (by decide) (by decide) (by decide) (by decide) hMapped rfl hFree
  exact ⟨by decide, by decide, by decide, by decide, hMapped, rfl, hFree, um', hRet,
    fun i hi => hBytes i hi⟩

end Mmap

end OsHomework

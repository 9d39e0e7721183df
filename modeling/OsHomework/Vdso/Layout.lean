import OsHomework.Lib.PageArith

/-
  The address arithmetic of the `[vtask]` mapping, from
  `arch/x86/entry/vdso/vma.c` (`map_vdso`, `vtask_fault`) and
  `arch/x86/entry/vdso/vgetinfo.c` (`get_task_addr`).

  `map_vdso` lays out `[vtask]`, `[vvar]` and the `[vdso]`
  text one after another from the address
  `get_unmapped_area` returns.  The vDSO finds the view page
  by stepping `VVAR_SIZE` back from `vvar_page`, and the task
  one page and `page_offset` bytes past the view.  The fault
  handler maps page 0 to a fresh view page and page `p > 0` to
  the frame of `current + (p - 1) * PAGE_SIZE`.

  `vvar_page` is taken to start the vvar area, as the upstream
  `vdso-layout.lds.S` places it, and the task_struct to be
  physically contiguous, so `__pa(current + x)` is
  `__pa(current) + x`.  User addresses are integers, so that a
  view address below the mapping shows as such.

  Main declarations:
    * `pageSize`, `vtaskSize`, `vvarSize`
    * `VdsoLayout`, `mapVdsoLayout`
    * `viewAddr`, `getTaskAddr`
    * `VmFault`, `vtaskFault`, `vtaskPhys`
    * `TaskByteMapped` and `taskByteMapped_iff`
-/

------------------------------------------------------------
-- Sizes and the Layout
------------------------------------------------------------

namespace OsHomework

namespace Vdso

open PageArith

/- `PAGE_SIZE` on x86-64. -/
def pageSize : Nat := 4096

/- `VTASK_SIZE` for a `task_struct` of `S` bytes: `ALIGN(S, PAGE_SIZE) + PAGE_SIZE`. -/
def vtaskSize
    (S : Nat) : Nat :=
  alignUp S pageSize + pageSize

/- `VVAR_SIZE` of `vgetinfo.c`: four pages. -/
def vvarSize : Nat := 4 * pageSize

/- The start addresses of the three regions `map_vdso` installs. -/
structure VdsoLayout where
  vtaskStart : Nat
  vvarStart : Nat
  textStart : Nat
deriving DecidableEq, Repr

/-
  `map_vdso` at the address `addr` from `get_unmapped_area`:
  `vtask_start = addr`, `vvar_start = addr + VTASK_SIZE`,
  `text_start = vvar_start + vvar_size`, where `vvarLen` is
  `vvar_size = -image->sym_vvar_start`.
-/
def mapVdsoLayout
    (S vvarLen addr : Nat) : VdsoLayout where
  vtaskStart := addr
  vvarStart := addr + vtaskSize S
  textStart := addr + vtaskSize S + vvarLen

/- `view = &vvar_page - VVAR_SIZE` in `get_task_addr`. -/
def viewAddr
    (vvarPage : Int) : Int :=
  vvarPage - vvarSize

/- `get_task_addr()`: `view + view->page_offset + PAGE_SIZE`. -/
def getTaskAddr
    (vvarPage pageOffset : Int) : Int :=
  viewAddr vvarPage + pageOffset + pageSize

end Vdso

end OsHomework

------------------------------------------------------------
-- The Fault Handler
------------------------------------------------------------

namespace OsHomework

namespace Vdso

/- What a fault handler of a special mapping returns. -/
inductive VmFault
  | sigbus
  | oom
  | page (pageOffset pid : Nat)
  | pfn (frame : Nat)
deriving DecidableEq, Repr

/-
  `vtask_fault` at page index `pgoff`, run by the task whose
  `task_struct` is at physical address `pa` and has pid `pid`.
  Page 0 gets a fresh page (`alloc_page`, which may fail)
  holding the view `{page_offset, pid}`; page `p > 0` gets the
  frame of `__pa(current + offset - PAGE_SIZE)`.
-/
def vtaskFault
    (S pa pid : Nat)
    (allocOk : Bool)
    (pgoff : Nat) : VmFault :=
  let offset := pgoff * pageSize
  if offset ≥ vtaskSize S then .sigbus
  else
    let taskStructOffset := pa % pageSize
    if pgoff = 0 then
      if allocOk then .page taskStructOffset pid else .oom
    else .pfn ((pa + offset - pageSize) / pageSize)

/-
  The physical address a read at user address `a` reaches
  through a data page of `[vtask]` starting at `start`: fault
  its page in, then add the offset inside the page.
-/
def vtaskPhys
    (S pa pid start : Nat)
    (a : Int) : Option Nat :=
  let rel := (a - start).toNat
  match vtaskFault S pa pid true (rel / pageSize) with
  | .pfn frame => some (frame * pageSize + rel % pageSize)
  | _ => none

/-
  Byte `j` of the caller's `task_struct` as the vDSO reaches
  it: the address `get_task_addr() + j` lies in `[vtask]`, the
  view it read `page_offset` from is page 0 of `[vtask]`, which
  the handler fills with `page_offset = __pa(current) % PAGE_SIZE`,
  and the handler maps the address to `__pa(current) + j`.
-/
def TaskByteMapped
    (S pa pid addr j : Nat) : Prop :=
  let lay := mapVdsoLayout S vvarSize addr
  let po : Nat := pa % pageSize
  let a := getTaskAddr lay.vvarStart po + j
  (lay.vtaskStart : Int) ≤ a ∧ a < lay.vtaskStart + vtaskSize S ∧
    viewAddr lay.vvarStart = lay.vtaskStart ∧
    vtaskFault S pa pid true 0 = .page po pid ∧
    vtaskPhys S pa pid lay.vtaskStart a = some (pa + j)

instance
    (S pa pid addr j : Nat) :
    Decidable (TaskByteMapped S pa pid addr j) := by
  unfold TaskByteMapped
  infer_instance

end Vdso

end OsHomework

------------------------------------------------------------
-- When the vDSO Reaches the Task
------------------------------------------------------------

namespace OsHomework

namespace Vdso

open PageArith

/-
  The view the vDSO computes is page 0 of `[vtask]` exactly
  when the `task_struct` rounds up to three pages: the vDSO
  steps back `VVAR_SIZE` (four pages) where `map_vdso` put
  `[vtask]` `VTASK_SIZE` before `[vvar]`.
-/
theorem viewAddr_eq_vtaskStart_iff
    (S addr : Nat) :
    viewAddr (mapVdsoLayout S vvarSize addr).vvarStart =
        (mapVdsoLayout S vvarSize addr).vtaskStart ↔
      alignUp S pageSize = 3 * pageSize := by
  simp only [viewAddr, mapVdsoLayout, vtaskSize, vvarSize, pageSize]
  omega

/-
  With the view in place, the data page holding byte `j` of the
  task is `1 + (page_offset + j) / PAGE_SIZE`, read at offset
  `(page_offset + j) % PAGE_SIZE`; below `VTASK_SIZE` the
  handler maps it to the frame that makes the read land on
  `__pa(current) + j`.
-/
theorem vtaskPhys_of_fit
    {S pa pid addr j : Nat}
    (hFit : (pa % pageSize + j) / pageSize + 1 < vtaskSize S / pageSize) :
    vtaskPhys S pa pid addr
        ((addr : Int) + pageSize + (pa % pageSize : Nat) + j) =
      some (pa + j) := by
  have hP : 0 < pageSize := by decide
  -- the offset from the start of `[vtask]` and its page index
  have hRel :
      ((addr : Int) + pageSize + (pa % pageSize : Nat) + j - addr).toNat =
        pageSize + (pa % pageSize + j) := by
    omega
  have hIndex :
      (pageSize + (pa % pageSize + j)) / pageSize =
        (pa % pageSize + j) / pageSize + 1 := by
    rw [Nat.add_comm, Nat.add_div_right _ hP]
  have hInPage :
      (pageSize + (pa % pageSize + j)) % pageSize =
        (pa % pageSize + j) % pageSize := by
    rw [Nat.add_comm, Nat.add_mod_right]
  have hCheck :
      ¬ ((pa % pageSize + j) / pageSize + 1) * pageSize ≥ vtaskSize S := by
    have hMul := Nat.div_add_mod (vtaskSize S) pageSize
    have hLe :
        ((pa % pageSize + j) / pageSize + 1 + 1) * pageSize ≤
          vtaskSize S / pageSize * pageSize :=
      Nat.mul_le_mul_right _ hFit
    rw [Nat.add_mul, Nat.one_mul] at hLe
    rw [Nat.mul_comm] at hMul
    omega
  have hFrame :
      pa + ((pa % pageSize + j) / pageSize + 1) * pageSize - pageSize =
        pa + (pa % pageSize + j) / pageSize * pageSize := by
    rw [Nat.add_mul, Nat.one_mul]
    omega
  simp only [vtaskPhys, hRel, hIndex, hInPage, vtaskFault, if_neg hCheck,
    Nat.add_one_ne_zero, if_false, hFrame]
  rw [frame_add_offset hP pa j]

/-
  The whole address chain works for byte `j` exactly when the
  `task_struct` rounds up to three pages and byte `j` lies in
  the first three pages from the task's page: `VTASK_SIZE`
  leaves no page for a task that straddles one more.
-/
theorem taskByteMapped_iff
    (S pa pid addr j : Nat) :
    TaskByteMapped S pa pid addr j ↔
      alignUp S pageSize = 3 * pageSize ∧
        pa % pageSize + j < 3 * pageSize := by
  have hView := viewAddr_eq_vtaskStart_iff S addr
  -- the address the vDSO forms, once the view is in place
  have hAddr :
      alignUp S pageSize = 3 * pageSize →
        getTaskAddr (mapVdsoLayout S vvarSize addr).vvarStart
            (pa % pageSize : Nat) + j =
          (addr : Int) + pageSize + (pa % pageSize : Nat) + j := by
    intro hAlign
    simp only [getTaskAddr, viewAddr, mapVdsoLayout, vtaskSize,
      vvarSize, hAlign]
    omega
  unfold TaskByteMapped
  constructor
  · rintro ⟨_, hBelow, hAt, _, _⟩
    have hAlign : alignUp S pageSize = 3 * pageSize := hView.mp hAt
    refine ⟨hAlign, ?_⟩
    rw [hAddr hAlign] at hBelow
    simp only [mapVdsoLayout, vtaskSize, hAlign] at hBelow
    omega
  · rintro ⟨hAlign, hFit⟩
    have hPages : vtaskSize S / pageSize = 4 := by
      rw [vtaskSize, hAlign]
      decide
    refine ⟨?_, ?_, hView.mpr hAlign, ?_, ?_⟩
    · rw [hAddr hAlign]
      simp only [mapVdsoLayout]
      omega
    · rw [hAddr hAlign]
      simp only [mapVdsoLayout, vtaskSize, hAlign]
      omega
    · simp [vtaskFault, vtaskSize, pageSize]
    · rw [hAddr hAlign]
      apply vtaskPhys_of_fit
      rw [hPages]
      simp only [pageSize] at hFit ⊢
      omega

end Vdso

end OsHomework

------------------------------------------------------------
-- Where the Chain Breaks
------------------------------------------------------------

namespace OsHomework

namespace Vdso

/- A `task_struct` of 9600 bytes whose page offset is 2816. -/
def straddlingPa : Nat := 4096 * 4096 + 2816

/- A user address `get_unmapped_area` can return. -/
def vdsoBase : Nat := 0x7fff00000000

/-
  For a 9600-byte `task_struct` (three pages rounded up) at
  page offset 2816, the view is in place but the task's last
  byte lies past `[vtask]`: its page index is 4 and
  `vtask_fault` answers `SIGBUS`.  For an 8192-byte one (two
  pages) the view the vDSO computes is a page below `[vtask]`.
-/
theorem vtask_view_misses_task :
    ¬ TaskByteMapped 9600 straddlingPa 1 vdsoBase 9599 ∧
    viewAddr (mapVdsoLayout 9600 vvarSize vdsoBase).vvarStart =
      vdsoBase ∧
    getTaskAddr (mapVdsoLayout 9600 vvarSize vdsoBase).vvarStart
        (straddlingPa % pageSize : Nat) + 9599 ≥
      vdsoBase + vtaskSize 9600 ∧
    vtaskFault 9600 straddlingPa 1 true 4 = .sigbus ∧
    viewAddr (mapVdsoLayout 8192 vvarSize vdsoBase).vvarStart =
      (vdsoBase : Int) - pageSize := by
  refine ⟨by decide, by decide, by decide, by decide, by decide⟩

end Vdso

end OsHomework

import OsHomework.Vdso.MapVdso

/-
  The fault handlers of the three special mappings `map_vdso`
  installs, from `arch/x86/entry/vdso/vma.c`, and what a fault
  anywhere in the area they cover resolves to.

  `vdso_fault` serves the text from the image the address
  space records.  `vvar_fault` turns the page index into
  `sym_offset`, the offset from the start of the text, and
  maps the page the image's symbol at that offset names: the
  vvar data (or, for a task in a time namespace, the
  namespace's page, with the real vvar page pre-faulted at
  `sym_timens_page`), the pvclock page or the Hyper-V TSC
  page.  `vmf_insert_pfn` refuses an address outside the VMA
  and answers `VM_FAULT_OOM` when the page tables for the
  address cannot be allocated, which the environment decides;
  `vtask_fault` inserts the frame of a data page with it too.
  A fault goes to the handler of the VMA holding its address.

  The vDSO text reaches each vvar symbol at `text_start`
  plus the symbol's offset; `map_vdso` puts the vvar area
  right below the text, so the offset the handler computes
  from the page index is the offset the text uses.

  Main declarations:
    * `VvarSyms`, `VvarEnv`, `FaultResult`
    * `vdsoFault`, `vvarFault`, `specialFault`, `pageFault`
    * `vvarPageAt`, `vdsoAreaFault`: what each page should map
    * `vvarFault_eq_spec`, `pageFault_vdsoVmas`
-/

------------------------------------------------------------
-- The Handlers
------------------------------------------------------------

namespace OsHomework

namespace Vdso

/-
  The fields of `struct vdso_image` that `vvar_fault` reads
  beyond `sym_vvar_start`: the offsets from the text of the
  vvar pages, 0 for a page the image does not have.
-/
structure VvarSyms where
  symVvarPage : Int
  symPvclockPage : Int
  symHvclockPage : Int
  symTimensPage : Int
deriving DecidableEq, Repr

/-
  What `vvar_fault` finds in the rest of the kernel: the frame
  of `__vvar_page`, the frame of the faulting task's time
  namespace page (`find_timens_vvar_page`, none outside a
  namespace), and the frames of the pvclock page and of the
  Hyper-V TSC page when they exist and a clock uses them.
-/
structure VvarEnv where
  vvarPfn : Nat
  timensPage : Option Nat
  pvclockPfn : Option Nat
  hvclockPfn : Option Nat
deriving DecidableEq, Repr

/-
  What a fault in the vDSO area resolves to; `prefaulted e r`
  put entry `e` in before the fault went on to answer `r`.
-/
inductive FaultResult
  | sigbus
  | oom
  | textPage (offset : Nat)
  | vtask (r : VmFault)
  | ptes (entries : List (Nat × Nat))
  | prefaulted (entry : Nat × Nat) (r : FaultResult)
  | other
  | segv
deriving DecidableEq, Repr

/- Whether a fault ends in `VM_FAULT_SIGBUS`, from whichever handler. -/
def FaultResult.isSigbus : FaultResult → Bool
  | .sigbus => true
  | .vtask r => r == .sigbus
  | .prefaulted _ r => r.isSigbus
  | _ => false

/- The page table entries a fault put in, in the order they went in. -/
def FaultResult.inserted : FaultResult → List (Nat × Nat)
  | .ptes es => es
  | .prefaulted e r => e :: r.inserted
  | _ => []

/-
  `vdso_fault` at page index `pgoff`: the page of the image
  data at `pgoff << PAGE_SHIFT`, or `VM_FAULT_SIGBUS` with no
  image or past its size.
-/
def vdsoFault
    (image : Option VdsoImage)
    (pgoff : Nat) : FaultResult :=
  match image with
  | none => .sigbus
  | some image => if pgoff * pageSize ≥ image.size then .sigbus else .textPage (pgoff * pageSize)

/- What `vmf_insert_pfn` answers: the entry went in, `VM_FAULT_SIGBUS` or `VM_FAULT_OOM`. -/
inductive PfnInsert
  | nopage (entry : Nat × Nat)
  | sigbus
  | oom
deriving DecidableEq, Repr

/-
  `vmf_insert_pfn(vma, addr, pfn)`: refused with `VM_FAULT_SIGBUS`
  outside the VMA, and `VM_FAULT_OOM` when the page tables for
  `addr` cannot be allocated (`ptAlloc`, the environment's).
-/
def vmfInsertPfn
    (ptAlloc : Nat → Bool)
    (v : Vma)
    (addr pfn : Nat) : PfnInsert :=
  if v.start ≤ addr ∧ addr < v.start + v.len then
    if ptAlloc addr then .nopage (addr, pfn) else .oom
  else .sigbus

/- `return vmf_insert_pfn(vma, vmf->address, pfn)`. -/
def insertOne
    (ptAlloc : Nat → Bool)
    (v : Vma)
    (addr pfn : Nat) : FaultResult :=
  match vmfInsertPfn ptAlloc v addr pfn with
  | .nopage e => .ptes [e]
  | .sigbus => .sigbus
  | .oom => .oom

/-
  What `vtask_fault` at `address` comes to: a data page is
  `return vmf_insert_pfn(vma, vmf->address, pfn)`, any other
  answer is the handler's own.
-/
def vtaskInsert
    (ptAlloc : Nat → Bool)
    (v : Vma)
    (address : Nat) : VmFault → FaultResult
  | .pfn f =>
      match vmfInsertPfn ptAlloc v address f with
      | .nopage _ => .vtask (.pfn f)
      | .sigbus => .vtask .sigbus
      | .oom => .vtask .oom
  | r => .vtask r

/-
  `vvar_fault` at page index `pgoff` and page address
  `address` of the VMA `v`, for the image the address space
  records.  A pvclock or Hyper-V page that is absent, or not
  used by any clock, falls through to `VM_FAULT_SIGBUS`.
-/
def vvarFault
    (env : VvarEnv)
    (syms : VvarSyms)
    (ptAlloc : Nat → Bool)
    (image : Option VdsoImage)
    (v : Vma)
    (pgoff address : Nat) : FaultResult :=
  match image with
  | none => .sigbus
  | some image =>
      let symOffset : Int := ((pgoff * pageSize : Nat) : Int) + image.symVvarStart
      if symOffset = 0 then .sigbus
      else if symOffset = syms.symVvarPage then
        match env.timensPage with
        | some timensPfn =>
            -- pre-fault the real vvar page where the time namespace page's symbol points
            let addr := ulong (address + (syms.symTimensPage - symOffset))
            match vmfInsertPfn ptAlloc v addr env.vvarPfn with
            | .sigbus => .sigbus
            | .oom => .oom
            | .nopage e => .prefaulted e (insertOne ptAlloc v address timensPfn)
        | none => insertOne ptAlloc v address env.vvarPfn
      else if symOffset = syms.symPvclockPage then
        match env.pvclockPfn with
        | some pfn => insertOne ptAlloc v address pfn
        | none => .sigbus
      else if symOffset = syms.symHvclockPage then
        match env.hvclockPfn with
        | some pfn => insertOne ptAlloc v address pfn
        | none => .sigbus
      else if symOffset = syms.symTimensPage then
        match env.timensPage with
        | none => .sigbus
        | some _ => insertOne ptAlloc v address env.vvarPfn
      else .sigbus

/-
  Everything the three handlers read besides the address
  space and `sizeof(struct task_struct)`: `vvar_fault`'s
  environment and the image's symbols, for `vtask_fault` the
  physical address and pid of the faulting task's
  `task_struct` and whether `alloc_page` succeeds, and for
  `vmf_insert_pfn` whether the page tables of each address can
  be allocated.
-/
structure FaultEnv where
  vvar : VvarEnv
  syms : VvarSyms
  pa : Nat
  pid : Nat
  allocOk : Bool
  ptAlloc : Nat → Bool

/- `sm->fault(sm, vma, vmf)`: the handler of the VMA's special mapping. -/
def specialFault
    (S : Nat)
    (fenv : FaultEnv)
    (mm : MmVdso)
    (v : Vma)
    (pgoff address : Nat) : FaultResult :=
  match v.mapping with
  | .vdso => vdsoFault mm.vdsoImage pgoff
  | .vvar => vvarFault fenv.vvar fenv.syms fenv.ptAlloc mm.vdsoImage v pgoff address
  | .vtask => vtaskInsert fenv.ptAlloc v address (vtaskFault S fenv.pa fenv.pid fenv.allocOk pgoff)
  | .other _ => .other

/- Whether the VMA holds address `a`. -/
def Vma.contains
    (v : Vma)
    (a : Nat) : Bool :=
  decide (v.start ≤ a) && decide (a < v.start + v.len)

/-
  A user fault at address `a`: the VMA holding it, its page
  index from the VMA's start (`vm_pgoff` is 0 for a special
  mapping) and the page address `a & PAGE_MASK`.
-/
def pageFault
    (S : Nat)
    (fenv : FaultEnv)
    (mm : MmVdso)
    (a : Nat) : FaultResult :=
  match mm.vmas.find? (fun v => v.contains a) with
  | none => .segv
  | some v => specialFault S fenv mm v ((a - v.start) / pageSize) (a / pageSize * pageSize)

end Vdso

end OsHomework

------------------------------------------------------------
-- What Each Page Should Map
------------------------------------------------------------

namespace OsHomework

namespace Vdso

/-
  The frame the vDSO text finds at offset `off` from its start
  inside the vvar area, by the image's symbols: the vvar data,
  or the namespace's page in a time namespace; the pvclock and
  Hyper-V pages when a clock uses them; the real vvar data at
  the time namespace symbol for a task in a namespace.
-/
def vvarPageAt
    (env : VvarEnv)
    (syms : VvarSyms)
    (off : Int) : Option Nat :=
  if off = 0 then none
  else if off = syms.symVvarPage then some (env.timensPage.getD env.vvarPfn)
  else if off = syms.symPvclockPage then env.pvclockPfn
  else if off = syms.symHvclockPage then env.hvclockPfn
  else if off = syms.symTimensPage then env.timensPage.map (fun _ => env.vvarPfn)
  else none

/- An entry inside its VMA goes in, unless the page tables for its address cannot be allocated. -/
def insertAllowed
    (ptAlloc : Nat → Bool)
    (e : Nat × Nat) : FaultResult :=
  if ptAlloc e.1 then .ptes [e] else .oom

/-
  What a fault at page `a` of the vvar area below `textStart`
  should do: map the frame the text finds there, after the real
  vvar page at the time namespace symbol when `a` is the vvar
  page of a task in a namespace.
-/
def vvarAreaFault
    (env : VvarEnv)
    (syms : VvarSyms)
    (ptAlloc : Nat → Bool)
    (textStart a : Nat) : FaultResult :=
  let off : Int := (a : Int) - textStart
  match vvarPageAt env syms off with
  | none => .sigbus
  | some pfn =>
      if off = syms.symVvarPage ∧ env.timensPage.isSome then
        let pre := (textStart + syms.symTimensPage).toNat
        if ptAlloc pre then .prefaulted (pre, env.vvarPfn) (insertAllowed ptAlloc (a, pfn))
        else .oom
      else insertAllowed ptAlloc (a, pfn)

/-
  What `vtask_fault`'s answer should come to at an address of
  `[vtask]`: the frame of a data page goes in, unless the page
  tables for the address cannot be allocated.
-/
def vtaskAreaAnswer
    (ptAlloc : Nat → Bool)
    (a : Nat) : VmFault → FaultResult
  | .pfn f => if ptAlloc a then .vtask (.pfn f) else .vtask .oom
  | r => .vtask r

/-
  What a fault at page `a` of the area `map_vdso` laid out
  should do: a `[vtask]` page goes to `vtask_fault` at its index
  from the area's start, a vvar page as `vvarAreaFault` says,
  and a text page shows the image at its offset from the text.
-/
def vdsoAreaFault
    (S : Nat)
    (fenv : FaultEnv)
    (lay : VdsoLayout)
    (a : Nat) : FaultResult :=
  if a < lay.vvarStart then
    vtaskAreaAnswer fenv.ptAlloc a
      (vtaskFault S fenv.pa fenv.pid fenv.allocOk ((a - lay.vtaskStart) / pageSize))
  else if a < lay.textStart then vvarAreaFault fenv.vvar fenv.syms fenv.ptAlloc lay.textStart a
  else .textPage (a - lay.textStart)

end Vdso

end OsHomework

------------------------------------------------------------
-- The Handlers at map_vdso's Layout
------------------------------------------------------------

namespace OsHomework

namespace Vdso

open PageArith

theorem vmfInsertPfn_of_mem
    (ptAlloc : Nat → Bool)
    {v : Vma}
    {addr : Nat}
    (pfn : Nat)
    (hIn : v.start ≤ addr ∧ addr < v.start + v.len) :
    vmfInsertPfn ptAlloc v addr pfn =
      if ptAlloc addr then .nopage (addr, pfn) else .oom := by
  simp only [vmfInsertPfn, if_pos hIn]

theorem insertOne_of_mem
    (ptAlloc : Nat → Bool)
    {v : Vma}
    {addr : Nat}
    (pfn : Nat)
    (hIn : v.start ≤ addr ∧ addr < v.start + v.len) :
    insertOne ptAlloc v addr pfn = insertAllowed ptAlloc (addr, pfn) := by
  simp only [insertOne, vmfInsertPfn_of_mem ptAlloc pfn hIn, insertAllowed]
  split_ifs <;> rfl

/- Inside `[vtask]`, `vtask_fault`'s answer comes to what it should. -/
theorem vtaskInsert_of_mem
    (ptAlloc : Nat → Bool)
    {v : Vma}
    {a : Nat}
    (hIn : v.start ≤ a ∧ a < v.start + v.len)
    (r : VmFault) :
    vtaskInsert ptAlloc v a r = vtaskAreaAnswer ptAlloc a r := by
  cases r with
  | pfn f =>
      simp only [vtaskInsert, vtaskAreaAnswer, vmfInsertPfn_of_mem ptAlloc f hIn]
      split_ifs <;> rfl
  | _ => rfl

/- A page address of the text is served from the image at its offset. -/
theorem vdsoFault_of_lt
    {image : VdsoImage}
    {off : Nat}
    (hAligned : off % pageSize = 0)
    (hLt : off < image.size) :
    vdsoFault (some image) (off / pageSize) = .textPage off := by
  have hMul : off / pageSize * pageSize = off :=
    Nat.div_mul_cancel (Nat.dvd_of_mod_eq_zero hAligned)
  simp only [vdsoFault, hMul, ge_iff_le, if_neg (Nat.not_le.mpr hLt)]

/- Below `VTASK_SIZE` the `[vtask]` handler never answers `VM_FAULT_SIGBUS`. -/
theorem vtaskFault_ne_sigbus
    {S pa pid pgoff : Nat}
    (allocOk : Bool)
    (hIn : pgoff * pageSize < vtaskSize S) :
    vtaskFault S pa pid allocOk pgoff ≠ .sigbus := by
  simp only [vtaskFault, ge_iff_le, if_neg (Nat.not_le.mpr hIn)]
  split_ifs <;> simp

/-
  In a vvar area of `vvar_size = -sym_vvar_start` bytes ending
  where the text starts, the `sym_offset` of a page is its
  offset from the text.
-/
theorem symOffset_eq
    {image : VdsoImage}
    {vvarStart a : Nat}
    (hSym : image.symVvarStart = -(image.vvarSize : Int))
    (hStart : vvarStart % pageSize = 0)
    (hA : a % pageSize = 0)
    (hLe : vvarStart ≤ a) :
    (((a - vvarStart) / pageSize * pageSize : Nat) : Int) + image.symVvarStart =
      (a : Int) - ((vvarStart + image.vvarSize : Nat) : Int) := by
  have hDvd : pageSize ∣ a - vvarStart := by
    apply Nat.dvd_of_mod_eq_zero
    simp only [pageSize] at hStart hA ⊢
    omega
  rw [Nat.div_mul_cancel hDvd, hSym]
  push_cast
  omega

/-
  `vvar_fault` on the vvar area of `map_vdso`, just below the
  text, does what the image's symbols say: each page gets the
  frame the text finds at its offset, and in a time namespace
  the vvar page also pre-faults the real vvar data at the time
  namespace symbol, which lies inside the area.
-/
theorem vvarFault_eq_spec
    (env : VvarEnv)
    (syms : VvarSyms)
    (ptAlloc : Nat → Bool)
    {image : VdsoImage}
    {v : Vma}
    {a : Nat}
    (hLen : v.len = image.vvarSize)
    (hSym : image.symVvarStart = -(image.vvarSize : Int))
    (hTimens : env.timensPage.isSome →
      -(image.vvarSize : Int) ≤ syms.symTimensPage ∧ syms.symTimensPage < 0)
    (hStart : v.start % pageSize = 0)
    (hA : a % pageSize = 0)
    (hLe : v.start ≤ a)
    (hLt : a < v.start + v.len)
    (hFits : v.start + v.len < 2 ^ 64) :
    vvarFault env syms ptAlloc (some image) v ((a - v.start) / pageSize) a =
      vvarAreaFault env syms ptAlloc (v.start + v.len) a := by
  have hOff := symOffset_eq hSym hStart hA hLe
  have hIn : v.start ≤ a ∧ a < v.start + v.len := ⟨hLe, hLt⟩
  rw [← hLen] at hOff hTimens
  simp only [vvarFault, vvarAreaFault, vvarPageAt, hOff]
  generalize hOffDef : (a : Int) - ((v.start + v.len : Nat) : Int) = off
  -- one case per branch of the handler, in the source's order
  by_cases h0 : off = 0
  · simp only [h0, if_true]
  by_cases hV : off = syms.symVvarPage
  · simp only [h0, eq_true hV, if_false, if_true, true_and]
    cases hT : env.timensPage with
    | none =>
        simp only [Option.getD_none, Option.isSome_none, Bool.false_eq_true, if_false]
        exact insertOne_of_mem ptAlloc _ hIn
    | some t =>
        -- the real vvar page goes in at the namespace symbol, inside the area
        have ⟨hSymLo, hSymHi⟩ := hTimens (by rw [hT]; rfl)
        have hPre : ulong ((a : Int) + (syms.symTimensPage - off)) =
            (((v.start + v.len : Nat) : Int) + syms.symTimensPage).toNat := by
          simp only [ulong]
          rw [Int.emod_eq_of_lt (by omega) (by omega)]
          congr 1
          omega
        have hPreIn : v.start ≤ (((v.start + v.len : Nat) : Int) + syms.symTimensPage).toNat ∧
            (((v.start + v.len : Nat) : Int) + syms.symTimensPage).toNat < v.start + v.len := by
          omega
        simp only [Option.getD_some, Option.isSome_some, if_true, hPre,
          vmfInsertPfn_of_mem ptAlloc _ hPreIn, insertOne_of_mem ptAlloc _ hIn]
        split_ifs <;> rfl
  by_cases hP : off = syms.symPvclockPage
  · simp only [h0, hV, eq_true hP, if_false, if_true, false_and]
    cases env.pvclockPfn with
    | none => rfl
    | some pfn => exact insertOne_of_mem ptAlloc _ hIn
  by_cases hH : off = syms.symHvclockPage
  · simp only [h0, hV, hP, eq_true hH, if_false, if_true, false_and]
    cases env.hvclockPfn with
    | none => rfl
    | some pfn => exact insertOne_of_mem ptAlloc _ hIn
  by_cases hN : off = syms.symTimensPage
  · simp only [h0, hV, hP, hH, eq_true hN, if_false, if_true, false_and]
    cases env.timensPage with
    | none => rfl
    | some _ => exact insertOne_of_mem ptAlloc _ hIn
  · simp only [h0, hV, hP, hH, hN, if_false]

end Vdso

end OsHomework

------------------------------------------------------------
-- A Fault Anywhere in the Area
------------------------------------------------------------

namespace OsHomework

namespace Vdso

open PageArith

theorem vtaskSize_mod
    (S : Nat) :
    vtaskSize S % pageSize = 0 := by
  have hAlign := alignUp_mod S pageSize
  simp only [vtaskSize, pageSize] at hAlign ⊢
  omega

/- A `[vtask]` page goes to `vtask_fault` at its index from the area's start. -/
theorem vdsoAreaFault_of_lt_vvar
    (S : Nat)
    (fenv : FaultEnv)
    {lay : VdsoLayout}
    {a : Nat}
    (h : a < lay.vvarStart) :
    vdsoAreaFault S fenv lay a =
      vtaskAreaAnswer fenv.ptAlloc a
        (vtaskFault S fenv.pa fenv.pid fenv.allocOk ((a - lay.vtaskStart) / pageSize)) :=
  if_pos h

theorem vdsoAreaFault_of_vvar
    (S : Nat)
    (fenv : FaultEnv)
    {lay : VdsoLayout}
    {a : Nat}
    (hLo : lay.vvarStart ≤ a)
    (hHi : a < lay.textStart) :
    vdsoAreaFault S fenv lay a =
      vvarAreaFault fenv.vvar fenv.syms fenv.ptAlloc lay.textStart a := by
  rw [vdsoAreaFault, if_neg (Nat.not_lt.mpr hLo), if_pos hHi]

theorem vdsoAreaFault_of_text
    (S : Nat)
    (fenv : FaultEnv)
    {lay : VdsoLayout}
    {a : Nat}
    (hLe : lay.vvarStart ≤ lay.textStart)
    (hLo : lay.textStart ≤ a) :
    vdsoAreaFault S fenv lay a = .textPage (a - lay.textStart) := by
  rw [vdsoAreaFault, if_neg (by omega), if_neg (Nat.not_lt.mpr hLo)]

/-
  With `map_vdso`'s three VMAs at the head of the address
  space and their image recorded, a fault at any page of the
  area goes to the handler of its region and does what
  `vdsoAreaFault` says: the VMAs are searched newest first,
  so the older ones never take a page of the area.
-/
theorem pageFault_vdsoVmas
    (S : Nat)
    (fenv : FaultEnv)
    {image : VdsoImage}
    {area : Nat}
    {mm : MmVdso}
    {rest : List Vma}
    (hVmas : mm.vmas = vdsoVmas S image area ++ rest)
    (hImage : mm.vdsoImage = some image)
    (hArea : area % pageSize = 0)
    (hSym : image.symVvarStart = -(image.vvarSize : Int))
    (hVvar : image.vvarSize % pageSize = 0)
    (hTimens : fenv.vvar.timensPage.isSome →
      -(image.vvarSize : Int) ≤ fenv.syms.symTimensPage ∧ fenv.syms.symTimensPage < 0)
    (hFits : area + mapLen S image < 2 ^ 64)
    {a : Nat}
    (hA : a % pageSize = 0)
    (hLo : area ≤ a)
    (hHi : a < area + mapLen S image) :
    pageFault S fenv mm a = vdsoAreaFault S fenv (mapVdsoLayout S image.vvarSize area) a := by
  have hVtask := vtaskSize_mod S
  have hPage : a / pageSize * pageSize = a := Nat.div_mul_cancel (Nat.dvd_of_mod_eq_zero hA)
  simp only [mapLen] at hHi hFits
  -- the region of `a`, from the bottom of the area up
  by_cases hInVtask : a < area + vtaskSize S
  · rw [vdsoAreaFault_of_lt_vvar S fenv hInVtask]
    simp only [pageFault, hVmas, vdsoVmas, mapVdsoLayout, List.cons_append, List.find?_cons,
      Vma.contains, decide_eq_true hLo, decide_eq_true hInVtask, Bool.and_self, specialFault, hPage]
    exact vtaskInsert_of_mem fenv.ptAlloc ⟨hLo, hInVtask⟩ _
  by_cases hInVvar : a < area + vtaskSize S + image.vvarSize
  · have hVvarLo : area + vtaskSize S ≤ a := by omega
    rw [vdsoAreaFault_of_vvar S fenv hVvarLo hInVvar]
    simp only [pageFault, hVmas, vdsoVmas, mapVdsoLayout, List.cons_append, List.find?_cons,
      Vma.contains, decide_eq_true hLo, decide_eq_false hInVtask, Bool.and_false,
      decide_eq_true hVvarLo, decide_eq_true hInVvar, Bool.and_self, specialFault, hImage, hPage]
    exact vvarFault_eq_spec (v := ⟨area + vtaskSize S, image.vvarSize, .vvar⟩) fenv.vvar fenv.syms
      fenv.ptAlloc rfl hSym hTimens (by simp only [pageSize] at hArea hVtask ⊢; omega) hA hVvarLo hInVvar
      (show area + vtaskSize S + image.vvarSize < 2 ^ 64 by omega)
  · have hVvarLo : area + vtaskSize S ≤ a := by omega
    have hTextLo : area + vtaskSize S + image.vvarSize ≤ a := by omega
    rw [vdsoAreaFault_of_text S fenv (Nat.le_add_right _ _) hTextLo]
    simp only [pageFault, hVmas, vdsoVmas, mapVdsoLayout, List.cons_append, List.find?_cons,
      Vma.contains, decide_eq_true hLo, decide_eq_false hInVtask, Bool.and_false,
      decide_eq_true hVvarLo, decide_eq_false hInVvar, decide_eq_true hTextLo,
      decide_eq_true (show a < area + vtaskSize S + image.vvarSize + image.size by omega),
      Bool.and_self, specialFault, hImage]
    apply vdsoFault_of_lt
    · simp only [pageSize] at hArea hVtask hVvar hA ⊢
      omega
    · omega

end Vdso

end OsHomework

------------------------------------------------------------
-- After map_vdso Returns 0
------------------------------------------------------------

namespace OsHomework

namespace Vdso

@[simp]
theorem insertAllowed_isSigbus
    (ptAlloc : Nat → Bool)
    (e : Nat × Nat) :
    (insertAllowed ptAlloc e).isSigbus = false := by
  unfold insertAllowed
  split_ifs <;> rfl

/- `vtask_fault`'s answer raises `SIGBUS` only when the handler itself answers it. -/
theorem vtaskAreaAnswer_isSigbus
    (ptAlloc : Nat → Bool)
    (a : Nat)
    (r : VmFault) :
    (vtaskAreaAnswer ptAlloc a r).isSigbus = (r == .sigbus) := by
  cases r with
  | pfn f =>
      simp only [vtaskAreaAnswer]
      split_ifs <;> rfl
  | _ => rfl

theorem vvarAreaFault_isSigbus_iff
    (env : VvarEnv)
    (syms : VvarSyms)
    (ptAlloc : Nat → Bool)
    (textStart a : Nat) :
    (vvarAreaFault env syms ptAlloc textStart a).isSigbus ↔
      vvarPageAt env syms ((a : Int) - textStart) = none := by
  simp only [vvarAreaFault]
  cases vvarPageAt env syms ((a : Int) - textStart) with
  | none => simp [FaultResult.isSigbus]
  | some pfn =>
      simp only [reduceCtorEq, iff_false]
      split_ifs <;> simp [FaultResult.isSigbus]

/-
  In the area, only a vvar page whose offset names no present
  page raises `SIGBUS`: `[vtask]` pages lie below `VTASK_SIZE`
  and the text pages below the image's size.
-/
theorem vdsoAreaFault_isSigbus_iff
    (S : Nat)
    (fenv : FaultEnv)
    {lay : VdsoLayout}
    {a : Nat}
    (hVtask : lay.vtaskStart ≤ a)
    (hVvarStart : lay.vvarStart = lay.vtaskStart + vtaskSize S)
    (hLe : lay.vvarStart ≤ lay.textStart) :
    (vdsoAreaFault S fenv lay a).isSigbus ↔
      lay.vvarStart ≤ a ∧ a < lay.textStart ∧
        vvarPageAt fenv.vvar fenv.syms ((a : Int) - lay.textStart) = none := by
  by_cases hInVtask : a < lay.vvarStart
  · -- a `[vtask]` page: its offset from the area's start is below `VTASK_SIZE`
    rw [vdsoAreaFault_of_lt_vvar S fenv hInVtask]
    have hIdx : (a - lay.vtaskStart) / pageSize * pageSize < vtaskSize S := by
      have hDown := Nat.div_mul_le_self (a - lay.vtaskStart) pageSize
      omega
    have hNe := @vtaskFault_ne_sigbus S fenv.pa fenv.pid _ fenv.allocOk hIdx
    simp only [vtaskAreaAnswer_isSigbus, beq_iff_eq, hNe, false_iff, not_and]
    intro hLo
    omega
  by_cases hInVvar : a < lay.textStart
  · rw [vdsoAreaFault_of_vvar S fenv (Nat.not_lt.mp hInVtask) hInVvar,
      vvarAreaFault_isSigbus_iff]
    simp [Nat.not_lt.mp hInVtask, hInVvar]
  · rw [vdsoAreaFault_of_text S fenv hLe (Nat.not_lt.mp hInVvar)]
    simp [FaultResult.isSigbus, hInVvar]

/- `map_vdso` returns 0 only after installing all three regions and recording the image. -/
theorem mapVdso_of_ret_eq_zero
    {env : MapEnv}
    {S addr : Nat}
    {image : VdsoImage}
    {mm : MmVdso}
    (hNoWrap : mapLen S image < 2 ^ 64)
    (hOk : (mapVdso env S image addr mm).2 = 0) :
    ¬ IsErrValue (env.unmappedArea addr (mapLen S image)) ∧
      (mapVdso env S image addr mm).1 =
        { vmas := vdsoVmas S image (env.unmappedArea addr (mapLen S image)) ++ mm.vmas,
          vdso := (mapVdsoLayout S image.vvarSize
            (env.unmappedArea addr (mapLen S image))).textStart,
          vdsoImage := some image } := by
  rw [mapVdso_eq_spec env S image addr mm hNoWrap] at hOk ⊢
  simp only [mapVdsoSpec] at hOk ⊢
  split_ifs at hOk ⊢ with hKill hErr
  · simp [EINTR] at hOk
  · have hLt := env.unmappedArea_lt addr (mapLen S image)
    omega
  · cases hAll : installAll env.ops (vdsoSteps env S image (env.unmappedArea addr (mapLen S image)))
        mm.vmas with
    | error e =>
        have hPos := e.pos
        simp only [hAll] at hOk
        omega
    | ok vmas =>
        refine ⟨hErr, ?_⟩
        simp only [(installAll_vdsoSteps_eq_ok hAll).1]

/-
  After a `map_vdso` that returns 0, a fault at any page of the
  area it mapped does what the layout and the image's symbols
  say: `[vtask]` pages go to `vtask_fault`, the vvar pages map
  the frames the text finds at their offsets (with the time
  namespace pre-fault), and the text pages show the image at
  their offset.  Only a vvar page whose offset names no present
  page raises `SIGBUS`.
-/
theorem map_vdso_area_faults_as_laid_out
    (env : MapEnv)
    (S : Nat)
    (image : VdsoImage)
    (addr : Nat)
    (mm : MmVdso)
    (fenv : FaultEnv)
    (hNoWrap : mapLen S image < 2 ^ 64)
    (hOk : (mapVdso env S image addr mm).2 = 0)
    (hArea : env.unmappedArea addr (mapLen S image) % pageSize = 0)
    (hSym : image.symVvarStart = -(image.vvarSize : Int))
    (hVvar : image.vvarSize % pageSize = 0)
    (hTimens : fenv.vvar.timensPage.isSome →
      -(image.vvarSize : Int) ≤ fenv.syms.symTimensPage ∧ fenv.syms.symTimensPage < 0) :
    let area := env.unmappedArea addr (mapLen S image)
    let lay := mapVdsoLayout S image.vvarSize area
    ∀ a, a % pageSize = 0 → area ≤ a → a < area + mapLen S image →
      pageFault S fenv (mapVdso env S image addr mm).1 a = vdsoAreaFault S fenv lay a ∧
        ((pageFault S fenv (mapVdso env S image addr mm).1 a).isSigbus ↔
          lay.vvarStart ≤ a ∧ a < lay.textStart ∧
            vvarPageAt fenv.vvar fenv.syms ((a : Int) - lay.textStart) = none) := by
  intro area lay a hA hLo hHi
  have ⟨hNoErr, hMm⟩ := mapVdso_of_ret_eq_zero hNoWrap hOk
  have hFits := env.unmappedArea_fits addr (mapLen S image) hNoErr
  have hFault : pageFault S fenv (mapVdso env S image addr mm).1 a = vdsoAreaFault S fenv lay a :=
    pageFault_vdsoVmas S fenv (by rw [hMm]) (by rw [hMm]) hArea hSym hVvar hTimens hFits hA hLo hHi
  refine ⟨hFault, ?_⟩
  rw [hFault]
  exact vdsoAreaFault_isSigbus_iff S fenv hLo rfl (Nat.le_add_right _ _)

/- The upstream vvar layout: the vvar data, pvclock, Hyper-V and time namespace pages in turn. -/
def demoSyms : VvarSyms :=
  ⟨-16384, -12288, -8192, -4096⟩

/- A task in a time namespace, on a machine with neither paravirtual clock page, with memory to spare. -/
def demoFaultEnv : FaultEnv where
  vvar := ⟨0x1234, some 0x5678, none, none⟩
  syms := demoSyms
  pa := straddlingPa
  pid := 1
  allocOk := true
  ptAlloc := fun _ => true

theorem map_vdso_area_faults_as_laid_out_demo :
    (mapVdso (demoEnv false) 9600 demoImage 0 emptyMm).2 = 0 ∧
      pageFault 9600 demoFaultEnv (mapVdso (demoEnv false) 9600 demoImage 0 emptyMm).1
          (vdsoBase + vtaskSize 9600) =
        vdsoAreaFault 9600 demoFaultEnv (mapVdsoLayout 9600 demoImage.vvarSize vdsoBase)
          (vdsoBase + vtaskSize 9600) := by
  have hLen : mapLen 9600 demoImage < 2 ^ 64 := by decide
  have hArea : (demoEnv false).unmappedArea 0 (mapLen 9600 demoImage) = vdsoBase := by decide
  have hOk : (mapVdso (demoEnv false) 9600 demoImage 0 emptyMm).2 = 0 := by
    rw [@mapVdso_ok_of_free (demoEnv false) 9600 0 demoImage emptyMm hLen rfl
      (by rw [hArea]; decide) (by simp [emptyMm]) ⟨rfl, rfl, rfl⟩]
  have hAll := map_vdso_area_faults_as_laid_out (demoEnv false) 9600 demoImage 0 emptyMm
    demoFaultEnv hLen hOk (by rw [hArea]; decide) (by decide) (by decide) (fun _ => by decide)
  simp only [hArea] at hAll
  exact ⟨hOk, (hAll (vdsoBase + vtaskSize 9600) (by decide) (by decide) (by decide)).1⟩

/- In the namespace, the vvar page maps the namespace's page after the real one, a page up. -/
example :
    vdsoAreaFault 9600 demoFaultEnv (mapVdsoLayout 9600 demoImage.vvarSize vdsoBase)
        (vdsoBase + vtaskSize 9600) =
      .prefaulted (vdsoBase + vtaskSize 9600 + 3 * pageSize, 0x1234)
        (.ptes [(vdsoBase + vtaskSize 9600, 0x5678)]) := by
  decide

/- When the vvar page's own page table cannot be allocated, the real page stays pre-faulted. -/
example :
    vdsoAreaFault 9600 { demoFaultEnv with ptAlloc := fun a => a ≠ vdsoBase + vtaskSize 9600 }
        (mapVdsoLayout 9600 demoImage.vvarSize vdsoBase) (vdsoBase + vtaskSize 9600) =
      .prefaulted (vdsoBase + vtaskSize 9600 + 3 * pageSize, 0x1234) .oom := by
  decide

end Vdso

end OsHomework

import OsHomework.Lib.Extent
import OsHomework.Vdso.Layout

/-
  `map_vdso` of `arch/x86/entry/vdso/vma.c` as the vDSO patch
  leaves it: take the mmap lock, ask `get_unmapped_area` for
  room for the three regions, then install the `[vdso]` text,
  `[vvar]` and `[vtask]` one after another, undoing what was
  installed when a later one fails.

  The address space is the list of its VMAs, newest first.
  `_install_special_mapping` and `do_munmap` live in
  `mm/mmap.c`, outside these sources: they are the fields of
  `MmapOps`, whose other fields state what their documentation
  says they do, and `map_vdso` takes them from its environment.
  An install fails with the errno of the VMA allocation when
  that fails, which the environment decides, or with `-ENOMEM`
  when the range overlaps a mapped one (`insert_vm_struct`).
  `get_unmapped_area` is the environment's too: it returns an
  `unsigned long` that is either an error value or the start of
  a range that fits below `2^64`.  Addresses are 64-bit
  unsigned, `sym_vvar_start` is signed, and `ret = addr` keeps
  the low 32 bits of the address.

  Main declarations:
    * `Vma`, `VdsoImage`, `MmVdso`, `MmapOps`, `MapEnv`
    * `mapVdso`
    * `installAll`, `mapVdsoSpec`: all three regions or none
    * `mapVdso_eq_spec`, `mapVdso_ok_of_free`
-/

------------------------------------------------------------
-- Mappings, Images and the Environment
------------------------------------------------------------

namespace OsHomework

namespace Vdso

/- The errnos `map_vdso` and `insert_vm_struct` return by their own rules. -/
def EINTR : Nat := 4
def ENOMEM : Nat := 12

/- `MAX_ERRNO`: error pointers and error values carry `1 ≤ e ≤ 4095`. -/
def maxErrno : Nat := 4095

/- An errno an `ERR_PTR` can carry. -/
structure Errno where
  val : Nat
  pos : 0 < val
  le_max : val ≤ maxErrno

/- The `ERR_PTR(-ENOMEM)` of `insert_vm_struct`. -/
def Errno.enomem : Errno :=
  ⟨ENOMEM, by decide, by decide⟩

/- What a VMA maps: one of the three special mappings, or anything else. -/
inductive Mapping
  | vdso
  | vvar
  | vtask
  | other (id : Nat)
deriving DecidableEq, Repr

/- A VMA: `len` bytes from `start`, and what it maps. -/
structure Vma where
  start : Nat
  len : Nat
  mapping : Mapping
deriving DecidableEq, Repr

/- The addresses of a VMA. -/
def Vma.extent
    (v : Vma) : Extent :=
  ⟨v.start, v.len⟩

/- The two fields of `struct vdso_image` that `map_vdso` reads. -/
structure VdsoImage where
  size : Nat
  symVvarStart : Int
deriving DecidableEq, Repr

/- `(unsigned long)x`: the value modulo `2^64`. -/
def ulong
    (x : Int) : Nat :=
  (x % 2 ^ 64).toNat

/- `vvar_size = -image->sym_vvar_start`, an `unsigned long`. -/
def VdsoImage.vvarSize
    (image : VdsoImage) : Nat :=
  ulong (-image.symVvarStart)

/- What `map_vdso` reads and writes of the `mm_struct`. -/
structure MmVdso where
  vmas : List Vma
  vdso : Nat
  vdsoImage : Option VdsoImage
deriving DecidableEq, Repr

/- `IS_ERR_VALUE(x)`: `x ≥ (unsigned long)-MAX_ERRNO`. -/
def IsErrValue
    (x : Nat) : Prop :=
  2 ^ 64 - maxErrno ≤ x

instance : DecidablePred IsErrValue :=
  fun x => inferInstanceAs (Decidable (2 ^ 64 - maxErrno ≤ x))

/- Whether two VMAs overlap, as `find_vma_links` tests it. -/
def Vma.overlaps
    (v w : Vma) : Bool :=
  v.extent.overlaps w.extent

/-
  `_install_special_mapping(mm, addr, len, flags, spec)` and
  `do_munmap(mm, start, len, NULL)` on the VMA list, with what
  their documentation promises.  An install fails with the errno
  of the VMA allocation when that fails, and with `-ENOMEM` when
  `insert_vm_struct` finds the range overlapping a mapped one;
  else the VMA joins the address space.  Unmapping exactly the
  range of a VMA that overlaps no other removes that VMA alone,
  and a VMA of another range outside the unmapped one stays.
-/
structure MmapOps where
  installSpecialMapping : Option Errno → List Vma → Vma → Except Errno (List Vma)
  doMunmap : List Vma → Nat → Nat → List Vma
  install_alloc : ∀ e vmas v, installSpecialMapping (some e) vmas v = .error e
  install_overlap : ∀ vmas v, vmas.any v.overlaps = true →
    installSpecialMapping none vmas v = .error Errno.enomem
  install_fresh : ∀ vmas v, vmas.any v.overlaps = false →
    installSpecialMapping none vmas v = .ok (v :: vmas)
  munmap_self : ∀ v vmas, vmas.any v.overlaps = false →
    doMunmap (v :: vmas) v.start v.len = vmas
  munmap_outside : ∀ v vmas start len, (v.start ≠ start ∨ v.len ≠ len) →
    v.extent.overlaps ⟨start, len⟩ = false →
    doMunmap (v :: vmas) start len = v :: doMunmap vmas start len

/- The VMAs left when the newest VMA of exactly `[start, start + len)` goes. -/
def eraseVma
    (vmas : List Vma)
    (start len : Nat) : List Vma :=
  vmas.eraseP (fun v => v.start == start && v.len == len)

/-
  The list implementation: an install goes in front of the
  others, an unmap erases the newest VMA of the range.
-/
def MmapOps.list : MmapOps where
  installSpecialMapping err vmas v :=
    match err with
    | some e => .error e
    | none => if vmas.any v.overlaps then .error Errno.enomem else .ok (v :: vmas)
  doMunmap := eraseVma
  install_alloc _ _ _ := rfl
  install_overlap vmas v h := by simp only [h, if_true]
  install_fresh vmas v h := by simp only [h, Bool.false_eq_true, if_false]
  munmap_self v vmas _ := by simp [eraseVma]
  munmap_outside v vmas start len hNe _ := by
    have hMiss : (v.start == start && v.len == len) = false := by
      rcases hNe with hNe | hNe <;> simp [hNe]
    simp only [eraseVma, List.eraseP_cons, hMiss, cond_false]

/-
  The calls whose outcome is not `map_vdso`'s to decide:
  `_install_special_mapping` and `do_munmap`, whether
  `mmap_write_lock_killable` is interrupted, the address
  `get_unmapped_area(NULL, addr, len, 0, 0)` returns (an error
  value, or a range that ends below `2^64`, as its `TASK_SIZE -
  len` test makes sure), and the errno with which each VMA
  allocation fails, or none.
-/
structure MapEnv where
  ops : MmapOps
  lockKilled : Bool
  unmappedArea : Nat → Nat → Nat
  unmappedArea_lt : ∀ addr len, unmappedArea addr len < 2 ^ 64
  unmappedArea_fits : ∀ addr len,
    ¬ IsErrValue (unmappedArea addr len) → unmappedArea addr len + len < 2 ^ 64
  textErr : Option Errno
  vvarErr : Option Errno
  vtaskErr : Option Errno

/- `int ret = addr`: the low 32 bits of an `unsigned long`, as a signed `int`. -/
def toCInt
    (x : Nat) : Int :=
  let low : Nat := x % 2 ^ 32
  if low < 2 ^ 31 then (low : Int) else (low : Int) - 2 ^ 32

end Vdso

end OsHomework

------------------------------------------------------------
-- map_vdso
------------------------------------------------------------

namespace OsHomework

namespace Vdso

/-
  `map_vdso(image, addr)` run by a task of `sizeof(task_struct)
  = S`.  It returns the address space and `ret`.
-/
def mapVdso
    (env : MapEnv)
    (S : Nat)
    (image : VdsoImage)
    (addr : Nat)
    (mm : MmVdso) : MmVdso × Int :=
  if env.lockKilled then (mm, -(EINTR : Int))
  else
    let addr := env.unmappedArea addr (ulong (image.size - image.symVvarStart + vtaskSize S))
    if IsErrValue addr then (mm, toCInt addr)
    else
      let vtaskStart := addr
      let vvarStart := (addr + vtaskSize S) % 2 ^ 64
      let textStart := (addr + vtaskSize S + image.vvarSize) % 2 ^ 64
      match env.ops.installSpecialMapping env.textErr mm.vmas ⟨textStart, image.size, .vdso⟩ with
      | .error e => (mm, -(e.val : Int))
      | .ok vmas =>
          match env.ops.installSpecialMapping env.vvarErr vmas ⟨vvarStart, image.vvarSize, .vvar⟩ with
          | .error e =>
              ({ mm with vmas := env.ops.doMunmap vmas textStart image.size }, -(e.val : Int))
          | .ok vmas =>
              match env.ops.installSpecialMapping env.vtaskErr vmas
                  ⟨vtaskStart, vtaskSize S, .vtask⟩ with
              | .error e =>
                  -- the text first, then the vvar area, as the source unmaps them
                  let vmas := env.ops.doMunmap (env.ops.doMunmap vmas textStart image.size)
                    vvarStart image.vvarSize
                  ({ mm with vmas }, -(e.val : Int))
              | .ok vmas => ({ vmas, vdso := textStart, vdsoImage := some image }, 0)

end Vdso

end OsHomework

------------------------------------------------------------
-- All Three Regions or None
------------------------------------------------------------

namespace OsHomework

namespace Vdso

/- The bytes `map_vdso` asks for: text, vvar area and `[vtask]`. -/
def mapLen
    (S : Nat)
    (image : VdsoImage) : Nat :=
  image.size + image.vvarSize + vtaskSize S

/- The three VMAs at the layout of `area`, in address order. -/
def vdsoVmas
    (S : Nat)
    (image : VdsoImage)
    (area : Nat) : List Vma :=
  let lay := mapVdsoLayout S image.vvarSize area
  [⟨lay.vtaskStart, vtaskSize S, .vtask⟩,
   ⟨lay.vvarStart, image.vvarSize, .vvar⟩,
   ⟨lay.textStart, image.size, .vdso⟩]

/- The installs in the order `map_vdso` makes them, each with its allocation's errno. -/
def vdsoSteps
    (env : MapEnv)
    (S : Nat)
    (image : VdsoImage)
    (area : Nat) : List (Option Errno × Vma) :=
  [env.textErr, env.vvarErr, env.vtaskErr].zip (vdsoVmas S image area).reverse

/- Install VMAs one after another; the first failure is the result. -/
def installAll
    (ops : MmapOps) : List (Option Errno × Vma) → List Vma → Except Errno (List Vma)
  | [], vmas => .ok vmas
  | (err, v) :: steps, vmas =>
      match ops.installSpecialMapping err vmas v with
      | .error e => .error e
      | .ok vmas => installAll ops steps vmas

/-
  What `map_vdso` is for: map all three regions at the area
  `get_unmapped_area` returns and record the text, or change
  nothing and return the error of the step that failed.
-/
def mapVdsoSpec
    (env : MapEnv)
    (S : Nat)
    (image : VdsoImage)
    (addr : Nat)
    (mm : MmVdso) : MmVdso × Int :=
  if env.lockKilled then (mm, -(EINTR : Int))
  else
    let area := env.unmappedArea addr (mapLen S image)
    if IsErrValue area then (mm, (area : Int) - 2 ^ 64)
    else
      match installAll env.ops (vdsoSteps env S image area) mm.vmas with
      | .error e => (mm, -(e.val : Int))
      | .ok vmas =>
          ({ vmas, vdso := (mapVdsoLayout S image.vvarSize area).textStart,
             vdsoImage := some image }, 0)

end Vdso

end OsHomework

------------------------------------------------------------
-- What Each Step Does
------------------------------------------------------------

namespace OsHomework

namespace Vdso

/- The length `map_vdso` computes in unsigned arithmetic is `mapLen` when it does not wrap. -/
theorem ulong_mapLen
    {S : Nat}
    {image : VdsoImage}
    (hNoWrap : mapLen S image < 2 ^ 64) :
    ulong (image.size - image.symVvarStart + vtaskSize S) = mapLen S image := by
  simp only [mapLen, VdsoImage.vvarSize, ulong] at hNoWrap ⊢
  omega

/- `ret = addr` on an error value gives the negative errno it carries. -/
theorem toCInt_of_isErrValue
    {x : Nat}
    (hErr : IsErrValue x)
    (hLt : x < 2 ^ 64) :
    toCInt x = (x : Int) - 2 ^ 64 := by
  simp only [IsErrValue, maxErrno] at hErr
  simp only [toCInt]
  split_ifs <;> omega

theorem Vma.any_overlaps_eq_false
    {v : Vma}
    {vmas : List Vma}
    (hMiss : ∀ w ∈ vmas, v.overlaps w = false) :
    vmas.any v.overlaps = false :=
  List.any_eq_false.mpr (by simpa using hMiss)

/- An install that succeeds had no allocation failure, and its VMA misses the old ones and joins them. -/
theorem MmapOps.install_eq_ok
    (ops : MmapOps)
    {err : Option Errno}
    {vmas r : List Vma}
    {v : Vma}
    (h : ops.installSpecialMapping err vmas v = .ok r) :
    err = none ∧ (∀ w ∈ vmas, v.overlaps w = false) ∧ r = v :: vmas := by
  cases err with
  | some e =>
      rw [ops.install_alloc] at h
      cases h
  | none =>
      cases hAny : vmas.any v.overlaps with
      | true =>
          rw [ops.install_overlap vmas v hAny] at h
          cases h
      | false =>
          rw [ops.install_fresh vmas v hAny, Except.ok.injEq] at h
          exact ⟨rfl, by simpa using hAny, h.symm⟩

/-
  Unmapping the range of the older of the two newest VMAs, then
  that of the newer, removes both when each missed the VMAs
  older than itself, also when the two have the same range.
-/
theorem MmapOps.munmap_undo_two
    (ops : MmapOps)
    {x y : Vma}
    {vmas : List Vma}
    (hY : vmas.any y.overlaps = false)
    (hX : (y :: vmas).any x.overlaps = false) :
    ops.doMunmap (ops.doMunmap (x :: y :: vmas) y.start y.len) x.start x.len = vmas := by
  have hXOld : vmas.any x.overlaps = false := by
    simp only [List.any_cons, Bool.or_eq_false_iff] at hX
    exact hX.2
  by_cases hSame : x.start = y.start ∧ x.len = y.len
  · -- the first unmap takes `x`, and `y` has the range of the second
    have hFirst : ops.doMunmap (x :: y :: vmas) y.start y.len = y :: vmas := by
      rw [← hSame.1, ← hSame.2, ops.munmap_self x (y :: vmas) hX]
    rw [hFirst, hSame.1, hSame.2, ops.munmap_self y vmas hY]
  · -- `x` lies outside the range of `y`, which the install tested
    have hApart : x.extent.overlaps ⟨y.start, y.len⟩ = false := by
      simp only [List.any_cons, Bool.or_eq_false_iff] at hX
      exact hX.1
    have hFirst : ops.doMunmap (x :: y :: vmas) y.start y.len = x :: vmas := by
      rw [ops.munmap_outside x (y :: vmas) y.start y.len (by omega) hApart,
        ops.munmap_self y vmas hY]
    rw [hFirst, ops.munmap_self x vmas hXOld]

/-
  A run of installs that succeeds put every VMA in, newest
  first, each missing every VMA mapped before the run.
-/
theorem installAll_eq_ok
    (ops : MmapOps) :
    ∀ {steps : List (Option Errno × Vma)} {vmas r : List Vma},
      installAll ops steps vmas = .ok r →
      r = (steps.map Prod.snd).reverse ++ vmas ∧
        ∀ s ∈ steps, s.1 = none ∧ ∀ w ∈ vmas, s.2.overlaps w = false
  | [], vmas, r, h => by
      simp only [installAll, Except.ok.injEq] at h
      simp [h]
  | (err, v) :: steps, vmas, r, h => by
      simp only [installAll] at h
      cases hStep : ops.installSpecialMapping err vmas v with
      | error e => simp [hStep] at h
      | ok vmas₁ =>
          simp only [hStep] at h
          have ⟨hErr, hMiss, hVmas₁⟩ := ops.install_eq_ok hStep
          have ⟨hR, hRest⟩ := installAll_eq_ok ops h
          refine ⟨by simp [hR, hVmas₁], ?_⟩
          intro s hs
          rcases List.mem_cons.1 hs with rfl | hs
          · exact ⟨hErr, hMiss⟩
          · -- a later install missed `v` and the old VMAs alike
            have ⟨hNone, hMissAll⟩ := hRest s hs
            exact ⟨hNone, fun w hw => hMissAll w (by simp [hVmas₁, hw])⟩

end Vdso

end OsHomework

------------------------------------------------------------
-- The Code Maps All Three Regions or None
------------------------------------------------------------

namespace OsHomework

namespace Vdso

/- Within the area `get_unmapped_area` returned, the unsigned sums are plain sums. -/
theorem mapVdso_starts
    {S area : Nat}
    {image : VdsoImage}
    (hFits : area + mapLen S image < 2 ^ 64) :
    (area + vtaskSize S) % 2 ^ 64 = area + vtaskSize S ∧
      (area + vtaskSize S + image.vvarSize) % 2 ^ 64 = area + vtaskSize S + image.vvarSize := by
  simp only [mapLen] at hFits
  constructor <;> apply Nat.mod_eq_of_lt <;> omega

/-
  `map_vdso` refines the all-or-nothing mapping: each failure
  exit unmaps exactly what the installs before it mapped.
-/
theorem mapVdso_eq_spec
    (env : MapEnv)
    (S : Nat)
    (image : VdsoImage)
    (addr : Nat)
    (mm : MmVdso)
    (hNoWrap : mapLen S image < 2 ^ 64) :
    mapVdso env S image addr mm = mapVdsoSpec env S image addr mm := by
  simp only [mapVdso, mapVdsoSpec, ulong_mapLen hNoWrap]
  split_ifs with hKill hErr
  · rfl
  · exact congrArg _ (toCInt_of_isErrValue hErr (env.unmappedArea_lt _ _))
  · -- the area fits, so the three starts are the layout's
    have ⟨hVvar, hText⟩ := mapVdso_starts (env.unmappedArea_fits addr _ hErr)
    generalize env.unmappedArea addr (mapLen S image) = area at hVvar hText ⊢
    simp only [hVvar, hText, vdsoSteps, vdsoVmas, mapVdsoLayout, List.reverse_cons,
      List.reverse_nil, List.nil_append, List.cons_append, List.zip_cons_cons, List.zip_nil_right,
      installAll]
    -- one case per install, in the order the source makes them
    cases hTextOk : env.ops.installSpecialMapping env.textErr mm.vmas
        ⟨area + vtaskSize S + image.vvarSize, image.size, .vdso⟩ with
    | error e => rfl
    | ok vmas₁ =>
        obtain ⟨-, hMissText, hVmas₁⟩ := env.ops.install_eq_ok hTextOk
        dsimp only
        cases hVvarOk : env.ops.installSpecialMapping env.vvarErr vmas₁
            ⟨area + vtaskSize S, image.vvarSize, .vvar⟩ with
        | error e =>
            dsimp only
            rw [hVmas₁, env.ops.munmap_self _ _ (Vma.any_overlaps_eq_false hMissText)]
        | ok vmas₂ =>
            obtain ⟨-, hMissVvar, hVmas₂⟩ := env.ops.install_eq_ok hVvarOk
            rw [hVmas₁] at hMissVvar
            dsimp only
            cases hVtaskOk : env.ops.installSpecialMapping env.vtaskErr vmas₂
                ⟨area, vtaskSize S, .vtask⟩ with
            | error e =>
                dsimp only
                rw [hVmas₂, hVmas₁, env.ops.munmap_undo_two (Vma.any_overlaps_eq_false hMissText)
                  (Vma.any_overlaps_eq_false hMissVvar)]
            | ok vmas₃ => rfl

end Vdso

end OsHomework

------------------------------------------------------------
-- Where the Regions Lie
------------------------------------------------------------

namespace OsHomework

namespace Vdso

/- `[vtask]`, `[vvar]` and the text follow one another over the whole area. -/
theorem vdsoVmas_tile
    (S : Nat)
    (image : VdsoImage)
    (area : Nat) :
    Extent.Tile area ((vdsoVmas S image area).map Vma.extent) (area + mapLen S image) := by
  simp only [vdsoVmas, mapVdsoLayout, List.map_cons, List.map_nil, Vma.extent,
    Extent.tile_cons, Extent.tile_nil, Extent.stop, mapLen, true_and]
  omega

/- The VMAs of the install steps are the layout's, last installed first. -/
theorem vdsoSteps_map_snd
    (env : MapEnv)
    (S : Nat)
    (image : VdsoImage)
    (area : Nat) :
    (vdsoSteps env S image area).map Prod.snd = (vdsoVmas S image area).reverse := by
  simp [vdsoSteps, vdsoVmas]

/- When the installs succeed, the layout's VMAs join the old ones, and miss them. -/
theorem installAll_vdsoSteps_eq_ok
    {env : MapEnv}
    {S area : Nat}
    {image : VdsoImage}
    {vmas r : List Vma}
    (h : installAll env.ops (vdsoSteps env S image area) vmas = .ok r) :
    r = vdsoVmas S image area ++ vmas ∧
      ∀ v ∈ vdsoVmas S image area, ∀ w ∈ vmas, Disjoint v.extent.range w.extent.range := by
  have ⟨hR, hSteps⟩ := installAll_eq_ok env.ops h
  refine ⟨by rw [hR, vdsoSteps_map_snd, List.reverse_reverse], ?_⟩
  intro v hv w hw
  -- `v` is the VMA of one of the install steps
  have hMem : v ∈ (vdsoSteps env S image area).map Prod.snd := by
    rw [vdsoSteps_map_snd]
    exact List.mem_reverse.2 hv
  rcases List.mem_map.1 hMem with ⟨s, hs, rfl⟩
  exact Extent.disjoint_range_of_overlaps_eq_false ((hSteps s hs).2 w hw)

/-
  A run of installs with no allocation failure succeeds when
  each VMA misses the old ones and those installed before it.
-/
theorem installAll_of_miss
    (ops : MmapOps) :
    ∀ {steps : List (Option Errno × Vma)} {vmas : List Vma},
      (∀ s ∈ steps, s.1 = none) →
      (steps.map Prod.snd).Pairwise (fun v w => w.overlaps v = false) →
      (∀ s ∈ steps, ∀ w ∈ vmas, s.2.overlaps w = false) →
      installAll ops steps vmas = .ok ((steps.map Prod.snd).reverse ++ vmas)
  | [], _, _, _, _ => by simp [installAll]
  | (err, v) :: steps, vmas, hNone, hOrder, hMiss => by
      have hErr : err = none := hNone (err, v) (List.mem_cons_self ..)
      rcases List.pairwise_cons.1 hOrder with ⟨hLater, hRest⟩
      subst hErr
      simp only [installAll,
        ops.install_fresh vmas v (Vma.any_overlaps_eq_false (hMiss (none, v) (List.mem_cons_self ..)))]
      -- the later installs miss `v` as well as the old VMAs
      have hMiss' : ∀ s ∈ steps, ∀ w ∈ v :: vmas, s.2.overlaps w = false := by
        intro s hs w hw
        rcases List.mem_cons.1 hw with rfl | hw
        · exact hLater s.2 (List.mem_map_of_mem hs)
        · exact hMiss s (List.mem_cons_of_mem _ hs) w hw
      rw [installAll_of_miss ops (fun s hs => hNone s (List.mem_cons_of_mem _ hs)) hRest hMiss']
      simp

/-
  With no allocation failing, the three installs succeed on an
  address space whose VMAs all miss the area.
-/
theorem installAll_vdsoSteps_of_free
    {env : MapEnv}
    {S area : Nat}
    {image : VdsoImage}
    {vmas : List Vma}
    (hFree : ∀ w ∈ vmas, Extent.overlaps ⟨area, mapLen S image⟩ w.extent = false)
    (hAlloc : env.textErr = none ∧ env.vvarErr = none ∧ env.vtaskErr = none) :
    installAll env.ops (vdsoSteps env S image area) vmas = .ok (vdsoVmas S image area ++ vmas) := by
  have hTile := vdsoVmas_tile S image area
  -- the layout's VMAs lie in the free area and follow one another
  have hInside : ∀ v ∈ vdsoVmas S image area, ∀ w ∈ vmas, v.overlaps w = false := by
    intro v hv w hw
    have ⟨hStart, hStop⟩ := (Extent.Tile.bounds hTile).2 v.extent (List.mem_map_of_mem hv)
    exact Extent.overlaps_eq_false_of_within (g := ⟨area, mapLen S image⟩) hStart hStop (hFree w hw)
  have hOrder : ((vdsoSteps env S image area).map Prod.snd).Pairwise
      (fun v w => w.overlaps v = false) := by
    rw [vdsoSteps_map_snd, List.pairwise_reverse]
    exact List.pairwise_map.1 (Extent.Tile.pairwise_overlaps_eq_false hTile)
  have hNone : ∀ s ∈ vdsoSteps env S image area, s.1 = none := by
    rcases hAlloc with ⟨hText, hVvar, hVtask⟩
    simp [vdsoSteps, vdsoVmas, hText, hVvar, hVtask]
  have hMiss : ∀ s ∈ vdsoSteps env S image area, ∀ w ∈ vmas, s.2.overlaps w = false := by
    intro s hs
    apply hInside
    rw [← List.mem_reverse, ← vdsoSteps_map_snd]
    exact List.mem_map_of_mem hs
  rw [installAll_of_miss env.ops hNone hOrder hMiss, vdsoSteps_map_snd, List.reverse_reverse]

/-
  `map_vdso` succeeds when the lock is taken, the area is free
  and no allocation fails: the three regions then join the
  address space and the text is recorded.
-/
theorem mapVdso_ok_of_free
    {env : MapEnv}
    {S addr : Nat}
    {image : VdsoImage}
    {mm : MmVdso}
    (hNoWrap : mapLen S image < 2 ^ 64)
    (hLock : env.lockKilled = false)
    (hArea : ¬ IsErrValue (env.unmappedArea addr (mapLen S image)))
    (hFree : ∀ w ∈ mm.vmas,
      Extent.overlaps ⟨env.unmappedArea addr (mapLen S image), mapLen S image⟩ w.extent = false)
    (hAlloc : env.textErr = none ∧ env.vvarErr = none ∧ env.vtaskErr = none) :
    let area := env.unmappedArea addr (mapLen S image)
    mapVdso env S image addr mm =
      ({ vmas := vdsoVmas S image area ++ mm.vmas,
         vdso := (mapVdsoLayout S image.vvarSize area).textStart,
         vdsoImage := some image }, 0) := by
  intro area
  rw [mapVdso_eq_spec env S image addr mm hNoWrap]
  simp only [mapVdsoSpec, hLock, Bool.false_eq_true, if_false, hArea, if_false]
  rw [installAll_vdsoSteps_of_free hFree hAlloc]

end Vdso

end OsHomework

------------------------------------------------------------
-- What map_vdso Leaves
------------------------------------------------------------

namespace OsHomework

namespace Vdso

/-
  `map_vdso` either maps `[vtask]`, `[vvar]` and the text over
  exactly the area `get_unmapped_area` returned, clear of every
  old VMA, and records the text; or it leaves the address space
  as it was and returns `-EINTR`, the error value of
  `get_unmapped_area` or the errno of the failing install.
-/
theorem map_vdso_tiles_or_restores
    (env : MapEnv)
    (S : Nat)
    (image : VdsoImage)
    (addr : Nat)
    (mm : MmVdso)
    (hNoWrap : mapLen S image < 2 ^ 64) :
    let r := mapVdso env S image addr mm
    let area := env.unmappedArea addr (mapLen S image)
    (r.2 = 0 ∧ ¬ IsErrValue area ∧
      r.1 = { vmas := vdsoVmas S image area ++ mm.vmas,
              vdso := (mapVdsoLayout S image.vvarSize area).textStart,
              vdsoImage := some image } ∧
      (⋃ e ∈ (vdsoVmas S image area).map Vma.extent, e.range) =
        Set.Ico area (area + mapLen S image) ∧
      ((vdsoVmas S image area).map Vma.extent).Pairwise (fun e f => Disjoint e.range f.range) ∧
      ∀ v ∈ vdsoVmas S image area, ∀ w ∈ mm.vmas, Disjoint v.extent.range w.extent.range) ∨
    (r.1 = mm ∧
      (env.lockKilled ∧ r.2 = -(EINTR : Int) ∨
       ¬ env.lockKilled ∧ IsErrValue area ∧ r.2 = (area : Int) - 2 ^ 64 ∨
       ¬ env.lockKilled ∧ ¬ IsErrValue area ∧
         ∃ e, installAll env.ops (vdsoSteps env S image area) mm.vmas = .error e ∧
           r.2 = -(e.val : Int))) := by
  rw [mapVdso_eq_spec env S image addr mm hNoWrap]
  intro r area
  simp only [r, mapVdsoSpec]
  split_ifs with hKill hErr
  · exact .inr ⟨rfl, .inl ⟨hKill, rfl⟩⟩
  · exact .inr ⟨rfl, .inr (.inl ⟨hKill, hErr, rfl⟩)⟩
  · cases hAll : installAll env.ops (vdsoSteps env S image area) mm.vmas with
    | error e => exact .inr ⟨rfl, .inr (.inr ⟨hKill, hErr, e, rfl, rfl⟩)⟩
    | ok vmas =>
        -- the regions come from the layout, which tiles the area
        have ⟨hVmas, hMiss⟩ := installAll_vdsoSteps_eq_ok hAll
        have hTile := vdsoVmas_tile S image area
        refine .inl ⟨rfl, hErr, by rw [hVmas], ?_, ?_, hMiss⟩
        · exact Extent.Tile.biUnion_range hTile
        · exact Extent.Tile.pairwise_disjoint hTile

/- An image of two text pages below four vvar pages. -/
def demoImage : VdsoImage :=
  ⟨8192, -16384⟩

/- An address space with no VMA yet. -/
def emptyMm : MmVdso :=
  ⟨[], 0, none⟩

/-
  An environment with the list implementation of `mm/mmap.c`,
  whose `get_unmapped_area` places any range of up to `2^40`
  bytes at `vdsoBase` and refuses longer ones with `-ENOMEM`,
  with no allocation failing.
-/
def demoEnv
    (killed : Bool) : MapEnv where
  ops := .list
  lockKilled := killed
  unmappedArea := fun _ len => if len ≤ 2 ^ 40 then vdsoBase else 2 ^ 64 - ENOMEM
  unmappedArea_lt := by
    intro _ len
    simp only [vdsoBase, ENOMEM]
    split_ifs <;> omega
  unmappedArea_fits := by
    intro _ len hOk
    simp only [IsErrValue, maxErrno, vdsoBase, ENOMEM] at hOk ⊢
    split_ifs at hOk ⊢ <;> omega
  textErr := none
  vvarErr := none
  vtaskErr := none

theorem map_vdso_tiles_or_restores_demo :
    mapLen 9600 demoImage < 2 ^ 64 ∧
      ((mapVdso (demoEnv false) 9600 demoImage 0 emptyMm).2 = 0 ∨
        (mapVdso (demoEnv false) 9600 demoImage 0 emptyMm).1 = emptyMm) := by
  have hLen : mapLen 9600 demoImage < 2 ^ 64 := by decide
  refine ⟨hLen, ?_⟩
  rcases map_vdso_tiles_or_restores (demoEnv false) 9600 demoImage 0 emptyMm hLen with h | h
  · exact .inl h.1
  · exact .inr h.1

/-
  Interrupted while waiting for the mmap lock, `map_vdso`
  returns `-EINTR`: not `0`, and neither the error of
  `get_unmapped_area`, which returns a usable area, nor that of
  an install, which would all succeed.
-/
theorem map_vdso_interrupted_returns_eintr :
    mapVdso (demoEnv true) 9600 demoImage 0 emptyMm = (emptyMm, -4) ∧
      ¬ IsErrValue ((demoEnv true).unmappedArea 0 (mapLen 9600 demoImage)) ∧
      installAll (demoEnv true).ops (vdsoSteps (demoEnv true) 9600 demoImage
          ((demoEnv true).unmappedArea 0 (mapLen 9600 demoImage))) emptyMm.vmas =
        .ok (vdsoVmas 9600 demoImage vdsoBase) := by
  have hArea : (demoEnv true).unmappedArea 0 (mapLen 9600 demoImage) = vdsoBase := by decide
  refine ⟨rfl, by rw [hArea]; decide, ?_⟩
  rw [hArea, installAll_vdsoSteps_of_free (by simp [emptyMm]) ⟨rfl, rfl, rfl⟩]
  simp [emptyMm]

end Vdso

end OsHomework

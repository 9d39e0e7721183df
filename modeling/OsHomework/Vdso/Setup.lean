import OsHomework.Vdso.Faults
import OsHomework.Lib.Machine

/-
  How an address space gets its vDSO, from
  `arch/x86/entry/vdso/vma.c`: at exec,
  `arch_setup_additional_pages` maps it at the address
  `vdso_addr` draws above the stack; on request,
  `map_vdso_once` maps it unless a `[vdso]` or `[vvar]`
  mapping is already there.

  `vdso_addr` works in `unsigned long` with an `unsigned`
  length and an `unsigned` page offset, so `offset <<
  PAGE_SHIFT` is a 32-bit shift; the draw stays below the PMD
  boundary after the stack top, so the shift never loses a
  bit.  `align_vdso_addr` lives outside these sources and is a
  parameter; it is the identity unless the CPU asks for extra
  alignment of mappings.

  `map_vdso_once` takes the mmap lock twice: once for its look
  at the VMAs, which returns `-EEXIST` on a `[vdso]` or
  `[vvar]`, and once more inside `map_vdso`, after dropping it.
  The other threads of the process may change the address
  space in between, so a run is a sequence of locked sections
  of any threads: the check and the `map_vdso` of each call,
  `munmap` of a whole VMA, and ordinary mappings placed where
  nothing is mapped.  When no thread starts the check while
  another is between the two sections (in particular in a
  single-threaded process), every run from exec keeps at most
  one `[vdso]` and one `[vvar]` VMA.  Two threads that both
  pass the check before either maps leave two of each.
  `map_vdso_once` does not look for `[vtask]`.

  Main declarations:
    * `pageAlign`, `pmdAlign`, `vdsoAddrCandidate`, `vdsoAddr`
    * `mapVdsoRandomized`, `archSetupAdditionalPages`
    * `MmThreads`, `MmEvent`, `mmStep`, `serialOnce`
    * `range_vdsoAddr`, `OnceSerial.step`, and the two-thread race
-/

------------------------------------------------------------
-- vdso_addr
------------------------------------------------------------

namespace OsHomework

namespace Vdso

open PageArith

/- `PMD_SIZE` on x86-64. -/
def pmdSize : Nat := 2 ^ 21

/- `DEFAULT_MAP_WINDOW` with four-level paging: `(1UL << 47) - PAGE_SIZE`. -/
def defaultMapWindow : Nat := 2 ^ 47 - pageSize

/- `PAGE_ALIGN(x)` of an `unsigned long`. -/
def pageAlign
    (x : Nat) : Nat :=
  (x + (pageSize - 1)) % 2 ^ 64 / pageSize * pageSize

/- `(x + PMD_SIZE - 1) & PMD_MASK` of an `unsigned long`. -/
def pmdAlign
    (x : Nat) : Nat :=
  (x + (pmdSize - 1)) % 2 ^ 64 / pmdSize * pmdSize

/-
  `vdso_addr(start, len)` up to its last step: round `start`
  up to a page, take the PMD boundary after `start + len`
  (capped at `DEFAULT_MAP_WINDOW`) less `len` as the highest
  start, and add a random number of pages drawn from
  `get_random_int()` when there is room.
-/
def vdsoAddrCandidate
    (rand : UInt32)
    (start : Nat)
    (len : UInt32) : Nat :=
  let start := pageAlign start
  let stop := pmdAlign (start + len.toNat)
  let stop := if stop ≥ defaultMapWindow then defaultMapWindow else stop
  let stop := (stop + 2 ^ 64 - len.toNat) % 2 ^ 64
  if stop > start then
    -- `unsigned offset`, shifted as an `unsigned`
    let offset := rand.toNat % ((stop - start) / pageSize + 1) % 2 ^ 32
    (start + offset * pageSize % 2 ^ 32) % 2 ^ 64
  else start

/-
  `vdso_addr`: the candidate through `align_vdso_addr`, which
  rounds up to `get_align_mask()` and sets `get_align_bits()`;
  both are 0, so that the call returns its argument, unless
  `va_align` asks for aligned mappings (AMD family 15h) and the
  task's layout is randomized.
-/
def vdsoAddr
    (alignVdsoAddr : Nat → Nat)
    (rand : UInt32)
    (start : Nat)
    (len : UInt32) : Nat :=
  alignVdsoAddr (vdsoAddrCandidate rand start len)

/-
  `map_vdso_randomized(image)`: `map_vdso` at the address
  `vdso_addr` draws above `mm->start_stack`, for the text and
  vvar length `image->size - image->sym_vvar_start` passed as
  an `unsigned`.
-/
def mapVdsoRandomized
    (env : MapEnv)
    (alignVdsoAddr : Nat → Nat)
    (rand : UInt32)
    (S : Nat)
    (image : VdsoImage)
    (startStack : Nat)
    (mm : MmVdso) : MmVdso × Int :=
  let len := UInt32.ofNat (ulong (image.size - image.symVvarStart))
  mapVdso env S image (vdsoAddr alignVdsoAddr rand startStack len) mm

/- `arch_setup_additional_pages` on x86-64: nothing when `vdso=0`, else the randomized map. -/
def archSetupAdditionalPages
    (vdso64Enabled : Nat)
    (env : MapEnv)
    (alignVdsoAddr : Nat → Nat)
    (rand : UInt32)
    (S : Nat)
    (image : VdsoImage)
    (startStack : Nat)
    (mm : MmVdso) : MmVdso × Int :=
  if vdso64Enabled = 0 then (mm, 0)
  else mapVdsoRandomized env alignVdsoAddr rand S image startStack mm

/- The errno `map_vdso_once` returns when the vDSO is already mapped. -/
def EEXIST : Nat := 17

/- `vma_is_special_mapping(vma, &vdso_mapping) || vma_is_special_mapping(vma, &vvar_mapping)`. -/
def Vma.isVdsoOrVvar
    (v : Vma) : Bool :=
  v.mapping == .vdso || v.mapping == .vvar

end Vdso

end OsHomework

------------------------------------------------------------
-- map_vdso_once Between Threads
------------------------------------------------------------

namespace OsHomework

namespace Vdso

/-
  An address space, and the threads of its process that are
  inside `map_vdso_once` between its two locked sections, each
  with the address it will ask `map_vdso` for.
-/
structure MmThreads where
  mm : MmVdso
  between : List (Nat × Nat)
deriving DecidableEq, Repr

/- The address space with its VMAs replaced by `vmas`. -/
def MmThreads.setVmas
    (s : MmThreads)
    (vmas : List Vma) : MmThreads :=
  ⟨{ s.mm with vmas := vmas }, s.between⟩

/-
  A locked section of some thread of the process: thread `t`
  enters `map_vdso_once(image, addr)` and looks at the VMAs;
  thread `t`, past that look, runs `map_vdso` with its
  environment; an `munmap` of exactly the range of one VMA; an
  ordinary mapping placed where nothing is mapped.
-/
inductive MmEvent
  | onceCheck (t addr : Nat)
  | onceMap (t : Nat) (env : MapEnv)
  | munmap (start len : Nat)
  | mmap (start len id : Nat)

/-
  One locked section, for a task of `sizeof(task_struct) = S`
  whose vDSO image is `image`.  A thread makes one call at a
  time; the look returns `-EEXIST` and leaves the call on a
  `[vdso]` or `[vvar]` VMA, and otherwise unlocks with the
  thread between the sections.  `munmap` of a whole VMA removes
  it.
-/
def mmStep
    (S : Nat)
    (image : VdsoImage)
    (s : MmThreads) : MmEvent → Option MmThreads
  | .onceCheck t addr =>
      if s.between.any (·.1 == t) then none
      else if s.mm.vmas.any Vma.isVdsoOrVvar then some s
      else some { s with between := (t, addr) :: s.between }
  | .onceMap t env =>
      match s.between.lookup t with
      | none => none
      | some addr => some ⟨(mapVdso env S image addr s.mm).1, s.between.filter (·.1 != t)⟩
  | .munmap start len =>
      if s.mm.vmas.any (fun v => v.start == start && v.len == len) then
        some (s.setVmas (eraseVma s.mm.vmas start len))
      else none
  | .mmap start len id =>
      let v : Vma := ⟨start, len, .other id⟩
      if s.mm.vmas.any v.overlaps then none
      else some (s.setVmas (v :: s.mm.vmas))

/- No thread starts `map_vdso_once`'s look while another is between its two sections. -/
def serialOnce
    (s : MmThreads) : MmEvent → Bool
  | .onceCheck _ _ => s.between.isEmpty
  | _ => true

/- The number of VMAs of the address space that map `m`. -/
def MmVdso.count
    (mm : MmVdso)
    (m : Mapping) : Nat :=
  mm.vmas.countP (fun v => v.mapping == m)

/- At most one `[vdso]` text and one `[vvar]` area. -/
def VdsoOnce
    (mm : MmVdso) : Prop :=
  mm.count .vdso ≤ 1 ∧ mm.count .vvar ≤ 1

@[simp]
theorem MmThreads.setVmas_vmas
    (s : MmThreads)
    (vmas : List Vma) :
    (s.setVmas vmas).mm.vmas = vmas :=
  rfl

@[simp]
theorem MmThreads.setVmas_vdso
    (s : MmThreads)
    (vmas : List Vma) :
    (s.setVmas vmas).mm.vdso = s.mm.vdso :=
  rfl

@[simp]
theorem MmThreads.setVmas_between
    (s : MmThreads)
    (vmas : List Vma) :
    (s.setVmas vmas).between = s.between :=
  rfl

end Vdso

end OsHomework

------------------------------------------------------------
-- Where vdso_addr Can Land
------------------------------------------------------------

namespace OsHomework

namespace Vdso

open PageArith

/-
  The highest start `vdso_addr` may draw: the PMD boundary
  after the page-aligned stack top plus `len`, capped at
  `DEFAULT_MAP_WINDOW`, less `len`.
-/
def vdsoAddrLimit
    (start len : Nat) : Nat :=
  min (alignUp (alignUp start pageSize + len) pmdSize) defaultMapWindow - len

theorem pageAlign_eq
    {x : Nat}
    (h : x + (pageSize - 1) < 2 ^ 64) :
    pageAlign x = alignUp x pageSize := by
  rw [pageAlign, alignUp, Nat.mod_eq_of_lt h, Nat.add_sub_assoc (by decide : 1 ≤ pageSize)]

theorem pmdAlign_eq
    {x : Nat}
    (h : x + (pmdSize - 1) < 2 ^ 64) :
    pmdAlign x = alignUp x pmdSize := by
  rw [pmdAlign, alignUp, Nat.mod_eq_of_lt h, Nat.add_sub_assoc (by decide : 1 ≤ pmdSize)]

/-
  Below `DEFAULT_MAP_WINDOW` nothing in `vdso_addr` wraps: the
  start rounds up to a page, and the highest start it computes
  is `vdsoAddrLimit`.
-/
theorem vdsoAddr_stop_eq
    {start : Nat}
    (len : UInt32)
    (hStart : start ≤ defaultMapWindow) :
    pageAlign start = alignUp start pageSize ∧
      ((if pmdAlign (alignUp start pageSize + len.toNat) ≥ defaultMapWindow then defaultMapWindow
          else pmdAlign (alignUp start pageSize + len.toNat)) + 2 ^ 64 - len.toNat) % 2 ^ 64 =
        vdsoAddrLimit start len.toNat := by
  have hLen : len.toNat < 4294967296 := len.toNat_lt
  have hUp := alignUp_lt_add (by decide : 0 < pageSize) start
  have hPmd := alignUp_lt_add (by decide : 0 < pmdSize) (alignUp start pageSize + len.toNat)
  have hPmdLe := le_alignUp (by decide : 0 < pmdSize) (alignUp start pageSize + len.toNat)
  have hP : pageSize = 4096 := rfl
  have hM : pmdSize = 2097152 := rfl
  have hW : defaultMapWindow = 140737488351232 := rfl
  refine ⟨pageAlign_eq (by omega), ?_⟩
  rw [pmdAlign_eq (by omega), vdsoAddrLimit]
  split_ifs with hCap
  · rw [Nat.min_eq_right hCap]
    omega
  · rw [Nat.min_eq_left (by omega)]
    omega

/- The draw never reaches a PMD past the stack top: fewer than 512 pages to choose from. -/
theorem vdsoAddrLimit_lt
    (start len : Nat) :
    vdsoAddrLimit start len < alignUp start pageSize + pmdSize := by
  have hPmd := alignUp_lt_add (by decide : 0 < pmdSize) (alignUp start pageSize + len)
  have hM : pmdSize = 2097152 := rfl
  unfold vdsoAddrLimit
  omega

/-
  `vdso_addr` before alignment is the page-aligned start plus
  the random page count modulo the number of choices: the
  32-bit shift and the sums never wrap.
-/
theorem vdsoAddrCandidate_eq
    (rand : UInt32)
    {start : Nat}
    (len : UInt32)
    (hStart : start ≤ defaultMapWindow) :
    vdsoAddrCandidate rand start len =
      let s := alignUp start pageSize
      let stop := vdsoAddrLimit start len.toNat
      if s < stop then s + rand.toNat % ((stop - s) / pageSize + 1) * pageSize else s := by
  have ⟨hS, hStop⟩ := vdsoAddr_stop_eq len hStart
  have hRoom := vdsoAddrLimit_lt start len.toNat
  have hUp := alignUp_lt_add (by decide : 0 < pageSize) start
  have hM : pmdSize = 2097152 := rfl
  have hW : defaultMapWindow = 140737488351232 := rfl
  simp only [vdsoAddrCandidate, hS, hStop, gt_iff_lt]
  split_ifs with hGap
  · -- the page count is at most `(stop - s) / PAGE_SIZE`, below 512
    generalize hCount : rand.toNat % ((vdsoAddrLimit start len.toNat - alignUp start pageSize) /
      pageSize + 1) = count
    have hOff : count ≤ (vdsoAddrLimit start len.toNat - alignUp start pageSize) / pageSize := by
      rw [← hCount]
      exact Nat.lt_succ_iff.mp (Nat.mod_lt _ (Nat.succ_pos _))
    have hPages := Nat.div_mul_le_self
      (vdsoAddrLimit start len.toNat - alignUp start pageSize) pageSize
    have hMul := Nat.mul_le_mul_right pageSize hOff
    have hP : pageSize = 4096 := rfl
    rw [hP] at hOff hPages hMul hRoom hUp ⊢
    rw [Nat.mod_eq_of_lt (by omega), Nat.mod_eq_of_lt (by omega), Nat.mod_eq_of_lt (by omega)]
  · rfl

/-
  The addresses `vdso_addr` can draw before alignment are
  exactly the page-aligned ones from the page-aligned stack top
  up to `vdsoAddrLimit`: every random value lands on one of
  them, and each of them is the draw of some random value.
-/
theorem range_vdsoAddrCandidate
    {start : Nat}
    (len : UInt32)
    (hStart : start ≤ defaultMapWindow) :
    Set.range (fun rand => vdsoAddrCandidate rand start len) =
      {x | x % pageSize = 0 ∧ alignUp start pageSize ≤ x ∧
        x ≤ max (alignUp start pageSize) (vdsoAddrLimit start len.toNat)} := by
  have hAligned := alignUp_mod start pageSize
  have hRoom := vdsoAddrLimit_lt start len.toNat
  have hP : pageSize = 4096 := rfl
  have hM : pmdSize = 2097152 := rfl
  ext x
  simp only [Set.mem_range, Set.mem_ofPred_eq, vdsoAddrCandidate_eq _ len hStart]
  -- from here on only the stack top `s` and the limit `L` matter
  generalize alignUp start pageSize = s at hAligned hRoom ⊢
  generalize vdsoAddrLimit start len.toNat = L at hRoom ⊢
  rw [hP] at hAligned ⊢
  rw [hM] at hRoom
  constructor
  · rintro ⟨rand, rfl⟩
    split_ifs with hGap
    · -- `rand % (n + 1)` pages, at most the `n` that fit below the limit
      have hOff : rand.toNat % ((L - s) / 4096 + 1) < (L - s) / 4096 + 1 :=
        Nat.mod_lt _ (by omega)
      omega
    · omega
  · rintro ⟨hMod, hLo, hHi⟩
    by_cases hGap : s < L
    · -- `x` is the draw of its page count from the stack top
      refine ⟨UInt32.ofNat ((x - s) / 4096), ?_⟩
      rw [if_pos hGap, UInt32.toNat_ofNat', Nat.mod_eq_of_lt (by omega),
        Nat.mod_eq_of_lt (by omega)]
      omega
    · refine ⟨0, ?_⟩
      rw [if_neg hGap]
      omega

/-
  The addresses `vdso_addr` can draw when `align_vdso_addr`
  asks for no alignment: exactly the page-aligned ones from the
  page-aligned stack top up to `vdsoAddrLimit`.
-/
theorem range_vdsoAddr
    {alignVdsoAddr : Nat → Nat}
    (hAlign : ∀ x, alignVdsoAddr x = x)
    {start : Nat}
    (len : UInt32)
    (hStart : start ≤ defaultMapWindow) :
    Set.range (fun rand => vdsoAddr alignVdsoAddr rand start len) =
      {x | x % pageSize = 0 ∧ alignUp start pageSize ≤ x ∧
        x ≤ max (alignUp start pageSize) (vdsoAddrLimit start len.toNat)} := by
  have hSame : (fun rand => vdsoAddr alignVdsoAddr rand start len) =
      fun rand => vdsoAddrCandidate rand start len := by
    funext rand
    exact hAlign _
  rw [hSame]
  exact range_vdsoAddrCandidate len hStart

/- For a 24 KiB map above a stack top, the pages up to the next 2 MiB boundary. -/
theorem range_vdsoAddr_stack :
    (∀ x : Nat, id x = x) ∧ 0x7ffd12345678 ≤ defaultMapWindow ∧
      Set.range (fun rand => vdsoAddr id rand 0x7ffd12345678 0x6000) =
        {x | x % pageSize = 0 ∧ alignUp 0x7ffd12345678 pageSize ≤ x ∧
          x ≤ max (alignUp 0x7ffd12345678 pageSize)
            (vdsoAddrLimit 0x7ffd12345678 (0x6000 : UInt32).toNat)} :=
  ⟨fun _ => rfl, by decide, range_vdsoAddr (fun _ => rfl) 0x6000 (by decide)⟩

example : vdsoAddrLimit 0x7ffd12345678 0x6000 = 0x7ffd123fa000 := by decide

end Vdso

end OsHomework

------------------------------------------------------------
-- What Each Section Leaves
------------------------------------------------------------

namespace OsHomework

namespace Vdso

/- `map_vdso` changes the address space only when it returns 0. -/
theorem mapVdso_fst_of_ret_ne_zero
    {env : MapEnv}
    {S addr : Nat}
    {image : VdsoImage}
    {mm : MmVdso}
    (hNoWrap : mapLen S image < 2 ^ 64)
    (hRet : (mapVdso env S image addr mm).2 ≠ 0) :
    (mapVdso env S image addr mm).1 = mm := by
  rw [mapVdso_eq_spec env S image addr mm hNoWrap] at hRet ⊢
  simp only [mapVdsoSpec] at hRet ⊢
  split_ifs at hRet ⊢
  · rfl
  · rfl
  · cases hAll : installAll env.ops
        (vdsoSteps env S image (env.unmappedArea addr (mapLen S image))) mm.vmas with
    | error e => rfl
    | ok vmas => simp [hAll] at hRet

/- The three VMAs of `map_vdso`: one `[vtask]`, one `[vvar]`, one `[vdso]`. -/
theorem countP_vdsoVmas
    (S : Nat)
    (image : VdsoImage)
    (area : Nat) :
    (vdsoVmas S image area).countP (fun v => v.mapping == .vdso) = 1 ∧
      (vdsoVmas S image area).countP (fun v => v.mapping == .vvar) = 1 ∧
      (vdsoVmas S image area).countP (fun v => v.mapping == .vtask) = 1 := by
  simp [vdsoVmas]

/- After a `map_vdso` that returns 0, a mapping has its new VMAs and its old ones. -/
theorem count_mapVdso_of_ret_eq_zero
    {env : MapEnv}
    {S addr : Nat}
    {image : VdsoImage}
    {mm : MmVdso}
    (hNoWrap : mapLen S image < 2 ^ 64)
    (hOk : (mapVdso env S image addr mm).2 = 0)
    (m : Mapping) :
    (mapVdso env S image addr mm).1.count m =
      (vdsoVmas S image (env.unmappedArea addr (mapLen S image))).countP
        (fun v => v.mapping == m) + mm.count m := by
  rw [(mapVdso_of_ret_eq_zero hNoWrap hOk).2]
  exact List.countP_append

theorem MmVdso.count_eq_zero_of_not_any
    {mm : MmVdso}
    (hNone : mm.vmas.any Vma.isVdsoOrVvar = false) :
    mm.count .vdso = 0 ∧ mm.count .vvar = 0 := by
  simp only [List.any_eq_false, Vma.isVdsoOrVvar, Bool.or_eq_true, beq_iff_eq, not_or] at hNone
  constructor
  · exact List.countP_eq_zero.mpr (fun v hv => by simpa using (hNone v hv).1)
  · exact List.countP_eq_zero.mpr (fun v hv => by simpa using (hNone v hv).2)

/- An address space with no `[vdso]` VMA has no text VMA. -/
theorem Vma.mapping_ne_vdso_of_count
    {mm : MmVdso}
    {v : Vma}
    (hNone : mm.count .vdso = 0)
    (hv : v ∈ mm.vmas) :
    v.mapping ≠ .vdso := by
  intro hText
  have hPos : 0 < mm.count .vdso :=
    List.countP_pos_iff.mpr ⟨v, hv, by simpa using hText⟩
  omega

/- Exec maps nothing, or `map_vdso` at the address it draws. -/
theorem archSetupAdditionalPages_fst
    (vdso64Enabled : Nat)
    (env : MapEnv)
    (alignVdsoAddr : Nat → Nat)
    (rand : UInt32)
    (S : Nat)
    (image : VdsoImage)
    (startStack : Nat)
    (mm : MmVdso) :
    (archSetupAdditionalPages vdso64Enabled env alignVdsoAddr rand S image startStack mm).1 = mm ∨
      ∃ addr, (archSetupAdditionalPages vdso64Enabled env alignVdsoAddr rand S image
        startStack mm).1 = (mapVdso env S image addr mm).1 := by
  unfold archSetupAdditionalPages mapVdsoRandomized
  split_ifs
  · exact Or.inl rfl
  · exact Or.inr ⟨_, rfl⟩

section Steps

variable {S : Nat} {image : VdsoImage} {s s' : MmThreads}

/- `map_vdso_once`'s look: `-EEXIST` on a `[vdso]` or `[vvar]`, else the thread is between the sections. -/
theorem mmStep_onceCheck_eq_some
    {t addr : Nat}
    (h : mmStep S image s (.onceCheck t addr) = some s') :
    s.between.any (·.1 == t) = false ∧
      (s.mm.vmas.any Vma.isVdsoOrVvar = true ∧ s' = s ∨
        s.mm.vmas.any Vma.isVdsoOrVvar = false ∧ s' = { s with between := (t, addr) :: s.between }) := by
  simp only [mmStep] at h
  split_ifs at h with hBusy hMapped
  · cases h
    exact ⟨Bool.eq_false_iff.mpr hBusy, .inl ⟨hMapped, rfl⟩⟩
  · cases h
    exact ⟨Bool.eq_false_iff.mpr hBusy, .inr ⟨Bool.eq_false_iff.mpr hMapped, rfl⟩⟩

/- The second section runs `map_vdso` at the address of the thread's look, and ends its call. -/
theorem mmStep_onceMap_eq_some
    {t : Nat}
    {env : MapEnv}
    (h : mmStep S image s (.onceMap t env) = some s') :
    ∃ addr, s.between.lookup t = some addr ∧
      s' = ⟨(mapVdso env S image addr s.mm).1, s.between.filter (·.1 != t)⟩ := by
  simp only [mmStep] at h
  split at h
  · cases h
  · rename_i addr hAddr
    exact ⟨addr, hAddr, (Option.some.inj h).symm⟩

theorem mmStep_munmap_eq_some
    {start len : Nat}
    (h : mmStep S image s (.munmap start len) = some s') :
    s' = s.setVmas (eraseVma s.mm.vmas start len) := by
  simp only [mmStep] at h
  split_ifs at h
  exact (Option.some.inj h).symm

theorem mmStep_mmap_eq_some
    {start len id : Nat}
    (h : mmStep S image s (.mmap start len id) = some s') :
    s' = s.setVmas (⟨start, len, .other id⟩ :: s.mm.vmas) := by
  simp only [mmStep] at h
  split_ifs at h
  exact (Option.some.inj h).symm

end Steps

/- The one thread between the sections is the one whose address is found. -/
theorem eq_singleton_of_lookup
    {between : List (Nat × Nat)}
    {t addr : Nat}
    (hLen : between.length ≤ 1)
    (hAddr : between.lookup t = some addr) :
    between = [(t, addr)] := by
  match between, hLen, hAddr with
  | [], _, h => simp at h
  | [(u, b)], _, h =>
      by_cases hu : t = u
      · subst hu
        simp only [List.lookup, beq_self_eq_true, Option.some.injEq] at h
        rw [h]
      · simp [List.lookup, beq_eq_false_iff_ne.mpr hu] at h

/- `munmap` of a whole VMA only removes VMAs. -/
theorem count_eraseVma_le
    (s : MmThreads)
    (start len : Nat)
    (m : Mapping) :
    (s.setVmas (eraseVma s.mm.vmas start len)).mm.count m ≤ s.mm.count m :=
  List.eraseP_sublist.countP_le

/- An ordinary mapping maps no vDSO page. -/
theorem count_cons_other
    (s : MmThreads)
    (start len id : Nat)
    {m : Mapping}
    (hm : m ≠ .other id) :
    (s.setVmas (⟨start, len, .other id⟩ :: s.mm.vmas)).mm.count m = s.mm.count m := by
  simp [MmVdso.count, Ne.symm hm]

end Vdso

end OsHomework

------------------------------------------------------------
-- At Most One vDSO Over Every Serial Run
------------------------------------------------------------

namespace OsHomework

namespace Vdso

/-
  What a serial run keeps: at most one `[vdso]` and one `[vvar]`,
  and at most one thread between the two sections of
  `map_vdso_once`, which found neither and finds neither still.
-/
structure OnceSerial
    (s : MmThreads) : Prop where
  once : VdsoOnce s.mm
  between_le : s.between.length ≤ 1
  between_fresh : s.between ≠ [] → s.mm.count .vdso = 0 ∧ s.mm.count .vvar = 0

section Runs

variable {S : Nat} {image : VdsoImage}

/- After `map_vdso` on an address space with neither, at most one of each. -/
theorem VdsoOnce.mapVdso_of_fresh
    (hNoWrap : mapLen S image < 2 ^ 64)
    {mm : MmVdso}
    (hFresh : mm.count .vdso = 0 ∧ mm.count .vvar = 0)
    (env : MapEnv)
    (addr : Nat) :
    VdsoOnce (mapVdso env S image addr mm).1 := by
  by_cases hOk : (mapVdso env S image addr mm).2 = 0
  · -- the only `[vdso]` and `[vvar]` are the new ones
    obtain ⟨hNewVdso, hNewVvar, -⟩ :=
      countP_vdsoVmas S image (env.unmappedArea addr (mapLen S image))
    have hOne := count_mapVdso_of_ret_eq_zero hNoWrap hOk .vdso
    have hTwo := count_mapVdso_of_ret_eq_zero hNoWrap hOk .vvar
    exact ⟨by omega, by omega⟩
  · rw [mapVdso_fst_of_ret_ne_zero hNoWrap hOk]
    exact ⟨by omega, by omega⟩

/- The look of a thread, when no other thread is between the sections. -/
theorem OnceSerial.onceCheck
    {s s' : MmThreads}
    {t addr : Nat}
    (hInv : OnceSerial s)
    (hSerial : s.between = [])
    (hStep : mmStep S image s (.onceCheck t addr) = some s') :
    OnceSerial s' := by
  obtain ⟨-, ⟨-, rfl⟩ | ⟨hFresh, rfl⟩⟩ := mmStep_onceCheck_eq_some hStep
  · exact hInv
  · -- the thread passed the look, so nothing is mapped yet
    refine ⟨hInv.once, by simp [hSerial], fun _ => MmVdso.count_eq_zero_of_not_any hFresh⟩

/- The `map_vdso` of the one thread between the sections maps on an address space with neither. -/
theorem OnceSerial.onceMap
    (hNoWrap : mapLen S image < 2 ^ 64)
    {s s' : MmThreads}
    {t : Nat}
    {env : MapEnv}
    (hInv : OnceSerial s)
    (hStep : mmStep S image s (.onceMap t env) = some s') :
    OnceSerial s' := by
  obtain ⟨addr, hAddr, rfl⟩ := mmStep_onceMap_eq_some hStep
  have hOnly := eq_singleton_of_lookup hInv.between_le hAddr
  have hFresh := hInv.between_fresh (by simp [hOnly])
  refine ⟨VdsoOnce.mapVdso_of_fresh hNoWrap hFresh env addr, ?_, ?_⟩
  · simp [hOnly]
  · simp [hOnly]

/- A step that adds no `[vdso]` or `[vvar]` and moves no thread keeps the invariant. -/
theorem OnceSerial.of_count_le
    {s s' : MmThreads}
    (hInv : OnceSerial s)
    (hVdso : s'.mm.count .vdso ≤ s.mm.count .vdso)
    (hVvar : s'.mm.count .vvar ≤ s.mm.count .vvar)
    (hBetween : s'.between = s.between) :
    OnceSerial s' := by
  have hOnce := hInv.once
  refine ⟨⟨by have := hOnce.1; omega, by have := hOnce.2; omega⟩,
    hBetween ▸ hInv.between_le, fun hBusy => ?_⟩
  have hFresh := hInv.between_fresh (hBetween ▸ hBusy)
  exact ⟨by omega, by omega⟩

theorem OnceSerial.munmap
    {s : MmThreads}
    (hInv : OnceSerial s)
    (start len : Nat) :
    OnceSerial (s.setVmas (eraseVma s.mm.vmas start len)) :=
  hInv.of_count_le (count_eraseVma_le s start len .vdso) (count_eraseVma_le s start len .vvar) rfl

theorem OnceSerial.mmap
    {s : MmThreads}
    (hInv : OnceSerial s)
    (start len id : Nat) :
    OnceSerial (s.setVmas (⟨start, len, .other id⟩ :: s.mm.vmas)) :=
  hInv.of_count_le (@count_cons_other s start len id .vdso (by simp)).le
    (@count_cons_other s start len id .vvar (by simp)).le rfl

theorem OnceSerial.step
    (hNoWrap : mapLen S image < 2 ^ 64)
    {s s' : MmThreads}
    {e : MmEvent}
    (hInv : OnceSerial s)
    (hStep : Machine.restrict (mmStep S image) serialOnce s e = some s') :
    OnceSerial s' := by
  obtain ⟨hSerial, hStep⟩ := Machine.restrict_eq_some hStep
  cases e with
  | onceCheck t addr =>
      exact hInv.onceCheck (List.isEmpty_iff.mp hSerial) hStep
  | onceMap t env => exact hInv.onceMap hNoWrap hStep
  | munmap start len =>
      rw [mmStep_munmap_eq_some hStep]
      exact hInv.munmap start len
  | mmap start len id =>
      rw [mmStep_mmap_eq_some hStep]
      exact hInv.mmap start len id

/- Exec on an address space with no vDSO leaves it mapped at most once, with no call under way. -/
theorem OnceSerial.archSetupAdditionalPages
    (hNoWrap : mapLen S image < 2 ^ 64)
    (vdso64Enabled : Nat)
    (env : MapEnv)
    (alignVdsoAddr : Nat → Nat)
    (rand : UInt32)
    (startStack : Nat)
    {mm : MmVdso}
    (hFresh : mm.vmas.any Vma.isVdsoOrVvar = false) :
    OnceSerial ⟨(Vdso.archSetupAdditionalPages vdso64Enabled env alignVdsoAddr rand S image
      startStack mm).1, []⟩ := by
  have hNone := MmVdso.count_eq_zero_of_not_any hFresh
  refine ⟨?_, by simp, fun hBusy => absurd rfl hBusy⟩
  show VdsoOnce (Vdso.archSetupAdditionalPages vdso64Enabled env alignVdsoAddr rand S image
    startStack mm).1
  rcases archSetupAdditionalPages_fst vdso64Enabled env alignVdsoAddr rand S image startStack mm
    with hSame | ⟨addr, hMap⟩
  · rw [hSame]
    exact ⟨by omega, by omega⟩
  · rw [hMap]
    exact VdsoOnce.mapVdso_of_fresh hNoWrap hNone env addr

/-
  Starting from exec on an address space with no vDSO, every
  run of locked sections of the process's threads in which no
  thread starts `map_vdso_once` while another is between its
  two sections keeps at most one `[vdso]` and one `[vvar]` VMA.
-/
theorem vdso_mapped_at_most_once_over_serial_runs
    (hNoWrap : mapLen S image < 2 ^ 64)
    (vdso64Enabled : Nat)
    (env : MapEnv)
    (alignVdsoAddr : Nat → Nat)
    (rand : UInt32)
    (startStack : Nat)
    (mm₀ : MmVdso)
    (hFresh : mm₀.vmas.any Vma.isVdsoOrVvar = false)
    (events : List MmEvent)
    (s : MmThreads)
    (hRun :
      Machine.run (Machine.restrict (mmStep S image) serialOnce)
        ⟨(Vdso.archSetupAdditionalPages vdso64Enabled env alignVdsoAddr rand S image
          startStack mm₀).1, []⟩ events = some s) :
    VdsoOnce s.mm :=
  (Machine.Reachable.invariant OnceSerial
    (OnceSerial.archSetupAdditionalPages hNoWrap vdso64Enabled env alignVdsoAddr rand startStack
      hFresh)
    (fun _ _ _ hInv hStep => hInv.step hNoWrap hStep)
    (Machine.reachable_of_run hRun)).once

/- Exec on an empty address space, then a call of `map_vdso_once`, refused. -/
theorem vdso_mapped_at_most_once_over_serial_runs_demo :
    mapLen 9600 demoImage < 2 ^ 64 ∧ emptyMm.vmas.any Vma.isVdsoOrVvar = false ∧
      VdsoOnce (Vdso.archSetupAdditionalPages 1 (demoEnv false) id 7 9600 demoImage
        0x7ffd12345678 emptyMm).1 :=
  ⟨by decide, rfl,
    @vdso_mapped_at_most_once_over_serial_runs 9600 demoImage (by decide) 1 (demoEnv false) id 7
      0x7ffd12345678 emptyMm rfl [.onceCheck 1 0]
      ⟨(Vdso.archSetupAdditionalPages 1 (demoEnv false) id 7 9600 demoImage 0x7ffd12345678
        emptyMm).1, []⟩ rfl⟩

end Runs

end Vdso

end OsHomework

------------------------------------------------------------
-- Two Threads Past the Look
------------------------------------------------------------

namespace OsHomework

namespace Vdso

/-
  Two threads of a process with no vDSO mapped both pass
  `map_vdso_once`'s look before either maps, since the look and
  `map_vdso` take the mmap lock separately: both calls go on to
  `map_vdso`, and when both of those return 0 the address space
  has two `[vdso]` and two `[vvar]` VMAs.
-/
theorem map_vdso_once_races_to_two_copies
    {S : Nat}
    {image : VdsoImage}
    (hNoWrap : mapLen S image < 2 ^ 64)
    {mm : MmVdso}
    (hFresh : mm.vmas.any Vma.isVdsoOrVvar = false)
    {t₁ t₂ : Nat}
    (hNe : t₁ ≠ t₂)
    (addr₁ addr₂ : Nat)
    (env₁ env₂ : MapEnv) :
    Machine.run (mmStep S image) ⟨mm, []⟩
        [.onceCheck t₁ addr₁, .onceCheck t₂ addr₂, .onceMap t₁ env₁, .onceMap t₂ env₂] =
      some ⟨(mapVdso env₂ S image addr₂ (mapVdso env₁ S image addr₁ mm).1).1, []⟩ ∧
    ((mapVdso env₁ S image addr₁ mm).2 = 0 →
      (mapVdso env₂ S image addr₂ (mapVdso env₁ S image addr₁ mm).1).2 = 0 →
      (mapVdso env₂ S image addr₂ (mapVdso env₁ S image addr₁ mm).1).1.count .vdso = 2 ∧
        (mapVdso env₂ S image addr₂ (mapVdso env₁ S image addr₁ mm).1).1.count .vvar = 2) := by
  refine ⟨?_, fun hOk₁ hOk₂ => ?_⟩
  · -- both looks find nothing mapped; each `map_vdso` is at its own thread's address
    have hOther : (t₁ == t₂) = false := beq_eq_false_iff_ne.mpr hNe
    have hOther' : (t₂ != t₁) = true := bne_iff_ne.mpr (Ne.symm hNe)
    have hFirst : mmStep S image ⟨mm, []⟩ (.onceCheck t₁ addr₁) = some ⟨mm, [(t₁, addr₁)]⟩ := by
      simp only [mmStep, List.any_nil, hFresh, Bool.false_eq_true, if_false]
    have hSecond : mmStep S image ⟨mm, [(t₁, addr₁)]⟩ (.onceCheck t₂ addr₂) =
        some ⟨mm, [(t₂, addr₂), (t₁, addr₁)]⟩ := by
      simp only [mmStep, List.any_cons, List.any_nil, hOther, Bool.or_false, hFresh,
        Bool.false_eq_true, if_false]
    have hThird : mmStep S image ⟨mm, [(t₂, addr₂), (t₁, addr₁)]⟩ (.onceMap t₁ env₁) =
        some ⟨(mapVdso env₁ S image addr₁ mm).1, [(t₂, addr₂)]⟩ := by
      simp [mmStep, List.lookup, hOther, hOther']
    have hFourth : mmStep S image ⟨(mapVdso env₁ S image addr₁ mm).1, [(t₂, addr₂)]⟩
        (.onceMap t₂ env₂) =
        some ⟨(mapVdso env₂ S image addr₂ (mapVdso env₁ S image addr₁ mm).1).1, []⟩ := by
      simp [mmStep, List.lookup]
    simp only [Machine.run_cons, hFirst, hSecond, hThird, hFourth, Option.bind_some,
      Machine.run_nil]
  · obtain ⟨hVdso, hVvar⟩ := MmVdso.count_eq_zero_of_not_any hFresh
    obtain ⟨hText₁, hArea₁, -⟩ :=
      countP_vdsoVmas S image (env₁.unmappedArea addr₁ (mapLen S image))
    obtain ⟨hText₂, hArea₂, -⟩ :=
      countP_vdsoVmas S image (env₂.unmappedArea addr₂ (mapLen S image))
    have hFirst := count_mapVdso_of_ret_eq_zero hNoWrap hOk₁
    have hSecond := count_mapVdso_of_ret_eq_zero hNoWrap hOk₂
    rw [hSecond .vdso, hSecond .vvar, hFirst .vdso, hFirst .vvar]
    omega

/- The demo's `get_unmapped_area`, a megabyte higher. -/
def raceArea
    (_ len : Nat) : Nat :=
  if len ≤ 2 ^ 40 then vdsoBase + 0x100000 else 2 ^ 64 - ENOMEM

theorem raceArea_lt
    (addr len : Nat) :
    raceArea addr len < 2 ^ 64 := by
  simp only [raceArea, vdsoBase, ENOMEM]
  split_ifs <;> omega

theorem raceArea_fits
    (addr len : Nat)
    (hOk : ¬ IsErrValue (raceArea addr len)) :
    raceArea addr len + len < 2 ^ 64 := by
  simp only [raceArea, IsErrValue, maxErrno, vdsoBase, ENOMEM] at hOk ⊢
  split_ifs at hOk ⊢ <;> omega

/- The demo environment, with `get_unmapped_area` a megabyte higher. -/
def raceEnv : MapEnv where
  ops := .list
  lockKilled := false
  unmappedArea := raceArea
  unmappedArea_lt := raceArea_lt
  unmappedArea_fits := raceArea_fits
  textErr := none
  vvarErr := none
  vtaskErr := none

/- Threads 1 and 2 both pass the look; their maps land at `vdsoBase` and a megabyte up. -/
theorem map_vdso_once_races_to_two_copies_demo :
    mapLen 9600 demoImage < 2 ^ 64 ∧ emptyMm.vmas.any Vma.isVdsoOrVvar = false ∧ (1 : Nat) ≠ 2 ∧
      (mapVdso raceEnv 9600 demoImage 0 (mapVdso (demoEnv false) 9600 demoImage 0 emptyMm).1).1.count
        .vdso = 2 := by
  have hLen : mapLen 9600 demoImage < 2 ^ 64 := by decide
  have hArea₁ : (demoEnv false).unmappedArea 0 (mapLen 9600 demoImage) = vdsoBase := by decide
  have hArea₂ : raceEnv.unmappedArea 0 (mapLen 9600 demoImage) = vdsoBase + 0x100000 := by decide
  -- the first map lands at `vdsoBase`, the second a megabyte up, clear of it
  have hMap₁ := @mapVdso_ok_of_free (demoEnv false) 9600 0 demoImage emptyMm hLen rfl
    (by rw [hArea₁]; decide) (by simp [emptyMm]) ⟨rfl, rfl, rfl⟩
  have hOk₁ : (mapVdso (demoEnv false) 9600 demoImage 0 emptyMm).2 = 0 := by
    rw [hMap₁]
  have hOk₂ : (mapVdso raceEnv 9600 demoImage 0
      (mapVdso (demoEnv false) 9600 demoImage 0 emptyMm).1).2 = 0 := by
    rw [@mapVdso_ok_of_free raceEnv 9600 0 demoImage _ hLen rfl (by rw [hArea₂]; decide)
      (by rw [hMap₁, hArea₁, hArea₂]; decide) ⟨rfl, rfl, rfl⟩]
  obtain ⟨-, hTwo⟩ := @map_vdso_once_races_to_two_copies 9600 demoImage hLen emptyMm rfl 1 2
    (by decide) 0 0 (demoEnv false) raceEnv
  exact ⟨hLen, rfl, by decide, (hTwo hOk₁ hOk₂).1⟩

end Vdso

end OsHomework

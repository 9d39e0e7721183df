import OsHomework.Vdso.Setup

/-
  Moving the vDSO, from `vdso_mremap` in
  `arch/x86/entry/vdso/vma.c`.

  `mremap` may move a whole VMA to a free place.  Of the three
  special mappings only `[vdso]` has an `.mremap` hook, and
  `vdso_mremap` sets `context.vdso` to the text's new start
  (its `vdso_fix_landing` only moves the IP of a 32-bit task in
  the 32-bit image, which no 64-bit task is).  So over every
  serial run of the process's threads from exec (no thread
  starting `map_vdso_once` while another is between its two
  locked sections), with such moves among the sections,
  `context.vdso` is where the `[vdso]` text starts, and the
  vDSO stays mapped at most once.

  Moving `[vvar]` or `[vtask]` runs no hook: nothing here keeps
  the vvar area below the text, and a run that moves the text
  alone leaves it elsewhere.

  Main declarations:
    * `vdsoMremap`, `mremapVma`, `VdsoEvent`, `vdsoStep`
    * `VdsoTracked`, `TrackedSerial` and its step lemmas
-/

------------------------------------------------------------
-- Moves
------------------------------------------------------------

namespace OsHomework

namespace Vdso

/-
  `vdso_mremap(sm, new_vma)`: `context.vdso` follows the text to
  its new start; it always returns 0.
-/
def vdsoMremap
    (mm : MmVdso)
    (newVma : Vma) : MmVdso × Int :=
  ({ mm with vdso := newVma.start }, 0)

/-
  `mremap(old, len, len, MREMAP_MAYMOVE | MREMAP_FIXED, new)` of
  a whole VMA: refused unless a VMA is `[old, old + len)` and its
  new place misses every other VMA.  The moved VMA keeps its
  mapping; the `[vdso]` text runs its hook.
-/
def mremapVma
    (mm : MmVdso)
    (oldStart len newStart : Nat) : Option MmVdso :=
  match mm.vmas.find? (fun v => v.start == oldStart && v.len == len) with
  | none => none
  | some v =>
      let moved : Vma := { v with start := newStart }
      let rest := eraseVma mm.vmas oldStart len
      if rest.any moved.overlaps then none
      else
        let mm := { mm with vmas := moved :: rest }
        if v.mapping = .vdso then some (vdsoMremap mm moved).1 else some mm

/- A locked section of a thread of the process after exec: one of `mmStep`'s, or a move. -/
inductive VdsoEvent
  | mm (e : MmEvent)
  | mremap (oldStart len newStart : Nat)

def vdsoStep
    (S : Nat)
    (image : VdsoImage)
    (s : MmThreads) : VdsoEvent → Option MmThreads
  | .mm e => mmStep S image s e
  | .mremap oldStart len newStart =>
      (mremapVma s.mm oldStart len newStart).map fun mm => ⟨mm, s.between⟩

/- No thread starts `map_vdso_once`'s look while another is between its two sections. -/
def serialVdso
    (s : MmThreads) : VdsoEvent → Bool
  | .mm e => serialOnce s e
  | .mremap _ _ _ => true

/- Every `[vdso]` text starts at `context.vdso`. -/
def TextAtVdso
    (mm : MmVdso) : Prop :=
  ∀ v ∈ mm.vmas, v.mapping = .vdso → v.start = mm.vdso

/- At most one `[vdso]` and one `[vvar]`, and `context.vdso` is where the `[vdso]` starts. -/
def VdsoTracked
    (mm : MmVdso) : Prop :=
  VdsoOnce mm ∧ TextAtVdso mm

/- What a serial run keeps: `OnceSerial`, and the text where `context.vdso` says. -/
structure TrackedSerial
    (s : MmThreads) : Prop where
  serial : OnceSerial s
  text_at : TextAtVdso s.mm

end Vdso

end OsHomework

------------------------------------------------------------
-- What a Move Keeps
------------------------------------------------------------

namespace OsHomework

namespace Vdso

/- A move puts the VMA at its new start before the others, with `context.vdso` set for the text. -/
theorem mremapVma_eq_some
    {mm mm' : MmVdso}
    {oldStart len newStart : Nat}
    (h : mremapVma mm oldStart len newStart = some mm') :
    ∃ v, mm.vmas.find? (fun w => w.start == oldStart && w.len == len) = some v ∧
      mm'.vmas = { v with start := newStart } :: eraseVma mm.vmas oldStart len ∧
      mm'.vdso = (if v.mapping = .vdso then newStart else mm.vdso) := by
  simp only [mremapVma] at h
  split at h
  · cases h
  · rename_i v hFind
    refine ⟨v, hFind, ?_⟩
    split_ifs at h with hOverlap hText
    · cases h
      exact ⟨rfl, by rw [if_pos hText]; rfl⟩
    · cases h
      exact ⟨rfl, by rw [if_neg hText]⟩

/- A move changes where a VMA is, not what it maps: each mapping keeps its count. -/
theorem count_mremapVma
    {mm mm' : MmVdso}
    {oldStart len newStart : Nat}
    (h : mremapVma mm oldStart len newStart = some mm')
    (m : Mapping) :
    mm'.count m = mm.count m := by
  obtain ⟨v, hFind, hVmas, -⟩ := mremapVma_eq_some h
  have hPerm := Extent.perm_cons_eraseP_of_find? hFind
  simp only [MmVdso.count, hVmas, eraseVma, hPerm.countP_eq, List.countP_cons]

theorem VdsoTracked.mremap
    {mm mm' : MmVdso}
    {oldStart len newStart : Nat}
    (hInv : VdsoTracked mm)
    (h : mremapVma mm oldStart len newStart = some mm') :
    VdsoTracked mm' := by
  obtain ⟨v, hFind, hVmas, hVdso⟩ := mremapVma_eq_some h
  have hPerm := Extent.perm_cons_eraseP_of_find? hFind
  refine ⟨⟨(count_mremapVma h .vdso).trans_le hInv.1.1,
    (count_mremapVma h .vvar).trans_le hInv.1.2⟩, ?_⟩
  intro w hw hText
  rw [hVmas] at hw
  rcases List.mem_cons.mp hw with rfl | hRest
  · -- the moved VMA is the text, so its hook ran
    simp only at hText
    rw [hVdso, if_pos hText]
  · -- another text would make two: the moved VMA is not the text
    have hOld := hInv.2 w (hPerm.symm.subset (List.mem_cons_of_mem v hRest)) hText
    by_cases hMoved : v.mapping = .vdso
    · have hTwo : 2 ≤ mm.count .vdso := by
        have hCount : mm.count .vdso =
            (v :: eraseVma mm.vmas oldStart len).countP (fun u => u.mapping == .vdso) :=
          hPerm.countP_eq _
        rw [hCount, List.countP_cons, if_pos (by simpa using hMoved)]
        have hPos : 0 < (eraseVma mm.vmas oldStart len).countP (fun u => u.mapping == .vdso) :=
          List.countP_pos_iff.mpr ⟨w, hRest, by simpa using hText⟩
        omega
      exact absurd hInv.1.1 (by omega)
    · rw [hVdso, if_neg hMoved]
      exact hOld

end Vdso

end OsHomework

------------------------------------------------------------
-- Over Every Serial Run
------------------------------------------------------------

namespace OsHomework

namespace Vdso

section Runs

variable {S : Nat} {image : VdsoImage}

/-
  `map_vdso` on an address space with no text leaves every text
  at `context.vdso`: the one it maps, or none at all.
-/
theorem TextAtVdso.mapVdso_of_fresh
    (hNoWrap : mapLen S image < 2 ^ 64)
    {mm : MmVdso}
    (hFresh : mm.count .vdso = 0)
    (env : MapEnv)
    (addr : Nat) :
    TextAtVdso (mapVdso env S image addr mm).1 := by
  by_cases hOk : (mapVdso env S image addr mm).2 = 0
  · -- the only text is the new one, at `text_start`
    obtain ⟨-, hMm⟩ := mapVdso_of_ret_eq_zero hNoWrap hOk
    intro v hv hText
    rw [hMm] at hv ⊢
    rcases List.mem_append.mp hv with hNew | hOld
    · simp only [vdsoVmas, List.mem_cons, List.not_mem_nil, or_false] at hNew
      rcases hNew with rfl | rfl | rfl <;> simp_all
    · exact absurd hText (Vma.mapping_ne_vdso_of_count hFresh hOld)
  · rw [mapVdso_fst_of_ret_ne_zero hNoWrap hOk]
    exact fun v hv hText => absurd hText (Vma.mapping_ne_vdso_of_count hFresh hv)

theorem TrackedSerial.mremap
    {s : MmThreads}
    {mm' : MmVdso}
    {oldStart len newStart : Nat}
    (hInv : TrackedSerial s)
    (h : mremapVma s.mm oldStart len newStart = some mm') :
    TrackedSerial ⟨mm', s.between⟩ :=
  -- a move keeps every count, so a thread between the sections still finds neither
  ⟨hInv.serial.of_count_le (count_mremapVma h .vdso).le (count_mremapVma h .vvar).le rfl,
    (VdsoTracked.mremap ⟨hInv.serial.once, hInv.text_at⟩ h).2⟩

theorem TrackedSerial.step
    (hNoWrap : mapLen S image < 2 ^ 64)
    {s s' : MmThreads}
    {e : VdsoEvent}
    (hInv : TrackedSerial s)
    (hStep : Machine.restrict (vdsoStep S image) serialVdso s e = some s') :
    TrackedSerial s' := by
  obtain ⟨hSerial, hStep⟩ := Machine.restrict_eq_some hStep
  cases e with
  | mremap oldStart len newStart =>
      simp only [vdsoStep, Option.map_eq_some_iff] at hStep
      obtain ⟨mm', hMove, rfl⟩ := hStep
      exact hInv.mremap hMove
  | mm e =>
      have hOnce : OnceSerial s' :=
        hInv.serial.step hNoWrap ((Machine.restrict_eq_of_ok hSerial).trans hStep)
      refine ⟨hOnce, ?_⟩
      replace hStep : mmStep S image s e = some s' := hStep
      cases e with
      | onceCheck t addr =>
          -- the look changes no VMA
          obtain ⟨-, ⟨-, rfl⟩ | ⟨-, rfl⟩⟩ := mmStep_onceCheck_eq_some hStep
          · exact hInv.text_at
          · exact hInv.text_at
      | onceMap t env =>
          -- the one thread between the sections maps where no text is
          obtain ⟨addr, hAddr, rfl⟩ := mmStep_onceMap_eq_some hStep
          have hOnly := eq_singleton_of_lookup hInv.serial.between_le hAddr
          have hFresh := hInv.serial.between_fresh (by simp [hOnly])
          exact TextAtVdso.mapVdso_of_fresh hNoWrap hFresh.1 env addr
      | munmap start len =>
          -- `munmap` only removes VMAs and leaves `context.vdso`
          rw [mmStep_munmap_eq_some hStep]
          exact fun v hv => hInv.text_at v (List.mem_of_mem_eraseP hv)
      | mmap start len id =>
          rw [mmStep_mmap_eq_some hStep]
          intro v hv hText
          rcases List.mem_cons.mp hv with rfl | hOld
          · cases hText
          · exact hInv.text_at v hOld hText

/-
  From exec on an address space with no vDSO, over every serial
  run of `map_vdso_once`'s two sections, `munmap`, `mmap` and
  `mremap` of whole VMAs by the process's threads, the `[vdso]`
  text starts at `context.vdso` and there is at most one
  `[vdso]` and one `[vvar]` VMA.
-/
theorem context_vdso_follows_text_over_serial_runs
    (hNoWrap : mapLen S image < 2 ^ 64)
    (vdso64Enabled : Nat)
    (env : MapEnv)
    (alignVdsoAddr : Nat → Nat)
    (rand : UInt32)
    (startStack : Nat)
    (mm₀ : MmVdso)
    (hFresh : mm₀.vmas.any Vma.isVdsoOrVvar = false)
    (events : List VdsoEvent)
    (s : MmThreads)
    (hRun :
      Machine.run (Machine.restrict (vdsoStep S image) serialVdso)
        ⟨(Vdso.archSetupAdditionalPages vdso64Enabled env alignVdsoAddr rand S image
          startStack mm₀).1, []⟩ events = some s) :
    VdsoTracked s.mm := by
  -- exec maps on a fresh address space, or not at all
  have hNone := (MmVdso.count_eq_zero_of_not_any hFresh).1
  have hInit : TrackedSerial ⟨(Vdso.archSetupAdditionalPages vdso64Enabled env alignVdsoAddr
      rand S image startStack mm₀).1, []⟩ := by
    refine ⟨OnceSerial.archSetupAdditionalPages hNoWrap vdso64Enabled env alignVdsoAddr rand
      startStack hFresh, ?_⟩
    show TextAtVdso (Vdso.archSetupAdditionalPages vdso64Enabled env alignVdsoAddr rand S image
      startStack mm₀).1
    rcases archSetupAdditionalPages_fst vdso64Enabled env alignVdsoAddr rand S image startStack mm₀
      with hSame | ⟨addr, hMap⟩
    · rw [hSame]
      exact fun v hv hText => absurd hText (Vma.mapping_ne_vdso_of_count hNone hv)
    · rw [hMap]
      exact TextAtVdso.mapVdso_of_fresh hNoWrap hNone env addr
  have hEnd := Machine.Reachable.invariant TrackedSerial hInit
    (fun _ _ _ hInv hStep => hInv.step hNoWrap hStep)
    (Machine.reachable_of_run hRun)
  exact ⟨hEnd.serial.once, hEnd.text_at⟩

end Runs

/- The address space exec leaves at `vdsoBase`, with the text moved one megabyte up. -/
def movedTextMm : MmVdso :=
  ⟨[⟨vdsoBase + 0x100000, demoImage.size, .vdso⟩,
      ⟨vdsoBase, vtaskSize 9600, .vtask⟩,
      ⟨vdsoBase + vtaskSize 9600, demoImage.vvarSize, .vvar⟩],
    vdsoBase + 0x100000, some demoImage⟩

/- Exec on an empty address space, then the text moved one megabyte up. -/
theorem context_vdso_follows_text_over_serial_runs_demo :
    mapLen 9600 demoImage < 2 ^ 64 ∧ emptyMm.vmas.any Vma.isVdsoOrVvar = false ∧
      Machine.run (Machine.restrict (vdsoStep 9600 demoImage) serialVdso)
          ⟨(Vdso.archSetupAdditionalPages 1 (demoEnv false) id 7 9600 demoImage 0x7ffd12345678
            emptyMm).1, []⟩
          [.mremap (mapVdsoLayout 9600 demoImage.vvarSize vdsoBase).textStart demoImage.size
            (vdsoBase + 0x100000)] =
        some ⟨movedTextMm, []⟩ ∧
      VdsoTracked movedTextMm := by
  have hLen : mapLen 9600 demoImage < 2 ^ 64 := by decide
  have hRun : Machine.run (Machine.restrict (vdsoStep 9600 demoImage) serialVdso)
      ⟨(Vdso.archSetupAdditionalPages 1 (demoEnv false) id 7 9600 demoImage 0x7ffd12345678
        emptyMm).1, []⟩
      [.mremap (mapVdsoLayout 9600 demoImage.vvarSize vdsoBase).textStart demoImage.size
        (vdsoBase + 0x100000)] =
      some ⟨movedTextMm, []⟩ := by
    decide +kernel
  exact ⟨hLen, rfl, hRun,
    context_vdso_follows_text_over_serial_runs hLen 1 (demoEnv false) id 7 0x7ffd12345678 emptyMm
      rfl _ _ hRun⟩

end Vdso

end OsHomework

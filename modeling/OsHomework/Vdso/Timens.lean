import OsHomework.Vdso.Faults
import OsHomework.Lib.Machine

/-
  The page table entries of the `[vvar]` area across time
  namespace changes, from `vdso_join_timens` and `vvar_fault`
  in `arch/x86/entry/vdso/vma.c`.

  `vvar_fault` maps each vvar page by the task's time
  namespace, and a present entry is never faulted again:
  the MMU faults only on a missing entry, and `vmf_insert_pfn`
  leaves a present one as it is.  So when the task changes
  its namespace, `vdso_join_timens` zaps every `[vvar]` VMA of
  its address space, and the pages fault again with the new
  layout.  Entering a time namespace needs a single-threaded
  task, so no fault comes between the zap and the switch of
  the task's namespace: here the two are one step.

  The invariant, `VvarPt.Coherent`: every present `[vvar]`
  entry maps the frame the text finds at that offset in the
  task's current namespace.  It holds over every run of
  faults and namespace changes from an empty table.

  Not modelled: the entries of the other mappings, which no
  step here reads, and changes to the VMAs during the run.

  Main declarations:
    * `VvarPt`, `insertPtes`, `zapPageRange`, `vdsoJoinTimens`
    * `vvarStep`: a fault or a namespace change
    * `VvarLaidOut`, `VvarPt.Coherent` and its step lemmas
-/

------------------------------------------------------------
-- The Page Table
------------------------------------------------------------

namespace OsHomework

namespace Vdso

/-
  The present entries of the `[vvar]` VMAs, each a page address
  and its frame, and the frames `vvar_fault` finds for the task.
-/
structure VvarPt where
  vvar : VvarEnv
  ptes : List (Nat × Nat)
deriving DecidableEq, Repr

/-
  The entries of a fault's answer go in one after the other;
  `vmf_insert_pfn` on a present entry leaves it as it is.
-/
def insertPtes
    (ptes es : List (Nat × Nat)) : List (Nat × Nat) :=
  es.foldl (fun pt e => if (pt.lookup e.1).isSome then pt else e :: pt) ptes

/- `zap_page_range(vma, start, size)`: drop the entries of `[start, start + size)`. -/
def zapPageRange
    (ptes : List (Nat × Nat))
    (start size : Nat) : List (Nat × Nat) :=
  ptes.filter (fun p => !(decide (start ≤ p.1) && decide (p.1 < start + size)))

/-
  `vdso_join_timens(task, ns)`: zap the whole of each `[vvar]`
  VMA of the task's address space, in the order of its VMA
  list; it always returns 0.
-/
def vdsoJoinTimens
    (mm : MmVdso)
    (ptes : List (Nat × Nat)) : List (Nat × Nat) × Int :=
  (mm.vmas.foldl
    (fun pt v => if v.mapping == .vvar then zapPageRange pt v.start v.len else pt) ptes, 0)

/-
  What the task does: touch address `a`, at a moment when
  `ptAlloc` says which page tables can be allocated, or enter
  the time namespace whose page is `timensPage` (none for the
  root namespace).
-/
inductive VvarEvent
  | fault (a : Nat) (ptAlloc : Nat → Bool)
  | joinTimens (timensPage : Option Nat)

/-
  One event on the address space `mm`.  A touch of a page with
  a present entry does not fault; otherwise the fault goes to
  the handler of the VMA holding it, with the task's current
  frames, and the entries it put in stay, also when it ends in
  `VM_FAULT_OOM` after the pre-fault.
-/
def vvarStep
    (S : Nat)
    (fenv : FaultEnv)
    (mm : MmVdso)
    (st : VvarPt) : VvarEvent → Option VvarPt
  | .fault a ptAlloc =>
      if (st.ptes.lookup (a / pageSize * pageSize)).isSome then some st
      else
        let r := pageFault S { fenv with vvar := st.vvar, ptAlloc := ptAlloc } mm a
        some { st with ptes := insertPtes st.ptes r.inserted }
  | .joinTimens t =>
      some ⟨{ st.vvar with timensPage := t }, (vdsoJoinTimens mm st.ptes).1⟩

end Vdso

end OsHomework

------------------------------------------------------------
-- What the Table Keeps
------------------------------------------------------------

namespace OsHomework

namespace Vdso

/-
  Every present entry lies in the `[vvar]` VMA a fault there
  goes to, and maps the frame the text finds at its offset
  from the end of that VMA in the task's current namespace.
-/
def VvarPt.Coherent
    (syms : VvarSyms)
    (mm : MmVdso)
    (st : VvarPt) : Prop :=
  ∀ p ∈ st.ptes, ∃ v, mm.vmas.find? (fun w => w.contains p.1) = some v ∧
    v.mapping = .vvar ∧
    vvarPageAt st.vvar syms ((p.1 : Int) - ((v.start + v.len : Nat) : Int)) = some p.2

/-
  The address space as `map_vdso` leaves it for an image with
  these symbols: VMAs that pairwise pass the overlap test, each
  `[vvar]` VMA page aligned, `vvar_size` long and below `2^64`,
  and the time namespace symbol a page of the vvar area apart
  from the other symbols.
-/
structure VvarLaidOut
    (syms : VvarSyms)
    (mm : MmVdso)
    (image : VdsoImage) : Prop where
  image_eq : mm.vdsoImage = some image
  symVvarStart_eq : image.symVvarStart = -(image.vvarSize : Int)
  timens_ge : -(image.vvarSize : Int) ≤ syms.symTimensPage
  timens_lt : syms.symTimensPage < 0
  timens_ne_vvar : syms.symTimensPage ≠ syms.symVvarPage
  timens_ne_pvclock : syms.symTimensPage ≠ syms.symPvclockPage
  timens_ne_hvclock : syms.symTimensPage ≠ syms.symHvclockPage
  vvar_vma : ∀ v ∈ mm.vmas, v.mapping = .vvar →
    v.len = image.vvarSize ∧ v.start % pageSize = 0 ∧ v.start + v.len < 2 ^ 64
  pairwise : mm.vmas.Pairwise (fun v w => v.overlaps w = false)

/- With no two VMAs overlapping, a fault goes to the one VMA holding it. -/
theorem find?_contains_of_mem
    {vmas : List Vma}
    {v : Vma}
    {a : Nat}
    (hPair : vmas.Pairwise (fun v w => v.overlaps w = false))
    (hv : v ∈ vmas)
    (ha : v.contains a = true) :
    vmas.find? (fun w => w.contains a) = some v :=
  Extent.find?_holds_of_pairwise Vma.extent hPair hv ha

/- The VMA a fault goes to is one of the address space's, and holds the address. -/
theorem mem_of_find?_contains
    {vmas : List Vma}
    {v : Vma}
    {a : Nat}
    (hFind : vmas.find? (fun w => w.contains a) = some v) :
    v ∈ vmas ∧ v.start ≤ a ∧ a < v.start + v.len := by
  have hHolds := List.find?_some hFind
  simp only [Vma.contains, Bool.and_eq_true, decide_eq_true_eq] at hHolds
  exact ⟨List.mem_of_find?_eq_some hFind, hHolds⟩

theorem mem_insertPtes
    {p : Nat × Nat} :
    ∀ {ptes es : List (Nat × Nat)}, p ∈ insertPtes ptes es → p ∈ ptes ∨ p ∈ es
  | _, [], h => Or.inl h
  | ptes, e :: es, h => by
      simp only [insertPtes, List.foldl_cons] at h
      rcases mem_insertPtes h with hOld | hNew
      · -- the first entry went in unless one was present at its page
        split_ifs at hOld
        · exact Or.inl hOld
        · rcases List.mem_cons.mp hOld with rfl | hOld
          · exact Or.inr List.mem_cons_self
          · exact Or.inl hOld
      · exact Or.inr (List.mem_cons_of_mem e hNew)

theorem mem_zapPageRange
    {p : Nat × Nat}
    {ptes : List (Nat × Nat)}
    {start size : Nat}
    (h : p ∈ zapPageRange ptes start size) :
    p ∈ ptes ∧ ¬ (start ≤ p.1 ∧ p.1 < start + size) := by
  simp only [zapPageRange, List.mem_filter, Bool.not_eq_true', Bool.and_eq_false_iff,
    decide_eq_false_iff_not] at h
  exact ⟨h.1, by omega⟩

/- After `vdso_join_timens` no entry is left in a `[vvar]` VMA. -/
theorem mem_vdsoJoinTimens
    {p : Nat × Nat} :
    ∀ {vmas : List Vma} {ptes : List (Nat × Nat)} {vdso : Nat} {image : Option VdsoImage},
      p ∈ (vdsoJoinTimens ⟨vmas, vdso, image⟩ ptes).1 →
        p ∈ ptes ∧ ∀ v ∈ vmas, v.mapping = .vvar → v.contains p.1 = false
  | [], _, _, _, h => ⟨h, fun _ hv => absurd hv List.not_mem_nil⟩
  | v :: vmas, ptes, vdso, image, h => by
      simp only [vdsoJoinTimens, List.foldl_cons] at h
      -- the loop goes on from the table after the first VMA
      obtain ⟨hFirst, hRest⟩ := @mem_vdsoJoinTimens p vmas _ vdso image h
      refine ⟨?_, ?_⟩
      · split_ifs at hFirst
        · exact (mem_zapPageRange hFirst).1
        · exact hFirst
      · intro w hw hVvar
        rcases List.mem_cons.mp hw with rfl | hw
        · have hZap := mem_zapPageRange (by simpa [hVvar] using hFirst)
          simp only [Vma.contains, Bool.and_eq_false_iff, decide_eq_false_iff_not]
          omega
        · exact hRest w hw hVvar

/- The real vvar page is what the text finds at the time namespace symbol, in a namespace. -/
theorem vvarPageAt_symTimensPage
    {syms : VvarSyms}
    {mm : MmVdso}
    {image : VdsoImage}
    (hLay : VvarLaidOut syms mm image)
    {env : VvarEnv}
    (hT : env.timensPage.isSome) :
    vvarPageAt env syms syms.symTimensPage = some env.vvarPfn := by
  obtain ⟨t, hSome⟩ := Option.isSome_iff_exists.mp hT
  simp only [vvarPageAt, if_neg (Int.ne_of_lt hLay.timens_lt), if_neg hLay.timens_ne_vvar,
    if_neg hLay.timens_ne_pvclock, if_neg hLay.timens_ne_hvclock, if_true, hSome, Option.map_some]

theorem mem_inserted_insertAllowed
    {ptAlloc : Nat → Bool}
    {x e : Nat × Nat}
    (h : e ∈ (insertAllowed ptAlloc x).inserted) :
    e = x := by
  unfold insertAllowed at h
  split_ifs at h <;> simp_all [FaultResult.inserted]

/-
  What a fault at a page of the vvar area below `textStart`
  puts in is what the text finds at each entry's offset, and
  each entry lies in the area.
-/
theorem vvarAreaFault_inserted
    {syms : VvarSyms}
    {mm : MmVdso}
    {image : VdsoImage}
    (hLay : VvarLaidOut syms mm image)
    {env : VvarEnv}
    {ptAlloc : Nat → Bool}
    {textStart page : Nat}
    (hLo : textStart - image.vvarSize ≤ page)
    (hHi : page < textStart)
    (hRoom : image.vvarSize ≤ textStart) :
    ∀ e ∈ (vvarAreaFault env syms ptAlloc textStart page).inserted,
      textStart - image.vvarSize ≤ e.1 ∧ e.1 < textStart ∧
        vvarPageAt env syms ((e.1 : Int) - textStart) = some e.2 := by
  have hGe := hLay.timens_ge
  have hLt := hLay.timens_lt
  intro e he
  simp only [vvarAreaFault] at he
  split at he
  · simp [FaultResult.inserted] at he
  · rename_i pfn hPage
    -- the entry of `page` itself, wherever it comes
    have hOwn : e = (page, pfn) → textStart - image.vvarSize ≤ e.1 ∧ e.1 < textStart ∧
        vvarPageAt env syms ((e.1 : Int) - textStart) = some e.2 := by
      rintro rfl
      exact ⟨hLo, hHi, hPage⟩
    split_ifs at he with hPre hAlloc
    · -- the vvar page in a namespace: the real vvar page goes in at the symbol first
      simp only [FaultResult.inserted, List.mem_cons] at he
      rcases he with rfl | he
      · have hOff : ((((textStart : Int) + syms.symTimensPage).toNat : Nat) : Int) - textStart =
            syms.symTimensPage := by
          omega
        refine ⟨by omega, by omega, ?_⟩
        rw [hOff, vvarPageAt_symTimensPage hLay hPre.2]
      · exact hOwn (mem_inserted_insertAllowed he)
    · simp [FaultResult.inserted] at he
    · exact hOwn (mem_inserted_insertAllowed he)

@[simp]
theorem vdsoFault_inserted
    (image : Option VdsoImage)
    (pgoff : Nat) :
    (vdsoFault image pgoff).inserted = [] := by
  unfold vdsoFault
  split
  · rfl
  · split_ifs <;> rfl

@[simp]
theorem vtaskInsert_inserted
    (ptAlloc : Nat → Bool)
    (v : Vma)
    (address : Nat)
    (r : VmFault) :
    (vtaskInsert ptAlloc v address r).inserted = [] := by
  cases r with
  | pfn f =>
      simp only [vtaskInsert]
      split <;> rfl
  | _ => rfl

/- Only a `[vvar]` VMA's fault puts entries in. -/
theorem pageFault_inserted
    {S : Nat}
    {fenv : FaultEnv}
    {mm : MmVdso}
    {a : Nat}
    {e : Nat × Nat}
    (h : e ∈ (pageFault S fenv mm a).inserted) :
    ∃ v, mm.vmas.find? (fun w => w.contains a) = some v ∧ v.mapping = .vvar := by
  simp only [pageFault] at h
  split at h
  · simp [FaultResult.inserted] at h
  · rename_i v hFind
    refine ⟨v, hFind, ?_⟩
    simp only [specialFault] at h
    split at h
    · simp at h
    · assumption
    · simp at h
    · simp [FaultResult.inserted] at h

/- A fault in a `[vvar]` VMA of the laid out address space is `vvarAreaFault` below its end. -/
theorem pageFault_of_vvar
    {syms : VvarSyms}
    {mm : MmVdso}
    {image : VdsoImage}
    (hLay : VvarLaidOut syms mm image)
    (S : Nat)
    (fenv : FaultEnv)
    (hSyms : fenv.syms = syms)
    {v : Vma}
    {a : Nat}
    (hFind : mm.vmas.find? (fun w => w.contains a) = some v)
    (hVvar : v.mapping = .vvar) :
    pageFault S fenv mm a =
      vvarAreaFault fenv.vvar fenv.syms fenv.ptAlloc (v.start + v.len) (a / pageSize * pageSize) := by
  have hP : pageSize = 4096 := rfl
  obtain ⟨hMem, hIn⟩ := mem_of_find?_contains hFind
  obtain ⟨hLen, hStart, hFits⟩ := hLay.vvar_vma v hMem hVvar
  -- the handler's page index is the page address's index: the VMA starts on a page
  have hIdx : (a - v.start) / pageSize = (a / pageSize * pageSize - v.start) / pageSize := by
    rw [hP] at hStart ⊢
    omega
  have hSpec := vvarFault_eq_spec fenv.vvar fenv.syms fenv.ptAlloc hLen hLay.symVvarStart_eq
    (fun _ => ⟨hSyms ▸ hLay.timens_ge, hSyms ▸ hLay.timens_lt⟩) hStart
    (show a / pageSize * pageSize % pageSize = 0 by rw [hP]; omega)
    (show v.start ≤ a / pageSize * pageSize by rw [hP] at hStart ⊢; omega)
    (show a / pageSize * pageSize < v.start + v.len by rw [hP]; omega) hFits
  have hHandler : pageFault S fenv mm a =
      vvarFault fenv.vvar fenv.syms fenv.ptAlloc (some image) v ((a - v.start) / pageSize)
        (a / pageSize * pageSize) := by
    unfold pageFault
    rw [hFind]
    unfold specialFault
    simp only [hVvar, hLay.image_eq]
  rw [hHandler, hIdx]
  exact hSpec

end Vdso

end OsHomework

------------------------------------------------------------
-- Over Every Run
------------------------------------------------------------

namespace OsHomework

namespace Vdso

section Runs

variable {S : Nat} {fenv : FaultEnv} {mm : MmVdso} {image : VdsoImage}

theorem VvarPt.Coherent.empty
    (vvar : VvarEnv) :
    VvarPt.Coherent fenv.syms mm ⟨vvar, []⟩ :=
  fun _ hp => absurd hp List.not_mem_nil

/- A fault puts in only entries that map what the text finds now. -/
theorem VvarPt.Coherent.fault
    (hLay : VvarLaidOut fenv.syms mm image)
    {st : VvarPt}
    (hCoh : st.Coherent fenv.syms mm)
    (a : Nat)
    (ptAlloc : Nat → Bool) :
    VvarPt.Coherent fenv.syms mm { st with ptes := (insertPtes st.ptes
      (pageFault S { fenv with vvar := st.vvar, ptAlloc := ptAlloc } mm a).inserted) } := by
  have hP : pageSize = 4096 := rfl
  intro p hp
  rcases mem_insertPtes hp with hOld | hNew
  · exact hCoh p hOld
  · -- a new entry comes from a `[vvar]` fault, and lies in that VMA
    obtain ⟨v, hFind, hVvar⟩ := pageFault_inserted hNew
    obtain ⟨hMem, hIn⟩ := mem_of_find?_contains hFind
    obtain ⟨hLen, hStart, -⟩ := hLay.vvar_vma v hMem hVvar
    rw [pageFault_of_vvar hLay S { fenv with vvar := st.vvar, ptAlloc := ptAlloc } rfl hFind hVvar]
      at hNew
    obtain ⟨hLo, hHi, hPage⟩ := vvarAreaFault_inserted hLay (by rw [hLen, hP] at *; omega)
      (by rw [hP]; omega) (by omega) p hNew
    refine ⟨v, find?_contains_of_mem hLay.pairwise hMem ?_, hVvar, hPage⟩
    simp only [Vma.contains, Bool.and_eq_true, decide_eq_true_eq]
    omega

/- A namespace change leaves no `[vvar]` entry, so nothing stale survives it. -/
theorem VvarPt.Coherent.joinTimens
    {st : VvarPt}
    (hCoh : st.Coherent fenv.syms mm)
    (t : Option Nat) :
    VvarPt.Coherent fenv.syms mm ⟨{ st.vvar with timensPage := t }, (vdsoJoinTimens mm st.ptes).1⟩ := by
  intro p hp
  obtain ⟨hOld, hZapped⟩ := @mem_vdsoJoinTimens p mm.vmas st.ptes mm.vdso mm.vdsoImage hp
  -- the entry was in a `[vvar]` VMA before, which the zap cleared
  obtain ⟨v, hFind, hVvar, -⟩ := hCoh p hOld
  have hHolds := List.find?_some hFind
  rw [hZapped v (List.mem_of_find?_eq_some hFind) hVvar] at hHolds
  cases hHolds

theorem VvarPt.Coherent.step
    (hLay : VvarLaidOut fenv.syms mm image)
    {st st' : VvarPt}
    {e : VvarEvent}
    (hCoh : st.Coherent fenv.syms mm)
    (hStep : vvarStep S fenv mm st e = some st') :
    st'.Coherent fenv.syms mm := by
  cases e with
  | fault a ptAlloc =>
      simp only [vvarStep] at hStep
      split_ifs at hStep
      · cases hStep
        exact hCoh
      · cases hStep
        exact hCoh.fault hLay a ptAlloc
  | joinTimens t =>
      cases hStep
      exact hCoh.joinTimens t

/-
  From an empty table, over every run of faults and time
  namespace changes, each present `[vvar]` entry maps the frame
  the text finds at its offset in the task's current namespace.
-/
theorem vvar_ptes_follow_time_namespace
    (hLay : VvarLaidOut fenv.syms mm image)
    (events : List VvarEvent)
    (st : VvarPt)
    (hRun : Machine.run (vvarStep S fenv mm) ⟨fenv.vvar, []⟩ events = some st) :
    st.Coherent fenv.syms mm :=
  Machine.Reachable.invariant (VvarPt.Coherent fenv.syms mm) (VvarPt.Coherent.empty fenv.vvar)
    (fun _ _ _ hCoh hStep => hCoh.step hLay hStep)
    (Machine.reachable_of_run hRun)

end Runs

/- The address space `map_vdso` leaves at `vdsoBase` for the demo image. -/
def demoVvarMm : MmVdso :=
  ⟨vdsoVmas 9600 demoImage vdsoBase, (mapVdsoLayout 9600 demoImage.vvarSize vdsoBase).textStart,
    some demoImage⟩

/-
  A task in a namespace touches its vvar page, which pre-faults
  the real page at the namespace symbol and then finds no
  memory for the page's own table; it returns to the root
  namespace and touches the page again.
-/
theorem vvar_ptes_follow_time_namespace_demo :
    VvarLaidOut demoFaultEnv.syms demoVvarMm demoImage ∧
      Machine.run (vvarStep 9600 demoFaultEnv demoVvarMm) ⟨demoFaultEnv.vvar, []⟩
          [.fault (vdsoBase + vtaskSize 9600 + 5) (fun a => a ≠ vdsoBase + vtaskSize 9600),
            .joinTimens none, .fault (vdsoBase + vtaskSize 9600) (fun _ => true)] =
        some ⟨{ demoFaultEnv.vvar with timensPage := none },
          [(vdsoBase + vtaskSize 9600, 0x1234)]⟩ ∧
      VvarPt.Coherent demoFaultEnv.syms demoVvarMm
        ⟨{ demoFaultEnv.vvar with timensPage := none }, [(vdsoBase + vtaskSize 9600, 0x1234)]⟩ := by
  have hLay : VvarLaidOut demoFaultEnv.syms demoVvarMm demoImage :=
    ⟨rfl, by decide, by decide, by decide, by decide, by decide, by decide, by decide, by decide⟩
  have hRun : Machine.run (vvarStep 9600 demoFaultEnv demoVvarMm) ⟨demoFaultEnv.vvar, []⟩
      [.fault (vdsoBase + vtaskSize 9600 + 5) (fun a => a ≠ vdsoBase + vtaskSize 9600),
        .joinTimens none, .fault (vdsoBase + vtaskSize 9600) (fun _ => true)] =
      some ⟨{ demoFaultEnv.vvar with timensPage := none },
        [(vdsoBase + vtaskSize 9600, 0x1234)]⟩ := by
    decide
  exact ⟨hLay, hRun, vvar_ptes_follow_time_namespace hLay _ _ hRun⟩

end Vdso

end OsHomework

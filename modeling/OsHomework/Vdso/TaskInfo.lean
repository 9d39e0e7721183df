import OsHomework.Vdso.Layout
import OsHomework.Lib.Machine
import Mathlib

/-
  `__vdso_get_task_struct_info` (`vgetinfo.c`) over runs of
  `fork`, thread creation (`CLONE_VM | CLONE_THREAD`) and
  calls, with the tasks' steps interleaved.

  Each address space has its own `[vtask]` mapping, installed
  by `map_vdso` at `base`, whose pages are filled lazily by
  `vtask_fault` from `current`: the view page from the faulting
  task's page offset and pid, a data page from the faulting
  task's frames.  Threads share the address space and its
  pages; `fork` gives the child a copy of the VMAs at the same
  addresses with `[vtask]` wiped (`VM_WIPEONFORK`).

  A call makes two reads, with no lock between them: it reads
  `view->page_offset` at the view address and forms the task
  address as `get_task_addr` does, then reads `task->pid`
  through it.  Each read faults its page in when it is absent,
  so any other task's reads and faults may come between the
  two.  A fault that runs out of memory is retried after the
  OOM killer; the model takes the fault that succeeds.
  Physical memory is known where it holds a task's `pid` field,
  at `__pa(task) + pidOff`; a read anywhere else is `none`.
  Reads outside `[vtask]` are outside the model.

  Main declarations:
    * `VTask`, `VPage`, `VMm`, `VSys`, `VEvent`, `VSys.step`
    * `faultPage`, `touchVtask`, `readVtaskInt`
    * `vdsoTaskAddr`, `vdsoTaskPid`: the two reads of a call
    * `VtaskPages`, what the reads leave in `[vtask]`
    * `VSys.ViewRead`, the pointer a task holds between its reads
    * `VInv` and `VInv.reachable`
    * `vdso_task_info_over_interleaved_reads`
-/

------------------------------------------------------------
-- Address Spaces and Their [vtask] Pages
------------------------------------------------------------

namespace OsHomework

namespace Vdso

/- A task: its address space and the physical address of its `task_struct`. -/
structure VTask where
  mm : Nat
  pa : Nat
deriving DecidableEq, Repr

/- A present `[vtask]` page: a view page, or a mapped frame. -/
inductive VPage
  | view (pageOffset pid : Nat)
  | frame (f : Nat)
deriving DecidableEq, Repr

/- An address space: where `map_vdso` put `[vtask]`, and its present pages. -/
structure VMm where
  base : Nat
  pages : Nat → Option VPage

/- No page of `[vtask]` present: a new mapping, or one `fork` wiped. -/
def noPages : Nat → Option VPage := fun _ => none

/-
  The tasks by pid, the address spaces by id, the next id, and
  the `task` pointer each task holds between the two reads of a
  call.
-/
structure VSys where
  tasks : List (Nat × VTask)
  mms : Nat → Option VMm
  nextMm : Nat
  pending : Nat → Option Int

/- The live task with pid `pid`. -/
def VSys.find
    (sys : VSys)
    (pid : Nat) : Option VTask :=
  sys.tasks.lookup pid

/- `sys` with the `[vtask]` pages of address space `k` (now `m`) set to `pages`. -/
def VSys.setPages
    (sys : VSys)
    (k : Nat)
    (m : VMm)
    (pages : Nat → Option VPage) : VSys :=
  { sys with mms := Function.update sys.mms k (some { m with pages := pages }) }

/- A fault installs page `pg` at index `idx` of address space `k` (now `m`). -/
def VSys.installPage
    (sys : VSys)
    (k : Nat)
    (m : VMm)
    (idx : Nat)
    (pg : VPage) : VSys :=
  sys.setPages k m (Function.update m.pages idx (some pg))

/- Task `T` now holds `task` between the reads of its call, or is in none. -/
def VSys.setPending
    (sys : VSys)
    (T : Nat)
    (task : Option Int) : VSys :=
  { sys with pending := Function.update sys.pending T task }

/-
  The `int` physical memory holds at `q`: the pid of the task
  whose `pid` field is there, and unknown elsewhere.
-/
def physPid
    (pidOff : Nat)
    (sys : VSys)
    (q : Nat) : Option Nat :=
  (sys.tasks.find? (fun e => decide (e.2.pa + pidOff = q))).map Prod.fst

/- The page `vtask_fault` installs for task (`pa`, `pid`) at index `idx`. -/
def faultPage
    (S pa pid idx : Nat) : Option VPage :=
  match vtaskFault S pa pid true idx with
  | .page po p => some (.view po p)
  | .pfn f => some (.frame f)
  | _ => none

/-
  Page `idx` of `[vtask]` in the address space of task `T`:
  the present page, or the one `T`'s fault installs.
-/
def touchVtask
    (S : Nat)
    (sys : VSys)
    (T : Nat) : Nat → Option (VSys × VPage) := fun idx =>
  match sys.find T with
  | none => none
  | some t =>
      match sys.mms t.mm with
      | none => none
      | some m =>
          match m.pages idx with
          | some pg => some (sys, pg)
          | none =>
              (faultPage S t.pa T idx).map fun pg =>
                (sys.installPage t.mm m idx pg, pg)

/- The `int` a page shows at offset `off`: the view's two fields, or memory. -/
def pageInt
    (pidOff : Nat)
    (sys : VSys)
    (off : Nat) : VPage → Option Nat
  | .view po p =>
      -- `struct my_task_struct_view`; the rest of the page is zeroed
      if off = 0 then some po else if off = 4 then some p else some 0
  | .frame f => physPid pidOff sys (f * pageSize + off)

/-
  Task `T` reads an `int` at user address `a` in `[vtask]`.  The
  result is the state after the fault, if any, and the value.
-/
def readVtaskInt
    (S pidOff : Nat)
    (sys : VSys)
    (T : Nat)
    (a : Int) : Option (VSys × Option Nat) :=
  match sys.find T with
  | none => none
  | some t =>
      match sys.mms t.mm with
      | none => none
      | some m =>
          let rel := a - m.base
          if 0 ≤ rel ∧ rel < vtaskSize S then
            (touchVtask S sys T (rel.toNat / pageSize)).map fun r =>
              (r.1, pageInt pidOff r.1 (rel.toNat % pageSize) r.2)
          else none

/-
  The first read of `__vdso_get_task_struct_info(info)` by task
  `T`, `info` non-NULL: `task = get_task_addr()`, which reads
  `view->page_offset` at the view address.  The result is the
  state after the fault, if any, and `task`.
-/
def vdsoTaskAddr
    (S pidOff : Nat)
    (sys : VSys)
    (T : Nat) : Option (VSys × Int) := do
  let t ← sys.find T
  let m ← sys.mms t.mm
  let vvarPage := (mapVdsoLayout S vvarSize m.base).vvarStart
  let r ← readVtaskInt S pidOff sys T (viewAddr vvarPage)
  let po ← r.2
  pure (r.1, getTaskAddr vvarPage po)

/-
  The rest of the call: `info->kaddr = task`, then `info->pid =
  task->pid`, a second read that faults its own page in, and
  `return 0`.  The result is the state after the fault, the
  return value, `info->kaddr` and `info->pid` (`none` when the
  read does not land on a `pid` field).
-/
def vdsoTaskPid
    (S pidOff : Nat)
    (sys : VSys)
    (T : Nat)
    (task : Int) : Option (VSys × Int × Int × Option Nat) := do
  let r ← readVtaskInt S pidOff sys T (task + pidOff)
  pure (r.1, 0, task, r.2)

/- `__vdso_get_task_struct_info(info)` by task `T`, with nothing run between its two reads. -/
def vdsoGetTaskStructInfo
    (S pidOff : Nat)
    (sys : VSys)
    (T : Nat) : Option (VSys × Int × Int × Option Nat) := do
  let r ← vdsoTaskAddr S pidOff sys T
  vdsoTaskPid S pidOff r.1 T r.2

end Vdso

end OsHomework

------------------------------------------------------------
-- Runs of fork, Thread Creation and the Reads of Calls
------------------------------------------------------------

namespace OsHomework

namespace Vdso

/- A pid and a `task_struct` address no live task uses. -/
def VSys.Fresh
    (sys : VSys)
    (child pa : Nat) : Prop :=
  ∀ e ∈ sys.tasks, e.1 ≠ child ∧ e.2.pa ≠ pa

instance
    (sys : VSys)
    (child pa : Nat) :
    Decidable (sys.Fresh child pa) :=
  inferInstanceAs (Decidable (∀ e ∈ sys.tasks, e.1 ≠ child ∧ e.2.pa ≠ pa))

/- `sys` with task `child` added. -/
def VSys.addTask
    (sys : VSys)
    (child : Nat)
    (t : VTask) : VSys :=
  { sys with tasks := sys.tasks ++ [(child, t)] }

/- `sys` with a new address space, numbered `sys.nextMm`. -/
def VSys.addMm
    (sys : VSys)
    (m : VMm) : VSys :=
  { sys with
      mms := Function.update sys.mms sys.nextMm (some m)
      nextMm := sys.nextMm + 1 }

/-
  The events of a run; a new task comes with its `task_struct`
  address.  A call is its two reads: `readView` forms the task
  address, `readPid` reads `task->pid` through it and returns.
-/
inductive VEvent
  | fork (parent child pa : Nat)
  | thread (parent child pa : Nat)
  | readView (pid : Nat)
  | readPid (pid : Nat)
deriving DecidableEq, Repr

/-
  `fork` copies the parent's VMAs at the same addresses into a
  new address space, with `[vtask]` wiped; a thread joins its
  creator's address space.  A task between the two reads of a
  call is running the vDSO, so it creates no task and starts no
  other call; the other tasks may do anything in between.
-/
def VSys.step
    (S pidOff : Nat)
    (sys : VSys) : VEvent → Option VSys
  | .fork parent child pa =>
      match sys.find parent with
      | none => none
      | some p =>
          match sys.mms p.mm with
          | none => none
          | some m =>
              if sys.pending parent = none ∧ sys.Fresh child pa then
                some ((sys.addMm ⟨m.base, noPages⟩).addTask child
                  ⟨sys.nextMm, pa⟩)
              else none
  | .thread parent child pa =>
      match sys.find parent with
      | none => none
      | some p =>
          if sys.pending parent = none ∧ sys.Fresh child pa then
            some (sys.addTask child ⟨p.mm, pa⟩)
          else none
  | .readView pid =>
      if sys.pending pid = none then
        (vdsoTaskAddr S pidOff sys pid).map fun r => r.1.setPending pid (some r.2)
      else none
  | .readPid pid =>
      match sys.pending pid with
      | none => none
      | some task =>
          (vdsoTaskPid S pidOff sys pid task).map fun r => r.1.setPending pid none

/- Where the boot task's `task_struct` sits. -/
def bootPa : Nat := 4096 * 4096 + 1024

/- The boot task (pid 1) alone in address space 0, `[vtask]` at `vdsoBase`. -/
def VSys.boot : VSys where
  tasks := [(1, ⟨0, bootPa⟩)]
  mms := Function.update (fun _ => none) 0 (some ⟨vdsoBase, noPages⟩)
  nextMm := 1
  pending := fun _ => none

/- No other task shares `T`'s address space. -/
def VSys.Alone
    (sys : VSys)
    (T : Nat) : Prop :=
  ∀ t, sys.find T = some t →
    ∀ V v, sys.find V = some v → v.mm = t.mm → V = T

end Vdso

end OsHomework

------------------------------------------------------------
-- State Updates
------------------------------------------------------------

namespace OsHomework

namespace Vdso


theorem VSys.setPages_mms
    (sys : VSys)
    (k : Nat)
    (m : VMm)
    (pages : Nat → Option VPage) :
    (sys.setPages k m pages).mms =
      Function.update sys.mms k (some ⟨m.base, pages⟩) :=
  rfl

/- Setting the pages an address space already has changes nothing. -/
theorem VSys.setPages_self
    {sys : VSys}
    {k : Nat}
    {m : VMm}
    (hm : sys.mms k = some m) :
    sys.setPages k m m.pages = sys := by
  simp only [VSys.setPages]
  rw [← hm, Function.update_eq_self]

@[simp]
theorem VSys.setPending_pending
    (sys : VSys)
    (T : Nat)
    (task : Option Int) :
    (sys.setPending T task).pending = Function.update sys.pending T task :=
  rfl

theorem VSys.find_addTask_of_find
    {sys : VSys}
    {child V : Nat}
    {t v : VTask}
    (hV : sys.find V = some v) :
    (sys.addTask child t).find V = some v := by
  simp only [VSys.find, VSys.addTask] at hV ⊢
  rw [List.lookup_append, hV, Option.some_or]

@[simp]
theorem physPid_installPage
    (pidOff : Nat)
    (sys : VSys)
    (k : Nat)
    (m : VMm)
    (idx : Nat)
    (pg : VPage)
    (q : Nat) :
    physPid pidOff (sys.installPage k m idx pg) q = physPid pidOff sys q :=
  rfl

theorem lookup_singleton_eq_some
    {V c : Nat}
    {x v : VTask}
    (hV : [(c, x)].lookup V = some v) :
    V = c ∧ v = x := by
  by_cases hEq : V = c
  · subst hEq
    simp only [List.lookup, beq_self_eq_true, Option.some.injEq] at hV
    exact ⟨rfl, hV.symm⟩
  · have hNe : (V == c) = false := beq_eq_false_iff_ne.mpr hEq
    simp only [List.lookup, hNe, reduceCtorEq] at hV

theorem VSys.find_boot_eq_some
    {V : Nat}
    {v : VTask}
    (hV : VSys.boot.find V = some v) :
    V = 1 ∧ v = ⟨0, bootPa⟩ :=
  lookup_singleton_eq_some hV

/- A task of `sys.addTask child t` is a task of `sys`, or the new one. -/
theorem VSys.find_addTask_eq_some
    {sys : VSys}
    {child V : Nat}
    {t v : VTask}
    (hV : (sys.addTask child t).find V = some v) :
    sys.find V = some v ∨ (V = child ∧ v = t) := by
  simp only [VSys.find, VSys.addTask, List.lookup_append] at hV
  cases hOld : sys.tasks.lookup V with
  | some w =>
      rw [hOld, Option.some_or] at hV
      exact .inl (by rw [VSys.find, hOld, hV])
  | none =>
      rw [hOld, Option.none_or] at hV
      exact .inr (lookup_singleton_eq_some hV)

theorem VSys.find_addTask_self
    {sys : VSys}
    {child pa : Nat}
    (t : VTask)
    (hFresh : sys.Fresh child pa) :
    (sys.addTask child t).find child = some t := by
  have hNone : sys.tasks.lookup child = none := by
    rw [List.lookup_eq_none_iff]
    intro e he
    exact bne_iff_ne.mpr (hFresh e he).1.symm
  simp [VSys.find, VSys.addTask, List.lookup_append, hNone, List.lookup]

@[simp]
theorem VSys.addMm_nextMm
    (sys : VSys)
    (m : VMm) :
    (sys.addMm m).nextMm = sys.nextMm + 1 :=
  rfl

/- A live task's entry is in the task list. -/
theorem VSys.mem_of_find
    {sys : VSys}
    {U : Nat}
    {u : VTask}
    (hU : sys.find U = some u) :
    (U, u) ∈ sys.tasks := by
  obtain ⟨l₁, l₂, hSplit, -⟩ := List.lookup_eq_some_iff.mp hU
  rw [hSplit]
  exact List.mem_append_right _ List.mem_cons_self

/-
  Where the `task_struct` addresses are distinct, the `pid` field
  at `u.pa + pidOff` is task `U`'s.
-/
theorem physPid_of_find
    {pidOff : Nat}
    {sys : VSys}
    {U : Nat}
    {u : VTask}
    (hInj : ∀ e₁ ∈ sys.tasks, ∀ e₂ ∈ sys.tasks, e₁.2.pa = e₂.2.pa → e₁ = e₂)
    (hU : sys.find U = some u) :
    physPid pidOff sys (u.pa + pidOff) = some U := by
  have hMem := VSys.mem_of_find hU
  -- the search stops at `U`'s entry at the latest
  obtain ⟨e, hFound⟩ :
      ∃ e, sys.tasks.find? (fun e => decide (e.2.pa + pidOff = u.pa + pidOff)) =
        some e :=
    Option.isSome_iff_exists.mp
      (List.find?_isSome.mpr ⟨(U, u), hMem, by simp⟩)
  have hPa : e.2.pa = u.pa := by
    simpa using List.find?_some hFound
  have hEq : e = (U, u) :=
    hInj e (List.mem_of_find?_eq_some hFound) (U, u) hMem hPa
  rw [physPid, hFound, hEq]
  rfl

/- Two tasks of the address space of a task alone in it are that task. -/
theorem VSys.Alone.eq
    {sys : VSys}
    {T U : Nat}
    {t u : VTask}
    (hAlone : sys.Alone T)
    (hT : sys.find T = some t)
    (hU : sys.find U = some u)
    (hMm : u.mm = t.mm) :
    U = T ∧ u = t := by
  obtain rfl := hAlone t hT U u hU hMm
  rw [hT, Option.some.injEq] at hU
  exact ⟨rfl, hU.symm⟩

end Vdso

end OsHomework


------------------------------------------------------------
-- What a Call's Reads Touch
------------------------------------------------------------

namespace OsHomework

namespace Vdso

open PageArith

/- The index of the page the vDSO reads `task->pid` from when `page_offset = po`. -/
def pidPageIndex
    (pidOff po : Nat) : Nat :=
  (pageSize + po + pidOff) / pageSize

/- `[vtask]` once task (`pa`, `pid`) faulted its view page in. -/
def viewPages
    (S pa pid : Nat) : Nat → Option VPage :=
  Function.update noPages 0 (faultPage S pa pid 0)

/-
  `[vtask]` once task (`pu`, `U`) faulted the view page in and
  task (`pv`, `V`) the page the vDSO reads `pid` from by `U`'s
  page offset.
-/
def sharedPages
    (S pidOff pu U pv V : Nat) : Nat → Option VPage :=
  let idx := pidPageIndex pidOff (pu % pageSize)
  Function.update (viewPages S pu U) idx (faultPage S pv V idx)

theorem pidPageIndex_ne_zero
    (pidOff po : Nat) :
    pidPageIndex pidOff po ≠ 0 := by
  simp only [pidPageIndex, pageSize]
  omega

/- Page 0 always faults in as the view of the faulting task. -/
theorem faultPage_zero
    (S pa pid : Nat) :
    faultPage S pa pid 0 = some (.view (pa % pageSize) pid) := by
  have hIn : vtaskSize S ≠ 0 := by
    simp only [vtaskSize, pageSize]
    omega
  simp [faultPage, vtaskFault, hIn]

/- A read `vtaskPhys` resolves goes through a data page `vtask_fault` maps. -/
theorem faultPage_of_vtaskPhys
    {S pa pid start q rel : Nat}
    {a : Int}
    (hRel : (a - start).toNat = rel)
    (hPhys : vtaskPhys S pa pid start a = some q) :
    ∃ f, faultPage S pa pid (rel / pageSize) = some (.frame f) ∧
      f * pageSize + rel % pageSize = q := by
  simp only [vtaskPhys, hRel] at hPhys
  unfold faultPage
  split at hPhys
  · next f hFault =>
      rw [hFault]
      exact ⟨f, rfl, Option.some.inj hPhys⟩
  · cases hPhys

/-
  When the task fits (`ALIGN(S)` three pages, the `pid` field in
  the first three pages from the task's page), the pid page
  faults in as the frame that holds `__pa(task) + pidOff` at
  the offset the vDSO reads.
-/
theorem faultPage_pidPage
    {S pidOff : Nat}
    (hAlign : alignUp S pageSize = 3 * pageSize)
    (hPid : pidOff ≤ 2 * pageSize)
    (pa pid : Nat) :
    ∃ f, faultPage S pa pid (pidPageIndex pidOff (pa % pageSize)) =
        some (.frame f) ∧
      f * pageSize + (pageSize + pa % pageSize + pidOff) % pageSize =
        pa + pidOff := by
  have hPages : vtaskSize S / pageSize = 4 := by
    rw [vtaskSize, hAlign]
    decide
  have hFit :
      (pa % pageSize + pidOff) / pageSize + 1 < vtaskSize S / pageSize := by
    have hMod := Nat.mod_lt pa (show 0 < pageSize by decide)
    rw [hPages]
    simp only [pageSize] at hMod hPid ⊢
    omega
  -- `vtaskPhys` measured from address 0 gives the same pages
  have hRel :
      (((0 : Nat) : Int) + (pageSize : Int) + ((pa % pageSize : Nat) : Int) +
          (pidOff : Int) - ((0 : Nat) : Int)).toNat =
        pageSize + pa % pageSize + pidOff := by
    omega
  exact faultPage_of_vtaskPhys hRel (@vtaskPhys_of_fit S pa pid 0 pidOff hFit)

theorem viewPages_zero
    (S pa pid : Nat) :
    viewPages S pa pid 0 = some (.view (pa % pageSize) pid) := by
  rw [viewPages, Function.update_self, faultPage_zero]

theorem viewPages_pidPage
    (S pa pid pidOff po : Nat) :
    viewPages S pa pid (pidPageIndex pidOff po) = none := by
  rw [viewPages, Function.update_of_ne (pidPageIndex_ne_zero _ _)]
  rfl

theorem sharedPages_zero
    (S pidOff pu U pv V : Nat) :
    sharedPages S pidOff pu U pv V 0 = some (.view (pu % pageSize) U) := by
  rw [sharedPages, Function.update_of_ne (pidPageIndex_ne_zero _ _).symm, viewPages_zero]

theorem sharedPages_pidPage
    (S pidOff pu U pv V : Nat) :
    sharedPages S pidOff pu U pv V (pidPageIndex pidOff (pu % pageSize)) =
      faultPage S pv V (pidPageIndex pidOff (pu % pageSize)) := by
  rw [sharedPages, Function.update_self]

/- The view address, measured from `[vtask]`, when `ALIGN(S)` is three pages. -/
theorem viewAddr_sub_base
    {S : Nat}
    (hAlign : alignUp S pageSize = 3 * pageSize)
    (base : Nat) :
    viewAddr (mapVdsoLayout S vvarSize base).vvarStart - base =
      ((0 : Nat) : Int) := by
  rw [(viewAddr_eq_vtaskStart_iff S base).mpr hAlign]
  simp [mapVdsoLayout]

/- `get_task_addr()`, measured from `[vtask]`, when `ALIGN(S)` is three pages. -/
theorem getTaskAddr_eq
    {S : Nat}
    (hAlign : alignUp S pageSize = 3 * pageSize)
    (base : Nat)
    (po : Int) :
    getTaskAddr (mapVdsoLayout S vvarSize base).vvarStart po =
      base + pageSize + po := by
  rw [getTaskAddr, (viewAddr_eq_vtaskStart_iff S base).mpr hAlign]
  simp only [mapVdsoLayout]
  omega

theorem touchVtask_of_present
    {S : Nat}
    {sys : VSys}
    {T idx : Nat}
    {t : VTask}
    {m : VMm}
    {pg : VPage}
    (hT : sys.find T = some t)
    (hm : sys.mms t.mm = some m)
    (hPage : m.pages idx = some pg) :
    touchVtask S sys T idx = some (sys, pg) := by
  simp only [touchVtask, hT, hm, hPage]

theorem touchVtask_of_absent
    {S : Nat}
    {sys : VSys}
    {T idx : Nat}
    {t : VTask}
    {m : VMm}
    {pg : VPage}
    (hT : sys.find T = some t)
    (hm : sys.mms t.mm = some m)
    (hPage : m.pages idx = none)
    (hFault : faultPage S t.pa T idx = some pg) :
    touchVtask S sys T idx = some (sys.installPage t.mm m idx pg, pg) := by
  simp only [touchVtask, hT, hm, hPage, hFault, Option.map_some]

/- A read at offset `rel` inside `[vtask]` shows the touched page at `rel % PAGE_SIZE`. -/
theorem readVtaskInt_of_touch
    {S pidOff : Nat}
    {sys sys₁ : VSys}
    {T rel : Nat}
    {t : VTask}
    {m : VMm}
    {pg : VPage}
    {a : Int}
    (hT : sys.find T = some t)
    (hm : sys.mms t.mm = some m)
    (hRel : a - m.base = rel)
    (hIn : rel < vtaskSize S)
    (hTouch : touchVtask S sys T (rel / pageSize) = some (sys₁, pg)) :
    readVtaskInt S pidOff sys T a =
      some (sys₁, pageInt pidOff sys₁ (rel % pageSize) pg) := by
  have hRange : 0 ≤ a - m.base ∧ a - m.base < vtaskSize S := by
    omega
  simp only [readVtaskInt, hT, hm]
  rw [if_pos hRange, hRel, Int.toNat_natCast, hTouch, Option.map_some]

end Vdso

end OsHomework

------------------------------------------------------------
-- The Two Reads
------------------------------------------------------------

namespace OsHomework

namespace Vdso

open PageArith

/- `VTASK_SIZE` is four pages when `ALIGN(S)` is three. -/
theorem vtaskSize_of_align
    {S : Nat}
    (hAlign : alignUp S pageSize = 3 * pageSize) :
    vtaskSize S = 4 * pageSize := by
  rw [vtaskSize, hAlign]
  omega

/- The address of `task->pid`, measured from `[vtask]`. -/
theorem pidAddr_sub_base
    {S : Nat}
    (hAlign : alignUp S pageSize = 3 * pageSize)
    (base po pidOff : Nat) :
    getTaskAddr (mapVdsoLayout S vvarSize base).vvarStart (po : Nat) + pidOff -
        base =
      ((pageSize + po + pidOff : Nat) : Int) := by
  rw [getTaskAddr_eq hAlign]
  omega

/- The `pid` field lies inside `[vtask]` when the task fits. -/
theorem pidAddr_lt_vtaskSize
    {S pidOff po : Nat}
    (hAlign : alignUp S pageSize = 3 * pageSize)
    (hPid : pidOff ≤ 2 * pageSize)
    (hPo : po < pageSize) :
    pageSize + po + pidOff < vtaskSize S := by
  rw [vtaskSize_of_align hAlign]
  simp only [pageSize] at hPo hPid ⊢
  omega

/- The pid page of any page offset is a data page `vtask_fault` maps, when the task fits. -/
theorem faultPage_pidPageIndex
    {S pidOff po : Nat}
    (hAlign : alignUp S pageSize = 3 * pageSize)
    (hPid : pidOff ≤ 2 * pageSize)
    (hPo : po < pageSize)
    (pa pid : Nat) :
    ∃ pg, faultPage S pa pid (pidPageIndex pidOff po) = some pg := by
  have hLt : ¬ pidPageIndex pidOff po * pageSize ≥ vtaskSize S := by
    rw [vtaskSize_of_align hAlign]
    simp only [pidPageIndex, pageSize] at hPo hPid ⊢
    omega
  simp [faultPage, vtaskFault, hLt, pidPageIndex_ne_zero]

/- The view read at the start of `[vtask]` gives the offset held by page 0 once touched. -/
theorem readVtaskInt_view
    {S pidOff : Nat}
    {sys sys₁ : VSys}
    {T po U : Nat}
    {t : VTask}
    {m : VMm}
    (hAlign : alignUp S pageSize = 3 * pageSize)
    (hT : sys.find T = some t)
    (hm : sys.mms t.mm = some m)
    (hTouch : touchVtask S sys T 0 = some (sys₁, .view po U)) :
    readVtaskInt S pidOff sys T (viewAddr (mapVdsoLayout S vvarSize m.base).vvarStart) =
      some (sys₁, some po) := by
  have hIn : 0 < vtaskSize S := by
    rw [vtaskSize_of_align hAlign]
    decide
  rw [readVtaskInt_of_touch hT hm (viewAddr_sub_base hAlign m.base) hIn
    (by rw [Nat.zero_div]; exact hTouch)]
  rfl

/- The view read on a present view page gives the task address of its offset, faulting nothing in. -/
theorem vdsoTaskAddr_of_view
    {S pidOff : Nat}
    {sys : VSys}
    {T po p : Nat}
    {t : VTask}
    {m : VMm}
    (hAlign : alignUp S pageSize = 3 * pageSize)
    (hT : sys.find T = some t)
    (hm : sys.mms t.mm = some m)
    (hView : m.pages 0 = some (.view po p)) :
    vdsoTaskAddr S pidOff sys T =
      some (sys, getTaskAddr (mapVdsoLayout S vvarSize m.base).vvarStart po) := by
  have hRead : readVtaskInt S pidOff sys T
      (viewAddr (mapVdsoLayout S vvarSize m.base).vvarStart) = some (sys, some po) :=
    readVtaskInt_view hAlign hT hm (touchVtask_of_present hT hm hView)
  simp only [vdsoTaskAddr, hT, hm, Option.bind_eq_bind, Option.bind_some, hRead, Option.pure_def]

/- The view read on an absent view page faults in the caller's view. -/
theorem vdsoTaskAddr_of_absent
    {S pidOff : Nat}
    {sys : VSys}
    {T : Nat}
    {t : VTask}
    {m : VMm}
    (hAlign : alignUp S pageSize = 3 * pageSize)
    (hT : sys.find T = some t)
    (hm : sys.mms t.mm = some m)
    (hAbsent : m.pages 0 = none) :
    vdsoTaskAddr S pidOff sys T =
      some (sys.installPage t.mm m 0 (.view (t.pa % pageSize) T),
        getTaskAddr (mapVdsoLayout S vvarSize m.base).vvarStart (t.pa % pageSize : Nat)) := by
  have hRead : readVtaskInt S pidOff sys T
      (viewAddr (mapVdsoLayout S vvarSize m.base).vvarStart) =
        some (sys.installPage t.mm m 0 (.view (t.pa % pageSize) T), some (t.pa % pageSize)) :=
    readVtaskInt_view hAlign hT hm (touchVtask_of_absent hT hm hAbsent (faultPage_zero ..))
  simp only [vdsoTaskAddr, hT, hm, Option.bind_eq_bind, Option.bind_some, hRead, Option.pure_def]

/-
  The pid read through the task address of page offset `po`
  goes to page `pidPageIndex pidOff po` and reads it at the
  offset of the `pid` field; a present page stays as it is.
-/
theorem vdsoTaskPid_of_present
    {S pidOff : Nat}
    {sys : VSys}
    {T po : Nat}
    {t : VTask}
    {m : VMm}
    {pg : VPage}
    (hAlign : alignUp S pageSize = 3 * pageSize)
    (hPid : pidOff ≤ 2 * pageSize)
    (hPo : po < pageSize)
    (hT : sys.find T = some t)
    (hm : sys.mms t.mm = some m)
    (hPage : m.pages (pidPageIndex pidOff po) = some pg) :
    let task := getTaskAddr (mapVdsoLayout S vvarSize m.base).vvarStart po
    vdsoTaskPid S pidOff sys T task =
      some (sys, 0, task, pageInt pidOff sys ((pageSize + po + pidOff) % pageSize) pg) := by
  intro task
  rw [vdsoTaskPid, readVtaskInt_of_touch hT hm (pidAddr_sub_base hAlign ..)
    (pidAddr_lt_vtaskSize hAlign hPid hPo) (touchVtask_of_present hT hm hPage)]
  rfl

/- An absent pid page faults in as the caller's frame there. -/
theorem vdsoTaskPid_of_absent
    {S pidOff : Nat}
    {sys : VSys}
    {T po : Nat}
    {t : VTask}
    {m : VMm}
    {pg : VPage}
    (hAlign : alignUp S pageSize = 3 * pageSize)
    (hPid : pidOff ≤ 2 * pageSize)
    (hPo : po < pageSize)
    (hT : sys.find T = some t)
    (hm : sys.mms t.mm = some m)
    (hAbsent : m.pages (pidPageIndex pidOff po) = none)
    (hFault : faultPage S t.pa T (pidPageIndex pidOff po) = some pg) :
    let task := getTaskAddr (mapVdsoLayout S vvarSize m.base).vvarStart po
    vdsoTaskPid S pidOff sys T task =
      some (sys.installPage t.mm m (pidPageIndex pidOff po) pg, 0, task,
        pageInt pidOff sys ((pageSize + po + pidOff) % pageSize) pg) := by
  intro task
  rw [vdsoTaskPid, readVtaskInt_of_touch hT hm (pidAddr_sub_base hAlign ..)
    (pidAddr_lt_vtaskSize hAlign hPid hPo) (touchVtask_of_absent hT hm hAbsent hFault)]
  rfl

/-
  Where the `task_struct` addresses are distinct, the frame a
  task's fault puts at its own pid page shows its `pid` at the
  offset the vDSO reads.
-/
theorem pageInt_pidFrame
    {S pidOff : Nat}
    {sys : VSys}
    {T : Nat}
    {t : VTask}
    {pg : VPage}
    (hAlign : alignUp S pageSize = 3 * pageSize)
    (hPid : pidOff ≤ 2 * pageSize)
    (hInj : ∀ e₁ ∈ sys.tasks, ∀ e₂ ∈ sys.tasks, e₁.2.pa = e₂.2.pa → e₁ = e₂)
    (hT : sys.find T = some t)
    (hFault : faultPage S t.pa T (pidPageIndex pidOff (t.pa % pageSize)) = some pg) :
    pageInt pidOff sys ((pageSize + t.pa % pageSize + pidOff) % pageSize) pg = some T := by
  obtain ⟨f, hFrame, hAt⟩ := faultPage_pidPage hAlign hPid t.pa T
  rw [hFault, Option.some.injEq] at hFrame
  subst hFrame
  simp only [pageInt, hAt, physPid_of_find hInj hT]

end Vdso

end OsHomework

------------------------------------------------------------
-- The Invariant
------------------------------------------------------------

namespace OsHomework

namespace Vdso

open PageArith

/-
  What the reads of calls leave in the `[vtask]` of address
  space `k`: nothing, the view a task of `k` faulted in, or
  that view and the pid page a task of `k` faulted in through
  the view's page offset.  The two tasks need not be the same.
-/
inductive VtaskPages
    (S pidOff : Nat)
    (find : Nat → Option VTask)
    (k : Nat) : (Nat → Option VPage) → Prop
  | empty : VtaskPages S pidOff find k noPages
  | view {U : Nat} {u : VTask} :
      find U = some u → u.mm = k → VtaskPages S pidOff find k (viewPages S u.pa U)
  | shared {U V : Nat} {u v : VTask} :
      find U = some u → u.mm = k → find V = some v → v.mm = k →
      VtaskPages S pidOff find k (sharedPages S pidOff u.pa U v.pa V)

theorem VtaskPages.mono
    {S pidOff k : Nat}
    {find find' : Nat → Option VTask}
    {pages : Nat → Option VPage}
    (hSub : ∀ U u, find U = some u → find' U = some u)
    (h : VtaskPages S pidOff find k pages) :
    VtaskPages S pidOff find' k pages := by
  cases h with
  | empty => exact .empty
  | view hU hk => exact .view (hSub _ _ hU) hk
  | shared hU hUk hV hVk => exact .shared (hSub _ _ hU) hUk (hSub _ _ hV) hVk

/- A non-empty `[vtask]` shows at page 0 the view of a task of its address space. -/
theorem VtaskPages.eq_noPages_or_view
    {S pidOff k : Nat}
    {find : Nat → Option VTask}
    {pages : Nat → Option VPage}
    (h : VtaskPages S pidOff find k pages) :
    pages = noPages ∨
      ∃ U u, find U = some u ∧ u.mm = k ∧
        pages 0 = some (.view (u.pa % pageSize) U) := by
  cases h with
  | empty => exact .inl rfl
  | view hU hk => exact .inr ⟨_, _, hU, hk, viewPages_zero ..⟩
  | shared hU hUk _ _ => exact .inr ⟨_, _, hU, hUk, sharedPages_zero ..⟩

/-
  Task `V` holds `task` between the reads of a call: the address
  `get_task_addr` forms from the view page present in `V`'s
  address space.
-/
def VSys.ViewRead
    (S : Nat)
    (sys : VSys)
    (V : Nat)
    (task : Int) : Prop :=
  ∃ v m po p, sys.find V = some v ∧ sys.mms v.mm = some m ∧
    m.pages 0 = some (.view po p) ∧
    task = getTaskAddr (mapVdsoLayout S vvarSize m.base).vvarStart po

/-
  What holds in every reachable state: distinct tasks have
  distinct `task_struct` addresses, every task's address space
  exists and is numbered below `nextMm`, each `[vtask]` holds
  what the reads of its own tasks left, and each `task` pointer
  held between two reads was formed from a view still present.
-/
structure VInv
    (S pidOff : Nat)
    (sys : VSys) : Prop where
  pa_inj :
    ∀ e₁ ∈ sys.tasks, ∀ e₂ ∈ sys.tasks, e₁.2.pa = e₂.2.pa → e₁ = e₂
  mm_lt_next : ∀ V v, sys.find V = some v → v.mm < sys.nextMm
  mm_live : ∀ V v, sys.find V = some v → ∃ m, sys.mms v.mm = some m
  pages : ∀ k m, sys.mms k = some m → VtaskPages S pidOff sys.find k m.pages
  pending : ∀ V task, sys.pending V = some task → sys.ViewRead S V task

/- A fault installs at an absent index, so every present page stays. -/
theorem update_keeps_present
    {pages : Nat → Option VPage}
    {idx : Nat}
    {pg : VPage}
    (hAbsent : pages idx = none) :
    ∀ j x, pages j = some x → Function.update pages idx (some pg) j = some x := by
  intro j x hx
  have hj : j ≠ idx := by
    rintro rfl
    rw [hAbsent] at hx
    cases hx
  rw [Function.update_of_ne hj, hx]

/- A `task` pointer survives new pages that keep the present ones. -/
theorem VSys.ViewRead.setPages
    {S : Nat}
    {sys : VSys}
    {k V : Nat}
    {m : VMm}
    {pages : Nat → Option VPage}
    {task : Int}
    (hm : sys.mms k = some m)
    (hKeep : ∀ j x, m.pages j = some x → pages j = some x)
    (hRead : sys.ViewRead S V task) :
    (sys.setPages k m pages).ViewRead S V task := by
  obtain ⟨v, m', po, p, hV, hm', hView, hTask⟩ := hRead
  subst task
  by_cases hk : v.mm = k
  · -- `V`'s address space is the one whose pages changed
    subst hk
    rw [hm, Option.some.injEq] at hm'
    subst hm'
    exact ⟨v, ⟨m.base, pages⟩, po, p, hV,
      by rw [VSys.setPages_mms, Function.update_self], hKeep 0 _ hView, rfl⟩
  · exact ⟨v, m', po, p, hV,
      by rw [VSys.setPages_mms, Function.update_of_ne hk, hm'], hView, rfl⟩

/- The pointer a view read forms from the view now at page 0. -/
theorem VSys.viewRead_setPages
    {S : Nat}
    {sys : VSys}
    {T po p : Nat}
    {t : VTask}
    {m : VMm}
    {pages : Nat → Option VPage}
    (hT : sys.find T = some t)
    (hView : pages 0 = some (.view po p)) :
    (sys.setPages t.mm m pages).ViewRead S T
      (getTaskAddr (mapVdsoLayout S vvarSize m.base).vvarStart po) :=
  ⟨t, ⟨m.base, pages⟩, po, p, hT,
    by rw [VSys.setPages_mms, Function.update_self], hView, rfl⟩

/-
  The view read from a state with the invariant: it forms the
  task address of a task `U` of the caller's address space,
  whose view page 0 then holds; `U` is the caller when
  `[vtask]` was empty or no other task shares it.
-/
theorem vdsoTaskAddr_spec
    {S pidOff : Nat}
    {sys : VSys}
    {T : Nat}
    {t : VTask}
    {m : VMm}
    (hAlign : alignUp S pageSize = 3 * pageSize)
    (hInv : VInv S pidOff sys)
    (hT : sys.find T = some t)
    (hm : sys.mms t.mm = some m) :
    ∃ U u pages, sys.find U = some u ∧ u.mm = t.mm ∧
      VtaskPages S pidOff sys.find t.mm pages ∧
      (∀ j x, m.pages j = some x → pages j = some x) ∧
      pages 0 = some (.view (u.pa % pageSize) U) ∧
      vdsoTaskAddr S pidOff sys T =
        some (sys.setPages t.mm m pages,
          getTaskAddr (mapVdsoLayout S vvarSize m.base).vvarStart
            (u.pa % pageSize : Nat)) ∧
      (sys.Alone T → U = T) := by
  rcases (hInv.pages t.mm m hm).eq_noPages_or_view with
    hEmpty | ⟨U, u, hU, hMm, hView⟩
  · -- an empty `[vtask]`: the caller faults its own view in
    have hAbsent : m.pages 0 = none := by
      rw [hEmpty]
      rfl
    refine ⟨T, t, viewPages S t.pa T, hT, rfl, .view hT rfl, ?_,
      viewPages_zero .., ?_, fun _ => rfl⟩
    · intro j x hx
      rw [hEmpty] at hx
      cases hx
    · rw [vdsoTaskAddr_of_absent hAlign hT hm hAbsent, VSys.installPage, hEmpty,
        viewPages, faultPage_zero]
  · refine ⟨U, u, m.pages, hU, hMm, hInv.pages t.mm m hm, fun _ _ hx => hx,
      hView, ?_, fun hAlone => (hAlone.eq hT hU hMm).1⟩
    rw [vdsoTaskAddr_of_view hAlign hT hm hView, VSys.setPages_self hm]

/-
  The pid read from a state with the invariant, through a
  pointer held since the view read: the pointer is the task
  address of a task `U` of the caller's address space, the read
  returns 0, and it faults the pid page in when the view has no
  pid page yet.  When the caller is alone in its address space,
  `U` is the caller and the read lands on its `pid`.
-/
theorem vdsoTaskPid_spec
    {S pidOff : Nat}
    {sys : VSys}
    {T : Nat}
    {t : VTask}
    {m : VMm}
    {task : Int}
    (hAlign : alignUp S pageSize = 3 * pageSize)
    (hPid : pidOff ≤ 2 * pageSize)
    (hInv : VInv S pidOff sys)
    (hT : sys.find T = some t)
    (hm : sys.mms t.mm = some m)
    (hRead : sys.ViewRead S T task) :
    ∃ U u pages r, sys.find U = some u ∧ u.mm = t.mm ∧
      task = getTaskAddr (mapVdsoLayout S vvarSize m.base).vvarStart
        (u.pa % pageSize : Nat) ∧
      VtaskPages S pidOff sys.find t.mm pages ∧
      (∀ j x, m.pages j = some x → pages j = some x) ∧
      vdsoTaskPid S pidOff sys T task =
        some (sys.setPages t.mm m pages, 0, task, r) ∧
      (sys.Alone T → U = T ∧ r = some T) := by
  obtain ⟨t', m', po, p, hT', hm', hView, hTask⟩ := hRead
  subst task
  have ht : t = t' := Option.some.inj (hT.symm.trans hT')
  subst ht
  have hm'' : m = m' := Option.some.inj (hm.symm.trans hm')
  subst hm''
  have hPages := hInv.pages t.mm m hm
  generalize hPg : m.pages = pages at hPages hView
  -- the view page is present, so `[vtask]` is not empty
  cases hPages with
  | empty => cases hView
  | @view U u hU hUk =>
      -- no pid page yet: the caller faults its own frame in there
      rw [← hPg]
      simp only [viewPages_zero, Option.some.injEq, VPage.view.injEq] at hView
      obtain ⟨rfl, -⟩ := hView
      obtain ⟨pg, hFault⟩ :=
        faultPage_pidPageIndex hAlign hPid (Nat.mod_lt u.pa (by decide)) t.pa T
      have hAbsent : m.pages (pidPageIndex pidOff (u.pa % pageSize)) = none := by
        rw [hPg, viewPages_pidPage]
      refine ⟨U, u, Function.update m.pages (pidPageIndex pidOff (u.pa % pageSize))
          (some pg), pageInt pidOff sys ((pageSize + u.pa % pageSize + pidOff) % pageSize) pg,
        hU, hUk, rfl, ?_, update_keeps_present hAbsent,
        vdsoTaskPid_of_absent hAlign hPid (Nat.mod_lt _ (by decide)) hT hm hAbsent hFault, ?_⟩
      · rw [hPg, ← hFault]
        exact .shared hU hUk hT rfl
      · intro hAlone
        obtain ⟨rfl, rfl⟩ := hAlone.eq hT hU hUk
        exact ⟨rfl, pageInt_pidFrame hAlign hPid hInv.pa_inj hT hFault⟩
  | @shared U V u v hU hUk hV hVk =>
      -- the pid page is the one task `V` faulted in
      rw [← hPg]
      simp only [sharedPages_zero, Option.some.injEq, VPage.view.injEq] at hView
      obtain ⟨rfl, -⟩ := hView
      obtain ⟨pg, hFault⟩ :=
        faultPage_pidPageIndex hAlign hPid (Nat.mod_lt u.pa (by decide)) v.pa V
      have hPresent : m.pages (pidPageIndex pidOff (u.pa % pageSize)) = some pg := by
        rw [hPg, sharedPages_pidPage, hFault]
      refine ⟨U, u, m.pages, pageInt pidOff sys ((pageSize + u.pa % pageSize + pidOff) % pageSize) pg,
        hU, hUk, rfl, hInv.pages t.mm m hm, fun _ _ hx => hx, ?_, ?_⟩
      · rw [vdsoTaskPid_of_present hAlign hPid (Nat.mod_lt _ (by decide)) hT hm hPresent,
          VSys.setPages_self hm]
      · intro hAlone
        obtain ⟨rfl, rfl⟩ := hAlone.eq hT hU hUk
        obtain ⟨rfl, rfl⟩ := hAlone.eq hT hV hVk
        exact ⟨rfl, pageInt_pidFrame hAlign hPid hInv.pa_inj hT hFault⟩

/- A view read needs a live caller. -/
theorem vdsoTaskAddr_live
    {S pidOff : Nat}
    {sys : VSys}
    {T : Nat}
    {r : VSys × Int}
    (hCall : vdsoTaskAddr S pidOff sys T = some r) :
    ∃ t, sys.find T = some t := by
  cases hT : sys.find T with
  | none => simp [vdsoTaskAddr, hT] at hCall
  | some t => exact ⟨t, rfl⟩

section Steps

variable {S pidOff : Nat} {sys sys' : VSys}

theorem VSys.step_fork_eq_some
    {parent child pa : Nat}
    (hStep : VSys.step S pidOff sys (.fork parent child pa) = some sys') :
    ∃ p m, sys.find parent = some p ∧ sys.mms p.mm = some m ∧
      sys.pending parent = none ∧ sys.Fresh child pa ∧
      sys' = (sys.addMm ⟨m.base, noPages⟩).addTask child ⟨sys.nextMm, pa⟩ := by
  simp only [VSys.step] at hStep
  split at hStep
  · cases hStep
  · next p hp =>
      split at hStep
      · cases hStep
      · next m hm =>
          split at hStep
          · next hOk =>
              exact ⟨p, m, hp, hm, hOk.1, hOk.2, (Option.some.inj hStep).symm⟩
          · cases hStep

theorem VSys.step_thread_eq_some
    {parent child pa : Nat}
    (hStep : VSys.step S pidOff sys (.thread parent child pa) = some sys') :
    ∃ p, sys.find parent = some p ∧ sys.pending parent = none ∧
      sys.Fresh child pa ∧ sys' = sys.addTask child ⟨p.mm, pa⟩ := by
  simp only [VSys.step] at hStep
  split at hStep
  · cases hStep
  · next p hp =>
      split at hStep
      · next hOk => exact ⟨p, hp, hOk.1, hOk.2, (Option.some.inj hStep).symm⟩
      · cases hStep

theorem VSys.step_readView_eq_some
    {pid : Nat}
    (hStep : VSys.step S pidOff sys (.readView pid) = some sys') :
    ∃ r, vdsoTaskAddr S pidOff sys pid = some r ∧
      sys' = r.1.setPending pid (some r.2) := by
  simp only [VSys.step] at hStep
  split at hStep
  · obtain ⟨r, hr, hEq⟩ := Option.map_eq_some_iff.mp hStep
    exact ⟨r, hr, hEq.symm⟩
  · cases hStep

theorem VSys.step_readPid_eq_some
    {pid : Nat}
    (hStep : VSys.step S pidOff sys (.readPid pid) = some sys') :
    ∃ task r, sys.pending pid = some task ∧
      vdsoTaskPid S pidOff sys pid task = some r ∧
      sys' = r.1.setPending pid none := by
  simp only [VSys.step] at hStep
  split at hStep
  · cases hStep
  · next task hTask =>
      obtain ⟨r, hr, hEq⟩ := Option.map_eq_some_iff.mp hStep
      exact ⟨task, r, hTask, hr, hEq.symm⟩

end Steps

theorem VInv.boot
    (S pidOff : Nat) :
    VInv S pidOff VSys.boot where
  pa_inj := by
    intro e₁ h₁ e₂ h₂ _
    simp only [VSys.boot, List.mem_singleton] at h₁ h₂
    rw [h₁, h₂]
  mm_lt_next := by
    intro V v hV
    rw [(VSys.find_boot_eq_some hV).2]
    decide
  mm_live := by
    intro V v hV
    rw [(VSys.find_boot_eq_some hV).2]
    exact ⟨⟨vdsoBase, noPages⟩, rfl⟩
  pages := by
    intro k m hm
    by_cases hk : k = 0
    · subst hk
      simp only [VSys.boot, Function.update_self, Option.some.injEq] at hm
      rw [← hm]
      exact .empty
    · simp [VSys.boot, Function.update_of_ne hk] at hm
  pending := by
    intro V task hV
    cases hV

/- New pages for one address space, keeping what was present, keep the invariant. -/
theorem VInv.setPages
    {S pidOff : Nat}
    {sys : VSys}
    {k : Nat}
    {m : VMm}
    {pages : Nat → Option VPage}
    (hInv : VInv S pidOff sys)
    (hm : sys.mms k = some m)
    (hPages : VtaskPages S pidOff sys.find k pages)
    (hKeep : ∀ j x, m.pages j = some x → pages j = some x) :
    VInv S pidOff (sys.setPages k m pages) where
  pa_inj := hInv.pa_inj
  mm_lt_next := hInv.mm_lt_next
  mm_live := by
    intro V v hV
    rw [VSys.setPages_mms]
    by_cases hEq : v.mm = k
    · rw [hEq, Function.update_self]
      exact ⟨_, rfl⟩
    · rw [Function.update_of_ne hEq]
      exact hInv.mm_live V v hV
  pages := by
    intro k' m' hm'
    rw [VSys.setPages_mms] at hm'
    by_cases hEq : k' = k
    · subst hEq
      rw [Function.update_self, Option.some.injEq] at hm'
      rw [← hm']
      exact hPages
    · rw [Function.update_of_ne hEq] at hm'
      exact hInv.pages k' m' hm'
  pending := fun V task hV => (hInv.pending V task hV).setPages hm hKeep

/- Task `T` starts or ends a call; a pointer it takes up was formed by a view read. -/
theorem VInv.setPending
    {S pidOff : Nat}
    {sys : VSys}
    {T : Nat}
    {task : Option Int}
    (hInv : VInv S pidOff sys)
    (hTask : ∀ a, task = some a → sys.ViewRead S T a) :
    VInv S pidOff (sys.setPending T task) where
  pa_inj := hInv.pa_inj
  mm_lt_next := hInv.mm_lt_next
  mm_live := hInv.mm_live
  pages := hInv.pages
  pending := by
    intro V a hV
    rw [VSys.setPending_pending] at hV
    by_cases hEq : V = T
    · subst hEq
      rw [Function.update_self] at hV
      exact hTask a hV
    · rw [Function.update_of_ne hEq] at hV
      exact hInv.pending V a hV

/- A new task with a fresh pid and address, in an existing address space. -/
theorem VInv.addTask
    {S pidOff : Nat}
    {sys : VSys}
    {child : Nat}
    {x : VTask}
    (hInv : VInv S pidOff sys)
    (hFresh : sys.Fresh child x.pa)
    (hLt : x.mm < sys.nextMm)
    (hLive : ∃ m, sys.mms x.mm = some m) :
    VInv S pidOff (sys.addTask child x) where
  pa_inj := by
    intro e₁ h₁ e₂ h₂ hPa
    simp only [VSys.addTask, List.mem_append, List.mem_singleton] at h₁ h₂
    rcases h₁ with h₁ | rfl <;> rcases h₂ with h₂ | rfl
    · exact hInv.pa_inj e₁ h₁ e₂ h₂ hPa
    · exact absurd hPa (hFresh e₁ h₁).2
    · exact absurd hPa.symm (hFresh e₂ h₂).2
    · rfl
  mm_lt_next := by
    intro V v hV
    rcases VSys.find_addTask_eq_some hV with hOld | ⟨-, rfl⟩
    · exact hInv.mm_lt_next V v hOld
    · exact hLt
  mm_live := by
    intro V v hV
    rcases VSys.find_addTask_eq_some hV with hOld | ⟨-, rfl⟩
    · exact hInv.mm_live V v hOld
    · exact hLive
  pages := fun k m hm =>
    (hInv.pages k m hm).mono fun _ _ hU => VSys.find_addTask_of_find hU
  pending := by
    intro V task hV
    obtain ⟨v, m, po, p, hV', hm, hView, hTask⟩ := hInv.pending V task hV
    exact ⟨v, m, po, p, VSys.find_addTask_of_find hV', hm, hView, hTask⟩

/- A new, empty address space numbered `nextMm`. -/
theorem VInv.addMm
    {S pidOff : Nat}
    {sys : VSys}
    (hInv : VInv S pidOff sys)
    (base : Nat) :
    VInv S pidOff (sys.addMm ⟨base, noPages⟩) where
  pa_inj := hInv.pa_inj
  mm_lt_next := by
    intro V v hV
    have hLt := hInv.mm_lt_next V v hV
    rw [VSys.addMm_nextMm]
    omega
  mm_live := by
    intro V v hV
    have hNe : v.mm ≠ sys.nextMm := Nat.ne_of_lt (hInv.mm_lt_next V v hV)
    simp only [VSys.addMm]
    rw [Function.update_of_ne hNe]
    exact hInv.mm_live V v hV
  pages := by
    intro k m hm
    simp only [VSys.addMm] at hm
    by_cases hk : k = sys.nextMm
    · subst hk
      rw [Function.update_self, Option.some.injEq] at hm
      rw [← hm]
      exact .empty
    · rw [Function.update_of_ne hk] at hm
      exact hInv.pages k m hm
  pending := by
    intro V task hV
    obtain ⟨v, m, po, p, hV', hm, hView, hTask⟩ := hInv.pending V task hV
    -- every task's address space is older than the new one
    have hNe : v.mm ≠ sys.nextMm := Nat.ne_of_lt (hInv.mm_lt_next V v hV')
    refine ⟨v, m, po, p, hV', ?_, hView, hTask⟩
    simp only [VSys.addMm]
    rw [Function.update_of_ne hNe, hm]

/- Every step keeps the invariant, when the task fits `[vtask]`. -/
theorem VInv.step
    {S pidOff : Nat}
    {sys sys' : VSys}
    {ev : VEvent}
    (hAlign : alignUp S pageSize = 3 * pageSize)
    (hPid : pidOff ≤ 2 * pageSize)
    (hInv : VInv S pidOff sys)
    (hStep : VSys.step S pidOff sys ev = some sys') :
    VInv S pidOff sys' := by
  cases ev with
  | fork parent child pa =>
      obtain ⟨p, m, -, -, -, hFresh, rfl⟩ := VSys.step_fork_eq_some hStep
      apply (hInv.addMm m.base).addTask (x := ⟨sys.nextMm, pa⟩) hFresh
      · exact Nat.lt_succ_self _
      · exact ⟨_, Function.update_self ..⟩
  | thread parent child pa =>
      obtain ⟨p, hp, -, hFresh, rfl⟩ := VSys.step_thread_eq_some hStep
      exact hInv.addTask hFresh (hInv.mm_lt_next parent p hp)
        (hInv.mm_live parent p hp)
  | readView pid =>
      obtain ⟨r, hCall, rfl⟩ := VSys.step_readView_eq_some hStep
      obtain ⟨t, hT⟩ := vdsoTaskAddr_live hCall
      obtain ⟨m, hm⟩ := hInv.mm_live pid t hT
      obtain ⟨U, u, pages, -, -, hPages, hKeep, hView, hSpec, -⟩ :=
        vdsoTaskAddr_spec hAlign hInv hT hm
      rw [hSpec, Option.some.injEq] at hCall
      subst hCall
      refine (hInv.setPages hm hPages hKeep).setPending ?_
      intro a ha
      rw [← Option.some.inj ha]
      exact VSys.viewRead_setPages hT hView
  | readPid pid =>
      obtain ⟨task, r, hPending, hCall, rfl⟩ := VSys.step_readPid_eq_some hStep
      have hRead := hInv.pending pid task hPending
      obtain ⟨t, m, -, -, hT, hm, -, -⟩ := hInv.pending pid task hPending
      obtain ⟨U, u, pages, r', -, -, -, hPages, hKeep, hSpec, -⟩ :=
        vdsoTaskPid_spec hAlign hPid hInv hT hm hRead
      rw [hSpec, Option.some.injEq] at hCall
      subst hCall
      exact (hInv.setPages hm hPages hKeep).setPending fun _ ha => by cases ha

theorem VInv.reachable
    {S pidOff : Nat}
    {sys : VSys}
    (hAlign : alignUp S pageSize = 3 * pageSize)
    (hPid : pidOff ≤ 2 * pageSize)
    (hReach : Machine.Reachable (VSys.step S pidOff) VSys.boot sys) :
    VInv S pidOff sys :=
  Machine.Reachable.invariant (VInv S pidOff) (VInv.boot S pidOff)
    (fun _ _ _ hInv hStep => hInv.step hAlign hPid hStep) hReach

end Vdso

end OsHomework

------------------------------------------------------------
-- Whose Task a Call Reports
------------------------------------------------------------

namespace OsHomework

namespace Vdso

open PageArith

/- `fork` leaves the child alone in its new address space. -/
theorem VSys.alone_fork_child
    {S pidOff : Nat}
    {sys sys' : VSys}
    {parent child pa : Nat}
    (hInv : VInv S pidOff sys)
    (hStep : VSys.step S pidOff sys (.fork parent child pa) = some sys') :
    sys'.Alone child := by
  obtain ⟨p, m, -, -, -, hFresh, rfl⟩ := VSys.step_fork_eq_some hStep
  intro t ht V v hV hMm
  rw [@VSys.find_addTask_self (sys.addMm ⟨m.base, noPages⟩) child pa
    ⟨sys.nextMm, pa⟩ hFresh, Option.some.injEq] at ht
  subst ht
  rcases VSys.find_addTask_eq_some hV with hOld | ⟨hEq, -⟩
  · -- every older task's address space is numbered below the new one
    have hLt : v.mm < sys.nextMm := hInv.mm_lt_next V v hOld
    simp only at hMm
    omega
  · exact hEq

/- `fork` keeps a parent that was alone in its address space alone. -/
theorem VSys.alone_fork_parent
    {S pidOff : Nat}
    {sys sys' : VSys}
    {parent child pa : Nat}
    (hInv : VInv S pidOff sys)
    (hAlone : sys.Alone parent)
    (hStep : VSys.step S pidOff sys (.fork parent child pa) = some sys') :
    sys'.Alone parent := by
  obtain ⟨p, m, hp, -, -, -, rfl⟩ := VSys.step_fork_eq_some hStep
  intro t ht V v hV hMm
  rw [@VSys.find_addTask_of_find (sys.addMm ⟨m.base, noPages⟩) child parent
    ⟨sys.nextMm, pa⟩ p hp, Option.some.injEq] at ht
  subst ht
  rcases VSys.find_addTask_eq_some hV with hOld | ⟨-, rfl⟩
  · exact hAlone p hp V v hOld hMm
  · -- the child's address space is the new one, the parent's is older
    have hLt : p.mm < sys.nextMm := hInv.mm_lt_next parent p hp
    simp only at hMm
    omega

/-
  `__vdso_get_task_struct_info` over every run of forks, thread
  creations and the two reads of calls, interleaved in any
  order, for a `task_struct` whose size rounds up to three
  pages and whose `pid` field lies in the first three pages
  from its page (the layout under which the vDSO reaches the
  task at all).  From every reachable state, the view read of a
  live task `T` forms the `[vtask]` address of the
  `task_struct` of a task `U` of `T`'s address space, and the
  pid read through the pointer `T` holds returns 0 with that
  pointer as `info->kaddr`.  When no other task shares `T`'s
  address space, `U` is `T` and `info->pid` is `T`'s pid.
  `fork` puts the child alone in a new address space and keeps
  a parent that was alone so.
-/
theorem vdso_task_info_over_interleaved_reads
    {S pidOff : Nat}
    (hAlign : alignUp S pageSize = 3 * pageSize)
    (hPid : pidOff ≤ 2 * pageSize) :
    (∀ (sys : VSys) (T : Nat) (t : VTask) (m : VMm),
      Machine.Reachable (VSys.step S pidOff) VSys.boot sys →
      sys.find T = some t →
      sys.mms t.mm = some m →
      (∃ U u sys', sys.find U = some u ∧ u.mm = t.mm ∧
        vdsoTaskAddr S pidOff sys T =
          some (sys', (m.base : Int) + pageSize + (u.pa % pageSize : Nat)) ∧
        (sys.Alone T → U = T)) ∧
      (∀ task, sys.pending T = some task →
        ∃ U u sys' r, sys.find U = some u ∧ u.mm = t.mm ∧
          task = (m.base : Int) + pageSize + (u.pa % pageSize : Nat) ∧
          vdsoTaskPid S pidOff sys T task = some (sys', 0, task, r) ∧
          (sys.Alone T → U = T ∧ r = some T))) ∧
    (∀ (sys sys' : VSys) (parent child pa : Nat),
      Machine.Reachable (VSys.step S pidOff) VSys.boot sys →
      VSys.step S pidOff sys (.fork parent child pa) = some sys' →
      sys'.Alone child ∧ (sys.Alone parent → sys'.Alone parent)) := by
  refine ⟨?_, ?_⟩
  · intro sys T t m hReach hT hm
    have hInv := VInv.reachable hAlign hPid hReach
    refine ⟨?_, ?_⟩
    · obtain ⟨U, u, _, hU, hMm, -, -, -, hCall, hOwn⟩ :=
        vdsoTaskAddr_spec hAlign hInv hT hm
      exact ⟨U, u, _, hU, hMm, by rw [hCall, getTaskAddr_eq hAlign], hOwn⟩
    · intro task hPending
      obtain ⟨U, u, _, r, hU, hMm, hTask, -, -, hCall, hOwn⟩ :=
        vdsoTaskPid_spec hAlign hPid hInv hT hm (hInv.pending T task hPending)
      exact ⟨U, u, _, r, hU, hMm, by rw [hTask, getTaskAddr_eq hAlign], hCall, hOwn⟩
  · intro sys sys' parent child pa hReach hStep
    have hInv := VInv.reachable hAlign hPid hReach
    exact ⟨VSys.alone_fork_child hInv hStep,
      fun hAlone => VSys.alone_fork_parent hInv hAlone hStep⟩

/- The boot task's view read, for a 9600-byte `task_struct` with `pid` at 1400. -/
theorem vdso_task_info_over_interleaved_reads_boot :
    (∃ U u sys', VSys.boot.find U = some u ∧ u.mm = 0 ∧
      vdsoTaskAddr 9600 1400 VSys.boot 1 =
        some (sys', (vdsoBase : Int) + pageSize + (u.pa % pageSize : Nat)) ∧
      (VSys.boot.Alone 1 → U = 1)) ∧
    (∀ task, VSys.boot.pending 1 = some task →
      ∃ U u sys' r, VSys.boot.find U = some u ∧ u.mm = 0 ∧
        task = (vdsoBase : Int) + pageSize + (u.pa % pageSize : Nat) ∧
        vdsoTaskPid 9600 1400 VSys.boot 1 task = some (sys', 0, task, r) ∧
        (VSys.boot.Alone 1 → U = 1 ∧ r = some 1)) :=
  (@vdso_task_info_over_interleaved_reads 9600 1400 (by decide) (by decide)).1
    VSys.boot 1 ⟨0, bootPa⟩ ⟨vdsoBase, noPages⟩ .init rfl rfl

/- Where the thread's `task_struct` sits. -/
def threadPa : Nat := 4096 * 4100 + 512

/-
  A thread sees the boot task's view.  After the boot task's
  whole call, its thread's call returns the boot task's pid and
  `task_struct` address.  When the thread's pid read comes
  between the boot task's two reads, it faults in its own frame
  at the boot task's pid page, and both pid reads miss every
  `pid` field.
-/
theorem vdso_thread_reports_first_caller :
    ((Machine.run (VSys.step 9600 1400) VSys.boot
        [.thread 1 2 threadPa, .readView 1, .readPid 1]).bind
        fun sys => vdsoGetTaskStructInfo 9600 1400 sys 2).map (·.2) =
      some (0, (vdsoBase : Int) + pageSize + (bootPa % pageSize : Nat), some 1) ∧
    ((Machine.run (VSys.step 9600 1400) VSys.boot
        [.thread 1 2 threadPa, .readView 1, .readView 2]).bind
        fun sys => (sys.pending 2).bind (vdsoTaskPid 9600 1400 sys 2)).map (·.2) =
      some (0, (vdsoBase : Int) + pageSize + (bootPa % pageSize : Nat), none) ∧
    ((Machine.run (VSys.step 9600 1400) VSys.boot
        [.thread 1 2 threadPa, .readView 1, .readView 2, .readPid 2]).bind
        fun sys => (sys.pending 1).bind (vdsoTaskPid 9600 1400 sys 1)).map (·.2) =
      some (0, (vdsoBase : Int) + pageSize + (bootPa % pageSize : Nat), none) := by
  refine ⟨?_, ?_, ?_⟩ <;> decide

end Vdso

end OsHomework

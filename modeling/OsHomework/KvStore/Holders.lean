import Mathlib
import OsHomework.KvStore.RefCount
import OsHomework.Lib.PyDict

/-
  When the reference counts of the patched kv store are exact.
  An object's `ref_cnt` goes up for each thread `copy_process`
  shares it with and down at each `do_exit` of a holder, so it
  stays the number of live tasks holding the object as long as
  no `copy_process` takes a failure exit after the kv hunk and
  every `init_kv_store` allocation succeeds.

  Over every run of such clones, exits and system calls from
  boot, every live task holds an allocated object whose
  `ref_cnt` is its number of live holders, an object is
  allocated exactly while a live task holds it (so
  `cleanup_kv_store` frees it at the exit of its last holder,
  and never before), and two live tasks share a store exactly
  when they are in one thread group.

  Main declarations:
    * `RcEvent.noLateFailure`, `RcKernel.Exact`
    * `copyProcessRc_ok_eq_some`, `doExit_eq_some`,
      `RcKernel.Exact.step`
-/

------------------------------------------------------------
-- Clones Without Late Failures and the Exact Counts
------------------------------------------------------------

namespace OsHomework

namespace Kv

/-
  Whether an event is a clone that passes every exit after the
  kv hunk, and whose `init_kv_store` succeeds for a process;
  every other event is accepted.
-/
def RcEvent.noLateFailure : RcEvent → Bool
  | .clone _ _ cloneThread allocOk outcome => outcome == .ok && (cloneThread || allocOk)
  | _ => true

/-
  The states whose counts are exact: pids are distinct, every
  live task holds an allocated object, an object's count is its
  number of live holders and is positive, nothing is allocated
  from `brk` on, and two live tasks hold the same store exactly
  when they are in one thread group.
-/
structure RcKernel.Exact
    (kern : RcKernel) : Prop where
  nodup : (kern.tasks.map Prod.fst).Nodup
  held : ∀ e ∈ kern.tasks, ∃ addr obj, e.2.kv = some addr ∧ kern.heap addr = some obj
  refCnt : ∀ addr obj, kern.heap addr = some obj → obj.refCnt = kern.liveSharers addr
  pos : ∀ addr obj, kern.heap addr = some obj → 0 < obj.refCnt
  fresh : ∀ addr, kern.brk ≤ addr → kern.heap addr = none
  sameGroup : ∀ e ∈ kern.tasks, ∀ e' ∈ kern.tasks, e.2.kv = e'.2.kv ↔ e.2.tgid = e'.2.tgid

end Kv

end OsHomework

------------------------------------------------------------
-- What Each Call Does
------------------------------------------------------------

namespace OsHomework

namespace Kv

theorem liveSharers_eq_countP
    (kern : RcKernel)
    (addr : Nat) :
    kern.liveSharers addr = kern.tasks.countP (fun e => decide (e.2.kv = some addr)) :=
  (List.countP_eq_length_filter ..).symm

theorem RcKernel.mem_of_find
    {kern : RcKernel}
    {pid : Nat}
    {t : Task}
    (h : kern.find pid = some t) :
    (pid, t) ∈ kern.tasks := by
  obtain ⟨l₁, l₂, hSplit, -⟩ := List.lookup_eq_some_iff.mp h
  rw [hSplit]
  simp

/- A clone that passes every later exit: the hunk, then the child joins the task list. -/
theorem copyProcessRc_ok_eq_some
    {kern kern' : RcKernel}
    {parent child : Nat}
    {cloneThread allocOk : Bool}
    (h : copyProcessRc kern parent child cloneThread allocOk .ok = some kern') :
    ∃ cur hunk, kern.find parent = some cur ∧ kern.PidFree child ∧
      kvHunkRc kern cur cloneThread allocOk = some hunk ∧
      kern' = { hunk.1 with
        tasks := hunk.1.tasks ++ [(child, ⟨if cloneThread then cur.tgid else child, hunk.2⟩)] } := by
  unfold copyProcessRc at h
  cases hParent : kern.find parent with
  | none => simp [hParent] at h
  | some cur =>
      simp only [hParent] at h
      by_cases hFree : kern.PidFree child
      · rw [if_pos hFree] at h
        obtain ⟨hunk, hHunk, rfl⟩ := Option.map_eq_some_iff.mp h
        exact ⟨cur, hunk, rfl, hFree, hHunk, rfl⟩
      · rw [if_neg hFree] at h
        cases h

/- The hunk of a thread clone: one more reference to the creator's object. -/
theorem kvHunkRc_thread_eq_some
    {kern : RcKernel}
    {cur : Task}
    {allocOk : Bool}
    {hunk : RcKernel × Option Nat}
    (h : kvHunkRc kern cur true allocOk = some hunk) :
    ∃ addr obj, cur.kv = some addr ∧ kern.heap addr = some obj ∧
      hunk = (kern.setObj addr (some { obj with refCnt := obj.refCnt + 1 }), some addr) := by
  simp only [kvHunkRc, if_true] at h
  obtain ⟨kern₁, hInc, rfl⟩ := Option.map_eq_some_iff.mp h
  unfold refcountInc at hInc
  cases hKv : cur.kv with
  | none => simp [hKv] at hInc
  | some addr =>
      cases hObj : kern.heap addr with
      | none => simp [hKv, hObj] at hInc
      | some obj =>
          simp only [hKv, hObj, Option.some.injEq] at hInc
          exact ⟨addr, obj, rfl, hObj, by rw [hInc]⟩

/- The hunk of a process clone whose allocation succeeds: a new object at `brk`, count 1. -/
theorem kvHunkRc_process
    (kern : RcKernel)
    (cur : Task) :
    kvHunkRc kern cur false true =
      some ({ kern with
          heap := Function.update kern.heap kern.brk (some ⟨KvStore.empty, 1⟩)
          brk := kern.brk + 1 },
        some kern.brk) :=
  rfl

/- `do_exit`: `cleanup_kv_store` of the task, then the task leaves the list. -/
theorem doExit_eq_some
    {kern kern' : RcKernel}
    {pid : Nat}
    (h : doExit kern pid = some kern') :
    ∃ t kern₁ t', kern.find pid = some t ∧ cleanupKvStore kern t = some (kern₁, t') ∧
      kern' = { kern₁ with tasks := kern₁.tasks.filter (fun e => e.1 != pid) } := by
  unfold doExit at h
  cases hFind : kern.find pid with
  | none => simp [hFind] at h
  | some t =>
      simp only [hFind] at h
      obtain ⟨⟨kern₁, t'⟩, hClean, rfl⟩ := Option.map_eq_some_iff.mp h
      exact ⟨t, kern₁, t', rfl, hClean, rfl⟩

/- `cleanup_kv_store` of a holder drops one reference, and frees the object with the last. -/
theorem cleanupKvStore_of_held
    {kern kern₁ : RcKernel}
    {t t' : Task}
    {addr : Nat}
    {obj : RcStore}
    (hKv : t.kv = some addr)
    (hObj : kern.heap addr = some obj)
    (h : cleanupKvStore kern t = some (kern₁, t')) :
    kern₁ = kern.setObj addr
      (if obj.refCnt = 1 then none else some { obj with refCnt := obj.refCnt - 1 }) := by
  by_cases hOne : obj.refCnt = 1
  · simp only [cleanupKvStore, hKv, hObj, refcountDecAndTest, hOne, if_true,
      Option.some.injEq, Prod.mk.injEq] at h
    rw [if_pos hOne, ← h.1]
  · simp only [cleanupKvStore, hKv, hObj, refcountDecAndTest, hOne, if_false,
      Bool.false_eq_true, Option.some.injEq, Prod.mk.injEq] at h
    rw [if_neg hOne, ← h.1]

/- `write_kv` changes only the chains of the writer's object. -/
theorem sysWriteKvRc_eq_some
    {kern kern₁ : RcKernel}
    {pid : Nat}
    {k v : Int32}
    {allocOk : Bool}
    {r : Int}
    (h : sysWriteKvRc kern pid k v allocOk = some (kern₁, r)) :
    ∃ addr obj store, kern.heap addr = some obj ∧
      kern₁ = kern.setObj addr (some { obj with store := store }) := by
  unfold sysWriteKvRc at h
  split at h
  · rename_i tgid addr hFind
    cases hObj : kern.heap addr with
    | none => simp [hObj] at h
    | some obj =>
        simp only [hObj, Option.some.injEq, Prod.mk.injEq] at h
        exact ⟨addr, obj, _, hObj, h.1.symm⟩
  · cases h

end Kv

end OsHomework

------------------------------------------------------------
-- The Invariant, Step by Step
------------------------------------------------------------

namespace OsHomework

namespace Kv

variable {kern kern' : RcKernel}

/- Only addresses below `brk` are allocated. -/
theorem RcKernel.Exact.lt_brk
    (hEx : kern.Exact)
    {addr : Nat}
    {obj : RcStore}
    (hObj : kern.heap addr = some obj) :
    addr < kern.brk := by
  by_contra hGe
  rw [hEx.fresh addr (Nat.le_of_not_lt hGe)] at hObj
  cases hObj

/- So an address from `brk` on is none of the allocated ones. -/
theorem RcKernel.Exact.ne_of_brk_le
    (hEx : kern.Exact)
    {addr a : Nat}
    {obj : RcStore}
    (hObj : kern.heap addr = some obj)
    (ha : kern.brk ≤ a) :
    a ≠ addr := by
  have hLt := hEx.lt_brk hObj
  omega

/- A new task under a free pid keeps the pids distinct. -/
theorem nodup_append_child
    {tasks : List (Nat × Task)}
    {child : Nat}
    (t : Task)
    (hNodup : (tasks.map Prod.fst).Nodup)
    (hFree : ∀ e ∈ tasks, e.1 ≠ child ∧ e.2.tgid ≠ child) :
    ((tasks ++ [(child, t)]).map Prod.fst).Nodup := by
  rw [List.map_append, List.nodup_append]
  refine ⟨hNodup, List.nodup_singleton _, ?_⟩
  intro a ha b hb
  obtain ⟨e, he, rfl⟩ := List.mem_map.mp ha
  simp only [List.map_cons, List.map_nil, List.mem_singleton] at hb
  exact hb ▸ (hFree e he).1

/- A new task counts as a holder of its own object. -/
theorem liveSharers_append
    {kern₁ : RcKernel}
    {child : Nat}
    {t : Task}
    (hTasks : kern₁.tasks = kern.tasks ++ [(child, t)])
    (addr : Nat) :
    kern₁.liveSharers addr = kern.liveSharers addr + if t.kv = some addr then 1 else 0 := by
  rw [liveSharers_eq_countP, liveSharers_eq_countP, hTasks, List.countP_append,
    List.countP_singleton]
  simp only [decide_eq_true_eq]

/- A task agrees with itself on its store and its group. -/
theorem sameGroup_self
    (t : Task) :
    t.kv = t.kv ↔ t.tgid = t.tgid :=
  iff_of_true rfl rfl

theorem RcKernel.Exact.boot : RcKernel.boot.Exact where
  nodup := by simp [RcKernel.boot]
  held := by
    intro e he
    simp only [RcKernel.boot, List.mem_singleton] at he
    subst he
    exact ⟨0, ⟨KvStore.empty, 1⟩, rfl, by simp [RcKernel.boot]⟩
  refCnt := by
    intro addr obj hObj
    by_cases hAddr : addr = 0
    · subst hAddr
      simp only [RcKernel.boot, Function.update_self, Option.some.injEq] at hObj
      subst hObj
      rfl
    · simp [RcKernel.boot, Function.update_of_ne hAddr] at hObj
  pos := by
    intro addr obj hObj
    by_cases hAddr : addr = 0
    · subst hAddr
      simp only [RcKernel.boot, Function.update_self, Option.some.injEq] at hObj
      subst hObj
      exact Nat.one_pos
    · simp [RcKernel.boot, Function.update_of_ne hAddr] at hObj
  fresh := by
    intro addr hAddr
    simp only [RcKernel.boot] at hAddr ⊢
    rw [Function.update_of_ne (by omega)]
  sameGroup := by
    intro e he e' he'
    simp only [RcKernel.boot, List.mem_singleton] at he he'
    subst he he'
    exact sameGroup_self _

/- A thread shares its creator's object, which gains the reference. -/
theorem RcKernel.Exact.addThread
    (hEx : kern.Exact)
    {parent child : Nat}
    {cur : Task}
    (hParent : kern.find parent = some cur)
    (hFree : kern.PidFree child)
    {addr : Nat}
    {obj : RcStore}
    (hKv : cur.kv = some addr)
    (hObj : kern.heap addr = some obj)
    (hTasks : kern'.tasks = kern.tasks ++ [(child, ⟨cur.tgid, some addr⟩)])
    (hHeap : kern'.heap = Function.update kern.heap addr
      (some { obj with refCnt := obj.refCnt + 1 }))
    (hBrk : kern'.brk = kern.brk) :
    kern'.Exact := by
  have hCur := RcKernel.mem_of_find hParent
  have hSharers := liveSharers_append hTasks
  refine ⟨hTasks ▸ nodup_append_child _ hEx.nodup hFree, ?_, ?_, ?_, ?_, ?_⟩
  · -- the child holds the shared object; every other holder keeps its own
    intro e he
    rw [hTasks] at he
    rw [hHeap]
    rcases List.mem_append.mp he with hOld | hNew
    · obtain ⟨a, o, hKvE, hO⟩ := hEx.held e hOld
      by_cases ha : a = addr
      · subst ha
        exact ⟨a, _, hKvE, Function.update_self ..⟩
      · exact ⟨a, o, hKvE, by rw [Function.update_of_ne ha, hO]⟩
    · simp only [List.mem_singleton] at hNew
      subst hNew
      exact ⟨addr, _, rfl, Function.update_self ..⟩
  · intro a o hO
    rw [hHeap] at hO
    rw [hSharers a]
    by_cases ha : a = addr
    · subst ha
      simp only [Function.update_self, Option.some.injEq] at hO
      subst hO
      simp only [if_true]
      rw [← hEx.refCnt a obj hObj]
    · rw [Function.update_of_ne ha] at hO
      simp only [Option.some.injEq, Ne.symm ha, if_false, Nat.add_zero]
      exact hEx.refCnt a o hO
  · intro a o hO
    rw [hHeap] at hO
    by_cases ha : a = addr
    · subst ha
      simp only [Function.update_self, Option.some.injEq] at hO
      subst hO
      exact Nat.succ_pos _
    · rw [Function.update_of_ne ha] at hO
      exact hEx.pos a o hO
  · intro a ha
    rw [hBrk] at ha
    rw [hHeap, Function.update_of_ne (hEx.ne_of_brk_le hObj ha)]
    exact hEx.fresh a ha
  · -- the child is in its creator's group and holds its creator's store
    have hMirror : ∀ e ∈ kern.tasks, (e.2.kv = some addr ↔ e.2.tgid = cur.tgid) := by
      intro e he
      rw [← hKv]
      exact hEx.sameGroup e he _ hCur
    intro e he e' he'
    rw [hTasks] at he he'
    rcases List.mem_append.mp he with hOld | hNew <;>
      rcases List.mem_append.mp he' with hOld' | hNew'
    · exact hEx.sameGroup e hOld e' hOld'
    · simp only [List.mem_singleton] at hNew'
      subst hNew'
      exact hMirror e hOld
    · simp only [List.mem_singleton] at hNew
      subst hNew
      rw [eq_comm, @eq_comm _ cur.tgid]
      exact hMirror e' hOld'
    · simp only [List.mem_singleton] at hNew hNew'
      subst hNew hNew'
      exact sameGroup_self _

/- A process gets a new object at `brk`, held by it alone, and leads a new group. -/
theorem RcKernel.Exact.addProcess
    (hEx : kern.Exact)
    {child : Nat}
    (hFree : kern.PidFree child)
    (hTasks : kern'.tasks = kern.tasks ++ [(child, ⟨child, some kern.brk⟩)])
    (hHeap : kern'.heap = Function.update kern.heap kern.brk (some ⟨KvStore.empty, 1⟩))
    (hBrk : kern'.brk = kern.brk + 1) :
    kern'.Exact := by
  -- no live task holds the address `brk`
  have hNoHolder : ∀ e ∈ kern.tasks, e.2.kv ≠ some kern.brk := by
    intro e he hKvE
    obtain ⟨a, o, hKvA, hO⟩ := hEx.held e he
    rw [hKvE, Option.some.injEq] at hKvA
    subst hKvA
    exact absurd (hEx.lt_brk hO) (Nat.lt_irrefl _)
  have hSharers := liveSharers_append hTasks
  refine ⟨hTasks ▸ nodup_append_child _ hEx.nodup hFree, ?_, ?_, ?_, ?_, ?_⟩
  · intro e he
    rw [hTasks] at he
    rw [hHeap]
    rcases List.mem_append.mp he with hOld | hNew
    · obtain ⟨a, o, hKvE, hO⟩ := hEx.held e hOld
      have hNe : a ≠ kern.brk := Nat.ne_of_lt (hEx.lt_brk hO)
      exact ⟨a, o, hKvE, by rw [Function.update_of_ne hNe, hO]⟩
    · simp only [List.mem_singleton] at hNew
      subst hNew
      exact ⟨kern.brk, _, rfl, Function.update_self ..⟩
  · intro a o hO
    rw [hHeap] at hO
    rw [hSharers a]
    by_cases ha : a = kern.brk
    · -- the new object's one reference is the child's
      subst ha
      simp only [Function.update_self, Option.some.injEq] at hO
      subst hO
      have hNone : kern.liveSharers kern.brk = 0 := by
        rw [liveSharers_eq_countP, List.countP_eq_zero]
        intro e he hKvE
        exact hNoHolder e he (of_decide_eq_true hKvE)
      simp only [hNone, if_true]
    · rw [Function.update_of_ne ha] at hO
      simp only [Option.some.injEq, Ne.symm ha, if_false, Nat.add_zero]
      exact hEx.refCnt a o hO
  · intro a o hO
    rw [hHeap] at hO
    by_cases ha : a = kern.brk
    · subst ha
      simp only [Function.update_self, Option.some.injEq] at hO
      subst hO
      exact Nat.one_pos
    · rw [Function.update_of_ne ha] at hO
      exact hEx.pos a o hO
  · intro a ha
    rw [hBrk] at ha
    rw [hHeap, Function.update_of_ne (by omega)]
    exact hEx.fresh a (by omega)
  · -- nobody else holds the new store or is in the new group
    have hApart : ∀ e ∈ kern.tasks, ¬ (e.2.kv = some kern.brk) ∧ ¬ (e.2.tgid = child) :=
      fun e he => ⟨hNoHolder e he, (hFree e he).2⟩
    intro e he e' he'
    rw [hTasks] at he he'
    rcases List.mem_append.mp he with hOld | hNew <;>
      rcases List.mem_append.mp he' with hOld' | hNew'
    · exact hEx.sameGroup e hOld e' hOld'
    · simp only [List.mem_singleton] at hNew'
      subst hNew'
      exact iff_of_false (hApart e hOld).1 (hApart e hOld).2
    · simp only [List.mem_singleton] at hNew
      subst hNew
      exact iff_of_false (fun h => (hApart e' hOld').1 h.symm)
        (fun h => (hApart e' hOld').2 h.symm)
    · simp only [List.mem_singleton] at hNew hNew'
      subst hNew hNew'
      exact sameGroup_self _

/-
  The exit of a holder: it leaves the list and its object one
  reference, and the object is freed with the last one.
-/
theorem RcKernel.Exact.exit
    (hEx : kern.Exact)
    {pid : Nat}
    {t : Task}
    (hFind : kern.find pid = some t)
    {addr : Nat}
    {obj : RcStore}
    (hKv : t.kv = some addr)
    (hObj : kern.heap addr = some obj)
    (hTasks : kern'.tasks = kern.tasks.filter (fun e => e.1 != pid))
    (hHeap : kern'.heap = Function.update kern.heap addr
      (if obj.refCnt = 1 then none else some { obj with refCnt := obj.refCnt - 1 }))
    (hBrk : kern'.brk = kern.brk) :
    kern'.Exact := by
  have hSub : (kern.tasks.filter fun e => e.1 != pid).Sublist kern.tasks := List.filter_sublist
  -- the list loses exactly the exiting task, which held `addr`
  have hCount : ∀ a, kern'.liveSharers a + (if t.kv = some a then 1 else 0) =
      kern.liveSharers a := by
    intro a
    rw [liveSharers_eq_countP, liveSharers_eq_countP, hTasks]
    have h := PyDict.countP_filter_fst_ne_add (fun e => decide (e.2.kv = some a)) hEx.nodup hFind
    simpa only [decide_eq_true_eq] using h
  -- a holder that stays keeps the object from reaching zero
  have hKept : ∀ e ∈ kern'.tasks, e.2.kv = some addr → obj.refCnt ≠ 1 := by
    intro e he hKvE
    have hLeft : 0 < kern'.liveSharers addr := by
      rw [liveSharers_eq_countP, List.countP_pos_iff]
      exact ⟨e, he, decide_eq_true hKvE⟩
    have hAddr := hCount addr
    simp only [hKv, if_true] at hAddr
    rw [hEx.refCnt addr obj hObj]
    omega
  refine ⟨hTasks ▸ (hSub.map Prod.fst).nodup hEx.nodup, ?_, ?_, ?_, ?_, ?_⟩
  · intro e he
    obtain ⟨a, o, hKvE, hO⟩ := hEx.held e (hSub.subset (hTasks ▸ he))
    rw [hHeap]
    by_cases ha : a = addr
    · subst ha
      refine ⟨a, { obj with refCnt := obj.refCnt - 1 }, hKvE, ?_⟩
      rw [Function.update_self, if_neg (hKept e he hKvE)]
    · exact ⟨a, o, hKvE, by rw [Function.update_of_ne ha, hO]⟩
  · intro a o hO
    rw [hHeap] at hO
    have hA := hCount a
    by_cases ha : a = addr
    · -- a freed object has no count; a kept one lost the exiting reference
      subst ha
      rw [Function.update_self] at hO
      by_cases hOne : obj.refCnt = 1
      · rw [if_pos hOne] at hO
        cases hO
      · rw [if_neg hOne, Option.some.injEq] at hO
        subst hO
        simp only [hKv, if_true] at hA
        have hOld := hEx.refCnt a obj hObj
        show obj.refCnt - 1 = _
        omega
    · rw [Function.update_of_ne ha] at hO
      have hOther : t.kv ≠ some a := by
        rw [hKv]
        exact fun h => ha (Option.some.inj h).symm
      simp only [hOther, if_false, Nat.add_zero] at hA
      rw [hA]
      exact hEx.refCnt a o hO
  · intro a o hO
    rw [hHeap] at hO
    by_cases ha : a = addr
    · subst ha
      rw [Function.update_self] at hO
      by_cases hOne : obj.refCnt = 1
      · rw [if_pos hOne] at hO
        cases hO
      · rw [if_neg hOne, Option.some.injEq] at hO
        subst hO
        have hPos := hEx.pos a obj hObj
        show 0 < obj.refCnt - 1
        omega
    · rw [Function.update_of_ne ha] at hO
      exact hEx.pos a o hO
  · intro a ha
    rw [hBrk] at ha
    rw [hHeap, Function.update_of_ne (hEx.ne_of_brk_le hObj ha)]
    exact hEx.fresh a ha
  · intro e he e' he'
    rw [hTasks] at he he'
    exact hEx.sameGroup e (hSub.subset he) e' (hSub.subset he')

/- `write_kv` changes an object's chains, not its count. -/
theorem RcKernel.Exact.setStore
    (hEx : kern.Exact)
    {addr : Nat}
    {obj : RcStore}
    (hObj : kern.heap addr = some obj)
    (store : KvStore) :
    (kern.setObj addr (some { obj with store := store })).Exact where
  nodup := hEx.nodup
  held := by
    intro e he
    obtain ⟨a, o, hKvE, hO⟩ := hEx.held e he
    by_cases ha : a = addr
    · subst ha
      exact ⟨a, _, hKvE, Function.update_self ..⟩
    · exact ⟨a, o, hKvE, by
        show Function.update kern.heap addr _ a = some o
        rw [Function.update_of_ne ha, hO]⟩
  refCnt := by
    intro a o hO
    change Function.update kern.heap addr _ a = some o at hO
    by_cases ha : a = addr
    · subst ha
      rw [Function.update_self, Option.some.injEq] at hO
      subst hO
      exact hEx.refCnt a obj hObj
    · rw [Function.update_of_ne ha] at hO
      exact hEx.refCnt a o hO
  pos := by
    intro a o hO
    change Function.update kern.heap addr _ a = some o at hO
    by_cases ha : a = addr
    · subst ha
      rw [Function.update_self, Option.some.injEq] at hO
      subst hO
      exact hEx.pos a obj hObj
    · rw [Function.update_of_ne ha] at hO
      exact hEx.pos a o hO
  fresh := by
    intro a ha
    show Function.update kern.heap addr _ a = none
    rw [Function.update_of_ne (hEx.ne_of_brk_le hObj ha)]
    exact hEx.fresh a ha
  sameGroup := hEx.sameGroup

theorem RcKernel.Exact.step
    (hEx : kern.Exact)
    {e : RcEvent}
    (hGood : e.noLateFailure = true)
    (h : kern.step e = some kern') :
    kern'.Exact := by
  cases e with
  | clone parent child cloneThread allocOk outcome =>
      simp only [RcEvent.noLateFailure, Bool.and_eq_true, beq_iff_eq, Bool.or_eq_true] at hGood
      obtain ⟨rfl, hAlloc⟩ := hGood
      obtain ⟨cur, hunk, hParent, hFree, hHunk, rfl⟩ := copyProcessRc_ok_eq_some h
      cases cloneThread with
      | true =>
          obtain ⟨addr, obj, hKv, hObj, rfl⟩ := kvHunkRc_thread_eq_some hHunk
          exact hEx.addThread hParent hFree hKv hObj rfl rfl rfl
      | false =>
          have hOk : allocOk = true := by simpa using hAlloc
          subst hOk
          rw [kvHunkRc_process, Option.some.injEq] at hHunk
          subst hHunk
          exact hEx.addProcess hFree rfl rfl rfl
  | exit pid =>
      obtain ⟨t, kern₁, t', hFind, hClean, rfl⟩ := doExit_eq_some h
      obtain ⟨addr, obj, hKv, hObj⟩ := hEx.held _ (RcKernel.mem_of_find hFind)
      rw [cleanupKvStore_of_held hKv hObj hClean]
      exact hEx.exit hFind hKv hObj rfl rfl rfl
  | writeKv pid k v allocOk =>
      obtain ⟨⟨kern₁, r⟩, hWrite, rfl⟩ := Option.map_eq_some_iff.mp h
      obtain ⟨addr, obj, store, hObj, rfl⟩ := sysWriteKvRc_eq_some hWrite
      exact hEx.setStore hObj store
  | readKv pid k =>
      obtain ⟨_, -, rfl⟩ := Option.map_eq_some_iff.mp h
      exact hEx

end Kv

end OsHomework

------------------------------------------------------------
-- Over Every Run Without Late Failures
------------------------------------------------------------

namespace OsHomework

namespace Kv

/-
  From boot, over every run of clones that pass every exit after
  the kv hunk (with a successful allocation for a process),
  exits, `write_kv` and `read_kv` calls: every live task holds an
  allocated object whose `ref_cnt` is its number of live
  holders, an object is allocated exactly while a live task
  holds it, and two live tasks share a store exactly when they
  are in one thread group.
-/
theorem kv_refs_exact_without_late_failures
    (events : List RcEvent)
    (hGood : ∀ e ∈ events, e.noLateFailure = true)
    (kern : RcKernel)
    (hRun : Machine.run RcKernel.step RcKernel.boot events = some kern) :
    (∀ e ∈ kern.tasks, ∃ addr obj, e.2.kv = some addr ∧ kern.heap addr = some obj ∧
        obj.refCnt = kern.liveSharers addr) ∧
      (∀ addr, kern.heap addr ≠ none ↔ 0 < kern.liveSharers addr) ∧
      (∀ e ∈ kern.tasks, ∀ e' ∈ kern.tasks, e.2.kv = e'.2.kv ↔ e.2.tgid = e'.2.tgid) := by
  -- the run is one of the machine that takes only such events
  rw [← Machine.run_restrict_of_forall hGood] at hRun
  have hEx : kern.Exact :=
    Machine.Reachable.invariant RcKernel.Exact RcKernel.Exact.boot
      (fun _ _ _ hEx hStep =>
        (Machine.restrict_eq_some hStep).elim fun hOk hStep => hEx.step hOk hStep)
      (Machine.reachable_of_run hRun)
  refine ⟨?_, ?_, hEx.sameGroup⟩
  · intro e he
    obtain ⟨addr, obj, hKv, hObj⟩ := hEx.held e he
    exact ⟨addr, obj, hKv, hObj, hEx.refCnt addr obj hObj⟩
  · intro addr
    constructor
    · intro hAlloc
      obtain ⟨obj, hObj⟩ := Option.ne_none_iff_exists'.mp hAlloc
      rw [← hEx.refCnt addr obj hObj]
      exact hEx.pos addr obj hObj
    · -- a holder's object is allocated
      intro hShared
      rw [liveSharers_eq_countP, List.countP_pos_iff] at hShared
      obtain ⟨e, he, hKvE⟩ := hShared
      obtain ⟨a, obj, hKvA, hObj⟩ := hEx.held e he
      rw [of_decide_eq_true hKvE, Option.some.injEq] at hKvA
      rw [hKvA, hObj]
      exact Option.some_ne_none obj

/- `init` makes a thread and a process, then exits. -/
def cloneThenExit : List RcEvent :=
  [.clone 1 2 true true .ok, .clone 2 3 false true .ok, .exit 1]

/- Where that run ends. -/
def cloneThenExitEnd : RcKernel :=
  (Machine.run RcKernel.step RcKernel.boot cloneThenExit).getD RcKernel.boot

theorem kv_refs_exact_without_late_failures_demo :
    (∀ e ∈ cloneThenExit, e.noLateFailure = true) ∧
      Machine.run RcKernel.step RcKernel.boot cloneThenExit = some cloneThenExitEnd ∧
      cloneThenExitEnd.heap 0 ≠ none ∧ cloneThenExitEnd.heap 1 ≠ none := by
  have hGood : ∀ e ∈ cloneThenExit, e.noLateFailure = true := by decide
  have hRun : Machine.run RcKernel.step RcKernel.boot cloneThenExit = some cloneThenExitEnd :=
    rfl
  -- the thread holds `init`'s object, the process its own
  have hShared : 0 < cloneThenExitEnd.liveSharers 0 ∧ 0 < cloneThenExitEnd.liveSharers 1 := by
    decide
  have hAlloc := (kv_refs_exact_without_late_failures cloneThenExit hGood _ hRun).2.1
  exact ⟨hGood, hRun, (hAlloc 0).mpr hShared.1, (hAlloc 1).mpr hShared.2⟩

end Kv

end OsHomework

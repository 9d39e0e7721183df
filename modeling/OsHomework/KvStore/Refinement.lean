import OsHomework.KvStore.Kernel

/-
  What the kv stores are for, and that the kernel model
  implements it.

  The abstract model `Groups` forgets chains, buckets and
  pointers: each live task belongs to a thread group, each
  group keeps the list of writes its tasks have issued since
  the group was created (latest first), and a read returns the
  value of the latest write of its key in the caller's group.
  `copy_process` with `CLONE_THREAD` joins the creator's
  group; without it, a new group with an empty log begins.

  `Refines` relates a kernel state to an abstract one; every
  event whose allocations succeed preserves it, so every run
  of the kernel is matched by a run of the abstract model on
  the same events, and every read agrees with the abstract
  read.

  Main declarations:
    * `latest`, `Groups`, `Groups.step`, `Groups.read`
    * `Refines`, `Refines.step`, `Refines.read_eq`
    * `read_kv_returns_latest_group_write`
-/

------------------------------------------------------------
-- Thread Groups and Their Write Logs
------------------------------------------------------------

namespace OsHomework

namespace Kv

/- The value of the latest write of `k` in a log written latest first. -/
def latest
    (log : List (Int32 × Int32))
    (k : Int32) : Option Int32 :=
  (log.find? (fun w => decide (w.1 = k))).map Prod.snd

@[simp]
theorem latest_nil
    (k : Int32) :
    latest [] k = none := rfl

theorem latest_cons
    (log : List (Int32 × Int32))
    (k v k' : Int32) :
    latest ((k, v) :: log) k' =
      if k' = k then some v else latest log k' := by
  by_cases hKey : k' = k
  · subst hKey
    simp [latest]
  · have hNe : k ≠ k' := fun h => hKey h.symm
    simp [latest, hKey, hNe]

/- Each live task's thread group, and each group's writes, latest first. -/
structure Groups where
  group : Nat → Option Nat
  log : Nat → List (Int32 × Int32)

/-
  The abstract effect of an event.  A new group is named
  after its leader's pid; a failed `copy_process` changes
  nothing; a write is logged in its caller's group.
-/
def Groups.step
    (G : Groups) : Event → Option Groups
  | .clone parent child cloneThread _ outcome =>
      match G.group parent, G.group child with
      | some g, none =>
          if outcome = .ok then
            if cloneThread then
              some { G with
                group := Function.update G.group child (some g) }
            else
              some {
                group := Function.update G.group child (some child)
                log := Function.update G.log child [] }
          else some G
      | _, _ => none
  | .writeKv pid k v _ =>
      match G.group pid with
      | some g =>
          some { G with
            log := Function.update G.log g ((k, v) :: G.log g) }
      | none => none
  | .readKv pid _ => (G.group pid).map (fun _ => G)

/- What `read_kv` should return: the latest write of `k` in the caller's group, or -1. -/
def Groups.read
    (G : Groups)
    (pid : Nat)
    (k : Int32) : Option Int :=
  (G.group pid).map fun g => readRet (latest (G.log g) k)

/- At boot `init` leads the only group, which has written nothing. -/
def Groups.boot : Groups where
  group := Function.update (fun _ => none) 1 (some 1)
  log := fun _ => []

end Kv

end OsHomework

------------------------------------------------------------
-- The Refinement Relation
------------------------------------------------------------

namespace OsHomework

namespace Kv

variable {kern kern' : Kernel} {G : Groups}

/-
  A kernel state implements an abstract one when the sharing
  invariant holds, the live tasks and their groups agree,
  every live task has a store, and each store maps every key
  to the latest write of it in the log of its tasks' group.
-/
structure Refines (kern : Kernel) (G : Groups) : Prop where
  inv : KernelInv kern
  group_eq : ∀ pid, (kern.tasks pid).map Task.tgid = G.group pid
  kv_some :
    ∀ pid t, kern.tasks pid = some t → ∃ addr, t.kv = some addr
  store_eq :
    ∀ pid t addr, kern.tasks pid = some t → t.kv = some addr →
      ∀ k, (kern.heap addr).get k = latest (G.log t.tgid) k

theorem Refines.boot :
    Refines Kernel.boot Groups.boot := by
  refine ⟨KernelInv.boot, ?_, ?_, ?_⟩
  · intro pid
    by_cases hPid : pid = 1
    · subst hPid
      simp [Kernel.boot, Groups.boot]
    · simp [Kernel.boot, Groups.boot, hPid]
  · intro pid t hTask
    by_cases hPid : pid = 1
    · subst hPid
      simp only [Kernel.boot, Function.update_self,
        Option.some.injEq] at hTask
      exact ⟨0, by rw [← hTask]⟩
    · simp [Kernel.boot, hPid] at hTask
  · intro pid t addr _ _ k
    simp [Kernel.boot, Groups.boot]

/- A related pair gives the same answer to every read. -/
theorem Refines.read_eq
    (hRel : Refines kern G)
    (pid : Nat)
    (k : Int32) :
    sysReadKv kern pid k = G.read pid k := by
  have hGroup := hRel.group_eq pid
  cases hTask : kern.tasks pid with
  | none =>
      rw [hTask, Option.map_none] at hGroup
      simp [sysReadKv, hTask, Groups.read, ← hGroup]
  | some t =>
      rw [hTask, Option.map_some] at hGroup
      rcases hRel.kv_some pid t hTask with ⟨addr, hKv⟩
      have hTask' : kern.tasks pid = some ⟨t.tgid, some addr⟩ := by
        rw [hTask, ← hKv]
      rw [sysReadKv_eq hTask' k, readKv_eq,
        hRel.store_eq pid t addr hTask hKv k]
      rw [Groups.read, ← hGroup, Option.map_some]

/-
  A step that keeps the live tasks and every allocated store
  object (the kv hunk, a failed `copy_process`) keeps the
  relation to the same abstract state.
-/
theorem Refines.of_heap_below_brk
    (hRel : Refines kern G)
    (hInv' : KernelInv kern')
    (hTasks : kern'.tasks = kern.tasks)
    (hHeap : ∀ addr, addr < kern.brk → kern'.heap addr = kern.heap addr) :
    Refines kern' G := by
  refine ⟨hInv', ?_, ?_, ?_⟩
  · intro pid
    rw [hTasks]
    exact hRel.group_eq pid
  · intro pid t hTask
    rw [hTasks] at hTask
    exact hRel.kv_some pid t hTask
  · intro pid t addr hTask hKv k
    rw [hTasks] at hTask
    rw [hHeap addr (hRel.inv.kv_lt_brk pid t addr hTask hKv)]
    exact hRel.store_eq pid t addr hTask hKv k

/- A new thread joins its creator's group and reads its creator's store. -/
theorem Refines.addTask_thread
    (hRel : Refines kern G)
    {parent child : Nat}
    {cur : Task}
    (hParent : kern.tasks parent = some cur) :
    Refines (kern.addTask child cur)
      { G with group := Function.update G.group child (some cur.tgid) } := by
  refine ⟨hRel.inv.addTask_twin hParent, ?_, ?_, ?_⟩
  · intro pid
    by_cases hPid : pid = child
    · subst hPid
      simp [Kernel.addTask]
    · simp [Kernel.addTask, hPid, hRel.group_eq pid]
  · intro pid t hTask
    rcases Kernel.addTask_tasks_eq_some.mp hTask with
      ⟨_, rfl⟩ | ⟨_, hOld⟩
    · exact hRel.kv_some parent t hParent
    · exact hRel.kv_some pid t hOld
  · intro pid t addr hTask hKv k
    rcases Kernel.addTask_tasks_eq_some.mp hTask with
      ⟨_, rfl⟩ | ⟨_, hOld⟩
    · exact hRel.store_eq parent t addr hParent hKv k
    · exact hRel.store_eq pid t addr hOld hKv k

/-
  A new process leads a new group with an empty log, and its
  store is the empty object at a fresh address.
-/
theorem Refines.addTask_process
    (hRel : Refines kern G)
    (hInv' : KernelInv (kern'.addTask child ⟨child, some kern.brk⟩))
    (hChild : kern.tasks child = none)
    (hTasks : kern'.tasks = kern.tasks)
    (hHeap : ∀ addr, addr < kern.brk → kern'.heap addr = kern.heap addr)
    (hFresh : kern'.heap kern.brk = KvStore.empty) :
    Refines (kern'.addTask child ⟨child, some kern.brk⟩)
      { group := Function.update G.group child (some child)
        log := Function.update G.log child [] } := by
  -- no live task is in the new group: its leader would be live
  have hNoMember :
      ∀ p t, kern.tasks p = some t → t.tgid ≠ child := by
    intro p t hp hTgid
    rcases hRel.inv.leader_live p t hp with ⟨leader, hLeader⟩
    rw [hTgid, hChild] at hLeader
    simp at hLeader
  refine ⟨hInv', ?_, ?_, ?_⟩
  · intro pid
    by_cases hPid : pid = child
    · subst hPid
      simp [Kernel.addTask]
    · simp [Kernel.addTask, hPid, hTasks, hRel.group_eq pid]
  · intro pid t hTask
    rcases Kernel.addTask_tasks_eq_some.mp hTask with
      ⟨_, rfl⟩ | ⟨_, hOld⟩
    · exact ⟨kern.brk, rfl⟩
    · rw [hTasks] at hOld
      exact hRel.kv_some pid t hOld
  · intro pid t addr hTask hKv k
    rcases Kernel.addTask_tasks_eq_some.mp hTask with
      ⟨_, rfl⟩ | ⟨_, hOld⟩
    · simp only [Option.some.injEq] at hKv
      subst hKv
      simp [Kernel.addTask_heap, hFresh]
    · rw [hTasks] at hOld
      have hLt := hRel.inv.kv_lt_brk pid t addr hOld hKv
      simp only [Kernel.addTask_heap, hHeap addr hLt,
        Function.update_of_ne (hNoMember pid t hOld)]
      exact hRel.store_eq pid t addr hOld hKv k

/- Every `copy_process` whose allocation succeeds is matched by the abstract model. -/
theorem Refines.copyProcess
    (hRel : Refines kern G)
    {parent child : Nat}
    {cloneThread allocOk : Bool}
    {outcome : ForkOutcome}
    (hAlloc : allocOk = true)
    (hFork :
      copyProcess kern parent child cloneThread allocOk outcome =
        some kern') :
    ∃ G', G.step (.clone parent child cloneThread allocOk outcome) =
      some G' ∧ Refines kern' G' := by
  have hInv' : KernelInv kern' := hRel.inv.copyProcess hFork
  rcases copyProcess_eq_some hFork with ⟨cur, hParent, hChild, hKern'⟩
  subst hAlloc
  have hGp : G.group parent = some cur.tgid := by
    rw [← hRel.group_eq parent, hParent, Option.map_some]
  have hGc : G.group child = none := by
    rw [← hRel.group_eq child, hChild, Option.map_none]
  let hunk := kvHunk kern cur cloneThread true
  have hHeap : ∀ addr, addr < kern.brk →
      hunk.1.heap addr = kern.heap addr :=
    fun addr hLt => kvHunk_heap_of_lt kern cur cloneThread true hLt
  by_cases hOk : outcome = .ok
  · rw [if_pos hOk] at hKern'
    cases cloneThread with
    | true =>
        -- a new thread: the child's record is the creator's
        have hRecord :
            (⟨cur.tgid, (kvHunk kern cur true true).2⟩ : Task) = cur := by
          rw [kvHunk_kv]
          rfl
        rw [if_pos rfl, hRecord] at hKern'
        subst hKern'
        refine ⟨{ G with
            group := Function.update G.group child (some cur.tgid) },
          by simp [Groups.step, hGp, hGc, hOk], ?_⟩
        have hRel₁ : Refines hunk.1 G :=
          hRel.of_heap_below_brk
            (hRel.inv.of_tasks_eq (kvHunk_tasks _ _ _ _)
              (by rw [kvHunk_brk]; simp))
            (kvHunk_tasks _ _ _ _) hHeap
        exact hRel₁.addTask_thread (by rw [kvHunk_tasks]; exact hParent)
    | false =>
        -- a new process: a new group and a fresh empty store
        rw [if_neg (by decide), kvHunk_kv] at hKern'
        simp only [Bool.false_eq_true, if_false, if_true] at hKern'
        subst hKern'
        refine ⟨{ group := Function.update G.group child (some child)
                  log := Function.update G.log child [] },
          by simp [Groups.step, hGp, hGc, hOk], ?_⟩
        exact hRel.addTask_process hInv' hChild
          (kvHunk_tasks _ _ _ _) hHeap (kvHunk_heap_brk kern cur)
  · rw [if_neg hOk] at hKern'
    subst hKern'
    refine ⟨G, by simp [Groups.step, hGp, hGc, hOk], ?_⟩
    exact hRel.of_heap_below_brk hInv' (kvHunk_tasks _ _ _ _) hHeap

/- Every write whose allocation succeeds is logged in its caller's group. -/
theorem Refines.writeKv
    (hRel : Refines kern G)
    {pid : Nat}
    {k v : Int32}
    {r : Int}
    (hWrite : sysWriteKv kern pid k v true = some (kern', r)) :
    ∃ G', G.step (.writeKv pid k v true) = some G' ∧
      Refines kern' G' := by
  rcases sysWriteKv_eq_some hWrite with ⟨tgid, addr, hTask, rfl, _⟩
  have hGp : G.group pid = some tgid := by
    rw [← hRel.group_eq pid, hTask, Option.map_some]
  have hOk : (writeKv (kern.heap addr) k v true).2 ≠ -1 := by
    rw [writeKv_ret_of_allocOk]
    decide
  refine ⟨{ G with
      log := Function.update G.log tgid ((k, v) :: G.log tgid) },
    by simp [Groups.step, hGp], ?_⟩
  refine ⟨hRel.inv.of_tasks_eq rfl (Nat.le_refl _),
    hRel.group_eq, hRel.kv_some, ?_⟩
  intro q t a hq hKv k'
  by_cases hAddr : a = addr
  · -- the written store: its tasks are exactly the caller's group
    subst hAddr
    have hTgid : t.tgid = tgid :=
      hRel.inv.tgid_eq_of_kv_eq q pid t ⟨tgid, some a⟩ a hq hTask hKv rfl
    simp only [Function.update_self, hTgid]
    rw [KvStore.get_writeKv hOk, latest_cons,
      hRel.store_eq pid ⟨tgid, some a⟩ a hTask rfl k']
  · -- any other store belongs to another group
    have hTgid : t.tgid ≠ tgid := by
      intro hEq
      have hSame :=
        hRel.inv.kv_eq_of_tgid_eq q pid t ⟨tgid, some addr⟩ hq hTask hEq
      rw [hKv] at hSame
      exact hAddr (Option.some.inj hSame)
    simp only [Function.update_of_ne hAddr,
      Function.update_of_ne hTgid]
    exact hRel.store_eq q t a hq hKv k'

/- Every event whose allocations succeed is matched by the abstract model. -/
theorem Refines.step
    (hRel : Refines kern G)
    {e : Event}
    (hAlloc : e.AllocOk)
    (hStep : kern.step e = some kern') :
    ∃ G', G.step e = some G' ∧ Refines kern' G' := by
  cases e with
  | clone parent child cloneThread allocOk outcome =>
      exact hRel.copyProcess hAlloc hStep
  | writeKv pid k v allocOk =>
      simp only [Event.AllocOk] at hAlloc
      subst hAlloc
      rcases hWrite : sysWriteKv kern pid k v true with _ | ⟨kern₁, r⟩
      · simp [Kernel.step, hWrite] at hStep
      · simp only [Kernel.step, hWrite, Option.map_some,
          Option.some.injEq] at hStep
        subst hStep
        exact hRel.writeKv hWrite
  | readKv pid k =>
      cases hRead : sysReadKv kern pid k with
      | none => simp [Kernel.step, hRead] at hStep
      | some _ =>
          simp only [Kernel.step, hRead, Option.map_some,
            Option.some.injEq] at hStep
          subst hStep
          have hRead' := hRel.read_eq pid k
          rw [hRead] at hRead'
          have hGroup : (G.group pid).isSome := by
            unfold Groups.read at hRead'
            cases hG : G.group pid <;> simp_all
          refine ⟨G, ?_, hRel⟩
          cases hG : G.group pid <;> simp_all [Groups.step]

end Kv

end OsHomework

------------------------------------------------------------
-- The Contract of the System Calls
------------------------------------------------------------

namespace OsHomework

namespace Kv

variable {kern kern' : Kernel}

/-
  Every run whose allocations all succeed is matched by the
  abstract run on the same events, and in its end state every
  read returns the latest write of its key in the caller's
  group.
-/
theorem run_refines
    (events : List Event)
    (hRun : Machine.run Kernel.step Kernel.boot events = some kern)
    (hAlloc : ∀ e ∈ events, e.AllocOk) :
    ∃ G, Machine.run Groups.step Groups.boot events = some G ∧
      ∀ pid k, sysReadKv kern pid k = G.read pid k := by
  rcases Machine.run_simulates Refines Event.AllocOk
      (fun _ _ _ _ hGood hRel hStep => hRel.step hGood hStep)
      events hAlloc Kernel.boot Groups.boot kern Refines.boot hRun with
    ⟨G, hAbstract, hRel⟩
  exact ⟨G, hAbstract, hRel.read_eq⟩

/- A write by a task of another group leaves every read of `reader` as it was. -/
theorem sysReadKv_sysWriteKv_of_tgid_ne
    (hReach : Machine.Reachable Kernel.step Kernel.boot kern)
    {caller reader : Nat}
    {tc tr : Task}
    {k v : Int32}
    {allocOk : Bool}
    {r : Int}
    (hCaller : kern.tasks caller = some tc)
    (hReader : kern.tasks reader = some tr)
    (hGroups : tc.tgid ≠ tr.tgid)
    (hWrite : sysWriteKv kern caller k v allocOk = some (kern', r))
    (k' : Int32) :
    sysReadKv kern' reader k' = sysReadKv kern reader k' := by
  have hInv := KernelInv.reachable hReach
  rcases sysWriteKv_eq_some hWrite with ⟨tgid, addr, hTask, rfl, _⟩
  have hTc : tc = ⟨tgid, some addr⟩ :=
    Option.some.inj (hCaller.symm.trans hTask)
  subst hTc
  cases hKv : tr.kv with
  | none =>
      have hReader' : kern.tasks reader = some ⟨tr.tgid, none⟩ := by
        rw [hReader, ← hKv]
      simp [sysReadKv, hReader']
  | some a =>
      -- the reader's store is another object than the caller's
      have hAddr : a ≠ addr := by
        intro hEq
        subst hEq
        exact hGroups
          (hInv.tgid_eq_of_kv_eq caller reader _ tr a hCaller hReader
            rfl hKv)
      have hReader' : kern.tasks reader = some ⟨tr.tgid, some a⟩ := by
        rw [hReader, ← hKv]
      simp [sysReadKv, hReader', Function.update_of_ne hAddr]

/-
  A write that returns -1 leaves the kernel as it was, and one
  that does not returns `sizeof(int)`.
-/
theorem sysWriteKv_ret
    {caller : Nat}
    {k v : Int32}
    {allocOk : Bool}
    {r : Int}
    (hWrite : sysWriteKv kern caller k v allocOk = some (kern', r)) :
    (r = -1 → kern' = kern) ∧ (r ≠ -1 → r = sizeofInt) := by
  rcases sysWriteKv_eq_some hWrite with ⟨tgid, addr, _, rfl, rfl⟩
  rcases writeKv_cases (kern.heap addr) k v allocOk with
    ⟨hRet, _⟩ | ⟨hRet, hSame, _, _⟩
  · refine ⟨fun hFail => ?_, fun _ => hRet⟩
    rw [hRet] at hFail
    exact absurd hFail (by decide)
  · refine ⟨fun _ => ?_, fun hOk => absurd hRet hOk⟩
    rw [hSame, Function.update_eq_self]

/-
  The contract of `write_kv` and `read_kv` over every run of
  task creations and calls: with every `kmalloc` succeeding,
  each read returns the latest write of its key by its
  caller's thread group since the group's store was created
  (-1 when there is none), for every `int` key; a write by
  another group never changes what a task reads; a write that
  returns -1 leaves the state unchanged, and any other write
  returns `sizeof(int)`.
-/
theorem read_kv_returns_latest_group_write :
    (∀ (events : List Event) (kern : Kernel),
      Machine.run Kernel.step Kernel.boot events = some kern →
      (∀ e ∈ events, e.AllocOk) →
      ∃ G, Machine.run Groups.step Groups.boot events = some G ∧
        ∀ pid k, sysReadKv kern pid k = G.read pid k) ∧
    (∀ (kern kern' : Kernel) (caller reader : Nat) (tc tr : Task)
        (k v : Int32) (allocOk : Bool) (r : Int),
      Machine.Reachable Kernel.step Kernel.boot kern →
      kern.tasks caller = some tc → kern.tasks reader = some tr →
      tc.tgid ≠ tr.tgid →
      sysWriteKv kern caller k v allocOk = some (kern', r) →
      ∀ k', sysReadKv kern' reader k' = sysReadKv kern reader k') ∧
    (∀ (kern kern' : Kernel) (caller : Nat) (k v : Int32)
        (allocOk : Bool) (r : Int),
      sysWriteKv kern caller k v allocOk = some (kern', r) →
      (r = -1 → kern' = kern) ∧ (r ≠ -1 → r = sizeofInt)) := by
  refine ⟨?_, ?_, ?_⟩
  · intro events kern hRun hAlloc
    exact run_refines events hRun hAlloc
  · intro kern kern' caller reader tc tr k v allocOk r hReach
      hCaller hReader hGroups hWrite k'
    exact sysReadKv_sysWriteKv_of_tgid_ne hReach hCaller hReader
      hGroups hWrite k'
  · intro kern kern' caller k v allocOk r hWrite
    exact sysWriteKv_ret hWrite

/- A thread of `init` writes key -1; both tasks then share one group. -/
def threadWriteEvents : List Event :=
  [.clone 1 2 true true .ok, .writeKv 2 (-1) 7 true, .readKv 1 (-1)]

theorem read_kv_returns_latest_group_write_thread :
    ∃ G, Machine.run Groups.step Groups.boot threadWriteEvents = some G ∧
      ∀ pid k,
        sysReadKv
            ((Machine.run Kernel.step Kernel.boot threadWriteEvents).getD
              Kernel.boot)
            pid k =
          G.read pid k :=
  read_kv_returns_latest_group_write.1 threadWriteEvents _ rfl (by decide)

end Kv

end OsHomework

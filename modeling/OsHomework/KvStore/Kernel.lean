import OsHomework.KvStore.Store
import OsHomework.Lib.Machine

/-
  The tasks that own kv stores, as `kernel/fork.c` and
  `kernel/kv_store.c` set them up: the `kv` pointer of each
  task, the store objects `init_task_kv_store` allocates, the
  kv hunk of `copy_process`, and the two system calls on the
  calling task's store.

  A task is reduced to the fields the kv code reads: its
  thread group id and its `kv` pointer.  Store objects live
  in a heap indexed by address, and `kmalloc` hands out the
  fresh address `brk`.  `copy_process` either returns the new
  task or fails at one of the exits after the kv hunk
  (`cgroup_can_fork`, a dying pid namespace, a pending fatal
  signal); those exits free the task and leave its store
  allocated.

  Main declarations:
    * `Task`, `Kernel`, `Event`, `Kernel.step`, `Kernel.boot`
    * `initTaskKvStore`, `kvHunk`, `copyProcess`,
      `sysWriteKv`, `sysReadKv`
    * `KernelInv` and `KernelInv.reachable`
-/

------------------------------------------------------------
-- Tasks and the Kernel State
------------------------------------------------------------

namespace OsHomework

namespace Kv

/- The fields of a `task_struct` the kv code reads; `kv = none` is NULL. -/
structure Task where
  tgid : Nat
  kv : Option Nat
deriving DecidableEq, Repr

/- Live tasks by pid, store objects by address, and the next fresh address. -/
structure Kernel where
  tasks : Nat → Option Task
  heap : Nat → KvStore
  brk : Nat

/- Where `copy_process` ends once the kv hunk has run. -/
inductive ForkOutcome
  | ok
  | cgroupCanFork
  | pidNsDying
  | fatalSignal
deriving DecidableEq, Repr

/-
  `init_task_kv_store`: `kmalloc` a store and empty its 1024
  chains.  The result is the kernel with the new object, the
  task's new `kv` pointer (NULL when `kmalloc` failed) and
  the return code, which `copy_process` ignores.
-/
def initTaskKvStore
    (kern : Kernel)
    (allocOk : Bool) : Kernel × Option Nat × Int :=
  if allocOk then
    ({ kern with
        heap := Function.update kern.heap kern.brk KvStore.empty
        brk := kern.brk + 1 },
      some kern.brk, 0)
  else
    (kern, none, -1)

/-
  The kv hunk of `copy_process`: a new thread shares the
  creator's `kv`, a new process gets `init_task_kv_store`.
  The result is the kernel after it and the child's `kv`.
-/
def kvHunk
    (kern : Kernel)
    (cur : Task)
    (cloneThread allocOk : Bool) : Kernel × Option Nat :=
  if cloneThread then (kern, cur.kv)
  else
    let r := initTaskKvStore kern allocOk
    (r.1, r.2.1)

/- Make `t` the live task with pid `pid`. -/
def Kernel.addTask
    (kern : Kernel)
    (pid : Nat)
    (t : Task) : Kernel :=
  { kern with tasks := Function.update kern.tasks pid (some t) }

/-
  `copy_process` from the kv hunk on: after the hunk,
  `p->tgid` is the creator's for `CLONE_THREAD` and the
  child's own pid otherwise, and the child becomes a live
  task only when no later exit is taken.  The creator must be
  live and the child's pid unused.
-/
def copyProcess
    (kern : Kernel)
    (parent child : Nat)
    (cloneThread allocOk : Bool)
    (outcome : ForkOutcome) : Option Kernel :=
  match kern.tasks parent, kern.tasks child with
  | some cur, none =>
      let hunk := kvHunk kern cur cloneThread allocOk
      let tgid := if cloneThread then cur.tgid else child
      match outcome with
      | .ok => some (hunk.1.addTask child ⟨tgid, hunk.2⟩)
      | _ => some hunk.1
  | _, _ => none

/-
  `write_kv` issued by task `pid`: the body runs on the store
  `current->kv` points to.  A call from a task with a NULL
  `kv` dereferences NULL and never returns.
-/
def sysWriteKv
    (kern : Kernel)
    (pid : Nat)
    (k v : Int32)
    (allocOk : Bool) : Option (Kernel × Int) :=
  match kern.tasks pid with
  | some ⟨_, some addr⟩ =>
      let r := writeKv (kern.heap addr) k v allocOk
      some ({ kern with
        heap := Function.update kern.heap addr r.1 }, r.2)
  | _ => none

/- `read_kv` issued by task `pid`, on the store `current->kv` points to. -/
def sysReadKv
    (kern : Kernel)
    (pid : Nat)
    (k : Int32) : Option Int :=
  match kern.tasks pid with
  | some ⟨_, some addr⟩ => some (readKv (kern.heap addr) k)
  | _ => none

/- The events of a run: task creations and the two system calls. -/
inductive Event
  | clone (parent child : Nat) (cloneThread allocOk : Bool)
      (outcome : ForkOutcome)
  | writeKv (pid : Nat) (k v : Int32) (allocOk : Bool)
  | readKv (pid : Nat) (k : Int32)

/- Every allocation an event makes succeeds. -/
def Event.AllocOk : Event → Prop
  | .clone _ _ _ allocOk _ => allocOk = true
  | .writeKv _ _ _ allocOk => allocOk = true
  | .readKv _ _ => True

instance : DecidablePred Event.AllocOk
  | .clone _ _ _ allocOk _ => inferInstanceAs (Decidable (allocOk = true))
  | .writeKv _ _ _ allocOk => inferInstanceAs (Decidable (allocOk = true))
  | .readKv _ _ => inferInstanceAs (Decidable True)

/- One event; reads leave the state as it is. -/
def Kernel.step
    (kern : Kernel) : Event → Option Kernel
  | .clone parent child cloneThread allocOk outcome =>
      copyProcess kern parent child cloneThread allocOk outcome
  | .writeKv pid k v allocOk =>
      (sysWriteKv kern pid k v allocOk).map Prod.fst
  | .readKv pid k =>
      (sysReadKv kern pid k).map (fun _ => kern)

/- The boot state: `init` (pid 1) leads its group with the store at address 0. -/
def Kernel.boot : Kernel where
  tasks := Function.update (fun _ => none) 1 (some ⟨1, some 0⟩)
  heap := fun _ => KvStore.empty
  brk := 1

end Kv

end OsHomework

------------------------------------------------------------
-- What Each Step Does
------------------------------------------------------------

namespace OsHomework

namespace Kv

variable {kern kern' : Kernel}

@[simp]
theorem Kernel.addTask_heap
    (kern : Kernel)
    (pid : Nat)
    (t : Task) :
    (kern.addTask pid t).heap = kern.heap := rfl

@[simp]
theorem Kernel.addTask_brk
    (kern : Kernel)
    (pid : Nat)
    (t : Task) :
    (kern.addTask pid t).brk = kern.brk := rfl

/- The live tasks after adding one: the new task, or an old one under another pid. -/
theorem Kernel.addTask_tasks_eq_some
    {kern : Kernel}
    {pid p : Nat}
    {t tp : Task} :
    (kern.addTask pid t).tasks p = some tp ↔
      (p = pid ∧ tp = t) ∨ (p ≠ pid ∧ kern.tasks p = some tp) := by
  by_cases hp : p = pid
  · subst hp
    simp [Kernel.addTask, eq_comm]
  · simp [Kernel.addTask, hp]

/- The kv hunk creates no task. -/
@[simp]
theorem kvHunk_tasks
    (kern : Kernel)
    (cur : Task)
    (cloneThread allocOk : Bool) :
    (kvHunk kern cur cloneThread allocOk).1.tasks = kern.tasks := by
  unfold kvHunk initTaskKvStore
  cases cloneThread <;> cases allocOk <;> rfl

/- The child's `kv` after the hunk. -/
theorem kvHunk_kv
    (kern : Kernel)
    (cur : Task)
    (cloneThread allocOk : Bool) :
    (kvHunk kern cur cloneThread allocOk).2 =
      if cloneThread then cur.kv
      else if allocOk then some kern.brk else none := by
  unfold kvHunk initTaskKvStore
  cases cloneThread <;> cases allocOk <;> rfl

/- The hunk allocates at most the one fresh address `brk`. -/
theorem kvHunk_brk
    (kern : Kernel)
    (cur : Task)
    (cloneThread allocOk : Bool) :
    (kvHunk kern cur cloneThread allocOk).1.brk =
      if !cloneThread && allocOk then kern.brk + 1
      else kern.brk := by
  unfold kvHunk initTaskKvStore
  cases cloneThread <;> cases allocOk <;> rfl

/- The hunk leaves every store object below `brk` as it was. -/
theorem kvHunk_heap_of_lt
    (kern : Kernel)
    (cur : Task)
    (cloneThread allocOk : Bool)
    {addr : Nat}
    (hAddr : addr < kern.brk) :
    (kvHunk kern cur cloneThread allocOk).1.heap addr =
      kern.heap addr := by
  have hNe : addr ≠ kern.brk := Nat.ne_of_lt hAddr
  unfold kvHunk initTaskKvStore
  cases cloneThread <;> cases allocOk <;> simp [hNe]

/- The store a new process gets is empty. -/
theorem kvHunk_heap_brk
    (kern : Kernel)
    (cur : Task) :
    (kvHunk kern cur false true).1.heap kern.brk =
      KvStore.empty := by
  simp [kvHunk, initTaskKvStore]

/-
  Everything `copy_process` can do: the creator is live, the
  child's pid is unused, the hunk runs, and the child is added
  exactly when the run reaches the end.
-/
theorem copyProcess_eq_some
    {parent child : Nat}
    {cloneThread allocOk : Bool}
    {outcome : ForkOutcome}
    (hFork :
      copyProcess kern parent child cloneThread allocOk outcome =
        some kern') :
    ∃ cur, kern.tasks parent = some cur ∧ kern.tasks child = none ∧
      kern' =
        if outcome = .ok then
          (kvHunk kern cur cloneThread allocOk).1.addTask child
            ⟨if cloneThread then cur.tgid else child,
              (kvHunk kern cur cloneThread allocOk).2⟩
        else (kvHunk kern cur cloneThread allocOk).1 := by
  unfold copyProcess at hFork
  cases hParent : kern.tasks parent with
  | none => simp [hParent] at hFork
  | some cur =>
      cases hChild : kern.tasks child with
      | some _ => simp [hParent, hChild] at hFork
      | none =>
          refine ⟨cur, rfl, rfl, ?_⟩
          simp only [hParent, hChild] at hFork
          cases outcome <;> simp_all

/- Everything a `write_kv` call can do. -/
theorem sysWriteKv_eq_some
    {pid : Nat}
    {k v : Int32}
    {allocOk : Bool}
    {r : Int}
    (hWrite : sysWriteKv kern pid k v allocOk = some (kern', r)) :
    ∃ tgid addr, kern.tasks pid = some ⟨tgid, some addr⟩ ∧
      kern' = { kern with
        heap := Function.update kern.heap addr
          (writeKv (kern.heap addr) k v allocOk).1 } ∧
      r = (writeKv (kern.heap addr) k v allocOk).2 := by
  unfold sysWriteKv at hWrite
  rcases hTask : kern.tasks pid with _ | ⟨tgid, _ | addr⟩ <;>
    simp only [hTask] at hWrite
  · exact absurd hWrite (by simp)
  · exact absurd hWrite (by simp)
  · simp only [Option.some.injEq, Prod.mk.injEq] at hWrite
    exact ⟨tgid, addr, rfl, hWrite.1.symm, hWrite.2.symm⟩

/- A read succeeds exactly for a live task with a non-NULL `kv`. -/
theorem sysReadKv_eq
    {pid tgid addr : Nat}
    (hTask : kern.tasks pid = some ⟨tgid, some addr⟩)
    (k : Int32) :
    sysReadKv kern pid k = some (readKv (kern.heap addr) k) := by
  simp [sysReadKv, hTask]

end Kv

end OsHomework

------------------------------------------------------------
-- The Sharing Invariant
------------------------------------------------------------

namespace OsHomework

namespace Kv

variable {kern kern' : Kernel}

/-
  How stores are shared in every reachable state: each task's
  group leader is live, every `kv` pointer is an allocated
  address, tasks of one thread group hold the same `kv`, and
  two tasks that hold the same store are in one group.
-/
structure KernelInv (kern : Kernel) : Prop where
  leader_live :
    ∀ pid t, kern.tasks pid = some t →
      ∃ leader, kern.tasks t.tgid = some leader
  kv_lt_brk :
    ∀ pid t addr, kern.tasks pid = some t → t.kv = some addr →
      addr < kern.brk
  kv_eq_of_tgid_eq :
    ∀ p q tp tq, kern.tasks p = some tp → kern.tasks q = some tq →
      tp.tgid = tq.tgid → tp.kv = tq.kv
  tgid_eq_of_kv_eq :
    ∀ p q tp tq addr, kern.tasks p = some tp →
      kern.tasks q = some tq → tp.kv = some addr →
        tq.kv = some addr → tp.tgid = tq.tgid

theorem KernelInv.boot :
    KernelInv Kernel.boot := by
  constructor
  · intro pid t hTask
    by_cases hPid : pid = 1
    · subst hPid
      simp only [Kernel.boot, Function.update_self,
        Option.some.injEq] at hTask
      subst hTask
      exact ⟨⟨1, some 0⟩, by simp [Kernel.boot]⟩
    · simp [Kernel.boot, hPid] at hTask
  · intro pid t addr hTask hKv
    by_cases hPid : pid = 1
    · subst hPid
      simp only [Kernel.boot, Function.update_self,
        Option.some.injEq] at hTask
      subst hTask
      simp only [Option.some.injEq] at hKv
      simp [Kernel.boot, ← hKv]
    · simp [Kernel.boot, hPid] at hTask
  · intro p q tp tq hp hq _
    have hTp := hp
    have hTq := hq
    by_cases hP : p = 1 <;> by_cases hQ : q = 1 <;>
      simp_all [Kernel.boot]
  · intro p q tp tq addr hp hq _ _
    by_cases hP : p = 1 <;> by_cases hQ : q = 1 <;>
      simp_all [Kernel.boot]

/-
  A step that only re-uses task records already present,
  keeps every live pid live and never lowers `brk` keeps the
  invariant: every field of the invariant is about records.
-/
theorem KernelInv.of_records
    (hInv : KernelInv kern)
    (hRecords :
      ∀ p tp, kern'.tasks p = some tp →
        ∃ p₀, kern.tasks p₀ = some tp)
    (hLive :
      ∀ p t, kern.tasks p = some t →
        ∃ t', kern'.tasks p = some t')
    (hBrk : kern.brk ≤ kern'.brk) :
    KernelInv kern' := by
  constructor
  · intro pid t hTask
    rcases hRecords pid t hTask with ⟨p₀, hOld⟩
    rcases hInv.leader_live p₀ t hOld with ⟨leader, hLeader⟩
    exact hLive _ _ hLeader
  · intro pid t addr hTask hKv
    rcases hRecords pid t hTask with ⟨p₀, hOld⟩
    exact Nat.lt_of_lt_of_le (hInv.kv_lt_brk p₀ t addr hOld hKv) hBrk
  · intro p q tp tq hp hq hTgid
    rcases hRecords p tp hp with ⟨p₀, hp₀⟩
    rcases hRecords q tq hq with ⟨q₀, hq₀⟩
    exact hInv.kv_eq_of_tgid_eq p₀ q₀ tp tq hp₀ hq₀ hTgid
  · intro p q tp tq addr hp hq hKp hKq
    rcases hRecords p tp hp with ⟨p₀, hp₀⟩
    rcases hRecords q tq hq with ⟨q₀, hq₀⟩
    exact hInv.tgid_eq_of_kv_eq p₀ q₀ tp tq addr hp₀ hq₀ hKp hKq

/- A step that leaves the tasks alone and never lowers `brk` keeps the invariant. -/
theorem KernelInv.of_tasks_eq
    (hInv : KernelInv kern)
    (hTasks : kern'.tasks = kern.tasks)
    (hBrk : kern.brk ≤ kern'.brk) :
    KernelInv kern' := by
  apply hInv.of_records _ _ hBrk
  · intro p tp hp
    exact ⟨p, hTasks ▸ hp⟩
  · intro p t hp
    exact ⟨t, hTasks ▸ hp⟩

/- A new thread copies its creator's record, so the invariant stays. -/
theorem KernelInv.addTask_twin
    (hInv : KernelInv kern)
    {parent child : Nat}
    {cur : Task}
    (hParent : kern.tasks parent = some cur) :
    KernelInv (kern.addTask child cur) := by
  apply hInv.of_records
  · intro p tp hp
    rcases Kernel.addTask_tasks_eq_some.mp hp with
      ⟨_, rfl⟩ | ⟨_, hOld⟩
    · exact ⟨parent, hParent⟩
    · exact ⟨p, hOld⟩
  · intro p t hp
    by_cases hP : p = child
    · exact ⟨cur, Kernel.addTask_tasks_eq_some.mpr (.inl ⟨hP, rfl⟩)⟩
    · exact ⟨t, Kernel.addTask_tasks_eq_some.mpr (.inr ⟨hP, hp⟩)⟩
  · exact Nat.le_refl _

/-
  A new process leads its own group under an unused pid, and
  its store, if any, is one no live task holds: the invariant
  stays.
-/
theorem KernelInv.addTask_leader
    (hInv : KernelInv kern)
    {child : Nat}
    {kv : Option Nat}
    (hChild : kern.tasks child = none)
    (hFresh :
      ∀ addr, kv = some addr →
        addr < kern.brk ∧
          ∀ p t, kern.tasks p = some t → t.kv ≠ some addr) :
    KernelInv (kern.addTask child ⟨child, kv⟩) := by
  -- no live task is in the new group: its leader would be live
  have hNoMember :
      ∀ p t, kern.tasks p = some t → t.tgid ≠ child := by
    intro p t hp hTgid
    rcases hInv.leader_live p t hp with ⟨leader, hLeader⟩
    rw [hTgid, hChild] at hLeader
    simp at hLeader
  constructor
  · intro pid t hTask
    rcases Kernel.addTask_tasks_eq_some.mp hTask with
      ⟨_, rfl⟩ | ⟨_, hOld⟩
    · exact ⟨_, Kernel.addTask_tasks_eq_some.mpr (.inl ⟨rfl, rfl⟩)⟩
    · rcases hInv.leader_live pid t hOld with ⟨leader, hLeader⟩
      exact ⟨leader, Kernel.addTask_tasks_eq_some.mpr
        (.inr ⟨hNoMember pid t hOld, hLeader⟩)⟩
  · intro pid t addr hTask hKv
    rcases Kernel.addTask_tasks_eq_some.mp hTask with
      ⟨_, rfl⟩ | ⟨_, hOld⟩
    · exact (hFresh addr hKv).1
    · exact hInv.kv_lt_brk pid t addr hOld hKv
  · intro p q tp tq hp hq hTgid
    rcases Kernel.addTask_tasks_eq_some.mp hp with
      ⟨_, rfl⟩ | ⟨_, hpOld⟩ <;>
    rcases Kernel.addTask_tasks_eq_some.mp hq with
      ⟨_, rfl⟩ | ⟨_, hqOld⟩
    · rfl
    · exact absurd hTgid.symm (hNoMember q tq hqOld)
    · exact absurd hTgid (hNoMember p tp hpOld)
    · exact hInv.kv_eq_of_tgid_eq p q tp tq hpOld hqOld hTgid
  · intro p q tp tq addr hp hq hKp hKq
    rcases Kernel.addTask_tasks_eq_some.mp hp with
      ⟨_, rfl⟩ | ⟨_, hpOld⟩ <;>
    rcases Kernel.addTask_tasks_eq_some.mp hq with
      ⟨_, rfl⟩ | ⟨_, hqOld⟩
    · rfl
    · exact absurd hKq ((hFresh addr hKp).2 q tq hqOld)
    · exact absurd hKp ((hFresh addr hKq).2 p tp hpOld)
    · exact hInv.tgid_eq_of_kv_eq p q tp tq addr hpOld hqOld hKp hKq

/- The hunk and the rest of `copy_process` keep the invariant. -/
theorem KernelInv.copyProcess
    (hInv : KernelInv kern)
    {parent child : Nat}
    {cloneThread allocOk : Bool}
    {outcome : ForkOutcome}
    (hFork :
      copyProcess kern parent child cloneThread allocOk outcome =
        some kern') :
    KernelInv kern' := by
  rcases copyProcess_eq_some hFork with ⟨cur, hParent, hChild, rfl⟩
  have hHunk : KernelInv (kvHunk kern cur cloneThread allocOk).1 := by
    apply hInv.of_tasks_eq (kvHunk_tasks _ _ _ _)
    rw [kvHunk_brk]
    split <;> omega
  by_cases hOk : outcome = .ok
  · rw [if_pos hOk]
    cases cloneThread with
    | true =>
        -- a new thread: the child's record is the creator's
        have hRecord :
            (⟨cur.tgid, (kvHunk kern cur true allocOk).2⟩ : Task) =
              cur := by
          rw [kvHunk_kv]
          rfl
        rw [if_pos rfl, hRecord]
        exact hHunk.addTask_twin (by rw [kvHunk_tasks]; exact hParent)
    | false =>
        -- a new process: its store is the fresh address `brk`
        rw [if_neg (by decide)]
        apply hHunk.addTask_leader (by rw [kvHunk_tasks]; exact hChild)
        intro addr hKv
        rw [kvHunk_kv] at hKv
        cases allocOk with
        | false => simp at hKv
        | true =>
            simp only [Bool.false_eq_true, if_false, if_true,
              Option.some.injEq] at hKv
            subst hKv
            refine ⟨by rw [kvHunk_brk]; simp, ?_⟩
            intro p t hp hKv
            rw [kvHunk_tasks] at hp
            exact Nat.lt_irrefl _ (hInv.kv_lt_brk p t _ hp hKv)
  · rw [if_neg hOk]
    exact hHunk

/- Every event keeps the invariant. -/
theorem KernelInv.step
    (hInv : KernelInv kern)
    {e : Event}
    (hStep : kern.step e = some kern') :
    KernelInv kern' := by
  cases e with
  | clone parent child cloneThread allocOk outcome =>
      exact hInv.copyProcess hStep
  | writeKv pid k v allocOk =>
      rcases hWrite : sysWriteKv kern pid k v allocOk with _ | ⟨kern₁, r⟩
      · simp [Kernel.step, hWrite] at hStep
      · simp only [Kernel.step, hWrite, Option.map_some,
          Option.some.injEq] at hStep
        subst hStep
        rcases sysWriteKv_eq_some hWrite with ⟨_, _, _, rfl, _⟩
        exact hInv.of_tasks_eq rfl (Nat.le_refl _)
  | readKv pid k =>
      cases hRead : sysReadKv kern pid k with
      | none => simp [Kernel.step, hRead] at hStep
      | some _ =>
          simp only [Kernel.step, hRead, Option.map_some,
            Option.some.injEq] at hStep
          exact hStep ▸ hInv

/- The invariant holds in every reachable state. -/
theorem KernelInv.reachable
    (hReach : Machine.Reachable Kernel.step Kernel.boot kern) :
    KernelInv kern :=
  Machine.Reachable.invariant KernelInv KernelInv.boot
    (fun _ _ _ hInv hStep => hInv.step hStep) hReach

end Kv

end OsHomework

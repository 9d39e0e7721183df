import OsHomework.KvStore.Kernel

/-
  The reference-counted variant of the kv store in
  `syscall/kv_syscall/kv_store.patch`.

  The store object gains `ref_cnt`.  `copy_process` shares the
  creator's store and increments its count for `CLONE_THREAD`,
  and calls `init_kv_store` (count 1) otherwise; `do_exit`
  calls `cleanup_kv_store`, which decrements the count and
  frees the object, nodes and all, when it reaches zero.  The
  failure exits of `copy_process` after the hunk free the new
  task without touching its store.

  Live tasks are the kernel's task list, so that the number of
  tasks holding a store can be counted.  A freed object is
  `none` in the heap.

  Main declarations:
    * `RcStore`, `RcKernel`, `RcEvent`, `RcKernel.step`
    * `initKvStore`, `refcountInc`, `refcountDecAndTest`,
      `cleanupKvStore`, `copyProcessRc`, `doExit`
    * `RcKernel.liveSharers`
    * `cleanup_kv_store_misses_failed_clone`
-/

------------------------------------------------------------
-- Counted Stores
------------------------------------------------------------

namespace OsHomework

namespace Kv

/- The patched `kv` object: the chains and `ref_cnt`. -/
structure RcStore where
  store : KvStore
  refCnt : Nat

/- The task list, the kv objects by address (`none` once freed), the next address. -/
structure RcKernel where
  tasks : List (Nat × Task)
  heap : Nat → Option RcStore
  brk : Nat

/- The live task with pid `pid`. -/
def RcKernel.find
    (kern : RcKernel)
    (pid : Nat) : Option Task :=
  kern.tasks.lookup pid

/- A pid the allocator can hand out: neither a live task nor a live group's id. -/
def RcKernel.PidFree
    (kern : RcKernel)
    (pid : Nat) : Prop :=
  ∀ e ∈ kern.tasks, e.1 ≠ pid ∧ e.2.tgid ≠ pid

instance
    (kern : RcKernel)
    (pid : Nat) :
    Decidable (kern.PidFree pid) :=
  inferInstanceAs (Decidable (∀ e ∈ kern.tasks, e.1 ≠ pid ∧ e.2.tgid ≠ pid))

/- The number of live tasks whose `kv` points to `addr`. -/
def RcKernel.liveSharers
    (kern : RcKernel)
    (addr : Nat) : Nat :=
  (kern.tasks.filter (fun e => decide (e.2.kv = some addr))).length

/- Replace the object at `addr`. -/
def RcKernel.setObj
    (kern : RcKernel)
    (addr : Nat)
    (obj : Option RcStore) : RcKernel :=
  { kern with heap := Function.update kern.heap addr obj }

/-
  `init_kv_store`: `kmalloc` the object, set `ref_cnt` to 1 and
  empty the chains; on failure the task's `kv` stays NULL.
-/
def initKvStore
    (kern : RcKernel)
    (allocOk : Bool) : RcKernel × Option Nat :=
  if allocOk then
    ({ kern with
        heap := Function.update kern.heap kern.brk
          (some ⟨KvStore.empty, 1⟩)
        brk := kern.brk + 1 },
      some kern.brk)
  else (kern, none)

/-
  `refcount_inc(&p->kv->ref_cnt)`.  A NULL `kv` or a freed
  object is a bad dereference and the call does not return.
-/
def refcountInc
    (kern : RcKernel)
    (kv : Option Nat) : Option RcKernel :=
  match kv with
  | some addr =>
      match kern.heap addr with
      | some obj => some (kern.setObj addr (some { obj with refCnt := obj.refCnt + 1 }))
      | none => none
  | none => none

/-
  `refcount_dec_and_test`: the new count and whether it reached
  zero.  Decrementing a zero count saturates and reports false.
-/
def refcountDecAndTest
    (n : Nat) : Nat × Bool :=
  if n = 1 then (0, true) else (n - 1, false)

/-
  `cleanup_kv_store(task)` from `do_exit`: nothing for a NULL
  `kv`; otherwise drop one reference, and when it was the last
  one empty every chain, `kfree` the object and set the task's
  `kv` to NULL.  The freed object, nodes and all, is `none`.
-/
def cleanupKvStore
    (kern : RcKernel)
    (t : Task) : Option (RcKernel × Task) :=
  match t.kv with
  | none => some (kern, t)
  | some addr =>
      match kern.heap addr with
      | none => none
      | some obj =>
          let r := refcountDecAndTest obj.refCnt
          if r.2 then
            some (kern.setObj addr none, { t with kv := none })
          else
            some (kern.setObj addr (some { obj with refCnt := r.1 }), t)

end Kv

end OsHomework

------------------------------------------------------------
-- Task Creation, Exit and the System Calls
------------------------------------------------------------

namespace OsHomework

namespace Kv

/-
  The patched kv hunk of `copy_process`: share and count the
  creator's store for `CLONE_THREAD`, else `init_kv_store`.
  The result is the kernel after it and the child's `kv`.
-/
def kvHunkRc
    (kern : RcKernel)
    (cur : Task)
    (cloneThread allocOk : Bool) : Option (RcKernel × Option Nat) :=
  if cloneThread then
    (refcountInc kern cur.kv).map (fun kern' => (kern', cur.kv))
  else some (initKvStore kern allocOk)

/-
  `copy_process` from the patched hunk on.  The child is added
  to the task list only when no later exit is taken; the exits
  after the hunk neither drop the reference it took nor free
  the store it allocated.
-/
def copyProcessRc
    (kern : RcKernel)
    (parent child : Nat)
    (cloneThread allocOk : Bool)
    (outcome : ForkOutcome) : Option RcKernel :=
  match kern.find parent with
  | some cur =>
      if kern.PidFree child then
        (kvHunkRc kern cur cloneThread allocOk).map fun hunk =>
          let tgid := if cloneThread then cur.tgid else child
          match outcome with
          | .ok =>
              { hunk.1 with
                tasks := hunk.1.tasks ++ [(child, ⟨tgid, hunk.2⟩)] }
          | _ => hunk.1
      else none
  | none => none

/- `do_exit` of task `pid`: `cleanup_kv_store`, then the task leaves the list. -/
def doExit
    (kern : RcKernel)
    (pid : Nat) : Option RcKernel :=
  match kern.find pid with
  | some t =>
      (cleanupKvStore kern t).map fun r =>
        { r.1 with tasks := r.1.tasks.filter (fun e => e.1 != pid) }
  | none => none

/-
  `write_kv` (`kv_store_write`) by task `pid` on its object.  A
  NULL `kv` or a freed object is a bad dereference.
-/
def sysWriteKvRc
    (kern : RcKernel)
    (pid : Nat)
    (k v : Int32)
    (allocOk : Bool) : Option (RcKernel × Int) :=
  match kern.find pid with
  | some ⟨_, some addr⟩ =>
      match kern.heap addr with
      | some obj =>
          let r := writeKv obj.store k v allocOk
          some (kern.setObj addr (some { obj with store := r.1 }), r.2)
      | none => none
  | _ => none

/- `read_kv` (`kv_store_read`) by task `pid` on its object. -/
def sysReadKvRc
    (kern : RcKernel)
    (pid : Nat)
    (k : Int32) : Option Int :=
  match kern.find pid with
  | some ⟨_, some addr⟩ => (kern.heap addr).map (fun obj => readKv obj.store k)
  | _ => none

/- The events of a run of the patched kernel. -/
inductive RcEvent
  | clone (parent child : Nat) (cloneThread allocOk : Bool)
      (outcome : ForkOutcome)
  | exit (pid : Nat)
  | writeKv (pid : Nat) (k v : Int32) (allocOk : Bool)
  | readKv (pid : Nat) (k : Int32)

/- One event of the patched kernel. -/
def RcKernel.step
    (kern : RcKernel) : RcEvent → Option RcKernel
  | .clone parent child cloneThread allocOk outcome =>
      copyProcessRc kern parent child cloneThread allocOk outcome
  | .exit pid => doExit kern pid
  | .writeKv pid k v allocOk =>
      (sysWriteKvRc kern pid k v allocOk).map Prod.fst
  | .readKv pid k =>
      (sysReadKvRc kern pid k).map (fun _ => kern)

/- The boot state: `init` (pid 1) holds the one reference to the object at 0. -/
def RcKernel.boot : RcKernel where
  tasks := [(1, ⟨1, some 0⟩)]
  heap := Function.update (fun _ => none) 0 (some ⟨KvStore.empty, 1⟩)
  brk := 1

end Kv

end OsHomework

------------------------------------------------------------
-- The Count Leaks on the Failure Exits
------------------------------------------------------------

namespace OsHomework

namespace Kv

/- A thread clone that fails at `cgroup_can_fork`, then `init` exits. -/
def failedThreadClone : List RcEvent :=
  [.clone 1 2 true true .cgroupCanFork, .exit 1]

/-
  After the failed clone the store `init` holds counts two
  references for one live holder; when `init` exits, the last
  holder is gone but the object stays allocated with a count
  of one.  A process whose `init_kv_store` allocation fails
  lives on with a NULL `kv`.
-/
theorem cleanup_kv_store_misses_failed_clone :
    (Machine.run RcKernel.step RcKernel.boot
        (failedThreadClone.take 1)).map
      (fun kern => (kern.liveSharers 0, (kern.heap 0).map RcStore.refCnt)) =
      some (1, some 2) ∧
    (Machine.run RcKernel.step RcKernel.boot failedThreadClone).map
      (fun kern => (kern.liveSharers 0, (kern.heap 0).map RcStore.refCnt)) =
      some (0, some 1) ∧
    (Machine.run RcKernel.step RcKernel.boot
        [.clone 1 2 false false .ok]).map
      (fun kern => (kern.find 2).map Task.kv) =
      some (some none) := by
  refine ⟨rfl, rfl, rfl⟩

end Kv

end OsHomework

import OsHomework.KvStore.Kernel
import Mathlib

/-
  The shape of the chains of `kernel/kv_store.c`: every node
  sits in the bucket of its key, no bucket holds a key twice,
  and so the store has one node for each key a `write_kv` has
  stored; `cleanup_task_kv_store` empties every chain.

  Each `write_kv` walks its key's chain before it adds a node,
  and adds one only when the walk found none, so every write
  keeps the shape (`KvStore.WellFormed.writeKv`).  The calls on
  one store are a run from the empty store
  `init_task_kv_store` leaves; the heap of every reachable
  kernel state holds only well-formed stores.

  Main declarations:
    * `KvStore.WellFormed`, `KvStore.nodes`, `KvStore.keySet`
    * `KvCall`, `kvRun`, `succeededKeys`
    * `cleanupChain`, `cleanupTaskKvStore`
    * `kvRun_wellFormed`, `HeapWellFormed.reachable`
-/

------------------------------------------------------------
-- Well-Formed Stores
------------------------------------------------------------

namespace OsHomework

namespace Kv

open HashChain

/- Each node of `head[i]` has `key & 1023 = i`, and no chain has a key twice. -/
def KvStore.WellFormed
    (kv : KvStore) : Prop :=
  HashChain.WellFormed KvNode.key kvHash kv.head

/- All nodes of the store, chain by chain. -/
def KvStore.nodes
    (kv : KvStore) : List KvNode :=
  entries kv.head

/- The number of nodes the store holds. -/
def KvStore.nodeCount
    (kv : KvStore) : Nat :=
  kv.nodes.length

/- The keys the store holds a node for. -/
def KvStore.keySet
    (kv : KvStore) : Finset Int32 :=
  (kv.nodes.map KvNode.key).toFinset

theorem KvStore.WellFormed.empty :
    KvStore.empty.WellFormed :=
  HashChain.WellFormed.empty

/- In a well-formed store, a key has a node exactly when a read finds it. -/
theorem KvStore.WellFormed.mem_keySet_iff
    {kv : KvStore}
    (hW : kv.WellFormed)
    (k : Int32) :
    k ∈ kv.keySet ↔ (kv.get k).isSome := by
  rw [KvStore.keySet, KvStore.nodes, List.mem_toFinset, HashChain.WellFormed.mem_keys_iff hW,
    KvStore.get, Option.isSome_map]

/- A well-formed store has one node per key it holds. -/
theorem KvStore.WellFormed.nodeCount_eq
    {kv : KvStore}
    (hW : kv.WellFormed) :
    kv.nodeCount = kv.keySet.card := by
  rw [KvStore.keySet, KvStore.nodeCount, KvStore.nodes,
    List.toFinset_card_of_nodup (HashChain.WellFormed.nodup_keys hW), List.length_map]

/-
  `write_kv` keeps the store well formed: an update keeps the
  keys of its chain, and a new node goes to the head of its
  key's bucket only when the walk found no node with the key.
-/
theorem KvStore.WellFormed.writeKv
    {kv : KvStore}
    (hW : kv.WellFormed)
    (k v : Int32)
    (allocOk : Bool) :
    (writeKv kv k v allocOk).1.WellFormed := by
  cases hFound : chainFind KvNode.key (kv.head (kvHash k)) k with
  | some _ =>
      simp only [Kv.writeKv, hFound]
      exact HashChain.WellFormed.setChain_updateFirst hW (kvHash k) k (fun _ => rfl)
  | none =>
      cases allocOk with
      | true =>
          simp only [Kv.writeKv, hFound, if_true]
          exact HashChain.WellFormed.setChain_cons (e := ⟨k, v⟩) hW
            (chainFind_eq_none_iff.1 hFound)
      | false =>
          simp only [Kv.writeKv, hFound]
          exact hW

/- A write that returns `sizeof(int)` adds its key; any other leaves the keys. -/
theorem KvStore.WellFormed.keySet_writeKv
    {kv : KvStore}
    (hW : kv.WellFormed)
    (k v : Int32)
    (allocOk : Bool) :
    (Kv.writeKv kv k v allocOk).1.keySet =
      if (Kv.writeKv kv k v allocOk).2 = sizeofInt then insert k kv.keySet else kv.keySet := by
  have hW' := hW.writeKv k v allocOk
  rcases writeKv_cases kv k v allocOk with ⟨hRet, hGet⟩ | ⟨hRet, hSame, -, -⟩
  · -- the key now maps to `v`, and every other key reads as before
    rw [if_pos hRet]
    ext k'
    rw [hW'.mem_keySet_iff, Finset.mem_insert, hW.mem_keySet_iff, hGet k']
    by_cases hKey : k' = k <;> simp [hKey]
  · have hNe : (Kv.writeKv kv k v allocOk).2 ≠ sizeofInt := by
      rw [hRet]
      decide
    rw [if_neg hNe, hSame]

end Kv

end OsHomework

------------------------------------------------------------
-- Runs of Calls on One Store
------------------------------------------------------------

namespace OsHomework

namespace Kv

/- A call on the store: `write_kv(k, v)` with its `kmalloc` outcome, or `read_kv(k)`. -/
inductive KvCall
  | write (k v : Int32) (allocOk : Bool)
  | read (k : Int32)
deriving DecidableEq, Repr

/- The calls in order from `kv`: the store they leave and what each returned. -/
def kvRun : KvStore → List KvCall → KvStore × List Int
  | kv, [] => (kv, [])
  | kv, .write k v allocOk :: calls =>
      let r := writeKv kv k v allocOk
      let rest := kvRun r.1 calls
      (rest.1, r.2 :: rest.2)
  | kv, .read k :: calls =>
      let rest := kvRun kv calls
      (rest.1, readKv kv k :: rest.2)

/- The keys of the writes that returned `sizeof(int)`. -/
def succeededKeys : List KvCall → List Int → Finset Int32
  | .write k _ _ :: calls, ret :: rets =>
      (if ret = sizeofInt then {k} else ∅) ∪ succeededKeys calls rets
  | .read _ :: calls, _ :: rets => succeededKeys calls rets
  | _, _ => ∅

/-
  A run from a well-formed store stays well formed, and its
  keys are the old ones and those of the writes that
  succeeded.  The induction is on the calls, from any store.
-/
theorem kvRun_wellFormed :
    ∀ (calls : List KvCall) {kv : KvStore}, kv.WellFormed →
      (kvRun kv calls).1.WellFormed ∧
        (kvRun kv calls).1.keySet = kv.keySet ∪ succeededKeys calls (kvRun kv calls).2
  | [], _, hW => ⟨hW, by simp [kvRun, succeededKeys]⟩
  | .write k v allocOk :: calls, kv, hW => by
      have ⟨hEnd, hKeys⟩ := kvRun_wellFormed calls (hW.writeKv k v allocOk)
      refine ⟨hEnd, ?_⟩
      simp only [kvRun, succeededKeys]
      rw [hKeys, hW.keySet_writeKv]
      split_ifs
      · rw [Finset.insert_union, Finset.singleton_union, Finset.union_insert]
      · rw [Finset.empty_union]
  | .read k :: calls, kv, hW => by
      have ⟨hEnd, hKeys⟩ := kvRun_wellFormed calls hW
      exact ⟨hEnd, by simpa only [kvRun, succeededKeys] using hKeys⟩

end Kv

end OsHomework

------------------------------------------------------------
-- Cleanup
------------------------------------------------------------

namespace OsHomework

namespace Kv

open HashChain

/-
  `hlist_for_each_entry_safe` over one chain with
  `hlist_del` and `kfree` on each entry: the safe cursor
  already holds the next node, and deleting the first node
  leaves the chain from that next node.
-/
def cleanupChain : List KvNode → List KvNode
  | [] => []
  | _ :: tmp => cleanupChain tmp

/-
  `cleanup_task_kv_store(task)` on the task's store: nothing
  for a thread that is not its group's leader, otherwise the
  safe delete loop over each of the 1024 chains in turn.
-/
def cleanupTaskKvStore
    (tgid pid : Nat)
    (kv : KvStore) : KvStore :=
  if tgid ≠ pid then kv
  else ⟨(List.finRange 1024).foldl (fun head i => setChain head i (cleanupChain (head i))) kv.head⟩

/- The safe delete loop empties a chain of any length. -/
@[simp] theorem cleanupChain_eq_nil :
    ∀ c : List KvNode, cleanupChain c = []
  | [] => rfl
  | _ :: tmp => cleanupChain_eq_nil tmp

/-
  After the loop has run over the buckets of `is`, each of
  them is empty and every other chain is as it was.
-/
theorem foldl_cleanup_apply :
    ∀ (is : List (Fin 1024)) (head : Table KvNode 1024) (j : Fin 1024),
      (is.foldl (fun head i => setChain head i (cleanupChain (head i))) head) j =
        if j ∈ is then [] else head j
  | [], _, _ => by simp
  | i :: is, head, j => by
      rw [List.foldl_cons, foldl_cleanup_apply is _ j]
      by_cases hj : j = i
      · subst hj
        simp
      · by_cases hIn : j ∈ is
        · simp [hIn]
        · simp [hIn, hj, setChain_of_ne _ _ hj]

/- For a group leader, cleanup leaves all 1024 chains empty. -/
theorem cleanupTaskKvStore_head
    (pid : Nat)
    (kv : KvStore)
    (i : Fin 1024) :
    (cleanupTaskKvStore pid pid kv).head i = [] := by
  simp only [cleanupTaskKvStore, ne_eq, not_true_eq_false, if_false]
  rw [foldl_cleanup_apply, if_pos (List.mem_finRange i)]

/- For any other thread, cleanup leaves the store to the leader. -/
theorem cleanupTaskKvStore_of_ne
    {tgid pid : Nat}
    (hNe : tgid ≠ pid)
    (kv : KvStore) :
    cleanupTaskKvStore tgid pid kv = kv := by
  simp [cleanupTaskKvStore, hNe]

end Kv

end OsHomework

------------------------------------------------------------
-- Every Store the Kernel Holds
------------------------------------------------------------

namespace OsHomework

namespace Kv

/- Every store object of the kernel's heap is well formed. -/
def HeapWellFormed
    (kern : Kernel) : Prop :=
  ∀ addr, (kern.heap addr).WellFormed

theorem HeapWellFormed.boot :
    HeapWellFormed Kernel.boot :=
  fun _ => KvStore.WellFormed.empty

/- The kv hunk only ever adds an empty store. -/
theorem HeapWellFormed.kvHunk
    {kern : Kernel}
    (hW : HeapWellFormed kern)
    (cur : Task)
    (cloneThread allocOk : Bool) :
    HeapWellFormed (kvHunk kern cur cloneThread allocOk).1 := by
  intro addr
  cases cloneThread with
  | true =>
      simp only [Kv.kvHunk, if_true]
      exact hW addr
  | false =>
      cases allocOk with
      | false =>
          simp only [Kv.kvHunk, initTaskKvStore, Bool.false_eq_true, if_false]
          exact hW addr
      | true =>
          -- a new process: `init_task_kv_store` puts an empty store at `brk`
          simp only [Kv.kvHunk, initTaskKvStore, Bool.false_eq_true, if_false, if_true]
          by_cases hAddr : addr = kern.brk
          · rw [hAddr, Function.update_self]
            exact KvStore.WellFormed.empty
          · rw [Function.update_of_ne hAddr]
            exact hW addr

/- Every event keeps the heap well formed. -/
theorem HeapWellFormed.step
    {kern kern' : Kernel}
    (hW : HeapWellFormed kern)
    {e : Event}
    (hStep : kern.step e = some kern') :
    HeapWellFormed kern' := by
  cases e with
  | clone parent child cloneThread allocOk outcome =>
      rcases copyProcess_eq_some hStep with ⟨cur, -, -, hKern'⟩
      -- adding the child's task, or not, leaves the heap of the hunk
      have hHeap : kern'.heap = (Kv.kvHunk kern cur cloneThread allocOk).1.heap := by
        rw [hKern']
        split
        · exact Kernel.addTask_heap _ _ _
        · rfl
      intro addr
      rw [hHeap]
      exact hW.kvHunk cur cloneThread allocOk addr
  | writeKv pid k v allocOk =>
      rcases hWrite : sysWriteKv kern pid k v allocOk with _ | ⟨kern₁, r⟩
      · simp [Kernel.step, hWrite] at hStep
      · simp only [Kernel.step, hWrite, Option.map_some, Option.some.injEq] at hStep
        subst hStep
        rcases sysWriteKv_eq_some hWrite with ⟨_, addr, -, rfl, -⟩
        intro addr'
        by_cases hAddr : addr' = addr
        · subst hAddr
          simp only [Function.update_self]
          exact (hW addr').writeKv k v allocOk
        · simp only [Function.update_of_ne hAddr]
          exact hW addr'
  | readKv pid k =>
      cases hRead : sysReadKv kern pid k with
      | none => simp [Kernel.step, hRead] at hStep
      | some _ =>
          simp only [Kernel.step, hRead, Option.map_some, Option.some.injEq] at hStep
          exact hStep ▸ hW

/- In every reachable kernel state, every store has one node per key it holds. -/
theorem HeapWellFormed.reachable
    {kern : Kernel}
    (hReach : Machine.Reachable Kernel.step Kernel.boot kern)
    (addr : Nat) :
    (kern.heap addr).WellFormed ∧
      (kern.heap addr).nodeCount = (kern.heap addr).keySet.card := by
  have hW : HeapWellFormed kern :=
    Machine.Reachable.invariant HeapWellFormed HeapWellFormed.boot
      (fun _ _ _ hInv hStep => hInv.step hStep) hReach
  exact ⟨hW addr, (hW addr).nodeCount_eq⟩

@[simp] theorem KvStore.keySet_empty :
    KvStore.empty.keySet = ∅ := by
  simp [KvStore.keySet, KvStore.nodes, HashChain.entries, KvStore.empty, HashChain.empty]

/-
  After `init_task_kv_store` and any calls, each node of
  `head[i]` has `key & 1023 = i`, no key has two nodes, the
  store holds one node for each key a write stored, and
  cleanup by the group leader empties all 1024 chains.
-/
theorem kv_store_chains_keep_one_node_per_key
    (calls : List KvCall) :
    let r := kvRun KvStore.empty calls
    (∀ i, ∀ e ∈ r.1.head i, kvHash e.key = i) ∧
      (∀ i, ((r.1.head i).map KvNode.key).Nodup) ∧
      (r.1.nodes.map KvNode.key).Nodup ∧
      r.1.nodeCount = (succeededKeys calls r.2).card ∧
      ∀ pid i, (cleanupTaskKvStore pid pid r.1).head i = [] := by
  intro r
  have ⟨hW, hKeys⟩ := kvRun_wellFormed calls KvStore.WellFormed.empty
  refine ⟨HashChain.WellFormed.bucket_eq hW, HashChain.WellFormed.nodup hW,
    HashChain.WellFormed.nodup_keys hW, ?_, fun pid i => cleanupTaskKvStore_head pid _ i⟩
  rw [hW.nodeCount_eq, hKeys, KvStore.keySet_empty, Finset.empty_union]

/- Keys 1 and 1025 share a bucket; rewriting key 1 adds no node. -/
example :
    (kvRun KvStore.empty [.write 1 10 true, .write 1025 20 true, .write 1 30 false]).1.nodeCount =
      2 := by
  decide +kernel

end Kv

end OsHomework

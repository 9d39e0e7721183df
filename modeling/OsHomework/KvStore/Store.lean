import OsHomework.Lib.HashChain

/-
  The per-thread-group key-value store of
  `kernel/kv_store.c`: the node and store records, the bucket
  index `k & 1023`, and the bodies of the `write_kv` and
  `read_kv` system calls on one store.

  Each system call holds its bucket's spinlock for its whole
  body, so a call is one atomic step on the store and the
  locks are not modelled.  The store's meaning is the partial
  map `KvStore.get`: the value of the first node with the key
  in the key's chain.

  Main declarations:
    * `KvNode`, `KvStore`, `kvHash`
    * `writeKv`, `readKv`
    * `writeKv_cases` (what one write can do)
    * `KvStore.get_writeKv`, `readKv_eq`
-/

------------------------------------------------------------
-- Nodes and Stores
------------------------------------------------------------

namespace OsHomework

namespace Kv

/- `struct kv_node`; its `hlist_node` link is the chain order. -/
structure KvNode where
  key : Int32
  value : Int32
deriving DecidableEq, Repr

/- `struct kv_store`: the heads of the 1024 hash chains. -/
structure KvStore where
  head : HashChain.Table KvNode 1024

/- `unsigned int hash = k & 1023;`, on the two's-complement bits of `k`. -/
def kvHash
    (k : Int32) : Fin 1024 :=
  ⟨(k.toBitVec &&& 1023#32).toNat % 1024,
    Nat.mod_lt _ (by decide)⟩

/- A fresh store as `init_task_kv_store` leaves it: every chain empty. -/
def KvStore.empty : KvStore :=
  ⟨HashChain.empty⟩

/- The map a store stands for: the first node under the key in its chain. -/
def KvStore.get
    (kv : KvStore)
    (k : Int32) : Option Int32 :=
  (HashChain.lookup KvNode.key kvHash kv.head k).map KvNode.value

@[simp]
theorem KvStore.get_empty
    (k : Int32) :
    KvStore.empty.get k = none := rfl

/- The `long` a read returns for a lookup: the value, or -1 when absent. -/
def readRet : Option Int32 → Int
  | some v => v.toInt
  | none => -1

/- `sizeof(int)`, the value a successful `write_kv` returns. -/
def sizeofInt : Int := 4

end Kv

end OsHomework

------------------------------------------------------------
-- The System Call Bodies
------------------------------------------------------------

namespace OsHomework

namespace Kv

open HashChain

/-
  `SYSCALL_DEFINE2(write_kv)` on the caller's store.  The
  chain walk stops at the first node with the key; a found
  node gets the new value, otherwise a new node goes to the
  head of the chain.  `allocOk` is the outcome of `kmalloc`,
  which is only called when the key is absent.  The result is
  the new store and the return value.
-/
def writeKv
    (kv : KvStore)
    (k v : Int32)
    (allocOk : Bool) : KvStore × Int :=
  let hash := kvHash k
  match chainFind KvNode.key (kv.head hash) k with
  | some _ =>
      (⟨setChain kv.head hash
          (updateFirst KvNode.key k
            (fun entry => { entry with value := v })
            (kv.head hash))⟩,
        sizeofInt)
  | none =>
      if allocOk then
        (⟨setChain kv.head hash
            (⟨k, v⟩ :: kv.head hash)⟩,
          sizeofInt)
      else
        -- memory allocation failed: unlock and return -1
        (kv, -1)

/-
  `SYSCALL_DEFINE1(read_kv)` on the caller's store: the value
  of the first node with the key in its chain, as a `long`,
  or -1 when there is none.
-/
def readKv
    (kv : KvStore)
    (k : Int32) : Int :=
  match chainFind KvNode.key (kv.head (kvHash k)) k with
  | some entry => entry.value.toInt
  | none => -1

end Kv

end OsHomework

------------------------------------------------------------
-- Specifications of the Calls
------------------------------------------------------------

namespace OsHomework

namespace Kv

open HashChain

/- A read returns the stored value, or -1 for an absent key. -/
theorem readKv_eq
    (kv : KvStore)
    (k : Int32) :
    readKv kv k = readRet (kv.get k) := by
  unfold readKv KvStore.get lookup
  cases chainFind KvNode.key (kv.head (kvHash k)) k <;> rfl

/-
  Everything one write can do: either it returns
  `sizeof(int)` and the store now maps `k` to `v` and keeps
  every other key, or the key was absent, the allocation
  failed, it returns -1 and the store is unchanged.
-/
theorem writeKv_cases
    (kv : KvStore)
    (k v : Int32)
    (allocOk : Bool) :
    ((writeKv kv k v allocOk).2 = sizeofInt ∧
      ∀ k', (writeKv kv k v allocOk).1.get k' =
        if k' = k then some v else kv.get k') ∨
    ((writeKv kv k v allocOk).2 = -1 ∧
      (writeKv kv k v allocOk).1 = kv ∧
      kv.get k = none ∧ allocOk = false) := by
  have hKeep : ∀ x : KvNode,
      ({ x with value := v } : KvNode).key = x.key :=
    fun _ => rfl
  cases hFound : chainFind KvNode.key (kv.head (kvHash k)) k with
  | some entry =>
      -- the key is present: its first node gets the new value
      left
      refine ⟨by simp [writeKv, hFound], ?_⟩
      intro k'
      simp only [writeKv, hFound, KvStore.get, lookup_setChain]
      by_cases hKey : k' = k
      · subst hKey
        simp [chainFind_updateFirst_self hKeep hFound]
      · by_cases hBucket : kvHash k' = kvHash k
        · simp [hKey, hBucket, lookup,
            chainFind_updateFirst_of_ne hKeep hKey]
        · simp [hKey, hBucket]
  | none =>
      cases allocOk with
      | true =>
          -- the key is absent: a new node at the head of its chain
          left
          refine ⟨by simp [writeKv, hFound], ?_⟩
          intro k'
          simp only [writeKv, hFound, if_true, KvStore.get,
            lookup_setChain]
          by_cases hKey : k' = k
          · subst hKey
            simp
          · have hNe : k ≠ k' := fun h => hKey h.symm
            by_cases hBucket : kvHash k' = kvHash k
            · simp [hKey, hBucket, hNe, lookup]
            · simp [hKey, hBucket]
      | false =>
          right
          refine ⟨by simp [writeKv, hFound],
            by simp [writeKv, hFound], ?_, rfl⟩
          simp [KvStore.get, lookup, hFound]

/- A successful write maps `k` to `v` and keeps every other key. -/
theorem KvStore.get_writeKv
    {kv : KvStore}
    {k v : Int32}
    {allocOk : Bool}
    (hOk : (writeKv kv k v allocOk).2 ≠ -1)
    (k' : Int32) :
    (writeKv kv k v allocOk).1.get k' =
      if k' = k then some v else kv.get k' := by
  rcases writeKv_cases kv k v allocOk with
    ⟨_, hGet⟩ | ⟨hFail, _⟩
  · exact hGet k'
  · exact absurd hFail hOk

/- A write whose allocation succeeds returns `sizeof(int)`. -/
theorem writeKv_ret_of_allocOk
    (kv : KvStore)
    (k v : Int32) :
    (writeKv kv k v true).2 = sizeofInt := by
  rcases writeKv_cases kv k v true with
    ⟨hRet, _⟩ | ⟨_, _, _, hAlloc⟩
  · exact hRet
  · exact absurd hAlloc (by decide)

end Kv

end OsHomework

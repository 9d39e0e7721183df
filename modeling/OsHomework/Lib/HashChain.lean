import Mathlib.Logic.Function.Basic
import Mathlib.Data.List.Basic
import Mathlib.Data.List.Nodup

/-
  Separate-chaining hash tables.

  A table has `n` chains, each a list of entries written
  head first.  An entry carries its key through `key`, and a
  key selects its chain through `bucket`.  A search walks a
  chain from the head and stops at the first entry with the
  key; an insertion puts a new entry at the head; an update
  changes the first entry with the key.

  Main declarations:
    * `HashChain.chainFind`, `HashChain.lookup`
    * `HashChain.updateFirst`, `HashChain.setChain`
    * `HashChain.chainFind_updateFirst_self`,
      `HashChain.chainFind_updateFirst_of_ne`
    * `HashChain.lookup_setChain`
    * `HashChain.WellFormed`, `HashChain.entries`,
      `HashChain.WellFormed.nodup_keys`,
      `HashChain.WellFormed.mem_keys_iff`
-/

------------------------------------------------------------
-- Chains
------------------------------------------------------------

namespace OsHomework

namespace HashChain

variable {K E : Type} [DecidableEq K]

variable (key : E → K)

/- The first entry of a chain whose key is `k`. -/
def chainFind
    (c : List E)
    (k : K) : Option E :=
  c.find? (fun e => decide (key e = k))

@[simp]
theorem chainFind_nil
    (k : K) :
    chainFind key [] k = none := rfl

@[simp]
theorem chainFind_cons
    (e : E)
    (c : List E)
    (k : K) :
    chainFind key (e :: c) k =
      if key e = k then some e else chainFind key c k := by
  by_cases hKey : key e = k
  · simp [chainFind, hKey]
  · simp [chainFind, hKey]

/- Apply `f` to the first entry of a chain whose key is `k`. -/
def updateFirst
    (k : K)
    (f : E → E) : List E → List E
  | [] => []
  | e :: rest =>
      if key e = k then f e :: rest
      else e :: updateFirst k f rest

variable {key}

/-
  Updating the first entry under `k` makes the search for `k`
  find the updated entry, provided the update keeps the key.
-/
theorem chainFind_updateFirst_self
    {c : List E}
    {k : K}
    {f : E → E}
    {e : E}
    (hKeep : ∀ x, key (f x) = key x)
    (hFound : chainFind key c k = some e) :
    chainFind key (updateFirst key k f c) k = some (f e) := by
  induction c with
  | nil => simp at hFound
  | cons x rest ih =>
      by_cases hKey : key x = k
      · have hx : x = e := by
          simpa [hKey] using hFound
        subst hx
        simp [updateFirst, hKey, hKeep]
      · have hRest : chainFind key rest k = some e := by
          simpa [hKey] using hFound
        simp [updateFirst, hKey, ih hRest]

/-
  Updating the first entry under `k` is invisible to a search
  for any other key, provided the update keeps the key.
-/
theorem chainFind_updateFirst_of_ne
    {c : List E}
    {k k' : K}
    {f : E → E}
    (hKeep : ∀ x, key (f x) = key x)
    (hNe : k' ≠ k) :
    chainFind key (updateFirst key k f c) k' =
      chainFind key c k' := by
  induction c with
  | nil => rfl
  | cons x rest ih =>
      by_cases hKey : key x = k
      · have hOther : k ≠ k' := fun h => hNe h.symm
        simp [updateFirst, hKey, hKeep, hOther]
      · simp [updateFirst, hKey, ih]

/- A search finds nothing exactly when no entry has the key. -/
theorem chainFind_eq_none_iff
    {c : List E}
    {k : K} :
    chainFind key c k = none ↔ k ∉ c.map key := by
  simp [chainFind, List.find?_eq_none]

/- What a search finds is an entry of the chain with the key. -/
theorem chainFind_eq_some
    {c : List E}
    {k : K}
    {e : E}
    (h : chainFind key c k = some e) :
    e ∈ c ∧ key e = k := by
  have hKey := List.find?_some h
  exact ⟨List.mem_of_find?_eq_some h, by simpa using hKey⟩

/- An update that keeps keys keeps the chain's keys. -/
theorem map_updateFirst
    {c : List E}
    {k : K}
    {f : E → E}
    (hKeep : ∀ x, key (f x) = key x) :
    (updateFirst key k f c).map key = c.map key := by
  induction c with
  | nil => rfl
  | cons x rest ih =>
      by_cases hKey : key x = k
      · simp [updateFirst, hKey, hKeep]
      · simp [updateFirst, hKey, ih]

/- An entry of an updated chain is an old entry or the update of one. -/
theorem mem_updateFirst
    {c : List E}
    {k : K}
    {f : E → E}
    {x : E}
    (hx : x ∈ updateFirst key k f c) :
    x ∈ c ∨ ∃ y ∈ c, x = f y := by
  induction c with
  | nil => simp [updateFirst] at hx
  | cons y rest ih =>
      by_cases hKey : key y = k
      · simp only [updateFirst, hKey, if_true, List.mem_cons] at hx
        rcases hx with rfl | hx
        · exact .inr ⟨y, List.mem_cons_self .., rfl⟩
        · exact .inl (List.mem_cons_of_mem y hx)
      · simp only [updateFirst, hKey, if_false, List.mem_cons] at hx
        rcases hx with rfl | hx
        · exact .inl (List.mem_cons_self ..)
        · rcases ih hx with hOld | ⟨z, hz, rfl⟩
          · exact .inl (List.mem_cons_of_mem y hOld)
          · exact .inr ⟨z, List.mem_cons_of_mem y hz, rfl⟩

end HashChain

end OsHomework

------------------------------------------------------------
-- Tables
------------------------------------------------------------

namespace OsHomework

namespace HashChain

variable {K E : Type} [DecidableEq K] {n : Nat}

/- A table of `n` chains, each listed head first. -/
abbrev Table (E : Type) (n : Nat) :=
  Fin n → List E

variable (key : E → K) (bucket : K → Fin n)

/- Search the chain a key hashes to. -/
def lookup
    (t : Table E n)
    (k : K) : Option E :=
  chainFind key (t (bucket k)) k

/- Replace chain `i` of a table. -/
def setChain
    (t : Table E n)
    (i : Fin n)
    (c : List E) : Table E n :=
  Function.update t i c

/- The empty table. -/
def empty : Table E n :=
  fun _ => []

@[simp]
theorem lookup_empty
    (k : K) :
    lookup key bucket (empty : Table E n) k = none := rfl

@[simp]
theorem setChain_self
    (t : Table E n)
    (i : Fin n)
    (c : List E) :
    setChain t i c i = c := by
  simp [setChain]

theorem setChain_of_ne
    (t : Table E n)
    {i j : Fin n}
    (c : List E)
    (hNe : j ≠ i) :
    setChain t i c j = t j := by
  simp [setChain, hNe]

/-
  A search after a chain is replaced reads the new chain when
  the key hashes to it and the old table otherwise.
-/
theorem lookup_setChain
    (t : Table E n)
    (i : Fin n)
    (c : List E)
    (k : K) :
    lookup key bucket (setChain t i c) k =
      if bucket k = i then chainFind key c k
      else lookup key bucket t k := by
  by_cases hBucket : bucket k = i
  · simp [lookup, hBucket]
  · simp [lookup, hBucket, setChain_of_ne]

end HashChain

end OsHomework

------------------------------------------------------------
-- Well-Formed Tables
------------------------------------------------------------

namespace OsHomework

namespace HashChain

variable {K E : Type} [DecidableEq K] {n : Nat}

variable (key : E → K) (bucket : K → Fin n)

/- Every entry lies in the chain its key selects, and no chain holds a key twice. -/
structure WellFormed
    (t : Table E n) : Prop where
  bucket_eq : ∀ i, ∀ e ∈ t i, bucket (key e) = i
  nodup : ∀ i, ((t i).map key).Nodup

/- Every entry of the table, chain by chain. -/
def entries
    (t : Table E n) : List E :=
  (List.finRange n).flatMap t

variable {key bucket}

omit [DecidableEq K] in
theorem WellFormed.empty :
    WellFormed key bucket (empty : Table E n) :=
  ⟨fun _ _ he => absurd he List.not_mem_nil, fun _ => List.nodup_nil⟩

theorem mem_entries
    {t : Table E n}
    {e : E} :
    e ∈ entries t ↔ ∃ i, e ∈ t i := by
  simp [entries]

/- Keys are distinct over the whole table: chains of different buckets share no key. -/
omit [DecidableEq K] in
theorem WellFormed.nodup_keys
    {t : Table E n}
    (hW : WellFormed key bucket t) :
    ((entries t).map key).Nodup := by
  rw [entries, List.map_flatMap, List.nodup_flatMap]
  refine ⟨fun i _ => hW.nodup i, ?_⟩
  apply (List.nodup_finRange n).imp
  intro i j hNe
  simp only [Function.onFun]
  rw [List.disjoint_left]
  intro k hi hj
  rcases List.mem_map.1 hi with ⟨e, he, rfl⟩
  rcases List.mem_map.1 hj with ⟨e', he', hKey⟩
  -- both entries hash to the bucket of their common key
  have hBucket := hW.bucket_eq i e he
  rw [← hKey, hW.bucket_eq j e' he'] at hBucket
  exact hNe hBucket.symm

/- In a well-formed table, a key has an entry exactly when the search finds one. -/
theorem WellFormed.mem_keys_iff
    {t : Table E n}
    (hW : WellFormed key bucket t)
    (k : K) :
    k ∈ (entries t).map key ↔ (lookup key bucket t k).isSome := by
  constructor
  · intro hk
    rcases List.mem_map.1 hk with ⟨e, he, rfl⟩
    rcases mem_entries.1 he with ⟨i, hi⟩
    rw [Option.isSome_iff_ne_none, Ne, lookup, chainFind_eq_none_iff, hW.bucket_eq i e hi]
    exact fun hAbsent => hAbsent (List.mem_map_of_mem hi)
  · intro hFound
    rcases Option.isSome_iff_exists.1 hFound with ⟨e, he⟩
    have ⟨hMem, hKey⟩ := chainFind_eq_some he
    exact hKey ▸ List.mem_map_of_mem (mem_entries.2 ⟨_, hMem⟩)

/- Updating the first entry under a key of one chain, keeping keys, keeps the table well formed. -/
theorem WellFormed.setChain_updateFirst
    {t : Table E n}
    (hW : WellFormed key bucket t)
    (i : Fin n)
    (k : K)
    {f : E → E}
    (hKeep : ∀ x, key (f x) = key x) :
    WellFormed key bucket (setChain t i (updateFirst key k f (t i))) := by
  constructor
  · intro j e he
    by_cases hj : j = i
    · subst hj
      rw [setChain_self] at he
      rcases mem_updateFirst he with hOld | ⟨y, hy, rfl⟩
      · exact hW.bucket_eq j e hOld
      · rw [hKeep]
        exact hW.bucket_eq j y hy
    · rw [setChain_of_ne _ _ hj] at he
      exact hW.bucket_eq j e he
  · intro j
    by_cases hj : j = i
    · subst hj
      rw [setChain_self, map_updateFirst hKeep]
      exact hW.nodup j
    · rw [setChain_of_ne _ _ hj]
      exact hW.nodup j

/- A new entry at the head of its own bucket, under a key the chain lacks, keeps the table well formed. -/
omit [DecidableEq K] in
theorem WellFormed.setChain_cons
    {t : Table E n}
    (hW : WellFormed key bucket t)
    {e : E}
    (hFresh : key e ∉ (t (bucket (key e))).map key) :
    WellFormed key bucket (setChain t (bucket (key e)) (e :: t (bucket (key e)))) := by
  constructor
  · intro j x hx
    by_cases hj : j = bucket (key e)
    · subst hj
      rw [setChain_self, List.mem_cons] at hx
      rcases hx with rfl | hOld
      · rfl
      · exact hW.bucket_eq _ x hOld
    · rw [setChain_of_ne _ _ hj] at hx
      exact hW.bucket_eq j x hx
  · intro j
    by_cases hj : j = bucket (key e)
    · subst hj
      rw [setChain_self, List.map_cons, List.nodup_cons]
      exact ⟨hFresh, hW.nodup _⟩
    · rw [setChain_of_ne _ _ hj]
      exact hW.nodup j

end HashChain

end OsHomework

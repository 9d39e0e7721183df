import Mathlib.Data.List.Basic

/-
  Python dictionaries: entries kept in insertion order, each key
  once.  Assigning `d[k] = v` replaces the value of an existing
  key in its place and appends a new key at the end, so
  `d.keys()` lists the keys in the order they were first
  assigned.

  Main declarations:
    * `PyDict`, with its keys distinct by construction
    * `PyDict.get?`, `PyDict.keys`, `PyDict.set`
    * `PyDict.get?_set_self`, `PyDict.get?_set_of_ne`
    * `PyDict.keys_set_of_mem`, `PyDict.keys_set_of_not_mem`
    * `PyDict.countP_filter_fst_ne_add`: removing a key from
      entries with distinct keys
-/

------------------------------------------------------------
-- Entries
------------------------------------------------------------

namespace OsHomework

namespace PyDict

variable {K V : Type} [DecidableEq K]

/- The entries with the value at `k` replaced, the entry keeping its place. -/
def replace
    (k : K)
    (v : V) : List (K × V) → List (K × V)
  | [] => []
  | e :: es => if e.1 = k then (k, v) :: es else e :: replace k v es

theorem map_fst_replace
    (k : K)
    (v : V)
    (es : List (K × V)) :
    (replace k v es).map Prod.fst = es.map Prod.fst := by
  induction es with
  | nil => rfl
  | cons e es ih =>
      by_cases hEq : e.1 = k
      · simp only [replace, hEq, ↓reduceIte, List.map_cons]
      · simp only [replace, if_neg hEq, List.map_cons, ih]

theorem lookup_replace_self
    {k : K}
    (v : V)
    {es : List (K × V)}
    (hMem : k ∈ es.map Prod.fst) :
    (replace k v es).lookup k = some v := by
  induction es with
  | nil => simp at hMem
  | cons e es ih =>
      by_cases hEq : e.1 = k
      · simp [replace, hEq]
      · have hRest : k ∈ es.map Prod.fst := by
          simp only [List.map_cons, List.mem_cons] at hMem
          exact hMem.resolve_left (Ne.symm hEq)
        have hNe : (k == e.1) = false := beq_eq_false_iff_ne.mpr (Ne.symm hEq)
        obtain ⟨a, b⟩ := e
        simp only [replace, if_neg hEq, List.lookup_cons, hNe]
        exact ih hRest

theorem lookup_replace_of_ne
    {k k' : K}
    (v : V)
    (es : List (K × V))
    (hNe : k' ≠ k) :
    (replace k v es).lookup k' = es.lookup k' := by
  induction es with
  | nil => rfl
  | cons e es ih =>
      obtain ⟨a, b⟩ := e
      by_cases hEq : a = k
      · subst hEq
        have hBeq : (k' == a) = false := beq_eq_false_iff_ne.mpr hNe
        simp only [replace, ↓reduceIte, List.lookup_cons, hBeq]
      · simp only [replace, if_neg hEq, List.lookup_cons, ih]

/-
  Dropping every entry with key `k`, from entries whose keys are
  distinct, drops the one entry `lookup` finds: a count over the
  entries loses that entry's share and nothing else.
-/
theorem countP_filter_fst_ne_add
    (p : K × V → Bool)
    {k : K}
    {v : V} :
    ∀ {es : List (K × V)}, (es.map Prod.fst).Nodup → es.lookup k = some v →
      (es.filter (fun e => e.1 != k)).countP p + (if p (k, v) then 1 else 0) = es.countP p
  | [], _, h => by simp at h
  | (a, b) :: es, hNodup, h => by
      simp only [List.map_cons, List.nodup_cons] at hNodup
      by_cases hKey : k = a
      · -- the head is the entry found; no later entry has its key
        subst hKey
        simp only [List.lookup_cons, beq_self_eq_true, Option.some.injEq] at h
        subst h
        have hRest : es.filter (fun e => e.1 != k) = es := by
          refine List.filter_eq_self.mpr fun e he => ?_
          have hNe : e.1 ≠ k := fun hEq => hNodup.1 (hEq ▸ List.mem_map_of_mem he)
          simpa using hNe
        simp only [List.filter_cons, bne_self_eq_false, Bool.false_eq_true, if_false, hRest,
          List.countP_cons]
      · have hNe : (k == a) = false := beq_eq_false_iff_ne.mpr hKey
        simp only [List.lookup_cons, hNe] at h
        have hKept : ((a, b).1 != k) = true := bne_iff_ne.mpr (Ne.symm hKey)
        have ih := countP_filter_fst_ne_add p hNodup.2 h
        rw [List.filter_cons, if_pos hKept, List.countP_cons, List.countP_cons]
        omega

end PyDict

end OsHomework

------------------------------------------------------------
-- Dictionaries
------------------------------------------------------------

namespace OsHomework

/- A Python `dict`: entries in insertion order, keys distinct. -/
structure PyDict
    (K V : Type) where
  entries : List (K × V)
  nodup : (entries.map Prod.fst).Nodup

namespace PyDict

variable {K V : Type} [DecidableEq K]

/- `{}` -/
def empty : PyDict K V :=
  ⟨[], List.nodup_nil⟩

/- `list(d.keys())` -/
def keys
    (d : PyDict K V) : List K :=
  d.entries.map Prod.fst

/- `d.get(k)`, `None` for a missing key. -/
def get?
    (d : PyDict K V)
    (k : K) : Option V :=
  d.entries.lookup k

/- `d[k] = v` -/
def set
    (d : PyDict K V)
    (k : K)
    (v : V) : PyDict K V :=
  if hMem : k ∈ d.keys then
    ⟨replace k v d.entries, by rw [map_fst_replace]; exact d.nodup⟩
  else
    ⟨d.entries ++ [(k, v)], by
      rw [List.map_append, List.nodup_append]
      refine ⟨d.nodup, by simp, ?_⟩
      intro a ha b hb hEq
      simp only [List.map_cons, List.map_nil, List.mem_singleton] at hb
      apply hMem
      rw [← hb, ← hEq]
      exact ha⟩

theorem keys_set_of_mem
    {d : PyDict K V}
    {k : K}
    (v : V)
    (hMem : k ∈ d.keys) :
    (d.set k v).keys = d.keys := by
  rw [set, dif_pos hMem]
  exact map_fst_replace k v d.entries

theorem keys_set_of_not_mem
    {d : PyDict K V}
    {k : K}
    (v : V)
    (hMem : k ∉ d.keys) :
    (d.set k v).keys = d.keys ++ [k] := by
  rw [set, dif_neg hMem]
  simp only [keys, List.map_append, List.map_cons, List.map_nil]

theorem get?_eq_none_iff
    (d : PyDict K V)
    (k : K) :
    d.get? k = none ↔ k ∉ d.keys := by
  simp only [get?, keys, List.lookup_eq_none_iff, List.mem_map, not_exists,
    not_and]
  constructor
  · intro h e he hk
    have := h e he
    simp [hk] at this
  · intro h e he
    have hNe : e.1 ≠ k := fun hk => h e he hk
    simpa using Ne.symm hNe

theorem mem_keys_iff
    (d : PyDict K V)
    (k : K) :
    k ∈ d.keys ↔ ∃ v, d.get? k = some v := by
  rw [← Option.isSome_iff_exists, Option.isSome_iff_ne_none, ne_eq,
    get?_eq_none_iff, not_not]

theorem get?_set_self
    (d : PyDict K V)
    (k : K)
    (v : V) :
    (d.set k v).get? k = some v := by
  by_cases hMem : k ∈ d.keys
  · rw [set, dif_pos hMem]
    exact lookup_replace_self v hMem
  · have hNone : d.entries.lookup k = none := (get?_eq_none_iff d k).mpr hMem
    rw [set, dif_neg hMem]
    simp [get?, List.lookup_append, hNone]

theorem get?_set_of_ne
    (d : PyDict K V)
    {k k' : K}
    (v : V)
    (hNe : k' ≠ k) :
    (d.set k v).get? k' = d.get? k' := by
  by_cases hMem : k ∈ d.keys
  · rw [set, dif_pos hMem]
    exact lookup_replace_of_ne v d.entries hNe
  · have hBeq : (k' == k) = false := beq_eq_false_iff_ne.mpr hNe
    have hOne : [(k, v)].lookup k' = none := by
      simp only [List.lookup_cons, hBeq, List.lookup_nil]
    rw [set, dif_neg hMem]
    simp only [get?]
    rw [List.lookup_append, hOne, Option.or_none]

end PyDict

end OsHomework

import Mathlib

/-
  Python's `str.strip(c)` and `str.split(c)` for a one-character
  separator, over a string as the list of its characters, and
  what they do to a separator-led join of nonempty pieces that
  hold no separator: that is how a path `"/a/b"` comes apart
  into `["a", "b"]`.

  `split` is `List.splitOn`, whose behaviour matches Python's:
  `"".split("/")` is `[""]` and every separator starts a piece.

  Main declarations:
    * `PyStr.strip`
    * `PyStr.strip_eq_self`, `PyStr.strip_cons_self`
    * `PyStr.intercalate_cons_eq`, `PyStr.length_intercalate_le`
    * `PyStr.splitOn_strip_join`
-/

------------------------------------------------------------
-- Strip
------------------------------------------------------------

namespace OsHomework

namespace PyStr

variable {α : Type} [DecidableEq α]

/- `s.strip(c)`: every leading and every trailing `c` removed. -/
def strip
    (c : α)
    (xs : List α) : List α :=
  ((xs.dropWhile (· == c)).reverse.dropWhile (· == c)).reverse

/- `dropWhile` keeps a list whose first element fails the test. -/
theorem dropWhile_eq_self_of_head?
    {c : α}
    {xs : List α}
    (hHead : xs.head? ≠ some c) :
    xs.dropWhile (· == c) = xs := by
  cases xs with
  | nil => rfl
  | cons x xs =>
      have hNe : x ≠ c := fun hEq => hHead (by rw [hEq]; rfl)
      exact List.dropWhile_cons_of_neg (by simpa using hNe)

/- A string that neither starts nor ends with `c` strips to itself. -/
theorem strip_eq_self
    {c : α}
    {xs : List α}
    (hHead : xs.head? ≠ some c)
    (hLast : xs.getLast? ≠ some c) :
    strip c xs = xs := by
  have hRev : xs.reverse.head? ≠ some c := by
    rw [List.head?_reverse]
    exact hLast
  rw [strip, dropWhile_eq_self_of_head? hHead, dropWhile_eq_self_of_head? hRev,
    List.reverse_reverse]

theorem strip_cons_self
    (c : α)
    (xs : List α) :
    strip c (c :: xs) = strip c xs := by
  have hDrop : (c :: xs).dropWhile (· == c) = xs.dropWhile (· == c) :=
    List.dropWhile_cons_of_pos (p := (· == c)) (beq_self_eq_true c)
  rw [strip, strip, hDrop]

end PyStr

end OsHomework

------------------------------------------------------------
-- Splitting a Join
------------------------------------------------------------

namespace OsHomework

namespace PyStr

section Join

variable {α : Type}

/- The join of nonempty pieces starts where its first piece does. -/
theorem head?_intercalate
    (c : α)
    {l : List α}
    (ls : List (List α))
    (hl : l ≠ []) :
    ([c].intercalate (l :: ls)).head? = l.head? := by
  cases ls with
  | nil => rw [List.intercalate_singleton]
  | cons l' ls =>
      rw [List.intercalate_cons_cons, List.append_assoc, List.head?_append]
      cases l with
      | nil => exact absurd rfl hl
      | cons x xs => rfl

/- ... and ends where its last piece does. -/
theorem getLast?_intercalate
    (c : α)
    (l : List α)
    (ls : List (List α))
    (hLast : ∀ x ∈ (l :: ls).getLast?, x ≠ []) :
    ([c].intercalate (l :: ls)).getLast? = ((l :: ls).getLast?).bind List.getLast? := by
  induction ls generalizing l with
  | nil =>
      rw [List.intercalate_singleton]
      rfl
  | cons l' ls ih =>
      have hRest : ∀ x ∈ (l' :: ls).getLast?, x ≠ [] := by
        intro x hx
        exact hLast x (by rw [List.getLast?_cons_cons]; exact hx)
      have hTail := ih l' hRest
      rw [List.intercalate_cons_cons, List.getLast?_append, hTail,
        List.getLast?_cons_cons]
      -- the last piece is nonempty, so the join's last element is its own
      obtain ⟨y, hy⟩ : ∃ y, (l' :: ls).getLast? = some y :=
        Option.isSome_iff_exists.mp (by simp)
      have hy' : y.getLast? ≠ none := by
        simpa using hRest y (by rw [hy]; rfl)
      rw [hy, Option.bind_some]
      cases hyl : y.getLast? with
      | none => exact absurd hyl hy'
      | some z => rfl

/- `c.join(l :: ls)` is `l` followed by `c` and each further piece. -/
theorem intercalate_cons_eq
    (c : α)
    (l : List α)
    (ls : List (List α)) :
    [c].intercalate (l :: ls) = l ++ ls.flatMap (c :: ·) := by
  induction ls generalizing l with
  | nil => rw [List.intercalate_singleton, List.flatMap_nil, List.append_nil]
  | cons l' ls ih =>
      rw [List.intercalate_cons_cons, ih, List.flatMap_cons, List.append_assoc,
        List.singleton_append, List.cons_append]

/- A join is no longer than its pieces with one separator each. -/
theorem length_intercalate_le
    (c : α)
    (ls : List (List α)) :
    ([c].intercalate ls).length ≤ (ls.map (·.length + 1)).sum := by
  cases ls with
  | nil => simp
  | cons l ls =>
      rw [intercalate_cons_eq, List.length_append, List.length_flatMap,
        List.map_cons, List.sum_cons]
      have hEach : (ls.map fun x => (c :: x).length) = ls.map (·.length + 1) := by
        simp
      rw [hEach]
      omega

end Join

variable {α : Type} [DecidableEq α]

/-
  `(c + c.join(ls)).strip(c).split(c)` gives back the pieces
  when each is nonempty and free of `c`.
-/
theorem splitOn_strip_join
    (c : α)
    (ls : List (List α))
    (hNe : ls ≠ [])
    (hPieces : ∀ l ∈ ls, l ≠ [] ∧ c ∉ l) :
    (strip c (c :: [c].intercalate ls)).splitOn c = ls := by
  cases ls with
  | nil => exact absurd rfl hNe
  | cons l ls =>
      have hl := hPieces l List.mem_cons_self
      have hHead : ([c].intercalate (l :: ls)).head? ≠ some c := by
        rw [head?_intercalate c ls hl.1]
        intro hEq
        exact hl.2 (List.mem_of_mem_head? hEq)
      have hLastNe : ∀ x ∈ (l :: ls).getLast?, x ≠ [] := fun x hx =>
        (hPieces x (List.mem_of_getLast? hx)).1
      have hLast : ([c].intercalate (l :: ls)).getLast? ≠ some c := by
        rw [getLast?_intercalate c l ls hLastNe]
        intro hEq
        obtain ⟨y, hy, hyc⟩ := Option.bind_eq_some_iff.mp hEq
        exact (hPieces y (List.mem_of_getLast? hy)).2 (List.mem_of_getLast? hyc)
      rw [strip_cons_self, strip_eq_self hHead hLast]
      exact List.splitOn_intercalate c (fun l hl' => (hPieces l hl').2) hNe

end PyStr

end OsHomework

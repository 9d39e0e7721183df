import Mathlib

/-
  Extents of an address space: the half-open ranges
  `[start, start + len)` that memory maps are made of.

  `Extent.overlaps` is the test an address space makes before
  it accepts a new range.  `Tile a es b` says that the
  extents of `es`, in order, follow one another from `a` to
  `b`; such a list covers `[a, b)` exactly and its extents are
  pairwise disjoint.

  Main declarations:
    * `Extent`, `Extent.range`, `Extent.overlaps`
    * `Extent.disjoint_range_of_overlaps_eq_false`,
      `Extent.overlaps_eq_false_of_within`
    * `Extent.Tile`, `Extent.Tile.biUnion_range`,
      `Extent.Tile.pairwise_overlaps_eq_false`,
      `Extent.Tile.pairwise_disjoint`
-/

------------------------------------------------------------
-- Extents
------------------------------------------------------------

namespace OsHomework

/- The addresses `[start, start + len)`. -/
structure Extent where
  start : Nat
  len : Nat
deriving DecidableEq, Repr

namespace Extent

/- The first address past the extent. -/
def stop
    (e : Extent) : Nat :=
  e.start + e.len

/- The addresses the extent covers. -/
def range
    (e : Extent) : Set Nat :=
  Set.Ico e.start e.stop

/-
  Whether `e` and `f` share an address, tested as each one
  starting before the other ends.  An empty extent strictly
  inside another counts as overlapping it: the test is the
  one a VMA tree makes on the bounds, not on the addresses.
-/
def overlaps
    (e f : Extent) : Bool :=
  decide (f.start < e.stop) && decide (e.start < f.stop)

@[simp] theorem mem_range
    (e : Extent)
    (x : Nat) :
    x ∈ e.range ↔ e.start ≤ x ∧ x < e.start + e.len :=
  Set.mem_Ico

/- Extents that pass the overlap test have no common address. -/
theorem disjoint_range_of_overlaps_eq_false
    {e f : Extent}
    (h : e.overlaps f = false) :
    Disjoint e.range f.range := by
  have hApart : e.stop ≤ f.start ∨ f.stop ≤ e.start := by
    simp only [overlaps, Bool.and_eq_false_iff, decide_eq_false_iff_not, Nat.not_lt] at h
    omega
  apply Set.Ico_disjoint_Ico.2
  omega

/- An extent that ends before another starts does not overlap it. -/
theorem overlaps_eq_false_of_stop_le
    {e f : Extent}
    (h : e.stop ≤ f.start) :
    e.overlaps f = false := by
  simp only [overlaps, Bool.and_eq_false_iff, decide_eq_false_iff_not, Nat.not_lt]
  exact Or.inl h

/- Inside an extent that misses `f`, every extent misses `f`. -/
theorem overlaps_eq_false_of_within
    {e f g : Extent}
    (hStart : g.start ≤ e.start)
    (hStop : e.stop ≤ g.stop)
    (h : g.overlaps f = false) :
    e.overlaps f = false := by
  simp only [overlaps, Bool.and_eq_false_iff, decide_eq_false_iff_not, Nat.not_lt] at h ⊢
  omega

end Extent

end OsHomework

------------------------------------------------------------
-- Tilings
------------------------------------------------------------

namespace OsHomework

namespace Extent

/-
  `Tile a es b`: the extents of `es` follow one another from
  `a`, each starting where the one before it stops, and the
  last stops at `b`.
-/
def Tile : Nat → List Extent → Nat → Prop
  | a, [], b => a = b
  | a, e :: es, b => e.start = a ∧ Tile e.stop es b

@[simp] theorem tile_nil
    (a b : Nat) :
    Tile a [] b ↔ a = b :=
  Iff.rfl

@[simp] theorem tile_cons
    (a b : Nat)
    (e : Extent)
    (es : List Extent) :
    Tile a (e :: es) b ↔ e.start = a ∧ Tile e.stop es b :=
  Iff.rfl

/- A tiling runs forward, and each of its extents lies between its ends. -/
theorem Tile.bounds :
    ∀ {es : List Extent} {a b : Nat}, Tile a es b →
      a ≤ b ∧ ∀ e ∈ es, a ≤ e.start ∧ e.stop ≤ b
  | [], a, b, h => by
      simp only [tile_nil] at h
      simp [h]
  | e :: es, a, b, h => by
      rcases h with ⟨hStart, hRest⟩
      have ⟨hLe, hIn⟩ := Tile.bounds hRest
      have hStop : a ≤ e.stop := by
        simp only [stop]
        omega
      refine ⟨Nat.le_trans hStop hLe, ?_⟩
      intro f hf
      rcases List.mem_cons.1 hf with rfl | hf
      · exact ⟨Nat.le_of_eq hStart.symm, hLe⟩
      · have := hIn f hf
        exact ⟨Nat.le_trans hStop this.1, this.2⟩

/- A tiling of `[a, b)` covers exactly `[a, b)`. -/
theorem Tile.biUnion_range :
    ∀ {es : List Extent} {a b : Nat}, Tile a es b →
      (⋃ e ∈ es, e.range) = Set.Ico a b
  | [], a, b, h => by
      simp only [tile_nil] at h
      simp [h]
  | e :: es, a, b, h => by
      rcases h with ⟨hStart, hRest⟩
      have hCover := Tile.biUnion_range hRest
      have hFirst : a ≤ e.stop := by
        simp only [stop]
        omega
      simp only [List.mem_cons, Set.iUnion_iUnion_eq_or_left]
      rw [hCover, range, hStart]
      exact Set.Ico_union_Ico_eq_Ico hFirst (Tile.bounds hRest).1

/- No extent of a tiling overlaps a later one. -/
theorem Tile.pairwise_overlaps_eq_false :
    ∀ {es : List Extent} {a b : Nat}, Tile a es b →
      es.Pairwise (fun e f => e.overlaps f = false)
  | [], _, _, _ => List.Pairwise.nil
  | e :: es, _, _, h => by
      rcases h with ⟨-, hRest⟩
      refine List.Pairwise.cons ?_ (Tile.pairwise_overlaps_eq_false hRest)
      -- every later extent lies in `[e.stop, b)`, past the end of `e`
      intro f hf
      exact overlaps_eq_false_of_stop_le ((Tile.bounds hRest).2 f hf).1

/- The extents of a tiling are pairwise disjoint. -/
theorem Tile.pairwise_disjoint
    {es : List Extent}
    {a b : Nat}
    (h : Tile a es b) :
    es.Pairwise (fun e f => Disjoint e.range f.range) :=
  (Tile.pairwise_overlaps_eq_false h).imp disjoint_range_of_overlaps_eq_false

end Extent

end OsHomework

------------------------------------------------------------
-- The Extent Holding an Address
------------------------------------------------------------

namespace OsHomework

namespace Extent

/- Whether the extent holds address `x`. -/
def holds
    (e : Extent)
    (x : Nat) : Bool :=
  decide (e.start ≤ x) && decide (x < e.stop)

/- Two extents that pass the overlap test never hold one address. -/
theorem not_holds_both_of_overlaps_eq_false
    {e f : Extent}
    {x : Nat}
    (h : e.overlaps f = false) :
    ¬ (e.holds x = true ∧ f.holds x = true) := by
  rintro ⟨he, hf⟩
  simp only [holds, Bool.and_eq_true, decide_eq_true_eq] at he hf
  simp only [overlaps, Bool.and_eq_false_iff, decide_eq_false_iff_not, Nat.not_lt] at h
  simp only [stop] at he hf h
  omega

/-
  In a list no two members of which satisfy `p`, the first
  member satisfying `p` is any member that does.
-/
theorem find?_eq_some_of_pairwise
    {β : Type}
    {p : β → Bool} :
    ∀ {l : List β} {v : β},
      l.Pairwise (fun a b => ¬ (p a = true ∧ p b = true)) →
        v ∈ l → p v = true → l.find? p = some v
  | [], _, _, hv, _ => absurd hv List.not_mem_nil
  | w :: l, v, hPair, hv, hp => by
      obtain ⟨hHead, hRest⟩ := List.pairwise_cons.mp hPair
      rcases List.mem_cons.mp hv with rfl | hLater
      · exact List.find?_cons_of_pos hp
      · -- `v` comes later, so the head cannot satisfy `p` as well
        have hw : ¬ p w = true := fun hpw => hHead v hLater ⟨hpw, hp⟩
        rw [List.find?_cons_of_neg hw]
        exact find?_eq_some_of_pairwise hRest hLater hp

/- The member `find?` returns and the list without it are the list, reordered. -/
theorem perm_cons_eraseP_of_find?
    {β : Type}
    {p : β → Bool} :
    ∀ {l : List β} {v : β}, l.find? p = some v → l.Perm (v :: l.eraseP p)
  | [], _, h => by simp at h
  | w :: l, v, h => by
      by_cases hw : p w = true
      · rw [List.find?_cons_of_pos hw, Option.some.injEq] at h
        subst h
        rw [List.eraseP_cons_of_pos hw]
      · -- `v` comes later: move it past the head
        rw [List.find?_cons_of_neg hw] at h
        rw [List.eraseP_cons_of_neg hw]
        exact ((perm_cons_eraseP_of_find? h).cons w).trans (List.Perm.swap v w _)

/- Among extents that pairwise pass the overlap test, the one holding `x` is found. -/
theorem find?_holds_of_pairwise
    {β : Type}
    (ext : β → Extent)
    {l : List β}
    {v : β}
    {x : Nat}
    (hPair : l.Pairwise (fun a b => (ext a).overlaps (ext b) = false))
    (hv : v ∈ l)
    (hx : (ext v).holds x = true) :
    l.find? (fun w => (ext w).holds x) = some v :=
  find?_eq_some_of_pairwise (hPair.imp not_holds_both_of_overlaps_eq_false) hv hx

end Extent

end OsHomework

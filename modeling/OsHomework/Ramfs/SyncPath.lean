import OsHomework.Lib.PyStr

/-
  The sync path of `fs/ramfs/file-mmu.c` (from
  `memctrl/ramfs/ramfs.patch`): `build_relative_dir`, which walks
  from a dentry up to the ramfs root and rebuilds the directory
  part of its path, and `ramfs_sync_file_to_disk`, which hands
  `mkdir -p` and `cp` their destinations through
  `ramfs_sync_with_cp`.

  A dentry is given by the names the walk meets on its way up,
  the dentry's own name first and the child of the root last:
  the walk reads nothing else.  C strings are lists of
  characters without the NUL; `kstrdup`, `kmalloc` and
  `kasprintf` are taken to succeed.

  Main declarations:
    * `walkUp`, the `while` loop, and `buildLoop`, the `for` loop
    * `buildRelativeDir`, `ramfsSyncWithCp`, `ramfsSyncFileToDisk`
    * `buildRelativeDir_eq`, `buildRelativeDir_length_le`
-/

------------------------------------------------------------
-- The Two Loops
------------------------------------------------------------

namespace OsHomework

namespace Ramfs

/- The cap of `path_components[32]`. -/
def maxDepth : Nat := 32

/-
  `while (temp && temp != root && depth < 32)`: store the name,
  add `strlen + 1` to `total_len`, step to the parent.  The
  result is `path_components`, `depth` and `total_len`.
-/
def walkUp : List (List Char) → Nat → List (List Char) → Nat →
    List (List Char) × Nat × Nat
  | [], depth, comps, total => (comps, depth, total)
  | name :: up, depth, comps, total =>
      if depth < maxDepth then
        walkUp up (depth + 1) (comps ++ [name]) (total + name.length + 1)
      else (comps, depth, total)

/-
  `for (i = depth - 1; i > 0; i--)`: a `/` before every name but
  the first, then `path_components[i]`.  The argument `i` counts
  the iterations left.
-/
def buildLoop
    (comps : List (List Char))
    (depth : Nat) : Nat → List Char → List Char
  | 0, result => result
  | i + 1, result =>
      let result := if i + 1 < depth - 1 then result ++ ['/'] else result
      buildLoop comps depth i (result ++ comps.getD (i + 1) [])

/-
  `build_relative_dir(dentry, root)`: `"."` for the root itself,
  else the names `depth - 1` down to 1 joined by `/`, written
  into a `total_len + 1` byte buffer.
-/
def buildRelativeDir
    (names : List (List Char)) : List Char :=
  let (comps, depth, _) := walkUp names 0 [] 0
  if depth = 0 then ".".toList
  else buildLoop comps depth (depth - 1) []

/- `total_len` of the walk, the size of the buffer less the NUL. -/
def totalLen
    (names : List (List Char)) : Nat :=
  (walkUp names 0 [] 0).2.2

end Ramfs

end OsHomework

------------------------------------------------------------
-- Handing the Paths to cp
------------------------------------------------------------

namespace OsHomework

namespace Ramfs

/- The sync settings of `struct ramfs_fs_info`. -/
structure RamfsFsInfo where
  syncEnabled : Bool
  syncDir : Option (List Char)

/-
  `ramfs_sync_with_cp(source, dest, dir)`: the two command lines
  it hands `call_usermodehelper`, `mkdir -p dir` then
  `cp source dest`.
-/
def ramfsSyncWithCp
    (sourcePath destPath destDir : List Char) : List (List (List Char)) :=
  [["/bin/mkdir".toList, "-p".toList, destDir],
   ["/bin/cp".toList, sourcePath, destPath]]

/-
  `ramfs_sync_file_to_disk(file)`, given the names from the file
  up to the root and `d_path`'s answer for its source: nothing to
  run when sync is off, else the command lines for
  `"%s/%s/%s"` and `"%s/%s"` of `sync_dir` and the relative
  directory.
-/
def ramfsSyncFileToDisk
    (fsi : RamfsFsInfo)
    (names : List (List Char))
    (sourcePath : List Char) : List (List (List Char)) :=
  match fsi.syncEnabled, fsi.syncDir with
  | true, some syncDir =>
      let relativeDir := buildRelativeDir names
      let name := names.headD []
      let syncPath := syncDir ++ '/' :: relativeDir ++ '/' :: name
      let syncPathdir := syncDir ++ '/' :: relativeDir
      ramfsSyncWithCp sourcePath syncPath syncPathdir
  | _, _ => []

end Ramfs

end OsHomework

------------------------------------------------------------
-- What the Loops Compute
------------------------------------------------------------

namespace OsHomework

namespace Ramfs

open PyStr

/-
  The walk keeps the first `32 - depth` names it meets, and adds
  `strlen + 1` of each to `total_len`.
-/
theorem walkUp_eq
    (names : List (List Char)) :
    ∀ (depth : Nat) (comps : List (List Char)) (total : Nat),
      depth ≤ maxDepth →
      walkUp names depth comps total =
        (comps ++ names.take (maxDepth - depth),
          depth + min names.length (maxDepth - depth),
          total + ((names.take (maxDepth - depth)).map (·.length + 1)).sum) := by
  induction names with
  | nil =>
      intro depth comps total _
      simp [walkUp]
  | cons name up ih =>
      intro depth comps total hDepth
      by_cases hRoom : depth < maxDepth
      · -- one more name fits: store it and go on from the parent
        obtain ⟨k, hk⟩ : ∃ k, maxDepth - depth = k + 1 :=
          ⟨maxDepth - depth - 1, by omega⟩
        have hNext : maxDepth - (depth + 1) = k := by omega
        rw [walkUp, if_pos hRoom, ih (depth + 1) (comps ++ [name]) _ hRoom, hNext, hk]
        simp only [List.take_succ_cons, List.append_assoc, List.singleton_append,
          List.length_cons, List.map_cons, List.sum_cons]
        refine Prod.ext rfl (Prod.ext ?_ ?_)
        · simp only
          omega
        · simp only
          omega
      · -- the cap is reached: the walk stops here
        have hFull : maxDepth - depth = 0 := by omega
        rw [walkUp, if_neg hRoom, hFull]
        simp

/- The names `path_components[j]` down to `path_components[1]`. -/
def downFrom
    (comps : List (List Char)) : Nat → List (List Char)
  | 0 => []
  | j + 1 => comps.getD (j + 1) [] :: downFrom comps j

/-
  Below the first iteration every name gets its `/`: from
  iteration `j < depth - 1` on the loop appends `/name` for
  `path_components[j]` down to `path_components[1]`.
-/
theorem buildLoop_of_lt
    (comps : List (List Char))
    (m : Nat) :
    ∀ (j : Nat) (result : List Char), j < m →
      buildLoop comps (m + 1) j result =
        result ++ (downFrom comps j).flatMap ('/' :: ·) := by
  intro j
  induction j with
  | zero =>
      intro result _
      simp [buildLoop, downFrom]
  | succ j ih =>
      intro result hj
      have hSep : j + 1 < m + 1 - 1 := by omega
      rw [buildLoop, if_pos hSep, ih _ (by omega), downFrom, List.flatMap_cons]
      simp only [List.append_assoc, List.cons_append, List.nil_append]

/- The whole `for` loop joins `path_components[depth - 1]` down to `[1]`. -/
theorem buildLoop_eq
    (comps : List (List Char))
    (m : Nat) :
    buildLoop comps (m + 1) m [] = ['/'].intercalate (downFrom comps m) := by
  cases m with
  | zero => rfl
  | succ k =>
      -- the first iteration writes its name with no `/`
      have hNoSep : ¬ (k + 1 < k + 1 + 1 - 1) := by omega
      rw [buildLoop, if_neg hNoSep, buildLoop_of_lt comps (k + 1) k _ (by omega),
        downFrom, intercalate_cons_eq, List.nil_append]

/- Counting down from `j` visits the first `j + 1` names but the first, reversed. -/
theorem downFrom_eq
    (comps : List (List Char)) :
    ∀ j, j < comps.length →
      downFrom comps j = ((comps.take (j + 1)).tail).reverse := by
  intro j
  induction j with
  | zero =>
      intro hj
      cases comps with
      | nil => simp at hj
      | cons c cs => rfl
  | succ j ih =>
      intro hj
      have hTake : comps.take (j + 1 + 1) = comps.take (j + 1) ++ [comps[j + 1]] := by
        rw [List.take_add_one, List.getElem?_eq_getElem hj, Option.toList_some]
      have hNe : comps.take (j + 1) ≠ [] :=
        List.ne_nil_of_length_pos (by rw [List.length_take]; omega)
      rw [downFrom, ih (by omega), hTake, List.tail_append_of_ne_nil hNe,
        List.reverse_append, List.getD_eq_getElem?_getD, List.getElem?_eq_getElem hj,
        Option.getD_some]
      rfl

end Ramfs

end OsHomework

------------------------------------------------------------
-- The Relative Directory and the Commands
------------------------------------------------------------

namespace OsHomework

namespace Ramfs

open PyStr

/- The walk from a dentry keeps its first 32 names. -/
theorem walkUp_zero
    (names : List (List Char)) :
    walkUp names 0 [] 0 =
      (names.take maxDepth, min names.length maxDepth,
        ((names.take maxDepth).map (·.length + 1)).sum) := by
  rw [walkUp_eq names 0 [] 0 (Nat.zero_le _)]
  simp

/-
  For a dentry below the root, `build_relative_dir` joins the
  names above it among the first 32 the walk meets, from the top
  down: all its proper ancestors below the root when it is at
  most 32 deep, only the 31 nearest when it is deeper.
-/
theorem buildRelativeDir_eq
    {names : List (List Char)}
    (hNe : names ≠ []) :
    buildRelativeDir names = ['/'].intercalate (names.take maxDepth).tail.reverse := by
  have hPos : 0 < min names.length maxDepth := by
    have := List.length_pos_of_ne_nil hNe
    simp only [maxDepth]
    omega
  obtain ⟨m, hm⟩ : ∃ m, min names.length maxDepth = m + 1 :=
    ⟨min names.length maxDepth - 1, by omega⟩
  have hComps : (names.take maxDepth).length = m + 1 := by
    rw [List.length_take, Nat.min_comm, hm]
  simp only [buildRelativeDir, walkUp_zero, hm, Nat.add_one_ne_zero, if_false,
    Nat.add_sub_cancel]
  rw [buildLoop_eq, downFrom_eq _ m (by omega), ← hComps, List.take_length]

/-
  The name parts and the `/`s written into the `total_len + 1`
  byte buffer, with the NUL, fit it; each `strcat` only grows
  the string, so no earlier one writes more.
-/
theorem buildRelativeDir_length_le
    {names : List (List Char)}
    (hNe : names ≠ []) :
    (buildRelativeDir names).length + 1 ≤ totalLen names + 1 := by
  have hTail :
      (((names.take maxDepth).tail.reverse).map (·.length + 1)).sum ≤
        ((names.take maxDepth).map (·.length + 1)).sum := by
    rw [List.map_reverse, List.sum_reverse]
    cases names.take maxDepth with
    | nil => exact Nat.le_refl _
    | cons c cs =>
        rw [List.tail_cons, List.map_cons, List.sum_cons]
        omega
  have hJoin := length_intercalate_le '/' (names.take maxDepth).tail.reverse
  rw [buildRelativeDir_eq hNe]
  simp only [totalLen, walkUp_zero]
  omega

/- With sync on, the command lines for a dentry and its relative directory. -/
theorem ramfsSyncFileToDisk_eq
    (syncDir : List Char)
    (names : List (List Char))
    (sourcePath : List Char) :
    ramfsSyncFileToDisk ⟨true, some syncDir⟩ names sourcePath =
      ramfsSyncWithCp sourcePath
        (syncDir ++ '/' :: buildRelativeDir names ++ '/' :: names.headD [])
        (syncDir ++ '/' :: buildRelativeDir names) :=
  rfl

end Ramfs

end OsHomework

------------------------------------------------------------
-- Where the Destination Goes
------------------------------------------------------------

namespace OsHomework

namespace Ramfs

open PyStr

/-
  `build_relative_dir` and `ramfs_sync_file_to_disk` for a file
  `names.length` deep below the ramfs root: the relative
  directory joins the file's proper ancestors below the root,
  top down, among the first 32 names the walk meets, so that
  for a file more than 32 deep the top ones are lost; the buffer
  is never overrun.  A file between 2 and 32 deep goes to
  `sync_dir/<its path from the root>` after `mkdir -p` of that
  path's directory; a file in the root goes to `sync_dir//name`
  after `mkdir -p sync_dir/`.
-/
theorem build_relative_dir_keeps_32_names :
    (∀ names : List (List Char), names ≠ [] →
      buildRelativeDir names = ['/'].intercalate (names.take maxDepth).tail.reverse ∧
      (buildRelativeDir names).length + 1 ≤ totalLen names + 1) ∧
    (∀ (syncDir sourcePath name : List Char) (up : List (List Char)),
      up ≠ [] → up.length + 1 ≤ maxDepth →
      ramfsSyncFileToDisk ⟨true, some syncDir⟩ (name :: up) sourcePath =
        ramfsSyncWithCp sourcePath
          (syncDir ++ '/' :: ['/'].intercalate (name :: up).reverse)
          (syncDir ++ '/' :: ['/'].intercalate up.reverse)) ∧
    (∀ syncDir sourcePath name : List Char,
      ramfsSyncFileToDisk ⟨true, some syncDir⟩ [name] sourcePath =
        ramfsSyncWithCp sourcePath (syncDir ++ '/' :: '/' :: name) (syncDir ++ ['/'])) := by
  refine ⟨fun names hNe => ⟨buildRelativeDir_eq hNe, buildRelativeDir_length_le hNe⟩,
    ?_, ?_⟩
  · intro syncDir sourcePath name up hUp hDepth
    -- no name is lost, and the file's own name closes the join
    have hAll : (name :: up).take maxDepth = name :: up := List.take_of_length_le hDepth
    have hRel : buildRelativeDir (name :: up) = ['/'].intercalate up.reverse := by
      rw [buildRelativeDir_eq (List.cons_ne_nil _ _), hAll, List.tail_cons]
    obtain ⟨top, rest, hRev⟩ : ∃ top rest, up.reverse = top :: rest := by
      cases hR : up.reverse with
      | nil => exact absurd (List.reverse_eq_nil_iff.mp hR) hUp
      | cons top rest => exact ⟨top, rest, rfl⟩
    have hJoin :
        ['/'].intercalate up.reverse ++ '/' :: name =
          ['/'].intercalate (name :: up).reverse := by
      rw [List.reverse_cons, hRev, List.cons_append, intercalate_cons_eq,
        intercalate_cons_eq, List.flatMap_append, List.flatMap_singleton,
        List.append_assoc]
    rw [ramfsSyncFileToDisk_eq, hRel, List.headD_cons, List.append_assoc,
      List.cons_append, hJoin]
  · intro syncDir sourcePath name
    -- in the root the relative directory is empty, and both `/`s stay
    have hRel : buildRelativeDir [name] = [] := by
      rw [buildRelativeDir_eq (List.cons_ne_nil _ _)]
      rfl
    rw [ramfsSyncFileToDisk_eq, hRel, List.headD_cons, List.append_assoc]
    rfl

/- `test.sh`'s `233/test2.txt`, synced to `/tmp/ramfs_sync`. -/
theorem build_relative_dir_keeps_32_names_test2 :
    ramfsSyncFileToDisk ⟨true, some "/tmp/ramfs_sync".toList⟩
        ["test2.txt".toList, "233".toList] "/mnt/ramfs/233/test2.txt".toList =
      ramfsSyncWithCp "/mnt/ramfs/233/test2.txt".toList
        ("/tmp/ramfs_sync".toList ++
          '/' :: ['/'].intercalate ("test2.txt".toList :: ["233".toList]).reverse)
        ("/tmp/ramfs_sync".toList ++ '/' :: ['/'].intercalate ["233".toList].reverse) :=
  build_relative_dir_keeps_32_names.2.1 _ _ _ _ (by decide) (by decide)

/- A file 33 deep whose top ancestor is `t`, below 31 directories `a`. -/
def deepNames : List (List Char) :=
  ['f'] :: List.replicate 31 ['a'] ++ [['t']]

/- Its relative directory leaves `t` out: the path `cp` gets misses its top directory. -/
theorem build_relative_dir_drops_top :
    buildRelativeDir deepNames = ['/'].intercalate (List.replicate 31 ['a']) ∧
      buildRelativeDir deepNames ≠ ['/'].intercalate deepNames.tail.reverse := by
  refine ⟨by decide, by decide⟩

end Ramfs

end OsHomework

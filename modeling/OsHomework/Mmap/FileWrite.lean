import OsHomework.Lib.PosixFile

/-
  `file_mmap_write` of `memctrl/mmap/impl.c`: write a C string
  into a file at an offset through a shared mapping of the
  file's first `offset + strlen(content)` bytes.

  The file system maps each path to the bytes of its file, or to
  nothing.  Each system call the function makes is modelled by
  what it does to the file and whether it fails.  Beyond the
  rules of the calls themselves, whether a call fails is up to
  the environment (a full descriptor table, no memory, an I/O
  error), which `Env` gives as the errno of each call, or none.
  `mmap` refuses a zero length with `EINVAL` and a length past
  the user address space with `ENOMEM`, whatever the
  environment.  `size_t` and `off_t` are 64 bits wide.  The
  descriptor the function opens (and leaks when `msync` fails)
  and what `perror` prints are not modelled.

  Main declarations:
    * `CStr`, `Files`, `Env`, `Outcome`
    * `openCreate`, `fstatSize`, `ftruncate`, `mmapShared`,
      `memcpyMap`, `msync`
    * `fileMmapWrite`
    * `fileMmapWrite_eq_ret_zero`, `fileMmapWrite_reliable_of_fits`,
      `fileMmapWrite_reliable_of_empty`
-/

------------------------------------------------------------
-- Files, Strings and the Environment
------------------------------------------------------------

namespace OsHomework

namespace Mmap

/- `EINVAL` and `ENOMEM`, the errors the calls give by their own rules. -/
def EINVAL : Nat := 22
def ENOMEM : Nat := 12

/- `TASK_SIZE_MAX` of x86-64 with four-level paging: the top of user space. -/
def taskSizeMax : Nat := 2 ^ 47 - 4096

/- A C string: its bytes up to the terminating NUL, which fit a `size_t`. -/
structure CStr where
  bytes : List UInt8
  nul_free : 0 ∉ bytes
  length_lt : bytes.length < 2 ^ 64

/- `strlen(s)` -/
def strlen
    (s : CStr) : Nat :=
  s.bytes.length

/- The files by path; `none` for a path with no file. -/
abbrev Files := List Char → Option (List UInt8)

/- The bytes of the file at `path`; a missing file reads as empty. -/
def fileOf
    (files : Files)
    (path : List Char) : List UInt8 :=
  (files path).getD []

/- The errno with which the environment makes each call fail, or none. -/
structure Env where
  openErr : Option Nat
  fstatErr : Option Nat
  ftruncateErr : Option Nat
  mmapErr : Option Nat
  msyncErr : Option Nat

/- The environment in which every call succeeds that its own rules allow. -/
def Env.reliable : Env :=
  ⟨none, none, none, none, none⟩

/- How a call of the function ends: a return value and the files, or a fault. -/
inductive Outcome
  | ret (files : Files) (code : Int)
  | fault

/- `off_t total_len = offset + content_len`: the `size_t` sum, read as signed. -/
def offT
    (n : Nat) : Int :=
  if n % 2 ^ 64 < 2 ^ 63 then (n % 2 ^ 64 : Nat) else (n % 2 ^ 64 : Nat) - 2 ^ 64

/- An `off_t` passed where a `size_t` is expected. -/
def sizeT
    (t : Int) : Nat :=
  (t % 2 ^ 64).toNat

end Mmap

end OsHomework

------------------------------------------------------------
-- The System Calls
------------------------------------------------------------

namespace OsHomework

namespace Mmap

/- `open(path, O_RDWR | O_CREAT, 0644)`: a missing file is created empty. -/
def openCreate
    (env : Env)
    (files : Files)
    (path : List Char) : Except Nat Files :=
  match env.openErr with
  | some e => .error e
  | none => .ok (Function.update files path (some (fileOf files path)))

/- `fstat(fd, &st)`: `st.st_size` of the open file holding `c`. -/
def fstatSize
    (env : Env)
    (c : List UInt8) : Except Nat Int :=
  match env.fstatErr with
  | some e => .error e
  | none => .ok c.length

/- `ftruncate(fd, len)`: a negative length is `EINVAL`; else cut or zero-extend. -/
def ftruncate
    (env : Env)
    (c : List UInt8)
    (len : Int) : Except Nat (List UInt8) :=
  if len < 0 then .error EINVAL
  else
    match env.ftruncateErr with
    | some e => .error e
    | none => .ok (PosixFile.truncate 0 c len.toNat)

/-
  `mmap(NULL, len, PROT_READ | PROT_WRITE, MAP_SHARED, fd, 0)`:
  `do_mmap` refuses a zero length with `EINVAL`, and
  `get_unmapped_area` a length past `TASK_SIZE` with `ENOMEM`
  (`TASK_SIZE` is page aligned, so `PAGE_ALIGN(len) > TASK_SIZE`
  is `len > TASK_SIZE`).
-/
def mmapShared
    (env : Env)
    (len : Nat) : Except Nat Unit :=
  if len = 0 then .error EINVAL
  else if taskSizeMax < len then .error ENOMEM
  else
    match env.mmapErr with
    | some e => .error e
    | none => .ok ()

/-
  `memcpy(map + off, data, |data|)` on a shared mapping of the
  first `len` bytes of the file holding `c`: the bytes reach the
  file, and a copy past the mapping's end is a fault.
-/
def memcpyMap
    (c : List UInt8)
    (len off : Nat)
    (data : List UInt8) : Option (List UInt8) :=
  if off + data.length ≤ len then some (c.take off ++ data ++ c.drop (off + data.length))
  else none

/- `msync(map, total_len, MS_SYNC)` -/
def msync
    (env : Env) : Except Nat Unit :=
  match env.msyncErr with
  | some e => .error e
  | none => .ok ()

/-
  `file_mmap_write(filename, offset, content)`.  Every failed
  call returns -1 with the files as that call left them: the
  file is created by `open`, may be extended by `ftruncate`, and
  holds the new bytes once `memcpy` has run, whether or not
  `msync` then succeeds.
-/
def fileMmapWrite
    (env : Env)
    (files : Files)
    (filename : List Char)
    (offset : UInt64)
    (content : CStr) : Outcome :=
  match openCreate env files filename with
  | .error _ => .ret files (-1)
  | .ok files =>
      let contentLen := strlen content
      let totalLen := offT (offset.toNat + contentLen)
      match fstatSize env (fileOf files filename) with
      | .error _ => .ret files (-1)
      | .ok stSize =>
          -- extend the file to hold the new content
          let grown :=
            if stSize < totalLen then ftruncate env (fileOf files filename) totalLen
            else .ok (fileOf files filename)
          match grown with
          | .error _ => .ret files (-1)
          | .ok c =>
              let files := Function.update files filename (some c)
              match mmapShared env (sizeT totalLen) with
              | .error _ => .ret files (-1)
              | .ok () =>
                  match memcpyMap c (sizeT totalLen) offset.toNat content.bytes with
                  | none => .fault
                  | some c =>
                      let files := Function.update files filename (some c)
                      match msync env with
                      | .error _ => .ret files (-1)
                      | .ok () => .ret files 0

end Mmap

end OsHomework

------------------------------------------------------------
-- What Each Call Does
------------------------------------------------------------

namespace OsHomework

namespace Mmap


@[simp]
theorem fileOf_update_self
    (files : Files)
    (path : List Char)
    (c : List UInt8) :
    fileOf (Function.update files path (some c)) path = c := by
  simp [fileOf]

theorem offT_of_lt
    {n : Nat}
    (h : n < 2 ^ 63) :
    offT n = n := by
  have hMod : n % 2 ^ 64 = n := Nat.mod_eq_of_lt (by omega)
  unfold offT
  rw [hMod, if_pos h]

theorem sizeT_offT
    (n : Nat) :
    sizeT (offT n) = n % 2 ^ 64 := by
  unfold sizeT offT
  split_ifs <;> omega

theorem openCreate_eq_ok
    {env : Env}
    {files files₁ : Files}
    {path : List Char}
    (h : openCreate env files path = .ok files₁) :
    files₁ = Function.update files path (some (fileOf files path)) := by
  unfold openCreate at h
  cases hErr : env.openErr with
  | some e => simp [hErr] at h
  | none =>
      simp only [hErr, Except.ok.injEq] at h
      exact h.symm

theorem fstatSize_eq_ok
    {env : Env}
    {c : List UInt8}
    {stSize : Int}
    (h : fstatSize env c = .ok stSize) :
    stSize = c.length := by
  unfold fstatSize at h
  cases hErr : env.fstatErr with
  | some e => simp [hErr] at h
  | none =>
      simp only [hErr, Except.ok.injEq] at h
      exact h.symm

theorem ftruncate_eq_ok
    {env : Env}
    {c c' : List UInt8}
    {len : Int}
    (h : ftruncate env c len = .ok c') :
    0 ≤ len ∧ c' = PosixFile.truncate 0 c len.toNat := by
  unfold ftruncate at h
  -- the `EINVAL` branch cannot give `.ok`
  split_ifs at h with hNeg
  cases hErr : env.ftruncateErr with
  | some e => simp [hErr] at h
  | none =>
      simp only [hErr, Except.ok.injEq] at h
      exact ⟨by omega, h.symm⟩

/-
  The file after `if (st.st_size < total_len) ftruncate(fd, total_len)`
  for a length `n` that is the range's end: zero-extended to `n`
  when shorter, as it was otherwise.
-/
theorem grow_eq_ok
    {env : Env}
    {c c' : List UInt8}
    {n : Nat}
    (h : (if (c.length : Int) < (n : Int) then ftruncate env c n else .ok c) = .ok c') :
    c' = if c.length < n then PosixFile.truncate 0 c n else c := by
  by_cases hShort : c.length < n
  · rw [if_pos (by omega)] at h
    rw [if_pos hShort, (ftruncate_eq_ok h).2, Int.toNat_natCast]
  · rw [if_neg (by omega), Except.ok.injEq] at h
    rw [if_neg hShort, h]

theorem mmapShared_eq_ok
    {env : Env}
    {len : Nat}
    (h : mmapShared env len = .ok ()) :
    0 < len ∧ len ≤ taskSizeMax := by
  unfold mmapShared at h
  -- the two refusals cannot give `.ok`
  split_ifs at h with hZero hBig
  exact ⟨by omega, by omega⟩

theorem memcpyMap_eq_some
    {c c' data : List UInt8}
    {len off : Nat}
    (h : memcpyMap c len off data = some c') :
    off + data.length ≤ len ∧ c' = c.take off ++ data ++ c.drop (off + data.length) := by
  unfold memcpyMap at h
  split_ifs at h with hFit
  exact ⟨hFit, (Option.some.inj h).symm⟩

@[simp]
theorem openCreate_reliable
    (files : Files)
    (path : List Char) :
    openCreate Env.reliable files path =
      .ok (Function.update files path (some (fileOf files path))) :=
  rfl

@[simp]
theorem fstatSize_reliable
    (c : List UInt8) :
    fstatSize Env.reliable c = .ok c.length :=
  rfl

@[simp]
theorem msync_reliable :
    msync Env.reliable = .ok () :=
  rfl

/- With every call allowed, the file grows to the range's end when it is shorter. -/
theorem grow_reliable
    (c : List UInt8)
    (n : Nat) :
    (if (c.length : Int) < (n : Int) then ftruncate Env.reliable c n else .ok c) =
      .ok (if c.length < n then PosixFile.truncate 0 c n else c) := by
  by_cases hShort : c.length < n
  · rw [if_pos (by omega), if_pos hShort]
    simp [ftruncate, Env.reliable]
  · rw [if_neg (by omega), if_neg hShort]

theorem mmapShared_reliable
    {len : Nat}
    (hPos : 0 < len)
    (hFit : len ≤ taskSizeMax) :
    mmapShared Env.reliable len = .ok () := by
  simp [mmapShared, Env.reliable, Nat.pos_iff_ne_zero.mp hPos, Nat.not_lt.mpr hFit]

theorem memcpyMap_of_le
    {c data : List UInt8}
    {len off : Nat}
    (hIn : off + data.length ≤ len) :
    memcpyMap c len off data = some (c.take off ++ data ++ c.drop (off + data.length)) :=
  if_pos hIn

end Mmap

end OsHomework

------------------------------------------------------------
-- What the Function Leaves
------------------------------------------------------------

namespace OsHomework

namespace Mmap

/-
  Whatever the environment, a call that returns 0 got a mapping
  of the whole range, which is then not empty and fits below
  `TASK_SIZE`, and left the file as `pwrite` would.
-/
theorem fileMmapWrite_eq_ret_zero
    {env : Env}
    {files files' : Files}
    {filename : List Char}
    {offset : UInt64}
    {content : CStr}
    (h : fileMmapWrite env files filename offset content = .ret files' 0) :
    0 < offset.toNat + strlen content ∧ offset.toNat + strlen content ≤ taskSizeMax ∧
      files' = Function.update files filename
        (some (PosixFile.write 0 (fileOf files filename) content.bytes offset.toNat)) := by
  simp only [fileMmapWrite] at h
  -- every call up to `msync` succeeded
  cases hOpen : openCreate env files filename with
  | error e => simp [hOpen] at h
  | ok files₁ =>
  simp only [hOpen] at h
  cases hStat : fstatSize env (fileOf files₁ filename) with
  | error e => simp [hStat] at h
  | ok stSize =>
  simp only [hStat] at h
  generalize hTotal : offT (offset.toNat + strlen content) = total at h
  cases hGrown : (if stSize < total then ftruncate env (fileOf files₁ filename) total
      else .ok (fileOf files₁ filename)) with
  | error e => simp [hGrown] at h
  | ok c =>
  simp only [hGrown] at h
  cases hMap : mmapShared env (sizeT total) with
  | error e => simp [hMap] at h
  | ok u =>
  simp only [hMap] at h
  cases hCopy : memcpyMap c (sizeT total) offset.toNat content.bytes with
  | none => simp [hCopy] at h
  | some c' =>
  simp only [hCopy] at h
  cases hSync : msync env with
  | error e => simp [hSync] at h
  | ok u' =>
  simp only [hSync, Outcome.ret.injEq, and_true] at h
  -- the mapping held the whole range, so no `size_t` sum wrapped
  have hFile : fileOf files₁ filename = fileOf files filename := by
    rw [openCreate_eq_ok hOpen, fileOf_update_self]
  obtain ⟨hPos, hFit⟩ := mmapShared_eq_ok hMap
  obtain ⟨hIn, hc'⟩ := memcpyMap_eq_some hCopy
  have hLen := content.length_lt
  have hOff := offset.toNat_lt
  have hSize : sizeT total = offset.toNat + strlen content := by
    rw [← hTotal, sizeT_offT] at hIn ⊢
    unfold strlen
    omega
  have hTotalEq : total = ((offset.toNat + strlen content : Nat) : Int) := by
    rw [← hTotal]
    exact offT_of_lt (by unfold taskSizeMax at hFit; omega)
  rw [hTotalEq, fstatSize_eq_ok hStat, hFile] at hGrown
  refine ⟨by omega, by omega, ?_⟩
  rw [← h, hc', grow_eq_ok hGrown, openCreate_eq_ok hOpen, Function.update_idem,
    Function.update_idem, PosixFile.write_eq_store_truncate]
  rfl

/-
  With every call allowed, a range that is not empty and fits a
  mapping is written as `pwrite` writes it, and 0 returned.
-/
theorem fileMmapWrite_reliable_of_fits
    (files : Files)
    (filename : List Char)
    (offset : UInt64)
    (content : CStr)
    (hPos : 0 < offset.toNat + strlen content)
    (hFit : offset.toNat + strlen content ≤ taskSizeMax) :
    fileMmapWrite Env.reliable files filename offset content =
      .ret (Function.update files filename
        (some (PosixFile.write 0 (fileOf files filename) content.bytes offset.toNat))) 0 := by
  have hSmall : offset.toNat + strlen content < 2 ^ 63 := by
    unfold taskSizeMax at hFit
    omega
  have hTotal := offT_of_lt hSmall
  have hSize : sizeT ((offset.toNat + strlen content : Nat) : Int) =
      offset.toNat + strlen content := by
    rw [← hTotal, sizeT_offT]
    omega
  simp only [fileMmapWrite, openCreate_reliable, fstatSize_reliable, fileOf_update_self,
    hTotal, grow_reliable, hSize, mmapShared_reliable hPos hFit, msync_reliable]
  rw [memcpyMap_of_le (by unfold strlen at hFit ⊢; omega)]
  simp only [Function.update_idem, PosixFile.write_eq_store_truncate]
  rfl

/-
  The empty write at offset 0 asks `mmap` for no bytes: it fails
  with `EINVAL`, and the function returns -1 having only
  created a missing file.
-/
theorem fileMmapWrite_reliable_of_empty
    (files : Files)
    (filename : List Char)
    (offset : UInt64)
    (content : CStr)
    (hEmpty : offset.toNat + strlen content = 0) :
    fileMmapWrite Env.reliable files filename offset content =
      .ret (Function.update files filename (some (fileOf files filename))) (-1) := by
  have hTotal : offT (offset.toNat + strlen content) = 0 := by
    rw [hEmpty]
    rfl
  simp only [fileMmapWrite, openCreate_reliable, fstatSize_reliable, fileOf_update_self, hTotal]
  -- no `ftruncate` for a file of length at least 0
  rw [if_neg (by omega)]
  simp [mmapShared, sizeT, Function.update_idem]

/-
  `file_mmap_write` meets `pwrite` whenever it returns 0, in any
  environment.  With every call allowed it returns 0 exactly when
  the range `[offset, offset + strlen(content))` is not empty and
  fits a mapping below `TASK_SIZE`; the empty write at offset 0
  fails.
-/
theorem file_mmap_write_returns_zero_iff_range_fits
    (files : Files)
    (filename : List Char)
    (offset : UInt64)
    (content : CStr) :
    (∀ env files', fileMmapWrite env files filename offset content = .ret files' 0 →
      files' = Function.update files filename
        (some (PosixFile.write 0 (fileOf files filename) content.bytes offset.toNat))) ∧
    ((∃ files', fileMmapWrite Env.reliable files filename offset content = .ret files' 0) ↔
      0 < offset.toNat + strlen content ∧ offset.toNat + strlen content ≤ taskSizeMax) ∧
    (offset.toNat + strlen content = 0 →
      fileMmapWrite Env.reliable files filename offset content =
        .ret (Function.update files filename (some (fileOf files filename))) (-1)) := by
  refine ⟨fun env files' h => (fileMmapWrite_eq_ret_zero h).2.2, ⟨?_, ?_⟩,
    fileMmapWrite_reliable_of_empty files filename offset content⟩
  · rintro ⟨files', h⟩
    exact ⟨(fileMmapWrite_eq_ret_zero h).1, (fileMmapWrite_eq_ret_zero h).2.1⟩
  · rintro ⟨hPos, hFit⟩
    exact ⟨_, fileMmapWrite_reliable_of_fits files filename offset content hPos hFit⟩

/- The empty C string `""`. -/
def emptyString : CStr :=
  ⟨[], List.not_mem_nil, by decide⟩

/- `file_mmap_write("test_small.bin", 0, "")` on a missing file returns -1. -/
theorem file_mmap_write_empty_at_zero :
    fileMmapWrite Env.reliable (fun _ => none) "test_small.bin".toList 0 emptyString =
      .ret (Function.update (fun _ => none) "test_small.bin".toList
        (some (fileOf (fun _ => none) "test_small.bin".toList))) (-1) :=
  (file_mmap_write_returns_zero_iff_range_fits _ _ _ _).2.2 rfl

end Mmap

end OsHomework

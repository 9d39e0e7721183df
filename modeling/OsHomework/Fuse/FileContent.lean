import OsHomework.Fuse.HelloFs
import OsHomework.Lib.PosixFile

/-
  The file contents of HelloFS's `/hello.txt` and of a GPTfs
  session's `input` against the POSIX regular-file model.

  Both file systems write with the one slicing expression
  `c[:offset] + data + c[offset + len(data):]`.  It is the POSIX
  write exactly when `offset` is at most the file's length: past
  the end it appends the data with no zero gap.  Their `truncate`
  is the POSIX one and their `read` the POSIX `pread`, so a run
  whose writes never start past the end keeps the POSIX content.

  Main declarations:
    * `sliceWrite_eq_write_iff`, `truncateBranches_eq_truncate`
    * `sliceApply`, the file semantics both implement, and
      `foldl_sliceApply_eq_posix`
    * `HelloFs.applyOp`, `helloFs_run_eq_posix`
    * `GptOp.inputOps`, `GptFs.input_run`,
      `GptFs.input_run_eq_posix`
-/

------------------------------------------------------------
-- One Call Against POSIX
------------------------------------------------------------

namespace OsHomework

namespace Fuse

/-
  `c[:offset] + data + c[offset + len(data):]` is the POSIX write
  exactly when the write starts inside the file or at its end.
-/
theorem sliceWrite_eq_write_iff
    (c d : List UInt8)
    (off : Nat) :
    c.take off ++ d ++ c.drop (off + d.length) = PosixFile.write 0 c d off ↔
      off ≤ c.length := by
  constructor
  · intro hEq
    -- past the end the slices lose the gap, and with it length
    by_contra hPast
    have hLen := congrArg List.length hEq
    rw [PosixFile.length_write] at hLen
    simp only [List.length_append, List.length_take, List.length_drop] at hLen
    omega
  · intro hOff
    rw [PosixFile.write_of_le 0 d hOff]

/- The three branches of `truncate` are the POSIX truncation. -/
theorem truncateBranches_eq_truncate
    (c : List UInt8)
    (n : Nat) :
    (if n < c.length then c.take n
      else if n > c.length then c ++ List.replicate (n - c.length) 0
      else c) = PosixFile.truncate 0 c n := by
  unfold PosixFile.truncate
  split_ifs with hShort hLong
  · rw [Nat.sub_eq_zero_of_le (Nat.le_of_lt hShort), List.replicate_zero,
      List.append_nil]
  · rw [List.take_of_length_le (Nat.le_of_lt hLong)]
  · have hEq : n = c.length := by omega
    rw [hEq, List.take_length, Nat.sub_self, List.replicate_zero, List.append_nil]

/-
  The content after one write or truncation in either file
  system: the slicing write, and the POSIX truncation that the
  three branches of `truncate` amount to.
-/
def sliceApply
    (c : List UInt8) : PosixFile.Op UInt8 → List UInt8
  | .write d off => c.take off ++ d ++ c.drop (off + d.length)
  | .truncate n => PosixFile.truncate 0 c n

/- Along a run whose writes never start past the end, that is the POSIX content. -/
theorem foldl_sliceApply_eq_posix
    (ops : List (PosixFile.Op UInt8))
    (c : List UInt8)
    (hNoGap : PosixFile.NoGap 0 c ops) :
    ops.foldl sliceApply c = ops.foldl (PosixFile.apply 0) c :=
  PosixFile.foldl_eq_of_noGap 0 sliceApply
    (fun c d off hOff => (sliceWrite_eq_write_iff c d off).mpr hOff)
    (fun _ _ => rfl) ops c hNoGap

end Fuse

end OsHomework

------------------------------------------------------------
-- HelloFS Runs
------------------------------------------------------------

namespace OsHomework

namespace Fuse

/- A write or truncation of `/hello.txt`. -/
def HelloFs.applyOp
    (fs : HelloFs) : PosixFile.Op UInt8 → HelloFs
  | .write d off =>
      match fs.write helloPath d off with
      | .ok r => r.1
      | .error _ => fs
  | .truncate n =>
      match fs.truncate helloPath n with
      | .ok r => r.1
      | .error _ => fs

theorem HelloFs.applyOp_write_hello
    (fs : HelloFs)
    (d : List UInt8)
    (off : Nat) :
    (fs.applyOp (.write d off)).hello =
      fs.hello.take off ++ d ++ fs.hello.drop (off + d.length) := by
  simp [HelloFs.applyOp, HelloFs.write]

theorem HelloFs.applyOp_truncate_hello
    (fs : HelloFs)
    (n : Nat) :
    (fs.applyOp (.truncate n)).hello = PosixFile.truncate 0 fs.hello n := by
  rw [← truncateBranches_eq_truncate]
  simp only [HelloFs.applyOp, HelloFs.truncate]
  split_ifs <;> rfl

/- `read` of `/hello.txt` is `pread` of its content. -/
theorem HelloFs.read_hello
    (fs : HelloFs)
    (size offset : Nat) :
    fs.read helloPath size offset = PosixFile.read fs.hello size offset := by
  simp [HelloFs.read, PosixFile.read]

/- Each call leaves `/hello.txt` with the slicing content. -/
theorem HelloFs.applyOp_hello
    (fs : HelloFs)
    (op : PosixFile.Op UInt8) :
    (fs.applyOp op).hello = sliceApply fs.hello op := by
  cases op with
  | write d off => exact HelloFs.applyOp_write_hello fs d off
  | truncate n => exact HelloFs.applyOp_truncate_hello fs n

/-
  A run of writes and truncations of `/hello.txt` none of whose
  writes starts past the end keeps the POSIX content.
-/
theorem helloFs_run_eq_posix
    (ops : List (PosixFile.Op UInt8)) :
    ∀ fs : HelloFs, PosixFile.NoGap 0 fs.hello ops →
      (ops.foldl HelloFs.applyOp fs).hello = ops.foldl (PosixFile.apply 0) fs.hello := by
  intro fs hNoGap
  -- the content of `self.hello` follows `sliceApply` call by call
  have hSlice : (ops.foldl HelloFs.applyOp fs).hello = ops.foldl sliceApply fs.hello :=
    (List.foldl_hom HelloFs.hello fun fs op => (HelloFs.applyOp_hello fs op).symm).symm
  rw [hSlice]
  exact foldl_sliceApply_eq_posix ops fs.hello hNoGap

end Fuse

end OsHomework

------------------------------------------------------------
-- GPTfs Session Input
------------------------------------------------------------

namespace OsHomework

namespace Fuse

/- `write` stores the sliced input, whatever the service answers. -/
theorem Session.write_input
    (s : Session)
    (data : List UInt8)
    (offset : Nat)
    (reply : Except (List UInt8) (List UInt8)) :
    (s.write data offset reply).input =
      s.input.take offset ++ data ++ s.input.drop (offset + data.length) := by
  cases reply with
  | ok output => rfl
  | error e => rfl

/-
  `truncate` of a session's `input` stores the POSIX truncation
  there and leaves every other session as it was.
-/
theorem GptFs.truncate_input
    {fs : GptFs}
    {s f : Component}
    {sess : Session}
    (hGet : fs.sessions.get? s.name = some sess)
    (hIn : f.name = inputName)
    (length : Nat) :
    ∃ fs', fs.truncate (render [s, f]) length = .ok (fs', length) ∧
      fs'.sessions.get? s.name =
        some { sess with input := PosixFile.truncate 0 sess.input length } ∧
      ∀ k ≠ s.name, fs'.sessions.get? k = fs.sessions.get? k := by
  rw [← truncateBranches_eq_truncate]
  simp only [GptFs.truncate, pathParts_render_cons, List.map_cons, List.map_nil, hGet,
    hIn, ne_eq, not_true_eq_false, if_false]
  -- the three length cases of the source
  split_ifs
  · exact ⟨_, rfl, PyDict.get?_set_self _ _ _, fun k hk => PyDict.get?_set_of_ne _ _ hk⟩
  · exact ⟨_, rfl, PyDict.get?_set_self _ _ _, fun k hk => PyDict.get?_set_of_ne _ _ hk⟩
  · exact ⟨fs, rfl, hGet, fun _ _ => rfl⟩

/- The writes and truncations a call makes to the `input` of session `k`. -/
def GptOp.inputOps
    (k : List Char) : GptOp → List (PosixFile.Op UInt8)
  | .write path data offset _ =>
      if path.map Component.name = [k, inputName] then [.write data offset] else []
  | .truncate path length =>
      if path.map Component.name = [k, inputName] then [.truncate length] else []
  | _ => []

/- A path whose names are those of an existing session's `input` is that file. -/
theorem GptFs.hasInput_of_names
    {fs : GptFs}
    {k : List Char}
    {p : List Component}
    (hMem : k ∈ fs.sessions.keys)
    (hNames : p.map Component.name = [k, inputName]) :
    fs.HasInput p := by
  match p with
  | [] => simp at hNames
  | [_] => simp at hNames
  | [s, f] =>
      simp only [List.map_cons, List.map_nil, List.cons.injEq, and_true] at hNames
      exact ⟨hNames.1 ▸ hMem, hNames.2⟩
  | _ :: _ :: _ :: _ => simp at hNames

/- The names of a session's file are those of session `k`'s `input` when `s` is `k`. -/
theorem inputNames_iff
    {s f : Component}
    {k : List Char}
    (hIn : f.name = inputName) :
    [s, f].map Component.name = [k, inputName] ↔ s.name = k := by
  simp [hIn]

/-
  A call that stores `new` in session `s`, through `s`'s `input`,
  and leaves every other session as it was, changes the `input`
  of session `k` by the call's operation when `s` is `k`, and
  not at all otherwise.
-/
theorem GptFs.input_of_update
    {fs fs' : GptFs}
    {s f : Component}
    {k : List Char}
    {sess sess₀ new : Session}
    {op : PosixFile.Op UInt8}
    (hGet : fs.sessions.get? k = some sess)
    (hGet₀ : fs.sessions.get? s.name = some sess₀)
    (hIn : f.name = inputName)
    (hSelf : fs'.sessions.get? s.name = some new)
    (hNew : new.input = sliceApply sess₀.input op)
    (hOther : ∀ k ≠ s.name, fs'.sessions.get? k = fs.sessions.get? k) :
    ∃ sess', fs'.sessions.get? k = some sess' ∧
      sess'.input =
        (if [s, f].map Component.name = [k, inputName] then [op] else []).foldl
          sliceApply sess.input := by
  by_cases hEq : s.name = k
  · subst hEq
    have hSess : sess₀ = sess := Option.some.inj (hGet₀.symm.trans hGet)
    subst hSess
    refine ⟨new, hSelf, ?_⟩
    rw [if_pos ((inputNames_iff hIn).mpr rfl), List.foldl_cons, List.foldl_nil, hNew]
  · refine ⟨sess, by rw [hOther k (Ne.symm hEq), hGet], ?_⟩
    rw [if_neg (mt (inputNames_iff hIn).mp hEq)]
    rfl

/-
  After any call, session `k` is still there, its `input`
  changed by the call's own writes and truncations of it, the
  slicing way.
-/
theorem GptFs.input_apply
    {fs : GptFs}
    {k : List Char}
    {sess : Session}
    (hGet : fs.sessions.get? k = some sess)
    (op : GptOp) :
    ∃ sess', (fs.apply op).sessions.get? k = some sess' ∧
      sess'.input = (op.inputOps k).foldl sliceApply sess.input := by
  have hMem : k ∈ fs.sessions.keys := (PyDict.mem_keys_iff _ _).mpr ⟨sess, hGet⟩
  -- a call that fails leaves the state, and then it did not name this `input`
  have hUnnamed : ∀ p : List Component, ¬ fs.HasInput p → ∀ ops,
      ∃ sess', fs.sessions.get? k = some sess' ∧
        sess'.input = (if p.map Component.name = [k, inputName] then ops else []).foldl
          sliceApply sess.input := by
    intro p hNot ops
    rw [if_neg (mt (GptFs.hasInput_of_names hMem) hNot)]
    exact ⟨sess, hGet, rfl⟩
  cases op with
  | mkdir parent name =>
      refine ⟨sess, ?_, rfl⟩
      simp only [GptFs.apply]
      cases hMk : fs.mkdir (render (parent ++ [name])) with
      | error e => exact hGet
      | ok fs' =>
          obtain ⟨-, hNew, rfl⟩ := GptFs.mkdir_eq_ok hMk
          have hNe : k ≠ name.name := fun hEq => hNew (hEq ▸ hMem)
          rw [GptFs.setSession_sessions, PyDict.get?_set_of_ne _ _ hNe, hGet]
  | write p data offset reply =>
      simp only [GptFs.apply, GptOp.inputOps]
      cases hW : fs.write (render p) data offset reply with
      | error e =>
          refine hUnnamed p (fun hHas => ?_) _
          obtain ⟨x, hx⟩ := (GptFs.write_ok_iff fs p data offset reply).mpr hHas
          rw [hW] at hx
          cases hx
      | ok r =>
          obtain ⟨fs', n⟩ := r
          obtain ⟨s, f, sess₀, rfl, hIn, hGet₀, rfl, -⟩ := GptFs.write_eq_ok hW
          refine GptFs.input_of_update hGet hGet₀ hIn
            (by rw [GptFs.setSession_sessions, PyDict.get?_set_self])
            (Session.write_input sess₀ data offset reply)
            (fun k hk => by rw [GptFs.setSession_sessions, PyDict.get?_set_of_ne _ _ hk])
  | truncate p length =>
      simp only [GptFs.apply, GptOp.inputOps]
      cases hT : fs.truncate (render p) length with
      | error e =>
          refine hUnnamed p (fun hHas => ?_) _
          obtain ⟨x, hx⟩ := (GptFs.truncate_ok_iff fs p length).mpr hHas
          rw [hT] at hx
          cases hx
      | ok r =>
          obtain ⟨fs', n⟩ := r
          obtain ⟨s, f, sess₀, rfl, hIn, hGet₀, -⟩ := GptFs.truncate_eq_ok hT
          obtain ⟨fs'', hT', hSelf, hOther⟩ := GptFs.truncate_input hGet₀ hIn length
          have hState : fs' = fs'' := (Prod.mk.inj (Except.ok.inj (hT.symm.trans hT'))).1
          subst hState
          exact GptFs.input_of_update hGet hGet₀ hIn hSelf rfl hOther
  | readdir p => exact ⟨sess, hGet, rfl⟩
  | getattr p => exact ⟨sess, hGet, rfl⟩
  | read p size offset => exact ⟨sess, hGet, rfl⟩
  | openFile p => exact ⟨sess, hGet, rfl⟩

/- Over a run, a session's `input` follows the run's writes and truncations of it. -/
theorem GptFs.input_run
    {k : List Char}
    (ops : List GptOp) :
    ∀ (fs fs' : GptFs) (sess : Session), Machine.run GptFs.step fs ops = some fs' →
      fs.sessions.get? k = some sess →
      ∃ sess', fs'.sessions.get? k = some sess' ∧
        sess'.input = (ops.flatMap (GptOp.inputOps k)).foldl sliceApply sess.input := by
  induction ops with
  | nil =>
      intro fs fs' sess hRun hGet
      rw [Machine.run_nil, Option.some.injEq] at hRun
      exact ⟨sess, hRun ▸ hGet, rfl⟩
  | cons op ops ih =>
      intro fs fs' sess hRun hGet
      rw [Machine.run_cons, GptFs.step, Option.bind_some] at hRun
      obtain ⟨sess₁, hGet₁, hInput₁⟩ := GptFs.input_apply hGet op
      obtain ⟨sess', hGet', hInput'⟩ := ih (fs.apply op) fs' sess₁ hRun hGet₁
      refine ⟨sess', hGet', ?_⟩
      rw [hInput', hInput₁, List.flatMap_cons, List.foldl_append]

/-
  A session's `input` is a POSIX file under any run of GPTfs
  calls, interleaved with calls on other paths, as long as none
  of the run's writes to it starts past its end.
-/
theorem GptFs.input_run_eq_posix
    {ops : List GptOp}
    {fs fs' : GptFs}
    {k : List Char}
    {sess : Session}
    (hRun : Machine.run GptFs.step fs ops = some fs')
    (hGet : fs.sessions.get? k = some sess)
    (hNoGap : PosixFile.NoGap 0 sess.input (ops.flatMap (GptOp.inputOps k))) :
    ∃ sess', fs'.sessions.get? k = some sess' ∧
      sess'.input = (ops.flatMap (GptOp.inputOps k)).foldl (PosixFile.apply 0) sess.input := by
  obtain ⟨sess', hGet', hInput⟩ := GptFs.input_run ops fs fs' sess hRun hGet
  exact ⟨sess', hGet', hInput.trans (foldl_sliceApply_eq_posix _ _ hNoGap)⟩

/- A new session's prompt written, listed around, and extended at its end. -/
def session1Fs : GptFs :=
  (Machine.run GptFs.step GptFs.init [.mkdir [] session1]).getD GptFs.init

def promptOps : List GptOp :=
  [.truncate [session1, inputComponent] 0,
   .write [session1, inputComponent] [72, 105] 0 (.ok [79, 75]),
   .readdir [],
   .write [session1, inputComponent] [33] 2 (.ok [])]

theorem GptFs.input_run_eq_posix_prompt :
    session1Fs.sessions.get? session1.name = some Session.empty ∧
      PosixFile.NoGap 0 Session.empty.input (promptOps.flatMap (GptOp.inputOps session1.name)) ∧
      ∃ sess', ((Machine.run GptFs.step session1Fs promptOps).getD session1Fs).sessions.get?
          session1.name = some sess' ∧ sess'.input = [72, 105, 33] := by
  have hGet : session1Fs.sessions.get? session1.name = some Session.empty := by decide
  have hOps : promptOps.flatMap (GptOp.inputOps session1.name) =
      [.truncate 0, .write [72, 105] 0, .write [33] 2] := rfl
  have hNoGap : PosixFile.NoGap 0 Session.empty.input
      (promptOps.flatMap (GptOp.inputOps session1.name)) := by
    rw [hOps]
    exact ⟨by decide, by decide, trivial⟩
  have hRun : Machine.run GptFs.step session1Fs promptOps =
      some ((Machine.run GptFs.step session1Fs promptOps).getD session1Fs) := rfl
  obtain ⟨sess', hGet', hInput⟩ := GptFs.input_run_eq_posix hRun hGet hNoGap
  refine ⟨hGet, hNoGap, sess', hGet', ?_⟩
  rw [hInput, hOps]
  rfl

end Fuse

end OsHomework

------------------------------------------------------------
-- Where the Contents Part
------------------------------------------------------------

namespace OsHomework

namespace Fuse

/-
  A write at offset 20 of the 14-byte `/hello.txt` makes it 15
  bytes long where POSIX makes it 21, zeros in the gap, and a
  read from offset 14 then sees the data where POSIX sees six
  zeros first.  In a new GPTfs session a write of one byte at
  offset 1 of the empty `input` stores that byte alone where
  POSIX stores a zero before it.
-/
theorem write_past_end_drops_gap :
    ((HelloFs.init.write helloPath [120] 20).map fun r => r.1.hello) =
        .ok (helloInit ++ [120]) ∧
      PosixFile.write 0 helloInit [120] 20 = helloInit ++ List.replicate 6 0 ++ [120] ∧
      ((HelloFs.init.applyOp (.write [120] 20)).read helloPath 7 14 = [120]) ∧
      PosixFile.read (PosixFile.write 0 helloInit [120] 20) 7 14 =
        [0, 0, 0, 0, 0, 0, 120] ∧
      ((Machine.run GptFs.step GptFs.init
          [.mkdir [] session1, .write [session1, inputComponent] [120] 1 (.ok [])]).bind
        fun fs => (fs.sessions.get? session1.name).map Session.input) = some [120] ∧
      PosixFile.write 0 [] [120] 1 = [0, 120] := by
  refine ⟨by decide, by decide, by decide, by decide, by decide, by decide⟩

end Fuse

end OsHomework

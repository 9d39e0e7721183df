import OsHomework.Lib.PyStr
import OsHomework.Lib.PyDict
import OsHomework.Lib.Machine
import Mathlib.Data.List.Nodup

/-
  `GPTfs` of `filesystem/fuse/GPT_FUSE.py`: a FUSE file system
  whose root holds one directory per chat session, each with the
  files `input`, `output` and `error`.  A write to `input`
  stores the new prompt and replaces `output` and `error` with
  the model's reply or the error it raised.

  Python `str` values are lists of characters and `bytes` lists
  of bytes; `self.sessions` is an insertion-ordered dict.  Every
  method parses its path with `path.strip("/").split("/")`; a
  `FuseOSError` is an `Except.error` with its errno, raised
  before any state changes.  The reply of `call_ollama` (or the
  text of the exception it or `decode` raised) is a parameter of
  each write: the model covers every answer the service can
  give.  FUSE hands paths as `"/"` followed by names joined by
  `"/"`, each name nonempty, free of `"/"`, and neither `"."`
  nor `".."`; `Component` and `render` build them.

  Main declarations:
    * `Session`, `GptFs`, `pathParts`
    * `GptFs.readdir`, `GptFs.getattr`, `GptFs.mkdir`,
      `GptFs.read`, `GptFs.write`, `GptFs.openFile`,
      `GptFs.truncate`
    * `GptOp`, `GptFs.step`, `GptFs.init`
    * `Component`, `render`, `pathParts_render_cons`
    * `GptInv` and `GptInv.reachable`
-/

------------------------------------------------------------
-- Sessions and Paths
------------------------------------------------------------

namespace OsHomework

namespace Fuse

/- The errno values GPTfs raises. -/
def ENOENT : Nat := 2
def EEXIST : Nat := 17
def ENOTDIR : Nat := 20

/- `stat.S_IFDIR` and `stat.S_IFREG`. -/
def S_IFDIR : Nat := 0o040000
def S_IFREG : Nat := 0o100000

/- The names of a session's three files. -/
def inputName : List Char := "input".toList
def outputName : List Char := "output".toList
def errorName : List Char := "error".toList

/- A session's dict `{"input": ..., "output": ..., "error": ...}`. -/
structure Session where
  input : List UInt8
  output : List UInt8
  error : List UInt8
deriving DecidableEq, Repr

/- `{"input": b"", "output": b"", "error": b""}`, what `mkdir` stores. -/
def Session.empty : Session :=
  ⟨[], [], []⟩

/- `self.sessions.get(session).get(filename)` -/
def Session.get
    (s : Session)
    (filename : List Char) : Option (List UInt8) :=
  if filename = inputName then some s.input
  else if filename = outputName then some s.output
  else if filename = errorName then some s.error
  else none

/- `self.sessions`: the session dicts by session name. -/
structure GptFs where
  sessions : PyDict (List Char) Session

/- `GPTfs()`: no sessions. -/
def GptFs.init : GptFs :=
  ⟨PyDict.empty⟩

/- `path.strip("/").split("/")` -/
def pathParts
    (path : List Char) : List (List Char) :=
  (PyStr.strip '/' path).splitOn '/'

/- The `st_mode`, `st_nlink` and, for a file, `st_size` that `getattr` returns. -/
structure Attr where
  mode : Nat
  nlink : Nat
  size : Option Nat
deriving DecidableEq, Repr

/- `self.sessions[session] = s` -/
def GptFs.setSession
    (fs : GptFs)
    (session : List Char)
    (s : Session) : GptFs :=
  ⟨fs.sessions.set session s⟩

end Fuse

end OsHomework

------------------------------------------------------------
-- The Operations
------------------------------------------------------------

namespace OsHomework

namespace Fuse

/- `readdir(path, fh)` -/
def GptFs.readdir
    (fs : GptFs)
    (path : List Char) : Except Nat (List (List Char)) :=
  if path = "/".toList then
    .ok (".".toList :: "..".toList :: fs.sessions.keys)
  else
    match pathParts path with
    | [session] =>
        if session ∉ fs.sessions.keys then .error ENOENT
        else .ok [".".toList, "..".toList, inputName, outputName, errorName]
    | _ => .error ENOTDIR

/- `getattr(path, fh)`, without the time stamps. -/
def GptFs.getattr
    (fs : GptFs)
    (path : List Char) : Except Nat Attr :=
  if path = "/".toList then
    .ok ⟨S_IFDIR ||| 0o755, 2, none⟩
  else
    match pathParts path with
    | [session] =>
        if session ∉ fs.sessions.keys then .error ENOENT
        else .ok ⟨S_IFDIR ||| 0o755, 2, none⟩
    | [session, filename] =>
        match fs.sessions.get? session with
        | none => .error ENOENT
        | some s =>
            if filename ∈ [inputName] then
              .ok ⟨S_IFREG ||| 0o644, 1, some ((s.get filename).getD []).length⟩
            else if filename ∈ [outputName, errorName] then
              .ok ⟨S_IFREG ||| 0o444, 1, some ((s.get filename).getD []).length⟩
            else .error ENOENT
    | _ => .error ENOENT

/- `mkdir(path, mode)`; the mode is not used. -/
def GptFs.mkdir
    (fs : GptFs)
    (path : List Char) : Except Nat GptFs :=
  match pathParts path with
  | [session] =>
      if session ∉ fs.sessions.keys then .ok (fs.setSession session .empty)
      else .error EEXIST
  | _ => .error ENOENT

/- `read(path, size, offset, fh)`: `content[offset:offset+size]`. -/
def GptFs.read
    (fs : GptFs)
    (path : List Char)
    (size offset : Nat) : Except Nat (List UInt8) :=
  match pathParts path with
  | [session, filename] =>
      match fs.sessions.get? session with
      | none => .error ENOENT
      | some s =>
          match s.get filename with
          | none => .error ENOENT
          | some content => .ok ((content.drop offset).take size)
  | _ => .error ENOENT

/-
  The three assignments of `write` to a session: the new input
  `input[:offset] + data + input[offset + len(data):]`, then
  `output` and `error` from `reply`, what
  `call_ollama(input.decode()).encode()` returned or the text of
  the exception raised on the way.  The empty `str` the code
  stores for the other file counts as empty bytes.
-/
def Session.write
    (s : Session)
    (data : List UInt8)
    (offset : Nat)
    (reply : Except (List UInt8) (List UInt8)) : Session :=
  let input := s.input.take offset ++ data ++ s.input.drop (offset + data.length)
  match reply with
  | .ok output => { s with input := input, output := output, error := [] }
  | .error e => { s with input := input, output := [], error := e }

/- `write(path, data, offset, fh)` -/
def GptFs.write
    (fs : GptFs)
    (path : List Char)
    (data : List UInt8)
    (offset : Nat)
    (reply : Except (List UInt8) (List UInt8)) : Except Nat (GptFs × Nat) :=
  match pathParts path with
  | [_] => .error ENOENT
  | [session, filename] =>
      match fs.sessions.get? session with
      | none => .error ENOENT
      | some s =>
          if filename ≠ inputName then .error ENOENT
          else .ok (fs.setSession session (s.write data offset reply), data.length)
  | _ => .error ENOENT

/- `open(path, flags)`; the flags are not used. -/
def GptFs.openFile
    (fs : GptFs)
    (path : List Char) : Except Nat Nat :=
  match pathParts path with
  | [session, filename] =>
      match fs.sessions.get? session with
      | none => .error ENOENT
      | some _ =>
          if filename ∉ [inputName, outputName, errorName] then .error ENOENT
          else .ok 0
  | _ => .error ENOENT

/-
  `truncate(path, length, fh)`.  The length is a natural number:
  the `length < 0` branch cannot be taken.
-/
def GptFs.truncate
    (fs : GptFs)
    (path : List Char)
    (length : Nat) : Except Nat (GptFs × Nat) :=
  match pathParts path with
  | [session, filename] =>
      match fs.sessions.get? session with
      | none => .error ENOENT
      | some s =>
          if filename ≠ inputName then .error ENOENT
          else
            let content := s.input
            if length < content.length then
              .ok (fs.setSession session { s with input := content.take length }, length)
            else if length > content.length then
              .ok (fs.setSession session
                { s with input := content ++ List.replicate (length - content.length) 0 },
                length)
            else .ok (fs, length)
  | _ => .error ENOENT

end Fuse

end OsHomework

------------------------------------------------------------
-- The Paths FUSE Passes
------------------------------------------------------------

namespace OsHomework

namespace Fuse

/- A name FUSE passes for a directory entry. -/
structure Component where
  name : List Char
  ne_nil : name ≠ []
  slash_not_mem : '/' ∉ name
  ne_dot : name ≠ ".".toList
  ne_dotdot : name ≠ "..".toList

/- The path FUSE passes for the entry at `cs` below the mount root. -/
def render : List Component → List Char
  | [] => "/".toList
  | c :: cs => '/' :: ['/'].intercalate ((c :: cs).map Component.name)

theorem pathParts_root :
    pathParts (render []) = [[]] := by
  decide

/- A path below the root parses into its names. -/
theorem pathParts_render_cons
    (c : Component)
    (cs : List Component) :
    pathParts (render (c :: cs)) = c.name :: cs.map Component.name := by
  rw [render, ← List.map_cons]
  apply PyStr.splitOn_strip_join '/' _ (List.cons_ne_nil _ _)
  intro l hl
  obtain ⟨x, -, rfl⟩ := List.mem_map.mp (by rwa [← List.map_cons] at hl)
  exact ⟨x.ne_nil, x.slash_not_mem⟩

theorem render_cons_ne_root
    (c : Component)
    (cs : List Component) :
    render (c :: cs) ≠ "/".toList := by
  intro hEq
  have hJoin : ['/'].intercalate ((c :: cs).map Component.name) = [] :=
    (List.cons.inj hEq).2
  have hHead := PyStr.head?_intercalate '/' (cs.map Component.name) c.ne_nil
  rw [← List.map_cons, hJoin] at hHead
  cases hName : c.name with
  | nil => exact c.ne_nil hName
  | cons x xs => simp [hName] at hHead

end Fuse

end OsHomework

------------------------------------------------------------
-- Runs of Calls
------------------------------------------------------------

namespace OsHomework

namespace Fuse

/-
  The calls of a run, on the paths FUSE passes; `mkdir` comes
  with the parent directory and the new name, as FUSE hands it.
-/
inductive GptOp
  | readdir (path : List Component)
  | getattr (path : List Component)
  | mkdir (parent : List Component) (name : Component)
  | read (path : List Component) (size offset : Nat)
  | write (path : List Component) (data : List UInt8) (offset : Nat)
      (reply : Except (List UInt8) (List UInt8))
  | openFile (path : List Component)
  | truncate (path : List Component) (length : Nat)

/- The state after a call: a call that raises leaves it as it was. -/
def GptFs.apply
    (fs : GptFs) : GptOp → GptFs
  | .mkdir parent name =>
      match fs.mkdir (render (parent ++ [name])) with
      | .ok fs' => fs'
      | .error _ => fs
  | .write path data offset reply =>
      match fs.write (render path) data offset reply with
      | .ok (fs', _) => fs'
      | .error _ => fs
  | .truncate path length =>
      match fs.truncate (render path) length with
      | .ok (fs', _) => fs'
      | .error _ => fs
  | _ => fs

/- GPTfs as a machine whose every call is taken. -/
def GptFs.step
    (fs : GptFs)
    (op : GptOp) : Option GptFs :=
  some (fs.apply op)

/- The session a call creates: the new directory of a `mkdir` that succeeds. -/
def GptFs.createdBy
    (fs : GptFs) : GptOp → List (List Char)
  | .mkdir parent name =>
      match fs.mkdir (render (parent ++ [name])) with
      | .ok _ => [name.name]
      | .error _ => []
  | _ => []

/- The sessions the calls of a run create, in order. -/
def GptFs.created : GptFs → List GptOp → List (List Char)
  | _, [] => []
  | fs, op :: ops => fs.createdBy op ++ GptFs.created (fs.apply op) ops

/- The paths GPTfs has: the root, a session's directory, a session's file. -/
def GptFs.Has
    (fs : GptFs) : List Component → Prop
  | [] => True
  | [s] => s.name ∈ fs.sessions.keys
  | [s, f] => s.name ∈ fs.sessions.keys ∧ f.name ∈ [inputName, outputName, errorName]
  | _ => False

/- A session's `input` file. -/
def GptFs.HasInput
    (fs : GptFs) : List Component → Prop
  | [s, f] => s.name ∈ fs.sessions.keys ∧ f.name = inputName
  | _ => False

/- A session's `output` and `error`. -/
def Session.replies
    (s : Session) : List UInt8 × List UInt8 :=
  (s.output, s.error)

end Fuse

end OsHomework

------------------------------------------------------------
-- What Each Call Answers
------------------------------------------------------------

namespace OsHomework

namespace Fuse

/- The three file names differ. -/
theorem fileNames_ne :
    outputName ≠ inputName ∧ errorName ≠ inputName ∧ errorName ≠ outputName := by
  decide

theorem Session.get_eq_none_iff
    (s : Session)
    (filename : List Char) :
    s.get filename = none ↔ filename ∉ [inputName, outputName, errorName] := by
  obtain ⟨hOutIn, hErrIn, hErrOut⟩ := fileNames_ne
  unfold Session.get
  by_cases hIn : filename = inputName
  · simp [hIn]
  · by_cases hOut : filename = outputName
    · simp [hOut, hOutIn]
    · by_cases hErr : filename = errorName
      · simp [hErr, hErrIn, hErrOut]
      · simp [hIn, hOut, hErr]

/- `getattr` accepts exactly the root, the sessions and their three files. -/
theorem GptFs.getattr_ok_iff
    (fs : GptFs)
    (p : List Component) :
    (∃ a, fs.getattr (render p) = .ok a) ↔ fs.Has p := by
  match p with
  | [] => simp [GptFs.getattr, render, GptFs.Has]
  | [s] =>
      simp only [GptFs.getattr, if_neg (render_cons_ne_root s []),
        pathParts_render_cons, List.map_nil, GptFs.Has]
      by_cases hMem : s.name ∈ fs.sessions.keys
      · simp [hMem]
      · simp [hMem]
  | [s, f] =>
      simp only [GptFs.getattr, if_neg (render_cons_ne_root s [f]),
        pathParts_render_cons, List.map_cons, List.map_nil, GptFs.Has]
      cases hGet : fs.sessions.get? s.name with
      | none =>
          have hNot := (PyDict.get?_eq_none_iff _ _).mp hGet
          simp [hNot]
      | some sess =>
          have hMem := (PyDict.mem_keys_iff _ _).mpr ⟨sess, hGet⟩
          by_cases hIn : f.name ∈ [inputName]
          · simp only [List.mem_singleton] at hIn
            simp [hMem, hIn]
          · by_cases hOther : f.name ∈ [outputName, errorName]
            · simp [hMem, hIn, hOther]
            · simp only [List.mem_singleton] at hIn
              simp only [List.mem_cons, List.not_mem_nil, or_false, not_or] at hOther
              simp [hMem, hIn, hOther]
  | s :: f :: g :: rest =>
      simp only [GptFs.getattr, if_neg (render_cons_ne_root s (f :: g :: rest)),
        pathParts_render_cons, List.map_cons, GptFs.Has]
      simp

/- `open` succeeds exactly on the two-name paths `getattr` accepts. -/
theorem GptFs.openFile_ok_iff
    (fs : GptFs)
    (p : List Component) :
    (∃ r, fs.openFile (render p) = .ok r) ↔ p.length = 2 ∧ fs.Has p := by
  match p with
  | [] => simp [GptFs.openFile, pathParts_root]
  | [s] => simp [GptFs.openFile, pathParts_render_cons]
  | [s, f] =>
      simp only [GptFs.openFile, pathParts_render_cons, List.map_cons, List.map_nil,
        GptFs.Has, List.length_cons, List.length_nil]
      cases hGet : fs.sessions.get? s.name with
      | none => simp [(PyDict.get?_eq_none_iff _ _).mp hGet]
      | some sess =>
          have hMem := (PyDict.mem_keys_iff _ _).mpr ⟨sess, hGet⟩
          by_cases hName : f.name ∈ [inputName, outputName, errorName]
          · simp only [hMem, hName, not_true_eq_false, if_false, and_self, iff_true]
            exact ⟨0, rfl⟩
          · simp only [hMem, hName, not_false_eq_true, if_true, and_false, iff_false]
            simp
  | s :: f :: g :: rest => simp [GptFs.openFile, pathParts_render_cons]

/- So does `read`, whatever the size and offset. -/
theorem GptFs.read_ok_iff
    (fs : GptFs)
    (p : List Component)
    (size offset : Nat) :
    (∃ r, fs.read (render p) size offset = .ok r) ↔ p.length = 2 ∧ fs.Has p := by
  match p with
  | [] => simp [GptFs.read, pathParts_root]
  | [s] => simp [GptFs.read, pathParts_render_cons]
  | [s, f] =>
      simp only [GptFs.read, pathParts_render_cons, List.map_cons, List.map_nil,
        GptFs.Has, List.length_cons, List.length_nil]
      cases hGet : fs.sessions.get? s.name with
      | none => simp [(PyDict.get?_eq_none_iff _ _).mp hGet]
      | some sess =>
          have hMem := (PyDict.mem_keys_iff _ _).mpr ⟨sess, hGet⟩
          cases hFile : sess.get f.name with
          | none => simp [hMem, hFile, (Session.get_eq_none_iff _ _).mp hFile]
          | some content =>
              have hName : f.name ∈ [inputName, outputName, errorName] := by
                by_contra hNot
                rw [(Session.get_eq_none_iff _ _).mpr hNot] at hFile
                cases hFile
              simp [hMem, hName, hFile]
  | s :: f :: g :: rest => simp [GptFs.read, pathParts_render_cons]

/- `write` succeeds exactly on a session's `input`. -/
theorem GptFs.write_ok_iff
    (fs : GptFs)
    (p : List Component)
    (data : List UInt8)
    (offset : Nat)
    (reply : Except (List UInt8) (List UInt8)) :
    (∃ x, fs.write (render p) data offset reply = .ok x) ↔ fs.HasInput p := by
  match p with
  | [] => simp [GptFs.write, pathParts_root, GptFs.HasInput]
  | [s] => simp [GptFs.write, pathParts_render_cons, GptFs.HasInput]
  | [s, f] =>
      simp only [GptFs.write, pathParts_render_cons, List.map_cons, List.map_nil,
        GptFs.HasInput]
      cases hGet : fs.sessions.get? s.name with
      | none => simp [(PyDict.get?_eq_none_iff _ _).mp hGet]
      | some sess =>
          have hMem := (PyDict.mem_keys_iff _ _).mpr ⟨sess, hGet⟩
          by_cases hIn : f.name = inputName
          · simp [hMem, hIn]
          · simp [hMem, hIn]
  | s :: f :: g :: rest => simp [GptFs.write, pathParts_render_cons, GptFs.HasInput]

/- So does `truncate`, whatever the length. -/
theorem GptFs.truncate_ok_iff
    (fs : GptFs)
    (p : List Component)
    (length : Nat) :
    (∃ x, fs.truncate (render p) length = .ok x) ↔ fs.HasInput p := by
  match p with
  | [] => simp [GptFs.truncate, pathParts_root, GptFs.HasInput]
  | [s] => simp [GptFs.truncate, pathParts_render_cons, GptFs.HasInput]
  | [s, f] =>
      simp only [GptFs.truncate, pathParts_render_cons, List.map_cons, List.map_nil,
        GptFs.HasInput]
      cases hGet : fs.sessions.get? s.name with
      | none => simp [(PyDict.get?_eq_none_iff _ _).mp hGet]
      | some sess =>
          have hMem := (PyDict.mem_keys_iff _ _).mpr ⟨sess, hGet⟩
          by_cases hIn : f.name = inputName
          · -- each of the three length cases answers
            simp only [hIn, ne_eq, not_true_eq_false, if_false, hMem, and_self, iff_true]
            split_ifs <;> exact ⟨_, rfl⟩
          · simp [hMem, hIn]
  | s :: f :: g :: rest =>
      simp [GptFs.truncate, pathParts_render_cons, GptFs.HasInput]

/- `mkdir` succeeds exactly on a name in the root that is not a session yet. -/
theorem GptFs.mkdir_ok_iff
    (fs : GptFs)
    (parent : List Component)
    (name : Component) :
    (∃ fs', fs.mkdir (render (parent ++ [name])) = .ok fs') ↔
      parent = [] ∧ name.name ∉ fs.sessions.keys := by
  match parent with
  | [] =>
      by_cases hMem : name.name ∈ fs.sessions.keys
      · simp [GptFs.mkdir, pathParts_render_cons, hMem]
      · simp [GptFs.mkdir, pathParts_render_cons, hMem]
  | c :: cs =>
      -- below a session there are no directories
      have hParts : pathParts (render (c :: (cs ++ [name]))) =
          c.name :: (cs ++ [name]).map Component.name :=
        pathParts_render_cons c (cs ++ [name])
      rw [List.cons_append, GptFs.mkdir, hParts]
      cases cs with
      | nil => simp
      | cons d ds => simp

/- `mkdir` of an existing session raises `EEXIST`. -/
theorem GptFs.mkdir_eexist
    {fs : GptFs}
    {name : Component}
    (hMem : name.name ∈ fs.sessions.keys) :
    fs.mkdir (render [name]) = .error EEXIST := by
  simp [GptFs.mkdir, pathParts_render_cons, hMem]

end Fuse

end OsHomework

------------------------------------------------------------
-- What Each Call Changes
------------------------------------------------------------

namespace OsHomework

namespace Fuse

@[simp]
theorem GptFs.setSession_sessions
    (fs : GptFs)
    (session : List Char)
    (s : Session) :
    (fs.setSession session s).sessions = fs.sessions.set session s :=
  rfl

/- A `mkdir` that succeeds adds its name as a new, empty session. -/
theorem GptFs.mkdir_eq_ok
    {fs fs' : GptFs}
    {parent : List Component}
    {name : Component}
    (hOk : fs.mkdir (render (parent ++ [name])) = .ok fs') :
    parent = [] ∧ name.name ∉ fs.sessions.keys ∧
      fs' = fs.setSession name.name .empty := by
  obtain ⟨hRoot, hNew⟩ := (GptFs.mkdir_ok_iff fs parent name).mp ⟨fs', hOk⟩
  subst hRoot
  have hEq : fs.mkdir (render [name]) = .ok (fs.setSession name.name .empty) := by
    simp [GptFs.mkdir, pathParts_render_cons, hNew]
  refine ⟨rfl, hNew, ?_⟩
  rw [List.nil_append, hEq] at hOk
  exact (Except.ok.inj hOk).symm

/- A `write` that succeeds stores `Session.write` for a session's input. -/
theorem GptFs.write_eq_ok
    {fs fs' : GptFs}
    {p : List Component}
    {data : List UInt8}
    {offset n : Nat}
    {reply : Except (List UInt8) (List UInt8)}
    (hOk : fs.write (render p) data offset reply = .ok (fs', n)) :
    ∃ s f sess, p = [s, f] ∧ f.name = inputName ∧
      fs.sessions.get? s.name = some sess ∧
      fs' = fs.setSession s.name (sess.write data offset reply) ∧
      n = data.length := by
  obtain hHas := (GptFs.write_ok_iff fs p data offset reply).mp ⟨_, hOk⟩
  match p, hHas with
  | [s, f], ⟨hMem, hIn⟩ =>
      obtain ⟨sess, hGet⟩ := (PyDict.mem_keys_iff _ _).mp hMem
      simp only [GptFs.write, pathParts_render_cons, List.map_cons, List.map_nil,
        hGet, hIn, ne_eq, not_true_eq_false, if_false] at hOk
      obtain ⟨hState, hLen⟩ := Prod.mk.inj (Except.ok.inj hOk)
      exact ⟨s, f, sess, rfl, hIn, hGet, hState.symm, hLen.symm⟩

/-
  A `truncate` that succeeds leaves the state, or stores a new
  input for a session.
-/
theorem GptFs.truncate_eq_ok
    {fs fs' : GptFs}
    {p : List Component}
    {length n : Nat}
    (hOk : fs.truncate (render p) length = .ok (fs', n)) :
    ∃ s f sess, p = [s, f] ∧ f.name = inputName ∧
      fs.sessions.get? s.name = some sess ∧
      (fs' = fs ∨ ∃ input, fs' = fs.setSession s.name { sess with input := input }) := by
  obtain hHas := (GptFs.truncate_ok_iff fs p length).mp ⟨_, hOk⟩
  match p, hHas with
  | [s, f], ⟨hMem, hIn⟩ =>
      obtain ⟨sess, hGet⟩ := (PyDict.mem_keys_iff _ _).mp hMem
      refine ⟨s, f, sess, rfl, hIn, hGet, ?_⟩
      simp only [GptFs.truncate, pathParts_render_cons, List.map_cons, List.map_nil,
        hGet, hIn, ne_eq, not_true_eq_false, if_false] at hOk
      -- the three length cases of the source
      split_ifs at hOk
      · exact .inr ⟨_, (Prod.mk.inj (Except.ok.inj hOk)).1.symm⟩
      · exact .inr ⟨_, (Prod.mk.inj (Except.ok.inj hOk)).1.symm⟩
      · exact .inl (Prod.mk.inj (Except.ok.inj hOk)).1.symm

/- Whether a call is a `write`. -/
def GptOp.IsWrite : GptOp → Bool
  | .write .. => true
  | _ => false

/- Each call adds to the sessions exactly the one it creates. -/
theorem GptFs.keys_apply
    (fs : GptFs)
    (op : GptOp) :
    (fs.apply op).sessions.keys = fs.sessions.keys ++ fs.createdBy op := by
  cases op with
  | mkdir parent name =>
      simp only [GptFs.apply, GptFs.createdBy]
      cases hMk : fs.mkdir (render (parent ++ [name])) with
      | error e => simp
      | ok fs' =>
          obtain ⟨-, hNew, rfl⟩ := GptFs.mkdir_eq_ok hMk
          simp only [GptFs.setSession_sessions]
          exact PyDict.keys_set_of_not_mem _ hNew
  | write p data offset reply =>
      simp only [GptFs.apply, GptFs.createdBy, List.append_nil]
      cases hW : fs.write (render p) data offset reply with
      | error e => rfl
      | ok r =>
          obtain ⟨fs', n⟩ := r
          obtain ⟨s, f, sess, -, -, hGet, rfl, -⟩ := GptFs.write_eq_ok hW
          exact PyDict.keys_set_of_mem _ ((PyDict.mem_keys_iff _ _).mpr ⟨sess, hGet⟩)
  | truncate p length =>
      simp only [GptFs.apply, GptFs.createdBy, List.append_nil]
      cases hT : fs.truncate (render p) length with
      | error e => rfl
      | ok r =>
          obtain ⟨fs', n⟩ := r
          obtain ⟨s, f, sess, -, -, hGet, hState⟩ := GptFs.truncate_eq_ok hT
          rcases hState with rfl | ⟨input, rfl⟩
          · rfl
          · exact PyDict.keys_set_of_mem _ ((PyDict.mem_keys_iff _ _).mpr ⟨sess, hGet⟩)
  | readdir p => simp [GptFs.apply, GptFs.createdBy]
  | getattr p => simp [GptFs.apply, GptFs.createdBy]
  | read p size offset => simp [GptFs.apply, GptFs.createdBy]
  | openFile p => simp [GptFs.apply, GptFs.createdBy]

/- A call other than `write` leaves every session's `output` and `error`. -/
theorem GptFs.replies_apply_of_not_write
    (fs : GptFs)
    {op : GptOp}
    (hOp : op.IsWrite = false)
    {k : List Char}
    (hMem : k ∈ fs.sessions.keys) :
    ((fs.apply op).sessions.get? k).map Session.replies =
      (fs.sessions.get? k).map Session.replies := by
  cases op with
  | mkdir parent name =>
      simp only [GptFs.apply]
      cases hMk : fs.mkdir (render (parent ++ [name])) with
      | error e => rfl
      | ok fs' =>
          obtain ⟨-, hNew, rfl⟩ := GptFs.mkdir_eq_ok hMk
          have hNe : k ≠ name.name := fun hEq => hNew (hEq ▸ hMem)
          rw [GptFs.setSession_sessions, PyDict.get?_set_of_ne _ _ hNe]
  | write p data offset reply => cases hOp
  | truncate p length =>
      simp only [GptFs.apply]
      cases hT : fs.truncate (render p) length with
      | error e => rfl
      | ok r =>
          obtain ⟨fs', n⟩ := r
          obtain ⟨s, f, sess, -, -, hGet, hState⟩ := GptFs.truncate_eq_ok hT
          rcases hState with rfl | ⟨input, rfl⟩
          · rfl
          · rw [GptFs.setSession_sessions]
            by_cases hEq : k = s.name
            · subst hEq
              rw [PyDict.get?_set_self, hGet]
              rfl
            · rw [PyDict.get?_set_of_ne _ _ hEq]
  | readdir p => rfl
  | getattr p => rfl
  | read p size offset => rfl
  | openFile p => rfl

end Fuse

end OsHomework

------------------------------------------------------------
-- Every Reachable State
------------------------------------------------------------

namespace OsHomework

namespace Fuse

/-
  What holds in every reachable state: each session is named by
  a name FUSE can pass, and no session has both a reply and an
  error.
-/
structure GptInv
    (fs : GptFs) : Prop where
  names : ∀ k ∈ fs.sessions.keys, ∃ c : Component, c.name = k
  replies : ∀ k s, fs.sessions.get? k = some s → s.output = [] ∨ s.error = []

theorem GptInv.init :
    GptInv GptFs.init where
  names := by
    intro k hk
    cases hk
  replies := by
    intro k s hGet
    cases hGet

/- `write` leaves at most one of `output` and `error` nonempty. -/
theorem Session.write_replies
    (s : Session)
    (data : List UInt8)
    (offset : Nat)
    (reply : Except (List UInt8) (List UInt8)) :
    (s.write data offset reply).output = [] ∨ (s.write data offset reply).error = [] := by
  cases reply with
  | ok output => exact .inr rfl
  | error e => exact .inl rfl

/- Storing a session whose replies are fine keeps the invariant's second part. -/
theorem GptInv.replies_setSession
    {fs : GptFs}
    (hInv : GptInv fs)
    {session : List Char}
    {s : Session}
    (hS : s.output = [] ∨ s.error = []) :
    ∀ k s', (fs.setSession session s).sessions.get? k = some s' →
      s'.output = [] ∨ s'.error = [] := by
  intro k s' hGet
  rw [GptFs.setSession_sessions] at hGet
  by_cases hEq : k = session
  · subst hEq
    rw [PyDict.get?_set_self, Option.some.injEq] at hGet
    exact hGet ▸ hS
  · rw [PyDict.get?_set_of_ne _ _ hEq] at hGet
    exact hInv.replies k s' hGet

theorem GptInv.apply
    {fs : GptFs}
    (hInv : GptInv fs)
    (op : GptOp) :
    GptInv (fs.apply op) where
  names := by
    intro k hk
    rw [GptFs.keys_apply, List.mem_append] at hk
    rcases hk with hOld | hNew
    · exact hInv.names k hOld
    · -- the session a `mkdir` creates is named by its last component
      cases op with
      | mkdir parent name =>
          simp only [GptFs.createdBy] at hNew
          split at hNew
          · exact ⟨name, (List.mem_singleton.mp hNew).symm⟩
          · cases hNew
      | _ => simp [GptFs.createdBy] at hNew
  replies := by
    cases op with
    | mkdir parent name =>
        simp only [GptFs.apply]
        cases hMk : fs.mkdir (render (parent ++ [name])) with
        | error e => exact hInv.replies
        | ok fs' =>
            obtain ⟨-, -, rfl⟩ := GptFs.mkdir_eq_ok hMk
            exact hInv.replies_setSession (.inl rfl)
    | write p data offset reply =>
        simp only [GptFs.apply]
        cases hW : fs.write (render p) data offset reply with
        | error e => exact hInv.replies
        | ok r =>
            obtain ⟨fs', n⟩ := r
            obtain ⟨s, f, sess, -, -, -, rfl, -⟩ := GptFs.write_eq_ok hW
            exact hInv.replies_setSession (Session.write_replies _ _ _ _)
    | truncate p length =>
        simp only [GptFs.apply]
        cases hT : fs.truncate (render p) length with
        | error e => exact hInv.replies
        | ok r =>
            obtain ⟨fs', n⟩ := r
            obtain ⟨s, f, sess, -, -, hGet, hState⟩ := GptFs.truncate_eq_ok hT
            rcases hState with rfl | ⟨input, rfl⟩
            · exact hInv.replies
            · exact hInv.replies_setSession (hInv.replies s.name sess hGet)
    | readdir p => exact hInv.replies
    | getattr p => exact hInv.replies
    | read p size offset => exact hInv.replies
    | openFile p => exact hInv.replies

theorem GptInv.reachable
    {fs : GptFs}
    (hReach : Machine.Reachable GptFs.step GptFs.init fs) :
    GptInv fs :=
  Machine.Reachable.invariant GptInv GptInv.init
    (fun s s' op hInv hStep => by
      rw [GptFs.step, Option.some.injEq] at hStep
      exact hStep ▸ hInv.apply op)
    hReach

/- The sessions after a run: those before it, then those it created. -/
theorem GptFs.keys_run
    (ops : List GptOp) :
    ∀ (fs fs' : GptFs), Machine.run GptFs.step fs ops = some fs' →
      fs'.sessions.keys = fs.sessions.keys ++ fs.created ops := by
  induction ops with
  | nil =>
      intro fs fs' hRun
      rw [Machine.run_nil, Option.some.injEq] at hRun
      rw [← hRun, GptFs.created, List.append_nil]
  | cons op ops ih =>
      intro fs fs' hRun
      rw [Machine.run_cons, GptFs.step, Option.bind_some] at hRun
      rw [ih (fs.apply op) fs' hRun, GptFs.keys_apply, GptFs.created,
        List.append_assoc]

/-
  `readdir("/")` after a run lists `.`, `..` and the sessions the
  run created, each of them once.
-/
theorem GptFs.readdir_root_run
    {ops : List GptOp}
    {fs : GptFs}
    (hRun : Machine.run GptFs.step GptFs.init ops = some fs) :
    fs.readdir (render []) =
        .ok (".".toList :: "..".toList :: GptFs.init.created ops) ∧
      ∀ k ∈ GptFs.init.created ops,
        (".".toList :: "..".toList :: GptFs.init.created ops).count k = 1 := by
  have hKeys : fs.sessions.keys = GptFs.init.created ops := by
    rw [GptFs.keys_run ops GptFs.init fs hRun]
    rfl
  have hInv := GptInv.reachable (Machine.reachable_of_run hRun)
  refine ⟨by simp [GptFs.readdir, render, hKeys], ?_⟩
  intro k hk
  rw [← hKeys] at hk ⊢
  -- a session's name is neither `.` nor `..`, and the keys are distinct
  obtain ⟨c, hc⟩ := hInv.names k hk
  subst hc
  have hDot : (".".toList == c.name) = false := beq_eq_false_iff_ne.mpr c.ne_dot.symm
  have hDotDot : ("..".toList == c.name) = false :=
    beq_eq_false_iff_ne.mpr c.ne_dotdot.symm
  simp only [List.count_cons, hDot, hDotDot, Bool.false_eq_true, if_false, Nat.add_zero]
  exact List.count_eq_one_of_mem fs.sessions.nodup hk

end Fuse

end OsHomework

------------------------------------------------------------
-- The Directory Tree GPTfs Shows
------------------------------------------------------------

namespace OsHomework

namespace Fuse

/-
  After any run of calls on the paths FUSE passes, GPTfs's
  answers agree with one tree: `getattr` accepts the root, the
  sessions and their files `input`, `output` and `error`;
  `readdir("/")` lists the sessions the run created, each once;
  `mkdir` succeeds on a new name in the root, raises `EEXIST` on
  an existing session and changes no existing session; `open`
  and `read` succeed on the files `getattr` accepts; `write` and
  `truncate` succeed on a session's `input`.  No session has both
  a reply and an error, and only `write` changes them.
-/
theorem gptfs_calls_agree_on_sessions
    (ops : List GptOp)
    (fs : GptFs)
    (hRun : Machine.run GptFs.step GptFs.init ops = some fs) :
    (∀ p, (∃ a, fs.getattr (render p) = .ok a) ↔ fs.Has p) ∧
    (fs.readdir (render []) =
        .ok (".".toList :: "..".toList :: GptFs.init.created ops) ∧
      ∀ k ∈ GptFs.init.created ops,
        (".".toList :: "..".toList :: GptFs.init.created ops).count k = 1) ∧
    (∀ parent name,
      ((∃ fs', fs.mkdir (render (parent ++ [name])) = .ok fs') ↔
          parent = [] ∧ name.name ∉ fs.sessions.keys) ∧
      (name.name ∈ fs.sessions.keys → fs.mkdir (render [name]) = .error EEXIST) ∧
      ∀ fs', fs.mkdir (render (parent ++ [name])) = .ok fs' →
        ∀ k ∈ fs.sessions.keys, fs'.sessions.get? k = fs.sessions.get? k) ∧
    (∀ p, ((∃ r, fs.openFile (render p) = .ok r) ↔ p.length = 2 ∧ fs.Has p) ∧
      ∀ size offset,
        (∃ r, fs.read (render p) size offset = .ok r) ↔ p.length = 2 ∧ fs.Has p) ∧
    (∀ p, (∀ data offset reply,
        (∃ x, fs.write (render p) data offset reply = .ok x) ↔ fs.HasInput p) ∧
      ∀ length, (∃ x, fs.truncate (render p) length = .ok x) ↔ fs.HasInput p) ∧
    (∀ k s, fs.sessions.get? k = some s → s.output = [] ∨ s.error = []) ∧
    (∀ op, op.IsWrite = false → ∀ k ∈ fs.sessions.keys,
      ((fs.apply op).sessions.get? k).map Session.replies =
        (fs.sessions.get? k).map Session.replies) := by
  have hInv := GptInv.reachable (Machine.reachable_of_run hRun)
  refine ⟨GptFs.getattr_ok_iff fs, GptFs.readdir_root_run hRun, ?_, ?_, ?_,
    hInv.replies, fun op hOp k hk => GptFs.replies_apply_of_not_write fs hOp hk⟩
  · intro parent name
    refine ⟨GptFs.mkdir_ok_iff fs parent name, GptFs.mkdir_eexist, ?_⟩
    intro fs' hOk k hk
    obtain ⟨-, hNew, rfl⟩ := GptFs.mkdir_eq_ok hOk
    have hNe : k ≠ name.name := fun hEq => hNew (hEq ▸ hk)
    rw [GptFs.setSession_sessions, PyDict.get?_set_of_ne _ _ hNe]
  · intro p
    exact ⟨GptFs.openFile_ok_iff fs p, GptFs.read_ok_iff fs p⟩
  · intro p
    exact ⟨GptFs.write_ok_iff fs p, GptFs.truncate_ok_iff fs p⟩

/- The session directory and the input file of `test.sh`'s first `make_session`. -/
def session1 : Component :=
  ⟨"session1".toList, by decide, by decide, by decide, by decide⟩

def inputComponent : Component :=
  ⟨inputName, by decide, by decide, by decide, by decide⟩

/-
  `make_session "session1" ...`: `mkdir -p`, then `echo` into
  `input`, which truncates it and writes the prompt; the service
  answers.
-/
def makeSession : List GptOp :=
  [.mkdir [] session1,
   .truncate [session1, inputComponent] 0,
   .write [session1, inputComponent] [72, 101, 108, 108, 111, 10] 0 (.ok [72, 105])]

theorem gptfs_calls_agree_on_sessions_make_session :
    ((Machine.run GptFs.step GptFs.init makeSession).getD GptFs.init).readdir
        (render []) =
      .ok (".".toList :: "..".toList :: GptFs.init.created makeSession) ∧
    ∀ k ∈ GptFs.init.created makeSession,
      (".".toList :: "..".toList :: GptFs.init.created makeSession).count k = 1 :=
  (gptfs_calls_agree_on_sessions makeSession _ rfl).2.1

end Fuse

end OsHomework

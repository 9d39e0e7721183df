import OsHomework.SocketFair.Fairness
import OsHomework.Lib.Machine
import Mathlib.Data.List.Basic

/-
  The socket-fairness hooks of `network/socket/socket.patch` in
  their callers: `socket_fairness_init` in `copy_process`, the
  check and the increment in `__sock_create`, the decrement in
  `__sock_release`, and the `configure_socket_fairness` system
  call.

  `__sock_create` is modelled by its exits.  Before the
  fairness hunk it can return early (family, type,
  `security_socket_create`); after it, `sock_alloc` can fail,
  the protocol family can be missing, `pf->create` can fail
  (the error path clears `sock->ops` before `sock_release`), or
  `security_socket_post_create` can fail; otherwise the count
  of `current` is incremented and the socket is returned, still
  without a file.  `sock_alloc_file` sets `sock->file` later.
  A socket records, for the specification only, the thread
  that created it and whether it is a kernel socket; no hook
  reads these.

  Main declarations:
    * `Socket`, `Net`, `SockCreateExit`, `NetEvent`,
      `Net.step`, `Net.boot`
    * `sockReleaseHunk`, `sockCreate`, `sockRelease`
    * `Net.liveCreated`
-/

------------------------------------------------------------
-- Sockets and Threads
------------------------------------------------------------

namespace OsHomework

namespace SocketFair

/-
  The fields of `struct socket` the hunks read (whether `ops`,
  `sk` and `file` are set), and the ghost fields `creator` and
  `kern` the specification counts by.
-/
structure Socket where
  ops : Bool
  sk : Bool
  file : Bool
  creator : Nat
  kern : Bool
deriving DecidableEq, Repr

/- Each live thread's `socket_fair` by pid, the live sockets by id, the next id. -/
structure Net where
  threads : Nat → Option SocketFairness
  socks : List (Nat × Socket)
  nextSock : Nat

/- The other errno values of `__sock_create`. -/
def ENFILE : Int := 23
def EAFNOSUPPORT : Int := 97

/- Where `__sock_create` ends. -/
inductive SockCreateExit
  | beforeCheck (err : Int)
  | sockAlloc
  | noFamily
  | createFails (sk : Bool) (err : Int)
  | postCreateFails (err : Int)
  | ok
deriving DecidableEq, Repr

/-
  The `__sock_release` hunk, run by `current`: a socket with
  `ops`, `sk` and `file` all set decrements `current`'s count,
  whichever thread created it.
-/
def sockReleaseHunk
    (threads : Nat → Option SocketFairness)
    (current : Nat)
    (sock : Socket) : Nat → Option SocketFairness :=
  if sock.ops then
    if sock.sk && sock.file then
      Function.update threads current
        (socketFairnessDecCount (threads current))
    else threads
  else threads

/- The live socket with id `id`. -/
def Net.findSock
    (net : Net)
    (id : Nat) : Option Socket :=
  net.socks.lookup id

/-
  `__sock_create` by thread `current` for `kern`, ending at
  `exit`.  The result is the new state and the return code.
  The fairness hunk refuses a user socket with `-EMFILE`
  before anything is allocated; an error exit after it
  releases the half-built socket, which has no file yet.
-/
def sockCreate
    (net : Net)
    (current : Nat)
    (kern : Bool)
    (exit : SockCreateExit) : Option (Net × Int) :=
  match net.threads current with
  | none => none
  | some _ =>
      let refused :=
        !kern && !socketFairnessCheckAllowed (net.threads current)
      let release := fun (sock : Socket) =>
        { net with threads := sockReleaseHunk net.threads current sock }
      match exit with
      | .beforeCheck err => some (net, err)
      | .sockAlloc =>
          some (if refused then (net, -EMFILE) else (net, -ENFILE))
      | .noFamily =>
          some (if refused then (net, -EMFILE)
            else (release ⟨false, false, false, current, kern⟩,
              -EAFNOSUPPORT))
      | .createFails sk err =>
          some (if refused then (net, -EMFILE)
            else (release ⟨false, sk, false, current, kern⟩, err))
      | .postCreateFails err =>
          some (if refused then (net, -EMFILE)
            else (release ⟨true, true, false, current, kern⟩, err))
      | .ok =>
          some (if refused then (net, -EMFILE)
            else
              let threads :=
                if !kern then
                  Function.update net.threads current
                    (socketFairnessIncCount (net.threads current)).1
                else net.threads
              ({ threads := threads
                 socks := (net.nextSock, ⟨true, true, false, current, kern⟩) :: net.socks
                 nextSock := net.nextSock + 1 },
                0))

/-
  `__sock_release` of live socket `id` by thread `current`: the
  hunk, then the socket is gone.
-/
def sockRelease
    (net : Net)
    (current id : Nat) : Option Net :=
  match net.threads current, net.findSock id with
  | some _, some sock =>
      some { net with
        threads := sockReleaseHunk net.threads current sock
        socks := net.socks.filter (fun e => e.1 != id) }
  | _, _ => none

/- `sock_alloc_file` gives live socket `id` its file. -/
def sockAllocFile
    (net : Net)
    (id : Nat) : Option Net :=
  match net.findSock id with
  | some _ =>
      some { net with
        socks := net.socks.map fun e =>
          if e.1 = id then (e.1, { e.2 with file := true }) else e }
  | none => none

/- The `copy_process` hunk: the new thread's record from the header's init. -/
def spawnThread
    (net : Net)
    (parent child : Nat) : Option Net :=
  match net.threads parent, net.threads child with
  | some _, none =>
      some { net with
        threads := Function.update net.threads child (some socketFairnessInitH) }
  | _, _ => none

/- The events of a run. -/
inductive NetEvent
  | spawn (parent child : Nat)
  | create (current : Nat) (kern : Bool) (exit : SockCreateExit)
  | allocFile (id : Nat)
  | release (current id : Nat)
  | configure (pid : Nat) (maxSockets : Int)
deriving DecidableEq, Repr

/- One event. -/
def Net.step
    (net : Net) : NetEvent → Option Net
  | .spawn parent child => spawnThread net parent child
  | .create current kern exit =>
      (sockCreate net current kern exit).map Prod.fst
  | .allocFile id => sockAllocFile net id
  | .release current id => sockRelease net current id
  | .configure pid maxSockets =>
      some { net with
        threads := (socketFairnessConfigure net.threads pid maxSockets).1 }

/- At boot thread 1 runs with a record from `copy_process` and there are no sockets. -/
def Net.boot : Net where
  threads := Function.update (fun _ => none) 1 (some socketFairnessInitH)
  socks := []
  nextSock := 0

/- The live user sockets thread `t` created. -/
def Net.liveCreated
    (net : Net)
    (t : Nat) : Nat :=
  (net.socks.filter (fun e => e.2.creator == t && !e.2.kern)).length

end SocketFair

end OsHomework

------------------------------------------------------------
-- Creation Under the Limit and Over It
------------------------------------------------------------

namespace OsHomework

namespace SocketFair

variable {net : Net}

/- A thread under its limit gets its user socket, and its count goes up by one. -/
theorem sockCreate_ok_of_lt
    {t : Nat}
    {sf : SocketFairness}
    (hThread : net.threads t = some sf)
    (hUnder : sf.currentSocketCount < sf.maxSocketAllowed) :
    ∃ net', sockCreate net t false .ok = some (net', 0) ∧
      net'.threads =
        Function.update net.threads t
          (some { sf with currentSocketCount := sf.currentSocketCount + 1 }) ∧
      net'.liveCreated t = net.liveCreated t + 1 := by
  have hAllowed : socketFairnessCheckAllowed (some sf) = true := by
    cases hCheck : socketFairnessCheckAllowed (some sf) with
    | true => rfl
    | false =>
        rw [socketFairnessCheckAllowed_eq_false_iff] at hCheck
        omega
  refine ⟨{ threads := Function.update net.threads t
                (some { sf with currentSocketCount := sf.currentSocketCount + 1 })
            socks := (net.nextSock, ⟨true, true, false, t, false⟩) :: net.socks
            nextSock := net.nextSock + 1 },
    ?_, rfl, ?_⟩
  · simp [sockCreate, hThread, hAllowed]
  · simp [Net.liveCreated]

/-
  A thread at or over its limit is refused with `-EMFILE` at
  every exit after the fairness hunk, and nothing changes.
-/
theorem sockCreate_refused
    {t : Nat}
    {sf : SocketFairness}
    (hThread : net.threads t = some sf)
    (hOver : sf.maxSocketAllowed ≤ sf.currentSocketCount)
    {exit : SockCreateExit}
    (hAfter : ∀ err, exit ≠ .beforeCheck err) :
    sockCreate net t false exit = some (net, -EMFILE) := by
  have hRefused : socketFairnessCheckAllowed (some sf) = false :=
    (socketFairnessCheckAllowed_eq_false_iff sf).mpr hOver
  cases exit with
  | beforeCheck err => exact absurd rfl (hAfter err)
  | sockAlloc => simp [sockCreate, hThread, hRefused]
  | noFamily => simp [sockCreate, hThread, hRefused]
  | createFails sk err => simp [sockCreate, hThread, hRefused]
  | postCreateFails err => simp [sockCreate, hThread, hRefused]
  | ok => simp [sockCreate, hThread, hRefused]

/-
  Thread 1, never configured, creating user sockets from boot:
  after `n ≤ 1024` of them its record holds the default limit
  and count `n`, and it holds `n` live sockets.
-/
theorem run_create_unconfigured
    (n : Nat)
    (hn : n ≤ 1024) :
    ∃ net, Machine.run Net.step Net.boot
        (List.replicate n (.create 1 false .ok)) = some net ∧
      net.threads 1 = some ⟨socketFairDefaultMax, n⟩ ∧
      net.liveCreated 1 = n := by
  induction n with
  | zero =>
      exact ⟨Net.boot, rfl, by simp [Net.boot, socketFairnessInitH], rfl⟩
  | succ n ih =>
      rcases ih (by omega) with ⟨net, hRun, hThread, hLive⟩
      have hUnder :
          (⟨socketFairDefaultMax, n⟩ : SocketFairness).currentSocketCount <
            (⟨socketFairDefaultMax, n⟩ : SocketFairness).maxSocketAllowed := by
        simp only [socketFairDefaultMax]
        omega
      rcases sockCreate_ok_of_lt hThread hUnder with
        ⟨net', hCreate, hThreads', hLive'⟩
      refine ⟨net', ?_, ?_, ?_⟩
      · rw [List.replicate_succ', Machine.run_append, hRun]
        simp [Net.step, hCreate]
      · rw [hThreads', Function.update_self]
        simp
      · rw [hLive', hLive]

end SocketFair

end OsHomework

------------------------------------------------------------
-- Refusals and Counts That Disagree With the Sockets
------------------------------------------------------------

namespace OsHomework

namespace SocketFair

/-
  Thread 2 creates a user socket, it gets its file, and thread
  1 (sharing the descriptor table) closes it.
-/
def crossThreadRelease : List NetEvent :=
  [.spawn 1 2, .create 2 false .ok, .allocFile 0, .release 1 0]

/-
  After the cross-thread close, thread 1's count is -1 with no
  socket of its own, and thread 2's is 1 with its socket gone:
  the decrement lands on `current`, not on the creator.
-/
theorem sock_release_decrements_current :
    (Machine.run Net.step Net.boot crossThreadRelease).map
      (fun net =>
        ((net.threads 1).map SocketFairness.currentSocketCount,
          net.liveCreated 1,
          (net.threads 2).map SocketFairness.currentSocketCount,
          net.liveCreated 2)) =
      some (some (-1), 0, some 1, 0) := by
  decide

/-
  Thread 1 limits itself to one socket, closes a socket of
  thread 2, and then creates two.
-/
def limitBypass : List NetEvent :=
  crossThreadRelease.take 1 ++ [.configure 1 1] ++
    crossThreadRelease.drop 1 ++
    [.create 1 false .ok, .create 1 false .ok]

/-
  A never-configured thread is refused: from boot, its 1025th
  user socket gets `-EMFILE` (the header's default of 1024),
  and under `net/socket_fair.c`'s init, limit 0, its first one
  would be.  A configured limit of one is passed: after the
  cross-thread close thread 1 holds two sockets it created.
-/
theorem socket_fairness_refuses_unconfigured :
    (∃ net, Machine.run Net.step Net.boot
        (List.replicate 1024 (.create 1 false .ok)) = some net ∧
      net.liveCreated 1 = 1024 ∧
      sockCreate net 1 false .ok = some (net, -EMFILE)) ∧
    socketFairnessCheckAllowed (some socketFairnessInit) = false ∧
    (Machine.run Net.step Net.boot limitBypass).map
      (fun net =>
        ((net.threads 1).map SocketFairness.maxSocketAllowed,
          net.liveCreated 1)) =
      some (some 1, 2) := by
  refine ⟨?_, by decide, by decide⟩
  rcases run_create_unconfigured 1024 (Nat.le_refl _) with
    ⟨net, hRun, hThread, hLive⟩
  refine ⟨net, hRun, hLive, ?_⟩
  apply sockCreate_refused hThread
  · simp [socketFairDefaultMax]
  · intro err hExit
    cases hExit

end SocketFair

end OsHomework

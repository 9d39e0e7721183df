import Mathlib.Logic.Function.Basic
import Mathlib.Order.Basic

/-
  The per-thread socket limits of `net/socket_fair.c` and
  `include/linux/socket_fair.h` (from
  `network/socket/socket.patch`): the `socket_fairness` record
  of a thread, the two `socket_fairness_init` definitions, and
  the check, counter and configuration functions.

  A thread's record is `none` for a NULL task pointer, which
  every function tests first.  The record's spinlock makes
  each function atomic and is not modelled; `atomic_t` and
  `int` are integers.

  Main declarations:
    * `SocketFairness`, `socketFairnessInitH`,
      `socketFairnessInit`
    * `socketFairnessCheckAllowed`,
      `socketFairnessIncCount`, `socketFairnessDecCount`
    * `socketFairnessConfigure`
    * `socketFairnessCheckAllowed_eq_false_iff`
-/

------------------------------------------------------------
-- The Fairness Record
------------------------------------------------------------

namespace OsHomework

namespace SocketFair

/- `struct socket_fairness`: the limit and the counter. -/
structure SocketFairness where
  maxSocketAllowed : Int
  currentSocketCount : Int
deriving DecidableEq, Repr

/- `SOCKET_FAIR_DEFAULT_MAX`. -/
def socketFairDefaultMax : Int := 1024

/- The errno values the functions return. -/
def EMFILE : Int := 24
def EINVAL : Int := 22
def ESRCH : Int := 3

/-
  The header's `static inline socket_fairness_init`, the one
  `copy_process` sees through `linux/sched.h`: limit
  `SOCKET_FAIR_DEFAULT_MAX`, count 0.
-/
def socketFairnessInitH : SocketFairness :=
  ⟨socketFairDefaultMax, 0⟩

/-
  `socket_fairness_init` of `net/socket_fair.c`: count 0 and
  limit 0, commented "Default: no limit".
-/
def socketFairnessInit : SocketFairness :=
  ⟨0, 0⟩

/-
  `socket_fairness_check_allowed(task)`: true for a NULL task,
  otherwise false exactly when the count has reached the
  limit.
-/
def socketFairnessCheckAllowed :
    Option SocketFairness → Bool
  | none => true
  | some sf =>
      let currentCount := sf.currentSocketCount
      let maxAllowed := sf.maxSocketAllowed
      !decide (currentCount ≥ maxAllowed)

/- `socket_fairness_inc_count(task)`: the new record and the return code. -/
def socketFairnessIncCount :
    Option SocketFairness → Option SocketFairness × Int
  | none => (none, -EINVAL)
  | some sf =>
      (some { sf with currentSocketCount := sf.currentSocketCount + 1 }, 0)

/- `socket_fairness_dec_count(task)`. -/
def socketFairnessDecCount :
    Option SocketFairness → Option SocketFairness
  | none => none
  | some sf =>
      some { sf with currentSocketCount := sf.currentSocketCount - 1 }

/-
  `socket_fairness_configure(pid, max_sockets)` on the thread
  table: reject a limit outside `[0, 65536]`, then a pid with
  no task, else set the limit.  The result is the new table
  and the return code.
-/
def socketFairnessConfigure
    (threads : Nat → Option SocketFairness)
    (pid : Nat)
    (maxSockets : Int) : (Nat → Option SocketFairness) × Int :=
  if maxSockets < 0 ∨ maxSockets > 65536 then (threads, -EINVAL)
  else
    match threads pid with
    | none => (threads, -ESRCH)
    | some sf =>
        (Function.update threads pid
          (some { sf with maxSocketAllowed := maxSockets }), 0)

end SocketFair

end OsHomework

------------------------------------------------------------
-- What the Functions Do
------------------------------------------------------------

namespace OsHomework

namespace SocketFair

/- The check refuses a thread exactly when its count has reached its limit. -/
theorem socketFairnessCheckAllowed_eq_false_iff
    (sf : SocketFairness) :
    socketFairnessCheckAllowed (some sf) = false ↔
      sf.maxSocketAllowed ≤ sf.currentSocketCount := by
  simp [socketFairnessCheckAllowed]

@[simp]
theorem socketFairnessIncCount_some
    (sf : SocketFairness) :
    socketFairnessIncCount (some sf) =
      (some { sf with currentSocketCount := sf.currentSocketCount + 1 }, 0) :=
  rfl

@[simp]
theorem socketFairnessDecCount_some
    (sf : SocketFairness) :
    socketFairnessDecCount (some sf) =
      some { sf with currentSocketCount := sf.currentSocketCount - 1 } :=
  rfl

/-
  A configuration succeeds exactly for a limit in `[0, 65536]`
  and a live pid, and then sets that thread's limit alone.
-/
theorem socketFairnessConfigure_eq_zero
    {threads : Nat → Option SocketFairness}
    {pid : Nat}
    {maxSockets : Int}
    (hOk : (socketFairnessConfigure threads pid maxSockets).2 = 0) :
    0 ≤ maxSockets ∧ maxSockets ≤ 65536 ∧
      ∃ sf, threads pid = some sf ∧
        (socketFairnessConfigure threads pid maxSockets).1 =
          Function.update threads pid
            (some { sf with maxSocketAllowed := maxSockets }) := by
  unfold socketFairnessConfigure at hOk ⊢
  by_cases hRange : maxSockets < 0 ∨ maxSockets > 65536
  · rw [if_pos hRange] at hOk
    simp [EINVAL] at hOk
  · rw [if_neg hRange] at hOk ⊢
    cases hThread : threads pid with
    | none =>
        rw [hThread] at hOk
        simp [ESRCH] at hOk
    | some sf =>
        simp only [not_or] at hRange
        exact ⟨by omega, by omega, sf, rfl, rfl⟩

/- A failed configuration leaves every thread as it was. -/
theorem socketFairnessConfigure_fst_of_ne_zero
    {threads : Nat → Option SocketFairness}
    {pid : Nat}
    {maxSockets : Int}
    (hFail : (socketFairnessConfigure threads pid maxSockets).2 ≠ 0) :
    (socketFairnessConfigure threads pid maxSockets).1 = threads := by
  unfold socketFairnessConfigure at hFail ⊢
  by_cases hRange : maxSockets < 0 ∨ maxSockets > 65536
  · rw [if_pos hRange]
  · rw [if_neg hRange] at hFail ⊢
    cases hThread : threads pid with
    | none => rfl
    | some sf =>
        rw [hThread] at hFail
        exact absurd rfl hFail

end SocketFair

end OsHomework

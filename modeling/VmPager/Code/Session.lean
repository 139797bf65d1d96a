import VmPager.Code.System

/-!
# What the processes see

A process asks for a page, loads and stores; it does not see faults. The infrastructure carries out a
request by a call; where the page table denies an access it calls `vm_fault`, and tries the access
again when that returns 0, as often as it takes. It also picks the page table of a new process and the
order in which `vm_destroy` happens to iterate over its set.
-/

namespace VmPager

open Lib.Transition

/-- What is asked of the infrastructure. -/
inductive Request where
  | create (parentPid childPid : Pid)
  | switch (pid : Pid)
  | map (filename : BitVec 64) (block : ℕ)
  | destroy
  | load (vpn : ℕ) (offset : Fin vmPagesize)
  | store (vpn : ℕ) (offset : Fin vmPagesize) (byte : UInt8)
  deriving DecidableEq

/-- The call carries out the request. -/
inductive Request.Calls : Request → Call → Prop
  | create {parentPid childPid : Pid} (childPtbr : Ptbr) :
      Calls (.create parentPid childPid) (.create parentPid childPid childPtbr)
  | switch {pid : Pid} : Calls (.switch pid) (.switch pid)
  | map {filename : BitVec 64} {block : ℕ} : Calls (.map filename block) (.map filename block)
  | destroy (order : IterOrder) : Calls .destroy (.destroy order)
  | load {vpn : ℕ} {offset : Fin vmPagesize} : Calls (.load vpn offset) (.load vpn offset)
  | store {vpn : ℕ} {offset : Fin vmPagesize} {byte : UInt8} :
      Calls (.store vpn offset byte) (.store vpn offset byte)

/-- The page that a request accesses, and whether it stores to it. -/
def Request.access : Request → Option (ℕ × Bool)
  | .load vpn _ => some (vpn, false)
  | .store vpn _ _ => some (vpn, true)
  | _ => none

/-- The request is carried out with `faults` calls of `vm_fault`; a fault that is refused is reported
to the process. -/
inductive Serves (u : Setup) : Kernel → Request → ℕ → Ret → Kernel → Prop
  | call {k k' : Kernel} {q : Request} {c : Call} {ret : Ret} (hq : q.Calls c)
      (hs : (system u).step k (c, ret) k') : Serves u k q 0 ret k'
  | refused {k k' : Kernel} {q : Request} {addr : BitVec 64} {w : Bool}
      (ha : q.access = some (arenaVpn addr, w))
      (hs : (system u).step k (.fault addr w, .code (-1)) k') : Serves u k q 1 (.code (-1)) k'
  | retried {k k' k'' : Kernel} {q : Request} {addr : BitVec 64} {w : Bool} {faults : ℕ} {ret : Ret}
      (ha : q.access = some (arenaVpn addr, w))
      (hs : (system u).step k (.fault addr w, .code 0) k') (h : Serves u k' q faults ret k'') :
      Serves u k q (faults + 1) ret k''

/-- A request and the answer. -/
abbrev Exchange := Request × Ret

/-- Sessions: `vm_init`, and then requests that are carried out one after the other. -/
def sessions (u : Setup) : System Kernel Exchange where
  init := (system u).init
  step k o k' := ∃ faults, Serves u k o.1 faults o.2 k'

theorem Serves.session {u : Setup} {k k' : Kernel} {q : Request} {faults : ℕ} {ret : Ret}
    (h : Serves u k q faults ret k') : (sessions u).step k (q, ret) k' :=
  ⟨faults, h⟩

/-- The states of sessions are those of runs. -/
theorem Serves.reaches {u : Setup} {k k' : Kernel} {q : Request} {faults : ℕ} {ret : Ret}
    (h : Serves u k q faults ret k') (hk : (system u).Reachable k) : (system u).Reachable k' := by
  induction h with
  | call _ hs => exact hk.step hs
  | refused _ hs => exact hk.step hs
  | retried _ hs _ ih => exact ih (hk.step hs)

theorem sessions_reachable {u : Setup} {k : Kernel} (h : (sessions u).Reachable k) :
    (system u).Reachable k := by
  apply h.invariant (I := (system u).Reachable)
  · exact fun c hc => .init hc
  · rintro c l c' hc ⟨faults, hs⟩
    exact hs.reaches hc

end VmPager

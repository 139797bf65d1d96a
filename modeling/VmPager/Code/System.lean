import VmPager.Code.Pager
import VmPager.Lib.Transition

/-!
# The pager and its infrastructure, as a transition system

The infrastructure calls the pager and runs the processes: it creates, switches to and ends
processes, carries out the loads and stores that the current page table permits, and turns the ones
it denies into calls of `vm_fault`. `Legal` says which calls it makes. `current` is the process the
infrastructure runs; the pager itself knows only the register of the MMU.
-/

namespace VmPager

open Lib.Exec Lib.Frames Lib.Transition

/-- What the infrastructure does next. -/
inductive Call where
  | create (parentPid childPid : Pid) (childPtbr : Ptbr)
  | switch (pid : Pid)
  | fault (addr : BitVec 64) (writeFlag : Bool)
  | map (filename : BitVec 64) (block : ℕ)
  | destroy (order : IterOrder)
  | load (vpn : ℕ) (offset : Fin vmPagesize)
  | store (vpn : ℕ) (offset : Fin vmPagesize) (byte : UInt8)

/-- What comes back. -/
inductive Ret where
  | done
  | code (res : ℤ)
  | addr (va : BitVec 64)
  | byte (b : UInt8)
  deriving DecidableEq, Repr

/-- The pager and the process that is running. -/
structure Kernel where
  pager : State
  current : Option Pid

/-- The entry `vpn` of the page table in the register. -/
def State.currentPte (s : State) (vpn : ℕ) : Pte :=
  match s.tables s.pageTableBaseRegister with
  | some t => t vpn
  | none => Pte.zero

/-- The access is permitted by the entry: a load by its read bit, a store by its write bit. -/
def Pte.permits (e : Pte) (write : Bool) : Bool := if write then e.writeEnable else e.readEnable

/-- The address lies in the arena, whether or not its page is valid. -/
def InArena (addr : BitVec 64) : Prop :=
  vmArenaBaseaddr.toNat ≤ addr.toNat ∧ addr.toNat < vmArenaBaseaddr.toNat + vmArenaSize

instance (addr : BitVec 64) : Decidable (InArena addr) := by unfold InArena; infer_instance

/-- The page of an address of the arena. -/
def arenaVpn (addr : BitVec 64) : ℕ := (addr.toNat - vmArenaBaseaddr.toNat) / vmPagesize

/-- A load by the MMU. -/
def loadByte (vpn : ℕ) (offset : Fin vmPagesize) : PagerM UInt8 := do
  let s ← get
  return s.physmem ((s.currentPte vpn).ppage * vmPagesize + offset)

/-- A store by the MMU. -/
def storeByte (vpn : ℕ) (offset : Fin vmPagesize) (byte : UInt8) : PagerM Unit :=
  modify fun s => { s with
    physmem := Function.update s.physmem ((s.currentPte vpn).ppage * vmPagesize + offset) byte }

/-- The calls the infrastructure makes. -/
def Legal (k : Kernel) : Call → Prop
  | .create _ childPid childPtbr =>
    k.pager.pageTables.lookup childPid = none ∧ k.pager.tables childPtbr = none ∧ childPtbr ≠ 0
  | .switch pid => (k.pager.pageTables.lookup pid).isSome
  | .fault addr writeFlag =>
    k.current.isSome ∧ InArena addr ∧
      (k.pager.currentPte (arenaVpn addr)).permits writeFlag = false
  | .map _ _ => k.current.isSome
  | .destroy _ => k.current.isSome
  | .load vpn _ => k.current.isSome ∧ vpn < numPtes ∧ (k.pager.currentPte vpn).permits false = true
  | .store vpn _ _ =>
    k.current.isSome ∧ vpn < numPtes ∧ (k.pager.currentPte vpn).permits true = true

instance (k : Kernel) (c : Call) : Decidable (Legal k c) := by
  cases c <;> unfold Legal <;> infer_instance

/-- Carry out a call. -/
def Call.exec : Call → PagerM Ret
  | .create parentPid childPid childPtbr => return .code (← vmCreate parentPid childPid childPtbr)
  | .switch pid => do vmSwitch pid; return .done
  | .fault addr writeFlag => return .code (← vmFault addr writeFlag)
  | .map filename block => return .addr (← vmMap filename block)
  | .destroy order => do vmDestroy order; return .done
  | .load vpn offset => return .byte (← loadByte vpn offset)
  | .store vpn offset byte => do storeByte vpn offset byte; return .done

/-- The process that runs after the call. -/
def Call.after (c : Call) (current : Option Pid) : Option Pid :=
  match c with
  | .switch pid => some pid
  | .destroy _ => none
  | _ => current

/-- The process exists after the call, which `current` makes, when it did `before`, or did not. -/
def Call.alive (c : Call) (current : Option Pid) (pid : Pid) (before : Bool) : Bool :=
  match c with
  | .create _ childPid _ => before || childPid = pid
  | .destroy _ => before && current ≠ some pid
  | _ => before

/-- The process that runs after the calls, newest first. -/
def runningAfter (calls : List Call) : Option Pid := calls.foldr Call.after none

/-- One of the calls, newest first, has created the process, and it has not ended since. -/
def aliveAfter (pid : Pid) : List Call → Bool
  | [] => false
  | c :: calls => c.alive (runningAfter calls) pid (aliveAfter pid calls)

/-! ### Runs -/

/-- What the pager is started with: the parameters of `vm_init`, and the contents of memory and disk
and the outcomes of the disk calls, which may be anything. -/
structure Setup where
  memoryPages : ℕ
  swapBlocks : ℕ
  physmem : ℕ → UInt8
  disk : Option Name → ℕ → Page
  writes : Stream' Bool
  reads : Stream' ReadOutcome
  memory_min : 2 ≤ memoryPages
  memory_max : memoryPages ≤ 65535
  swap_max : swapBlocks < 2 ^ 32

instance : Inhabited PageState :=
  ⟨⟨.swapBacked, 0, 0, false, false, false, 0, 0, none, 0, ∅⟩⟩

/-- The globals before `vm_init`. -/
def Setup.globals (u : Setup) : State where
  fileTable _ _ := none
  arenas _ := []
  pageTables := ∅
  physMemPages := []
  freePages := []
  activePages := []
  maxSize := 0
  freeBlocks := []
  maxBlocks := 0
  pageTableBaseRegister := 0
  pages _ := default
  nextPage := 0
  tables _ := none
  physmem := u.physmem
  disk := u.disk
  writes := u.writes
  reads := u.reads
  trace := []

/-- A call and what came back. -/
abbrev Label := Call × Ret

/-- The legal runs: `vm_init`, and then legal calls in any order. -/
def system (u : Setup) : System Kernel Label where
  init k := vmInit u.memoryPages u.swapBlocks u.globals = .ok ((), k.pager) ∧ k.current = none
  step k l k' :=
    Legal k l.1 ∧ l.1.exec k.pager = .ok (l.2, k'.pager) ∧ k'.current = l.1.after k.current

/-- A call has one result and one outcome. -/
theorem step_unique {u u' : Setup} {k m m' : Kernel} {c : Call} {ret ret' : Ret}
    (h : (system u).step k (c, ret) m) (h' : (system u').step k (c, ret') m') :
    ret' = ret ∧ m' = m := by
  obtain ⟨-, hrun, hcur⟩ := h
  obtain ⟨-, hrun', hcur'⟩ := h'
  rw [hrun, Except.ok.injEq, Prod.mk.injEq] at hrun'
  cases m
  cases m'
  simp_all

/-! ### Running a list of calls -/

/-- The kernel after a call, when the call is legal and returns. -/
def Kernel.next (k : Kernel) (c : Call) : Option Kernel :=
  if Legal k c then
    match c.exec k.pager with
    | .ok (_, s) => some ⟨s, c.after k.current⟩
    | .error _ => none
  else
    none

/-- The kernel after `vm_init` and a list of calls. -/
def Setup.run (u : Setup) (calls : List Call) : Option Kernel :=
  match vmInit u.memoryPages u.swapBlocks u.globals with
  | .ok (_, s) => calls.foldlM Kernel.next ⟨s, none⟩
  | .error _ => none

theorem Kernel.next_step {u : Setup} {k k' : Kernel} {c : Call} (h : k.next c = some k') :
    ∃ r, (system u).step k (c, r) k' := by
  unfold Kernel.next at h
  split at h
  · rename_i hl
    split at h
    · rename_i r s hs
      cases h
      exact ⟨r, hl, hs, rfl⟩
    · cases h
  · cases h

/-- The kernel after a call that is legal and returns. -/
def Kernel.call (k : Kernel) (c : Call) (h : (k.next c).isSome = true) : Kernel := (k.next c).get h

theorem Kernel.call_step (u : Setup) (k : Kernel) (c : Call) (h : (k.next c).isSome = true) :
    ∃ r, (system u).step k (c, r) (k.call c h) :=
  Kernel.next_step (Option.some_get h).symm

/-- With what comes back. -/
theorem Kernel.call_gives (u : Setup) (k : Kernel) (c : Call) (ret : Ret)
    (h : (k.next c).isSome = true) (hret : gives c.exec k.pager ret = true) :
    (system u).step k (c, ret) (k.call c h) := by
  obtain ⟨r, hs⟩ := k.call_step u c h
  obtain ⟨s', hexec⟩ := ok_of_gives hret
  obtain rfl : r = ret := by
    have hrun := hs.2.1
    rw [hexec] at hrun
    cases hrun
    rfl
  exact hs

/-- Running a list of calls is a run with these calls. -/
theorem Setup.run_labels {u : Setup} {calls : List Call} {k : Kernel} (h : u.run calls = some k) :
    ∃ ls, (system u).Run ls k ∧ ls.map Prod.fst = calls.reverse := by
  have key : ∀ (calls : List Call) (k₀ : Kernel) (ls₀ : List Label), (system u).Run ls₀ k₀ →
      calls.foldlM Kernel.next k₀ = some k →
      ∃ ls, (system u).Run ls k ∧ ls.map Prod.fst = calls.reverse ++ ls₀.map Prod.fst := by
    intro calls
    induction calls with
    | nil =>
      intro k₀ ls₀ h₀ hf
      cases hf
      exact ⟨ls₀, h₀, rfl⟩
    | cons c rest ih =>
      intro k₀ ls₀ h₀ hf
      rw [List.foldlM_cons] at hf
      obtain ⟨k₁, h₁, hf⟩ := Option.bind_eq_some_iff.1 hf
      obtain ⟨r, hs⟩ := Kernel.next_step (u := u) h₁
      obtain ⟨ls, hls, hcalls⟩ := ih k₁ _ (h₀.step hs) hf
      refine ⟨ls, hls, ?_⟩
      rw [hcalls, List.map_cons, List.reverse_cons, List.append_assoc]
      rfl
  unfold Setup.run at h
  split at h
  · rename_i s hs
    obtain ⟨ls, hls, hcalls⟩ := key calls ⟨s, none⟩ [] (.init ⟨hs, rfl⟩) h
    exact ⟨ls, hls, by rw [hcalls, List.map_nil, List.append_nil]⟩
  · cases h

/-- The kernels that running a list of calls leads to are reachable. -/
theorem Setup.reachable_of_run {u : Setup} {calls : List Call} {k : Kernel}
    (h : u.run calls = some k) : (system u).Reachable k := by
  obtain ⟨ls, hls, -⟩ := u.run_labels h
  exact ⟨ls, hls⟩

/-- The kernel after a list of calls that are all legal and return. -/
def Setup.kernel (u : Setup) (calls : List Call) (h : (u.run calls).isSome = true) : Kernel :=
  (u.run calls).get h

theorem Setup.kernel_run (u : Setup) (calls : List Call) (h : (u.run calls).isSome = true) :
    ∃ ls, (system u).Run ls (u.kernel calls h) ∧ ls.map Prod.fst = calls.reverse :=
  u.run_labels (Option.some_get h).symm

theorem Setup.kernel_reachable (u : Setup) (calls : List Call) (h : (u.run calls).isSome = true) :
    (system u).Reachable (u.kernel calls h) :=
  u.reachable_of_run (Option.some_get h).symm

/-- Two frames, of which one is the zero frame, three swap blocks, and disk calls that succeed. -/
def Setup.small : Setup where
  memoryPages := 2
  swapBlocks := 3
  physmem _ := 0
  disk _ _ := zeroPage
  writes _ := true
  reads _ := .success
  memory_min := by decide
  memory_max := by decide
  swap_max := by decide

/-- Nine frames more, and other bytes in memory. -/
def Setup.large : Setup :=
  { Setup.small with
    memoryPages := 11
    physmem := fun _ => 255
    memory_min := by decide
    memory_max := by decide }

/-- One frame more. -/
def Setup.three : Setup :=
  { Setup.small with
    memoryPages := 3
    memory_min := by decide
    memory_max := by decide }

/-- Three frames besides the zero frame, and a swap block more. -/
def Setup.four : Setup :=
  { Setup.small with
    memoryPages := 4
    swapBlocks := 4
    memory_min := by decide
    memory_max := by decide
    swap_max := by decide }

/-- The small machine with a disk that cannot be written. -/
def Setup.stuck : Setup := { Setup.small with writes := fun _ => false }

/-- Process 1 has two swap-backed pages and has stored to both; the first was evicted from the only
frame for the second. -/
def Kernel.small : Kernel :=
  Setup.small.kernel [.create 0 1 10, .switch 1, .map nullptr 0, .map nullptr 0,
    .fault (vpnToVa 0) true, .store 0 ⟨0, by decide⟩ 97, .fault (vpnToVa 1) true,
    .store 1 ⟨0, by decide⟩ 98] (by decide +kernel)

theorem Kernel.small_reachable : (system .small).Reachable Kernel.small :=
  Setup.small.kernel_reachable _ _

end VmPager

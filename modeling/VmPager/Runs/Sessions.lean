import VmPager.Abs.Ideal
import VmPager.Core.Moves
import VmPager.Runs.Fault
import VmPager.Runs.Memory
import VmPager.Runs.Names

/-!
# Paging is not seen

What the processes ask for and are answered is what the machine without frames would have answered.
When a disk call fails a request may be refused instead, and the machine is as before
(`Serves.answers`); when none fails the sessions of the pager are those of the machine, whatever the
number of frames.
-/

namespace VmPager

open Lib.Exec Lib.Transition

/-! ### The relation -/

/-- The pager and the machine are at the same point of a session. -/
structure Refines (u : Setup) (k : Kernel) (a : Ideal) : Prop where
  memory : Simulated u k a.memory
  blocks : a.freeBlocks = k.pager.freeBlocks.length

/-- The machine gives the answer; or a disk call has failed, and the request is refused. -/
def Answers (u : Setup) (k : Kernel) (a : Ideal) (q : Request) (ret : Ret) (k' : Kernel) : Prop :=
  (∃ a', a.serve u.disk q = some (ret, a') ∧ Refines u k' a') ∨
  ((a.serve u.disk q).isSome ∧ q.refusal = some ret ∧ Refines u k' a ∧ k.pager.DiskFailed k'.pager)

lemma refines_init {u : Setup} {k : Kernel} (h : (system u).init k) :
    Refines u k (.start u.swapBlocks) := by
  refine ⟨simulated_init h, ?_⟩
  rw [init_pager h]
  exact List.length_range.symm

section Machine

variable {disk : Option Name → ℕ → Page} {a : Ideal}

/-- A page is mapped: the machine does it when the memory does and there is a block. -/
lemma Ideal.map_of_next {filename : BitVec 64} {block : ℕ} {va : BitVec 64} {m' : Flat}
    (hnext : a.memory.map disk filename block va = some m') (hva : va ≠ nullptr)
    (hlen : a.memory.pages.length < numPtes) (hfree : filename = nullptr → a.freeBlocks ≠ 0) :
    a.map disk filename block =
      (.addr va, ⟨m', if filename = nullptr then a.freeBlocks - 1 else a.freeBlocks⟩) := by
  unfold Flat.map at hnext
  rw [if_neg hva] at hnext
  split at hnext
  · cases hnext
  · rename_i hnew
    rw [not_not] at hnew
    subst hnew
    rw [Ideal.map, if_neg (Nat.not_le.2 hlen)]
    split at hnext
    · rename_i hname
      cases hnext
      rw [if_pos hname, if_neg (hfree hname), if_pos hname]
    · rename_i hname
      obtain ⟨n, hn, rfl⟩ := Option.map_eq_some_iff.1 hnext
      rw [if_neg hname, hn, if_neg hname]

/-- No page is mapped. -/
lemma Ideal.map_null {filename : BitVec 64} {block : ℕ}
    (h : numPtes ≤ a.memory.pages.length ∨ (filename = nullptr ∧ a.freeBlocks = 0) ∨
      (filename ≠ nullptr ∧ a.memory.string disk filename = none)) :
    a.map disk filename block = (.addr nullptr, a) := by
  unfold Ideal.map
  split
  · rfl
  · rename_i hlen
    rcases h with hfull | ⟨hname, hfree⟩ | ⟨hname, hstr⟩
    · exact absurd hfull hlen
    · rw [if_pos hname, if_pos hfree]
    · rw [if_neg hname, hstr]

/-- An access is answered by what the request does to its page. -/
lemma Ideal.serve_access {q : Request} {vpn : ℕ} {w : Bool} (hq : q.access = some (vpn, w))
    (hcur : a.memory.current.isSome) (hvpn : vpn < numPtes) :
    ∃ found, a.serve disk q = some ((a.memory.pages[vpn]?).elim (.code (-1), a) found) := by
  cases q with
  | load =>
    cases hq
    exact ⟨_, if_pos ⟨hcur, hvpn⟩⟩
  | store =>
    cases hq
    exact ⟨_, if_pos ⟨hcur, hvpn⟩⟩
  | _ => cases hq

lemma Request.refusal_access {q : Request} {vpn : ℕ} {w : Bool} (hq : q.access = some (vpn, w)) :
    q.refusal = some (.code (-1)) := by
  cases q with
  | load => rfl
  | store => rfl
  | _ => cases hq

end Machine

/-! ### Calls -/

section Step

variable {u : Setup} {k k' : Kernel} {a : Ideal} (h : (system u).Reachable k) (hR : Refines u k a)
include h hR

/-- The process that runs is the one of the machine, and it has a page table. -/
lemma Refines.current (hcur : k.current.isSome) : a.memory.current.isSome ∧ ∃ pid,
    a.memory.current = some pid ∧
      k.pager.pageTables.lookup pid = some k.pager.pageTableBaseRegister := by
  obtain ⟨pid, hpid⟩ := Option.isSome_iff_exists.1 hcur
  have hm := hR.memory.1.trans hpid
  exact ⟨by rw [hm]; rfl, pid, hm, (Sound.reachable h).current hpid⟩

/-- The arena has as many pages. -/
lemma Refines.length (hcur : k.current.isSome) :
    a.memory.pages.length = k.pager.arenaSize := by
  obtain ⟨-, pid, hm, hpid⟩ := hR.current h hcur
  obtain ⟨-, logical, R⟩ := hR.memory
  rw [R.pages hm hpid, List.length_map]
  rfl

/-- A fault is not seen. -/
lemma Refines.fault {addr : BitVec 64} {w : Bool} {ret : Ret}
    (hs : (system u).step k (.fault addr w, ret) k') : Refines u k' a := by
  obtain ⟨m', hnext, hsim⟩ := simulated_step h hR.memory hs
  have hinv := (Sound.reachable h).inv
  have ho := step_outcome h hs
  obtain ⟨s', cur'⟩ := k'
  cases ho with
  | invalid =>
    cases hnext
    exact ⟨hsim, hR.blocks⟩
  | fault _ hslot hden =>
    cases hnext
    refine ⟨hsim, ?_⟩
    rw [(hinv.faultDenied hslot hden).2.layout.freeBlocks]
    exact hR.blocks

/-- A name that is not read is not there, or a disk call has failed. -/
lemma Refines.noName (hcur : k.current.isSome) {filename : BitVec 64} {s' : State}
    (hread : getFilename filename k.pager = .ok (none, s')) :
    a.memory.string u.disk filename = none ∨ k.pager.DiskFailed s' := by
  have hinv := (Sound.reachable h).inv
  obtain ⟨-, pid, hm, hpid⟩ := hR.current h hcur
  obtain ⟨-, logical, R⟩ := hR.memory
  rw [Flat.string, R.arenaBytes hm hpid]
  rcases (getFilename_spec hinv filename).elim hread with ⟨hva, -, -⟩ | ⟨hva, hname⟩
  · left
    rw [if_neg (by simp [hva])]
  · obtain ⟨failed, hhap, -, hnone⟩ := hname.happened
    rcases hnone rfl with hfailed | hnul
    · exact .inr (hhap.diskFailed.2 hfailed)
    · left
      rw [if_neg (by simp [hnul])]

/-- The swap blocks of the process that ends are free again. -/
lemma Refines.released (hcur : k.current.isSome) (pid : Pid) (ppns : List ℕ) :
    (k.pager.destroyed pid ppns).freeBlocks.length =
      a.freeBlocks + a.memory.pages.countP LogicalPage.isAnon := by
  have hinv := (Sound.reachable h).inv
  obtain ⟨-, current, hm, hpid⟩ := hR.current h hcur
  obtain ⟨-, logical, R⟩ := hR.memory
  rw [R.pages hm hpid, List.countP_map, State.destroyed_freeBlocks, State.reaped_freeBlocks,
    List.length_append, State.blocksOf, List.length_map, ← List.countP_eq_length_filter, hR.blocks]
  refine congrArg (k.pager.freeBlocks.length + ·) (List.countP_congr fun r hr => ?_)
  obtain ⟨i, hi⟩ := List.mem_iff_getElem?.1 hr
  rcases R.kind (.inl ⟨_, i, hi⟩) with ⟨ht, j, -, hlog⟩ | ⟨n, b, hf, hlog⟩
  · simp [State.IsSwap, ht, hlog, LogicalPage.isAnon]
  · simp [State.IsSwap, (hinv.layout.file_entry hf).1, hlog, LogicalPage.isAnon]

/-- `vm_map` answers as the machine does, unless a name cannot be read. -/
theorem Refines.map {filename : BitVec 64} {block : ℕ} {ret : Ret}
    (hs : (system u).step k (.map filename block, ret) k') :
    Answers u k a (.map filename block) ret k' := by
  obtain ⟨m', hnext, hsim⟩ := simulated_step h hR.memory hs
  have hinv := (Sound.reachable h).inv
  have ho := step_outcome h hs
  have hcur : k.current.isSome := hs.1
  have hlen := hR.length h hcur
  have hserve : a.serve u.disk (.map filename block) = some (a.map u.disk filename block) :=
    if_pos (hR.current h hcur).1
  obtain ⟨s', cur'⟩ := k'
  cases ho with
  | @map _ _ va _ hlive hm =>
    unfold Answers
    rw [hserve]
    have hnext' : a.memory.map u.disk filename block va = some m' := hnext
    cases hm with
    | full hfull =>
      rw [Flat.map, if_pos rfl] at hnext'
      cases hnext'
      rw [Ideal.map_null (.inl (hlen ▸ hfull))]
      exact .inl ⟨a, rfl, hsim, hR.blocks⟩
    | noBlock _ hname hfree =>
      rw [Flat.map, if_pos rfl] at hnext'
      cases hnext'
      rw [Ideal.map_null (.inr (.inl ⟨hname, by rw [hR.blocks, hfree]; rfl⟩))]
      exact .inl ⟨a, rfl, hsim, hR.blocks⟩
    | @swap b rest hroom hname hfree =>
      have hblocks := hR.blocks
      rw [hfree] at hblocks
      rw [Ideal.map_of_next hnext' (nextVa_ne_nullptr hroom) (hlen ▸ hroom)
        (fun _ => by rw [hblocks]; exact Nat.succ_ne_zero _), if_pos hname, hblocks]
      exact .inl ⟨_, rfl, hsim, rfl⟩
    | noName hroom hname hread =>
      rw [Flat.map, if_pos rfl] at hnext'
      cases hnext'
      have hev := (getFilename_evolves hinv hread).2
      have hR' : Refines u ⟨s', cur'⟩ a := ⟨hsim, by rw [hev.layout.freeBlocks]; exact hR.blocks⟩
      rcases hR.noName h hcur hread with hstr | hfailed
      · rw [Ideal.map_null (.inr (.inr ⟨hname, hstr⟩))]
        exact .inl ⟨a, rfl, hR'⟩
      · exact .inr ⟨rfl, if_neg hname, hR', hfailed⟩
    | known hroom hname hread hf =>
      have hev := (getFilename_evolves hinv hread).2
      rw [Ideal.map_of_next hnext' (nextVa_ne_nullptr hroom) (hlen ▸ hroom)
        (fun hnull => absurd hnull hname), if_neg hname]
      exact .inl ⟨_, rfl, hsim, hR.blocks.trans (congrArg List.length hev.layout.freeBlocks).symm⟩
    | new hroom hname hread hf =>
      have hev := (getFilename_evolves hinv hread).2
      rw [Ideal.map_of_next hnext' (nextVa_ne_nullptr hroom) (hlen ▸ hroom)
        (fun hnull => absurd hnull hname), if_neg hname]
      exact .inl ⟨_, rfl, hsim, hR.blocks.trans (congrArg List.length hev.layout.freeBlocks).symm⟩

/-- A call answers the request as the machine does, unless a name cannot be read. -/
theorem Refines.call {q : Request} {c : Call} (hq : q.Calls c) {ret : Ret}
    (hs : (system u).step k (c, ret) k') : Answers u k a q ret k' := by
  cases hq with
  | map => exact hR.map h hs
  | @create _ childPid childPtbr =>
    obtain ⟨m', hnext, hsim⟩ := simulated_step h hR.memory hs
    have ho := step_outcome h hs
    obtain ⟨-, logical, R⟩ := hR.memory
    obtain ⟨s', cur'⟩ := k'
    cases ho with
    | create hpid =>
      rw [Flat.next, if_pos rfl] at hnext
      cases hnext
      have hnone : a.memory.arenas childPid = none := by rw [R.arenas, hpid]; rfl
      exact .inl ⟨⟨_, a.freeBlocks⟩, if_neg (by simp [hnone]), hsim, hR.blocks⟩
  | @switch pid =>
    obtain ⟨m', hnext, hsim⟩ := simulated_step h hR.memory hs
    have ho := step_outcome h hs
    obtain ⟨-, logical, R⟩ := hR.memory
    obtain ⟨s', cur'⟩ := k'
    cases ho with
    | switch hpid =>
      cases hnext
      have hsome : (a.memory.arenas pid).isSome := by rw [R.arenas, hpid]; rfl
      exact .inl ⟨⟨_, a.freeBlocks⟩, if_pos hsome, hsim, hR.blocks⟩
  | destroy order =>
    obtain ⟨m', hnext, hsim⟩ := simulated_step h hR.memory hs
    have ho := step_outcome h hs
    have hcur : k.current.isSome := hs.1
    obtain ⟨-, current, hm, -⟩ := hR.current h hcur
    obtain ⟨s', cur'⟩ := k'
    cases ho with
    | destroy =>
      rw [Flat.next, hm] at hnext
      cases hnext
      refine .inl ⟨⟨_, a.freeBlocks + a.memory.pages.countP LogicalPage.isAnon⟩, ?_, hsim,
        (hR.released h hcur _ _).symm⟩
      rw [Ideal.serve, hm]
      rfl
  | @load vpn offset =>
    obtain ⟨m', hnext, hsim⟩ := simulated_step h hR.memory hs
    have ho := step_outcome h hs
    obtain ⟨hcur, hvpn, -⟩ : k.current.isSome ∧ vpn < numPtes ∧ _ := hs.1
    obtain ⟨s', cur'⟩ := k'
    cases ho with
    | load =>
      obtain ⟨L, hL, hload⟩ := Option.bind_eq_some_iff.1 hnext
      split at hload
      · rename_i hread
        cases hload
        refine .inl ⟨a, ?_, hsim, hR.blocks⟩
        rw [Ideal.serve, Ideal.access, if_pos ⟨(hR.current h hcur).1, hvpn⟩, hL, ← hread]
        rfl
      · cases hload
  | @store vpn =>
    obtain ⟨m', hnext, hsim⟩ := simulated_step h hR.memory hs
    have ho := step_outcome h hs
    obtain ⟨hcur, hvpn, -⟩ : k.current.isSome ∧ vpn < numPtes ∧ _ := hs.1
    obtain ⟨s', cur'⟩ := k'
    cases ho with
    | store =>
      obtain ⟨L, hL, rfl⟩ := Option.map_eq_some_iff.1 hnext
      refine .inl ⟨⟨_, a.freeBlocks⟩, ?_, hsim, hR.blocks⟩
      rw [Ideal.serve, Ideal.access, if_pos ⟨(hR.current h hcur).1, hvpn⟩, hL]
      rfl

/-- An access is refused when its page is invalid, or a disk call has failed. -/
theorem Refines.refused {q : Request} {addr : BitVec 64} {w : Bool}
    (hq : q.access = some (arenaVpn addr, w))
    (hs : (system u).step k (.fault addr w, .code (-1)) k') :
    Answers u k a q (.code (-1)) k' := by
  have hR' := hR.fault h hs
  have hinv := (Sound.reachable h).inv
  have ho := step_outcome h hs
  obtain ⟨hcur, harena, -⟩ := hs.1
  obtain ⟨hcur', pid, hm, hpid⟩ := hR.current h hcur
  obtain ⟨found, hserve⟩ : ∃ found, a.serve u.disk _ = some _ :=
    a.serve_access hq hcur' (arenaVpn_lt harena)
  unfold Answers
  rw [hserve]
  obtain ⟨s', cur'⟩ := k'
  generalize hret : Ret.code (-1) = ret at ho
  cases ho with
  | invalid _ hslot =>
    left
    have hpast : a.memory.pages[arenaVpn addr]? = none := by
      obtain ⟨-, logical, R⟩ := hR.memory
      rw [R.pages hm hpid, List.getElem?_map]
      exact congrArg (Option.map logical) hslot
    rw [hpast]
    exact ⟨a, rfl, hR'⟩
  | @fault _ _ r _ hslot =>
    right
    obtain ⟨hrefused, -, new, hl⟩ := faultPage_outcome hinv (r := r) w
    rw [← hret]
    exact ⟨rfl, Request.refusal_access hq, hR', new, hl.trace,
      hl.failed_iff.1 (hrefused.1 (Ret.code.inj hret).symm)⟩

end Step

/-! ### Requests -/

lemma State.DiskFailed.of_suffix {s t s' : State} (hst : s.trace <:+ t.trace)
    (h : t.DiskFailed s') : s.DiskFailed s' := by
  obtain ⟨new, hn, e, he, hf⟩ := h
  obtain ⟨old, ho⟩ := hst
  exact ⟨new ++ old, by rw [hn, ← ho, List.append_assoc], e, List.mem_append_left _ he, hf⟩

/-- One failure more. -/
lemma State.DiskFailed.count {s s' : State} (h : s.DiskFailed s') :
    s.trace.countP Event.failed + 1 ≤ s'.trace.countP Event.failed := by
  obtain ⟨new, hn, hf⟩ := h
  have hpos : 0 < new.countP Event.failed := List.countP_pos_iff.2 hf
  rw [hn, List.countP_append]
  omega

section Serves

variable {u : Setup} {k k' : Kernel} (h : (system u).Reachable k)
include h

lemma step_trace {l : Label} (hs : (system u).step k l k') : k.pager.trace <:+ k'.pager.trace :=
  ((step_outcome h hs).moves (Sound.reachable h).inv).trace (Sound.reachable h).inv

lemma Serves.trace {q : Request} {faults : ℕ} {ret : Ret} (hs : Serves u k q faults ret k') :
    k.pager.trace <:+ k'.pager.trace := by
  induction hs with
  | call _ hs => exact step_trace h hs
  | refused _ hs => exact step_trace h hs
  | retried _ hs _ ih => exact (step_trace h hs).trans (ih (h.step hs))

/-- **A request is answered as the machine does**, or refused because a disk call has failed. -/
theorem Serves.answers {a : Ideal} (hR : Refines u k a) {q : Request} {faults : ℕ} {ret : Ret}
    (hs : Serves u k q faults ret k') : Answers u k a q ret k' := by
  induction hs with
  | call hq hs => exact hR.call h hq hs
  | refused ha hs => exact hR.refused h ha hs
  | retried ha hs _ ih =>
    -- the fault is not seen, and the machine answers what comes after it
    rcases ih (h.step hs) (hR.fault h hs) with hanswer | ⟨hserve, hrefusal, hR', hfailed⟩
    · exact .inl hanswer
    · exact .inr ⟨hserve, hrefusal, hR', hfailed.of_suffix (step_trace h hs)⟩

end Serves

/-! ### Disk calls that do not fail -/

/-- No disk call fails. -/
structure Setup.Reliable (u : Setup) : Prop where
  writes : ∀ i, u.writes.get i = true
  reads : ∀ i, u.reads.get i = .success

/-- No disk call has failed, and none will. -/
structure State.Calm (s : State) : Prop where
  writes : ∀ i, s.writes.get i = true
  reads : ∀ i, s.reads.get i = .success
  trace : ∀ e ∈ s.trace, e.failed = false

section Calm

variable {s s' t : State} {p : ℕ}

/-- Events that are not failures. -/
lemma State.Calm.events (hc : s.Calm) (new : List Event) (ht : t.trace = new ++ s.trace)
    (hnew : ∀ e ∈ new, e.failed = false) : ∀ e ∈ t.trace, e.failed = false := by
  intro e he
  rw [ht] at he
  rcases List.mem_append.1 he with he | he
  · exact hnew e he
  · exact hc.trace e he

lemma Reclaim.calm (h : Inv none s) (hc : s.Calm) (hr : Reclaim s p t) : t.Calm := by
  have hreads : t.reads = s.reads := (hr.room h).1.reads
  refine ⟨?_, by rw [hreads]; exact hc.reads, ?_⟩
  · cases hr with
    | free => exact hc.writes
    | @clean v passed rest r =>
      have hw : ((s.swept p passed rest).dropPage r p).writes = s.writes := swept_writes s p passed rest
      rw [hw]
      exact hc.writes
    | @written v passed rest r =>
      have hw : (((s.swept p passed rest).wrote r p).dropPage r p).writes = s.writes.tail :=
        congrArg Stream'.tail (swept_writes s p passed rest)
      rw [hw]
      exact fun i => hc.writes (i + 1)
    | stuck =>
      rw [State.writeFailed_writes, swept_writes]
      exact fun i => hc.writes (i + 1)
  · cases hr with
    | free => exact hc.trace
    | @clean v passed rest r =>
      exact hc.events [.evicted r] (by rw [State.dropPage_trace, swept_trace]; rfl)
        (by simp [Event.failed])
    | written => exact hc.events _ (written_trace ..) (by simp [Event.failed])
    | stuck hs hd hw =>
      have hhead : s.writes.head = true := hc.writes 0
      rw [hw] at hhead
      cases hhead

lemma PageFault.calm (h : Inv none s) (hc : s.Calm) (hf : PageFault s s') : s'.Calm := by
  obtain @⟨vpn, r, w, res, _, -, -, hend, -, -⟩ := hf
  cases hend with
  | touched => exact ⟨hc.writes, hc.reads, hc.events [_] rfl (by simp [Event.failed])⟩
  | noFrame _ hr => exact hr.calm h hc
  | zeroed _ _ hr =>
    have hc' := hr.calm h hc
    exact ⟨hc'.writes, hc'.reads, hc'.events [_, _] rfl (by simp [Event.failed])⟩
  | loaded _ _ hr =>
    have hc' := hr.calm h hc
    exact ⟨hc'.writes, fun i => hc'.reads (i + 1),
      hc'.events [_, _] rfl (by simp [Event.failed])⟩
  | unread _ _ _ hread =>
    have hhead : s.reads.head = .success := hc.reads 0
    rw [hread] at hhead
    cases hhead

/-- **Without failures there never are any.** -/
theorem Setup.Reliable.calm {u : Setup} (hu : u.Reliable) {k : Kernel}
    (h : (system u).Reachable k) : k.pager.Calm := by
  apply reachable_invariant (I := State.Calm) _ _ h
  · exact ⟨hu.writes, hu.reads, fun e he => by cases he⟩
  · intro s s' hinv hmove hc
    cases hmove with
    | fault hf => exact hf.calm hinv hc
    | act ha =>
      obtain ⟨-, hw, hr⟩ := ha.infrastructure
      refine ⟨by rw [hw]; exact hc.writes, by rw [hr]; exact hc.reads, ?_⟩
      rcases ha.trace with ht | ⟨r, n, b, ht⟩
      · rw [ht]
        exact hc.trace
      · exact hc.events [_] ht (by simp [Event.failed])

lemma State.Calm.not_diskFailed (hc : s'.Calm) : ¬ s.DiskFailed s' := by
  rintro ⟨new, hn, e, he, hf⟩
  have hok := hc.trace e (by rw [hn]; exact List.mem_append_left _ he)
  rw [hf] at hok
  cases hok

end Calm

/-! ### Every request is carried out -/

/-- Some address is not that of a page table. -/
lemma Layout.exists_free {s : State} (hL : Layout s) : ∃ pt, s.tables pt = none ∧ pt ≠ 0 := by
  obtain ⟨bound, hbound⟩ : ∃ bound, ∀ pt, (s.tables pt).isSome → pt ≤ bound := by
    refine ⟨(s.pageTables.entries.map fun itr => itr.2).sum, fun pt hpt => ?_⟩
    obtain ⟨pid, hpid⟩ := (hL.live_iff pt).2 hpt
    apply List.le_sum_of_mem
    exact List.mem_map.2 ⟨⟨pid, pt⟩, AList.mem_lookup_iff.1 hpid, rfl⟩
  refine ⟨bound + 1, ?_, Nat.succ_ne_zero _⟩
  by_contra hpt
  exact Nat.not_succ_le_self _ (hbound _ (Option.isSome_iff_ne_none.2 hpt))

/-- The call of a request for an access, which is legal when the entry permits it. -/
lemma Request.access_call {q : Request} {vpn : ℕ} {w : Bool} (hq : q.access = some (vpn, w))
    (hvpn : vpn < numPtes) : ∃ c, q.Calls c ∧ ∀ k : Kernel, k.current.isSome →
      (k.pager.currentPte vpn).permits w = true → Legal k c := by
  cases q with
  | load =>
    cases hq
    exact ⟨_, .load, fun k hcur hp => ⟨hcur, hvpn, hp⟩⟩
  | store =>
    cases hq
    exact ⟨_, .store, fun k hcur hp => ⟨hcur, hvpn, hp⟩⟩
  | _ => cases hq

section Total

variable {u : Setup} {k : Kernel} (h : (system u).Reachable k)
include h

/-- An access that is permitted is carried out. -/
lemma serves_permitted {q : Request} {vpn : ℕ} {w : Bool} (hq : q.access = some (vpn, w))
    (hcur : k.current.isSome) (hvpn : vpn < numPtes)
    (hp : (k.pager.currentPte vpn).permits w = true) : ∃ ret k', Serves u k q 0 ret k' := by
  obtain ⟨c, hc, hl⟩ := Request.access_call hq hvpn
  obtain ⟨ret, k', hs⟩ := (Sound.reachable h).exists_step (hl k hcur hp)
  exact ⟨ret, k', .call hc hs⟩

/-- **An access is carried out or refused**, after one fault at most. -/
theorem serves_access {q : Request} {vpn : ℕ} {w : Bool} (hq : q.access = some (vpn, w))
    (hcur : k.current.isSome) (hvpn : vpn < numPtes) :
    ∃ faults ret k', faults ≤ 1 ∧ Serves u k q faults ret k' := by
  cases hp : (k.pager.currentPte vpn).permits w with
  | true =>
    obtain ⟨ret, k', hs⟩ := serves_permitted h hq hcur hvpn hp
    exact ⟨0, ret, k', Nat.zero_le _, hs⟩
  | false =>
    have hsound := Sound.reachable h
    obtain ⟨harena, hav⟩ := inArena_vpnToVa hvpn
    rw [← hav] at hq hp
    have hl : Legal k (.fault (vpnToVa vpn) w) := ⟨hcur, harena, hp⟩
    obtain ⟨ret, k', hs⟩ := hsound.exists_step hl
    have ho := step_outcome h hs
    have hcur' : k'.current.isSome := by rw [hs.2.2]; exact hcur
    obtain ⟨s', cur'⟩ := k'
    generalize hc : Call.fault (vpnToVa vpn) w = c at ho
    cases ho with
    | invalid =>
      cases hc
      exact ⟨1, _, _, le_rfl, .refused hq hs⟩
    | @fault addr w' r _ hslot hden =>
      cases hc
      obtain ⟨-, hzero, -⟩ := faultPage_outcome hsound.inv (r := r) w
      by_cases hres : (k.pager.faultPage r w).1 = -1
      · rw [hres] at hs
        exact ⟨1, _, _, le_rfl, .refused hq hs⟩
      · -- the entry permits the access now
        obtain ⟨hread, hwrite⟩ := (faultPage_resolved hsound.inv hslot hden hres).entry
        rw [(hzero hres).1] at hs
        have hp' : ((k.pager.faultPage r w).2.currentPte (arenaVpn (vpnToVa vpn))).permits w =
            true := by
          cases w with
          | false => exact hread
          | true => exact (hwrite rfl).1
        obtain ⟨ret, k'', hs'⟩ :=
          serves_permitted (h.step hs) hq hcur' (hav.symm ▸ hvpn) hp'
        exact ⟨1, ret, k'', le_rfl, .retried hq hs hs'⟩
    | _ => cases hc

/-- **A request that the machine answers is carried out.** -/
theorem serves_total {a : Ideal} (hR : Refines u k a) {q : Request}
    (hq : (a.serve u.disk q).isSome) : ∃ faults ret k', Serves u k q faults ret k' := by
  have hsound := Sound.reachable h
  have hcurrent : a.memory.current = k.current := hR.memory.1
  obtain ⟨-, logical, R⟩ := hR.memory
  -- a call that is legal carries the request out
  have hcall : ∀ {c : Call}, q.Calls c → Legal k c → ∃ faults ret k', Serves u k q faults ret k' := by
    intro c hc hl
    obtain ⟨ret, k', hs⟩ := hsound.exists_step hl
    exact ⟨0, ret, k', .call hc hs⟩
  have haccess : ∀ {vpn w}, q.access = some (vpn, w) → k.current.isSome ∧ vpn < numPtes →
      ∃ faults ret k', Serves u k q faults ret k' := by
    intro vpn w ha hv
    obtain ⟨faults, ret, k', -, hs⟩ := serves_access h ha hv.1 hv.2
    exact ⟨faults, ret, k', hs⟩
  cases q with
  | create parentPid childPid =>
    obtain ⟨pt, hpt, hne⟩ := hsound.inv.layout.exists_free
    refine hcall (.create pt) ⟨?_, hpt, hne⟩
    cases hpid : k.pager.pageTables.lookup childPid with
    | none => rfl
    | some pt' =>
      have harena := R.arenas childPid
      rw [hpid] at harena
      simp [Ideal.serve, harena] at hq
  | switch pid =>
    refine hcall .switch ?_
    have harena := R.arenas pid
    cases hpid : k.pager.pageTables.lookup pid with
    | some pt => exact Option.isSome_iff_exists.2 ⟨pt, hpid⟩
    | none =>
      rw [hpid] at harena
      simp [Ideal.serve, harena] at hq
  | map filename block =>
    refine hcall .map ?_
    by_contra hno
    have hno' : ¬ a.memory.current.isSome := by rw [hcurrent]; exact hno
    rw [Ideal.serve, if_neg hno'] at hq
    cases hq
  | destroy =>
    refine hcall (.destroy ⟨id, fun _ => .rfl⟩) ?_
    rw [Ideal.serve, Option.isSome_map, hcurrent] at hq
    exact hq
  | load vpn offset =>
    apply haccess rfl
    by_contra hno
    rw [Ideal.serve, Ideal.access, hcurrent, if_neg hno] at hq
    cases hq
  | store vpn offset byte =>
    apply haccess rfl
    by_contra hno
    rw [Ideal.serve, Ideal.access, hcurrent, if_neg hno] at hq
    cases hq

end Total

/-! ### The sessions -/

section Sessions

variable {u : Setup}

/-- **Sessions are those of the machine that may refuse**, with at most one refusal without a reason
for each disk call that has failed. -/
theorem sessions_lossy {obs : List Exchange} {k : Kernel} (h : (sessions u).Run obs k) :
    ∃ a refusals, (lossy u.swapBlocks u.disk).Run obs (a, refusals) ∧
      refusals ≤ k.pager.trace.countP Event.failed := by
  have hsim : ∃ d, (lossy u.swapBlocks u.disk).Run obs d ∧
      Refines u k d.1 ∧ d.2 ≤ k.pager.trace.countP Event.failed := by
    apply h.simulation (R := fun k (d : Ideal × ℕ) =>
      Refines u k d.1 ∧ d.2 ≤ k.pager.trace.countP Event.failed)
    · exact fun c hc => ⟨_, rfl, refines_init hc, Nat.zero_le _⟩
    rintro c l c' ⟨a, n⟩ hc ⟨hR, hn⟩ ⟨faults, hs⟩
    have hk := sessions_reachable hc
    obtain ⟨old, hold⟩ := hs.trace hk
    rcases hs.answers hk hR with ⟨a', hserve, hR'⟩ | ⟨hserve, hrefusal, hR', hfailed⟩
    · refine ⟨(a', n), .inl ⟨hserve, rfl⟩, hR', ?_⟩
      rw [← hold, List.countP_append]
      exact Nat.le_add_left_of_le hn
    · exact ⟨(a, n + 1), .inr ⟨hserve, hrefusal, rfl⟩, hR',
        (Nat.succ_le_succ hn).trans hfailed.count⟩
  obtain ⟨⟨a, n⟩, hrun, -, hn⟩ := hsim
  exact ⟨a, n, hrun, hn⟩

/-- A session in which the only frame cannot be had for the second page. -/
theorem sessions_lossy_stuck : ∃ a refusals,
    (lossy Setup.stuck.swapBlocks Setup.stuck.disk).Run
      [(.store 1 ⟨0, vmPagesize_pos⟩ 98, .code (-1)), (.store 0 ⟨0, vmPagesize_pos⟩ 97, .done),
        (.map nullptr 0, .addr (vpnToVa 1)), (.map nullptr 0, .addr (vpnToVa 0)), (.switch 1, .done),
        (.create 0 1, .code 0)] (a, refusals) ∧ refusals ≤ 1 := by
  let k₀ : Kernel := ⟨Setup.stuck.initial, none⟩
  have hinit : (sessions .stuck).init k₀ := ⟨vmInit_eq _, rfl⟩
  obtain ⟨k₁, h₁, k₂, h₂, k₃, h₃, k₄, h₄, k₅, h₅, k₆, h₆, k, h₇, hcount⟩ :
      ∃ k₁, (system .stuck).step k₀ (.create 0 1 10, .code 0) k₁ ∧
      ∃ k₂, (system .stuck).step k₁ (.switch 1, .done) k₂ ∧
      ∃ k₃, (system .stuck).step k₂ (.map nullptr 0, .addr (vpnToVa 0)) k₃ ∧
      ∃ k₄, (system .stuck).step k₃ (.map nullptr 0, .addr (vpnToVa 1)) k₄ ∧
      ∃ k₅, (system .stuck).step k₄ (.fault (vpnToVa 0) true, .code 0) k₅ ∧
      ∃ k₆, (system .stuck).step k₅ (.store 0 ⟨0, vmPagesize_pos⟩ 97, .done) k₆ ∧
      ∃ k, (system .stuck).step k₆ (.fault (vpnToVa 1) true, .code (-1)) k ∧
        k.pager.trace.countP Event.failed = 1 := by
    refine ⟨_, k₀.call_gives _ _ _ (by decide +kernel) (by decide +kernel), ?_⟩
    refine ⟨_, Kernel.call_gives _ _ _ _ (by decide +kernel) (by decide +kernel), ?_⟩
    refine ⟨_, Kernel.call_gives _ _ _ _ (by decide +kernel) (by decide +kernel), ?_⟩
    refine ⟨_, Kernel.call_gives _ _ _ _ (by decide +kernel) (by decide +kernel), ?_⟩
    refine ⟨_, Kernel.call_gives _ _ _ _ (by decide +kernel) (by decide +kernel), ?_⟩
    refine ⟨_, Kernel.call_gives _ _ _ _ (by decide +kernel) (by decide +kernel), ?_⟩
    refine ⟨_, Kernel.call_gives _ _ _ _ (by decide +kernel) (by decide +kernel), ?_⟩
    decide +kernel
  have hrun := ((((System.Run.init hinit).step (Serves.call (.create 10) h₁).session).step
    (Serves.call .switch h₂).session).step (Serves.call .map h₃).session).step
    (Serves.call .map h₄).session
  have hrun' := (hrun.step (Serves.retried rfl h₅ (.call .store h₆)).session).step
    (Serves.refused (q := .store 1 ⟨0, vmPagesize_pos⟩ 98) rfl h₇).session
  have hlossy := sessions_lossy hrun'
  rw [hcount] at hlossy
  exact hlossy

/-- Without failures every session is one of the machine. -/
theorem Setup.Reliable.ideal_run (hu : u.Reliable) {obs : List Exchange} {k : Kernel}
    (h : (sessions u).Run obs k) : ∃ a, (ideal u.swapBlocks u.disk).Run obs a := by
  have hsim : ∃ a, (ideal u.swapBlocks u.disk).Run obs a ∧ Refines u k a := by
    apply h.simulation
    · exact fun c hc => ⟨_, rfl, refines_init hc⟩
    rintro c l c' a hc hR ⟨faults, hs⟩
    have hk := sessions_reachable hc
    rcases hs.answers hk hR with hanswer | ⟨-, -, -, hfailed⟩
    · exact hanswer
    · exact absurd hfailed (hu.calm (hs.reaches hk)).not_diskFailed
  obtain ⟨a, hrun, -⟩ := hsim
  exact ⟨a, hrun⟩

/-- And every session of the machine is one of the pager: what is asked for is carried out, and
answered so. -/
theorem Setup.Reliable.session_run (hu : u.Reliable) {obs : List Exchange} {a : Ideal}
    (h : (ideal u.swapBlocks u.disk).Run obs a) : ∃ k, (sessions u).Run obs k := by
  have hsim : ∃ k, (sessions u).Run obs k ∧ (system u).Reachable k ∧ Refines u k a := by
    apply h.simulation (R := fun a k => (system u).Reachable k ∧ Refines u k a)
    · rintro a rfl
      have hinit : (system u).init ⟨u.initial, none⟩ := ⟨vmInit_eq u, rfl⟩
      exact ⟨_, hinit, .init hinit, refines_init hinit⟩
    rintro a ⟨q, ret⟩ a' k - ⟨hk, hR⟩ hserve
    obtain ⟨faults, ret', k', hs⟩ := serves_total hk hR (q := q) (by rw [hserve]; rfl)
    have hk' := hs.reaches hk
    rcases hs.answers hk hR with ⟨a'', hserve', hR'⟩ | ⟨-, -, -, hfailed⟩
    · -- the machine has one answer
      rw [hserve] at hserve'
      cases hserve'
      exact ⟨k', ⟨faults, hs⟩, hk', hR'⟩
    · exact absurd hfailed (hu.calm hk').not_diskFailed
  obtain ⟨k, hrun, -⟩ := hsim
  exact ⟨k, hrun⟩

/-- **The pager is the machine without frames**: when no disk call fails, the sessions are the same. -/
theorem sessions_ideal (hu : u.Reliable) (obs : List Exchange) :
    (∃ k, (sessions u).Run obs k) ↔ ∃ a, (ideal u.swapBlocks u.disk).Run obs a :=
  ⟨fun ⟨_, h⟩ => hu.ideal_run h, fun ⟨_, h⟩ => hu.session_run h⟩

lemma Setup.small_reliable : Setup.small.Reliable := ⟨fun _ => rfl, fun _ => rfl⟩

/-- Two pages share the only frame, and what was stored to one of them is found again. -/
theorem sessions_ideal_small : ∃ k, (sessions .small).Run
    [(.load 0 ⟨0, vmPagesize_pos⟩, .byte 97), (.store 1 ⟨0, vmPagesize_pos⟩ 98, .done),
      (.store 0 ⟨0, vmPagesize_pos⟩ 97, .done), (.map nullptr 0, .addr (vpnToVa 1)),
      (.map nullptr 0, .addr (vpnToVa 0)), (.switch 1, .done), (.create 0 1, .code 0)] k := by
  have hstart : (ideal Setup.small.swapBlocks Setup.small.disk).Run [] (.start 3) := .init rfl
  have hmapped := (((hstart.step (l := (Request.create 0 1, Ret.code 0)) rfl).step
    (l := (Request.switch 1, Ret.done)) rfl).step
    (l := (Request.map nullptr 0, Ret.addr (vpnToVa 0))) rfl).step
    (l := (Request.map nullptr 0, Ret.addr (vpnToVa 1))) rfl
  have hstored := (hmapped.step (l := (Request.store 0 ⟨0, vmPagesize_pos⟩ 97, Ret.done)) rfl).step
    (l := (Request.store 1 ⟨0, vmPagesize_pos⟩ 98, Ret.done)) rfl
  exact (sessions_ideal Setup.small_reliable _).2
    ⟨_, hstored.step (l := (Request.load 0 ⟨0, vmPagesize_pos⟩, Ret.byte 97)) rfl⟩

/-- **The size of memory is not seen.** Two pagers that differ in the number of frames, in what memory
has at the start and in how they page have the same sessions. -/
theorem sessions_transparent {u' : Setup} (hu : u.Reliable) (hu' : u'.Reliable)
    (hblocks : u'.swapBlocks = u.swapBlocks) (hdisk : u'.disk = u.disk) (obs : List Exchange) :
    (∃ k, (sessions u).Run obs k) ↔ ∃ k, (sessions u').Run obs k := by
  constructor
  · rintro ⟨k, h⟩
    obtain ⟨a, ha⟩ := hu.ideal_run h
    rw [← hblocks, ← hdisk] at ha
    exact hu'.session_run ha
  · rintro ⟨k, h⟩
    obtain ⟨a, ha⟩ := hu'.ideal_run h
    rw [hblocks, hdisk] at ha
    exact hu.session_run ha

/-- A process that stores to two pages, with one frame or with ten for them. -/
theorem sessions_transparent_small :
    (∃ k, (sessions .small).Run
      [(.store 1 ⟨0, vmPagesize_pos⟩ 98, .done), (.store 0 ⟨0, vmPagesize_pos⟩ 97, .done),
        (.map nullptr 0, .addr (vpnToVa 1)), (.map nullptr 0, .addr (vpnToVa 0)),
        (.switch 1, .done), (.create 0 1, .code 0)] k) ↔
    ∃ k, (sessions .large).Run
      [(.store 1 ⟨0, vmPagesize_pos⟩ 98, .done), (.store 0 ⟨0, vmPagesize_pos⟩ 97, .done),
        (.map nullptr 0, .addr (vpnToVa 1)), (.map nullptr 0, .addr (vpnToVa 0)),
        (.switch 1, .done), (.create 0 1, .code 0)] k :=
  sessions_transparent Setup.small_reliable
    (show Setup.large.Reliable from ⟨fun _ => rfl, fun _ => rfl⟩) rfl rfl _

end Sessions

end VmPager

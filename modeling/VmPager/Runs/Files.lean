import VmPager.Core.Step

/-!
# One page for each file block

In every reachable state the file table, the arenas and the shared entries of the file pages agree:
whoever maps a block of a file gets its page of the file table, and the page lists the entries of
those that have it mapped. The page tables are those of the processes that `processes_alive` says.
-/

namespace VmPager

open Lib.Transition

/-- The file table, the arenas and the shared entries agree. -/
structure FilesShared (s : State) : Prop where
  entry : ∀ {n b r}, s.fileTable n b = some r →
    (s.pages r).type = .fileBacked ∧ (s.pages r).filename = some n ∧ (s.pages r).fileBlock = b
  /-- A file-backed page of a process is the one of the file table. -/
  slot : ∀ {pt vpn r}, s.Live pt → s.slot pt vpn = some r → (s.pages r).type = .fileBacked →
    ∃ n, (s.pages r).filename = some n ∧ s.fileTable n (s.pages r).fileBlock = some r
  /-- Pages of one block are one page. -/
  single : ∀ {pt vpn r pt' vpn' q}, s.slot pt vpn = some r → s.slot pt' vpn' = some q →
    (s.pages r).type = .fileBacked → (s.pages q).type = .fileBacked →
    (s.pages r).filename = (s.pages q).filename → (s.pages r).fileBlock = (s.pages q).fileBlock →
    r = q
  /-- The entries under the key of a page table are those of the slots of its process. -/
  shared : ∀ {n b r}, s.fileTable n b = some r → ∀ pt e, e ∈ (s.pages r).ptesUnder pt ↔
    e.table = pt ∧ s.Live pt ∧ s.slot pt e.vpn = some r
  once : ∀ {n b r}, s.fileTable n b = some r → ∀ pt, ((s.pages r).ptesUnder pt).Nodup
  /-- The keys are page tables of processes, none without an entry. -/
  keys : ∀ {n b r}, s.fileTable n b = some r → ∀ pt ∈ (s.pages r).sharedPtes,
    s.Live pt ∧ (s.tables pt).isSome ∧ (s.pages r).ptesUnder pt ≠ []

/-- What a call of `vm_map` with a name maps: the page of the file table for the bytes of the name
and the block, at the end of the arena. -/
def MapsFile (s : State) (filename : BitVec 64) (block : ℕ) (s' : State) : Prop :=
  ∃ n t r, getFilename filename s = .ok (some n, t) ∧ s'.fileTable n block = some r ∧
    s'.arenas s.pageTableBaseRegister = s.arenas s.pageTableBaseRegister ++ [r]

theorem Inv.filesShared {s : State} (h : Inv none s) : FilesShared s where
  entry := h.layout.file_entry
  slot _ hs ht := h.layout.file_slot hs ht
  single hs hs' ht ht' hn hb := by
    obtain ⟨n, hr, hf⟩ := h.layout.file_slot hs ht
    obtain ⟨m, hq, hg⟩ := h.layout.file_slot hs' ht'
    rw [hr, hq] at hn
    cases hn
    rw [hb, hg] at hf
    exact (Option.some.inj hf).symm
  shared hf pt e := by
    have hiff := h.layout.shared_iff hf pt e
    refine hiff.trans (and_congr_right fun _ => ?_)
    exact (and_iff_right_of_imp fun hs => (h.layout.live_iff pt).2 (h.layout.arena_live hs)).symm
  once := h.layout.shared_nodup
  keys hf pt hk := by
    have hne := h.layout.shared_key hf pt hk
    obtain ⟨e, he⟩ := List.exists_mem_of_ne_nil _ hne
    have hsome := h.layout.arena_live ((h.layout.shared_iff hf pt e).1 he).2
    exact ⟨(h.layout.live_iff pt).2 hsome, hsome, hne⟩

/-- The entries of the file table stay. -/
lemma fileTable_reaches {u : Setup} {k k' : Kernel} (h : (system u).Reachable k)
    {ls : List Label} (hr : (system u).Reaches k ls k') {n : Name} {b : ℕ} {r : PageRef}
    (hf : k.pager.fileTable n b = some r) : k'.pager.fileTable n b = some r := by
  have hkeep : ∀ n b r, k.pager.fileTable n b = some r → k'.pager.fileTable n b = some r := by
    refine hr.preserves (R := fun k k' => ∀ n b r, k.pager.fileTable n b = some r →
      k'.pager.fileTable n b = some r) (fun _ _ _ _ => id) ?_ ?_ h
    · exact fun _ _ _ h₁ h₂ n b r hf => h₂ n b r (h₁ n b r hf)
    · rintro k ⟨c, ret⟩ k' hk hs n b r
      exact (step_outcome hk hs).fileTable (Sound.reachable hk).inv
  exact hkeep n b r hf

/-- **A single copy of each file block.** The file table, arenas and shared entries agree; entries of
the file table stay through the rest of the run; a call of `vm_map` with a name gives the page of the
file table; and a slot keeps its page until its process ends. -/
theorem single_copy {u : Setup} {k : Kernel} (h : (system u).Reachable k) :
    FilesShared k.pager ∧
    (∀ {ls k' n b r}, (system u).Reaches k ls k' → k.pager.fileTable n b = some r →
      k'.pager.fileTable n b = some r) ∧
    (∀ {filename block va k'}, filename ≠ nullptr → va ≠ nullptr →
      (system u).step k (.map filename block, .addr va) k' →
      MapsFile k.pager filename block k'.pager) ∧
    ∀ {l k' pt vpn r}, (system u).step k l k' → k.pager.slot pt vpn = some r →
      k'.pager.slot pt vpn = some r ∨ k'.pager.tables pt = none := by
  have hinv := (Sound.reachable h).inv
  refine ⟨hinv.filesShared, fun hr hf => fileTable_reaches h hr hf, ?_, ?_⟩
  · intro filename block va k' hname hva hs
    cases step_outcome h hs with
    | map hlive hm =>
      obtain ⟨n, t, r, hread, -, hev, g, hf⟩ := hm.file hinv hname hva
      refine ⟨n, t, r, hread, hf, ?_⟩
      rw [g.arenas, hev.layout.ptbr, Function.update_self, hev.layout.arenas]
  · rintro ⟨c, ret⟩ k' pt vpn r hs hslot
    exact (step_outcome h hs).slot hinv hslot

/-- Process 1 has mapped a block twice and ended, and process 3, with its page table, is about to map
the block after process 2. -/
def Kernel.reused : Kernel :=
  Setup.small.kernel [.create 0 1 10, .create 0 2 20, .switch 1, .map nullptr 0,
    .map (vpnToVa 0) 7, .map (vpnToVa 0) 7, .destroy ⟨id, fun _ => .refl _⟩, .create 0 3 10, .switch 2,
    .map nullptr 0, .map (vpnToVa 0) 7, .switch 3, .map nullptr 0] (by decide +kernel)

theorem single_copy_reused : ∃ k r,
    (system .small).step .reused (.map (vpnToVa 0) 7, .addr (vpnToVa 1)) k ∧
    FilesShared Kernel.reused.pager ∧ k.pager.fileTable [] 7 = some r ∧
    MapsFile Kernel.reused.pager (vpnToVa 0) 7 k.pager ∧
    (k.pager.slot 20 1 = some r ∨ k.pager.tables 20 = none) ∧ k.pager.slot 10 1 = some r := by
  obtain ⟨hshared, hkeep, hmaps, hslots⟩ :=
    single_copy (Setup.small.kernel_reachable _ _ : (system .small).Reachable .reused)
  have hs := Kernel.reused.call_gives .small (.map (vpnToVa 0) 7) (.addr (vpnToVa 1))
    (by decide +kernel) (by decide +kernel)
  have hr := (System.Reaches.refl (T := system .small) Kernel.reused).step hs
  refine ⟨_, _, hs, hshared, hkeep hr (r := 1) (by decide +kernel), ?_, ?_, by decide +kernel⟩
  · exact hmaps (by decide) (by decide) hs
  · exact hslots hs (by decide +kernel)

end VmPager

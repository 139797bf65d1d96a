import VmPager.Inv.Map
import VmPager.Code.System

/-!
# The start of the pager and of a process

The invariant of the state `vm_init` leaves, and through `vm_create` and `vm_switch`.
-/

namespace VmPager

open Lib.Frames Lib.History

/-! ### `vm_init` -/

/-- The state `vm_init` leaves. -/
@[simps] def Setup.initial (u : Setup) : State :=
  { u.globals with
    physMemPages := List.replicate u.memoryPages none
    freePages := List.range' 1 (u.memoryPages - 1)
    maxSize := u.memoryPages
    freeBlocks := List.range u.swapBlocks
    maxBlocks := u.swapBlocks
    physmem := store u.physmem 0 zeroPage }

section Initial

variable (u : Setup)

lemma initial_not_held (r : PageRef) : ¬ u.initial.Held r := by
  rintro (⟨pt, vpn, hs⟩ | ⟨n, b, hf⟩)
  · cases hs
  · cases hf

lemma initial_owner (p : ℕ) : u.initial.owner p = none := by
  unfold State.owner
  rw [Setup.initial_physMemPages, List.getElem?_replicate]
  split <;> rfl

theorem Inv.initial : Inv none u.initial where
  layout := {
    ptbr_inj := fun h => by cases h
    live_iff := fun pt => ⟨fun h => (by cases h.choose_spec), fun h => by cases h⟩
    arena_live := fun h => by cases h
    arena_le := fun _ => Nat.zero_le _
    held_lt := fun h => absurd h (initial_not_held u _)
    swap_slot := fun h => by cases h
    file_slot := fun h => by cases h
    file_entry := fun h => by cases h
    shared_iff := fun h => by cases h
    shared_nodup := fun h => by cases h
    shared_key := fun h => by cases h
    blocks_max := u.swap_max
    blocks := by
      show (List.range u.swapBlocks ++ []).Perm _
      rw [List.append_nil]
      rfl }
  coherent := fun h => by cases h
  frames := {
    size_min := u.memory_min
    size_max := u.memory_max
    phys_length := List.length_replicate
    queues := by
      show (List.range' 1 (u.memoryPages - 1) ++ []).Perm _
      rw [List.append_nil]
      rfl
    flags_ok := fun h => absurd h (initial_not_held u _)
    owner_ok := fun h => by rw [initial_owner] at h; cases h
    owned := fun h => absurd h (initial_not_held u _)
    active_owned := fun h => by cases h
    hole_active := fun h => by cases h }
  contents := {
    clean := fun h => absurd h (initial_not_held u _)
    zero := by
      rw [State.frame, Nat.zero_mul]
      exact load_store _ _ _ }
  ghost := {
    dirty_iff := fun h => absurd h (initial_not_held u _)
    written := fun h => by cases h
    owner := fun h => absurd h (initial_not_held u _)
    events := trivial }

end Initial

/-! ### `vm_create` -/

/-- A process `pid` starts, with an empty page table at `pt`. -/
@[simps] def State.created (s : State) (pid : Pid) (pt : Ptbr) : State :=
  { s with
    tables := Function.update s.tables pt (some fun _ => Pte.zero)
    pageTables := s.pageTables.insert pid pt
    arenas := Function.update s.arenas pt [] }

section Created

variable {s : State} (hL : Layout s) {pid : Pid} {pt : Ptbr}
  (hpid : s.pageTables.lookup pid = none) (hpt : s.tables pt = none)
include hL hpt

/-- The arena of a table that is not allocated is empty already. -/
lemma created_arenas (pid : Pid) : (s.created pid pt).arenas = s.arenas := by
  refine Function.update_eq_self_iff.2 ?_
  refine (List.eq_nil_iff_forall_not_mem.2 fun r hr => ?_).symm
  obtain ⟨vpn, hv⟩ := List.mem_iff_getElem?.1 hr
  have hslot : s.slot pt vpn = some r := hv
  have hsome := hL.arena_live hslot
  rw [hpt] at hsome
  cases hsome

lemma created_slot (pt' : Ptbr) (vpn : ℕ) :
    (s.created pid pt).slot pt' vpn = s.slot pt' vpn := by
  unfold State.slot
  rw [created_arenas hL hpt pid]

lemma created_held (r : PageRef) : (s.created pid pt).Held r ↔ s.Held r := by
  simp only [State.Held, created_slot hL hpt]
  rfl

include hpid

omit hL hpt in
lemma created_lookup (pid' : Pid) (pt' : Ptbr) :
    (s.created pid pt).pageTables.lookup pid' = some pt' ↔
      s.pageTables.lookup pid' = some pt' ∨ (pid' = pid ∧ pt' = pt) := by
  rw [State.created_pageTables]
  by_cases hp : pid' = pid
  · subst hp
    rw [AList.lookup_insert, hpid]
    simp [eq_comm]
  · rw [AList.lookup_insert_ne hp]
    simp [hp]

lemma created_livePages : (s.created pid pt).livePages = s.livePages := by
  have hnot : pid ∉ s.pageTables := AList.lookup_eq_none.1 hpid
  have hempty : s.arenas pt = [] := by
    have ha := congrFun (created_arenas hL hpt pid) pt
    rw [State.created_arenas, Function.update_self] at ha
    exact ha.symm
  unfold State.livePages
  rw [created_arenas hL hpt pid, State.created_pageTables, AList.entries_insert_of_notMem hnot,
    List.flatMap_cons, hempty, List.nil_append]

theorem Layout.created : Layout (s.created pid pt) := by
  have hsome : ∀ pt', ((s.created pid pt).tables pt').isSome ↔ (s.tables pt').isSome ∨ pt' = pt := by
    intro pt'
    rw [State.created_tables]
    by_cases hp : pt' = pt
    · subst hp
      simp
    · simp [hp]
  have hblocks : (s.created pid pt).liveBlocks = s.liveBlocks := by
    unfold State.liveBlocks
    rw [created_livePages hL hpid hpt]
    rfl
  refine { hL with
    ptbr_inj := fun {p₁ p₂ pt'} h₁ h₂ => ?_
    live_iff := fun pt' => ?_
    arena_live := fun {pt' vpn r} hs => ?_
    arena_le := fun pt' => by rw [created_arenas hL hpt pid]; exact hL.arena_le pt'
    held_lt := fun {r} hr => hL.held_lt ((created_held hL hpt r).1 hr)
    swap_slot := fun {pt' vpn r} hs => by
      rw [created_slot hL hpt] at hs
      exact hL.swap_slot hs
    file_slot := fun {pt' vpn r} hs => by
      rw [created_slot hL hpt] at hs
      exact hL.file_slot hs
    shared_iff := fun {n b r} hf pt' e => by
      rw [created_slot hL hpt]
      exact hL.shared_iff hf pt' e
    blocks := by rw [hblocks]; exact hL.blocks }
  · -- no process has the new table yet
    have hnew : ∀ p, s.pageTables.lookup p ≠ some pt := by
      intro p hp
      have := (hL.live_iff pt).1 ⟨p, hp⟩
      rw [hpt] at this
      cases this
    rcases (created_lookup hpid p₁ pt').1 h₁ with h₁ | ⟨e₁, rfl⟩ <;>
      rcases (created_lookup hpid p₂ _).1 h₂ with h₂ | ⟨e₂, ht⟩
    · exact hL.ptbr_inj h₁ h₂
    · rw [ht] at h₁
      exact absurd h₁ (hnew p₁)
    · exact absurd h₂ (hnew p₂)
    · rw [e₁, e₂]
  · rw [hsome]
    simp only [State.Live, created_lookup hpid, exists_or]
    refine or_congr (hL.live_iff pt') ?_
    simp
  · rw [created_slot hL hpt] at hs
    exact (hsome pt').2 (.inl (hL.arena_live hs))

end Created

/-- **The invariant through `vm_create`.** -/
theorem Inv.created {s : State} (h : Inv none s) {pid : Pid} {pt : Ptbr}
    (hpid : s.pageTables.lookup pid = none) (hpt : s.tables pt = none) :
    Inv none (s.created pid pt) := by
  have hL := h.layout
  have hheld : ∀ r, (s.created pid pt).Held r ↔ s.Held r := created_held hL hpt
  refine ⟨hL.created hpid hpt, ?_, ?_, ?_, ?_⟩
  · intro pt' t ht vpn
    rw [State.pteFor, created_slot hL hpt]
    rw [State.created_tables] at ht
    by_cases hp : pt' = pt
    · subst hp
      rw [Function.update_self] at ht
      cases ht
      have hnone : s.slot pt' vpn = none := by
        cases hs : s.slot pt' vpn with
        | none => rfl
        | some r =>
          have := hL.arena_live hs
          rw [hpt] at this
          cases this
      rw [hnone]
    · rw [Function.update_of_ne hp] at ht
      exact h.coherent ht vpn
  · exact { h.frames with
      flags_ok := fun hr => h.frames.flags_ok ((hheld _).1 hr)
      owner_ok := fun ho => by
        obtain ⟨h1, h2, h3, h4⟩ := h.frames.owner_ok ho
        exact ⟨h1, h2, (hheld _).2 h3, h4⟩
      owned := fun hr => h.frames.owned ((hheld _).1 hr) }
  · exact { h.contents with clean := fun hr => h.contents.clean ((hheld _).1 hr) }
  · exact { h.ghost with
      dirty_iff := fun hr => h.ghost.dirty_iff ((hheld _).1 hr)
      written := fun hs => by
        rw [created_slot hL hpt] at hs
        exact h.ghost.written hs
      owner := fun hr => h.ghost.owner ((hheld _).1 hr) }

/-! ### `vm_switch` -/

/-- The register points to the page table. -/
@[simps] def State.switched (s : State) (pt : Ptbr) : State :=
  { s with pageTableBaseRegister := pt }

/-- The invariant does not look at the register. -/
theorem Inv.switched {s : State} (h : Inv none s) (pt : Ptbr) : Inv none (s.switched pt) where
  layout := { h.layout with }
  coherent := Coherent.congr h.coherent rfl rfl rfl
  frames := { h.frames with }
  contents := { h.contents with }
  ghost := { h.ghost with }

end VmPager

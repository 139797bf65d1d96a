import VmPager.Core.Step

/-!
# Page tables are coherent

In every reachable state every entry of every page table is the one that the page of its slot calls
for, whichever process runs.
-/

namespace VmPager

open Lib.Transition

/-- The entry of a page. -/
structure EntryOf (X : PageState) (e : Pte) : Prop where
  referenced : X.resident = true → X.referenced = true → e = ⟨X.ppn, true, X.dirty⟩
  unreferenced : X.resident = true → X.referenced = false → e = ⟨X.ppn, false, false⟩
  out : X.resident = false →
    e = ⟨0, false, false⟩ ∧ X.ppn = 0 ∧ X.referenced = false ∧ X.dirty = false

/-- A page table and the arena of its process. -/
structure TableCoherent (s : State) (pt : Ptbr) (t : ℕ → Pte) : Prop where
  valid : ∀ {vpn r}, s.slot pt vpn = some r → EntryOf (s.pages r) (t vpn)
  invalid : ∀ {vpn}, (s.arenas pt).length ≤ vpn → t vpn = ⟨0, false, false⟩
  /-- Two slots with one page have one entry, also those of two processes. -/
  shared : ∀ {vpn pt' t' vpn' r}, s.tables pt' = some t' → s.slot pt vpn = some r →
    s.slot pt' vpn' = some r → t vpn = t' vpn'
  /-- Every access to an unreferenced page faults. -/
  unreferenced : ∀ {vpn r} (write : Bool), s.slot pt vpn = some r →
    (s.pages r).referenced = false → (t vpn).permits write = false
  /-- Every store to a clean page faults. -/
  clean : ∀ {vpn r}, s.slot pt vpn = some r → (s.pages r).dirty = false →
    (t vpn).permits true = false
  read_of_write : ∀ {vpn}, (t vpn).writeEnable = true → (t vpn).readEnable = true

/-- The flags of a page in use call for the entry. -/
lemma entryOf_pte {X : PageState} (h : X.FlagsOk) : EntryOf X X.flags.pte where
  referenced := pte_referenced
  unreferenced := pte_unreferenced
  out hres := by
    have hout := h.out hres
    refine ⟨?_, congrArg Flags.ppn hout, congrArg Flags.referenced hout, congrArg Flags.dirty hout⟩
    rw [hout]
    rfl

lemma Flags.read_of_write {F : Flags} (h : F.pte.writeEnable = true) : F.pte.readEnable = true := by
  obtain ⟨hres, href, -⟩ := Flags.of_permits (show F.pte.permits true = true from h)
  simp [Flags.pte, hres, href]

theorem Inv.tableCoherent {s : State} (h : Inv none s) {pt : Ptbr} {t : ℕ → Pte}
    (ht : s.tables pt = some t) : TableCoherent s pt t := by
  have hslot : ∀ {pt t vpn r}, s.tables pt = some t → s.slot pt vpn = some r →
      t vpn = (s.pages r).flags.pte := by
    intro pt t vpn r ht hs
    rw [h.coherent ht, State.pteFor, hs]
  refine ⟨fun {vpn r} hs => ?_, fun {vpn} hle => ?_, fun {vpn pt' t' vpn' r} ht' hs hs' => ?_,
    fun {vpn r} write hs href => ?_, fun {vpn r} hs hd => ?_, fun {vpn} hw => ?_⟩
  · rw [hslot ht hs]
    exact entryOf_pte (h.frames.flags_ok (.inl ⟨pt, vpn, hs⟩))
  · have hnone : s.slot pt vpn = none := List.getElem?_eq_none_iff.2 hle
    rw [h.coherent ht, State.pteFor, hnone]
    rfl
  · rw [hslot ht hs, hslot ht' hs']
  · rw [hslot ht hs]
    by_contra hp
    obtain ⟨-, href', -⟩ := Flags.of_permits (Bool.eq_true_of_not_eq_false hp)
    rw [show (s.pages r).flags.referenced = false from href] at href'
    cases href'
  · rw [hslot ht hs]
    by_contra hp
    obtain ⟨-, -, hd', -⟩ := Flags.of_permits (Bool.eq_true_of_not_eq_false hp)
    rw [show (s.pages r).flags.dirty = false from hd] at hd'
    cases hd' rfl
  · cases hs : s.slot pt vpn with
    | some r =>
      rw [hslot ht hs] at hw ⊢
      exact Flags.read_of_write hw
    | none =>
      rw [h.coherent ht, State.pteFor, hs] at hw
      cases hw

/-- **Page-table coherence.** -/
theorem page_tables_coherent {u : Setup} {k : Kernel} (h : (system u).Reachable k) {pid : Pid}
    {pt : Ptbr} (hlive : k.pager.pageTables.lookup pid = some pt) :
    ∃ t, k.pager.tables pt = some t ∧ TableCoherent k.pager pt t := by
  have hinv := (Sound.reachable h).inv
  obtain ⟨t, ht⟩ := Option.isSome_iff_exists.1 ((hinv.layout.live_iff pt).1 ⟨pid, hlive⟩)
  exact ⟨t, ht, hinv.tableCoherent ht⟩

/-- Two processes share a file page, which was dirtied, and each has a page of its own. -/
theorem page_tables_coherent_two : ∃ k : Kernel, k.pager.pageTables.lookup 1 = some 10 ∧
    k.pager.pageTables.lookup 2 = some 20 ∧ k.pager.slot 10 1 = k.pager.slot 20 1 ∧
    (∃ t, k.pager.tables 10 = some t ∧ TableCoherent k.pager 10 t) ∧
    ∃ t, k.pager.tables 20 = some t ∧ TableCoherent k.pager 20 t := by
  let k := Setup.small.kernel [.create 0 1 10, .create 0 2 20, .switch 1, .map nullptr 0,
    .map (vpnToVa 0) 7, .switch 2, .map nullptr 0, .map (vpnToVa 0) 7, .fault (vpnToVa 1) true]
    (by decide +kernel)
  have hk : (system .small).Reachable k := Setup.small.kernel_reachable _ _
  have h1 : k.pager.pageTables.lookup 1 = some 10 := by decide +kernel
  have h2 : k.pager.pageTables.lookup 2 = some 20 := by decide +kernel
  exact ⟨k, h1, h2, by decide +kernel, page_tables_coherent hk h1, page_tables_coherent hk h2⟩

end VmPager

import VmPager.Inv.Defs

/-!
# Entries of the page tables

The pager rewrites the entries of a page through two mechanisms, `update_pte` for a swap-backed page
and `update_ptes` for a file-backed one. Under `Layout` both write the same entries: those of the
slots that hold the page (`updatePte_eq`, `updatePtes_eq`). So a change of a page that writes the
entry its new flags call for is one operation, `State.refresh`, and it keeps `Coherent`.
-/

namespace VmPager

open Lib.Exec

/-! ### Flags and the rest of a page -/

section Pages

variable (X : PageState) (F G : Flags)

@[simp] lemma flags_withFlags : (X.withFlags F).flags = F := rfl
@[simp] lemma withFlags_flags : X.withFlags X.flags = X := rfl
@[simp] lemma withFlags_withFlags : (X.withFlags F).withFlags G = X.withFlags G := rfl
@[simp] lemma identity_withFlags : (X.withFlags F).identity = X.identity := rfl
@[simp] lemma withFlags_ppn : (X.withFlags F).ppn = F.ppn := rfl
@[simp] lemma withFlags_referenced : (X.withFlags F).referenced = F.referenced := rfl
@[simp] lemma withFlags_resident : (X.withFlags F).resident = F.resident := rfl
@[simp] lemma withFlags_dirty : (X.withFlags F).dirty = F.dirty := rfl
@[simp] lemma withFlags_type : (X.withFlags F).type = X.type := rfl
@[simp] lemma withFlags_vpn : (X.withFlags F).vpn = X.vpn := rfl
@[simp] lemma withFlags_swapBlock : (X.withFlags F).swapBlock = X.swapBlock := rfl
@[simp] lemma withFlags_ownerPtbr : (X.withFlags F).ownerPtbr = X.ownerPtbr := rfl
@[simp] lemma withFlags_filename : (X.withFlags F).filename = X.filename := rfl
@[simp] lemma withFlags_fileBlock : (X.withFlags F).fileBlock = X.fileBlock := rfl
@[simp] lemma withFlags_sharedPtes : (X.withFlags F).sharedPtes = X.sharedPtes := rfl
@[simp] lemma withFlags_backing : (X.withFlags F).backing = X.backing := rfl

end Pages

section Congr

variable {X Y : PageState} (h : Y.flags = X.flags)
include h

lemma ppn_congr : Y.ppn = X.ppn := congrArg Flags.ppn h

lemma referenced_congr : Y.referenced = X.referenced := congrArg Flags.referenced h

lemma resident_congr : Y.resident = X.resident := congrArg Flags.resident h

lemma dirty_congr : Y.dirty = X.dirty := congrArg Flags.dirty h

lemma framed_congr : Y.Framed ↔ X.Framed := by
  rw [PageState.Framed, PageState.Framed, resident_congr h, ppn_congr h]

lemma PageState.FlagsOk.congr (hok : X.FlagsOk) (ht : Y.type = X.type) : Y.FlagsOk := by
  constructor
  · rw [resident_congr h, h]
    exact hok.out
  · rw [resident_congr h, ppn_congr h, referenced_congr h, dirty_congr h, ht]
    exact hok.fresh

end Congr

section Entry

variable {X : PageState}

lemma pte_referenced (hres : X.resident = true) (href : X.referenced = true) :
    X.flags.pte = ⟨X.ppn, true, X.dirty⟩ := by
  simp [Flags.pte, PageState.flags, hres, href]

lemma pte_unreferenced (hres : X.resident = true) (href : X.referenced = false) :
    X.flags.pte = ⟨X.ppn, false, false⟩ := by
  simp [Flags.pte, PageState.flags, hres, href]

lemma pte_out (hres : X.resident = false) : X.flags.pte = Pte.zero := by
  simp [Flags.pte, PageState.flags, hres]

lemma pte_ppage (hres : X.resident = true) : X.flags.pte.ppage = X.ppn := by
  cases href : X.referenced with
  | true => rw [pte_referenced hres href]
  | false => rw [pte_unreferenced hres href]

end Entry

/-- Pages with one identity agree in everything that is not a flag. -/
lemma PageState.eq_withFlags {X Y : PageState} (h : Y.identity = X.identity) :
    Y = X.withFlags Y.flags := by
  calc Y = Y.identity.withFlags Y.flags := rfl
    _ = X.withFlags Y.flags := by rw [h]; rfl

/-! ### Changes that keep the layout -/

/-- `s'` differs from `s` in flags, entries, frames and the infrastructure alone. -/
structure SameLayout (s s' : State) : Prop where
  fileTable : s'.fileTable = s.fileTable
  arenas : s'.arenas = s.arenas
  pageTables : s'.pageTables = s.pageTables
  freeBlocks : s'.freeBlocks = s.freeBlocks
  maxBlocks : s'.maxBlocks = s.maxBlocks
  maxSize : s'.maxSize = s.maxSize
  nextPage : s'.nextPage = s.nextPage
  ptbr : s'.pageTableBaseRegister = s.pageTableBaseRegister
  tables : ∀ pt, (s'.tables pt).isSome = (s.tables pt).isSome
  pages : ∀ r, (s'.pages r).identity = (s.pages r).identity

namespace SameLayout

variable {s s' s'' : State}

theorem refl (s : State) : SameLayout s s :=
  ⟨rfl, rfl, rfl, rfl, rfl, rfl, rfl, rfl, fun _ => rfl, fun _ => rfl⟩

theorem trans (h : SameLayout s s') (h' : SameLayout s' s'') : SameLayout s s'' where
  fileTable := h'.fileTable.trans h.fileTable
  arenas := h'.arenas.trans h.arenas
  pageTables := h'.pageTables.trans h.pageTables
  freeBlocks := h'.freeBlocks.trans h.freeBlocks
  maxBlocks := h'.maxBlocks.trans h.maxBlocks
  maxSize := h'.maxSize.trans h.maxSize
  nextPage := h'.nextPage.trans h.nextPage
  ptbr := h'.ptbr.trans h.ptbr
  tables pt := (h'.tables pt).trans (h.tables pt)
  pages r := (h'.pages r).trans (h.pages r)

variable (h : SameLayout s s')
include h

theorem slot (pt : Ptbr) (vpn : ℕ) : s'.slot pt vpn = s.slot pt vpn := by
  unfold State.slot
  rw [h.arenas]

theorem held (r : PageRef) : s'.Held r ↔ s.Held r := by
  simp only [State.Held, h.slot, h.fileTable]

theorem live (pt : Ptbr) : s'.Live pt ↔ s.Live pt := by
  simp only [State.Live, h.pageTables]

theorem page (r : PageRef) : s'.pages r = (s.pages r).withFlags (s'.pages r).flags :=
  PageState.eq_withFlags (h.pages r)

theorem type (r : PageRef) : (s'.pages r).type = (s.pages r).type := by rw [h.page r]; rfl

theorem backing (r : PageRef) : (s'.pages r).backing = (s.pages r).backing := by
  rw [h.page r]; rfl

theorem ptesUnder (r : PageRef) (pt : Ptbr) :
    (s'.pages r).ptesUnder pt = (s.pages r).ptesUnder pt := by
  rw [h.page r]; rfl

theorem livePages : s'.livePages = s.livePages := by
  simp only [State.livePages, h.arenas, h.pageTables]

theorem liveBlocks : s'.liveBlocks = s.liveBlocks := by
  have hs : s'.IsSwap = s.IsSwap := funext fun r => by simp only [State.IsSwap, h.type]
  have hb : (fun r => (s'.pages r).swapBlock) = fun r => (s.pages r).swapBlock :=
    funext fun r => by rw [h.page r]; rfl
  simp only [State.liveBlocks, h.livePages, hs, hb]

/-- **The layout is kept.** -/
theorem layout (hL : Layout s) : Layout s' where
  ptbr_inj := by rw [h.pageTables]; exact hL.ptbr_inj
  live_iff pt := by rw [h.live, h.tables]; exact hL.live_iff pt
  arena_live := by
    intro pt vpn r hs
    rw [h.slot] at hs
    rw [h.tables]
    exact hL.arena_live hs
  arena_le pt := by rw [h.arenas]; exact hL.arena_le pt
  held_lt := by
    intro r hr
    rw [h.nextPage]
    exact hL.held_lt ((h.held r).1 hr)
  swap_slot := by
    intro pt vpn r hs ht
    rw [h.slot] at hs
    rw [h.type] at ht
    rw [h.page r]
    exact hL.swap_slot hs ht
  file_slot := by
    intro pt vpn r hs ht
    rw [h.slot] at hs
    rw [h.type] at ht
    rw [h.page r, h.fileTable]
    exact hL.file_slot hs ht
  file_entry := by
    intro n b r hr
    rw [h.fileTable] at hr
    rw [h.page r]
    exact hL.file_entry hr
  shared_iff := by
    intro n b r hr pt e
    rw [h.fileTable] at hr
    rw [h.ptesUnder, h.slot]
    exact hL.shared_iff hr pt e
  shared_nodup := by
    intro n b r hr pt
    rw [h.fileTable] at hr
    rw [h.ptesUnder]
    exact hL.shared_nodup hr pt
  shared_key := by
    intro n b r hr pt hk
    rw [h.fileTable] at hr
    rw [h.page r] at hk
    rw [h.ptesUnder]
    exact hL.shared_key hr pt hk
  blocks_max := by rw [h.maxBlocks]; exact hL.blocks_max
  blocks := by
    rw [h.freeBlocks, h.liveBlocks, h.maxBlocks]
    exact hL.blocks

end SameLayout

/-! ### Writing entries -/

lemma mkPte_of_lt {ppn : ℕ} (h : ppn < 2 ^ 20) (read write : Bool) :
    mkPte ppn read write = ⟨ppn, read, write⟩ := by
  rw [mkPte, Nat.mod_eq_of_lt h]

/-- The state with one entry written in all the places that satisfy `P`. -/
@[simps] def State.writeWhere (s : State) (P : PteRef → Prop) [DecidablePred P] (e : Pte) : State :=
  { s with tables := fun pt => (s.tables pt).map fun t vpn => if P ⟨pt, vpn⟩ then e else t vpn }

lemma writeWhere_congr (s : State) {P Q : PteRef → Prop} [DecidablePred P] [DecidablePred Q]
    (h : ∀ x, P x ↔ Q x) (e : Pte) : s.writeWhere P e = s.writeWhere Q e := by
  simp only [State.writeWhere, h]

/-- Write through a pointer to an allocated entry. -/
lemma writePte_eq {s : State} {pte : PteRef} (ht : (s.tables pte.table).isSome)
    (hv : pte.vpn < numPtes) (e : Pte) :
    writePte pte e s = .ok ((), s.writeWhere (· = pte) e) := by
  obtain ⟨t, ht⟩ := Option.isSome_iff_exists.1 ht
  simp only [writePte, bind_apply, get_apply, ok_bind, ht, require_apply hv, modify_apply]
  congr 2
  simp only [State.writeWhere]
  congr 1
  funext pt
  by_cases h : pt = pte.table
  · subst h
    simp only [Function.update_self, ht, Option.map_some, Option.some.injEq]
    funext vpn
    by_cases hvpn : vpn = pte.vpn
    · subst hvpn
      simp
    · have hne : (⟨pte.table, vpn⟩ : PteRef) ≠ pte := fun he => hvpn (by rw [← he])
      simp [hne, hvpn]
  · have hne : ∀ vpn, (⟨pt, vpn⟩ : PteRef) ≠ pte := fun vpn he => h (by rw [← he])
    simp [h, hne]

/-- Write through every pointer of a list. -/
lemma forM_writePte_eq (e : Pte) : ∀ (l : List PteRef) {s : State},
    (∀ x ∈ l, (s.tables x.table).isSome ∧ x.vpn < numPtes) →
    l.forM (fun x => writePte x e) s = .ok ((), s.writeWhere (· ∈ l) e) := by
  intro l
  induction l with
  | nil =>
    intro s _
    have h : s.writeWhere (· ∈ ([] : List PteRef)) e = s := by
      simp [State.writeWhere]
    rw [h]
    rfl
  | cons x l ih =>
    intro s hl
    obtain ⟨hx, hv⟩ := hl x (by simp)
    have hl' : ∀ y ∈ l, ((s.writeWhere (· = x) e).tables y.table).isSome ∧ y.vpn < numPtes := by
      intro y hy
      simpa using hl y (by simp [hy])
    have hstep := ih hl'
    show (writePte x e >>= fun _ => l.forM fun x => writePte x e) s = _
    rw [bind_of_ok (writePte_eq hx hv e), hstep]
    congr 2
    simp only [State.writeWhere, List.mem_cons, Option.map_map]
    congr 1
    funext pt
    congr 1
    funext t vpn
    by_cases h1 : (⟨pt, vpn⟩ : PteRef) = x <;> by_cases h2 : (⟨pt, vpn⟩ : PteRef) ∈ l <;>
      simp [h1, h2]

/-! ### The entries of a page -/

/-- The slots of a page. -/
def State.InSlot (s : State) (r : PageRef) (x : PteRef) : Prop := s.slot x.table x.vpn = some r

instance (s : State) (r : PageRef) : DecidablePred (s.InSlot r) := fun x => by
  unfold State.InSlot; infer_instance

section Layout

variable {s : State} (hL : Layout s)
include hL

/-- A slot has an entry. -/
theorem Layout.slot_valid {r : PageRef} {x : PteRef} (h : s.InSlot r x) :
    (s.tables x.table).isSome ∧ x.vpn < numPtes := by
  refine ⟨hL.arena_live h, lt_of_lt_of_le ?_ (hL.arena_le x.table)⟩
  exact (List.getElem?_eq_some_iff.1 h).1

/-- A swap-backed page in use has one slot, the one it names. -/
theorem Layout.inSlot_swap {r : PageRef} (h : s.Held r) (ht : (s.pages r).type = .swapBacked)
    (x : PteRef) : x = ⟨(s.pages r).ownerPtbr, (s.pages r).vpn⟩ ↔ s.InSlot r x := by
  rcases h with ⟨pt, vpn, hs⟩ | ⟨n, b, hf⟩
  · obtain ⟨ho, hv⟩ := hL.swap_slot hs ht
    constructor
    · rintro rfl
      rw [ho, hv]
      exact hs
    · intro hx
      obtain ⟨ho', hv'⟩ := hL.swap_slot hx ht
      rw [ho', hv']
  · rw [(hL.file_entry hf).1] at ht
    cases ht

/-- A file-backed page in use is the one of its entry in the file table. -/
theorem Layout.file_of_held {r : PageRef} (h : s.Held r) (ht : (s.pages r).type = .fileBacked) :
    ∃ n, (s.pages r).filename = some n ∧ s.fileTable n (s.pages r).fileBlock = some r := by
  rcases h with ⟨pt, vpn, hs⟩ | ⟨n, b, hf⟩
  · exact hL.file_slot hs ht
  · obtain ⟨-, hn, hb⟩ := hL.file_entry hf
    exact ⟨n, hn, by rw [hb]; exact hf⟩

/-- The pointers of a file-backed page in use are its slots. -/
theorem Layout.inSlot_file {r : PageRef} (h : s.Held r) (ht : (s.pages r).type = .fileBacked)
    (x : PteRef) : x ∈ (s.pages r).sharedPtes.entries.flatMap (·.2) ↔ s.InSlot r x := by
  obtain ⟨n, -, hf⟩ := hL.file_of_held h ht
  rw [List.mem_flatMap]
  constructor
  · rintro ⟨itr, hi, hx⟩
    have hk : (s.pages r).ptesUnder itr.1 = itr.2 := by
      rw [PageState.ptesUnder, AList.mem_lookup_iff.2 hi]
      rfl
    rw [← hk, hL.shared_iff hf] at hx
    rw [State.InSlot, hx.1]
    exact hx.2
  · intro hx
    have hx' := (hL.shared_iff hf x.table x).2 ⟨rfl, hx⟩
    cases hk : (s.pages r).sharedPtes.lookup x.table with
    | none =>
      rw [PageState.ptesUnder, hk] at hx'
      cases hx'
    | some l =>
      refine ⟨⟨x.table, l⟩, AList.mem_lookup_iff.1 hk, ?_⟩
      rw [PageState.ptesUnder, hk] at hx'
      exact hx'

/-- **`update_pte` writes the entries of the slots** of a swap-backed page. -/
theorem Layout.updatePte_eq {r : PageRef} {X : PageState} (h : s.Held r)
    (hX : X.identity = (s.pages r).identity) (ht : X.type = .swapBacked)
    (ppn : ℕ) (read write : Bool) :
    updatePte X.vpn ppn read write X.ownerPtbr s =
      .ok ((), s.writeWhere (s.InSlot r) (mkPte ppn read write)) := by
  rw [PageState.eq_withFlags hX] at ht ⊢
  obtain ⟨htab, hv⟩ := hL.slot_valid ((hL.inSlot_swap h ht _).1 rfl)
  rw [updatePte, withFlags_vpn, withFlags_ownerPtbr, writePte_eq htab hv]
  rw [writeWhere_congr s (hL.inSlot_swap h ht)]

/-- **`update_ptes` writes the entries of the slots** of a file-backed page. -/
theorem Layout.updatePtes_eq {r : PageRef} (h : s.Held r) (ht : (s.pages r).type = .fileBacked)
    (ppage : ℕ) (read write : Bool) :
    updatePtes r ppage read write s =
      .ok ((), s.writeWhere (s.InSlot r) (mkPte ppage read write)) := by
  have key : ∀ (L : List (Sigma fun _ : Ptbr => List PteRef)),
      (L.forM fun itr => itr.2.forM fun pte => writePte pte (mkPte ppage read write)) =
        (L.flatMap (·.2)).forM fun pte => writePte pte (mkPte ppage read write) := by
    intro L
    induction L with
    | nil => rfl
    | cons itr L ih => simp_all
  have hmem := hL.inSlot_file h ht
  have hvalid : ∀ x ∈ (s.pages r).sharedPtes.entries.flatMap (·.2),
      (s.tables x.table).isSome ∧ x.vpn < numPtes := fun x hx =>
    hL.slot_valid ((hmem x).1 hx)
  simp only [updatePtes, getPage, bind_apply, get_apply, ok_bind, pure_apply]
  rw [key, forM_writePte_eq _ _ hvalid, writeWhere_congr s hmem]

/-- Both mechanisms at once, as the code branches between them. -/
theorem Layout.writeEntries_eq {r : PageRef} {X : PageState} (h : s.Held r)
    (hX : X.identity = (s.pages r).identity) (ppn : ℕ) (read write : Bool) :
    (if X.type = .swapBacked then updatePte X.vpn ppn read write X.ownerPtbr
      else updatePtes r ppn read write) s =
      .ok ((), s.writeWhere (s.InSlot r) (mkPte ppn read write)) := by
  by_cases ht : X.type = .swapBacked
  · rw [if_pos ht]
    exact hL.updatePte_eq h hX ht ppn read write
  · rw [if_neg ht]
    rw [PageState.eq_withFlags hX, withFlags_type] at ht
    refine hL.updatePtes_eq h ?_ ppn read write
    cases hty : (s.pages r).type with
    | swapBacked => exact absurd hty ht
    | fileBacked => rfl

end Layout

/-! ### Changing the flags of a page -/

/-- The state with new flags for a page, and its entries rewritten to what they call for. -/
@[simps] def State.refresh (s : State) (r : PageRef) (F : Flags) : State :=
  { s.writeWhere (s.InSlot r) F.pte with
    pages := Function.update s.pages r ((s.pages r).withFlags F) }

lemma refresh_page_self (s : State) (r : PageRef) (F : Flags) :
    (s.refresh r F).pages r = (s.pages r).withFlags F := by
  simp

lemma refresh_page_ne (s : State) {r q : PageRef} (h : q ≠ r) (F : Flags) :
    (s.refresh r F).pages q = s.pages q := by
  simp [h]

/-- The identity of every page is kept. -/
lemma identity_update (s : State) (r : PageRef) (F : Flags) (q : PageRef) :
    (Function.update s.pages r ((s.pages r).withFlags F) q).identity = (s.pages q).identity := by
  by_cases h : q = r
  · subst h
    simp
  · simp [h]

theorem sameLayout_refresh (s : State) (r : PageRef) (F : Flags) :
    SameLayout s (s.refresh r F) where
  fileTable := rfl
  arenas := rfl
  pageTables := rfl
  freeBlocks := rfl
  maxBlocks := rfl
  maxSize := rfl
  nextPage := rfl
  ptbr := rfl
  tables pt := by simp
  pages := identity_update s r F

/-- **Entries stay coherent** when a page changes together with its entries. -/
theorem Coherent.refresh {s : State} (h : Coherent s) (r : PageRef) (F : Flags) :
    Coherent (s.refresh r F) := by
  intro pt t ht vpn
  obtain ⟨t₀, ht₀, rfl⟩ := Option.map_eq_some_iff.1 ht
  have hslot : (s.refresh r F).slot pt vpn = s.slot pt vpn := (sameLayout_refresh s r F).slot pt vpn
  unfold State.pteFor
  rw [hslot]
  beta_reduce
  cases hs : s.slot pt vpn with
  | none =>
    have hn : ¬ s.InSlot r ⟨pt, vpn⟩ := by simp [State.InSlot, hs]
    rw [if_neg hn, h ht₀, State.pteFor, hs]
  | some q =>
    by_cases hq : q = r
    · subst hq
      rw [if_pos (show s.InSlot q ⟨pt, vpn⟩ from hs)]
      show F.pte = ((s.refresh q F).pages q).flags.pte
      rw [refresh_page_self, flags_withFlags]
    · have hn : ¬ s.InSlot r ⟨pt, vpn⟩ := by
        simp only [State.InSlot, hs, Option.some.injEq]
        exact hq
      rw [if_neg hn, h ht₀, State.pteFor, hs]
      show (s.pages q).flags.pte = ((s.refresh r F).pages q).flags.pte
      rw [refresh_page_ne s hq]

/-- Coherence looks at the arenas, the entries and the pages. -/
theorem Coherent.congr {s s' : State} (h : Coherent s) (ha : s'.arenas = s.arenas)
    (ht : s'.tables = s.tables) (hp : s'.pages = s.pages) : Coherent s' := by
  intro pt t htab vpn
  rw [ht] at htab
  rw [h htab vpn]
  simp only [State.pteFor, State.slot, ha, hp]

end VmPager

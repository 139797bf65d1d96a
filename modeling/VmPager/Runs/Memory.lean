import VmPager.Abs.Flat
import VmPager.Core.Step

/-!
# The pager implements the flat memory

The simulation: each page in use stands for a logical page (`Related`), and has its bytes wherever
they are, in a frame or on disk. Faults and evictions change no bytes, so they do nothing to the
abstract memory; the other calls do to it what `Flat.next` says.
-/

namespace VmPager

open Lib.Transition Lib.LastWrite

/-! ### The relation -/

/-- The pages stand for logical pages, by `logical`, and have their bytes. -/
structure Related (disk : Option Name → ℕ → Page) (logical : PageRef → LogicalPage) (s : State)
    (m : Flat) : Prop where
  arenas : ∀ pid, m.arenas pid =
    (s.pageTables.lookup pid).map fun pt => (s.arenas pt).map logical
  /-- Swap-backed pages stand for anonymous pages, and those of the file table for their block. -/
  kind : ∀ {r}, s.Held r →
    ((s.pages r).type = .swapBacked ∧ ∃ i < m.anons, logical r = .anon i) ∨
      ∃ n b, s.fileTable n b = some r ∧ logical r = .file n b
  /-- No two pages stand for one logical page. -/
  inj : ∀ {r q}, s.Held r → s.Held q → logical r = logical q → r = q
  content : ∀ {r}, s.Held r → s.content r = m.read disk (logical r)
  /-- A block that was never mapped has its bytes on disk. -/
  files : ∀ {n b}, s.fileTable n b = none → s.disk (some n) b = m.read disk (.file n b)
  /-- An anonymous page to come is zero. -/
  fresh : ∀ {i}, m.anons ≤ i → m.read disk (.anon i) = zeroPage

namespace Related

variable {disk : Option Name → ℕ → Page} {logical : PageRef → LogicalPage} {s s' : State} {m : Flat}
  (R : Related disk logical s m)
include R

/-- The arena of the current process. -/
lemma pages {pid : Pid} (hcur : m.current = some pid)
    (hpid : s.pageTables.lookup pid = some s.pageTableBaseRegister) :
    m.pages = (s.arenas s.pageTableBaseRegister).map logical := by
  rw [Flat.pages, hcur, Option.bind_some, R.arenas, hpid]
  rfl

/-- A slot of the current arena stands for its logical page. -/
lemma page {pid : Pid} (hcur : m.current = some pid)
    (hpid : s.pageTables.lookup pid = some s.pageTableBaseRegister) {vpn : ℕ} {r : PageRef}
    (hs : s.slot s.pageTableBaseRegister vpn = some r) : m.pages[vpn]? = some (logical r) := by
  rw [R.pages hcur hpid, List.getElem?_map, show (s.arenas s.pageTableBaseRegister)[vpn]? = some r
    from hs]
  rfl

/-- The arena spells the same bytes. -/
lemma arenaBytes {pid : Pid} (hcur : m.current = some pid)
    (hpid : s.pageTables.lookup pid = some s.pageTableBaseRegister) (vpn offset : ℕ) :
    m.arenaBytes disk vpn offset = s.arenaBytes vpn offset := by
  rw [Flat.arenaBytes, State.arenaBytes, R.pages hcur hpid, ← List.map_drop, List.flatMap_map,
    List.flatMap_def, List.flatMap_def]
  refine congrArg (List.drop offset) (congrArg List.flatten (List.map_congr_left fun r hr => ?_))
  obtain ⟨i, hi⟩ := List.mem_iff_getElem?.1 (List.mem_of_mem_drop hr)
  rw [R.content (.inl ⟨_, i, hi⟩)]

/-- A page of the file table stands for its block. -/
lemma logical_file (hL : Layout s) {n : Name} {b : ℕ} {r : PageRef} (hf : s.fileTable n b = some r) :
    logical r = .file n b := by
  obtain ⟨hty, hn, hb⟩ := hL.file_entry hf
  rcases R.kind (.inr ⟨n, b, hf⟩) with ⟨hswap, -⟩ | ⟨n', b', hf', hlog⟩
  · rw [hty] at hswap
    cases hswap
  · obtain ⟨-, hn', hb'⟩ := hL.file_entry hf'
    rw [hn] at hn'
    cases hn'
    rw [hlog, ← hb', hb]

/-! ### Faults -/

/-- **What changes no bytes** is not seen. -/
theorem evolves (hev : Evolves s s') : Related disk logical s' m where
  arenas pid := by rw [hev.layout.pageTables, hev.layout.arenas, R.arenas]
  kind {r} hr := by
    rw [hev.layout.type, hev.layout.fileTable]
    exact R.kind ((hev.layout.held r).1 hr)
  inj {r q} hr hq := R.inj ((hev.layout.held r).1 hr) ((hev.layout.held q).1 hq)
  content {r} hr := by
    have hr' := (hev.layout.held r).1 hr
    rw [hev.content hr', R.content hr']
  files {n b} hf := by
    rw [hev.layout.fileTable] at hf
    rw [hev.files hf, R.files hf]
  fresh := R.fresh

/-! ### Mappings -/

omit R in
/-- The logical pages of an arena, when another page is given its own. -/
lemma map_update {r : PageRef} {L : LogicalPage} (hold : s.Held r → logical r = L) (pt : Ptbr) :
    (s.arenas pt).map (Function.update logical r L) = (s.arenas pt).map logical := by
  refine List.map_congr_left fun q hq => ?_
  obtain ⟨i, hi⟩ := List.mem_iff_getElem?.1 hq
  rw [Function.update_apply]
  split
  · rename_i hqr
    subst hqr
    exact (hold (.inl ⟨pt, i, hi⟩)).symm
  · rfl

/-- The abstract arenas, when the current one has a page more. -/
lemma grows_arenas (hL : Layout s) {r : PageRef} (g : Grows r s s') {pid : Pid}
    (hcur : m.current = some pid) (hpid : s.pageTables.lookup pid = some s.pageTableBaseRegister)
    {L : LogicalPage} (hold : s.Held r → logical r = L) (pid' : Pid) :
    (m.push L).arenas pid' = (s'.pageTables.lookup pid').map fun pt =>
      (s'.arenas pt).map (Function.update logical r L) := by
  rw [Flat.push_arenas hcur, g.pageTables, g.arenas]
  by_cases hp : pid' = pid
  · subst hp
    rw [Function.update_self, hpid, Option.map_some, Function.update_self, List.map_append,
      map_update hold, R.pages hcur hpid, List.map_singleton, Function.update_self]
  · rw [Function.update_of_ne hp, R.arenas]
    cases hl : s.pageTables.lookup pid' with
    | none => rfl
    | some pt =>
      have hpt : pt ≠ s.pageTableBaseRegister := by
        rintro rfl
        exact hp (hL.ptbr_inj hl hpid)
      rw [Option.map_some, Option.map_some, Function.update_of_ne hpt, map_update hold]

/-- **A page at the end of the arena** is its logical page at the end of the abstract arena. -/
theorem grows (hL : Layout s) {r : PageRef} (g : Grows r s s') {pid : Pid}
    (hcur : m.current = some pid) (hpid : s.pageTables.lookup pid = some s.pageTableBaseRegister)
    {L : LogicalPage} {a : ℕ} (ha : m.anons ≤ a) (hold : s.Held r → logical r = L)
    (hnew : ¬ s.Held r → ∀ q, s.Held q → logical q ≠ L)
    (hkind : ((s'.pages r).type = .swapBacked ∧ ∃ i < a, L = .anon i) ∨
      ∃ n b, s'.fileTable n b = some r ∧ L = .file n b)
    (hcontent : s'.content r = m.read disk L) :
    Related disk (Function.update logical r L) s' { m.push L with anons := a } := by
  have hread : ∀ L', ({ m.push L with anons := a } : Flat).read disk L' = m.read disk L' :=
    fun L' => Flat.read_congr (Flat.push_stores L) L'
  have hsame : ∀ {q}, q ≠ r → Function.update logical r L q = logical q :=
    fun hq => Function.update_of_ne hq ..
  have hheld : ∀ {q}, s'.Held q → q ≠ r → s.Held q :=
    fun hq hne => ((g.held _).1 hq).resolve_right hne
  -- a page that was in use keeps its logical page, so no other page has that of `r`
  have hother : ∀ {q}, s.Held q → q ≠ r → logical q ≠ L := by
    intro q hq hne hlog
    by_cases hr : s.Held r
    · exact hne (R.inj hq hr (hlog.trans (hold hr).symm))
    · exact hnew hr q hq hlog
  refine ⟨R.grows_arenas hL g hcur hpid hold, fun {q} hq => ?_, fun {q q'} hq hq' hlog => ?_,
    fun {q} hq => ?_, fun {n b} hf => ?_, fun {i} hi => ?_⟩
  · by_cases hqr : q = r
    · subst hqr
      rw [Function.update_self]
      exact hkind
    · rw [hsame hqr, g.others hqr]
      rcases R.kind (hheld hq hqr) with ⟨ht, i, hi, hlog⟩ | ⟨n, b, hf, hlog⟩
      · exact .inl ⟨ht, i, lt_of_lt_of_le hi ha, hlog⟩
      · exact .inr ⟨n, b, (g.fileTable n b q).2 (.inl hf), hlog⟩
  · by_cases hqr : q = r <;> by_cases hqr' : q' = r
    · rw [hqr, hqr']
    · subst hqr
      rw [Function.update_self, hsame hqr'] at hlog
      exact absurd hlog.symm (hother (hheld hq' hqr') hqr')
    · subst hqr'
      rw [Function.update_self, hsame hqr] at hlog
      exact absurd hlog (hother (hheld hq hqr) hqr)
    · rw [hsame hqr, hsame hqr'] at hlog
      exact R.inj (hheld hq hqr) (hheld hq' hqr') hlog
  · rw [hread]
    by_cases hqr : q = r
    · subst hqr
      rw [Function.update_self]
      exact hcontent
    · rw [hsame hqr, g.content (hheld hq hqr), R.content (hheld hq hqr)]
  · rw [hread, g.disk]
    refine R.files ?_
    cases hf' : s.fileTable n b with
    | none => rfl
    | some q =>
      rw [(g.fileTable n b q).2 (.inl hf')] at hf
      cases hf
  · rw [hread]
    exact R.fresh (ha.trans hi)

section Map

variable (h : Inv none s) (hlive : s.Running) {pid : Pid} (hcur : m.current = some pid)
  (hpid : s.pageTables.lookup pid = some s.pageTableBaseRegister)
include h hcur hpid

/-- The string at an address is the name that `get_filename` reads. -/
lemma string {va : BitVec 64} {n : Name} (hread : getFilename va s = .ok (some n, s')) :
    m.string disk va = some n := by
  rcases (getFilename_spec h va).elim hread with ⟨-, hnone, -⟩ | ⟨hva, hname⟩
  · cases hnone
  · obtain ⟨failed, -, hsome, -⟩ := hname.happened
    obtain ⟨-, hnul, rfl⟩ := hsome n rfl
    rw [Flat.string, R.arenaBytes hcur hpid, if_pos ⟨hva, hnul⟩, List.nil_append]

/-- A swap-backed page is mapped. -/
lemma mapSwap (b : ℕ) (rest : List ℕ) :
    ∃ logical', Related disk logical' (s.mapSwap b rest)
      { m.push (.anon m.anons) with anons := m.anons + 1 } := by
  have hpage : (s.mapSwap b rest).pages s.nextPage = s.newSwapPage b := Function.update_self ..
  have hnew := nextPage_new h.layout
  refine ⟨_, R.grows h.layout (grows_mapSwap h.layout b rest) hcur hpid (Nat.le_succ _)
    (fun hr => absurd hr hnew) (fun _ q hq hlog => ?_)
    (.inl ⟨by rw [hpage]; rfl, m.anons, Nat.lt_succ_self _, rfl⟩) ?_⟩
  · -- anonymous pages in use came before
    rcases R.kind hq with ⟨-, i, hi, hlog'⟩ | ⟨n, b', -, hlog'⟩
    · rw [hlog'] at hlog
      cases hlog
      exact lt_irrefl _ hi
    · rw [hlog'] at hlog
      cases hlog
  · rw [R.fresh le_rfl, State.content, hpage, if_pos (show (s.newSwapPage b).resident = true from rfl)]
    exact h.contents.zero

omit h in
/-- The page of the file table for a block is mapped. -/
lemma mapFile (hL : Layout s) (hL' : Layout s') {r : PageRef} (g : Grows r s s') {n : Name} {b : ℕ}
    (hf : s'.fileTable n b = some r) :
    ∃ logical', Related disk logical' s' (m.push (.file n b)) := by
  have hpush : m.push (.file n b) = { m.push (.file n b) with anons := m.anons } := by
    rw [← Flat.push_anons (m := m) (.file n b)]
  have hold : s.Held r → logical r = .file n b := by
    intro hr
    rcases (g.fileTable n b r).1 hf with hf | ⟨-, hnot, -⟩
    · exact R.logical_file hL hf
    · exact absurd hr hnot
  -- a page that is new was not in the file table
  have hnone : ¬ s.Held r → s.fileTable n b = none := by
    intro hr
    cases hf' : s.fileTable n b with
    | none => rfl
    | some q =>
      have hf'' := (g.fileTable n b q).2 (.inl hf')
      rw [hf] at hf''
      cases hf''
      exact absurd (.inr ⟨n, b, hf'⟩) hr
  rw [hpush]
  refine ⟨_, R.grows hL g hcur hpid le_rfl hold (fun hr q hq hlog => ?_) (.inr ⟨n, b, hf, rfl⟩) ?_⟩
  · rcases R.kind hq with ⟨-, i, -, hlog'⟩ | ⟨n', b', hf', hlog'⟩
    · rw [hlog'] at hlog
      cases hlog
    · rw [hlog'] at hlog
      cases hlog
      rw [hnone hr] at hf'
      cases hf'
  · by_cases hr : s.Held r
    · rw [g.content hr, R.content hr, hold hr]
    · obtain ⟨hty, hn, hb⟩ := hL'.file_entry hf
      rcases g.new hr with ⟨-, hout⟩ | ⟨hswap, -⟩
      · have hres : (s'.pages r).resident = false := congrArg Flags.resident hout
        rw [State.content, hres, if_neg Bool.false_ne_true, State.onDisk, PageState.backing, hty,
          if_neg PageType.noConfusion, hn, hb, g.disk, R.files (hnone hr)]
      · rw [hty] at hswap
        cases hswap

/-- **`vm_map`** does what the abstract memory does. -/
theorem map (hlive : s.Running) {filename : BitVec 64} {block : ℕ} {va : BitVec 64}
    (hm : Mapping s filename block va s') :
    ∃ m' logical', m.map disk filename block va = some m' ∧ m'.current = m.current ∧
      Related disk logical' s' m' := by
  have hpages : m.pages.length = s.arenaSize := by
    rw [R.pages hcur hpid, List.length_map]
    rfl
  by_cases hva : va = nullptr
  · rcases hm.steps h with ⟨-, hev⟩ | ⟨hne, -⟩
    · exact ⟨m, logical, if_pos hva, rfl, R.evolves hev⟩
    · exact absurd hva hne
  · have hnext : va = vpnToVa m.pages.length := by
      rcases hm.steps h with ⟨hnull, -⟩ | ⟨-, hnext, -⟩
      · exact absurd hnull hva
      · rw [hnext, hpages]
        rfl
    by_cases hname : filename = nullptr
    · obtain ⟨b, rest, -, rfl⟩ := hm.anonymous hname hva
      obtain ⟨logical', R'⟩ := R.mapSwap h hcur hpid b rest
      refine ⟨_, logical', ?_, ?_, R'⟩
      · rw [Flat.map, if_neg hva, if_neg (not_not.2 hnext), if_pos hname]
      · exact Flat.push_current _
    · obtain ⟨n, t, r, hread, ht, hev, g, hf⟩ := hm.file h hname hva
      have hpid' : t.pageTables.lookup pid = some t.pageTableBaseRegister := by
        rw [hev.layout.pageTables, hev.layout.ptbr]
        exact hpid
      obtain ⟨logical', R'⟩ :=
        (R.evolves hev).mapFile hcur hpid' ht.layout (h.map hlive hm).layout g hf
      refine ⟨_, logical', ?_, Flat.push_current _, R'⟩
      rw [Flat.map, if_neg hva, if_neg (not_not.2 hnext), if_neg hname, R.string h hcur hpid hread]
      rfl

end Map

/-! ### The other calls -/

/-- A new process has no pages. -/
theorem created (hL : Layout s) {childPid : Pid} {cpt : Ptbr} (hpt : s.tables cpt = none) :
    Related disk logical (s.created childPid cpt)
      { m with arenas := Function.update m.arenas childPid (some []) } where
  arenas pid := by
    rw [created_arenas hL hpt childPid, State.created_pageTables]
    show Function.update m.arenas childPid (some []) pid = _
    by_cases hp : pid = childPid
    · subst hp
      have hempty : s.arenas cpt = [] := by
        have ha := congrFun (created_arenas hL hpt pid) cpt
        rw [State.created_arenas, Function.update_self] at ha
        exact ha.symm
      rw [Function.update_self, AList.lookup_insert, Option.map_some, hempty, List.map_nil]
    · rw [Function.update_of_ne hp, AList.lookup_insert_ne hp, R.arenas]
  kind hr := R.kind ((created_held hL hpt _).1 hr)
  inj hr hq := R.inj ((created_held hL hpt _).1 hr) ((created_held hL hpt _).1 hq)
  content hr := R.content ((created_held hL hpt _).1 hr)
  files := R.files
  fresh := R.fresh

/-- A process that ends has no arena; the pages of the file table keep their bytes. -/
theorem destroyed (h : Inv none s) {pid : Pid}
    (hpid : s.pageTables.lookup pid = some s.pageTableBaseRegister) (ppns : List ℕ) :
    Related disk logical (s.destroyed pid ppns)
      { m with arenas := Function.update m.arenas pid none, current := none } where
  arenas pid' := by
    show Function.update m.arenas pid none pid' = ((s.pageTables.erase pid).lookup pid').map
      fun pt => (Function.update s.arenas s.pageTableBaseRegister [] pt).map logical
    by_cases hp : pid' = pid
    · subst hp
      rw [Function.update_self, AList.lookup_erase, Option.map_none]
    · rw [Function.update_of_ne hp, AList.lookup_erase_ne hp, R.arenas]
      cases hl : s.pageTables.lookup pid' with
      | none => rfl
      | some pt =>
        have hpt : pt ≠ s.pageTableBaseRegister := by
          rintro rfl
          exact hp (h.layout.ptbr_inj hl hpid)
        rw [Option.map_some, Option.map_some, Function.update_of_ne hpt]
  kind {r} hr := by
    obtain ⟨ptes, hp⟩ := destroyed_page s pid ppns r
    rw [hp]
    exact R.kind (destroyed_held hr)
  inj hr hq := R.inj (destroyed_held hr) (destroyed_held hq)
  content hr := by
    rw [destroyed_content]
    exact R.content (destroyed_held hr)
  files := R.files
  fresh := R.fresh

/-- **A store** is one to the logical page, and to no other. -/
theorem stored (h : Inv none s) {r : PageRef} (hr : s.Held r) (hf : (s.pages r).Framed)
    (offset : Fin vmPagesize) (byte : UInt8) :
    Related disk logical (s.stored (s.pages r).ppn offset byte)
      { m with stores := ((logical r, offset), byte) :: m.stores } where
  arenas := R.arenas
  kind := R.kind
  inj := R.inj
  content {q} hq := by
    rw [Flat.read_store, content_stored h hr hf offset byte hq]
    by_cases hqr : q = r
    · subst hqr
      rw [if_pos rfl, if_pos rfl, R.content hr]
    · rw [if_neg hqr, if_neg fun hlog => hqr (R.inj hq hr hlog)]
      exact R.content hq
  files {n b} hf' := by
    rw [Flat.read_store, if_neg]
    · exact R.files hf'
    · intro hlog
      rcases R.kind hr with ⟨-, i, -, hlog'⟩ | ⟨n', b', hf'', hlog'⟩
      · rw [hlog'] at hlog
        cases hlog
      · rw [hlog'] at hlog
        cases hlog
        rw [State.stored_fileTable, hf''] at hf'
        cases hf'
  fresh {i} hi := by
    rw [Flat.read_store, if_neg]
    · exact R.fresh hi
    · intro hlog
      rcases R.kind hr with ⟨-, j, hj, hlog'⟩ | ⟨n', b', -, hlog'⟩
      · rw [hlog'] at hlog
        cases hlog
        exact absurd hj (Nat.not_lt.2 hi)
      · rw [hlog'] at hlog
        cases hlog

end Related

/-- Anonymous pages are private, as the slot of a swap-backed page is. -/
lemma Related.anon_private {disk : Option Name → ℕ → Page} {logical : PageRef → LogicalPage}
    {s : State} {m : Flat} (R : Related disk logical s m) (hL : Layout s) : m.Private := by
  intro pid pid' L L' id vpn vpn' hp hp' hv hv'
  -- the page at a place of an arena, and its slot
  have hslot : ∀ {pid L vpn}, m.arenas pid = some L → L[vpn]? = some (.anon id) →
      ∃ pt r, s.pageTables.lookup pid = some pt ∧ s.slot pt vpn = some r ∧ logical r = .anon id := by
    intro pid L vpn hp hv
    rw [R.arenas] at hp
    obtain ⟨pt, hpt, rfl⟩ := Option.map_eq_some_iff.1 hp
    rw [List.getElem?_map] at hv
    obtain ⟨r, hr, hlog⟩ := Option.map_eq_some_iff.1 hv
    exact ⟨pt, r, hpt, hr, hlog⟩
  obtain ⟨pt, r, hpt, hr, hlog⟩ := hslot hp hv
  obtain ⟨pt', q, hpt', hq, hlog'⟩ := hslot hp' hv'
  obtain rfl := R.inj (.inl ⟨_, _, hr⟩) (.inl ⟨_, _, hq⟩) (hlog.trans hlog'.symm)
  have hswap : (s.pages r).type = .swapBacked := by
    rcases R.kind (.inl ⟨_, _, hr⟩) with ⟨ht, -⟩ | ⟨n, b, -, hfile⟩
    · exact ht
    · rw [hlog] at hfile
      cases hfile
  obtain ⟨ho, hv⟩ := hL.swap_slot hr hswap
  obtain ⟨ho', hv'⟩ := hL.swap_slot hq hswap
  refine ⟨hL.ptbr_inj hpt ?_, hv.symm.trans hv'⟩
  rw [← ho, ho']
  exact hpt'

/-! ### The simulation -/

/-- The kernel and the abstract memory are at the same point of a run. -/
def Simulated (u : Setup) (k : Kernel) (m : Flat) : Prop :=
  m.current = k.current ∧ ∃ logical, Related u.disk logical k.pager m

lemma simulated_init {u : Setup} {k : Kernel} (h : (system u).init k) :
    Simulated u k Flat.start := by
  obtain ⟨hinit, hcur⟩ := h
  rw [vmInit_eq u] at hinit
  have hk : k.pager = u.initial := by simpa using hinit.symm
  refine ⟨hcur.symm, fun _ => .anon 0, ?_⟩
  rw [hk]
  exact {
    arenas := fun _ => rfl
    kind := fun hr => absurd hr (initial_not_held u _)
    inj := fun hr => absurd hr (initial_not_held u _)
    content := fun hr => absurd hr (initial_not_held u _)
    files := fun _ => rfl
    fresh := fun _ => rfl }

/-- **A step of a run** is one of the abstract memory. -/
theorem simulated_step {u : Setup} {k k' : Kernel} {l : Label} {m : Flat}
    (h : (system u).Reachable k) (hR : Simulated u k m) (hs : (system u).step k l k') :
    ∃ m', m.next u.disk l = some m' ∧ Simulated u k' m' := by
  obtain ⟨c, ret⟩ := l
  obtain ⟨s', cur'⟩ := k'
  have hsound := Sound.reachable h
  have hinv := hsound.inv
  have ho := step_outcome h hs
  obtain ⟨hl, -, rfl⟩ := hs
  obtain ⟨hcur, logical, R⟩ := hR
  cases ho with
  | @create _ childPid _ hpid hpt =>
    exact ⟨{ m with arenas := Function.update m.arenas childPid (some []) },
      by rw [Flat.next, if_pos rfl], hcur, logical, R.created hinv.layout hpt⟩
  | switch => exact ⟨_, rfl, rfl, logical, { R with }⟩
  | invalid => exact ⟨m, rfl, hcur, logical, R⟩
  | fault _ hslot hden =>
    exact ⟨m, rfl, hcur, logical, R.evolves (hinv.faultDenied hslot hden).2⟩
  | map hlive hm =>
    obtain ⟨pid, hpid⟩ := Option.isSome_iff_exists.1 hl
    obtain ⟨m', logical', hmap, hcur', R'⟩ :=
      R.map hinv (hcur.trans hpid) (hsound.current hpid) hlive hm
    exact ⟨m', hmap, hcur'.trans hcur, logical', R'⟩
  | @destroy order pid hpt =>
    obtain ⟨pid', hpid'⟩ := Option.isSome_iff_exists.1 hl
    obtain rfl : pid' = pid := hinv.layout.ptbr_inj (hsound.current hpid') hpt
    refine ⟨_, ?_, rfl, logical, R.destroyed hinv hpt _⟩
    rw [Flat.next, hcur, hpid']
    rfl
  | load hslot =>
    obtain ⟨pid, hpid⟩ := Option.isSome_iff_exists.1 hl.1
    refine ⟨m, ?_, hcur, logical, R⟩
    rw [Flat.next, R.page (hcur.trans hpid) (hsound.current hpid) hslot, Option.bind_some,
      R.content (.inl ⟨_, _, hslot⟩), if_pos rfl]
  | @store vpn offset byte r hslot hf hd =>
    obtain ⟨pid, hpid⟩ := Option.isSome_iff_exists.1 hl.1
    refine ⟨{ m with stores := ((logical r, offset), byte) :: m.stores }, ?_, hcur, logical,
      R.stored hinv (.inl ⟨_, _, hslot⟩) hf offset byte⟩
    rw [Flat.next, R.page (hcur.trans hpid) (hsound.current hpid) hslot]
    rfl

/-- **The pager implements the flat memory.** The abstract memory accepts every run, with what each
call returned; anonymous pages stay private; and a load returns the byte most recently stored to its
logical page and offset. -/
theorem flat_memory {u : Setup} {ls : List Label} {k : Kernel} (h : (system u).Run ls k) :
    ∃ m, ls.reverse.foldlM (Flat.next u.disk) Flat.start = some m ∧ m.Private ∧
      ∀ {vpn offset b k'}, (system u).step k (.load vpn offset, .byte b) k' →
        ∃ L, m.pages[vpn]? = some L ∧ m.Recent u.disk L offset b := by
  obtain ⟨m, hm, hR⟩ := h.simulates (R := Simulated u)
    (fun _ => simulated_init) fun _ _ _ _ => simulated_step
  obtain ⟨hcur, logical, R⟩ := hR
  refine ⟨m, hm, R.anon_private (Sound.reachable ⟨ls, h⟩).inv.layout, fun {vpn offset b k'} hs => ?_⟩
  obtain ⟨m', hnext, -⟩ := simulated_step ⟨ls, h⟩ ⟨hcur, logical, R⟩ hs
  obtain ⟨L, hL, hload⟩ := Option.bind_eq_some_iff.1 hnext
  refine ⟨L, hL, ?_⟩
  by_cases hb : m.read u.disk L offset = b
  · rw [← hb]
    exact Flat.recent_read L offset
  · rw [if_neg hb] at hload
    cases hload

/-- The page in the only frame is loaded from: 98 was stored there last. -/
theorem flat_memory_small : ∃ ls m, (system .small).Run ls Kernel.small ∧
    ls.reverse.foldlM (Flat.next Setup.small.disk) Flat.start = some m ∧ m.Private ∧
    ∃ L, m.pages[1]? = some L ∧ m.Recent Setup.small.disk L ⟨0, by decide⟩ 98 := by
  have hexec : ∀ s : State, (Call.load 1 ⟨0, by decide⟩).exec s =
      .ok (.byte (s.physmem ((s.currentPte 1).ppage * vmPagesize + 0)), s) := fun _ => rfl
  have hbyte : Kernel.small.pager.physmem
      ((Kernel.small.pager.currentPte 1).ppage * vmPagesize + 0) = 98 := by decide +kernel
  obtain ⟨ls, h⟩ := Kernel.small_reachable
  obtain ⟨m, hm, hprivate, hload⟩ := flat_memory h
  refine ⟨ls, m, h, hm, hprivate, @hload 1 ⟨0, by decide⟩ 98 Kernel.small ⟨by decide +kernel, ?_, rfl⟩⟩
  rw [hexec, hbyte]

end VmPager

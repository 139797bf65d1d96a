import VmPager.Core.Step

/-!
# Two states that differ in the kind of one page

A page that is swap-backed in one state and file-backed in another, with the same flags and bytes and
in the same slots, is treated in the same way by every fault, sweep and eviction. `SameBut` is the
relation between the two states, `Alike` the one between what the same calls make of them, with what
has been recorded since. Each state function of `Core.Defs` keeps it, since these functions know a
page by its flags, its slots and its block.
-/

namespace VmPager

open Lib.Exec Lib.Frames Lib.SecondChance

/-- Switches, faults, loads and stores: the calls that neither make nor end a process, nor map a
page. -/
def Call.IsAccess : Call → Prop
  | .switch _ | .fault _ _ | .load _ _ | .store _ _ _ => True
  | _ => False

/-- Such a call leaves the arenas. -/
lemma Outcome.arenas {s s' : State} (h : Inv none s) {c : Call} (hc : c.IsAccess) {ret : Ret}
    (ho : Outcome s c ret s') : s'.arenas = s.arenas := by
  cases ho with
  | create => cases hc
  | map => cases hc
  | destroy => cases hc
  | switch => rfl
  | invalid => rfl
  | fault _ hs hden => exact (h.faultDenied hs hden).2.layout.arenas
  | load => rfl
  | store => rfl

/-- The entries follow the arenas and the flags of the pages. -/
lemma tables_eq_of_flags {s t : State} (hs : Coherent s) (ht : Coherent t)
    (harenas : t.arenas = s.arenas) (hflags : ∀ q, (t.pages q).flags = (s.pages q).flags)
    (hsome : ∀ pt, (t.tables pt).isSome = (s.tables pt).isSome) : t.tables = s.tables := by
  have hpte : ∀ pt vpn, t.pteFor pt vpn = s.pteFor pt vpn := by
    intro pt vpn
    unfold State.pteFor State.slot
    rw [harenas]
    cases (s.arenas pt)[vpn]? with
    | none => rfl
    | some r =>
      dsimp only
      rw [hflags]
  funext pt
  have hpt := hsome pt
  cases hs' : s.tables pt with
  | none =>
    rw [hs'] at hpt
    exact Option.isSome_eq_false_iff.1 hpt |> Option.isNone_iff_eq_none.1
  | some f =>
    rw [hs'] at hpt
    obtain ⟨g, hg⟩ := Option.isSome_iff_exists.1 hpt
    rw [hg, Option.some.injEq]
    funext vpn
    rw [hs hs', ht hg, hpte]

/-! ### Another name for a block -/

/-- The block `b` is called `b'`. -/
def renameBlock (b b' c : Option Name × ℕ) : Option Name × ℕ := if c = b then b' else c

/-- An event in which the block `b` is called `b'`. -/
def Event.rename (b b' : Option Name × ℕ) : Event → Event
  | .fileRead n c buf ok => .fileRead (renameBlock b b' (n, c)).1 (renameBlock b b' (n, c)).2 buf ok
  | .fileWrite n c buf ok => .fileWrite (renameBlock b b' (n, c)).1 (renameBlock b b' (n, c)).2 buf ok
  | e => e

/-! ### The relation -/

/-- The states agree, but for the page `x`, of which they have the same flags and bytes, and for the
blocks that back it. -/
structure SameBut (x : PageRef) (s t : State) : Prop where
  pages : ∀ {q}, q ≠ x → t.pages q = s.pages q
  flags : (t.pages x).flags = (s.pages x).flags
  arenas : t.arenas = s.arenas
  tables : t.tables = s.tables
  pageTables : t.pageTables = s.pageTables
  ptbr : t.pageTableBaseRegister = s.pageTableBaseRegister
  physMemPages : t.physMemPages = s.physMemPages
  freePages : t.freePages = s.freePages
  activePages : t.activePages = s.activePages
  maxSize : t.maxSize = s.maxSize
  physmem : t.physmem = s.physmem
  writes : t.writes = s.writes
  reads : t.reads = s.reads
  onDisk : t.onDisk x = s.onDisk x
  disk : ∀ {n b}, (n, b) ≠ (s.pages x).backing → (n, b) ≠ (t.pages x).backing →
    t.disk n b = s.disk n b

/-- The states `s` and `t` are the same but for `x`, whose blocks are `b` and `b'`, and what was
recorded since the histories `h` and `h'` is the same but for the name of the block. -/
structure Alike (x : PageRef) (b b' : Option Name × ℕ) (h h' : List Event) (s t : State) : Prop
    extends SameBut x s t where
  backing : (s.pages x).backing = b
  backing' : (t.pages x).backing = b'
  trace : ∃ new, s.trace = new ++ h ∧ t.trace = new.map (Event.rename b b') ++ h'

section Alike

variable {x : PageRef} {b b' : Option Name × ℕ} {old old' : List Event} {s t : State}
  (h : Alike x b b' old old' s t)
include h

namespace Alike

/-! ### What the functions look at -/

theorem flags_eq (q : PageRef) : (t.pages q).flags = (s.pages q).flags := by
  by_cases hq : q = x
  · rw [hq]
    exact h.flags
  · rw [h.pages hq]

theorem slot (pt : Ptbr) (vpn : ℕ) : t.slot pt vpn = s.slot pt vpn := by
  unfold State.slot
  rw [h.arenas]

theorem owner (p : ℕ) : t.owner p = s.owner p := owner_congr h.physMemPages p

theorem marked : t.marked = s.marked := by
  funext p
  unfold State.marked
  rw [h.owner]
  cases s.owner p with
  | none => rfl
  | some r => exact referenced_congr (h.flags_eq r)

theorem currentPte (vpn : ℕ) : t.currentPte vpn = s.currentPte vpn := by
  unfold State.currentPte
  rw [h.tables, h.ptbr]

/-- One event more, for each. -/
theorem trace_cons (e : Event) : ∃ new, e :: s.trace = new ++ old ∧
    e.rename b b' :: t.trace = new.map (Event.rename b b') ++ old' := by
  obtain ⟨new, hs, ht⟩ := h.trace
  exact ⟨e :: new, by rw [hs]; rfl, by rw [ht]; rfl⟩

/-- A page has the same block in both states, but for the name of that of `x`. -/
theorem backing_eq (hs : Layout s) (hx : s.Held x) {r : PageRef} (hr : s.Held r) :
    (t.pages r).backing = renameBlock b b' (s.pages r).backing := by
  unfold renameBlock
  by_cases hrx : r = x
  · subst hrx
    rw [h.backing, h.backing', if_pos rfl]
  · rw [h.pages hrx, if_neg]
    intro hb
    exact hrx (hs.backing_inj hr hx (hb.trans h.backing.symm))

/-! ### What keeps the relation -/

/-- New flags for a page, and its entries with it. -/
theorem refresh (r : PageRef) (F : Flags) : Alike x b b' old old' (s.refresh r F) (t.refresh r F) := by
  have hs := sameLayout_refresh s r F
  have ht := sameLayout_refresh t r F
  refine { h with
    pages := fun {q} hq => ?_
    flags := ?_
    tables := ?_
    onDisk := ?_
    disk := fun {n c} h1 h2 => ?_
    backing := (hs.backing x).trans h.backing
    backing' := (ht.backing x).trans h.backing' }
  · rw [refresh_page, refresh_page]
    split
    · rename_i hqr
      rw [← hqr, h.pages hq]
    · exact h.pages hq
  · rw [refresh_page, refresh_page]
    split
    · rfl
    · exact h.flags
  · funext pt
    simp only [State.refresh_tables, State.writeWhere_tables, State.InSlot, h.slot, h.tables]
  · rw [onDisk_congr hs rfl, onDisk_congr ht rfl]
    exact h.onDisk
  · rw [hs.backing] at h1
    rw [ht.backing] at h2
    exact h.disk h1 h2

theorem unref (p : ℕ) : Alike x b b' old old' (s.unref p) (t.unref p) := by
  unfold State.unref
  rw [h.owner]
  cases s.owner p with
  | none => exact h
  | some r =>
    dsimp only
    rw [h.flags_eq]
    exact h.refresh r _

omit h in
theorem unrefAll (ps : List ℕ) : ∀ {s t : State}, Alike x b b' old old' s t →
    Alike x b b' old old' (s.unrefAll ps) (t.unrefAll ps) := by
  induction ps with
  | nil => exact fun h => h
  | cons p ps ih => exact fun h => ih (h.unref p)

theorem swept (v : ℕ) (passed rest : List ℕ) :
    Alike x b b' old old' (s.swept v passed rest) (t.swept v passed rest) :=
  { unrefAll passed h with activePages := rfl }

theorem takeFree (p : ℕ) (rest : List ℕ) :
    Alike x b b' old old' (s.takeFree p rest) (t.takeFree p rest) :=
  { h with
    freePages := rfl
    activePages := by rw [State.takeFree_activePages, State.takeFree_activePages, h.activePages] }

theorem zeroFrame (p : ℕ) : Alike x b b' old old' (s.zeroFrame p) (t.zeroFrame p) :=
  { h with
    physmem := by
      show store t.physmem (p * vmPagesize) (t.frame 0) = store s.physmem (p * vmPagesize) (s.frame 0)
      rw [frame_congr h.physmem, h.physmem]
    trace := h.trace_cons (.memcpy (p * vmPagesize) 0) }

/-- The page `r` is entered for the frame, or null, after a change of flags. -/
theorem dropPage (r : PageRef) (p : ℕ) : Alike x b b' old old' (s.dropPage r p) (t.dropPage r p) :=
  { h.refresh r .out with
    physMemPages := by
      rw [State.dropPage_physMemPages, State.dropPage_physMemPages, h.physMemPages]
    trace := (h.refresh r .out).trace_cons (.evicted r) }

theorem fill (r : PageRef) (p : ℕ) (d w : Bool) :
    Alike x b b' old old' (s.fill r p d w) (t.fill r p d w) :=
  { h.refresh r ⟨p, true, true, d⟩ with
    physMemPages := by rw [State.fill_physMemPages, State.fill_physMemPages, h.physMemPages]
    trace := (h.refresh r ⟨p, true, true, d⟩).trace_cons (.faulted r w) }

theorem touch (r : PageRef) (w : Bool) : Alike x b b' old old' (s.touch r w) (t.touch r w) := by
  have hr := h.refresh r ⟨(s.pages r).ppn, true, true, (s.pages r).dirty || w⟩
  unfold State.touch
  rw [ppn_congr (h.flags_eq r), dirty_congr (h.flags_eq r)]
  exact { hr with trace := hr.trace_cons (.faulted r w) }

/-- A store of the MMU. -/
theorem stored (p : ℕ) (offset : Fin vmPagesize) (byte : UInt8) :
    Alike x b b' old old' (s.stored p offset byte) (t.stored p offset byte) :=
  { h with
    physmem := by
      show Function.update t.physmem _ byte = Function.update s.physmem _ byte
      rw [h.physmem] }

section Disk

variable (hs : Layout s) (ht : Layout t) (hx : s.Held x) (hx' : t.Held x) {r : PageRef}
  (hr : s.Held r) (hr' : t.Held r)
include hs hx hr

theorem writeFailed (p : ℕ) :
    Alike x b b' old old' (s.writeFailed r p) (t.writeFailed r p) := by
  have htr := h.trace_cons
    (.fileWrite (s.pages r).backing.1 (s.pages r).backing.2 (p * vmPagesize) false)
  rw [Event.rename, Prod.mk.eta, ← h.backing_eq hs hx hr] at htr
  exact { h with
    writes := by rw [State.writeFailed_writes, State.writeFailed_writes, h.writes]
    trace := htr }

theorem readFailed (p : ℕ) (left : Page) : Alike x b b' old old'
    (s.readFailed (s.pages r).backing p left) (t.readFailed (t.pages r).backing p left) := by
  have htr := h.trace_cons
    (.fileRead (s.pages r).backing.1 (s.pages r).backing.2 (p * vmPagesize) false)
  rw [Event.rename, Prod.mk.eta, ← h.backing_eq hs hx hr] at htr
  exact { h with
    physmem := by
      show store t.physmem (p * vmPagesize) left = store s.physmem (p * vmPagesize) left
      rw [h.physmem]
    reads := by rw [State.readFailed_reads, State.readFailed_reads, h.reads]
    activePages := by rw [State.readFailed_activePages, State.readFailed_activePages, h.activePages]
    freePages := by rw [State.readFailed_freePages, State.readFailed_freePages, h.freePages]
    physMemPages := by
      rw [State.readFailed_physMemPages, State.readFailed_physMemPages, h.physMemPages]
    trace := htr }

include ht hx' hr'

theorem onDisk_eq : t.onDisk r = s.onDisk r := by
  by_cases hrx : r = x
  · rw [hrx]
    exact h.onDisk
  · unfold State.onDisk
    rw [h.pages hrx]
    refine h.disk (fun hb => hrx (hs.backing_inj hr hx hb)) fun hb => hrx ?_
    exact ht.backing_inj hr' hx' (by rw [h.pages hrx]; exact hb)

theorem readInto (p : ℕ) : Alike x b b' old old' (s.readInto (s.pages r).backing p)
    (t.readInto (t.pages r).backing p) := by
  have htr := h.trace_cons
    (.fileRead (s.pages r).backing.1 (s.pages r).backing.2 (p * vmPagesize) true)
  rw [Event.rename, Prod.mk.eta, ← h.backing_eq hs hx hr] at htr
  exact { h with
    physmem := by
      show store t.physmem (p * vmPagesize) (t.onDisk r) = store s.physmem (p * vmPagesize) (s.onDisk r)
      rw [h.onDisk_eq hs ht hx hx' hr hr', h.physmem]
    reads := by rw [State.readInto_reads, State.readInto_reads, h.reads]
    trace := htr }

/-- The block that is written has the same bytes in both states, under both names. -/
theorem wrote (p : ℕ) : Alike x b b' old old' (s.wrote r p) (t.wrote r p) := by
  have htr := h.trace_cons
    (.fileWrite (s.pages r).backing.1 (s.pages r).backing.2 (p * vmPagesize) true)
  rw [Event.rename, Prod.mk.eta, ← h.backing_eq hs hx hr] at htr
  have hframe : t.frame p = s.frame p := frame_congr h.physmem p
  refine { h with
    writes := by rw [State.wrote_writes, State.wrote_writes, h.writes]
    onDisk := ?_
    disk := fun {n c} h1 h2 => ?_
    trace := htr }
  · by_cases hrx : r = x
    · rw [← hrx, wrote_onDisk_self, wrote_onDisk_self, hframe]
    · rw [wrote_onDisk_ne hs hr hx (Ne.symm hrx), wrote_onDisk_ne ht hr' hx' (Ne.symm hrx), h.onDisk]
  · by_cases hc : (s.pages r).backing = (n, c)
    · -- another page's block
      have hrx : r ≠ x := by
        rintro rfl
        exact h1 hc.symm
      have hc' : (t.pages r).backing = (n, c) := by rw [h.pages hrx, hc]
      have hself : (s.wrote r p).onDisk r = s.frame p := wrote_onDisk_self
      have hself' : (t.wrote r p).onDisk r = t.frame p := wrote_onDisk_self
      simp only [State.onDisk, State.wrote_pages, hc, hc'] at hself hself'
      rw [hself, hself', hframe]
    · have hc' : (t.pages r).backing ≠ (n, c) := by
        by_cases hrx : r = x
        · rw [hrx]
          exact fun he => h2 he.symm
        · rw [h.pages hrx]
          exact hc
      rw [wrote_disk_ne hc, wrote_disk_ne hc']
      exact h.disk h1 h2

end Disk

/-! ### The search for a frame, and faults -/

section Search

variable (hs : Inv none s) (ht : Inv none t) (hx : s.Held x) (hx' : t.Held x)
include hs ht hx hx'

theorem evictFrom {p : ℕ} (hp : p ∈ s.activePages) : (t.evictFrom p).1 = (s.evictFrom p).1 ∧
    Alike x b b' old old' (s.evictFrom p).2 (t.evictFrom p).2 := by
  obtain ⟨r, ho⟩ := hs.frames.active_owned hp (by simp)
  have ho' : t.owner p = some r := by rw [h.owner, ho]
  have hr := hs.frames.owner_held ho
  have hr' := ht.frames.owner_held ho'
  unfold State.evictFrom
  rw [ho, ho']
  dsimp only
  rw [dirty_congr (h.flags_eq r), h.writes]
  split
  · split
    · exact ⟨rfl, (h.wrote hs.layout ht.layout hx hx' hr hr' p).dropPage r p⟩
    · exact ⟨rfl, h.writeFailed hs.layout hx hr p⟩
  · exact ⟨rfl, h.dropPage r p⟩

/-- **The search for a frame finds the same frame.** -/
theorem takeFrame : t.takeFrame.1 = s.takeFrame.1 ∧
    Alike x b b' old old' s.takeFrame.2 t.takeFrame.2 := by
  unfold State.takeFrame
  rw [h.freePages, h.marked, h.activePages]
  cases hfree : s.freePages with
  | cons p rest => exact ⟨rfl, h.takeFree p rest⟩
  | nil =>
    dsimp only
    cases hsw : sweep (s.activePages.length + 1) s.marked s.activePages with
    | none => exact ⟨rfl, h⟩
    | some res =>
      obtain ⟨v, passed, rest⟩ := res
      have hperm := (sweep_isRotated hsw).perm.symm
      have hperm' : (rest ++ [v]).Perm t.activePages := by rw [h.activePages]; exact hperm
      obtain ⟨hs₁, hm⟩ : Inv none (s.swept v passed rest) ∧ _ := hs.swept hperm
      obtain ⟨ht₁, hm'⟩ : Inv none (t.swept v passed rest) ∧ _ := ht.swept hperm'
      exact (h.swept v passed rest).evictFrom hs₁ ht₁ ((hm.layout.held x).2 hx)
        ((hm'.layout.held x).2 hx') (by simp [State.swept])

variable {r : PageRef} (hr : s.Held r) (hr' : t.Held r)
include hr hr'

/-- **The same block is loaded**, by both its names. -/
theorem loadBlock :
    (t.loadBlock (t.pages r).backing).1 = (s.loadBlock (s.pages r).backing).1 ∧
    Alike x b b' old old' (s.loadBlock (s.pages r).backing).2
      (t.loadBlock (t.pages r).backing).2 := by
  obtain ⟨heq, h₁⟩ := h.takeFrame hs ht hx hx'
  have hm := hs.takeFrame.1
  have hm' := ht.takeFrame.1
  have hL : Layout s.takeFrame.2 := hm.layout.layout hs.layout
  have hL' : Layout t.takeFrame.2 := hm'.layout.layout ht.layout
  have hx₁ := (hm.layout.held x).2 hx
  have hx₁' := (hm'.layout.held x).2 hx'
  have hr₁ := (hm.layout.held r).2 hr
  have hr₁' := (hm'.layout.held r).2 hr'
  unfold State.loadBlock
  rw [heq, h₁.reads, ← hm.layout.backing r, ← hm'.layout.backing r]
  split
  · exact ⟨rfl, h₁⟩
  · cases s.takeFrame.2.reads.head with
    | success => exact ⟨rfl, h₁.readInto hL hL' hx₁ hx₁' hr₁ hr₁' _⟩
    | failure left => exact ⟨rfl, h₁.readFailed hL hx₁ hr₁ _ left⟩

/-- **A fault comes to the same.** -/
theorem faultPage (w : Bool) : (t.faultPage r w).1 = (s.faultPage r w).1 ∧
    Alike x b b' old old' (s.faultPage r w).2 (t.faultPage r w).2 := by
  obtain ⟨heq, h₁⟩ := h.takeFrame hs ht hx hx'
  unfold State.faultPage
  rw [resident_congr (h.flags_eq r), ppn_congr (h.flags_eq r), heq]
  cases hres : (s.pages r).resident with
  | true =>
    rw [if_pos rfl, if_pos rfl]
    split
    · split
      · exact ⟨rfl, h₁⟩
      · exact ⟨rfl, (h₁.zeroFrame _).fill r _ true w⟩
    · exact ⟨rfl, h.touch r w⟩
  | false =>
    obtain ⟨heq₂, h₂⟩ := h.loadBlock hs ht hx hx' hr hr'
    rw [if_neg Bool.false_ne_true, if_neg Bool.false_ne_true, heq₂]
    split
    · exact ⟨rfl, h₂⟩
    · exact ⟨rfl, h₂.fill r _ w w⟩

/-- The page has the same bytes. -/
theorem content_eq : t.content r = s.content r := by
  unfold State.content
  rw [resident_congr (h.flags_eq r), ppn_congr (h.flags_eq r), frame_congr h.physmem,
    h.onDisk_eq hs.layout ht.layout hx hx' hr hr']

omit hr hr'

/-- **A call that is no mapping comes to the same.** -/
theorem outcome {c : Call} (hc : c.IsAccess) {ret ret' : Ret} {s' t' : State}
    (ho : Outcome s c ret s') (ho' : Outcome t c ret' t') :
    ret' = ret ∧ Alike x b b' old old' s' t' := by
  cases ho with
  | create => cases hc
  | map => cases hc
  | destroy => cases hc
  | switch hpid =>
    cases ho' with
    | switch hpid' =>
      rw [h.pageTables, hpid] at hpid'
      cases hpid'
      exact ⟨rfl, { h with ptbr := rfl }⟩
  | invalid _ hs₀ =>
    cases ho' with
    | invalid => exact ⟨rfl, h⟩
    | fault _ hs₁ =>
      rw [h.slot, h.ptbr, hs₀] at hs₁
      cases hs₁
  | fault _ hs₀ =>
    cases ho' with
    | invalid _ hs₁ =>
      rw [h.slot, h.ptbr, hs₀] at hs₁
      cases hs₁
    | fault _ hs₁ =>
      have hr' : t.Held _ := .inl ⟨_, _, hs₁⟩
      rw [h.slot, h.ptbr, hs₀] at hs₁
      cases hs₁
      obtain ⟨heq, h₁⟩ := h.faultPage hs ht hx hx' (.inl ⟨_, _, hs₀⟩) hr' _
      exact ⟨by rw [heq], h₁⟩
  | load hs₀ =>
    cases ho' with
    | load hs₁ =>
      have hr' : t.Held _ := .inl ⟨_, _, hs₁⟩
      rw [h.slot, h.ptbr, hs₀] at hs₁
      cases hs₁
      exact ⟨by rw [h.content_eq hs ht hx hx' (.inl ⟨_, _, hs₀⟩) hr'], h⟩
  | store hs₀ =>
    cases ho' with
    | store hs₁ =>
      rw [h.slot, h.ptbr, hs₀] at hs₁
      cases hs₁
      rw [ppn_congr (h.flags_eq _)]
      exact ⟨rfl, h.stored _ _ _⟩

end Search

/-- The infrastructure makes the same calls. -/
theorem legal {cur : Option Pid} {c : Call} (hc : c.IsAccess) : Legal ⟨t, cur⟩ c ↔ Legal ⟨s, cur⟩ c := by
  cases c with
  | create => cases hc
  | map => cases hc
  | destroy => cases hc
  | switch => simp only [Legal, h.pageTables]
  | fault => simp only [Legal, h.currentPte]
  | load => simp only [Legal, h.currentPte]
  | store => simp only [Legal, h.currentPte]

end Alike

end Alike

end VmPager

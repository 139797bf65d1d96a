import VmPager.Core.Moves
import VmPager.Lib.WriteBack

/-!
# The pager is a cache

What the pager does about frames is what a write-back cache with a second chance does about pages:
all of `vm_fault`, `evict` and `get_free_ppn`, over both kinds of pages and all processes, refine one
cache with room for one page less than memory has frames (`cache_refined`).
-/

namespace VmPager

open Lib.WriteBack Lib.Frames Lib.SecondChance Lib.Transition

/-- A cache of the pages of a machine. -/
abbrev PageCache := Cache PageRef (Option Name × ℕ)

/-- What the cache records of an event. -/
def Event.cached : Event → Lib.WriteBack.Event PageRef (Option Name × ℕ)
  | .fileRead filename block _ ok => .read (filename, block) ok
  | .fileWrite filename block _ ok => .wrote (filename, block) ok
  | .memcpy _ _ => .zeroed
  | .mapped page filename block => .mapped page (filename, block)
  | .faulted page writeFlag => .accessed page writeFlag
  | .evicted page => .evicted page

/-- The read gives the bytes of the block. -/
def ReadOutcome.ok : ReadOutcome → Bool
  | .success => true
  | .failure _ => false

/-- The page is fresh: resident, in the zero frame. -/
def PageState.fresh (X : PageState) : Bool := X.resident && decide (X.ppn = 0)

lemma swept_ppn (s : State) (v : ℕ) (passed rest : List ℕ) (r : PageRef) :
    ((s.swept v passed rest).pages r).ppn = (s.pages r).ppn := by
  show ((s.unrefAll passed).pages r).ppn = _
  rw [unrefAll_page]
  rfl

lemma swept_fresh (s : State) (v : ℕ) (passed rest : List ℕ) (r : PageRef) :
    ((s.swept v passed rest).pages r).fresh = (s.pages r).fresh := by
  show ((s.unrefAll passed).pages r).fresh = _
  rw [unrefAll_page]
  rfl

/-- What a call may ask of the cache. Reading a name takes accesses to its pages; loads, stores and
switches ask nothing. -/
inductive Call.Asks : Call → List (Input PageRef (Option Name × ℕ)) → Prop
  | nothing (c : Call) : Call.Asks c []
  | fault {addr : BitVec 64} {w : Bool} (r : PageRef) : Call.Asks (.fault addr w) [.access r w]
  | anonymous {block : ℕ} (r : PageRef) (b : ℕ) :
      Call.Asks (.map nullptr block) [.map r (none, b) true]
  | name {filename : BitVec 64} {block : ℕ} {reads : List (Input PageRef (Option Name × ℕ))}
      (hreads : ∀ i ∈ reads, ∃ r w, i = .access r w) : Call.Asks (.map filename block) reads
  | named {filename : BitVec 64} {block : ℕ} {reads : List (Input PageRef (Option Name × ℕ))}
      (hreads : ∀ i ∈ reads, ∃ r w, i = .access r w) (r : PageRef) (n : Name) :
      Call.Asks (.map filename block) (reads ++ [.map r (some n, block) false])
  | release {order : IterOrder} (gone : PageRef → Bool) : Call.Asks (.destroy order) [.release gone]

/-- The cache has the pages of the active frames, in their order, with their flags. The frame that is
being filled, if any, is the last. -/
structure Caches (hole : Option ℕ) (s : State) (c : PageCache) : Prop where
  active : s.activePages = c.queue.map (fun r => (s.pages r).ppn) ++ hole.toList
  owner : ∀ {r}, r ∈ c.queue → s.owner (s.pages r).ppn = some r
  referenced : ∀ {r}, r ∈ c.queue → c.referenced r = (s.pages r).referenced
  dirty : ∀ {r}, r ∈ c.queue → c.dirty r = (s.pages r).dirty
  blank : ∀ {r}, s.Held r → c.blank r = (s.pages r).fresh
  block : ∀ {r}, s.Held r → c.block r = (s.pages r).backing
  writes : c.writes = s.writes
  reads : c.reads = s.reads.map ReadOutcome.ok
  log : c.log = s.trace.map Event.cached

namespace Caches

section Reads

variable {hole : Option ℕ} {s : State} {c : PageCache} {r : PageRef} (h : Caches hole s c)
include h

lemma held (hs : Frames hole s) (hr : r ∈ c.queue) : s.Held r := hs.owner_held (h.owner hr)

lemma ppn_inj {q : PageRef} (hr : r ∈ c.queue) (hq : q ∈ c.queue)
    (hp : (s.pages r).ppn = (s.pages q).ppn) : r = q := by
  have ho := h.owner hr
  rw [hp, h.owner hq] at ho
  exact (Option.some.inj ho).symm

lemma nodup (hs : Frames hole s) : c.queue.Nodup := by
  have hnd := hs.active_nodup
  rw [h.active] at hnd
  exact (List.nodup_append.1 hnd).1.of_map _

end Reads

/-! ### Room for a page -/

section Room

variable {s t : State} {c : PageCache} {r : PageRef} {v p : ℕ} {passed rest : List ℕ}
  (h : Caches none s c) (hs : Inv none s)
include h

lemma active_none : s.activePages = c.queue.map fun r => (s.pages r).ppn := by
  rw [h.active, Option.toList_none, List.append_nil]

/-- The page of an active frame is in the cache. -/
lemma mem_of_owner (hs : Frames none s) (ho : s.owner p = some r) : r ∈ c.queue := by
  obtain ⟨hp, -, -, -, -⟩ := hs.owner_ok ho
  rw [h.active_none] at hp
  obtain ⟨q, hq, rfl⟩ := List.mem_map.1 hp
  rw [h.owner hq] at ho
  rwa [← Option.some.inj ho]

include hs

/-- The pages in the cache are those with frames. -/
lemma mem_iff (hr : s.Held r) : r ∈ c.queue ↔ (s.pages r).Framed := by
  constructor
  · exact fun hq => hs.frames.owner_framed (h.owner hq)
  · exact fun hf => h.mem_of_owner hs.frames (hs.frames.owned hr hf)

/-- The cache has room as long as a frame is free. -/
lemma room_iff : c.queue.length < s.maxSize - 1 ↔ s.freePages ≠ [] := by
  have hlen := hs.frames.queues.length_eq
  rw [List.length_append, List.length_range', h.active_none, List.length_map] at hlen
  rw [ne_eq, ← List.length_eq_zero_iff]
  omega

/-- **The sweep of the frames is one of the pages.** -/
lemma sweep (hsw : s.Search v passed rest r) :
    ∃ passed' rest', Lib.SecondChance.sweep (c.queue.length + 1) c.referenced c.queue =
        some (r, passed', rest') ∧
      Caches none (s.swept v passed rest) { c with
        queue := rest' ++ [r]
        referenced := unmark c.referenced passed' } := by
  have hm : MakesRoom s (s.swept v passed rest) := (hs.swept hsw.rotated.perm.symm).2
  have hmarks : ∀ q ∈ c.queue, s.marked (s.pages q).ppn = c.referenced q := by
    intro q hq
    unfold State.marked
    rw [h.owner hq, h.referenced hq]
  have hsweep := hsw.sweep
  rw [h.active_none, List.length_map, sweep_map (fun x hx y hy => h.ppn_inj hx hy) hmarks] at hsweep
  obtain ⟨⟨q, passed', rest'⟩, heq, hres⟩ := Option.map_eq_some_iff.1 hsweep
  cases hres
  dsimp only at hsw hm ⊢
  have hmem : ∀ {x}, x ∈ rest' ++ [q] → x ∈ c.queue := (sweep_isRotated heq).perm.mem_iff.2
  have hpassed := sweep_passed (h.nodup hs.frames) (Nat.lt_succ_self _) heq
  have ho := hsw.owner
  rw [h.owner (hmem (by simp))] at ho
  obtain rfl := Option.some.inj ho
  refine ⟨passed', rest', heq, ?_⟩
  exact {
    active := by
      rw [swept_activePages, Option.toList_none, List.append_nil, List.map_append, List.map_singleton]
      simp only [swept_ppn]
    owner := fun {x} hx => by
      rw [swept_owner, swept_ppn]
      exact h.owner (hmem hx)
    referenced := fun {x} hx => by
      have hiff : (∀ p ∈ passed'.map fun y => (s.pages y).ppn, s.owner p ≠ some x) ↔
          x ∉ passed' := by
        rw [List.forall_mem_map]
        constructor
        · exact fun hall hxp => hall x hxp (h.owner (hpassed x hxp))
        · intro hxp y hy hoy
          rw [h.owner (hpassed y hy)] at hoy
          exact hxp (Option.some.inj hoy ▸ hy)
      show (c.referenced x && decide (x ∉ passed')) = ((s.unrefAll _).pages x).referenced
      rw [unrefAll_page, withFlags_referenced, decide_eq_decide.2 hiff, h.referenced (hmem hx)]
    dirty := fun {x} hx => by
      rw [swept_dirty]
      exact h.dirty (hmem hx)
    blank := fun {x} hx => by
      rw [swept_fresh]
      exact h.blank ((hm.layout.held x).1 hx)
    block := fun {x} hx => by
      rw [swept_backing]
      exact h.block ((hm.layout.held x).1 hx)
    writes := by rw [swept_writes, h.writes]
    reads := by rw [hm.reads, h.reads]
    log := by rw [swept_trace, h.log] }

end Room

section Evict

variable {hole : Option ℕ} {s : State} {c : PageCache} {r : PageRef} {p : ℕ}

lemma takeFree (h : Caches none s c) (p : ℕ) (rest : List ℕ) :
    Caches (some p) (s.takeFree p rest) c :=
  { h with
    active := by
      rw [State.takeFree_activePages, h.active_none]
      rfl }

/-- A block is written, or fails to be written. -/
lemma wrote (h : Caches hole s c) (hr : s.Held r) (p : ℕ) : Caches hole (s.wrote r p)
    { c with writes := c.writes.tail, log := .wrote (c.block r) true :: c.log } :=
  { h with
    writes := congrArg Stream'.tail h.writes
    log := by rw [h.block hr, h.log]; rfl }

lemma writeFailed (h : Caches hole s c) (hr : s.Held r) (p : ℕ) : Caches hole (s.writeFailed r p)
    { c with writes := c.writes.tail, log := .wrote (c.block r) false :: c.log } :=
  { h with
    writes := congrArg Stream'.tail h.writes
    log := by rw [h.block hr, h.log]; rfl }

/-- The page at the back of the queue goes. -/
lemma dropPage (h : Caches none s c) (hs : Frames none s) (ho : s.owner p = some r)
    {queue : List PageRef} (hqueue : c.queue = queue ++ [r]) : Caches (some p) (s.dropPage r p)
      { c with queue := queue, log := .evicted r :: c.log } := by
  have hL := sameLayout_dropPage s r p
  have hf := hs.owner_framed ho
  have hne : ∀ {x}, x ∈ queue → x ≠ r := by
    rintro x hx rfl
    have hnd := h.nodup hs
    rw [hqueue] at hnd
    exact (List.nodup_append.1 hnd).2.2 x hx x (List.mem_singleton_self x) rfl
  have hmem : ∀ {x}, x ∈ queue → x ∈ c.queue := by
    intro x hx
    rw [hqueue]
    exact List.mem_append_left _ hx
  have hpage : ∀ {x}, x ∈ queue → (s.dropPage r p).pages x = s.pages x :=
    fun hx => by rw [dropPage_page, if_neg (hne hx)]
  have hactive := h.active_none
  exact {
    active := by
      show s.activePages = _
      rw [hactive, hqueue, List.map_append, List.map_singleton, hs.owner_ppn ho]
      congr 1
      exact List.map_congr_left fun x hx => by rw [hpage hx]
    owner := fun {x} hx => by
      have hxo := h.owner (hmem hx)
      rw [hpage hx, owner_set rfl (hs.phys_lt (hs.owner_ok ho).1), if_neg, hxo]
      rintro rfl
      rw [hxo] at ho
      exact hne hx (Option.some.inj ho)
    referenced := fun {x} hx => by
      rw [hpage hx]
      exact h.referenced (hmem hx)
    dirty := fun {x} hx => by
      rw [hpage hx]
      exact h.dirty (hmem hx)
    blank := fun {x} hx => by
      have hb := h.blank ((hL.held x).1 hx)
      rw [dropPage_page]
      split
      · rename_i hxr
        -- the page had a frame, and was not fresh
        rw [hxr] at hb ⊢
        simp [hb, PageState.fresh, hf.2, Flags.out]
      · exact hb
    block := fun {x} hx => by
      rw [hL.backing]
      exact h.block ((hL.held x).1 hx)
    writes := h.writes
    reads := h.reads
    log := by rw [h.log]; rfl }

end Evict

section MakeRoom

variable {s t : State} {c : PageCache} {p : ℕ} (h : Caches none s c) (hs : Inv none s)
include h hs

/-- **A frame is found** when the cache has room. -/
theorem makeRoom (hr : Reclaim s p t) (hp : p ≠ 0) : (c.makeRoom (s.maxSize - 1)).1 = true ∧
    Caches (some p) t (c.makeRoom (s.maxSize - 1)).2 := by
  have hroom := h.room_iff hs
  unfold Cache.makeRoom
  cases hr with
  | free hfree =>
    rw [if_pos (hroom.2 (by simp [hfree]))]
    exact ⟨rfl, h.takeFree _ _⟩
  | stuck => exact absurd rfl hp
  | @clean _ passed rest r hsw hd =>
    obtain ⟨passed', rest', hsweep, h₁⟩ := h.sweep hs hsw
    have hs₁ := hsw.inv hs
    have ho := hsw.owner_swept
    rw [if_neg fun hlt => hroom.1 hlt hsw.full, hsweep]
    dsimp only
    rw [h.dirty (h.mem_of_owner hs.frames hsw.owner), hd, if_neg Bool.false_ne_true]
    exact ⟨rfl, h₁.dropPage hs₁.frames ho rfl⟩
  | @written _ passed rest r hsw hd hw =>
    obtain ⟨passed', rest', hsweep, h₁⟩ := h.sweep hs hsw
    have hs₁ := hsw.inv hs
    have ho := hsw.owner_swept
    rw [if_neg fun hlt => hroom.1 hlt hsw.full, hsweep]
    dsimp only
    rw [h.dirty (h.mem_of_owner hs.frames hsw.owner), hd, if_pos rfl, h.writes, hw, if_pos rfl]
    have h₂ := h₁.wrote (hs₁.frames.owner_held ho) p
    have hw₁ : Frames none ((s.swept p passed rest).wrote r p) := { hs₁.frames with }
    dsimp only at h₂
    rw [h.writes] at h₂
    exact ⟨rfl, h₂.dropPage hw₁ ho rfl⟩

/-- **No frame is found** when the page that would go cannot be written. -/
theorem noRoom (hr : Reclaim s 0 t) : (c.makeRoom (s.maxSize - 1)).1 = false ∧
    Caches none t (c.makeRoom (s.maxSize - 1)).2 := by
  obtain ⟨v, passed, rest, r, hsw, hd, hw, rfl⟩ := hr.of_zero hs
  obtain ⟨passed', rest', hsweep, h₁⟩ := h.sweep hs hsw
  have hs₁ := hsw.inv hs
  have ho := hsw.owner_swept
  unfold Cache.makeRoom
  rw [if_neg fun hlt => (h.room_iff hs).1 hlt hsw.full, hsweep]
  dsimp only
  rw [h.dirty (h.mem_of_owner hs.frames hsw.owner), hd, if_pos rfl, h.writes, hw,
    if_neg Bool.false_ne_true]
  have h₂ := h₁.writeFailed (hs₁.frames.owner_held ho) v
  dsimp only at h₂
  rw [h.writes] at h₂
  exact ⟨rfl, h₂⟩

end MakeRoom

/-! ### Accesses -/

section Load

variable {hole : Option ℕ} {s : State} {c : PageCache} {r : PageRef} {p : ℕ}

lemma zeroFrame (h : Caches hole s c) (p : ℕ) :
    Caches hole (s.zeroFrame p) { c with log := .zeroed :: c.log } :=
  { h with
    log := by rw [h.log]; rfl }

lemma readInto (h : Caches hole s c) (hr : s.Held r) (hok : s.reads.head = .success) (p : ℕ) :
    c.reads.head = true ∧ Caches hole (s.readInto (s.pages r).backing p)
      { c with reads := c.reads.tail, log := .read (c.block r) true :: c.log } := by
  constructor
  · rw [h.reads, Stream'.head_map, hok]
    rfl
  · exact { h with
      reads := congrArg Stream'.tail h.reads
      log := by rw [h.block hr, h.log]; rfl }

/-- The frame that could not be filled is free again. -/
lemma readFailed (h : Caches (some p) s c) (hs : Frames (some p) s) (hr : s.Held r) {left : Page}
    (hfail : s.reads.head = .failure left) : c.reads.head = false ∧
      Caches none (s.readFailed (s.pages r).backing p left)
        { c with reads := c.reads.tail, log := .read (c.block r) false :: c.log } := by
  constructor
  · rw [h.reads, Stream'.head_map, hfail]
    rfl
  · exact { h with
      active := by
        have hnd := hs.active_nodup
        have hactive := h.active
        rw [Option.toList_some] at hactive
        rw [hactive] at hnd
        have hnot := fun hp => (List.nodup_append.1 hnd).2.2 p hp p (List.mem_singleton_self p) rfl
        show s.activePages.erase p = _
        rw [hactive, List.erase_append_right _ hnot, List.erase_cons_head]
        rfl
      owner := fun {x} hx => by
        have hne := hs.ppn_ne_hole (h.held hs hx)
        show State.owner _ (s.pages x).ppn = some x
        rw [owner_set rfl (hs.phys_lt (hs.hole_active rfl)), if_neg hne, h.owner hx]
      reads := congrArg Stream'.tail h.reads
      log := by rw [h.block hr, h.log]; rfl }

/-- The frame is given to the page. -/
lemma fill (h : Caches (some p) s c) (hs : Frames (some p) s) (hr : r ∉ c.queue) (d w : Bool) :
    Caches none (s.fill r p d w) (c.insert r d w) := by
  have hp := hs.hole_active rfl
  have hp0 := (hs.active_pos hp).1
  have hL := sameLayout_fill s r p d w
  have hne : ∀ {x}, x ∈ c.queue → x ≠ r := by
    rintro x hx rfl
    exact hr hx
  have hpage : ∀ {x}, x ∈ c.queue → (s.fill r p d w).pages x = s.pages x :=
    fun hx => by rw [fill_page, if_neg (hne hx)]
  have hself : (s.fill r p d w).pages r = (s.pages r).withFlags ⟨p, true, true, d⟩ := by
    rw [fill_page, if_pos rfl]
  have hactive := h.active
  have hmap : c.queue.map (fun x => (s.pages x).ppn) =
      c.queue.map fun x => ((s.fill r p d w).pages x).ppn :=
    List.map_congr_left fun x hx => by rw [hpage hx]
  exact {
    active := by
      show s.activePages = (c.queue ++ [r]).map _ ++ []
      rw [hactive, hmap, List.append_nil, List.map_append, List.map_singleton, hself]
      rfl
    owner := fun {x} hx => by
      rw [owner_set rfl (hs.phys_lt hp)]
      rcases List.mem_append.1 hx with hx | hx
      · rw [hpage hx, if_neg (hs.ppn_ne_hole (h.held hs hx)), h.owner hx]
      · rw [List.mem_singleton.1 hx, hself, withFlags_ppn, if_pos rfl]
    referenced := fun {x} hx => by
      show Function.update c.referenced r true x = _
      rcases List.mem_append.1 hx with hx | hx
      · rw [Function.update_of_ne (hne hx), hpage hx, h.referenced hx]
      · rw [List.mem_singleton.1 hx, Function.update_self, hself, withFlags_referenced]
    dirty := fun {x} hx => by
      show Function.update c.dirty r d x = _
      rcases List.mem_append.1 hx with hx | hx
      · rw [Function.update_of_ne (hne hx), hpage hx, h.dirty hx]
      · rw [List.mem_singleton.1 hx, Function.update_self, hself, withFlags_dirty]
    blank := fun {x} hx => by
      show Function.update c.blank r false x = _
      rw [Function.update_apply, fill_page]
      split
      · simp [PageState.fresh, hp0]
      · exact h.blank ((hL.held x).1 hx)
    block := fun {x} hx => by
      rw [hL.backing]
      exact h.block ((hL.held x).1 hx)
    writes := h.writes
    reads := h.reads
    log := by
      show _ :: c.log = _
      rw [h.log]
      rfl }

/-- The page has a frame. -/
lemma touch (h : Caches none s c) (hs : Frames none s) (hr : r ∈ c.queue) (w : Bool) :
    Caches none (s.touch r w) (c.touch r w) := by
  have hL := sameLayout_touch s r w
  have hpage : ∀ x, (s.touch r w).pages x = if x = r then (s.pages r).withFlags
      ⟨(s.pages r).ppn, true, true, (s.pages r).dirty || w⟩ else s.pages x :=
    refresh_page s r _
  have hppn : ∀ x, ((s.touch r w).pages x).ppn = (s.pages x).ppn := by
    intro x
    rw [hpage]
    split
    · rename_i hx
      rw [hx]
      rfl
    · rfl
  exact {
    active := by
      simp only [hppn]
      exact h.active
    owner := fun {x} hx => by
      rw [hppn]
      exact h.owner hx
    referenced := fun {x} hx => by
      show Function.update c.referenced r true x = _
      rw [Function.update_apply, hpage]
      split
      · rfl
      · exact h.referenced hx
    dirty := fun {x} hx => by
      show Function.update c.dirty r _ x = _
      rw [Function.update_apply, hpage]
      split
      · rw [h.dirty hr]
        rfl
      · exact h.dirty hx
    blank := fun {x} hx => by
      have hb := h.blank ((hL.held x).1 hx)
      rw [hpage]
      split
      · rename_i hxr
        rw [hxr] at hb
        have hf := hs.owner_framed (h.owner hr)
        rw [hxr]
        show c.blank r = _
        rw [hb]
        simp [PageState.fresh, hf.2]
      · exact hb
    block := fun {x} hx => by
      rw [hL.backing]
      exact h.block ((hL.held x).1 hx)
    writes := h.writes
    reads := h.reads
    log := by
      show _ :: c.log = _
      rw [h.log]
      rfl }

end Load

section Access

variable {s s' t : State} {c : PageCache} {r : PageRef} {p : ℕ} {w : Bool} {res : ℤ}
  (h : Caches none s c) (hs : Inv none s) (hr : s.Held r)
include h hs hr

/-- The page and its block wait for the frame. -/
lemma found (hf : ¬ (s.pages r).Framed) (hrec : Reclaim s p t) (hp : p ≠ 0) :
    Caches (some p) t (c.makeRoom (s.maxSize - 1)).2 ∧ Inv (some p) t ∧ t.Held r ∧
      t.pages r = s.pages r ∧ t.reads = s.reads ∧ r ∉ (c.makeRoom (s.maxSize - 1)).2.queue ∧
      c.access (s.maxSize - 1) r w = (c.makeRoom (s.maxSize - 1)).2.bringIn r w := by
  obtain ⟨hroom, h₁⟩ := h.makeRoom hs hrec hp
  obtain ⟨hm, hinv⟩ := hrec.room hs
  have ht : Inv (some p) t := by
    rcases hinv with ⟨h0, -⟩ | ⟨-, ht⟩
    · exact absurd h0 hp
    · exact ht
  have hpage := hm.frameless hr hf
  refine ⟨h₁, ht, (hm.layout.held r).2 hr, hpage, hm.reads, fun hq => hf ?_, ?_⟩
  · rw [← hpage]
    exact ht.frames.owner_framed (h₁.owner hq)
  · rw [Cache.access, if_neg fun hq => hf ((h.mem_iff hs hr).1 hq), if_pos hroom]

/-- **A fault is an access to the cache.** -/
theorem access (hend : FaultEnd s r w res s') :
    Caches none s' (c.access (s.maxSize - 1) r w) := by
  cases hend with
  | touched hf =>
    have hq := (h.mem_iff hs hr).2 hf
    rw [Cache.access, if_pos hq]
    exact h.touch hs.frames hq w
  | noFrame hf hrec =>
    obtain ⟨hno, h₁⟩ := h.noRoom hs hrec
    rw [Cache.access, if_neg fun hq => hf ((h.mem_iff hs hr).1 hq), hno, if_neg Bool.false_ne_true]
    exact h₁
  | zeroed hf hp hrec hw hres =>
    obtain ⟨h₁, ht, hr₁, hpage, -, hq, hacc⟩ := h.found hs hr (w := w) hf hrec hp
    have hblank := h₁.blank hr₁
    have hppn : (s.pages r).ppn = 0 := by
      by_contra h0
      exact hf ⟨hres, h0⟩
    rw [hpage, PageState.fresh, hres, hppn] at hblank
    rw [hacc, Cache.bringIn, hblank]
    exact (h₁.zeroFrame _).fill { ht.frames with } hq true w
  | loaded hf hp hrec hread hres =>
    obtain ⟨h₁, ht, hr₁, hpage, hreads, hq, hacc⟩ := h.found hs hr (w := w) hf hrec hp
    have hblank := h₁.blank hr₁
    obtain ⟨hok, h₂⟩ := h₁.readInto hr₁ (by rw [hreads, hread]) _
    rw [hpage, PageState.fresh, hres] at hblank
    rw [hpage] at h₂
    rw [hacc, Cache.bringIn, hblank, hok]
    exact h₂.fill { ht.frames with } hq w w
  | unread hf hp hrec hread hres =>
    obtain ⟨h₁, ht, hr₁, hpage, hreads, -, hacc⟩ := h.found hs hr (w := w) hf hrec hp
    have hblank := h₁.blank hr₁
    obtain ⟨hok, h₂⟩ := h₁.readFailed ht.frames hr₁ (by rw [hreads, hread])
    rw [hpage, PageState.fresh, hres] at hblank
    rw [hpage] at h₂
    rw [hacc, Cache.bringIn, hblank, hok]
    exact h₂

end Access

/-! ### Other calls -/

section Act

variable {s s' : State} {c : PageCache} (h : Caches none s c) (hs : Inv none s)
include h

/-- The pages keep their frames and flags. -/
lemma congr (hactive : s'.activePages = s.activePages) (hphys : s'.physMemPages = s.physMemPages)
    (hflags : ∀ r, (s'.pages r).flags = (s.pages r).flags)
    (hheld : ∀ {r}, s'.Held r → s.Held r ∧ (s'.pages r).backing = (s.pages r).backing)
    (hwrites : s'.writes = s.writes) (hreads : s'.reads = s.reads) (htrace : s'.trace = s.trace) :
    Caches none s' c where
  active := by
    have hppn : ∀ r, (s'.pages r).ppn = (s.pages r).ppn := fun r => congrArg Flags.ppn (hflags r)
    simp only [hactive, hppn]
    exact h.active
  owner {r} hr := by
    rw [owner_congr hphys, show (s'.pages r).ppn = _ from congrArg Flags.ppn (hflags r)]
    exact h.owner hr
  referenced {r} hr := (h.referenced hr).trans (congrArg Flags.referenced (hflags r)).symm
  dirty {r} hr := (h.dirty hr).trans (congrArg Flags.dirty (hflags r)).symm
  blank {r} hr := (h.blank (hheld hr).1).trans
    (congrArg (fun F : Flags => F.resident && decide (F.ppn = 0)) (hflags r)).symm
  block {r} hr := (h.block (hheld hr).1).trans (hheld hr).2.symm
  writes := h.writes.trans hwrites.symm
  reads := by rw [hreads, h.reads]
  log := by rw [htrace, h.log]

include hs

/-- A page is made. -/
lemma mapped (g : Grows s.nextPage s s') (ha : Act s s') {n : Option Name} {b : ℕ}
    (hbacking : (s'.pages s.nextPage).backing = (n, b))
    (htrace : s'.trace = .mapped s.nextPage n b :: s.trace) :
    Caches none s' (c.map s.nextPage (n, b) (s'.pages s.nextPage).fresh) := by
  obtain ⟨-, hwrites, hreads⟩ := ha.infrastructure
  have hpage : ∀ {r}, s.Held r → s'.pages r = s.pages r :=
    fun hr => g.others (hs.layout.held_lt hr).ne
  have hqueue : ∀ {r}, r ∈ c.queue → s'.pages r = s.pages r :=
    fun hr => hpage (h.held hs.frames hr)
  exact {
    active := by
      rw [g.activePages, h.active]
      congr 1
      exact List.map_congr_left fun r hr => by rw [hqueue hr]
    owner := fun {r} hr => by
      rw [owner_congr g.physMemPages, hqueue hr]
      exact h.owner hr
    referenced := fun {r} hr => by
      rw [hqueue hr]
      exact h.referenced hr
    dirty := fun {r} hr => by
      rw [hqueue hr]
      exact h.dirty hr
    blank := fun {r} hr => by
      show Function.update c.blank s.nextPage _ r = _
      by_cases hrn : r = s.nextPage
      · rw [hrn, Function.update_self]
      · rw [Function.update_of_ne hrn, g.others hrn]
        exact h.blank (((g.held r).1 hr).resolve_right hrn)
    block := fun {r} hr => by
      show Function.update c.block s.nextPage _ r = _
      by_cases hrn : r = s.nextPage
      · rw [hrn, Function.update_self, hbacking]
      · rw [Function.update_of_ne hrn, g.others hrn]
        exact h.block (((g.held r).1 hr).resolve_right hrn)
    writes := h.writes.trans hwrites.symm
    reads := by rw [hreads, ← h.reads]; rfl
    log := by
      show _ :: c.log = _
      rw [htrace, h.log]
      rfl }

omit hs in
/-- The frames of a process go back. -/
lemma destroyed (pid : Pid) {ppns : List ℕ}
    (hp : ppns.Perm (s.frameSet (s.arenas s.pageTableBaseRegister))) :
    Caches none (s.destroyed pid ppns) (c.release fun r => decide ((s.pages r).ppn ∈ ppns)) := by
  have hflags := destroyed_flags s pid ppns
  have hppn : ∀ r, ((s.destroyed pid ppns).pages r).ppn = (s.pages r).ppn :=
    fun r => congrArg Flags.ppn (hflags r)
  have hmem : ∀ {r}, r ∈ (c.release fun r => decide ((s.pages r).ppn ∈ ppns)).queue →
      r ∈ c.queue ∧ (s.pages r).ppn ∉ ppns := by
    intro r hr
    simpa [Cache.release] using hr
  exact {
    active := by
      simp only [hppn]
      rw [State.destroyed_activePages, State.released_activePages, h.active_none, List.filter_map,
        Option.toList_none, List.append_nil]
      congr 1
      apply List.filter_congr
      simp
    owner := fun {r} hr => by
      rw [hppn, destroyed_owner, if_neg, h.owner (hmem hr).1]
      rw [← hp.mem_iff]
      exact (hmem hr).2
    referenced := fun {r} hr =>
      (h.referenced (hmem hr).1).trans (congrArg Flags.referenced (hflags r)).symm
    dirty := fun {r} hr => (h.dirty (hmem hr).1).trans (congrArg Flags.dirty (hflags r)).symm
    blank := fun {r} hr => (h.blank (destroyed_held hr)).trans
      (congrArg (fun F : Flags => F.resident && decide (F.ppn = 0)) (hflags r)).symm
    block := fun {r} hr => by
      obtain ⟨ptes, hpage⟩ := destroyed_page s pid ppns r
      rw [hpage]
      exact h.block (destroyed_held hr)
    writes := h.writes
    reads := h.reads
    log := h.log }

lemma mapSwap {b : ℕ} {rest : List ℕ} (hlive : s.Running) (hlen : s.arenaSize < numPtes)
    (hfree : s.freeBlocks = b :: rest) :
    Caches none (s.mapSwap b rest) (c.map s.nextPage (none, b) true) := by
  have hpage : (s.mapSwap b rest).pages s.nextPage = s.newSwapPage b := by
    rw [State.mapSwap_pages, Function.update_self]
  have hm := h.mapped hs (grows_mapSwap hs.layout b rest) (.swap hlive hlen hfree)
    (by rw [hpage]; rfl) rfl
  rw [hpage] at hm
  exact hm

lemma mapNew {n : Name} {b : ℕ} (hlive : s.Running) (hlen : s.arenaSize < numPtes)
    (hf : s.fileTable n b = none) :
    Caches none (s.mapNew n b) (c.map s.nextPage (some n, b) false) := by
  have hpage : (s.mapNew n b).pages s.nextPage = s.newFilePage n b := by
    rw [State.mapNew_pages, Function.update_self]
  have hm := h.mapped hs (grows_mapNew hs.layout hf) (.new hlive hlen hf) (by rw [hpage]; rfl) rfl
  rw [hpage] at hm
  exact hm

lemma mapKnown {n : Name} {b : ℕ} {r : PageRef} (hf : s.fileTable n b = some r) :
    Caches none (s.mapKnown r) c := by
  have hpage : ∀ q, ∃ ptes, (s.mapKnown r).pages q = { s.pages q with sharedPtes := ptes } := by
    intro q
    rw [State.mapKnown_pages, Function.update_apply]
    split
    · rename_i hq
      rw [hq]
      exact ⟨_, rfl⟩
    · exact ⟨_, rfl⟩
  refine h.congr rfl rfl (fun q => ?_) (fun {q} hq => ⟨?_, ?_⟩) rfl rfl rfl
  · obtain ⟨ptes, hq⟩ := hpage q
    rw [hq]
    rfl
  · rcases ((grows_mapKnown hs.layout hf).held q).1 hq with hq | rfl
    · exact hq
    · exact .inr ⟨n, b, hf⟩
  · obtain ⟨ptes, hq⟩ := hpage q
    rw [hq]
    rfl

/-- Faults, as those of `get_filename`, are accesses. -/
lemma faults (hf : Faults s s') : ∃ reads, (∀ i ∈ reads, ∃ r w, i = .access r w) ∧
    Caches none s' (c.run (s.maxSize - 1) reads) := by
  induction hf with
  | refl => exact ⟨[], fun i hi => (by cases hi), h⟩
  | @tail t t' hts hlast ih =>
    obtain ⟨reads, hreads, hc⟩ := ih
    obtain ⟨ht, hev⟩ := hs.faults hts
    obtain @⟨vpn, r, w, res, _, hslot, -, hend, -, -⟩ := hlast
    have hc' := hc.access ht (.inl ⟨_, _, hslot⟩) hend
    rw [hev.layout.maxSize] at hc'
    refine ⟨reads ++ [.access r w], fun i hi => ?_, ?_⟩
    · rcases List.mem_append.1 hi with hi | hi
      · exact hreads i hi
      · exact ⟨r, w, List.mem_singleton.1 hi⟩
    · rw [Cache.run, List.foldl_append]
      exact hc'

/-- **A call of `vm_map`** reads its name, if it has one, and makes a page, or does not. -/
lemma mapping {filename : BitVec 64} {block : ℕ} {va : BitVec 64} (hlive : s.Running)
    (hm : Mapping s filename block va s') :
    ∃ asked, Call.Asks (.map filename block) asked ∧
      Caches none s' (c.run (s.maxSize - 1) asked) := by
  cases hm with
  | full => exact ⟨[], .nothing _, h⟩
  | noBlock => exact ⟨[], .nothing _, h⟩
  | swap hlen hname hfree =>
    subst hname
    exact ⟨_, .anonymous s.nextPage _, h.mapSwap hs hlive hlen hfree⟩
  | noName hlen hname hread =>
    obtain ⟨reads, hreads, hc⟩ := h.faults hs (getFilename_faults hs hread)
    exact ⟨reads, .name hreads, hc⟩
  | known hlen hname hread hf =>
    obtain ⟨reads, hreads, hc⟩ := h.faults hs (getFilename_faults hs hread)
    exact ⟨reads, .name hreads, hc.mapKnown (getFilename_evolves hs hread).1 hf⟩
  | @new t n hlen hname hread hf =>
    obtain ⟨reads, hreads, hc⟩ := h.faults hs (getFilename_faults hs hread)
    obtain ⟨ht, hev⟩ := getFilename_evolves hs hread
    obtain ⟨hlive', hsize⟩ := hev.running hlive
    refine ⟨_, .named hreads t.nextPage n, ?_⟩
    rw [Cache.run, List.foldl_append]
    exact hc.mapNew ht hlive' (hsize ▸ hlen) hf

/-- **A call** asks something of the cache. -/
theorem outcome {call : Call} {ret : Ret} (ho : Outcome s call ret s') :
    ∃ asked, call.Asks asked ∧ Caches none s' (c.run (s.maxSize - 1) asked) := by
  cases ho with
  | create hpid hpt =>
    exact ⟨[], .nothing _, h.congr rfl rfl (fun _ => rfl)
      (fun hr => ⟨(created_held hs.layout hpt _).1 hr, rfl⟩) rfl rfl rfl⟩
  | switch =>
    exact ⟨[], .nothing _, h.congr rfl rfl (fun _ => rfl) (fun hr => ⟨hr, rfl⟩) rfl rfl rfl⟩
  | invalid => exact ⟨[], .nothing _, h⟩
  | @fault addr w r _ hslot hden =>
    have hr : s.Held r := .inl ⟨_, _, hslot⟩
    exact ⟨_, .fault r, h.access hs hr (hs.faultEnd (fresh_of_denied hs hr hden))⟩
  | map hlive hm => exact h.mapping hs hlive hm
  | @destroy order pid => exact ⟨_, .release _, h.destroyed pid (order.perm _)⟩
  | load => exact ⟨[], .nothing _, h⟩
  | store =>
    exact ⟨[], .nothing _, h.congr rfl rfl (fun _ => rfl) (fun hr => ⟨hr, rfl⟩) rfl rfl rfl⟩

end Act

end Caches

/-! ### Runs -/

end VmPager

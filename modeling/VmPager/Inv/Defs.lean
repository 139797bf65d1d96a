import VmPager.Code.System
import VmPager.Lib.History

/-!
# The invariant of the pager

Five groups of facts. `Layout` is about what never changes under a fault: the arenas, the file table,
the page tables in use, the two-way relation between a file page and the entries that share it, and
the reservation of swap blocks. `Coherent` says that every entry of every page table is the one that
the flags of its page call for. `Frames` is about who holds which frame; its parameter is a frame
that has been taken out of the free queue, or from a victim, and not been given to a page yet.
`Contents` ties the frames to the disk, and `Ghost` ties the flags to the recorded history.
-/

namespace VmPager

open Lib.Frames Lib.History

/-! ### Flags -/

/-- The part of a page that faults and evictions change. -/
structure Flags where
  ppn : ℕ
  referenced : Bool
  resident : Bool
  dirty : Bool

/-- The flags of a page that is not in memory. -/
def Flags.out : Flags := ⟨0, false, false, false⟩

/-- The entry that the flags of a page call for. -/
def Flags.pte (F : Flags) : Pte :=
  if F.resident then
    if F.referenced then ⟨F.ppn, true, F.dirty⟩ else ⟨F.ppn, false, false⟩
  else
    Pte.zero

def PageState.flags (X : PageState) : Flags := ⟨X.ppn, X.referenced, X.resident, X.dirty⟩

def PageState.withFlags (X : PageState) (F : Flags) : PageState :=
  { X with ppn := F.ppn, referenced := F.referenced, resident := F.resident, dirty := F.dirty }

/-- The rest of a page: everything but its flags. -/
def PageState.identity (X : PageState) : PageState := X.withFlags .out

/-- The block that backs a page. -/
def PageState.backing (X : PageState) : Option Name × ℕ :=
  if X.type = .swapBacked then (none, X.swapBlock) else (X.filename, X.fileBlock)

/-- The page holds a frame of its own. -/
def PageState.Framed (X : PageState) : Prop := X.resident = true ∧ X.ppn ≠ 0

instance (X : PageState) : Decidable X.Framed := by unfold PageState.Framed; infer_instance

/-- What the flags of a page in use can be: of a page out of memory, of a fresh swap-backed page, or
of a page with a frame. -/
structure PageState.FlagsOk (X : PageState) : Prop where
  out : X.resident = false → X.flags = .out
  fresh : X.resident = true → X.ppn = 0 →
    X.type = .swapBacked ∧ X.referenced = true ∧ X.dirty = false

/-! ### Slots and pages in use -/

/-- The page at `vpn` of the arena of a page table. -/
def State.slot (s : State) (pt : Ptbr) (vpn : ℕ) : Option PageRef := (s.arenas pt)[vpn]?

/-- Some arena or the file table holds the page. -/
def State.Held (s : State) (r : PageRef) : Prop :=
  (∃ pt vpn, s.slot pt vpn = some r) ∨ ∃ n b, s.fileTable n b = some r

/-- The page table of some process. -/
def State.Live (s : State) (pt : Ptbr) : Prop := ∃ pid, s.pageTables.lookup pid = some pt

/-- The pages of all processes, one process after the other. -/
def State.livePages (s : State) : List PageRef :=
  s.pageTables.entries.flatMap fun itr => s.arenas itr.2

def State.IsSwap (s : State) (r : PageRef) : Bool := (s.pages r).type = .swapBacked

/-- The swap blocks of the swap-backed pages of all processes. -/
def State.liveBlocks (s : State) : List ℕ :=
  (s.livePages.filter s.IsSwap).map fun r => (s.pages r).swapBlock

/-- The bytes of the block that backs a page. -/
def State.onDisk (s : State) (r : PageRef) : Page :=
  s.disk (s.pages r).backing.1 (s.pages r).backing.2

/-- The bytes of a page: of its frame when it is in memory, else of its block. -/
def State.content (s : State) (r : PageRef) : Page :=
  if (s.pages r).resident then s.frame (s.pages r).ppn else s.onDisk r

/-- The page that holds a frame. -/
def State.owner (s : State) (p : ℕ) : Option PageRef := (s.physMemPages[p]?).join

/-! ### The invariant -/

structure Layout (s : State) : Prop where
  /-- No two processes have one page table. -/
  ptbr_inj : ∀ {pid pid' pt}, s.pageTables.lookup pid = some pt →
    s.pageTables.lookup pid' = some pt → pid = pid'
  /-- The allocated page tables are those of the processes. -/
  live_iff : ∀ pt, s.Live pt ↔ (s.tables pt).isSome
  /-- Only processes have pages. -/
  arena_live : ∀ {pt vpn r}, s.slot pt vpn = some r → (s.tables pt).isSome
  /-- An arena is no longer than a page table. -/
  arena_le : ∀ pt, (s.arenas pt).length ≤ numPtes
  /-- Pages in use have been made. -/
  held_lt : ∀ {r}, s.Held r → r < s.nextPage
  /-- A swap-backed page names the one slot that holds it. -/
  swap_slot : ∀ {pt vpn r}, s.slot pt vpn = some r → (s.pages r).type = .swapBacked →
    (s.pages r).ownerPtbr = pt ∧ (s.pages r).vpn = vpn
  /-- The file-backed page of a slot is the one of the file table. -/
  file_slot : ∀ {pt vpn r}, s.slot pt vpn = some r → (s.pages r).type = .fileBacked →
    ∃ n, (s.pages r).filename = some n ∧ s.fileTable n (s.pages r).fileBlock = some r
  /-- An entry of the file table names its file and block. -/
  file_entry : ∀ {n b r}, s.fileTable n b = some r →
    (s.pages r).type = .fileBacked ∧ (s.pages r).filename = some n ∧ (s.pages r).fileBlock = b
  /-- The shared entries of a file page are its slots, each once. -/
  shared_iff : ∀ {n b r}, s.fileTable n b = some r → ∀ pt (e : PteRef),
    e ∈ (s.pages r).ptesUnder pt ↔ e.table = pt ∧ s.slot pt e.vpn = some r
  shared_nodup : ∀ {n b r}, s.fileTable n b = some r → ∀ pt, ((s.pages r).ptesUnder pt).Nodup
  /-- No key of a file page is without an entry. -/
  shared_key : ∀ {n b r}, s.fileTable n b = some r → ∀ pt ∈ (s.pages r).sharedPtes,
    (s.pages r).ptesUnder pt ≠ []
  /-- The blocks can be counted in an `unsigned int`. -/
  blocks_max : s.maxBlocks < 2 ^ 32
  /-- Every swap block is free or reserved by one page. -/
  blocks : (s.freeBlocks ++ s.liveBlocks).Perm (List.range s.maxBlocks)

/-- The entry that the page of a slot calls for. -/
def State.pteFor (s : State) (pt : Ptbr) (vpn : ℕ) : Pte :=
  match s.slot pt vpn with
  | some r => (s.pages r).flags.pte
  | none => Pte.zero

/-- Every entry is the one its page calls for. -/
def Coherent (s : State) : Prop :=
  ∀ {pt t}, s.tables pt = some t → ∀ vpn, t vpn = s.pteFor pt vpn

structure Frames (hole : Option ℕ) (s : State) : Prop where
  size_min : 2 ≤ s.maxSize
  size_max : s.maxSize ≤ 65535
  phys_length : s.physMemPages.length = s.maxSize
  /-- Every frame but the zero frame is in one queue. -/
  queues : (s.freePages ++ s.activePages).Perm (List.range' 1 (s.maxSize - 1))
  flags_ok : ∀ {r}, s.Held r → (s.pages r).FlagsOk
  /-- What `phys_mem_pages` says of a frame is so. -/
  owner_ok : ∀ {p r}, s.owner p = some r →
    p ∈ s.activePages ∧ hole ≠ some p ∧ s.Held r ∧ (s.pages r).resident = true ∧ (s.pages r).ppn = p
  /-- A page with a frame is entered in `phys_mem_pages`. -/
  owned : ∀ {r}, s.Held r → (s.pages r).Framed → s.owner (s.pages r).ppn = some r
  /-- Active frames have a page, but for the hole. -/
  active_owned : ∀ {p}, p ∈ s.activePages → hole ≠ some p → ∃ r, s.owner p = some r
  hole_active : ∀ {p}, hole = some p → p ∈ s.activePages

structure Contents (s : State) : Prop where
  /-- A clean page with a frame is as on disk. -/
  clean : ∀ {r}, s.Held r → (s.pages r).Framed → (s.pages r).dirty = false →
    s.frame (s.pages r).ppn = s.onDisk r
  /-- The zero frame is zero. -/
  zero : s.frame 0 = zeroPage

/-! ### The history -/

/-- `vm_fault` has returned 0 for a store to the page. -/
def isGrant (r : PageRef) : Event → Bool
  | .faulted page writeFlag => page = r && writeFlag
  | _ => false

/-- The page was made, or evicted. -/
def isReset (r : PageRef) : Event → Bool
  | .mapped page _ _ => page = r
  | .evicted page => page = r
  | _ => false

/-- A store to the page has been granted since it was mapped or last evicted. -/
def granted (r : PageRef) (h : List Event) : Bool := since (isGrant r) (isReset r) h

/-- The block of the swap file was written. -/
def isSwapWrite (b : ℕ) : Event → Bool
  | .fileWrite none block _ ok => block = b && ok
  | _ => false

/-- A page was made on the block of the swap file. -/
def isSwapMap (b : ℕ) : Event → Bool
  | .mapped _ none block => block = b
  | _ => false

/-- The block of the swap file has been written since it was last reserved. -/
def ownWrite (b : ℕ) (h : List Event) : Bool := since (isSwapWrite b) (isSwapMap b) h

/-- The page that was last made on a block. -/
def ownerOf (name : Option Name) (b : ℕ) : List Event → Option PageRef
  | [] => none
  | .mapped page filename block :: h =>
    if filename = name ∧ block = b then some page else ownerOf name b h
  | _ :: h => ownerOf name b h

/-- A byte address of the start of a frame that is not the zero frame. -/
def IsFrameAddr (maxSize buf : ℕ) : Prop := ∃ p, p ≠ 0 ∧ p < maxSize ∧ buf = p * vmPagesize

/-- What an event asks of the history it finds. Disk calls and copies use proper frames. A swap block
is read only when its owner has written it. A block is written only when a store to its page has been
granted, and a page with a store granted is evicted only right after that write. -/
def EventOk (maxSize : ℕ) (e : Event) (h : List Event) : Prop :=
  match e with
  | .fileRead name b buf _ => IsFrameAddr maxSize buf ∧ (name = none → ownWrite b h = true)
  | .fileWrite name b buf _ =>
    IsFrameAddr maxSize buf ∧ ∃ page, ownerOf name b h = some page ∧ granted page h = true
  | .memcpy dst src => IsFrameAddr maxSize dst ∧ src = 0
  | .evicted page => granted page h = true →
    ∃ name b buf h', h = .fileWrite name b buf true :: h' ∧ ownerOf name b h' = some page
  | _ => True

structure Ghost (s : State) : Prop where
  /-- Dirty pages are those with a store granted. -/
  dirty_iff : ∀ {r}, s.Held r → (s.pages r).dirty = granted r s.trace
  /-- A swap-backed page is fresh, dirty, or has been written to its block. -/
  written : ∀ {pt vpn r}, s.slot pt vpn = some r → (s.pages r).type = .swapBacked →
    ((s.pages r).resident = true ∧ (s.pages r).ppn = 0) ∨ (s.pages r).dirty = true ∨
      ownWrite (s.pages r).swapBlock s.trace = true
  /-- A page in use is the last one made on its block. -/
  owner : ∀ {r}, s.Held r → ownerOf (s.pages r).backing.1 (s.pages r).backing.2 s.trace = some r
  events : Always (EventOk s.maxSize) s.trace

/-- **The invariant.** -/
structure Inv (hole : Option ℕ) (s : State) : Prop where
  layout : Layout s
  coherent : Coherent s
  frames : Frames hole s
  contents : Contents s
  ghost : Ghost s

end VmPager

import VmPager.Lib.Exec
import VmPager.Lib.Frames
import Mathlib.Data.List.AList
import Mathlib.Data.Stream.Defs

/-!
# The data of the pager, and the machine under it

The globals of `shared.cpp`, the two queues of `clock.h`, the free list of `swap_manager.h`, the
`PageState` of `page_state.h` and the page tables of `vm_pager.h`, as one record. Objects behind a
pointer live in a store of the record: a `shared_ptr<PageState>` is a `PageRef` into `pages`, and a
`page_table_t*` is a `Ptbr` into `tables`, where `none` says that the table is not allocated.

The second half of the record is what the infrastructure provides: the bytes of `vm_physmem`, the
blocks of the files and of the swap file, the outcomes of the calls of `file_read` and `file_write`
still to come, and `trace`, a record (newest first) of what was read, written, copied, mapped,
faulted in and evicted. No function of the pager reads the record, the disk or the outcomes.
-/

namespace VmPager

open Lib.Exec Lib.Frames

/-! ### Constants and names -/

def vmPagesize : ℕ := 65536

theorem vmPagesize_pos : 0 < vmPagesize := by decide

def vmArenaBaseaddr : BitVec 64 := 0x600000000#64

def vmArenaSize : ℕ := 0x01000000

/-- The number of entries of a page table, `VM_ARENA_SIZE/VM_PAGESIZE`. -/
def numPtes : ℕ := vmArenaSize / vmPagesize

def nullptr : BitVec 64 := 0#64

/-- The bytes of a page, a frame or a disk block. -/
abbrev Page := Fin vmPagesize → UInt8

/-- The bytes of a C string, without the terminating NUL. -/
abbrev Name := List UInt8

abbrev Pid := ℕ

/-- A `page_table_t*`. -/
abbrev Ptbr := ℕ

/-- A `shared_ptr<PageState>` that is not null. -/
abbrev PageRef := ℕ

/-- The page of zeroes. -/
def zeroPage : Page := fun _ => 0

/-! ### Page tables -/

/-- `page_table_entry_t`. -/
structure Pte where
  ppage : ℕ
  readEnable : Bool
  writeEnable : Bool
  deriving DecidableEq, Repr

/-- The entry of a page that is not mapped, or is not in memory. -/
def Pte.zero : Pte := ⟨0, false, false⟩

/-- A `page_table_entry_t*`: the entry `vpn` of the page table `table`. -/
structure PteRef where
  table : Ptbr
  vpn : ℕ
  deriving DecidableEq, Repr

/-! ### Pages -/

inductive PageType where
  | swapBacked | fileBacked
  deriving DecidableEq, Repr

/-- `PageState`. The `filename` of a swap-backed page is null. -/
structure PageState where
  type : PageType
  ppn : ℕ
  vpn : ℕ
  referenced : Bool
  resident : Bool
  dirty : Bool
  swapBlock : ℕ
  ownerPtbr : Ptbr
  filename : Option Name
  fileBlock : ℕ
  sharedPtes : AList fun _ : Ptbr => List PteRef

/-! ### The infrastructure -/

/-- What a call of `file_read` does: it succeeds, or it fails and leaves some bytes in its buffer. -/
inductive ReadOutcome where
  | success
  | failure (left : Page)

/-- What is recorded of a run. The addresses `buf`, `dst` and `src` count from `vm_physmem`. -/
inductive Event where
  | fileRead (filename : Option Name) (block buf : ℕ) (ok : Bool)
  | fileWrite (filename : Option Name) (block buf : ℕ) (ok : Bool)
  | memcpy (dst src : ℕ)
  /-- A new page was made for the block of the file (of the swap file, when the name is null). -/
  | mapped (page : PageRef) (filename : Option Name) (block : ℕ)
  /-- `vm_fault` returned 0 on the page. -/
  | faulted (page : PageRef) (writeFlag : Bool)
  | evicted (page : PageRef)
  deriving DecidableEq

/-- What stops a run of the pager: an assertion that does not hold, an index out of range, a null
`shared_ptr` or a page table that is not allocated behind a pointer that is followed, `front` of an
empty queue, or a loop that goes on past every bound. -/
inductive Violation where
  | assertion | outOfRange | nullDeref | dangling | emptyQueue | diverged
  deriving DecidableEq, Repr

/-! ### The state -/

structure State where
  /- `shared.cpp` -/
  fileTable : Name → ℕ → Option PageRef
  arenas : Ptbr → List PageRef
  pageTables : AList fun _ : Pid => Ptbr
  physMemPages : List (Option PageRef)
  /- `clock_` -/
  freePages : List ℕ
  activePages : List ℕ
  maxSize : ℕ
  /- `swap_manager` -/
  freeBlocks : List ℕ
  maxBlocks : ℕ
  /- the register of the MMU -/
  pageTableBaseRegister : Ptbr
  /- objects behind pointers -/
  pages : PageRef → PageState
  nextPage : PageRef
  tables : Ptbr → Option (ℕ → Pte)
  /- the infrastructure -/
  disk : Option Name → ℕ → Page
  writes : Stream' Bool
  reads : Stream' ReadOutcome
  trace : List Event
  physmem : ℕ → UInt8

/-- The programs of the pager. -/
abbrev PagerM := StateT State (Except Violation)

/-- The bytes of the frame `ppn`, as the MMU reaches them. -/
def State.frame (s : State) (ppn : ℕ) : Page := load s.physmem (ppn * vmPagesize)

/-- Record an event. -/
def note (e : Event) : PagerM Unit :=
  modify fun s => { s with trace := e :: s.trace }

/-- `file_read`: 0 on success, -1 on failure. -/
def fileRead (filename : Option Name) (block buf : ℕ) : PagerM ℤ := do
  let s ← get
  match s.reads.head with
  | .success =>
    modify fun s => { s with
      reads := s.reads.tail
      physmem := store s.physmem buf (s.disk filename block) }
    note (.fileRead filename block buf true)
    return 0
  | .failure left =>
    modify fun s => { s with
      reads := s.reads.tail
      physmem := store s.physmem buf left }
    note (.fileRead filename block buf false)
    return -1

/-- `file_write`: 0 on success, -1 on failure. -/
def fileWrite (filename : Option Name) (block buf : ℕ) : PagerM ℤ := do
  let s ← get
  if s.writes.head then
    modify fun s => { s with
      writes := s.writes.tail
      disk := Function.update s.disk filename
        (Function.update (s.disk filename) block (load s.physmem buf)) }
    note (.fileWrite filename block buf true)
    return 0
  else
    modify fun s => { s with writes := s.writes.tail }
    note (.fileWrite filename block buf false)
    return -1

/-- `memcpy` of a page. -/
def memcpyPage (dst src : ℕ) : PagerM Unit := do
  modify fun s => { s with physmem := store s.physmem dst (load s.physmem src : Page) }
  note (.memcpy dst src)

end VmPager

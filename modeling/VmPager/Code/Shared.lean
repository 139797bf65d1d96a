import VmPager.Code.State

/-!
# `page_state.h`, `swap_manager.h` and the small functions of `shared.cpp`

Reading and writing the globals, with the checks that C++ leaves to the programmer made explicit: an
index past the end of a vector or a page table, a null `shared_ptr` and a page table that has been
deleted stop the run.
-/

namespace VmPager

open Lib.Exec

/-! ### Pages and frames -/

/-- `*page`. -/
def getPage (page : PageRef) : PagerM PageState := do
  return (← get).pages page

def modifyPage (page : PageRef) (f : PageState → PageState) : PagerM Unit :=
  modify fun s => { s with pages := Function.update s.pages page (f (s.pages page)) }

/-- `std::make_shared<PageState>(...)`. -/
def makePage (X : PageState) : PagerM PageRef := do
  let s ← get
  let page := s.nextPage
  modify fun s => { s with pages := Function.update s.pages page X, nextPage := page + 1 }
  let backing := if X.type = .swapBacked then (none, X.swapBlock) else (X.filename, X.fileBlock)
  note (.mapped page backing.1 backing.2)
  return page

/-- The page that `phys_mem_pages[ppn]` points to. -/
def physMemPage (ppn : ℕ) : PagerM PageRef := do
  match (← get).physMemPages[ppn]? with
  | none => throw .outOfRange
  | some none => throw .nullDeref
  | some (some page) => return page

/-- `phys_mem_pages[ppn] = page`. -/
def setPhysMemPage (ppn : ℕ) (page : Option PageRef) : PagerM Unit := do
  require (ppn < (← get).physMemPages.length) .outOfRange
  modify fun s => { s with physMemPages := s.physMemPages.set ppn page }

/-! ### Page tables -/

/-- Write through a `page_table_entry_t*`. -/
def writePte (pte : PteRef) (e : Pte) : PagerM Unit := do
  match (← get).tables pte.table with
  | none => throw .dangling
  | some t =>
    require (pte.vpn < numPtes) .outOfRange
    modify fun s => { s with
      tables := Function.update s.tables pte.table (some (Function.update t pte.vpn e)) }

/-- `ptbr->ptes[vpn]`. -/
def readPte (ptbr : Ptbr) (vpn : ℕ) : PagerM Pte := do
  match (← get).tables ptbr with
  | none => throw .dangling
  | some t =>
    require (vpn < numPtes) .outOfRange
    return t vpn

/-- An entry as `update_pte` stores it, its `ppage` cut to the 20 bits of the field. -/
def mkPte (ppn : ℕ) (read write : Bool) : Pte := ⟨ppn % 2 ^ 20, read, write⟩

def updatePte (vpn ppn : ℕ) (read write : Bool) (ptbr : Ptbr) : PagerM Unit :=
  writePte ⟨ptbr, vpn⟩ (mkPte ppn read write)

def vpnToPpn (vpn : ℕ) : PagerM ℕ := do
  return (← readPte (← get).pageTableBaseRegister vpn).ppage

def sanitizePageTable (pt : Ptbr) : PagerM Unit := do
  match (← get).tables pt with
  | none => throw .dangling
  | some t =>
    modify fun s => { s with
      tables := Function.update s.tables pt
        (some fun i => if i < numPtes then Pte.zero else t i) }

/-! ### The shared entries of a file page -/

/-- The entries filed under the key `ptbr`. -/
def PageState.ptesUnder (X : PageState) (ptbr : Ptbr) : List PteRef :=
  (X.sharedPtes.lookup ptbr).getD []

/-- `PageState::add_pte`. -/
def PageState.addPte (X : PageState) (ptbr : Ptbr) (pte : PteRef) : PageState :=
  { X with sharedPtes := X.sharedPtes.insert ptbr (X.ptesUnder ptbr ++ [pte]) }

/-- `PageState::update_ptes`: the same entry through every pointer of every key. -/
def updatePtes (page : PageRef) (ppage : ℕ) (read write : Bool) : PagerM Unit := do
  let X ← getPage page
  X.sharedPtes.entries.forM fun itr => itr.2.forM fun pte => writePte pte (mkPte ppage read write)

/-! ### The swap manager -/

/-- `free_blocks.size()`, returned as an `unsigned int`. -/
def numFree : PagerM ℕ := do
  return (← get).freeBlocks.length % 2 ^ 32

def getNextFree : PagerM ℕ := do
  match (← get).freeBlocks with
  | [] => throw .assertion
  | res :: rest =>
    modify fun s => { s with freeBlocks := rest }
    return res

/-- `swap_manager.make_free(block)`. -/
def makeFreeBlock (block : ℕ) : PagerM Unit :=
  modify fun s => { s with freeBlocks := s.freeBlocks ++ [block] }

/-! ### Addresses -/

/-- The address of the frame `ppn`, counted from `vm_physmem`: a product of `unsigned int`s. -/
def ppnToMemAddr (ppn : ℕ) : ℕ := ppn * vmPagesize % 2 ^ 32

/-- A 64-bit subtraction, an arithmetic shift by 16, and the conversion to `unsigned int`. -/
def vaToVpn (va : BitVec 64) : ℕ := (((va - vmArenaBaseaddr).sshiftRight 16).setWidth 32).toNat

/-- The last address of the frame `ppn`, counted from `vm_physmem`, in `unsigned int`s. -/
def lastAddrInPpn (ppn : ℕ) : ℕ := ((ppn + 1) * vmPagesize + (2 ^ 32 - 1)) % 2 ^ 32

/-- The first virtual address of the page `vpn`. -/
def vpnToVa (vpn : ℕ) : BitVec 64 := vmArenaBaseaddr + BitVec.ofNat 64 (vpn * vmPagesize)

/-! ### Arenas and the file table -/

/-- The arena of the current process. -/
def currentArena : PagerM (List PageRef) := do
  let s ← get
  return s.arenas s.pageTableBaseRegister

/-- `arenas[page_table_base_register].size()`, as an `unsigned int`. -/
def lowestInvalidVpn : PagerM ℕ := do
  return (← currentArena).length % 2 ^ 32

/-- `arena[vpn]`. -/
def arenaPage (vpn : ℕ) : PagerM PageRef := do
  match (← currentArena)[vpn]? with
  | none => throw .outOfRange
  | some page => return page

/-- `arena.push_back(page)`. -/
def pushArena (page : PageRef) : PagerM Unit :=
  modify fun s => { s with
    arenas := Function.update s.arenas s.pageTableBaseRegister
      (s.arenas s.pageTableBaseRegister ++ [page]) }

def fileInFileTable (filename : Name) (block : ℕ) : PagerM Bool := do
  return ((← get).fileTable filename block).isSome

/-- `file_table[filename][block]`, where it is followed. -/
def fileTablePage (filename : Name) (block : ℕ) : PagerM PageRef := do
  match (← get).fileTable filename block with
  | none => throw .nullDeref
  | some page => return page

end VmPager

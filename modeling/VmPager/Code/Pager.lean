import VmPager.Code.Filename

/-!
# `vm_init`, `vm_create`, `vm_switch`, `vm_destroy` and `vm_map`
-/

namespace VmPager

open Lib.Exec Lib.Frames

/-! ### `vm_init` -/

/-- `clock_.fill_memory_pages`. -/
def fillMemoryPages (memoryPages : ℕ) : PagerM Unit :=
  modify fun s => { s with
    maxSize := memoryPages
    freePages := s.freePages ++ List.range' 1 (memoryPages - 1) }

/-- `swap_manager.fill_swap_blocks`. -/
def fillSwapBlocks (swapBlocks : ℕ) : PagerM Unit :=
  modify fun s => { s with
    maxBlocks := swapBlocks
    freeBlocks := s.freeBlocks ++ List.range swapBlocks }

def vmInit (memoryPages swapBlocks : ℕ) : PagerM Unit := do
  -- the `memset` of the zero page
  modify fun s => { s with physmem := store s.physmem 0 zeroPage }
  fillMemoryPages memoryPages
  fillSwapBlocks swapBlocks
  modify fun s => { s with
    physMemPages := s.physMemPages.take memoryPages ++
      List.replicate (memoryPages - s.physMemPages.length) none }

/-! ### Processes -/

/-- `vm_create`. `childPtbr` is the address at which `new` puts the page table. -/
def vmCreate (_parentPid childPid : Pid) (childPtbr : Ptbr) : PagerM ℤ := do
  modify fun s => { s with tables := Function.update s.tables childPtbr (some fun _ => Pte.zero) }
  sanitizePageTable childPtbr
  modify fun s => { s with pageTables := s.pageTables.insert childPid childPtbr }
  modify fun s => { s with arenas := Function.update s.arenas childPtbr [] }
  return 0

/-- `vm_switch`. Reading a pid that is not in `page_tables` enters it with a null page table. -/
def vmSwitch (pid : Pid) : PagerM Unit :=
  modify fun s =>
    match s.pageTables.lookup pid with
    | some ptbr => { s with pageTableBaseRegister := ptbr }
    | none => { s with
        pageTables := s.pageTables.insert pid 0
        pageTableBaseRegister := 0 }

/-- The order in which an `std::unordered_set` is iterated, as a function of what was inserted. -/
structure IterOrder where
  iter : List ℕ → List ℕ
  perm : ∀ l, (iter l).Perm l

/-- A turn of the first loop of `vm_destroy`, at the page `i`; `ppns` is the set of frames so far. -/
def destroyPage (page : PageRef) (i : ℕ) (ppns : List ℕ) : PagerM (List ℕ) := do
  let X ← getPage page
  if X.type = .swapBacked then
    let ppns ← if X.resident then do
        let ppn ← vpnToPpn i
        setPhysMemPage ppn none
        pure (ppns.insert ppn)
      else
        pure ppns
    makeFreeBlock X.swapBlock
    return ppns
  else
    let ptbr := (← get).pageTableBaseRegister
    modifyPage page fun X => { X with sharedPtes := X.sharedPtes.erase ptbr }
    return ppns

def destroyPages : List PageRef → ℕ → List ℕ → PagerM (List ℕ)
  | [], _, ppns => return ppns
  | page :: rest, i, ppns => do destroyPages rest (i + 1) (← destroyPage page i ppns)

/-- Erase the first entry of `page_tables` that holds the table. -/
def erasePageTable (ptbr : Ptbr) : PagerM Unit :=
  modify fun s =>
    match s.pageTables.entries.find? fun itr => itr.2 = ptbr with
    | some itr => { s with pageTables := s.pageTables.erase itr.1 }
    | none => s

def vmDestroy (order : IterOrder) : PagerM Unit := do
  let ptbr := (← get).pageTableBaseRegister
  let ppns ← destroyPages (← currentArena) 0 []
  makeFreeAll (order.iter ppns)
  modify fun s => { s with arenas := Function.update s.arenas ptbr [] }
  erasePageTable ptbr
  sanitizePageTable ptbr
  modify fun s => { s with tables := Function.update s.tables ptbr none }

/-! ### `vm_map` -/

/-- The swap-backed branch of `vm_map`. -/
def vmMapSwap (newVpn : ℕ) : PagerM (BitVec 64) := do
  if (← numFree) = 0 then
    return nullptr
  else
    let swapBlock ← getNextFree
    let ptbr := (← get).pageTableBaseRegister
    updatePte newVpn 0 true false ptbr
    let page ← makePage {
      type := .swapBacked, ppn := 0, vpn := newVpn, referenced := true, resident := true,
      dirty := false, swapBlock := swapBlock, ownerPtbr := ptbr, filename := none, fileBlock := 0,
      sharedPtes := ∅ }
    pushArena page
    return vpnToVa newVpn

/-- A page that is already in the file table. -/
def vmMapKnown (newVpn : ℕ) (filename : Name) (block : ℕ) : PagerM Unit := do
  let page ← fileTablePage filename block
  pushArena page
  let ptbr := (← get).pageTableBaseRegister
  modifyPage page fun X => X.addPte ptbr ⟨ptbr, newVpn⟩
  let X ← getPage page
  if X.referenced then
    if X.resident then
      if X.dirty then
        updatePte newVpn X.ppn true true ptbr
      else
        updatePte newVpn X.ppn true false ptbr
    else
      updatePte newVpn X.ppn false false ptbr
  else
    updatePte newVpn X.ppn false false ptbr

/-- A page that is not in the file table yet. -/
def vmMapNew (newVpn : ℕ) (filename : Name) (block : ℕ) : PagerM Unit := do
  let ptbr := (← get).pageTableBaseRegister
  let page ← makePage {
    type := .fileBacked, ppn := 0, vpn := newVpn, referenced := false, resident := false,
    dirty := false, swapBlock := 0, ownerPtbr := ptbr, filename := some filename,
    fileBlock := block, sharedPtes := ∅ }
  modifyPage page fun X => X.addPte ptbr ⟨ptbr, newVpn⟩
  pushArena page
  updatePte newVpn 0 false false ptbr
  modify fun s => { s with
    fileTable := Function.update s.fileTable filename
      (Function.update (s.fileTable filename) block (some page)) }

/-- `vm_map`: the address of the new page, null on failure. -/
def vmMap (filename : BitVec 64) (block : ℕ) : PagerM (BitVec 64) := do
  let newVpn ← lowestInvalidVpn
  if vmArenaSize / vmPagesize ≤ newVpn then
    return nullptr
  else if filename = nullptr then
    vmMapSwap newVpn
  else
    match ← getFilename filename with
    | none => return nullptr
    | some pageFilename =>
      if ← fileInFileTable pageFilename block then
        vmMapKnown newVpn pageFilename block
      else
        vmMapNew newVpn pageFilename block
      return vpnToVa newVpn

end VmPager

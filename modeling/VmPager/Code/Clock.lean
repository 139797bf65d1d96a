import VmPager.Code.Shared

/-!
# `clock.cpp`

The two queues of frames and the second-chance sweep over the active one.
-/

namespace VmPager

open Lib.Exec

/-- `size() == max_size`, where `size` is `1 + active_pages.size()` as an `unsigned int`. -/
def isFull : PagerM Bool := do
  let s ← get
  return (1 + s.activePages.length) % 2 ^ 32 = s.maxSize

/-- `make_free_itr`, on the first place that holds `ppn`. What `*itr` reads after the place is erased
is taken to be the erased value. -/
def makeFreeItr (ppn : ℕ) : PagerM Unit := do
  modify fun s => { s with
    activePages := s.activePages.erase ppn
    freePages := s.freePages ++ [ppn] }
  setPhysMemPage ppn none

/-- `Clock::make_free(unsigned int)`. -/
def makeFree (ppn : ℕ) : PagerM Unit := do
  if ppn ∈ (← get).activePages then makeFreeItr ppn

/-- `Clock::make_free(std::unordered_set<unsigned int>)`, the set in the order it is iterated. -/
def makeFreeAll (ppns : List ℕ) : PagerM Unit :=
  ppns.forM makeFree

def getFreePpn : PagerM ℕ := do
  match (← get).freePages with
  | [] => throw .assertion
  | ppn :: rest =>
    modify fun s => { s with freePages := rest, activePages := s.activePages ++ [ppn] }
    return ppn

/-- 0 when the frame at the front of the queue gets its second chance, else that frame. -/
def tick : PagerM ℕ := do
  match (← get).activePages with
  | [] => throw .emptyQueue
  | cur :: rest =>
    modify fun s => { s with activePages := rest }
    let page ← physMemPage cur
    let X ← getPage page
    require (X.ppn = cur) .assertion
    if X.referenced then
      modifyPage page fun X => { X with referenced := false }
      modify fun s => { s with activePages := s.activePages ++ [cur] }
      -- set r/w to 0/0 regardless of writable or dirty
      if X.type = .swapBacked then
        updatePte X.vpn X.ppn false false X.ownerPtbr
      else
        updatePtes page X.ppn false false
      return 0
    else
      return cur

/-- `while (true)`, cut off after `fuel` turns. -/
def nextEvictionPpn : ℕ → PagerM ℕ
  | 0 => throw .diverged
  | fuel + 1 => do
    let target ← tick
    if target ≠ 0 then return target else nextEvictionPpn fuel

/-- The swap-backed branch of `evict`; false when the write fails. -/
def evictSwapBacked (X : PageState) (targetPpn : ℕ) : PagerM Bool := do
  let res ← if X.dirty then fileWrite none X.swapBlock (ppnToMemAddr targetPpn) else pure 0
  if res = -1 then
    return false
  else
    updatePte X.vpn 0 false false X.ownerPtbr
    return true

/-- The file-backed branch of `evict`; false when the write fails. -/
def evictFileBacked (page : PageRef) (X : PageState) (targetPpn : ℕ) : PagerM Bool := do
  let res ← if X.dirty then fileWrite X.filename X.fileBlock (ppnToMemAddr targetPpn) else pure 0
  if res = -1 then
    return false
  else
    updatePtes page 0 false false
    return true

/-- `Clock::evict`: the frame of the page that was evicted, 0 when its `file_write` failed. The sweep
is cut off after one turn more than there are active frames. -/
def evict : PagerM ℕ := do
  require ((← isFull) = true) .assertion
  require ((← get).freePages = []) .assertion
  let targetPpn ← nextEvictionPpn ((← get).activePages.length + 1)
  modify fun s => { s with activePages := s.activePages ++ [targetPpn] }
  let page ← physMemPage targetPpn
  let X ← getPage page
  let written ← if X.type = .swapBacked then evictSwapBacked X targetPpn
    else evictFileBacked page X targetPpn
  if written then
    modifyPage page fun X =>
      { X with ppn := 0, dirty := false, referenced := false, resident := false }
    setPhysMemPage targetPpn none
    note (.evicted page)
    return targetPpn
  else
    return 0

end VmPager

import VmPager.Lib.Exec
import VmPager.Lib.Frames
import VmPager.Lib.Transition
import VmPager.Lib.History
import VmPager.Lib.SecondChance
import VmPager.Lib.Amortised
import VmPager.Lib.LastWrite
import VmPager.Lib.WriteBack
import VmPager.Code.State
import VmPager.Code.Shared
import VmPager.Code.Clock
import VmPager.Code.Fault
import VmPager.Code.Filename
import VmPager.Code.Pager
import VmPager.Code.System
import VmPager.Code.Session
import VmPager.Inv.Defs
import VmPager.Inv.Tables
import VmPager.Core.FrameAddress
import VmPager.Core.Defs
import VmPager.Inv.Refresh
import VmPager.Inv.Evict
import VmPager.Inv.Load
import VmPager.Core.Clock
import VmPager.Core.Fault
import VmPager.Core.Address
import VmPager.Core.Outcome
import VmPager.Core.Scan
import VmPager.Core.Filename
import VmPager.Inv.Map
import VmPager.Core.Map
import VmPager.Inv.Destroy
import VmPager.Inv.Create
import VmPager.Core.Process
import VmPager.Core.Step
import VmPager.Core.Moves
import VmPager.Core.Twins
import VmPager.Core.Renumber
import VmPager.Abs.Flat
import VmPager.Abs.Ideal
import VmPager.Runs.Safety
import VmPager.Runs.PageTables
import VmPager.Runs.Frames
import VmPager.Runs.Files
import VmPager.Runs.Swap
import VmPager.Runs.WriteBack
import VmPager.Runs.Clock
import VmPager.Runs.Fault
import VmPager.Runs.Refusals
import VmPager.Runs.Names
import VmPager.Runs.Exit
import VmPager.Runs.Kinds
import VmPager.Runs.Pointers
import VmPager.Runs.Fork
import VmPager.Runs.Memory
import VmPager.Runs.FaultCount
import VmPager.Runs.Traffic
import VmPager.Runs.Idle
import VmPager.Runs.Sessions
import VmPager.Runs.Disk
import VmPager.Runs.Isolation
import VmPager.Runs.WorkingSet
import VmPager.Runs.Retry
import VmPager.Runs.Placement
import VmPager.Runs.Cache

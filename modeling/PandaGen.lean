import PandaGen.Boot.Theorems.EditorExit
import PandaGen.Boot.Theorems.FileOverwrite
import PandaGen.Boot.Theorems.FrameAllocation
import PandaGen.Boot.Theorems.HeapBlocks
import PandaGen.Boot.Theorems.KeyboardOrder
import PandaGen.Console.Theorems.Scrolling
import PandaGen.Distributed.Theorems.AppendBound
import PandaGen.Distributed.Theorems.Commitment
import PandaGen.Distributed.Theorems.Election
import PandaGen.Distributed.Theorems.Leadership
import PandaGen.Distributed.Theorems.LogMatching
import PandaGen.Distributed.Theorems.Sync
import PandaGen.Gui.Theorems.TilePartition
import PandaGen.Kernel.Theorems.Admission
import PandaGen.Kernel.Theorems.Budget
import PandaGen.Kernel.Theorems.BudgetInheritance
import PandaGen.Kernel.Theorems.CapabilityAudit
import PandaGen.Kernel.Theorems.CapabilitySafety
import PandaGen.Kernel.Theorems.ChannelAccess
import PandaGen.Kernel.Theorems.Clock
import PandaGen.Kernel.Theorems.ExecutableParsing
import PandaGen.Kernel.Theorems.Loading
import PandaGen.Kernel.Theorems.MemoryLifetime
import PandaGen.Kernel.Theorems.MessageDelivery
import PandaGen.Kernel.Theorems.NoTaskLost
import PandaGen.Kernel.Theorems.PolicyComposition
import PandaGen.Kernel.Theorems.Scheduling
import PandaGen.Kernel.Theorems.SmpPlacement
import PandaGen.Kernel.Theorems.SyscallClient
import PandaGen.Kernel.Theorems.SyscallGate
import PandaGen.Network.Theorems.FrameCodec
import PandaGen.Network.Theorems.PacketConservation
import PandaGen.Pipeline.Theorems.Retries
import PandaGen.Pipeline.Theorems.TypeSafety
import PandaGen.Process.Theorems.Supervision
import PandaGen.Storage.Migration
import PandaGen.Storage.Theorems.Crash
import PandaGen.Storage.Theorems.Durability
import PandaGen.Storage.Theorems.Integrity
import PandaGen.Storage.Theorems.Journal
import PandaGen.Storage.Theorems.PersistentFs
import PandaGen.Storage.Theorems.ReadBack
import PandaGen.Vi.Theorems.OpenAndSave
import PandaGen.Vi.Theorems.UndoAcrossLoads
import PandaGen.View.Theorems.Integrity
import PandaGen.Workspace.Theorems.FocusAgreement
import PandaGen.Workspace.Theorems.FocusCycle
import PandaGen.Workspace.Theorems.FocusRemoval
import PandaGen.Workspace.Theorems.KeyActions
import PandaGen.Workspace.Theorems.LayoutIntegrity
import PandaGen.Workspace.Theorems.RunningFocus

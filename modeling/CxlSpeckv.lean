import CxlSpeckv.Coherence.Safety
import CxlSpeckv.Memory.PhysicalLayout
import CxlSpeckv.Memory.VirtualLayout
import CxlSpeckv.Memory.Residency
import CxlSpeckv.Integration.Allocator
import CxlSpeckv.Integration.Access
import CxlSpeckv.Compression.Accuracy
import CxlSpeckv.Compression.Lossless
import CxlSpeckv.Translation.Walk
import CxlSpeckv.Coherence.Writeback
import CxlSpeckv.Host.Frames
import CxlSpeckv.Coherence.Statistics
import CxlSpeckv.Translation.Engine
import CxlSpeckv.Prefetch.TopK
import CxlSpeckv.Prefetch.StdSort
import CxlSpeckv.Prefetch.Queue
import CxlSpeckv.Prefetch.Depth
import CxlSpeckv.Memory.Translate
import CxlSpeckv.Host.Fetch
import CxlSpeckv.Prefetch.Window
import CxlSpeckv.Driver.DmaRing
import CxlSpeckv.Driver.Registers
import CxlSpeckv.Host.Session
import CxlSpeckv.Integration.ProcessTokens
import CxlSpeckv.Integration.L1Lifetime
import CxlSpeckv.Prefetch.Addresses
import CxlSpeckv.Prefetch.BelowBase
import CxlSpeckv.Integration.Accounting
import CxlSpeckv.Integration.ManagerRuns
import CxlSpeckv.Memory.L1Gate

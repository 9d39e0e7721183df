import OsHomework.Lib.Machine
import OsHomework.Lib.HashChain
import OsHomework.Lib.PageArith
import OsHomework.Lib.PyStr
import OsHomework.Lib.PyDict
import OsHomework.Lib.PosixFile
import OsHomework.KvStore.Store
import OsHomework.KvStore.Kernel
import OsHomework.KvStore.Refinement
import OsHomework.KvStore.RefCount
import OsHomework.SocketFair.Fairness
import OsHomework.SocketFair.Sockets
import OsHomework.Vdso.Layout
import OsHomework.Vdso.TaskInfo
import OsHomework.Fuse.GptFs
import OsHomework.Fuse.HelloFs
import OsHomework.Fuse.FileContent
import OsHomework.Ramfs.SyncPath
import OsHomework.Tcpdump.PacketHandler
import OsHomework.Mmap.FileWrite
import OsHomework.Mmap.Remap
import OsHomework.Lib.Extent
import OsHomework.Vdso.MapVdso
import OsHomework.Vdso.Faults
import OsHomework.Vdso.Setup
import OsHomework.Vdso.Timens
import OsHomework.Vdso.Mremap
import OsHomework.Acpi.Checksum
import OsHomework.Acpi.Tables
import OsHomework.Acpi.HwInfo
import OsHomework.KvStore.Chains
import OsHomework.SocketFair.Ownership
import OsHomework.KvStore.Holders

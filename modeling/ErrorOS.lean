import ErrorOS.Rust
import ErrorOS.Process.Pid
import ErrorOS.Process.Pcb
import ErrorOS.Process.Scheduler
import ErrorOS.Process.SchedulerInvariant
import ErrorOS.Process.RoundRobin
import ErrorOS.Process.Context
import ErrorOS.Process.SystemInit
import ErrorOS.Allocator.LinkedList
import ErrorOS.Allocator.Safety
import ErrorOS.Allocator.FirstFit
import ErrorOS.Allocator.Conservation
import ErrorOS.Fs.FdTable
import ErrorOS.Fs.FdTableMap
import ErrorOS.Fs.File
import ErrorOS.Fs.RamFs
import ErrorOS.Fs.RamFsCreate
import ErrorOS.Fs.RamFileSpec
import ErrorOS.Fs.RamFilePanics
import ErrorOS.Fs.ReadAll
import ErrorOS.Utf8
import ErrorOS.Console
import ErrorOS.Fs.Directory
import ErrorOS.Fs.Stdio
import ErrorOS.Fs.Inspector
import ErrorOS.Syscall.Impl
import ErrorOS.Syscall.Refinement
import ErrorOS.Syscall.FilesystemContent
import ErrorOS.Task.ArrayQueue
import ErrorOS.Task.Keyboard
import ErrorOS.Task.KeyboardRuns
import ErrorOS.Task.Executor
import ErrorOS.Task.ExecutorRuns
import ErrorOS.Trap

import LinuxDeviceDrivers.Transition
import LinuxDeviceDrivers.WordCounters
import LinuxDeviceDrivers.CircularWindow
import LinuxDeviceDrivers.BoundedQueue
import LinuxDeviceDrivers.PageMapping
import LinuxDeviceDrivers.WordAlignment
import LinuxDeviceDrivers.KernelTimer
import LinuxDeviceDrivers.PollDevice
import LinuxDeviceDrivers.PollQueue
import LinuxDeviceDrivers.PollProcesses
import LinuxDeviceDrivers.PollWakeups
import LinuxDeviceDrivers.PollReturns
import LinuxDeviceDrivers.VirtualBlockDevice
import LinuxDeviceDrivers.Mmaper
import LinuxDeviceDrivers.TimerRearming
import LinuxDeviceDrivers.BlinkplusLoad
import LinuxDeviceDrivers.BlinkplusUnload
import LinuxDeviceDrivers.Rtl8139Receive
import LinuxDeviceDrivers.Rtl8139Transmit
import LinuxDeviceDrivers.Rtl8139TransmitRaces
import LinuxDeviceDrivers.Rtl8139Accounting
import LinuxDeviceDrivers.Rtl8139Lifecycle
import LinuxDeviceDrivers.Rtl8139OpenStop
import LinuxDeviceDrivers.Rtl8139Shutdown
import LinuxDeviceDrivers.Rtl8150
import LinuxDeviceDrivers.Rtl8150Transmit
import LinuxDeviceDrivers.Rtl8150Frames
import LinuxDeviceDrivers.Rtl8150Close
import LinuxDeviceDrivers.Rtl8150Resources
import LinuxDeviceDrivers.Rtl8150Accounting
import LinuxDeviceDrivers.Rtl8150Backlog
import LinuxDeviceDrivers.Rtl8150Receive
import LinuxDeviceDrivers.TransmitAgreement
import LinuxDeviceDrivers.ResourceLedger
import LinuxDeviceDrivers.Rtl8139Probe
import LinuxDeviceDrivers.MmaperLoad
import LinuxDeviceDrivers.PollNonblock
import LinuxDeviceDrivers.MemblockDevice
import LinuxDeviceDrivers.VirtualBlockDisclosure
import LinuxDeviceDrivers.Rtl8139Acknowledge
import LinuxDeviceDrivers.Rtl8139ReadPointer
import LinuxDeviceDrivers.Rtl8139Report
import LinuxDeviceDrivers.Rtl8139RingSafety
import LinuxDeviceDrivers.Rtl8139TransmitImage
import LinuxDeviceDrivers.PollFaults
import LinuxDeviceDrivers.VirtualBlockBounds
import LinuxDeviceDrivers.MmapPages
import LinuxDeviceDrivers.HexText
import LinuxDeviceDrivers.IoctlFaults
import LinuxDeviceDrivers.BlinkplusLeds
import LinuxDeviceDrivers.Rtl8150ShortTransfers
import LinuxDeviceDrivers.Rtl8139StationAddress
import LinuxDeviceDrivers.MmaperLayout
import LinuxDeviceDrivers.PollTestPrograms
import LinuxDeviceDrivers.Rtl8139Wire
import LinuxDeviceDrivers.Rtl8139Link
import LinuxDeviceDrivers.Rtl8139Driver
import LinuxDeviceDrivers.Rtl8150Probe
import LinuxDeviceDrivers.Rtl8150Address
import LinuxDeviceDrivers.Rtl8150Hardware
import LinuxDeviceDrivers.DeferredWork
import LinuxDeviceDrivers.LoadRoutine
import LinuxDeviceDrivers.TutorialDrivers
import LinuxDeviceDrivers.TutorialCounters
import LinuxDeviceDrivers.Rtl8139HardwareStart
import LinuxDeviceDrivers.MmaperShared
import LinuxDeviceDrivers.SimpleDriver
import LinuxDeviceDrivers.Rtl8150Listening
import LinuxDeviceDrivers.PollPipeline
import LinuxDeviceDrivers.HelloplusProgram
import LinuxDeviceDrivers.Rtl8139Unbind
import LinuxDeviceDrivers.Rtl8150Carrier
import LinuxDeviceDrivers.StatisticsWords

import SistemaMonitoreo.LibC
import SistemaMonitoreo.Scanf
import SistemaMonitoreo.Cpu
import SistemaMonitoreo.CpuSampler
import SistemaMonitoreo.Meminfo
import SistemaMonitoreo.Network
import SistemaMonitoreo.Disk
import SistemaMonitoreo.Stat
import SistemaMonitoreo.Fifo
import SistemaMonitoreo.Gauges
import SistemaMonitoreo.GaugeBounds
import SistemaMonitoreo.Main
import SistemaMonitoreo.LaterMain

import Shill.Basic
import Shill.MemoryLog
import Shill.Logging
import Shill.DeviceClaimer
import Shill.DBus.Variant
import Shill.WiFiEndpoint.Parse
import Shill.WiFiEndpoint.Security
import Shill.WiFiEndpoint.Safety
import Shill.Cellular.CapabilityCDMA
import Shill.Cellular.Ledger
import Shill.Cellular.Activation
import Shill.Cellular.Modem3gppProxy
import Shill.Cellular.Registration
import Shill.Cellular.Status
import Shill.Metrics.Timer
import Shill.Metrics.Device
import Shill.Metrics.AutoConnect
import Shill.Metrics.ScanConnect
import Shill.Metrics.Service
import Shill.Metrics.ResumeToReady
import Shill.Metrics.ManagerTimers

import Camellia.Transition
import Camellia.Inevitable
import Camellia.Mutex
import Camellia.LockedObject
import Camellia.StdString
import Camellia.CString
import Camellia.Words
import Camellia.KeyedStore
import Camellia.Reentrancy
import Camellia.MessageQueue
import Camellia.SettlementLog
import Camellia.ChangeLog
import Camellia.Sensors.SensorInfo
import Camellia.Sensors.SensorHandle
import Camellia.Sensors.SensorList
import Camellia.Sensors.Wakelock
import Camellia.Sensors.PendingWrites
import Camellia.Sensors.HalProxyCallback
import Camellia.Sensors.HandleRouting
import Camellia.Sensors.ListedSensors
import Camellia.Sensors.DirectChannel
import Camellia.Sensors.ForwardedEvents
import Camellia.Sensors.HalProxy
import Camellia.Sensors.SubHalLoading
import Camellia.Sensors.DynamicSensors
import Camellia.Sensors.SensorActivation
import Camellia.Sensors.System
import Camellia.Sensors.SystemSteps
import Camellia.Sensors.WakelockRuns
import Camellia.Sensors.WakeupAccounting
import Camellia.Sensors.FrozenSensors
import Camellia.Sensors.OperationModes
import Camellia.Sensors.EventDelivery
import Camellia.Sensors.PendingCounter
import Camellia.Sensors.WakelockTimeout
import Camellia.Sensors.EventFlag
import Camellia.Sensors.ThreadShutdown
import Camellia.Sensors.StopThreads
import Camellia.Sensors.CallbackLocks
import Camellia.Usb.PortNames
import Camellia.Usb.PortStatus
import Camellia.Usb.PortReports
import Camellia.Usb.CallbackVersions
import Camellia.Usb.PortWorker
import Camellia.Usb.PortWorkerProgress
import Camellia.Usb.Gadget
import Camellia.Usb.VendorIdentity
import Camellia.Usb.GadgetSystem
import Camellia.Usb.GadgetInvariant
import Camellia.Usb.GadgetRuns
import Camellia.Usb.GadgetRequests
import Camellia.Usb.GadgetProgress
import Camellia.Usb.GadgetReports
import Camellia.Usb.AppliedConfigurations
import Camellia.Usb.EndpointMonitor
import Camellia.Usb.InotifyBuffer
import Camellia.Usb.RoleSwitch
import Camellia.Usb.UeventParsing
import Camellia.Usb.RoleSwitchLocks
import Camellia.Usb.RoleSwitchVerdict
import Camellia.Usb.RoleSwitchProgress
import Camellia.Usb.RoleSwitchRecords
import Camellia.Libinit.FingerprintDescription
import Camellia.Libinit.Variant
import Camellia.Libinit.VendorLoadProperties
import Camellia.Fingerprint.HalSelection
import Camellia.Fingerprint.Requests
import Camellia.Fingerprint.Notifications
import Camellia.Fingerprint.ClientCallback
import Camellia.Power.PowerMode

import AsusSMC.Framework.BigEndian
import AsusSMC.Framework.CString
import AsusSMC.Framework.Countdown
import AsusSMC.Framework.EventSystem
import AsusSMC.Framework.HexText
import AsusSMC.Framework.LittleEndian
import AsusSMC.Framework.ReportDescriptor
import AsusSMC.Framework.SaveRestore
import AsusSMC.Framework.ScratchCache
import AsusSMC.Framework.SlotArray
import AsusSMC.Framework.Thread
import AsusSMC.Framework.TraceRefinement
import AsusSMC.Framework.TwoRun
import AsusSMC.Model.Console
import AsusSMC.Model.Daemon
import AsusSMC.Model.Driver
import AsusSMC.Model.HIDReport
import AsusSMC.Model.History
import AsusSMC.Model.HotkeySpec
import AsusSMC.Model.Hotkeys
import AsusSMC.Model.IOKit
import AsusSMC.Model.KernEventServer
import AsusSMC.Model.KeyImplementations
import AsusSMC.Model.Lifecycle
import AsusSMC.Model.Notifications
import AsusSMC.Model.Plugin
import AsusSMC.Model.SMCKeys
import AsusSMC.Model.SensorBoard
import AsusSMC.Model.Sensors
import AsusSMC.Model.Startup
import AsusSMC.Model.System
import AsusSMC.Model.VirtualAppleKeyboard
import AsusSMC.Model.WMI
import AsusSMC.Safety.AirplaneMode
import AsusSMC.Safety.Backlight
import AsusSMC.Safety.BacklightEntry
import AsusSMC.Safety.Battery
import AsusSMC.Safety.ConsoleRefinement
import AsusSMC.Safety.Consumers
import AsusSMC.Safety.Delivery
import AsusSMC.Safety.FanReading
import AsusSMC.Safety.FanSource
import AsusSMC.Safety.ForcedFields
import AsusSMC.Safety.GuidText
import AsusSMC.Safety.HostKeys
import AsusSMC.Safety.KernEvents
import AsusSMC.Safety.KeySet
import AsusSMC.Safety.LightReading
import AsusSMC.Safety.LightSensor
import AsusSMC.Safety.Locals
import AsusSMC.Safety.ManagementBlock
import AsusSMC.Safety.MissingObjects
import AsusSMC.Safety.Outputs
import AsusSMC.Safety.Panel
import AsusSMC.Safety.PluginSubmission
import AsusSMC.Safety.Poller
import AsusSMC.Safety.Registry
import AsusSMC.Safety.Reports
import AsusSMC.Safety.SensorRefinement
import AsusSMC.Safety.Separation
import AsusSMC.Safety.Settings
import AsusSMC.Safety.Shutdown
import AsusSMC.Safety.StartFailure
import AsusSMC.Safety.StoppedPoller
import AsusSMC.Safety.StuckKeys
import AsusSMC.Safety.Touchpad
import AsusSMC.Safety.WMINames

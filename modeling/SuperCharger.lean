import SuperCharger.MachineInt
import SuperCharger.Runs
import SuperCharger.RunningMin
import SuperCharger.Arduino
import SuperCharger.ChargerMessage
import SuperCharger.EEPROM
import SuperCharger.LoadShare
import SuperCharger.LoadShareLimit
import SuperCharger.Zero
import SuperCharger.Derating
import SuperCharger.V26
import SuperCharger.V26Current
import SuperCharger.V26Ceiling
import SuperCharger.SC
import SuperCharger.V3
import SuperCharger.V3Frames
import SuperCharger.SCCurrent
import SuperCharger.V26Frames
import SuperCharger.HeartbeatBytes
import SuperCharger.History
import SuperCharger.V3Temps
import SuperCharger.V3Volts
import SuperCharger.V3Throttle
import SuperCharger.Divisors
import SuperCharger.Windows
import SuperCharger.ChargeMonitor
import SuperCharger.ChargeWindow
import SuperCharger.V26Fusion
import SuperCharger.V26Timer
import SuperCharger.UserLimit
import SuperCharger.V3Settings
import SuperCharger.V3Heartbeat
import SuperCharger.V25
import SuperCharger.V25Frames
import SuperCharger.V25Settings
import SuperCharger.SerialText
import SuperCharger.V26Lines
import SuperCharger.ChargeWatchdog
import SuperCharger.ChargeAmps
import SuperCharger.ChargeRequest
import SuperCharger.V25Twins
import SuperCharger.V25EndVolts
import SuperCharger.CutbackLoops
import SuperCharger.V26Derating
import SuperCharger.V26Taper
import SuperCharger.V3Taper
import SuperCharger.LoadShareTaper
import SuperCharger.LoadShareCaps
import SuperCharger.LoadShareShares
import SuperCharger.StationReserve
import SuperCharger.V26Temps
import SuperCharger.ForceCharge
import SuperCharger.ForceChargeVolts
import SuperCharger.ZeroFrames
import SuperCharger.Halving
import SuperCharger.ChargeEstimate
import SuperCharger.V3Fields
import SuperCharger.V3ShortFrames
import SuperCharger.TableReads
import SuperCharger.McpCan
import SuperCharger.SelectLine
import SuperCharger.McpCanFrames
import SuperCharger.McpCanQueue
import SuperCharger.McpCanBike
import SuperCharger.PagedFlash
import SuperCharger.FlashStorage
import SuperCharger.FlashAsEEPROM
import SuperCharger.Att
import SuperCharger.Listing
import SuperCharger.AttDiscovery
import SuperCharger.AttTree
import SuperCharger.AttRuns
import SuperCharger.AttWrites
import SuperCharger.AttPackets
import SuperCharger.AttReads
import SuperCharger.Uuid
import SuperCharger.V3Ble

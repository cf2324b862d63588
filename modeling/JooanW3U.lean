import JooanW3U.Library.Runs
import JooanW3U.Media.CreatedTime
import JooanW3U.Media.OnvifXml
import JooanW3U.Library.Base64
import JooanW3U.Library.Sha1
import JooanW3U.Media.OnvifAuth
import JooanW3U.Library.AnnexB
import JooanW3U.Library.BroadcastRing
import JooanW3U.Media.Stream
import JooanW3U.Media.RtspPlayback
import JooanW3U.Library.RtpH264
import JooanW3U.Media.RtpVideo
import JooanW3U.Library.Crash
import JooanW3U.Runtime.Selection
import JooanW3U.Runtime.Boot
import JooanW3U.Runtime.SelectionMachine
import JooanW3U.Runtime.WifiTransaction
import JooanW3U.Media.Privacy
import JooanW3U.Library.Decimal
import JooanW3U.Library.Json
import JooanW3U.Media.SettingsJson
import JooanW3U.Media.Controls
import JooanW3U.Library.FailureWindow
import JooanW3U.Media.AuthLimit
import JooanW3U.Daemon.Throttle
import JooanW3U.Daemon.AuthMachine
import JooanW3U.Daemon.LoginThrottle
import JooanW3U.Daemon.PasswordChange
import JooanW3U.Daemon.PasswordRecords
import JooanW3U.Media.Update
import JooanW3U.Library.Attempt
import JooanW3U.Library.History
import JooanW3U.Media.Platform
import JooanW3U.Media.PlatformControl
import JooanW3U.Media.PanTilt
import JooanW3U.Media.PlatformRefinement
import JooanW3U.Media.PlatformEntries
import JooanW3U.Media.PlatformSystem
import JooanW3U.Media.PlatformSafety
import JooanW3U.Media.PlatformParking
import JooanW3U.Library.Framing
import JooanW3U.Media.Recorder
import JooanW3U.Media.RtspInput
import JooanW3U.Media.JoanSession
import JooanW3U.Media.HttpDispatch
import JooanW3U.Library.Directory
import JooanW3U.Daemon.WriteAtomic
import JooanW3U.Daemon.SignOut
import JooanW3U.Daemon.MqttBridge
import JooanW3U.Media.Patrol
import JooanW3U.Media.PresetFile
import JooanW3U.Media.PresetCatalogue
import JooanW3U.Media.Config
import JooanW3U.Media.AtomicFile
import JooanW3U.Media.FailedSaves
import JooanW3U.Library.Ledger
import JooanW3U.Media.ImpBackend
import JooanW3U.Media.ImpLedger
import JooanW3U.Media.ImpSession
import JooanW3U.Library.Descriptors
import JooanW3U.Guard.FdRoles
import JooanW3U.Guard.RoleInvariant
import JooanW3U.Guard.Containment
import JooanW3U.Guard.Network
import JooanW3U.Library.Latch
import JooanW3U.Runtime.NativeBoot
import JooanW3U.Media.AudioClock
import JooanW3U.Media.VideoHealth
import JooanW3U.Library.RingQueue
import JooanW3U.Media.Speaker
import JooanW3U.Library.Fifo
import JooanW3U.Media.TalkQueue
import JooanW3U.Media.Amplifier
import JooanW3U.Media.SpeakerGain
import JooanW3U.Media.Engine
import JooanW3U.Media.Schedule
import JooanW3U.Media.DayNight
import JooanW3U.Media.NearestTarget
import JooanW3U.Media.PrivacyReturn
import JooanW3U.Library.Lines
import JooanW3U.Media.ConfigFile
import JooanW3U.Media.ConfigPatch
import JooanW3U.Media.MicClock
import JooanW3U.Media.Package
import JooanW3U.Library.AdjacentSwaps
import JooanW3U.Ironman.Trailer
import JooanW3U.Library.RateWindow
import JooanW3U.Media.DiscoveryLimit
import JooanW3U.Library.RtpPacket
import JooanW3U.Media.Backchannel
import JooanW3U.Library.ClockOffset
import JooanW3U.Media.Ntp
import JooanW3U.Daemon.PrivateRoutes
import JooanW3U.Library.AddressBlock
import JooanW3U.Daemon.CookieAuth
import JooanW3U.Daemon.RequestFields
import JooanW3U.Library.QuotedText
import JooanW3U.Library.Holdings
import JooanW3U.Media.RtspSetup
import JooanW3U.Library.Grouping
import JooanW3U.Library.LoopedReader
import JooanW3U.Media.Replay
import JooanW3U.Library.Forest
import JooanW3U.Media.OnvifTree
import JooanW3U.Library.Errexit
import JooanW3U.Media.StagedRelease
import JooanW3U.Media.UpgradeAppfs
import JooanW3U.Library.Calendar
import JooanW3U.Media.CreatedInstant
import JooanW3U.Daemon.Button
import JooanW3U.Runtime.NetWatchdog
import JooanW3U.Library.Pieces
import JooanW3U.Daemon.MqttFraming
import JooanW3U.Library.BlockHash
import JooanW3U.Library.Sha256
import JooanW3U.Library.KeyDerivation
import JooanW3U.Guard.Sha256
import JooanW3U.Daemon.Crypto
import JooanW3U.Library.DnsMessage
import JooanW3U.Daemon.Mdns
import JooanW3U.Runtime.AuthorizedKeys
import JooanW3U.Library.BigEndian
import JooanW3U.Audio.Wire
import JooanW3U.Guard.Talkback
import JooanW3U.Audio.Wire
import JooanW3U.Audio.WebSocket
import JooanW3U.Audio.GuardClient
import JooanW3U.Audio.Router
import JooanW3U.Audio.TalkSystem
import JooanW3U.Audio.Alaw

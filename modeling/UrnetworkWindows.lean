import UrnetworkWindows.Wfp.Route
import UrnetworkWindows.Capture.Proof
import UrnetworkWindows.Controller.KillSwitch
import UrnetworkWindows.Controller.Unblocked
import UrnetworkWindows.Controller.OneDevice
import UrnetworkWindows.Wfp.Engine
import UrnetworkWindows.Controller.Handback
import UrnetworkWindows.Net.CrashFloor
import UrnetworkWindows.Controller.EgressBinding
import UrnetworkWindows.Controller.StatusMirror
import UrnetworkWindows.Controller.Failsafe
import UrnetworkWindows.Controller.ProviderEgress
import UrnetworkWindows.Controller.Abandoned
import UrnetworkWindows.Instance.Handover
import UrnetworkWindows.Ipc.Calls
import UrnetworkWindows.LogUpload.OneUpload
import UrnetworkWindows.Watchdog.NotStranded
import UrnetworkWindows.SignOut.Obligation
import UrnetworkWindows.Watchdog.BalanceHold
import UrnetworkWindows.Threads.OrderedWorker
import UrnetworkWindows.Threads.CoalescedWorker
import UrnetworkWindows.SignIn.LinkFree
import UrnetworkWindows.Service.IngressDns
import UrnetworkWindows.Service.LostService
import UrnetworkWindows.Session.KillSwitchSetting
import UrnetworkWindows.Session.Quit
import UrnetworkWindows.Session.Bootstrap
import UrnetworkWindows.Service.LastWord
import UrnetworkWindows.SignIn.Credentials
import UrnetworkWindows.Update.Soak
import UrnetworkWindows.Checker.Posts
import UrnetworkWindows.Checker.Clicks
import UrnetworkWindows.Checker.HandOver
import UrnetworkWindows.Browser.Answered
import UrnetworkWindows.Watchdog.Countdown
import UrnetworkWindows.Capture.ProbeAge
import UrnetworkWindows.Net.Subtraction
import UrnetworkWindows.Pump.Framing
import UrnetworkWindows.SplitTunnel.Tracking
import UrnetworkWindows.SplitTunnel.Parse
import UrnetworkWindows.SplitTunnel.Handles
import UrnetworkWindows.SignIn.Shapes
import UrnetworkWindows.KeyStore.ReadBack
import UrnetworkWindows.Top200.Agreement
import UrnetworkWindows.ApiKeys.StaysDeleted
import UrnetworkWindows.Balance.ConfirmationPoll
import UrnetworkWindows.Board.ChartDays
import UrnetworkWindows.Board.Paged
import UrnetworkWindows.Browser.HandBack
import UrnetworkWindows.NetworkCountry.Followed
import UrnetworkWindows.SignIn.ApprovalNetwork
import UrnetworkWindows.SlowInternet.Tray
import UrnetworkWindows.Owners.BoundedCache
import UrnetworkWindows.SplitTunnel.AppRules
import UrnetworkWindows.NetworkCountry.Held
import UrnetworkWindows.Balance.Refill
import UrnetworkWindows.Health.Tracker
import UrnetworkWindows.Locations.ApiList
import UrnetworkWindows.LogUpload.Feedback
import UrnetworkWindows.Watchdog.SamplerSleep
import UrnetworkWindows.Balance.StartWait
import UrnetworkWindows.Updater.Installs
import UrnetworkWindows.Browser.Attempt
import UrnetworkWindows.Service.ProxyKind
import UrnetworkWindows.Service.Heartbeat
import UrnetworkWindows.Balance.Latch
import UrnetworkWindows.Browser.UrlQuery
import UrnetworkWindows.Update.Marker
import UrnetworkWindows.Update.Redirect
import UrnetworkWindows.SignIn.ExePath
import UrnetworkWindows.Ipc.AsSent
import UrnetworkWindows.Ipc.Credentials
import UrnetworkWindows.Controller.EgressElection
import UrnetworkWindows.Net.Sweep
import UrnetworkWindows.Updater.Requests

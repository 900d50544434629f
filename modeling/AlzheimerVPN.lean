import AlzheimerVPN.Runs
import AlzheimerVPN.Text
import AlzheimerVPN.Keyed
import AlzheimerVPN.Json
import AlzheimerVPN.Regex
import AlzheimerVPN.Address
import AlzheimerVPN.PacketFilter
import AlzheimerVPN.IpText
import AlzheimerVPN.MacOSFirewall
import AlzheimerVPN.KillSwitch
import AlzheimerVPN.Protection
import AlzheimerVPN.PacketVerdict
import AlzheimerVPN.Leak
import AlzheimerVPN.Idle
import AlzheimerVPN.AllowList
import AlzheimerVPN.AddressText
import AlzheimerVPN.DaemonConfig
import AlzheimerVPN.WireguardUtilsMacos
import AlzheimerVPN.RefCount
import AlzheimerVPN.ExclusionRoutes
import AlzheimerVPN.ShellText
import AlzheimerVPN.SplitTunnelRule
import AlzheimerVPN.LocalSocketController
import AlzheimerVPN.VpnConnection
import AlzheimerVPN.RuleWriters
import AlzheimerVPN.RouterMac
import AlzheimerVPN.Leases
import AlzheimerVPN.Retention
import AlzheimerVPN.Bypass
import AlzheimerVPN.Daemon
import AlzheimerVPN.DaemonSteps
import AlzheimerVPN.Exclusions
import AlzheimerVPN.Holes
import AlzheimerVPN.SessionEnd
import AlzheimerVPN.ForwardSites
import AlzheimerVPN.Search
import AlzheimerVPN.DnsMessageParser
import AlzheimerVPN.DnsSplitRouteObserver
import AlzheimerVPN.ObserverTrace
import AlzheimerVPN.QueryIds
import AlzheimerVPN.Reentrancy
import AlzheimerVPN.ConnectionLifecycle
import AlzheimerVPN.LifecycleSteps
import AlzheimerVPN.DisconnectWins
import AlzheimerVPN.ManualDisconnect
import AlzheimerVPN.FailureReport
import AlzheimerVPN.ResolverHealth
import AlzheimerVPN.Recovery
import AlzheimerVPN.SilentReconnect
import AlzheimerVPN.ConnectionAttempt
import AlzheimerVPN.ConnectedHealth
import AlzheimerVPN.Watchdog
import AlzheimerVPN.RouteTable
import AlzheimerVPN.XrayRouting
import AlzheimerVPN.SavedRoutes
import AlzheimerVPN.ConfigPreparation
import AlzheimerVPN.XrayMatcher
import AlzheimerVPN.SiteController
import AlzheimerVPN.SiteList
import AlzheimerVPN.SiteKeys
import AlzheimerVPN.SiteImport
import AlzheimerVPN.SiteAddresses
import AlzheimerVPN.DnsUtilsMacos
import AlzheimerVPN.DnsSession
import AlzheimerVPN.ResolverManagers
import AlzheimerVPN.Replacement
import AlzheimerVPN.JsonText
import AlzheimerVPN.XrayConfig
import AlzheimerVPN.XrayProtocol
import AlzheimerVPN.XrayInvariant
import AlzheimerVPN.XrayLifecycle
import AlzheimerVPN.ServerConfigUtils
import AlzheimerVPN.SecureServersRepository
import AlzheimerVPN.ServersConsistency
import AlzheimerVPN.ServersReload
import AlzheimerVPN.Wire
import AlzheimerVPN.QrSeries
import AlzheimerVPN.Scan
import AlzheimerVPN.WireguardClients
import AlzheimerVPN.WireguardAddresses
import AlzheimerVPN.WireguardSubnet
import AlzheimerVPN.WireguardImport
import AlzheimerVPN.WireguardFile
import AlzheimerVPN.WireguardMeaning
import AlzheimerVPN.LinkedSet
import AlzheimerVPN.Rules
import AlzheimerVPN.Blocks
import AlzheimerVPN.IpRange
import AlzheimerVPN.IpRangeSet
import AlzheimerVPN.ProtocolConfig
import AlzheimerVPN.BuilderRoutes
import AlzheimerVPN.RouteExclusion
import AlzheimerVPN.RouteRebuild
import AlzheimerVPN.OpenVpnImport
import AlzheimerVPN.GatewayController
import AlzheimerVPN.GatewayBypass
import AlzheimerVPN.GatewayProxyList
import AlzheimerVPN.GatewayHistory
import AlzheimerVPN.SubscriptionController
import AlzheimerVPN.AndroidXray
import AlzheimerVPN.InboundAuth
import AlzheimerVPN.Templates
import AlzheimerVPN.XrayHostName
import AlzheimerVPN.UriText
import AlzheimerVPN.ProxyUrl
import AlzheimerVPN.ContainerUtils
import AlzheimerVPN.AmneziaImport
import AlzheimerVPN.SiteExport
import AlzheimerVPN.DefaultContainer

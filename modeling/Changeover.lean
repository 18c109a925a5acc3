import Changeover.Clients
import Changeover.Cookie.Jar
import Changeover.Decimal.Shortest
import Changeover.Gateway.App
import Changeover.Json.Reader
import Changeover.Log.Call
import Changeover.Settings.Cache
import Changeover.Settings.EnvFile
import Changeover.Proofs.FirstValue
import Changeover.Proofs.RuleTable
import Changeover.Proofs.DecisionLaw
import Changeover.Proofs.Destination
import Changeover.Proofs.RequestUri
import Changeover.Proofs.RedirectFrame
import Changeover.Proofs.ConsentSession
import Changeover.Proofs.ConsentUpdate
import Changeover.Proofs.Location
import Changeover.Proofs.Consistency
import Changeover.Proofs.OperationalPages
import Changeover.Proofs.AbsoluteTarget
import Changeover.Proofs.UrlForms
import Changeover.Proofs.HeaderGroups
import Changeover.Proofs.SharedClients
import Changeover.Proofs.LogLines
import Changeover.Proofs.Framing
import Changeover.Proofs.RelayedBytes
import Changeover.Proofs.ForwardedTarget
import Changeover.Proofs.CatchAll
import Changeover.Proofs.WireFormat
import Changeover.Proofs.SendsInFlight
import Changeover.Proofs.ClientUses
import Changeover.Proofs.TransportFailures
import Changeover.Proofs.ReportedPaths
import Changeover.Proofs.RobotNames
import Changeover.Proofs.RewrittenPath
import Changeover.Proofs.CookieNames
import Changeover.Proofs.PathSegments
import Changeover.Proofs.LevelNames

import Hemlock.Acl.Atomicity
import Hemlock.Acl.Bands
import Hemlock.Acl.Update
import Hemlock.Config.RoundTrip
import Hemlock.Dot1x.Authorization
import Hemlock.Install.Overlay
import Hemlock.Intent.Acceptance
import Hemlock.Intent.Planning
import Hemlock.Lacp.Flaps
import Hemlock.Lacp.Push
import Hemlock.Mgmt.Daemons
import Hemlock.Mgmt.Rollbacks
import Hemlock.Mgmt.Sampling
import Hemlock.Mgmt.WebEdits
import Hemlock.Orch.Delivery
import Hemlock.PortSecurity.Accounting
import Hemlock.PortSecurity.Mirror
import Hemlock.Ports.Attributes
import Hemlock.Rib.BestRoute
import Hemlock.Rib.Push
import Hemlock.Routing.Ownership
import Hemlock.Routing.Recovery
import Hemlock.Sflow.Accounting
import Hemlock.Snmp.Answer
import Hemlock.Snoop.Mirror
import Hemlock.SnoopSec.Bindings
import Hemlock.Stp.ForwardDelay
import Hemlock.Stp.Reflection
import Hemlock.Switching.Coverage
import Hemlock.Switching.Multicast
import Hemlock.Switching.PortStates
import Hemlock.Web.Console

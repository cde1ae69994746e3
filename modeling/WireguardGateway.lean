import WireguardGateway.Controller.ChildSet
import WireguardGateway.Controller.Exposure
import WireguardGateway.Controller.Handshake
import WireguardGateway.Controller.LinkID
import WireguardGateway.Controller.Membership
import WireguardGateway.Controller.Refresh
import WireguardGateway.Controller.SharedNetwork
import WireguardGateway.Controller.Watches
import WireguardGateway.Crossplane.Retention
import WireguardGateway.Gcp.Addresses
import WireguardGateway.Gcp.MemberStates
import WireguardGateway.Gcp.RetirementWalk
import WireguardGateway.Gcp.SecretStore
import WireguardGateway.Link.Accepts
import WireguardGateway.Link.Converge
import WireguardGateway.Link.Eligibility
import WireguardGateway.Link.Evidence
import WireguardGateway.Link.LeaseLock
import WireguardGateway.Link.Marks
import WireguardGateway.Link.Published

import WireguardGateway.Link.Apply

/-!
# Which flows a deletion selects

Conntrack keeps one table for a network namespace. A Local link runs in the host's, so the table its
deletions work on also has the flows of the node's other Gateways, of the cluster's Services and of
the host. A tracked flow is its first packet together with what decided where it went (`Origin`): a
DNAT rule of a Gateway's ruleset, a Service's DNAT, or nothing. Its original direction is the
packet, and its reply comes from the backend the origin gives the packet.

`conntrack -D` deletes the flows that satisfy all of the options it is given (conntrack(8)). The
source address of the reply may have been rewritten by a masquerade as well; no option the link uses
reads it.

Results:
* `selected_flush_iff`: the flush of a forward selects by protocol, port and backend alone;
* `ownedBy_sharesTuple`: it selects every flow of the forward's own rules;
* **`flush_exact_iff`**: it deletes those flows and no others iff no other tracked flow has the
  forward's protocol, public port and backend. `sharedBackend_deleted` is a node where one does.
-/

namespace WireguardGateway.Link

open Lib
open Controller (RuntimeConfig GatewayIdentity)

/-! ## Flows -/

/-- The first packet of a flow. -/
structure Packet where
  /-- The interface it arrived on; `none` when the node sent it. -/
  iif : Option String
  protocol : String
  source : String
  sport : Int64
  destination : String
  dport : Int64
  deriving DecidableEq, Repr

def Match.selects : Match → Packet → Bool
  | .iifname i, p => p.iif = some i
  | .iif i, p => p.iif = some i
  | .daddr a, p => p.destination = a

def Dnat.selects (d : Dnat) (p : Packet) : Bool :=
  d.on.selects p ∧ p.protocol = d.protocol ∧ p.dport = d.dport

def Rule.dnat? : Rule → Option Dnat
  | .dnat d => some d
  | .line _ => none

def Ruleset.dnats (r : Ruleset) : List Dnat :=
  r.chains.flatMap fun c => c.rules.filterMap Rule.dnat?

/-- What decided where a flow goes. -/
inductive Origin where
  /-- A DNAT rule of an installed ruleset. -/
  | gateway (r : Ruleset) (rule : Dnat)
  /-- A Service's DNAT. -/
  | service (protocol clusterIP : String) (port : Int64) (target : String) (targetPort : Int64)
  /-- Nothing: the packet kept its destination. -/
  | direct
  deriving DecidableEq, Repr

def Origin.admits : Origin → Packet → Bool
  | .gateway r rule, p => rule ∈ r.dnats ∧ rule.selects p
  | .service protocol clusterIP port _ _, p =>
    p.protocol = protocol ∧ p.destination = clusterIP ∧ p.dport = port
  | .direct, _ => true

/-- Where the packet is sent, and so where the reply comes from. -/
def Origin.backend : Origin → Packet → String × Int64
  | .gateway _ rule, _ => (rule.target, rule.targetPort)
  | .service _ _ _ target targetPort, _ => (target, targetPort)
  | .direct, p => (p.destination, p.dport)

/-- A tracked flow. -/
structure Flow where
  packet : Packet
  origin : Origin
  admitted : origin.admits packet
  deriving DecidableEq

namespace Flow

/-- The flow was created by a rule of the forward in a ruleset of the table, whichever slot or
address the rule is for. -/
def OwnedBy (flow : Flow) (table : String) (f : ResolvedForward) : Prop :=
  ∃ r on counter, flow.origin = .gateway r (f.dnat on counter) ∧ r.table = table

/-- The flow has the forward's protocol and public port, and its backend. -/
def SharesTuple (flow : Flow) (f : ResolvedForward) : Prop :=
  flow.packet.protocol = f.protocol ∧ flow.packet.dport = f.publicPort ∧
    flow.origin.backend flow.packet = (f.target, f.targetPort)

end Flow

/-! ## Deletions -/

/-- The options of `conntrack -D` that the link uses. -/
inductive Filter where
  | proto (protocol : String)
  | origDst (address : String)
  | origPortDst (port : String)
  | replySrc (address : String)
  | replyPortSrc (port : String)
  deriving DecidableEq, Repr

def filterOf (option value : String) : Option Filter :=
  if option = "-p" then some (.proto value)
  else if option = "--orig-dst" then some (.origDst value)
  else if option = "--orig-port-dst" then some (.origPortDst value)
  else if option = "--reply-src" then some (.replySrc value)
  else if option = "--reply-port-src" then some (.replyPortSrc value)
  else none

def parseFilters : List String → List Filter
  | [] => []
  | [_] => []
  | option :: value :: rest =>
    match filterOf option value with
    | some filter => filter :: parseFilters rest
    | none => parseFilters (value :: rest)

def Filter.holds (flow : Flow) : Filter → Bool
  | .proto protocol => flow.packet.protocol = protocol
  | .origDst address => flow.packet.destination = address
  | .origPortDst port => decimal flow.packet.dport = port
  | .replySrc address => (flow.origin.backend flow.packet).1 = address
  | .replyPortSrc port => decimal (flow.origin.backend flow.packet).2 = port

/-- The flow satisfies all of the options. -/
def selected (args : List String) (flow : Flow) : Bool :=
  (parseFilters args).all (Filter.holds flow)

/-- What is tracked after a `conntrack -D`. -/
def conntrackDelete (args : List String) (tracked : List Flow) : List Flow :=
  tracked.filter fun flow => !selected args flow

theorem parseFilters_flush (t : ForwardTuple) :
    parseFilters (conntrackFlushArgs t) =
      [.proto t.protocol, .origPortDst (decimal t.publicPort), .replySrc t.target,
        .replyPortSrc (decimal t.targetPort)] := rfl

section

variable {f : ResolvedForward} {flow : Flow} {tracked : List Flow}

theorem not_mem_conntrackDelete {args : List String} (h : flow ∈ tracked) :
    flow ∉ conntrackDelete args tracked ↔ selected args flow := by
  simp [conntrackDelete, h]

/-- The flush selects by protocol, port and backend alone. -/
theorem selected_flush_iff :
    selected (conntrackFlushArgs (tupleOf f)) flow ↔ flow.SharesTuple f := by
  have hport : ∀ {m n : Int64}, decimal m = decimal n ↔ m = n := by
    intro m n
    constructor
    · exact decimal_inj
    · exact congrArg decimal
  unfold selected Flow.SharesTuple
  rw [parseFilters_flush, Prod.ext_iff]
  simp [Filter.holds, tupleOf, hport]

/-- A flow of one of the forward's rules has the forward's tuple. -/
theorem ownedBy_sharesTuple {table : String} (h : flow.OwnedBy table f) : flow.SharesTuple f := by
  obtain ⟨r, on, counter, horigin, -⟩ := h
  have hadmitted := flow.admitted
  rw [horigin] at hadmitted
  have hselects : (f.dnat on counter).selects flow.packet := by
    simp only [Origin.admits, decide_eq_true_eq] at hadmitted
    exact hadmitted.2
  simp only [Dnat.selects, decide_eq_true_eq] at hselects
  refine ⟨hselects.2.1, hselects.2.2, ?_⟩
  rw [horigin]
  rfl

/-- **When the flush is exact.** Of any table of tracked flows the flush of a Gateway's forward
deletes the flows of the forward's own rules and no others iff every tracked flow with the forward's
protocol, public port and backend is one of them. -/
theorem flush_exact_iff (gateway : GatewayIdentity) (f : ResolvedForward) (tracked : List Flow) :
    (∀ flow ∈ tracked, flow ∉ conntrackDelete (conntrackFlushArgs (tupleOf f)) tracked ↔
        flow.OwnedBy gateway.nftTable f) ↔
      ∀ flow ∈ tracked, flow.SharesTuple f → flow.OwnedBy gateway.nftTable f := by
  constructor
  · intro h flow hflow hshares
    apply (h flow hflow).mp
    rw [not_mem_conntrackDelete hflow]
    exact selected_flush_iff.mpr hshares
  · intro h flow hflow
    rw [not_mem_conntrackDelete hflow, selected_flush_iff]
    constructor
    · exact h flow hflow
    · exact ownedBy_sharesTuple

end

/-! ### Two Gateways with one backend -/

/-- A Local config with one member, before its forwards resolved. -/
def memberConfig (id : Int64) : RuntimeConfig where
  trafficPolicy := "Local"
  identity := some (newGatewayIdentity id)
  healthPort := healthPortBase + id
  podSelector := [("app.kubernetes.io/component", "link")]
  responders := []
  responderPort := 0
  responderTarget := ""
  publicAddress := ""
  wireguard :=
    { address := "10.99.0.2/32"
      listenPort := 0
      mtu := 1380
      peers := [{ slot := 0, publicKey := "member", endpoint := "203.0.113.9:51820",
                  allowedIPs := ["0.0.0.0/0"], persistentKeepalive := 25 }] }
  forwards := []

/-- Port 443 to one backend pod, which both Gateways forward. -/
def sharedForward : ResolvedForward :=
  { name := "web", publicPort := 443, protocol := "tcp", target := "10.1.2.3", targetPort := 8443 }

/-- A client's flow through the Gateway's one member. -/
def clientFlow (id : Int64)
    (h : (Origin.gateway (renderNftables (memberConfig id) [sharedForward] "node-a")
        (sharedForward.dnat (.iifname (newSlotIdentity id 0).interface) true)).admits
      { iif := some (newSlotIdentity id 0).interface, protocol := "tcp", source := "198.51.100.4",
        sport := 50000, destination := "10.99.0.2", dport := 443 } = true) : Flow :=
  ⟨_, _, h⟩

/-- Gateway 7's flush of the forward deletes a flow of Gateway 8, and one a pod opened to a Service
of its own on port 443. -/
theorem sharedBackend_deleted :
    let foreign : Flow := clientFlow 8 (by decide +kernel)
    let internal : Flow :=
      { packet := { iif := some "cali0", protocol := "tcp", source := "10.1.9.9", sport := 40000,
                    destination := "10.96.0.20", dport := 443 }
        origin := .service "tcp" "10.96.0.20" 443 "10.1.2.3" 8443
        admitted := by decide }
    let tracked := [clientFlow 7 (by decide +kernel), foreign, internal]
    validate (memberConfig 7) = .ok (memberConfig 7) ∧
      validate (memberConfig 8) = .ok (memberConfig 8) ∧
      conntrackDelete (conntrackFlushArgs (tupleOf sharedForward)) tracked = [] ∧
      ¬ foreign.OwnedBy (newGatewayIdentity 7).nftTable sharedForward ∧
      ¬ internal.OwnedBy (newGatewayIdentity 7).nftTable sharedForward := by
  refine ⟨by decide +kernel, by decide +kernel, by decide +kernel, ?_, ?_⟩
  · rintro ⟨r, on, counter, horigin, htable⟩
    injection horigin with hr
    subst hr
    exact absurd htable (by decide +kernel)
  · rintro ⟨r, on, counter, horigin, htable⟩
    cases horigin

end WireguardGateway.Link

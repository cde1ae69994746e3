import WireguardGateway.Link.Config

/-!
# Rendered documents

`internal/link/render.go` with its templates. A document is kept as the data its template is
executed on, and the template is a function of that data: `WGConf.text` for `wgconf.tmpl`,
`Ruleset.text` for `nftables_cluster.tmpl` and `nftables_local.tmpl`. Between the data and the text
of a ruleset stand its `chains`, in which the DNAT rules are kept apart from the other lines: what a
ruleset does to a packet and what `nft` does with the document are functions of the chains.

`slices.SortFunc` is a stable sort here; on the forwards of one config, whose ports are distinct, no
two sorts differ. `keepMask` cannot fail on the one mask there is (`keepMask_markMask`).
-/

namespace WireguardGateway.Link

open Lib
open Controller (RuntimeConfig)

structure ResolvedForward where
  name : String
  publicPort : Int64
  protocol : String
  /-- The ClusterIP in Cluster mode, the backend pod's address in Local mode. -/
  target : String
  targetPort : Int64
  deriving DecidableEq, Repr

/-- `%d` and the templates' `int`. -/
def decimal (n : Int64) : String := toString n.toInt

/-! ## The WireGuard config -/

structure WGConfPeer where
  publicKey : String
  endpoint : String
  allowedIPs : String
  persistentKeepalive : Int64
  deriving DecidableEq, Repr

structure WGConf where
  privKey : String
  listenPort : Int64
  peers : List WGConfPeer
  deriving DecidableEq, Repr

/-- `RenderWGConf`. -/
def renderWGConf (rc : RuntimeConfig) (privKey : String) : WGConf where
  privKey := privKey
  listenPort := rc.wireguard.listenPort
  peers := rc.wireguard.peers.map fun p =>
    { publicKey := p.publicKey
      endpoint := p.endpoint
      allowedIPs := join ", " p.allowedIPs
      persistentKeepalive := p.persistentKeepalive }

def WGConfPeer.text (p : WGConfPeer) : String :=
  "\n[Peer]\nPublicKey = " ++ p.publicKey ++ "\nEndpoint = " ++ p.endpoint ++
    "\nAllowedIPs = " ++ p.allowedIPs ++
    "\nPersistentKeepalive = " ++ decimal p.persistentKeepalive ++ "\n"

/-- `wgconf.tmpl`. -/
def WGConf.text (c : WGConf) : String :=
  "[Interface]\nPrivateKey = " ++ c.privKey ++
    (if c.listenPort > 0 then "\nListenPort = " ++ decimal c.listenPort else "") ++ "\n" ++
    String.join (c.peers.map WGConfPeer.text)

/-! ## Chains and rules -/

/-- What a DNAT rule selects packets by, besides the protocol and the port. -/
inductive Match where
  | iifname (interface : String)
  | iif (interface : String)
  | daddr (address : String)
  deriving DecidableEq, Repr

structure Dnat where
  on : Match
  protocol : String
  dport : Int64
  counter : Bool
  target : String
  targetPort : Int64
  deriving DecidableEq, Repr

inductive Rule where
  | dnat (d : Dnat)
  | line (text : String)
  deriving DecidableEq, Repr

structure Chain where
  name : String
  /-- The line that hooks the chain. -/
  hook : String
  rules : List Rule
  deriving DecidableEq, Repr

def Match.text : Match → String
  | .iifname i => "iifname \"" ++ i ++ "\""
  | .iif i => "iif \"" ++ i ++ "\""
  | .daddr a => "ip daddr " ++ a

def Dnat.text (d : Dnat) : String :=
  d.on.text ++ " " ++ d.protocol ++ " dport " ++ decimal d.dport ++
    (if d.counter then " counter" else "") ++ " dnat ip to " ++ d.target ++ " : " ++
    decimal d.targetPort

def Rule.text : Rule → String
  | .dnat d => d.text
  | .line t => t

def Chain.text (c : Chain) : String :=
  "\tchain " ++ c.name ++ " \x7b\n\t\t" ++ c.hook ++
    String.join (c.rules.map fun r => "\n\t\t" ++ r.text) ++ "\n\t\x7d"

/-- The DNAT rule of a forward. -/
def ResolvedForward.dnat (f : ResolvedForward) (on : Match) (counter : Bool) : Dnat :=
  { on, protocol := f.protocol, dport := f.publicPort, counter, target := f.target,
    targetPort := f.targetPort }

/-! ## Cluster rulesets -/

structure NftablesData where
  interface : String
  table : String
  healthPort : Int64
  responderTarget : String
  responderPort : Int64
  forwards : List ResolvedForward
  deriving DecidableEq, Repr

namespace NftablesData

variable (d : NftablesData)

def responder : List Dnat :=
  if d.responderTarget ≠ "" then
    [{ on := .iif d.interface, protocol := "tcp", dport := d.healthPort, counter := false,
       target := d.responderTarget, targetPort := d.responderPort }]
  else []

/-- `nftables_cluster.tmpl`. -/
def chains : List Chain :=
  [{ name := "prerouting"
     hook := "type nat hook prerouting priority dstnat; policy accept;"
     rules := (d.forwards.map (fun f => f.dnat (.iif d.interface) false) ++ d.responder).map
       .dnat },
   { name := "postrouting"
     hook := "type nat hook postrouting priority srcnat; policy accept;"
     rules := [.line ("oifname != \"" ++ d.interface ++ "\" masquerade")] },
   { name := "forward"
     hook := "type filter hook forward priority filter; policy drop;"
     rules :=
       [.line ("oifname \"" ++ d.interface ++
          "\" tcp flags syn tcp option maxseg size set rt mtu"),
        .line "ct state established,related accept"] ++
       (d.forwards.map fun f => .line ("iif \"" ++ d.interface ++ "\" ip daddr " ++ f.target ++
          " " ++ f.protocol ++ " dport " ++ decimal f.targetPort ++ " accept")) ++
       (if d.responderTarget ≠ "" then
          [.line ("iif \"" ++ d.interface ++ "\" ip daddr " ++ d.responderTarget ++
            " tcp dport " ++ decimal d.responderPort ++ " accept")]
        else []) },
   { name := "input"
     hook := "type filter hook input priority filter; policy accept;"
     rules := [.line ("iif \"" ++ d.interface ++ "\" drop")] }]

end NftablesData

/-! ## Local rulesets -/

structure LocalSlotData where
  interface : String
  mark : String
  markMask : String
  keepMask : String
  deriving DecidableEq, Repr

structure NftablesLocalData where
  table : String
  healthPort : Int64
  responderIP : String
  responderPort : Int64
  publicAddress : String
  slots : List LocalSlotData
  forwards : List ResolvedForward
  deriving DecidableEq, Repr

def LocalSlotData.premark (s : LocalSlotData) : List Rule :=
  [.line ("iifname \"" ++ s.interface ++ "\" ct state new counter ct mark set ct mark and " ++
     s.keepMask ++ " or " ++ s.mark),
   .line ("ct direction reply ct mark and " ++ s.markMask ++ " == " ++ s.mark ++
     " counter meta mark set meta mark and " ++ s.keepMask ++ " or " ++ s.mark)]

namespace NftablesLocalData

variable (d : NftablesLocalData)

/-- The DNAT rules of one slot: the health probe's, then the forwards'. -/
def slotDnats (s : LocalSlotData) : List Dnat :=
  (if d.responderIP ≠ "" then
     [{ on := .iifname s.interface, protocol := "tcp", dport := d.healthPort, counter := true,
        target := d.responderIP, targetPort := d.responderPort }]
   else []) ++ d.forwards.map fun f => f.dnat (.iifname s.interface) true

/-- The hairpin rules, for flows addressed to the public address. -/
def hairpinDnats : List Dnat :=
  if d.publicAddress ≠ "" then d.forwards.map fun f => f.dnat (.daddr d.publicAddress) true else []

def slotForward (s : LocalSlotData) : List Rule :=
  let iif := "iifname \"" ++ s.interface ++ "\" "
  let oif := "oifname \"" ++ s.interface ++ "\" "
  [.line (oif ++ "tcp flags syn counter tcp option maxseg size set rt mtu"),
   .line (iif ++ "ct state established,related counter accept")] ++
  (if d.responderIP ≠ "" then
     [.line (iif ++ "ip daddr " ++ d.responderIP ++ " tcp dport " ++ decimal d.responderPort ++
        " ct state new counter accept")]
   else []) ++
  (d.forwards.map fun f => .line (iif ++ "ip daddr " ++ f.target ++ " " ++ f.protocol ++
     " dport " ++ decimal f.targetPort ++ " ct state new counter accept")) ++
  [.line (iif ++ "counter drop"), .line (oif ++ "ct state established,related counter accept"),
   .line (oif ++ "counter drop")]

/-- The chains rendered under a public address only. -/
def hairpinChains : List Chain :=
  if d.publicAddress ≠ "" then
    [{ name := "output"
       hook := "type nat hook output priority -100; policy accept;"
       rules := d.hairpinDnats.map .dnat },
     { name := "postrouting"
       hook := "type nat hook postrouting priority srcnat; policy accept;"
       rules := d.forwards.map fun f => .line ("ip saddr " ++ f.target ++ " ip daddr " ++
         f.target ++ " " ++ f.protocol ++ " dport " ++ decimal f.targetPort ++
         " counter masquerade") }]
  else []

/-- `nftables_local.tmpl`. -/
def chains : List Chain :=
  [{ name := "premark"
     hook := "type filter hook prerouting priority mangle; policy accept;"
     rules := d.slots.flatMap LocalSlotData.premark },
   { name := "prerouting"
     hook := "type nat hook prerouting priority dstnat; policy accept;"
     rules := (d.slots.flatMap d.slotDnats ++ d.hairpinDnats).map .dnat }] ++
  d.hairpinChains ++
  [{ name := "forward"
     hook := "type filter hook forward priority filter; policy accept;"
     rules := d.slots.flatMap d.slotForward },
   { name := "input"
     hook := "type filter hook input priority filter; policy accept;"
     rules := d.slots.map fun s => .line ("iifname \"" ++ s.interface ++ "\" counter drop") }]

end NftablesLocalData

/-! ## Rulesets -/

inductive Ruleset where
  | cluster (d : NftablesData)
  | local_ (d : NftablesLocalData)
  deriving DecidableEq, Repr

namespace Ruleset

def table : Ruleset → String
  | .cluster d => d.table
  | .local_ d => d.table

/-- The forwards the ruleset programs. -/
def forwards : Ruleset → List ResolvedForward
  | .cluster d => d.forwards
  | .local_ d => d.forwards

/-- The address of the hairpin rules, empty when there are none. -/
def publicAddress : Ruleset → String
  | .cluster _ => ""
  | .local_ d => d.publicAddress

def chains : Ruleset → List Chain
  | .cluster d => d.chains
  | .local_ d => d.chains

/-- The document the templates write. -/
def text (r : Ruleset) : String :=
  "add table inet " ++ r.table ++ "\nflush table inet " ++ r.table ++ "\ntable inet " ++ r.table ++
    " \x7b\n" ++ join "\n\n" (r.chains.map Chain.text) ++ "\n\x7d\n"

end Ruleset

/-- The comparison of `RenderNftables`, as "not after". -/
def forwardLE (a b : ResolvedForward) : Bool :=
  if a.publicPort ≠ b.publicPort then a.publicPort - b.publicPort < 0 else a.protocol ≤ b.protocol

def sortForwards (forwards : List ResolvedForward) : List ResolvedForward :=
  forwards.insertionSort (forwardLE · ·)

@[simp] theorem mem_sortForwards {forwards : List ResolvedForward} {f : ResolvedForward} :
    f ∈ sortForwards forwards ↔ f ∈ forwards := List.mem_insertionSort _

/-- `keepMask`. -/
def keepMask (markMask : String) : Option String :=
  (parseHex markMask).map fun v => "0x" ++ hex08 (Int.ofNat (~~~ BitVec.ofNat 32 v).toNat)

theorem keepMask_markMask : keepMask markMask = some "0x0000ffff" := by decide +kernel

/-- `clusterInterface`. -/
def clusterInterface : String := "wg0"

/-- `clusterNftTable`. -/
def clusterNftTable : String := "gateway"

/-- `nftTableName`. -/
def nftTableName (rc : RuntimeConfig) : String :=
  match rc.identity with
  | some identity => identity.nftTable
  | none => clusterNftTable

def localSlotData (id : SlotIdentity) : LocalSlotData where
  interface := id.interface
  mark := id.mark
  markMask := id.markMask
  keepMask := (keepMask id.markMask).getD ""

/-- The data of the Cluster template. -/
def clusterData (rc : RuntimeConfig) (forwards : List ResolvedForward) : NftablesData :=
  { interface := clusterInterface
    table := clusterNftTable
    healthPort := rc.healthPort
    responderTarget := if rc.healthPort > 0 then rc.responderTarget else ""
    responderPort := rc.responderPort
    forwards := sortForwards forwards }

/-- The data of the Local template. -/
def localData (rc : RuntimeConfig) (identity : Controller.GatewayIdentity)
    (forwards : List ResolvedForward) (nodeName : String) : NftablesLocalData :=
  { table := identity.nftTable
    healthPort := rc.healthPort
    responderIP := (rc.responders.lookup nodeName).getD ""
    responderPort := rc.responderPort
    publicAddress := rc.publicAddress
    slots := rc.wireguard.peers.map fun p => localSlotData (newSlotIdentity identity.id p.slot)
    forwards := sortForwards forwards }

/-- `RenderNftables`. -/
def renderNftables (rc : RuntimeConfig) (forwards : List ResolvedForward) (nodeName : String) :
    Ruleset :=
  match rc.identity with
  | some identity => .local_ (localData rc identity forwards nodeName)
  | none => .cluster (clusterData rc forwards)

section

variable {rc : RuntimeConfig} {forwards : List ResolvedForward} {nodeName : String}

theorem renderNftables_cluster (h : rc.identity = none) :
    renderNftables rc forwards nodeName = .cluster (clusterData rc forwards) := by
  unfold renderNftables
  rw [h]

theorem renderNftables_local {identity : Controller.GatewayIdentity}
    (h : rc.identity = some identity) :
    renderNftables rc forwards nodeName = .local_ (localData rc identity forwards nodeName) := by
  unfold renderNftables
  rw [h]

@[simp] theorem renderNftables_forwards :
    (renderNftables rc forwards nodeName).forwards = sortForwards forwards := by
  unfold renderNftables
  cases rc.identity <;> rfl

@[simp] theorem renderNftables_table :
    (renderNftables rc forwards nodeName).table = nftTableName rc := by
  unfold renderNftables nftTableName
  cases rc.identity <;> rfl

theorem renderNftables_publicAddress (h : isLocal rc) :
    (renderNftables rc forwards nodeName).publicAddress = rc.publicAddress := by
  obtain ⟨identity, hidentity⟩ := Option.isSome_iff_exists.mp h
  rw [renderNftables_local hidentity]
  rfl

end

end WireguardGateway.Link

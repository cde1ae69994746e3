import WireguardGateway.Gcp.Reconcile

/-!
# `ReconcileSingle`: the record of a single instance

A single instance has one record, for the instance name its composite reports, with slot `0`, the
Gateway's own tunnel address and the key pair of the Gateway's Secrets. It is created once and then
rendered as it was created.
-/

namespace WireguardGateway.Gcp

open Lib Lib.Prog

/-- The result without a roster. -/
def Result.none_ : Result :=
  { members := [], targetSize := 0, peers := [], roster := [], unusable := false }

section

variable (g : Gateway) (e : Env)

/-- The record `ReconcileSingle` creates. -/
def singleRecord (instanceName tunnelAddress privateKey publicKey : String) : Record where
  uid := 0
  resourceVersion := 0
  name := instanceName
  zone := ""
  slot := 0
  privateKey := privateKey
  publicKey := publicKey
  tunnelAddress := tunnelAddress
  subnetPrefix := g.bundle.subnetPrefix
  peerPublicKey := g.bundle.peerPublicKey
  peerAllowedIPs := g.bundle.peerAllowedIPs
  externalAddress := ""
  instanceID := ""
  revision := ""
  departureCount := 0
  pendingConfirmation := false
  gatewayUID := g.uid
  project := g.project

/-- The roster of one record. -/
def singleResult (rec : Record) : Prog World PassError Result := do
  let entry ← lift (buildRosterEntry rec)
  pure { Result.none_ with roster := [entry] }

/-- `ReconcileSingle`. -/
def reconcileSingle (instanceName tunnelAddress privateKey publicKey : String) :
    Prog World PassError Result :=
  if instanceName = "" then pure Result.none_
  else do
    match ← mapErr (.reading instanceName) (getRecord g e instanceName) with
    | some rec => if g.owns instanceName rec then singleResult rec else pure Result.none_
    | none =>
      let fresh := singleRecord g instanceName tunnelAddress privateKey publicKey
      mapErr (.creating instanceName) (createRecord g e fresh)
      singleResult fresh

end

end WireguardGateway.Gcp

import WireguardGateway.Controller.Calls

/-!
# `ensureSecrets`: the two key Secrets of a Gateway

The bundle Secret holds the VM's private key and the link's public key, the link Secret the link's
private key and the VM's public key. One call writes both from one generated pair of pairs, the
bundle first, when either is missing; that both exist is all it checks before it returns.

A call that finds the link Secret and no bundle therefore writes its new bundle beside the *old*
link Secret, and if the second write does not take effect the halves of two generations stay
together: both exist, so no later call touches them.

Results, over every run of calls and outside deletions:
* `ensureSecrets_cases`: what a call can leave behind;
* **`secrets_match`**: as long as no call is torn in that way, a call that returns leaves matching
  Secrets, and they match until one is deleted;
* `secrets_torn`: a run with one torn call after which a call returns and the Secrets do not match.
-/

namespace WireguardGateway.Controller

open Lib Gcp Prog

/-! ## The Secrets -/

/-- A pair as `wg.GenerateKeypair` returns it: each key is one line of text, and the public key is
derived from the private one. -/
structure Keypair (publicKeyOf : String → String) where
  privateKey : String
  publicKey : String
  derived : publicKey = publicKeyOf privateKey
  private_line : privateKey ≠ "" ∧ '\n' ∉ privateKey.toList
  public_line : publicKey ≠ "" ∧ '\n' ∉ publicKey.toList

/-- The data of the link Secret. -/
structure LinkSecret where
  privateKey : String
  peerPublicKey : String
  deriving DecidableEq, Repr

/-- The bundle Secret's text and the link Secret, where they exist. -/
structure KeySecrets where
  bundle : Option String
  link : Option LinkSecret
  deriving DecidableEq, Repr

/-- A Gateway that has just been created has no Secrets. -/
def KeySecrets.fresh : KeySecrets := { bundle := none, link := none }

/-- `buildBundleSecret`. -/
def buildBundleSecret (gatewayPriv linkPub : String) : String :=
  gatewayPriv ++ "\n" ++ linkPub ++ "\n"

/-- `buildLinkSecret`. -/
def buildLinkSecret (linkPriv gatewayPub : String) : LinkSecret where
  privateKey := linkPriv
  peerPublicKey := gatewayPub

/-- How `readGatewayKeys` takes a bundle apart: the VM's private key and the link's public key. -/
def gatewayKeys (bundle : String) : Option (String × String) :=
  let (gatewayPrivateKey, rest) := cut '\n' bundle
  let (linkPublicKey, _) := cut '\n' rest
  if gatewayPrivateKey = "" ∨ linkPublicKey = "" then none
  else some (gatewayPrivateKey, linkPublicKey)

theorem gatewayKeys_buildBundleSecret {publicKeyOf : String → String}
    (gateway link : Keypair publicKeyOf) :
    gatewayKeys (buildBundleSecret gateway.privateKey link.publicKey)
      = some (gateway.privateKey, link.publicKey) := by
  have hfirst : cut '\n' (buildBundleSecret gateway.privateKey link.publicKey)
      = (gateway.privateKey, link.publicKey ++ "\n") := by
    rw [buildBundleSecret, String.append_assoc]
    exact cut_append _ rfl gateway.private_line.2
  have hsecond : cut '\n' (link.publicKey ++ "\n") = (link.publicKey, "") := by
    rw [← String.append_empty (s := link.publicKey ++ "\n")]
    exact cut_append "" rfl link.public_line.2
  simp [gatewayKeys, hfirst, hsecond, gateway.private_line.1, link.public_line.1]

/-! ## The call -/

/-- The answers one call of `ensureSecrets` gets. -/
structure SecretsEnv (publicKeyOf : String → String) where
  bundleRead : Fault
  linkRead : Fault
  gatewayKeypair : Except String (Keypair publicKeyOf)
  linkKeypair : Except String (Keypair publicKeyOf)
  bundleWrite : WriteOutcome
  linkWrite : WriteOutcome

section

variable {publicKeyOf : String → String}

/-- The second half of `ensureSecrets`: generate both pairs and write both Secrets from them. -/
def generateSecrets (e : SecretsEnv publicKeyOf) : Prog KeySecrets String Unit := do
  let gateway ← mapErr ("generate gateway keypair: " ++ ·) (lift e.gatewayKeypair)
  let link ← mapErr ("generate link keypair: " ++ ·) (lift e.linkKeypair)
  write e.bundleWrite "write bundle secret" fun s =>
    { s with bundle := some (buildBundleSecret gateway.privateKey link.publicKey) }
  write e.linkWrite "write link secret" fun s =>
    { s with link := some (buildLinkSecret link.privateKey gateway.publicKey) }

/-- `ensureSecrets`. -/
def ensureSecrets (e : SecretsEnv publicKeyOf) : Prog KeySecrets String Unit := do
  let bundleExists ← serve e.bundleRead "get bundle secret" (·.bundle.isSome)
  let linkExists ← serve e.linkRead "get link secret" (·.link.isSome)
  if bundleExists && linkExists then pure () else generateSecrets e

/-- The Secrets after both writes. -/
def written (gateway link : Keypair publicKeyOf) : KeySecrets where
  bundle := some (buildBundleSecret gateway.privateKey link.publicKey)
  link := some (buildLinkSecret link.privateKey gateway.publicKey)

/-- The call gets as far as its writes if a Secret is missing. -/
def SecretsEnv.Generates (e : SecretsEnv publicKeyOf) : Prop :=
  e.bundleRead = none ∧ e.linkRead = none ∧ e.gatewayKeypair.isOk = true ∧ e.linkKeypair.isOk = true

instance (e : SecretsEnv publicKeyOf) : Decidable e.Generates :=
  inferInstanceAs (Decidable (_ ∧ _ ∧ _ ∧ _))

/-- Both writes of the call take effect. -/
def SecretsEnv.WritesBoth (e : SecretsEnv publicKeyOf) : Prop :=
  e.bundleWrite = .ok ∧ commits e.linkWrite = true

instance (e : SecretsEnv publicKeyOf) : Decidable e.WritesBoth :=
  inferInstanceAs (Decidable (_ ∧ _))

/-- The Secrets are as they were, both from one generation, or, with an error, a new bundle beside
what there was of the link Secret. -/
inductive Generated (e : SecretsEnv publicKeyOf) (s : KeySecrets) :
    Except String Unit → KeySecrets → Prop
  | kept (err : String) : Generated e s (.error err) s
  | both (r : Except String Unit) (gateway link : Keypair publicKeyOf) (writes : e.WritesBoth) :
      Generated e s r (written gateway link)
  | half (err bundle : String) (pairs : e.gatewayKeypair.isOk = true ∧ e.linkKeypair.isOk = true)
      (writes : commits e.bundleWrite = true) (torn : ¬ e.WritesBoth) :
      Generated e s (.error err) { s with bundle := some bundle }

theorem generateSecrets_cases (e : SecretsEnv publicKeyOf) (s : KeySecrets) :
    Generated e s (generateSecrets e s).1 (generateSecrets e s).2 := by
  obtain ⟨bundleRead, linkRead, gatewayKeypair, linkKeypair, bundleWrite, linkWrite⟩ := e
  cases gatewayKeypair with
  | error cause => exact .kept _
  | ok gateway =>
  cases linkKeypair with
  | error cause => exact .kept _
  | ok link =>
  cases bundleWrite with
  | failed committed cause =>
    cases committed with
    | false => exact .kept _
    | true => exact .half _ _ ⟨rfl, rfl⟩ rfl fun h => nomatch h.1
  | ok =>
    cases linkWrite with
    | ok => exact .both _ gateway link ⟨rfl, rfl⟩
    | failed committed cause =>
      cases committed with
      | false => exact .half _ _ ⟨rfl, rfl⟩ rfl fun h => nomatch h.2
      | true => exact .both _ gateway link ⟨rfl, rfl⟩

/-- A call generates when a Secret is missing, and otherwise changes nothing. -/
theorem ensureSecrets_cases (e : SecretsEnv publicKeyOf) (s : KeySecrets) :
    ((ensureSecrets e s).2 = s ∧
      ((ensureSecrets e s).1 = .ok () → s.bundle.isSome ∧ s.link.isSome)) ∨
    ((s.bundle = none ∨ s.link = none) ∧ (e.bundleRead = none ∧ e.linkRead = none) ∧
      ensureSecrets e s = generateSecrets e s) := by
  have hreads : (∃ err, ensureSecrets e s = (.error err, s)) ∨
      ((e.bundleRead = none ∧ e.linkRead = none) ∧ ensureSecrets e s =
        (if s.bundle.isSome && s.link.isSome then pure () else generateSecrets e) s) := by
    unfold ensureSecrets
    cases e.bundleRead with
    | some cause => exact .inl ⟨_, rfl⟩
    | none =>
      cases e.linkRead with
      | some cause => exact .inl ⟨_, rfl⟩
      | none => exact .inr ⟨⟨rfl, rfl⟩, rfl⟩
  obtain ⟨err, hrun⟩ | ⟨hserved, hrun⟩ := hreads
  · rw [hrun]
    exact .inl ⟨rfl, fun h => nomatch h⟩
  · rw [hrun]
    cases hb : s.bundle with
    | none => exact .inr ⟨.inl rfl, hserved, by simp⟩
    | some bundle =>
      cases hl : s.link with
      | none => exact .inr ⟨.inr rfl, hserved, by simp⟩
      | some link => exact .inl ⟨rfl, fun _ => ⟨rfl, rfl⟩⟩

/-! ## Matching Secrets -/

/-- The halves belong together: the VM's private key to the peer key of the link Secret, the link's
private key to the public key in the bundle. -/
def PairsWith (publicKeyOf : String → String) (bundle : String) (link : LinkSecret) : Prop :=
  ∃ gatewayPriv linkPub, gatewayKeys bundle = some (gatewayPriv, linkPub) ∧
    publicKeyOf gatewayPriv = link.peerPublicKey ∧ publicKeyOf link.privateKey = linkPub

theorem match_written (gateway link : Keypair publicKeyOf) :
    PairsWith publicKeyOf (buildBundleSecret gateway.privateKey link.publicKey)
      (buildLinkSecret link.privateKey gateway.publicKey) :=
  ⟨_, _, gatewayKeys_buildBundleSecret gateway link, gateway.derived.symm, link.derived.symm⟩

/-- Both Secrets exist and match. -/
def KeySecrets.Matched (publicKeyOf : String → String) (s : KeySecrets) : Prop :=
  ∃ bundle link, s.bundle = some bundle ∧ s.link = some link ∧ PairsWith publicKeyOf bundle link

/-- The Secrets match if they both exist. -/
def KeySecrets.Unmixed (publicKeyOf : String → String) (s : KeySecrets) : Prop :=
  ∀ bundle link, s.bundle = some bundle → s.link = some link → PairsWith publicKeyOf bundle link

variable {s : KeySecrets}

theorem KeySecrets.Unmixed.matched (h : s.Unmixed publicKeyOf) (hb : s.bundle.isSome)
    (hl : s.link.isSome) : s.Matched publicKeyOf := by
  obtain ⟨bundle, hbundle⟩ := Option.isSome_iff_exists.mp hb
  obtain ⟨link, hlink⟩ := Option.isSome_iff_exists.mp hl
  exact ⟨bundle, link, hbundle, hlink, h bundle link hbundle hlink⟩

/-- A call that finds the link Secret without the bundle and gets as far as its writes, of which the
bundle's takes effect and the link's does not. -/
def Torn (s : KeySecrets) (e : SecretsEnv publicKeyOf) : Prop :=
  (s.bundle = none ∧ s.link ≠ none) ∧ e.Generates ∧ commits e.bundleWrite = true ∧ ¬ e.WritesBoth

instance (s : KeySecrets) (e : SecretsEnv publicKeyOf) : Decidable (Torn s e) :=
  inferInstanceAs (Decidable (_ ∧ _ ∧ _ ∧ _))

theorem unmixed_generated {e : SecretsEnv publicKeyOf} {s' : KeySecrets} {r : Except String Unit}
    (hmissing : s.bundle = none ∨ s.link = none) (htorn : ¬ Torn s e)
    (hreads : e.bundleRead = none ∧ e.linkRead = none) (h : Generated e s r s') :
    s'.Unmixed publicKeyOf ∧ (r = .ok () → s'.Matched publicKeyOf) := by
  cases h with
  | kept err =>
    refine ⟨fun bundle link hb hl => ?_, fun h => nomatch h⟩
    obtain h | h := hmissing
    · rw [hb] at h; cases h
    · rw [hl] at h; cases h
  | both r gateway link writes =>
    refine ⟨fun bundle link' hb hl => ?_, fun _ => ⟨_, _, rfl, rfl, match_written gateway link⟩⟩
    cases hb
    cases hl
    exact match_written gateway link
  | half err bundle pairs writes torn =>
    refine ⟨fun bundle' link hb hl => ?_, fun h => nomatch h⟩
    -- the link Secret is older than the bundle, so it cannot have been there
    have hlink : s.link ≠ none := by rw [show s.link = some link from hl]; exact nofun
    exact (htorn ⟨⟨hmissing.resolve_right hlink, hlink⟩, ⟨hreads.1, hreads.2, pairs⟩, writes,
      torn⟩).elim

/-- **The step lemma**: a call that is not torn keeps the halves unmixed, and if it returns they
match. -/
theorem ensureSecrets_unmixed {e : SecretsEnv publicKeyOf} (h : s.Unmixed publicKeyOf)
    (htorn : ¬ Torn s e) :
    (ensureSecrets e s).2.Unmixed publicKeyOf ∧
      ((ensureSecrets e s).1 = .ok () → (ensureSecrets e s).2.Matched publicKeyOf) := by
  obtain ⟨hkept, hok⟩ | ⟨hmissing, hreads, hrun⟩ := ensureSecrets_cases e s
  · rw [hkept]
    exact ⟨h, fun hr => h.matched (hok hr).1 (hok hr).2⟩
  · rw [hrun]
    exact unmixed_generated hmissing htorn hreads (generateSecrets_cases e s)

/-- A call does not touch Secrets that match. -/
theorem ensureSecrets_matched (e : SecretsEnv publicKeyOf) (h : s.Matched publicKeyOf) :
    (ensureSecrets e s).2 = s := by
  obtain ⟨hkept, -⟩ | ⟨hmissing, -⟩ := ensureSecrets_cases e s
  · exact hkept
  · obtain ⟨bundle, link, hb, hl, -⟩ := h
    obtain hmissing | hmissing := hmissing
    · rw [hb] at hmissing; cases hmissing
    · rw [hl] at hmissing; cases hmissing

/-! ## Runs -/

/-- A call, or a deletion from outside. -/
inductive SecretsStep (publicKeyOf : String → String) where
  | ensure (e : SecretsEnv publicKeyOf)
  | deleteBundle
  | deleteLink

def SecretsStep.next (s : KeySecrets) : SecretsStep publicKeyOf → KeySecrets
  | .ensure e => (ensureSecrets e s).2
  | .deleteBundle => { s with bundle := none }
  | .deleteLink => { s with link := none }

/-- The step is not a torn call. -/
def SecretsStep.Whole (s : KeySecrets) : SecretsStep publicKeyOf → Prop
  | .ensure e => ¬ Torn s e
  | .deleteBundle | .deleteLink => True

instance (s : KeySecrets) : (x : SecretsStep publicKeyOf) → Decidable (x.Whole s)
  | .ensure e => inferInstanceAs (Decidable (¬ Torn s e))
  | .deleteBundle | .deleteLink => inferInstanceAs (Decidable True)

theorem SecretsStep.next_unmixed (s : KeySecrets) (x : SecretsStep publicKeyOf)
    (h : s.Unmixed publicKeyOf) (hx : x.Whole s) : (x.next s).Unmixed publicKeyOf := by
  cases x with
  | ensure e => exact (ensureSecrets_unmixed h hx).1
  | deleteBundle => exact fun _ _ hb => nomatch hb
  | deleteLink => exact fun _ _ _ hl => nomatch hl

/-- Calls alone leave matching Secrets alone. -/
theorem replay_matched : ∀ {es : List (SecretsEnv publicKeyOf)} {s : KeySecrets},
    s.Matched publicKeyOf → replay SecretsStep.next s (es.map .ensure) = s
  | [], _, _ => rfl
  | e :: es, s, h => by
    have hstep : (SecretsStep.ensure e).next s = s := ensureSecrets_matched e h
    rw [List.map_cons, replay_cons, hstep]
    exact replay_matched h

/-- **The key Secrets match**: in every run from a new Gateway in which no call is torn, after a
call that returned and any further calls the Secrets exist and match. -/
theorem secrets_match (xs : List (SecretsStep publicKeyOf)) (e : SecretsEnv publicKeyOf)
    (hrun : Guarded SecretsStep.next (fun s x => x.Whole s) .fresh (xs ++ [.ensure e]))
    (hok : (ensureSecrets e (replay SecretsStep.next .fresh xs)).1 = .ok ())
    (es : List (SecretsEnv publicKeyOf)) :
    (replay SecretsStep.next .fresh (xs ++ .ensure e :: es.map .ensure)).Matched publicKeyOf := by
  have hbefore : (replay SecretsStep.next .fresh xs).Unmixed publicKeyOf :=
    hrun.invariant SecretsStep.next_unmixed (fun _ _ hb => nomatch hb) (List.prefix_append _ _)
  have hafter := (ensureSecrets_unmixed hbefore hrun.at).2 hok
  rw [replay_append, replay_cons]
  show (replay SecretsStep.next (ensureSecrets e (replay SecretsStep.next .fresh xs)).2
    (es.map .ensure)).Matched publicKeyOf
  rw [replay_matched hafter]
  exact hafter

end

section

/-- A stand-in for the curve, for runs that evaluate. -/
def derive (k : String) : String := "pub-" ++ k

/-- The pair of the private key `k`. -/
def pairOf (k : String) (hk : k ≠ "" ∧ '\n' ∉ k.toList)
    (hd : derive k ≠ "" ∧ '\n' ∉ (derive k).toList) : Keypair derive where
  privateKey := k
  publicKey := derive k
  derived := rfl
  private_line := hk
  public_line := hd

/-- A call whose reads are served and whose bundle write succeeds. -/
def callWith (gateway link : Keypair derive) (linkWrite : WriteOutcome) : SecretsEnv derive where
  bundleRead := none
  linkRead := none
  gatewayKeypair := .ok gateway
  linkKeypair := .ok link
  bundleWrite := .ok
  linkWrite := linkWrite

/-- The first generation is written, the bundle is deleted, and of the second generation only the
bundle reaches the API server. -/
def tornRun : List (SecretsStep derive) :=
  [.ensure (callWith (pairOf "g1" (by decide) (by decide)) (pairOf "l1" (by decide) (by decide))
    .ok), .deleteBundle,
    .ensure (callWith (pairOf "g2" (by decide) (by decide)) (pairOf "l2" (by decide) (by decide))
      (.failed false "timeout"))]

/-- The call after that: it finds both Secrets. -/
def laterCall : SecretsEnv derive :=
  callWith (pairOf "g3" (by decide) (by decide)) (pairOf "l3" (by decide) (by decide)) .ok

theorem secrets_torn :
    (ensureSecrets laterCall (replay SecretsStep.next .fresh tornRun)).1 = .ok () ∧
      ¬ (replay SecretsStep.next .fresh (tornRun ++ [.ensure laterCall])).Matched derive := by
  refine ⟨rfl, ?_⟩
  rintro ⟨bundle, link, hb, hl, gatewayPriv, linkPub, hkeys, hgateway, -⟩
  cases hb
  cases hl
  cases (gatewayKeys_buildBundleSecret (pairOf "g2" (by decide) (by decide))
    (pairOf "l2" (by decide) (by decide))).symm.trans hkeys
  exact absurd hgateway (by decide)

/-- A first call whose link write is lost. -/
def lostRun : List (SecretsStep derive) :=
  [.ensure (callWith (pairOf "g1" (by decide) (by decide)) (pairOf "l1" (by decide) (by decide))
    (.failed false "timeout"))]

/-- The call after it generates again, and both writes are made. -/
theorem secrets_match_retried :
    (ensureSecrets laterCall (replay SecretsStep.next .fresh lostRun)).1 = .ok () ∧
      (replay SecretsStep.next .fresh (lostRun ++ [.ensure laterCall])).Matched derive :=
  ⟨rfl, secrets_match lostRun laterCall (by decide) rfl []⟩

end

end WireguardGateway.Controller

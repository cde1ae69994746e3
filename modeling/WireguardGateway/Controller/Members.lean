import WireguardGateway.Controller.Composite

/-!
# `reconcileMembers`: discovery and allocation for a load-balanced Gateway

One pass over the member records: read the tracked records, ask discovery about them, and hand the
snapshot (or its absence) to the record pass. The answers of one pass are a `MembersEnv`.

Results:
* `reconcileMembers_frame`: a pass writes the records and the memory of discovery only;
* **`reconcileMembers_result`**: its result is usable only if a call of `List` succeeded, and
  otherwise retains the target size and leaves the records as they were;
* **`reconcileMembers_called`**: a pass calls `List` at most once, with the refresh its memory calls
  for, and only a call that succeeds moves the time of the last refresh.
-/

namespace WireguardGateway.Controller

open Lib Gcp Prog

/-- The operator's settings a pass reads. -/
structure Config where
  gcpAddressRefreshInterval : Int
  gcpCredentialsSecret : String

/-- The answers of one pass of `reconcileMembers`; `now` is what the clock shows. -/
structure MembersEnv where
  now : Int
  namesRead : Read
  recordRead : String → Read
  client : Except String ComputeApi
  waitExists : Fault
  waitSize : Fault
  sizeRead : Fault
  keys : Except String String
  pass : Env

/-- The reads before the record pass. -/
def MembersEnv.discovery (e : MembersEnv) : Env :=
  { e.pass with listRead := e.namesRead, getRead := e.recordRead }

/-- `parseCredentialsSecretRef`: empty, or exactly `<namespace>/<name>`. -/
def parseCredentialsSecretRef (setting : String) : Except String (String × String) :=
  if setting = "" then .ok ("", "")
  else
    let refusal := "gcp credentials secret " ++ quote setting ++ ": want \"<namespace>/<name>\""
    match split '/' setting with
    | [namespace_, name] =>
      if namespace_ = "" ∨ name = "" then .error refusal else .ok (namespace_, name)
    | _ => .error refusal

/-- `gatewayRefreshKey`. -/
def gatewayRefreshKey (g : Gateway) : String := g.gatewayNamespace ++ "/" ++ g.gatewayName

/-- `gcpAddressRefreshDue`. -/
def gcpAddressRefreshDue (refreshed : GoMap String Int) (key : String) (now interval : Int) :
    Bool :=
  match refreshed.lookup key with
  | none => true
  | some last => now - last ≥ interval

/-- What discovery yields: a snapshot, or the message of its failure. -/
structure Discovered where
  snap : Option Snapshot
  failed : Bool
  message : String

section

variable (cfg : Config) (g : Gateway) (e : MembersEnv)

/-- One iteration of the loop that reads the tracked records. -/
def readTracked (records : List Record) (name : String) : Prog State String (List Record) := do
  match ← mapErr (fun err => "get member record " ++ quote name ++ ": " ++ err.text)
      (onRecords (getRecord g e.discovery name)) with
  | none => pure records
  | some rec => pure (records ++ [rec])

/-- The call of `List`; only a success moves the time of the last refresh. -/
def callList (region migName : String) (names : List String) (records : List Record)
    (refresh : Bool) (api : ComputeApi) : Prog State String Discovered := fun s =>
  let call : ListCall := { at_ := e.now, names, refresh, ok := true }
  match list api g.project region migName (discoveryRecorded records) call.refreshNames with
  | .error cause =>
    (.ok { snap := none, failed := true, message := cause },
      { s with listCalls := s.listCalls ++ [{ call with ok := false }] })
  | .ok snap =>
    (.ok { snap := some snap, failed := false, message := "" },
      { s with
        listCalls := s.listCalls ++ [call]
        gcpAddressRefreshed := s.gcpAddressRefreshed.insert (gatewayRefreshKey g) e.now })

/-- Credentials, then `List`. -/
def discover (region migName : String) (names : List String) (records : List Record)
    (refresh : Bool) : Prog State String Discovered := do
  let _ ← lift (parseCredentialsSecretRef cfg.gcpCredentialsSecret)
  match e.client with
  | .error cause => pure { snap := none, failed := true, message := cause }
  | .ok api => callList g e region migName names records refresh api

/-- `dependencyWaitResult`. -/
def dependencyWaitResult : Prog State String (Option Result) := do
  if ← xgatewayGCPExists e.waitExists then
    let targetSize ← readXGatewayGCPTargetSize e.waitSize
    pure (some (retained targetSize))
  else pure none

/-- The Gateway with the link's public key in its members' bundles. -/
def withLinkKey (linkPublicKey : String) : Gateway :=
  { g with bundle := { g.bundle with peerPublicKey := linkPublicKey } }

/-- The record pass over what discovery yielded. -/
def reconcileDiscovered (replicas : Int32) (d : Discovered) :
    Prog State String (Option Result × Bool × String) := do
  let lastTargetSize ← readXGatewayGCPTargetSize e.sizeRead
  let linkPublicKey ← lift e.keys
  let res ← mapErr PassError.text (onRecords
    (reconcile (withLinkKey g linkPublicKey) e.pass d.snap replicas.toInt lastTargetSize))
  if res.unusable ∧ d.message = "" then
    pure (some res, true, "gcp member discovery pass produced no usable snapshot")
  else pure (some res, d.failed, d.message)

/-- `reconcileMembers`: the result, whether discovery failed, and its message. -/
def reconcileMembers (region : String) (replicas : Int32) (migName : String) :
    Prog State String (Option Result × Bool × String) :=
  if migName = "" then do
    let waiting ← dependencyWaitResult e
    pure (waiting, false, "")
  else do
    let names ← mapErr (fun err => "list member records: " ++ err.text)
      (onRecords (listRecordNames g e.discovery))
    let records ← names.foldlM (readTracked g e) []
    let refresh ← serve none "" fun s => gcpAddressRefreshDue s.gcpAddressRefreshed
      (gatewayRefreshKey g) e.now cfg.gcpAddressRefreshInterval
    let d ← discover cfg g e region migName names records refresh
    reconcileDiscovered g e replicas d

end

/-! ## The rule of a pass -/

/-- A call of `List` is remembered, with its time if it succeeded. -/
def State.remember (s : State) (key : String) (c : ListCall) : State :=
  { s with
    gcpAddressRefreshed :=
      if c.ok then s.gcpAddressRefreshed.insert key c.at_ else s.gcpAddressRefreshed
    listCalls := s.listCalls ++ [c] }

section

variable {cfg : Config} {g : Gateway} {e : MembersEnv} {region migName : String}
  {P E : State → Prop} {D : Option Snapshot → State → Prop}

/-- Discovery does nothing, or calls `List` once; a snapshot comes of a call that succeeded. -/
theorem discover_rule {names : List String} {records : List Record} {refresh : Bool}
    (hunlisted : ∀ s, P s → D none s)
    (hlisted : ∀ s snap ok, P s → (snap.isSome → ok = true) →
      D snap (s.remember (gatewayRefreshKey g) { at_ := e.now, names, refresh, ok })) :
    Spec P (discover cfg g e region migName names records refresh) (fun d => D d.snap) P := by
  refine (Spec.lift (fun _ _ _ h => h) fun _ h => h).bind fun ref => ?_
  cases e.client with
  | error cause => exact Spec.pure hunlisted
  | ok api =>
    intro s hs
    dsimp only [callList]
    split
    · refine ⟨fun d s' h => ?_, fun _ _ h => (nomatch h)⟩
      cases h
      exact hlisted s none false hs fun h => nomatch h
    · refine ⟨fun d s' h => ?_, fun _ _ h => (nomatch h)⟩
      cases h
      exact hlisted s _ true hs fun _ => rfl

/-- The record pass starts from the records and the target size of the state. -/
theorem reconcileDiscovered_rule {Q : Option Result → State → Prop} {replicas : Int32}
    {d : Discovered} (hDE : ∀ s, D d.snap s → E s)
    (hpass : ∀ s key, D d.snap s → e.keys = .ok key →
      Spec (· = s.records) (reconcile (withLinkKey g key) e.pass d.snap replicas.toInt s.targetSize)
        (fun res w => Q (some res) { s with records := w }) fun w => E { s with records := w }) :
    Spec (D d.snap) (reconcileDiscovered g e replicas d) (fun r => Q r.1) E := by
  refine (serve_spec.orElse hDE).bind fun size => ?_
  refine Spec.bind (Q := fun key s => e.keys = .ok key ∧ D d.snap s ∧ size = s.targetSize)
    (Spec.lift (fun key hkey s hs => ⟨hkey, hs⟩) fun s hs => hDE s hs.1) fun key => ?_
  refine Spec.bind (Q := fun res => Q (some res)) (Spec.mapErr ?_) fun res => ?_
  · rintro s ⟨hkey, hs, rfl⟩
    refine ⟨fun res s' h => ?_, fun err s' h => ?_⟩
    · obtain ⟨hres, rfl⟩ := Prod.mk.inj h
      exact (hpass s key hs hkey s.records rfl).1 res _ (Prod.ext hres rfl)
    · obtain ⟨herr, rfl⟩ := Prod.mk.inj h
      exact (hpass s key hs hkey s.records rfl).2 err _ (Prod.ext herr rfl)
  · split <;> exact Spec.pure fun _ h => h

/-- **The rule of a pass**: before discovery it only reads. -/
theorem reconcileMembers_rule {Q : Option Result → State → Prop} (replicas : Int32)
    (hE : ∀ s, P s → E s) (hDE : ∀ snap s, D snap s → E s)
    (hwaiting : ∀ s, P s →
      Q (if s.composite.isSome then some (retained s.targetSize) else none) s)
    (hunlisted : ∀ s, P s → D none s)
    (hlisted : ∀ s snap names ok, P s → (snap.isSome → ok = true) →
      D snap (s.remember (gatewayRefreshKey g)
        { at_ := e.now
          names
          refresh := gcpAddressRefreshDue s.gcpAddressRefreshed (gatewayRefreshKey g) e.now
            cfg.gcpAddressRefreshInterval
          ok }))
    (hpass : ∀ s snap key, D snap s → e.keys = .ok key →
      Spec (· = s.records) (reconcile (withLinkKey g key) e.pass snap replicas.toInt s.targetSize)
        (fun res w => Q (some res) { s with records := w }) fun w => E { s with records := w }) :
    Spec P (reconcileMembers cfg g e region replicas migName) (fun r => Q r.1) E := by
  have hreads : ∀ {ε α : Type} {f : ε → String} {m : Prog World ε α}, (∀ w, (m w).2 = w) →
      Spec P (mapErr f (onRecords m)) (fun _ => P) E := fun {_ _ _ m} hm =>
    (Spec.mapErr (Spec.of_state (R := P) fun s hs => by
      show P { s with records := (m s.records).2 }
      rw [hm]
      exact hs)).orElse hE
  unfold reconcileMembers
  split
  · refine Spec.bind (Q := Q) ((serve_spec.orElse hE).bind fun found => ?_)
      fun r => Spec.pure fun _ h => h
    split
    · rename_i hfound
      refine (serve_spec.orElse fun s hs => hE s hs.1).bind fun size => Spec.pure fun s hs => ?_
      have hretained := hwaiting s hs.1.1
      rwa [if_pos (hs.1.2 ▸ hfound), ← hs.2] at hretained
    · rename_i hfound
      refine Spec.pure fun s hs => ?_
      have hnone := hwaiting s hs.1
      rwa [if_neg (hs.2 ▸ hfound)] at hnone
  · refine (hreads listRecordNames_world).bind fun names => ?_
    refine (Spec.foldlM (I := fun _ => P) (fun rs n => ?_) names []).bind fun records => ?_
    · refine (hreads (getRecord_world n)).bind fun r => ?_
      cases r <;> exact Spec.pure fun _ h => h
    · refine (serve_spec.orElse hE).bind fun refresh => ?_
      refine Spec.bind (Q := fun d => D d.snap)
        ((discover_rule (fun s hs => hunlisted s hs.1) ?_).orElse
        fun s hs => hE s hs.1) fun d => reconcileDiscovered_rule (hDE d.snap) fun s =>
          hpass s d.snap
      rintro s snap ok ⟨hs, rfl⟩ hok
      exact hlisted s snap names ok hs hok

/-! ## What a pass leaves alone -/

/-- **A pass writes the records and the memory of discovery only.** -/
theorem reconcileMembers_frame (replicas : Int32)
    (hP : ∀ s w refreshed calls, P s →
      P { s with records := w, gcpAddressRefreshed := refreshed, listCalls := calls }) :
    Keeps P (reconcileMembers cfg g e region replicas migName) :=
  reconcileMembers_rule (D := fun _ => P) (Q := fun _ => P) replicas (fun _ h => h)
    (fun _ _ h => h) (fun _ h => h) (fun _ h => h) (fun s _ _ _ h _ => hP s s.records _ _ h)
    fun s _ _ h _ => Spec.of_state fun _ _ => hP s _ _ _ h

/-- A property of the records that the record pass keeps is kept. -/
theorem reconcileMembers_records {W : World → Prop} (replicas : Int32)
    (hpass : ∀ linkPublicKey snap lastAccepted, e.keys = .ok linkPublicKey →
      Keeps W (reconcile (withLinkKey g linkPublicKey) e.pass snap replicas.toInt lastAccepted)) :
    Keeps (fun s => W s.records) (reconcileMembers cfg g e region replicas migName) :=
  reconcileMembers_rule (D := fun _ s => W s.records) (Q := fun _ s => W s.records) replicas
    (fun _ h => h) (fun _ _ h => h) (fun _ h => h) (fun _ h => h) (fun _ _ _ _ h _ => h)
    fun s snap key hs hkey => (hpass key snap s.targetSize hkey).pre fun _ hw => hw ▸ hs

/-- A call of `List` succeeded between the two states. -/
def Fetched (s s' : State) : Prop := ∃ c ∈ s'.listCalls.drop s.listCalls.length, c.ok = true

/-- The result of a pass: none while there is no composite, the retained size and the records as
they were, or, over a snapshot, a usable result. -/
def MembersResult (g : Gateway) (replicas : Int32) (t : State) (r : Option Result)
    (s : State) : Prop :=
  (r = none ∧ t.composite = none) ∨
    ∃ x, r = some x ∧ ((x.unusable = true ∧ x.targetSize = t.targetSize ∧ s.records = t.records) ∨
      (x.unusable = false ∧ Fetched t s ∧
        x.targetSize = computeTargetSize replicas.toInt g.capacity t.targetSize))

/-- **The result of a pass.** -/
theorem reconcileMembers_result (replicas : Int32) (t : State) :
    Spec (· = t) (reconcileMembers cfg g e region replicas migName)
      (fun r s => MembersResult g replicas t r.1 s) fun _ => True := by
  refine reconcileMembers_rule (D := fun snap s => (s.records = t.records ∧
    s.composite = t.composite) ∧ (snap.isSome → Fetched t s)) (Q := MembersResult g replicas t)
    replicas (fun _ _ => trivial) (fun _ _ _ => trivial) ?_ ?_ ?_ ?_
  · rintro s rfl
    cases hc : s.composite with
    | none => exact .inl ⟨rfl, hc⟩
    | some c => exact .inr ⟨_, rfl, .inl ⟨rfl, rfl, rfl⟩⟩
  · rintro s rfl
    exact ⟨⟨rfl, rfl⟩, fun h => nomatch h⟩
  · rintro s snap names ok rfl hok
    refine ⟨⟨rfl, rfl⟩, fun hsnap => ?_⟩
    rw [Fetched, State.remember, List.drop_left]
    exact ⟨_, List.mem_singleton_self _, hok hsnap⟩
  · rintro s snap key ⟨⟨hrecords, hcomposite⟩, hfetched⟩ -
    have hsize : s.targetSize = t.targetSize := by
      rw [State.targetSize, hcomposite, State.targetSize]
    refine reconcile_spec.weaken (fun _ h => h) (fun res w h => .inr ⟨res, rfl, ?_⟩)
      fun _ _ => trivial
    obtain ⟨hunusable, hlast, hworld⟩ | ⟨hsnap, husable, htarget⟩ := h
    · exact .inl ⟨hunusable, hlast.trans hsize, hworld.trans hrecords⟩
    · exact .inr ⟨husable, hfetched hsnap, hsize ▸ htarget⟩

/-! ## The memory of discovery -/

/-- What discovery remembers: the times of the last successes, and the trace of its calls. -/
structure Memory where
  refreshed : GoMap String Int
  calls : List ListCall

def State.memory (s : State) : Memory where
  refreshed := s.gcpAddressRefreshed
  calls := s.listCalls

/-- A call of `List` is remembered, with its time if it succeeded. -/
def Memory.call (μ : Memory) (key : String) (c : ListCall) : Memory where
  refreshed := if c.ok then μ.refreshed.insert key c.at_ else μ.refreshed
  calls := μ.calls ++ [c]

/-- The memory is `μ`, or remembers one more call. -/
def Called (g : Gateway) (now : Int) (refresh : Bool) (μ μ' : Memory) : Prop :=
  μ' = μ ∨ ∃ names ok, μ' = μ.call (gatewayRefreshKey g) { at_ := now, names, refresh, ok }

/-- **The calls of a pass**: at most one, which asks for a refresh exactly when the time of the last
success says so. -/
theorem reconcileMembers_called (cfg : Config) (g : Gateway) (e : MembersEnv) (region : String)
    (replicas : Int32) (migName : String) (s : State) :
    Called g e.now (gcpAddressRefreshDue s.gcpAddressRefreshed (gatewayRefreshKey g) e.now
      cfg.gcpAddressRefreshInterval) s.memory
      (reconcileMembers cfg g e region replicas migName s).2.memory := by
  refine (reconcileMembers_rule (P := (· = s))
    (D := fun _ (s' : State) => Called g e.now _ s.memory s'.memory)
    (Q := fun _ (s' : State) => Called g e.now _ s.memory s'.memory) replicas ?_
      (fun _ _ h => h) ?_ ?_ ?_
    fun s' _ _ h _ => Spec.of_state (R := fun _ => Called g e.now _ s.memory s'.memory)
      fun _ _ => h).state (R := fun (s' : State) => Called g e.now _ s.memory s'.memory) rfl
  · rintro _ rfl
    exact .inl rfl
  · rintro _ rfl
    exact .inl rfl
  · rintro _ rfl
    exact .inl rfl
  · rintro _ snap names ok rfl -
    exact .inr ⟨names, ok, rfl⟩

end

end WireguardGateway.Controller

import WireguardGateway.Controller.Calls

/-!
# The shared network and the Gateways that use it

Every Gateway's composite (`XGatewayGCP`) refers to one shared network composite. A full pass
applies the network before the composite; the pass of a Gateway that is being deleted, once its own
composite is gone, deletes the network if no Gateway *without a deletion timestamp* is left.

The count is of Gateways, not of composites: of two Gateways that are deleted
together, the one whose composite drains first sees no Gateway left, and deletes the
network under the other's composite.

`Tenancy` is what the API server holds. A pass is one step, its calls in the order of the source
with an answer for each (`LivePath`, `DeleteEnv`); users and Crossplane act between passes.

Results:
* `TenancyStep.next_kept`: a composite's Gateway exists and holds the finalizer (`Owned`);
* `releaseAfterSharedNetwork_spec`: the deletion is issued only when no Gateway is live;
* **`network_outlives`**: in a run in which no Gateway is released while another one drains and none
  is live, the deletion of the network is issued only when no composite exists;
* `network_undercut`: two Gateways deleted together.
-/

namespace WireguardGateway.Controller

open Lib Gcp Prog

/-! ## State -/

/-- The metadata of a Gateway that its deletion rests on; `deleting` is a set deletion timestamp. -/
structure GatewayMeta where
  deleting : Bool
  finalizer : Bool
  deriving DecidableEq, Repr

/-- The Gateways, their composites and the shared network, each composite with whether it is being
deleted. `issued` keeps, for each deletion of the network the operator issued, the composites that
existed at that moment. -/
structure Tenancy where
  gateways : GoMap String GatewayMeta
  composites : GoMap String Bool
  network : Option Bool
  issued : List (List String)

namespace Tenancy

/-- No Gateway was ever created. -/
def empty : Tenancy := { gateways := ∅, composites := ∅, network := none, issued := [] }

/-- How many Gateways `releaseAfterSharedNetwork` counts. -/
def remaining (s : Tenancy) : Nat := (s.gateways.entries.filter fun e => !e.2.deleting).length

/-- Server-side apply of a composite: one that is being deleted stays so. -/
def applyComposite (key : String) (s : Tenancy) : Tenancy :=
  { s with composites := s.composites.insert key ((s.composites.lookup key).getD false) }

def applyNetwork (s : Tenancy) : Tenancy := { s with network := some (s.network.getD false) }

/-- A deleted composite stays until Crossplane has drained it. -/
def deleteComposite (key : String) (s : Tenancy) : Tenancy :=
  { s with composites := s.composites.insert key true }

def deleteNetwork (s : Tenancy) : Tenancy := { s with network := s.network.map fun _ => true }

/-- The deletion of the network is issued. -/
def issue (s : Tenancy) : Tenancy := { s with issued := s.issued ++ [s.composites.keys] }

def addFinalizer (key : String) (g : GatewayMeta) (s : Tenancy) : Tenancy :=
  { s with gateways := s.gateways.insert key { g with finalizer := true } }

/-- A Gateway that is being deleted goes with its last finalizer. -/
def removeFinalizer (key : String) (s : Tenancy) : Tenancy :=
  { s with gateways := s.gateways.erase key }

end Tenancy

/-! ## The pass of a live Gateway -/

/-- How far a pass of a live Gateway with its finalizer gets, with the answers to the calls that
concern the network and the composite. -/
inductive LivePath where
  /-- An early return or a failure before anything is written. -/
  | stopped
  | overCapacity (exists_ : Fault) (composite : WriteOutcome)
  | full (secrets : Fault) (network : WriteOutcome) (members : Fault) (composite : WriteOutcome)

/-- The calls of a pass that concern the network and the composite. -/
def reconcileLive (key : String) : LivePath → Prog Tenancy String Unit
  | .stopped => pure ()
  | .overCapacity exists_ composite => do
    if ← serve exists_ "get xgatewaygcp" fun s => (s.composites.lookup key).isSome then
      write composite "apply xgatewaygcp" (Tenancy.applyComposite key)
  | .full secrets network members composite => do
    serve secrets "ensure key secrets" fun _ => ()
    write network "apply xgatewaynetwork" Tenancy.applyNetwork
    serve members "reconcile gcp members" fun _ => ()
    write composite "apply xgatewaygcp" (Tenancy.applyComposite key)

/-! ## The pass of a Gateway that is being deleted -/

/-- The answers to the calls of `reconcileDelete`; `holding` is whether link pods are waited for. -/
structure DeleteEnv where
  compositeRead : Fault
  compositeDelete : WriteOutcome
  list : Fault
  networkRead : Fault
  networkDelete : WriteOutcome
  status : Fault
  teardown : Fault
  holding : Bool
  cleanup : Fault
  release : WriteOutcome

section

variable (key : String) (e : DeleteEnv)

/-- `releaseFinalizer`. -/
def releaseFinalizer : Prog Tenancy String Unit := do
  serve e.teardown "delete link workload" fun _ => ()
  if e.holding then pure ()
  else
    serve e.cleanup "delete link lease" fun _ => ()
    write e.release "remove finalizer" (Tenancy.removeFinalizer key)

/-- `releaseAfterSharedNetwork`. -/
def releaseAfterSharedNetwork : Prog Tenancy String Unit := do
  let remaining ← serve e.list "list gateways for shared-network refcount" Tenancy.remaining
  if remaining > 0 then releaseFinalizer key e
  else
    match ← serve e.networkRead "get shared network for deletion" (·.network) with
    | none => releaseFinalizer key e
    | some true => pure ()
    | some false => do
      write .ok "" Tenancy.issue
      write e.networkDelete "delete shared network" Tenancy.deleteNetwork
      serve e.status "update gateway status" fun _ => ()

/-- `reconcileDelete`. -/
def reconcileDelete (g : GatewayMeta) : Prog Tenancy String Unit :=
  if !g.finalizer then pure ()
  else do
    match ← serve e.compositeRead "get xgatewaygcp for deletion" (·.composites.lookup key) with
    | none => releaseAfterSharedNetwork key e
    | some true => serve e.status "update gateway status" fun _ => ()
    | some false => do
      write e.compositeDelete "delete xgatewaygcp" (Tenancy.deleteComposite key)
      serve e.status "update gateway status" fun _ => ()

end

/-- The answers of one pass: `finalize` to adding the finalizer, then those of the branch taken. -/
structure TenancyEnv where
  finalize : WriteOutcome
  live : LivePath
  delete : DeleteEnv

/-- `Reconcile`. -/
def reconcileGateway (key : String) (e : TenancyEnv) : Prog Tenancy String Unit := fun s =>
  match s.gateways.lookup key with
  | none => (.ok (), s)
  | some g =>
    if g.deleting then reconcileDelete key e.delete g s
    else if !g.finalizer then write e.finalize "add finalizer" (Tenancy.addFinalizer key g) s
    else reconcileLive key e.live s

/-! ## Runs -/

/-- A pass, a user's creation or deletion of a Gateway, or Crossplane finishing a deletion. -/
inductive TenancyStep where
  | create (key : String)
  | delete (key : String)
  | reconcile (key : String) (e : TenancyEnv)
  | compositeDrained (key : String)
  | networkDrained

namespace TenancyStep

def next (s : Tenancy) : TenancyStep → Tenancy
  | .create key =>
    if (s.gateways.lookup key).isSome then s
    else { s with gateways := s.gateways.insert key { deleting := false, finalizer := false } }
  | .delete key =>
    match s.gateways.lookup key with
    | none => s
    | some g =>
      if g.finalizer then { s with gateways := s.gateways.insert key { g with deleting := true } }
      else { s with gateways := s.gateways.erase key }
  | .reconcile key e => (reconcileGateway key e s).2
  | .compositeDrained key =>
    if s.composites.lookup key = some true then { s with composites := s.composites.erase key }
    else s
  | .networkDrained => if s.network = some true then { s with network := none } else s

end TenancyStep

/-! ## What a pass preserves -/

/-- Every composite's Gateway exists and holds the finalizer. -/
def Owned (s : Tenancy) : Prop :=
  ∀ key, (s.composites.lookup key).isSome →
    ∃ g, s.gateways.lookup key = some g ∧ g.finalizer = true

/-- No composite existed when the deletion of the network was issued. -/
def Spared (s : Tenancy) : Prop := ∀ keys ∈ s.issued, keys = []

/-- No Gateway is without a deletion timestamp. -/
def NoneLive (s : Tenancy) : Prop := ∀ g ∈ s.gateways.entries, g.2.deleting = true

theorem noneLive_of_remaining {s : Tenancy} (h : s.remaining = 0) : NoneLive s := fun g hg => by
  simpa using List.filter_eq_nil_iff.mp (List.eq_nil_of_length_eq_zero h) g hg

/-- While a pass of the Gateway `g` runs: both invariants, and the Gateway it has read. -/
structure Passing (key : String) (g : GatewayMeta) (s : Tenancy) : Prop where
  owned : Owned s
  spared : Spared s
  gateway : s.gateways.lookup key = some g

section

variable {key : String} {g : GatewayMeta} {s : Tenancy} {e : DeleteEnv}

theorem lookup_insert_isSome {m : GoMap String Bool} {k key : String} {v : Bool}
    (h : ((m.insert key v).lookup k).isSome) : k = key ∨ (m.lookup k).isSome := by
  by_cases hk : k = key
  · exact .inl hk
  · rw [AList.lookup_insert_ne hk] at h
    exact .inr h

/-- Writing the composite of a Gateway that holds its finalizer. -/
theorem Passing.insertComposite (h : Passing key g s) (hg : g.finalizer = true) (deleting : Bool) :
    Passing key g { s with composites := s.composites.insert key deleting } where
  owned k hk := by
    obtain rfl | hk := lookup_insert_isSome hk
    · exact ⟨g, h.gateway, hg⟩
    · exact h.owned k hk
  spared := h.spared
  gateway := h.gateway

theorem write_passing {outcome : WriteOutcome} {what : String} {update : Tenancy → Tenancy}
    (h : ∀ s, Passing key g s → Passing key g (update s)) :
    Keeps (Passing key g) (write outcome what update) :=
  (write_spec h).orElse fun _ h => h.elim id id

theorem reconcileLive_spec (hg : g.finalizer = true) (path : LivePath) :
    Keeps (Passing key g) (reconcileLive key path) := by
  have happly : ∀ outcome, Keeps (Passing key g)
      (write outcome "apply xgatewaygcp" (Tenancy.applyComposite key)) := fun _ =>
    write_passing fun _ h => h.insertComposite hg _
  cases path with
  | stopped => exact Spec.pure fun _ h => h
  | overCapacity exists_ composite =>
    refine serve_frame.bind fun found => ?_
    cases found with
    | false => exact Spec.pure fun _ h => h
    | true => exact happly composite
  | full secrets network members composite =>
    refine serve_frame.bind fun _ => ?_
    have hnetwork : ∀ s, Passing key g s → Passing key g s.applyNetwork := fun s h =>
      ⟨h.owned, h.spared, h.gateway⟩
    refine (write_passing hnetwork).bind fun _ => ?_
    exact serve_frame.bind fun _ => happly composite

/-- The two invariants, with the Gateway or after it has gone. -/
def Kept (s : Tenancy) : Prop := Owned s ∧ Spared s

theorem Passing.kept (h : Passing key g s) : Kept s := ⟨h.owned, h.spared⟩

/-- The Gateway's own composite is gone. -/
def Released (key : String) (s : Tenancy) : Prop := s.composites.lookup key = none

/-- Gateways may change as long as those with a composite stay and keep the finalizer. -/
theorem Kept.withGateways (h : Kept s) {gateways : GoMap String GatewayMeta}
    (hstay : ∀ k g, (s.composites.lookup k).isSome → s.gateways.lookup k = some g →
      g.finalizer = true → ∃ g', gateways.lookup k = some g' ∧ g'.finalizer = true) :
    Kept { s with gateways := gateways } := by
  refine ⟨fun k hk => ?_, h.2⟩
  obtain ⟨g, hg, hf⟩ := h.1 k hk
  exact hstay k g hk hg hf

/-- A Gateway without a composite can go. -/
theorem Kept.eraseGateway (h : Kept s) (hr : Released key s) :
    Kept { s with gateways := s.gateways.erase key } := by
  refine h.withGateways fun k g hk hg hf => ?_
  have hne : k ≠ key := by
    rintro rfl
    rw [show s.composites.lookup k = none from hr] at hk
    cases hk
  exact ⟨g, (AList.lookup_erase_ne hne).trans hg, hf⟩

/-- A Gateway may change as long as it keeps the finalizer it has. -/
theorem Kept.insertGateway (h : Kept s) {g : GatewayMeta}
    (hg : ∀ g₀, s.gateways.lookup key = some g₀ → g₀.finalizer = true → g.finalizer = true) :
    Kept { s with gateways := s.gateways.insert key g } := by
  refine h.withGateways fun k g₀ _ hg₀ hf => ?_
  by_cases hne : k = key
  · subst hne
    exact ⟨g, AList.lookup_insert _, hg g₀ hg₀ hf⟩
  · exact ⟨g₀, (AList.lookup_insert_ne hne).trans hg₀, hf⟩

theorem releaseFinalizer_spec :
    Spec (fun s => Kept s ∧ Released key s) (releaseFinalizer key e) (fun _ => Kept) Kept := by
  refine (serve_frame.orElse fun _ h => h.1).bind fun _ => ?_
  split
  · exact Spec.pure fun _ h => h.1
  · refine (serve_frame.orElse fun _ h => h.1).bind fun _ => ?_
    refine (write_spec (Q := Kept) fun s h => h.1.eraseGateway h.2).orElse ?_
    rintro s (h | h)
    · exact h.1
    · exact h

/-- No composite is left once `key` is released and no Gateway is live. -/
def Last (key : String) (s : Tenancy) : Prop :=
  Released key s → NoneLive s → ∀ k, s.composites.lookup k = none

theorem Kept.issue (h : Kept s) (hnone : ∀ k, s.composites.lookup k = none) :
    Kept s.issue := by
  refine ⟨h.1, fun keys hkeys => ?_⟩
  obtain hkeys | hkeys := List.mem_append.mp hkeys
  · exact h.2 keys hkeys
  · rw [List.mem_singleton.mp hkeys]
    refine List.eq_nil_iff_forall_not_mem.mpr fun k hk => ?_
    exact AList.lookup_eq_none.mp (hnone k) (AList.mem_keys.mpr hk)

/-- **The deletion of the network is issued only when no Gateway is live.** -/
theorem releaseAfterSharedNetwork_spec :
    Spec (fun s => Kept s ∧ Released key s ∧ Last key s) (releaseAfterSharedNetwork key e)
      (fun _ => Kept) Kept := by
  refine (serve_spec.orElse fun _ h => h.1).bind fun remaining => ?_
  split
  · exact releaseFinalizer_spec.pre fun _ h => ⟨h.1.1, h.1.2.1⟩
  · rename_i hzero
    refine (serve_frame.orElse fun _ h => h.1.1).bind fun network => ?_
    cases network with
    | none =>
      exact releaseFinalizer_spec.pre fun _ h => ⟨h.1.1, h.1.2.1⟩
    | some deleting =>
      cases deleting with
      | true => exact Spec.pure fun _ h => h.1.1
      | false =>
        have hissue : Spec (fun s => (Kept s ∧ Released key s ∧ Last key s) ∧
            remaining = s.remaining) (write .ok "" Tenancy.issue) (fun _ => Kept) Kept := by
          refine (write_spec (Q := Kept) fun s h => ?_).orElse fun s h => h.elim (·.1.1) id
          obtain ⟨⟨hkept, hreleased, hlast⟩, hcount⟩ := h
          have hlive := noneLive_of_remaining (s := s) (by omega)
          exact hkept.issue (hlast hreleased hlive)
        refine hissue.bind fun _ => ?_
        refine ((write_spec (Q := Kept) fun s h => ⟨h.1, h.2⟩).orElse fun s h =>
          h.elim id id).bind fun _ => ?_
        exact serve_frame

theorem reconcileDelete_spec (hg : g.finalizer = true) :
    Spec (fun s => Passing key g s ∧ Last key s) (reconcileDelete key e g)
      (fun _ => Kept) Kept := by
  unfold reconcileDelete
  rw [hg]
  refine (serve_spec.orElse fun _ h => h.1.kept).bind fun composite => ?_
  cases composite with
  | none =>
    exact releaseAfterSharedNetwork_spec.pre fun _ h => ⟨h.1.1.kept, h.2.symm, h.1.2⟩
  | some deleting =>
    cases deleting with
    | true => exact serve_frame.pre fun _ h => h.1.1.kept
    | false =>
      refine Spec.bind (Q := fun _ => Kept) ?_ fun _ => serve_frame
      refine (write_spec (Q := Kept) fun s h => (h.1.1.insertComposite hg true).kept).orElse ?_
      rintro s (h | h)
      · exact h.1.1.kept
      · exact h

end

/-! ## Runs without overlap -/

/-- The pass is not one of a Gateway whose composite is gone, with no live Gateway left, while
another Gateway that is being deleted still has its composite. -/
def TenancyStep.Apart (s : Tenancy) : TenancyStep → Prop
  | .reconcile key _ => Released key s → NoneLive s →
      ∀ g ∈ s.gateways.entries, g.2.deleting = true → s.composites.lookup g.1 = none
  | _ => True

instance (s : Tenancy) : Decidable (NoneLive s) := inferInstanceAs (Decidable (∀ _ ∈ _, _))

instance (s : Tenancy) : (x : TenancyStep) → Decidable (x.Apart s)
  | .reconcile key _ => inferInstanceAs (Decidable (s.composites.lookup key = none → NoneLive s →
      ∀ g ∈ s.gateways.entries, g.2.deleting = true → s.composites.lookup g.1 = none))
  | .create _ | .delete _ | .compositeDrained _ | .networkDrained =>
      inferInstanceAs (Decidable True)

theorem last_of_apart {s : Tenancy} {key : String} {e : TenancyEnv} (h : Owned s)
    (hx : (TenancyStep.reconcile key e).Apart s) : Last key s := by
  intro hreleased hlive k
  by_contra hk
  obtain ⟨g, hg, -⟩ := h k (Option.isSome_iff_ne_none.mpr hk)
  have hmem : Sigma.mk k g ∈ s.gateways.entries := AList.mem_lookup_iff.mp hg
  exact hk (hx hreleased hlive _ hmem (hlive _ hmem))

theorem reconcileGateway_kept {s : Tenancy} {key : String} {e : TenancyEnv} (h : Kept s)
    (hx : Last key s) : Kept (reconcileGateway key e s).2 := by
  unfold reconcileGateway
  cases hg : s.gateways.lookup key with
  | none => exact h
  | some g =>
    have hpass : Passing key g s := ⟨h.1, h.2, hg⟩
    obtain ⟨deleting, finalizer⟩ := g
    cases deleting with
    | true =>
      cases finalizer with
      | false => exact h
      | true => exact (reconcileDelete_spec rfl).state ⟨hpass, hx⟩
    | false =>
      cases finalizer with
      | true =>
        have := (reconcileLive_spec rfl e.live).state hpass
        exact this.kept
      | false =>
        have hadd : Keeps Kept (write e.finalize "add finalizer"
            (Tenancy.addFinalizer key { deleting := false, finalizer := false })) := by
          have hinsert : ∀ s, Kept s → Kept (s.addFinalizer key
              { deleting := false, finalizer := false }) := fun s h =>
            h.insertGateway fun _ _ _ => rfl
          exact (write_spec hinsert).orElse fun s h => h.elim id id
        exact hadd.state h

theorem TenancyStep.next_kept (s : Tenancy) (x : TenancyStep) (h : Kept s) (hx : x.Apart s) :
    Kept (x.next s) := by
  cases x with
  | reconcile key e => exact reconcileGateway_kept h (last_of_apart h.1 hx)
  | create key =>
    dsimp only [next]
    split
    · exact h
    · rename_i hnew
      refine h.insertGateway fun g₀ hg₀ _ => ?_
      rw [hg₀] at hnew
      exact (hnew rfl).elim
  | delete key =>
    dsimp only [next]
    split
    · exact h
    · rename_i g hg
      split
      · rename_i hfin
        exact h.insertGateway fun _ _ _ => hfin
      · rename_i hfin
        refine h.eraseGateway (Option.not_isSome_iff_eq_none.mp fun hk => ?_)
        obtain ⟨g', hg', hf⟩ := h.1 key hk
        cases hg.symm.trans hg'
        exact hfin hf
  | compositeDrained key =>
    dsimp only [next]
    split
    · refine ⟨fun k hk => h.1 k ?_, h.2⟩
      by_cases hne : k = key
      · subst hne
        simp at hk
      · rwa [AList.lookup_erase_ne hne] at hk
    · exact h
  | networkDrained =>
    dsimp only [next]
    split
    · exact ⟨h.1, h.2⟩
    · exact h

/-- **The shared network outlives its users** in every run without such an overlap. -/
theorem network_outlives (xs : List TenancyStep)
    (hrun : Guarded TenancyStep.next (fun s x => x.Apart s) .empty xs) :
    ∀ keys ∈ (replay TenancyStep.next .empty xs).issued, keys = [] :=
  (hrun.invariant TenancyStep.next_kept
    ⟨fun k hk => by simp [Tenancy.empty] at hk, fun _ h => nomatch h⟩ (List.prefix_refl xs)).2

/-- Every call is answered. -/
def TenancyEnv.answered : TenancyEnv where
  finalize := .ok
  live := .full none .ok none .ok
  delete :=
    { compositeRead := none, compositeDelete := .ok, list := none, networkRead := none,
      networkDelete := .ok, status := none, teardown := none, holding := false, cleanup := none,
      release := .ok }

/-- The Gateways are created and provisioned, then all deleted, and each has
its composite deleted. -/
def retire (keys : List String) : List TenancyStep :=
  keys.map .create ++ keys.map (.reconcile · .answered) ++ keys.map (.reconcile · .answered) ++
    keys.map .delete ++ keys.map (.reconcile · .answered)

/-- Two Gateways: both composites drain, and then the network is deleted. -/
theorem network_outlives_drained :
    (replay TenancyStep.next .empty (retire ["a", "b"] ++ [.compositeDrained "a",
      .compositeDrained "b", .reconcile "a" .answered])).issued = [[]] ∧
    ∀ keys ∈ (replay TenancyStep.next .empty (retire ["a", "b"] ++ [.compositeDrained "a",
      .compositeDrained "b", .reconcile "a" .answered])).issued, keys = [] :=
  ⟨by decide +kernel, network_outlives _ (by decide +kernel)⟩

/-- Only the composite of the first drains, and the network is deleted under the second's. -/
theorem network_undercut :
    (replay TenancyStep.next .empty
      (retire ["a", "b"] ++ [.compositeDrained "a", .reconcile "a" .answered])).issued =
        [["b"]] := by
  decide +kernel

end WireguardGateway.Controller

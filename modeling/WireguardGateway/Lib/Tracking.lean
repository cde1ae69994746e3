import WireguardGateway.Lib.Journal
import WireguardGateway.Lib.Nftables

/-!
# Connection tracking

The tracker's side of netfilter, as far as states and marks go. A flow is an entry of the tracker.
Its first packet creates it and gives it its original direction; a packet in that direction is in
state `new` until a packet in the reply direction was seen. Errors that concern a flow are packets
of it in state `related`. The chains that run on a packet see its state, its direction and the mark
of the flow, and what they leave of the mark is kept for the next packet.

Other programs on the host may write marks of flows too, between the packets, but not the bits under
`mask`. The marks with which packets arrive are arbitrary. Flows that a helper expects are left out:
the kernel gives them the mark of their master.

Result: **`TracksIn.mark_invariant`**, what holds of a flow's mark: it is enough that the packets in
state `new` establish it and that the other packets keep it.
-/

namespace WireguardGateway.Lib

open Function

variable {φ : Type} {chains : List NftChain} {mask : BitVec 32}

/-- An entry of the tracker. -/
structure Tracked where
  mark : BitVec 32
  /-- A packet in the reply direction was seen. -/
  replied : Bool
  deriving DecidableEq, Repr

/-- A packet of a flow. `fresh` is the mark of the flow if this packet creates it. -/
structure Passage (φ : Type) where
  flow : φ
  reply : Bool
  related : Bool
  packet : NetPacket
  fresh : BitVec 32

/-- What happens to the flows. -/
inductive Traffic (φ : Type)
  | packet (x : Passage φ)
  /-- Another program writes the mark of a flow. -/
  | remark (flow : φ) (mark : BitVec 32)

abbrev Tracker (φ : Type) : Type := φ → Option Tracked

namespace Passage

variable (t : Tracker φ) (x : Passage φ)

def state : CtState :=
  if x.related then .related
  else if x.reply then .established
  else
    match t x.flow with
    | none => .new
    | some e => if e.replied then .established else .new

/-- The mark of the flow before the chains run. -/
def ctMark : BitVec 32 := ((t x.flow).map fun e => e.mark).getD x.fresh

/-- What the chains see. -/
def view : NetState :=
  { packet := x.packet, conn := { state := x.state t, reply := x.reply, mark := x.ctMark t } }

/-- What they leave. -/
def emerges (chains : List NftChain) : NetState := (runChains chains (x.view t)).1

/-- The entry afterwards. -/
def entry (chains : List NftChain) : Tracked :=
  { mark := (x.emerges t chains).conn.mark
    replied := ((t x.flow).map fun e => e.replied).getD false || (x.reply && !x.related) }

end Passage

/-- Only a packet in the original direction creates a flow; nobody else writes
the bits under the mask. -/
def Tracker.Enabled (mask : BitVec 32) (t : Tracker φ) : Traffic φ → Prop
  | .packet x => t x.flow = none → x.reply = false ∧ x.related = false ∧ x.fresh &&& mask = 0
  | .remark flow mark => ((t flow).any fun e => mark &&& mask == e.mark &&& mask) = true

instance (mask : BitVec 32) (t : Tracker φ) : (a : Traffic φ) → Decidable (Tracker.Enabled mask t a)
  | .packet _ => inferInstanceAs (Decidable (_ = _ → _ = _ ∧ _ = _ ∧ _ = _))
  | .remark _ _ => inferInstanceAs (Decidable (_ = _))

variable [DecidableEq φ]

def Tracker.next (chains : List NftChain) (t : Tracker φ) : Traffic φ → Tracker φ
  | .packet x => update t x.flow (some (x.entry t chains))
  | .remark flow mark => update t flow ((t flow).map fun e => { e with mark := mark })

/-- The tracker after the packets, of which it knew no flow before. -/
abbrev Tracker.run (chains : List NftChain) (xs : List (Traffic φ)) : Tracker φ :=
  replay (Tracker.next chains) (fun _ => none) xs

/-- The packets and writes are possible one after another. -/
abbrev TracksIn (chains : List NftChain) (mask : BitVec 32) (xs : List (Traffic φ)) : Prop :=
  Guarded (Tracker.next chains) (Tracker.Enabled mask) (fun _ => none) xs

/-- The packets of the flow in state `new` all satisfy `N`. -/
def NewPackets (chains : List NftChain) (xs : List (Traffic φ)) (flow : φ)
    (N : Passage φ → Prop) : Prop :=
  ∀ us x vs, xs = us ++ .packet x :: vs → x.flow = flow →
    x.state (Tracker.run chains us) = .new → N x

/-- **The mark of a flow.** -/
theorem TracksIn.mark_invariant {xs : List (Traffic φ)} (h : TracksIn chains mask xs) {flow : φ}
    {N : Passage φ → Prop} (hnew : NewPackets chains xs flow N) {P : BitVec 32 → Prop}
    (hestablish : ∀ (t : Tracker φ) (x : Passage φ), x.flow = flow → N x → x.state t = .new →
      (t x.flow = none → x.fresh &&& mask = 0) → (∀ e, t x.flow = some e → P e.mark) →
      P (x.emerges t chains).conn.mark)
    (hkeep : ∀ (t : Tracker φ) (x : Passage φ) e, t x.flow = some e → x.state t ≠ .new → P e.mark →
      P (x.emerges t chains).conn.mark)
    (hmask : ∀ a b : BitVec 32, a &&& mask = b &&& mask → P b → P a) :
    ∀ e, Tracker.run chains xs flow = some e → P e.mark := by
  have hguard : Guarded (Tracker.next chains) (fun t a => Tracker.Enabled mask t a ∧
      ∀ x, a = .packet x → x.flow = flow → x.state t = .new → N x) (fun _ => none) xs := by
    refine Guarded.of_split fun us a vs hsplit => ⟨?_, ?_⟩
    · subst hsplit
      exact h.at
    · rintro x rfl hflow hstate
      exact hnew us x vs hsplit hflow hstate
  refine hguard.invariant (I := fun t => ∀ e, t flow = some e → P e.mark) ?_
    (fun e he => (nomatch he)) (List.prefix_refl xs)
  rintro t a hinv ⟨henabled, hnewest⟩ e he
  cases a with
  | packet x =>
    by_cases hflow : x.flow = flow
    · subst hflow
      rw [Tracker.next, update_self, Option.some.injEq] at he
      subst he
      by_cases hstate : x.state t = .new
      · refine hestablish t x rfl (hnewest x rfl rfl hstate) hstate (fun hnone => ?_) hinv
        exact (henabled hnone).2.2
      · cases hentry : t x.flow with
        | none =>
          -- a flow is created by a packet in state `new`
          obtain ⟨hreply, hrelated, -⟩ := henabled hentry
          simp [Passage.state, hreply, hrelated, hentry] at hstate
        | some e => exact hkeep t x e hentry hstate (hinv e hentry)
    · rw [Tracker.next, update_of_ne (Ne.symm hflow)] at he
      exact hinv e he
  | remark g mark =>
    by_cases hflow : g = flow
    · subst hflow
      rw [Tracker.next, update_self] at he
      obtain ⟨e', he', rfl⟩ := Option.map_eq_some_iff.mp he
      have hbits : mark &&& mask = e'.mark &&& mask := by
        simpa [Tracker.Enabled, he'] using henabled
      exact hmask _ _ hbits (hinv e' he')
    · rw [Tracker.next, update_of_ne (Ne.symm hflow)] at he
      exact hinv e he

end WireguardGateway.Lib

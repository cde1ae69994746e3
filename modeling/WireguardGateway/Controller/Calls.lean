import WireguardGateway.Gcp.Deps

/-!
# Calls of the API server

A read is served from the state or fails (`Fault`); a write can fail with or without having taken
effect (`WriteOutcome`). `zoom` runs a program over a part of a state.
-/

namespace WireguardGateway.Controller

open Lib Gcp Prog

variable {σ τ α : Type}

/-- Whether a read fails, and with which error. -/
abbrev Fault := Option String

/-- Serve a read of the current value. -/
def serve (fault : Fault) (what : String) (read : σ → α) : Prog σ String α :=
  fun s =>
    match fault with
    | some cause => (.error (what ++ ": " ++ cause), s)
    | none => (.ok (read s), s)

/-- Perform a write; a failed one may have taken effect. -/
def write (outcome : WriteOutcome) (what : String) (update : σ → σ) : Prog σ String Unit := fun s =>
  match outcome with
  | .ok => (.ok (), update s)
  | .failed committed cause =>
    (.error (what ++ ": " ++ cause), if committed then update s else s)

/-- The write takes effect. -/
def commits : WriteOutcome → Bool
  | .ok => true
  | .failed committed _ => committed

/-- Run a program over the part of the state that `get` reads and `set` writes. -/
def zoom (get : σ → τ) (set : σ → τ → σ) (m : Prog τ String α) : Prog σ String α := fun s =>
  let (r, t) := m (get s)
  (r, set s t)

variable {P : σ → Prop}

theorem serve_spec {fault : Fault} {what : String} {read : σ → α} :
    Spec P (serve fault what read) (fun a s => P s ∧ a = read s) P := by
  intro s hs
  cases fault with
  | some cause =>
    refine ⟨fun a s' h => (nomatch h), fun e s' h => ?_⟩
    cases h
    exact hs
  | none =>
    refine ⟨fun a s' h => ?_, fun e s' h => (nomatch h)⟩
    cases h
    exact ⟨hs, rfl⟩

/-- A read leaves the state alone. -/
theorem serve_frame {fault : Fault} {what : String} {read : σ → α} :
    Keeps P (serve fault what read) :=
  serve_spec.post fun _ _ h => h.1

theorem write_spec {Q : σ → Prop} {outcome : WriteOutcome} {what : String} {update : σ → σ}
    (h : ∀ s, P s → Q (update s)) :
    Spec P (write outcome what update) (fun _ => Q) (fun s => P s ∨ Q s) := by
  intro s hs
  cases outcome with
  | ok =>
    refine ⟨fun a s' h' => ?_, fun e s' h' => (nomatch h')⟩
    cases h'
    exact h s hs
  | failed committed cause =>
    refine ⟨fun a s' h' => (nomatch h'), fun e s' h' => ?_⟩
    cases h'
    cases committed with
    | false => exact .inl hs
    | true => exact .inr (h s hs)

/-- The rule for a program over a part of the state. -/
theorem zoom_rule {get : σ → τ} {set : σ → τ → σ} {m : Prog τ String α} {Q : α → σ → Prop}
    {E : σ → Prop}
    (h : ∀ s, P s → Spec (· = get s) m (fun a t => Q a (set s t)) fun t => E (set s t)) :
    Spec P (zoom get set m) Q E := by
  intro s hs
  obtain ⟨hok, herr⟩ := h s hs (get s) rfl
  unfold zoom
  rcases hm : m (get s) with ⟨err | a, t⟩
  · refine ⟨fun _ _ h => (nomatch h), fun err' s' h => ?_⟩
    cases h
    exact herr err t hm
  · refine ⟨fun a' s' h => ?_, fun _ _ h => (nomatch h)⟩
    cases h
    exact hok a t hm

end WireguardGateway.Controller

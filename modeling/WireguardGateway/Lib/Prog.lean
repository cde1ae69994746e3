import Mathlib.Data.List.Basic

/-!
# Programs with a state and an error exit

`Prog σ ε α` is a program over a state `σ` that returns an `α` or stops with an `ε`. The state it
reached is kept on **either** exit: an aborted program has still done what it did before it
stopped, which is how a sequence of remote calls behaves.

Loops are `List.foldlM`. Results:
* `foldlM_cons`: one iteration, then the rest, then the error exit;
* **`foldlM_inv`**: an invariant indexed by the elements already visited holds at the exit, and an
  error exit leaves it at the element that failed;
* **`Spec`**: triples with a postcondition for each exit, and their rules (`Spec.bind`,
  `Spec.foldlM` and one per program former);
* **`Simulates`**: two programs over related states that end alike, and its rules.
-/

namespace WireguardGateway.Lib

/-- A program over `σ`: it ends with a value or an error, and in a state either way. -/
def Prog (σ ε α : Type) : Type := σ → Except ε α × σ

namespace Prog

variable {σ τ ε ε' α β ι : Type}

instance : Monad (Prog σ ε) where
  pure a := fun s => (.ok a, s)
  bind m f := fun s =>
    match m s with
    | (.ok a, s') => f a s'
    | (.error e, s') => (.error e, s')

/-- Stop with `e`. -/
def fail (e : ε) : Prog σ ε α := fun s => (.error e, s)

/-- Turn the error exit into a value, for a caller that handles it. -/
def attempt (m : Prog σ ε α) : Prog σ ε' (Except ε α) := fun s => (.ok (m s).1, (m s).2)

/-- Wrap the error. -/
def mapErr (f : ε → ε') (m : Prog σ ε α) : Prog σ ε' α := fun s =>
  match m s with
  | (.ok a, s') => (.ok a, s')
  | (.error e, s') => (.error (f e), s')

/-- A pure computation that may fail. -/
def lift : Except ε α → Prog σ ε α
  | .ok a => fun s => (.ok a, s)
  | .error e => fun s => (.error e, s)

@[simp] theorem pure_apply (a : α) (s : σ) : (pure a : Prog σ ε α) s = (.ok a, s) := rfl

@[simp] theorem fail_apply (e : ε) (s : σ) : (fail e : Prog σ ε α) s = (.error e, s) := rfl

@[simp] theorem lift_ok (a : α) (s : σ) : (lift (.ok a) : Prog σ ε α) s = (.ok a, s) := rfl

@[simp] theorem lift_error (e : ε) (s : σ) : (lift (.error e) : Prog σ ε α) s = (.error e, s) :=
  rfl

theorem bind_apply (m : Prog σ ε α) (f : α → Prog σ ε β) (s : σ) :
    (m >>= f) s = match m s with
      | (.ok a, s') => f a s'
      | (.error e, s') => (.error e, s') := rfl

variable {m : Prog σ ε α}

theorem bind_ok {f : α → Prog σ ε β} {s s' : σ} {a : α} (h : m s = (.ok a, s')) :
    (m >>= f) s = f a s' := by
  rw [bind_apply, h]

theorem bind_error {f : α → Prog σ ε β} {s s' : σ} {e : ε} (h : m s = (.error e, s')) :
    (m >>= f) s = (.error e, s') := by
  rw [bind_apply, h]

theorem eq_mk_of_fst {s : σ} {r : Except ε α} (h : (m s).1 = r) :
    m s = (r, (m s).2) := Prod.ext h rfl

/-- A wrapped error is a wrapped one. -/
theorem mapErr_error {f : ε → ε'} {s : σ} {e' : ε'} (h : (mapErr f m s).1 = .error e') :
    ∃ e, f e = e' := by
  unfold mapErr at h
  split at h
  · cases h
  · exact ⟨_, Except.error.inj h⟩

@[simp] theorem lift_ok_bind (a : α) (f : α → Prog σ ε β) : (lift (.ok a) >>= f) = f a := rfl

/-! ## Loops -/

theorem foldlM_cons (f : β → ι → Prog σ ε β) (b : β) (x : ι) (xs : List ι) (s : σ) :
    (x :: xs).foldlM f b s = match f b x s with
      | (.ok b', s') => xs.foldlM f b' s'
      | (.error e, s') => (.error e, s') := rfl

/-- **The loop rule.** `I done b s` is kept by every iteration and `E` is what an iteration that
fails leaves behind; then the loop ends in `I` over the whole list, or in `E`. -/
theorem foldlM_inv {f : β → ι → Prog σ ε β} {I : List ι → β → σ → Prop} {E : ε → σ → Prop}
    {l : List ι}
    (hstep : ∀ done x rest b s, l = done ++ x :: rest → I done b s →
      match f b x s with
      | (.ok b', s') => I (done ++ [x]) b' s'
      | (.error e, s') => E e s') {b : β} {s : σ} (h0 : I [] b s) :
    match l.foldlM f b s with
    | (.ok b', s') => I l b' s'
    | (.error e, s') => E e s' := by
  -- the invariant travels with the visited prefix `done`, so the induction is on the suffix
  suffices h : ∀ (rest done : List ι) (b : β) (s : σ), l = done ++ rest → I done b s →
      match rest.foldlM f b s with
      | (.ok b', s') => I l b' s'
      | (.error e, s') => E e s' from h l [] b s rfl h0
  intro rest
  induction rest with
  | nil =>
    intro done b s hl hI
    simp only [List.append_nil] at hl
    subst hl
    exact hI
  | cons x xs ih =>
    intro done b s hl hI
    have hx := hstep done x xs b s hl hI
    rw [foldlM_cons]
    rcases hf : f b x s with ⟨_ | b', s'⟩ <;> rw [hf] at hx
    · exact hx
    · exact ih (done ++ [x]) b' s' (by simp [hl]) hx

/-! ## Triples -/

/-- From `P`, the program ends with a value in `Q`, or with an error in `E`. -/
def Spec (P : σ → Prop) (m : Prog σ ε α) (Q : α → σ → Prop) (E : σ → Prop) : Prop :=
  ∀ s, P s → (∀ a s', m s = (.ok a, s') → Q a s') ∧ (∀ e s', m s = (.error e, s') → E s')

/-- However the program ends, `P` holds as before. -/
abbrev Keeps (P : σ → Prop) (m : Prog σ ε α) : Prop := Spec P m (fun _ => P) P

section

variable {P : σ → Prop} {m : Prog σ ε α} {Q : α → σ → Prop} {E : σ → Prop}

/-- What a triple says about the state alone. -/
theorem Spec.state {R : σ → Prop} (h : Spec P m (fun _ => R) R) {s : σ} (hs : P s) :
    R (m s).2 := by
  rcases hm : m s with ⟨_ | a, s'⟩
  · exact (h s hs).2 _ s' hm
  · exact (h s hs).1 a s' hm

theorem Spec.of_state {R : σ → Prop} (h : ∀ s, P s → R (m s).2) : Spec P m (fun _ => R) R := by
  intro s hs
  have hR := h s hs
  refine ⟨fun a s' hm => ?_, fun e s' hm => ?_⟩
  · rwa [hm] at hR
  · rwa [hm] at hR

variable {E' : σ → Prop}

theorem Spec.weaken {P' : σ → Prop} {Q' : α → σ → Prop} (h : Spec P m Q E) (hP : ∀ s, P' s → P s)
    (hQ : ∀ a s, Q a s → Q' a s) (hE : ∀ s, E s → E' s) :
    Spec P' m Q' E' := fun s hs =>
  ⟨fun a s' hm => hQ a s' ((h s (hP s hs)).1 a s' hm),
    fun e s' hm => hE s' ((h s (hP s hs)).2 e s' hm)⟩

theorem Spec.pre {P' : σ → Prop} (h : Spec P m Q E) (hP : ∀ s, P' s → P s) : Spec P' m Q E :=
  fun s hs => h s (hP s hs)

theorem Spec.post {Q' : α → σ → Prop} (h : Spec P m Q E) (hQ : ∀ a s, Q a s → Q' a s) :
    Spec P m Q' E :=
  h.weaken (fun _ hs => hs) hQ fun _ hs => hs

/-- What the precondition says of more than the state is at hand for the rest. -/
theorem Spec.given {p : Prop} (hp : ∀ s, P s → p) (h : p → Spec P m Q E) : Spec P m Q E :=
  fun s hs => h (hp s hs) s hs

theorem Spec.orElse (h : Spec P m Q E) (hE : ∀ s, E s → E' s) : Spec P m Q E' :=
  h.weaken (fun _ hs => hs) (fun _ _ hs => hs) hE

theorem Spec.and {P' : σ → Prop} {Q' : α → σ → Prop} (h : Spec P m Q E) (h' : Spec P' m Q' E') :
    Spec (fun s => P s ∧ P' s) m (fun a s => Q a s ∧ Q' a s)
      (fun s => E s ∧ E' s) := fun s hs =>
  ⟨fun a s' hm => ⟨(h s hs.1).1 a s' hm, (h' s hs.2).1 a s' hm⟩,
    fun e s' hm => ⟨(h s hs.1).2 e s' hm, (h' s hs.2).2 e s' hm⟩⟩

theorem Spec.pure {a : α} (h : ∀ s, P s → Q a s) : Spec P (Pure.pure a : Prog σ ε α) Q E := by
  refine fun s hs => ⟨fun b s' hm => ?_, fun e s' hm => ?_⟩
  · cases hm
    exact h s hs
  · cases hm

theorem Spec.fail {e : ε} (h : ∀ s, P s → E s) : Spec P (Prog.fail e : Prog σ ε α) Q E := by
  refine fun s hs => ⟨fun b s' hm => ?_, fun e s' hm => ?_⟩
  · cases hm
  · cases hm
    exact h s hs

theorem Spec.lift {x : Except ε α} (hok : ∀ a, x = .ok a → ∀ s, P s → Q a s)
    (herr : ∀ s, P s → E s) : Spec P (Prog.lift x) Q E := by
  cases x with
  | ok a => exact Spec.pure (hok a rfl)
  | error e => exact Spec.fail herr

theorem Spec.mapErr {f : ε → ε'} (h : Spec P m Q E) : Spec P (Prog.mapErr f m) Q E := by
  intro s hs
  unfold Prog.mapErr
  rcases hm : m s with ⟨e | a, s'⟩
  · refine ⟨fun b s'' h' => (nomatch h'), fun e' s'' h' => ?_⟩
    cases h'
    exact (h s hs).2 e s' hm
  · refine ⟨fun b s'' h' => ?_, fun e' s'' h' => (nomatch h')⟩
    cases h'
    exact (h s hs).1 a s' hm

/-- **Sequencing.** -/
theorem Spec.bind {f : α → Prog σ ε β} {R : β → σ → Prop} (hm : Spec P m Q E)
    (hf : ∀ a, Spec (Q a) (f a) R E) : Spec P (m >>= f) R E := by
  intro s hs
  rcases h : m s with ⟨e | a, s'⟩
  · rw [bind_error h]
    refine ⟨fun b s'' h' => (nomatch h'), fun e' s'' h' => ?_⟩
    cases h'
    exact (hm s hs).2 e s' h
  · rw [bind_ok h]
    exact hf a s' ((hm s hs).1 a s' h)

/-- **Loops**, with an invariant of the accumulator and the state. -/
theorem Spec.foldlM {f : β → ι → Prog σ ε β} {I : β → σ → Prop}
    (hstep : ∀ b i, Spec (I b) (f b i) I E) :
    ∀ (l : List ι) (b : β), Spec (I b) (l.foldlM f b) I E
  | [], _ => Spec.pure fun _ h => h
  | i :: l, b => Spec.bind (hstep b i) fun b' => Spec.foldlM hstep l b'

end

/-! ## Simulation -/

/-- From related states the programs end with the same value or error, in related states. -/
def Simulates (R : σ → τ → Prop) (m : Prog σ ε α) (n : Prog τ ε α) : Prop :=
  ∀ s t, R s t → (m s).1 = (n t).1 ∧ R (m s).2 (n t).2

namespace Simulates

variable {R : σ → τ → Prop} {m : Prog σ ε α} {n : Prog τ ε α}

theorem ends (h : Simulates R m n) {s : σ} {t : τ} (hR : R s t) :
    ∃ r s' t', m s = (r, s') ∧ n t = (r, t') ∧ R s' t' :=
  ⟨(m s).1, (m s).2, (n t).2, rfl, Prod.ext (h s t hR).1.symm rfl, (h s t hR).2⟩

theorem pure (a : α) : Simulates R (Pure.pure a : Prog σ ε α) (Pure.pure a) := fun _ _ h => ⟨rfl, h⟩

theorem fail (e : ε) : Simulates R (Prog.fail e : Prog σ ε α) (Prog.fail e) := fun _ _ h => ⟨rfl, h⟩

theorem attempt (h : Simulates R m n) :
    Simulates R (Prog.attempt m : Prog σ ε' (Except ε α)) (Prog.attempt n) := fun s t hR =>
  ⟨congrArg Except.ok (h s t hR).1, (h s t hR).2⟩

theorem bind {f : α → Prog σ ε β} {k : α → Prog τ ε β} (h : Simulates R m n)
    (hf : ∀ a, Simulates R (f a) (k a)) : Simulates R (m >>= f) (n >>= k) := by
  intro s t hR
  obtain ⟨r, s', t', hm, hn, hR'⟩ := h.ends hR
  rw [bind_apply, bind_apply, hm, hn]
  cases r with
  | error e => exact ⟨rfl, hR'⟩
  | ok a => exact hf a s' t' hR'

/-- A pure computation is the same on both sides, and what it returned is known in the rest. -/
theorem lift_bind {x : Except ε α} {f : α → Prog σ ε β} {k : α → Prog τ ε β}
    (hf : ∀ a, x = .ok a → Simulates R (f a) (k a)) :
    Simulates R (Prog.lift x >>= f) (Prog.lift x >>= k) := by
  cases x with
  | error e => exact fun _ _ h => ⟨rfl, h⟩
  | ok a => exact hf a rfl

theorem mapErr {f : ε → ε'} (h : Simulates R m n) :
    Simulates R (Prog.mapErr f m) (Prog.mapErr f n) := by
  intro s t hR
  obtain ⟨r, s', t', hm, hn, hR'⟩ := h.ends hR
  unfold Prog.mapErr
  rw [hm, hn]
  cases r <;> exact ⟨rfl, hR'⟩

theorem foldlM {f : β → ι → Prog σ ε β} {k : β → ι → Prog τ ε β}
    (h : ∀ b i, Simulates R (f b i) (k b i)) :
    ∀ (l : List ι) (b : β), Simulates R (l.foldlM f b) (l.foldlM k b)
  | [], b => .pure b
  | i :: l, b => (h b i).bind fun b' => foldlM h l b'

end Simulates

end Prog

end WireguardGateway.Lib

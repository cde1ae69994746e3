import Mathlib.Data.List.Infix

/-!
# Basic regular expressions without alternatives, as `sed` matches them

A pattern is a sequence of single characters and repetitions of a character class, one kind of which
is captured. POSIX asks for the leftmost match, then for the longest, and then gives each part of
the pattern, from left to right, the longest text it can have; `run` tries each repetition at its
longest first, which is that choice for a pattern that ends in a repetition of every character.

Results:
* `run_sound`: what `run` finds is a match (`Matches`);
* `run_complete`: it finds one if there is one.
-/

namespace WireguardGateway.Lib.Sed

/-- A character of a class, a repetition of a class, or a captured repetition. -/
inductive Atom where
  | char (p : Char → Bool)
  | star (p : Char → Bool)
  | group (p : Char → Bool)

/-- Split off a run of the class, the longest first for which `k` finds a match of the rest. -/
def greedy {β : Type} (p : Char → Bool) (k : List Char → List Char → Option β) (run : List Char) :
    List Char → Option β
  | [] => k run []
  | c :: cs => if p c then (greedy p k (run ++ [c]) cs).or (k run (c :: cs)) else k run (c :: cs)

/-- Match a beginning of the text: the captures, and what is left. -/
def run : List Atom → List Char → Option (List (List Char) × List Char)
  | [], cs => some ([], cs)
  | .char _ :: _, [] => none
  | .char p :: atoms, c :: cs => if p c then run atoms cs else none
  | .star p :: atoms, cs => greedy p (fun _ rest => run atoms rest) [] cs
  | .group p :: atoms, cs =>
    greedy p (fun text rest => (run atoms rest).map fun m => (text :: m.1, m.2)) [] cs

/-- `s/pattern/\1/` on one line, `none` when nothing matches: the leftmost match is replaced by the
first capture. -/
def substitute (atoms : List Atom) : List Char → Option (List Char)
  | [] => (run atoms []).map fun m => m.1.headD [] ++ m.2
  | c :: cs =>
    match run atoms (c :: cs) with
    | some m => some (m.1.headD [] ++ m.2)
    | none => (substitute atoms cs).map (c :: ·)

/-- `sed -n s/pattern/\1/p`: the lines in which something was replaced. -/
def printed (atoms : List Atom) (input : List Char) : List (List Char) :=
  (input.splitOn '\n').filterMap (substitute atoms)

/-- The text matches the pattern with these captures, up to the rest. -/
inductive Matches : List Atom → List Char → List (List Char) → List Char → Prop
  | nil (cs : List Char) : Matches [] cs [] cs
  | char {p : Char → Bool} {c : Char} {atoms : List Atom} {cs rest : List Char}
      {captures : List (List Char)} (hc : p c = true) (h : Matches atoms cs captures rest) :
      Matches (.char p :: atoms) (c :: cs) captures rest
  | star {p : Char → Bool} {text : List Char} {atoms : List Atom} {cs rest : List Char}
      {captures : List (List Char)} (htext : ∀ c ∈ text, p c = true)
      (h : Matches atoms cs captures rest) : Matches (.star p :: atoms) (text ++ cs) captures rest
  | group {p : Char → Bool} {text : List Char} {atoms : List Atom} {cs rest : List Char}
      {captures : List (List Char)} (htext : ∀ c ∈ text, p c = true)
      (h : Matches atoms cs captures rest) :
      Matches (.group p :: atoms) (text ++ cs) (text :: captures) rest

section

variable {β : Type} {p : Char → Bool} {k : List Char → List Char → Option β} {b : β}

theorem greedy_sound : ∀ {cs run : List Char}, greedy p k run cs = some b →
    ∃ text rest, cs = text ++ rest ∧ (∀ c ∈ text, p c = true) ∧ k (run ++ text) rest = some b
  | [], run, h => ⟨[], [], rfl, fun _ h => (nomatch h), by rwa [List.append_nil]⟩
  | c :: cs, run, h => by
    rw [greedy] at h
    have hstop : k run (c :: cs) = some b → ∃ text rest, c :: cs = text ++ rest ∧
        (∀ c ∈ text, p c = true) ∧ k (run ++ text) rest = some b := fun h =>
      ⟨[], c :: cs, rfl, fun _ h => (nomatch h), by rwa [List.append_nil]⟩
    split at h
    · rename_i hc
      obtain h | ⟨-, h⟩ := Option.or_eq_some_iff.mp h
      · obtain ⟨text, rest, rfl, htext, hk⟩ := greedy_sound h
        refine ⟨c :: text, rest, rfl, ?_, by rwa [List.append_assoc] at hk⟩
        exact List.forall_mem_cons.mpr ⟨hc, htext⟩
      · exact hstop h
    · exact hstop h

theorem greedy_complete : ∀ {text rest run : List Char}, (∀ c ∈ text, p c = true) →
    (k (run ++ text) rest).isSome → (greedy p k run (text ++ rest)).isSome
  | [], [], run, _, h => by
    rw [List.append_nil] at h
    exact h
  | [], c :: rest, run, _, h => by
    rw [List.append_nil] at h
    rw [List.nil_append, greedy]
    split
    · rw [Option.isSome_or, h, Bool.or_true]
    · exact h
  | c :: text, rest, run, htext, h => by
    obtain ⟨hc, htext⟩ := List.forall_mem_cons.mp htext
    rw [List.cons_append, greedy, if_pos hc, Option.isSome_or,
      greedy_complete htext (by rwa [List.append_assoc]), Bool.true_or]

end

/-- **What is found is a match.** -/
theorem run_sound : ∀ {atoms : List Atom} {cs rest : List Char} {captures : List (List Char)},
    run atoms cs = some (captures, rest) → Matches atoms cs captures rest
  | [], cs, rest, captures, h => by
    cases h
    exact .nil _
  | .char p :: atoms, [], rest, captures, h => nomatch h
  | .char p :: atoms, c :: cs, rest, captures, h => by
    rw [run] at h
    split at h
    · rename_i hc
      exact .char hc (run_sound h)
    · cases h
  | .star p :: atoms, cs, rest, captures, h => by
    obtain ⟨text, rest', rfl, htext, hk⟩ := greedy_sound h
    exact .star htext (run_sound hk)
  | .group p :: atoms, cs, rest, captures, h => by
    obtain ⟨text, rest', rfl, htext, hk⟩ := greedy_sound h
    obtain ⟨m, hm, heq⟩ := Option.map_eq_some_iff.mp hk
    cases heq
    exact .group htext (run_sound hm)

/-- **A match is found.** -/
theorem run_complete {atoms : List Atom} {cs rest : List Char} {captures : List (List Char)}
    (h : Matches atoms cs captures rest) : (run atoms cs).isSome := by
  induction h with
  | nil cs => rfl
  | char hc _ ih =>
    rw [run, if_pos hc]
    exact ih
  | star htext _ ih => exact greedy_complete htext ih
  | group htext _ ih => exact greedy_complete htext (by rwa [Option.isSome_map])

/-- A pattern that ends in a repetition of every character leaves nothing. -/
theorem run_rest : ∀ {atoms : List Atom} {cs rest : List Char} {captures : List (List Char)},
    run (atoms ++ [.star fun _ => true]) cs = some (captures, rest) → rest = []
  | [], cs, rest, captures, h => by
    have hall : ∀ (cs text : List Char), greedy (fun _ => true)
        (fun _ rest => run [] rest) text cs = some ([], []) := by
      intro cs
      induction cs with
      | nil => exact fun _ => rfl
      | cons c cs ih =>
        intro text
        rw [greedy, if_pos rfl, ih, Option.some_or]
    cases (hall cs []).symm.trans h
    rfl
  | .char p :: atoms, [], rest, captures, h => nomatch h
  | .char p :: atoms, c :: cs, rest, captures, h => by
    rw [List.cons_append, run] at h
    split at h
    · exact run_rest h
    · cases h
  | .star p :: atoms, cs, rest, captures, h => by
    obtain ⟨text, rest', rfl, -, hk⟩ := greedy_sound h
    exact run_rest hk
  | .group p :: atoms, cs, rest, captures, h => by
    obtain ⟨text, rest', rfl, -, hk⟩ := greedy_sound h
    obtain ⟨m, hm, heq⟩ := Option.map_eq_some_iff.mp hk
    cases heq
    exact run_rest hm

end WireguardGateway.Lib.Sed

import Mathlib.Data.List.Infix

/-!
# Reading pieces off the front of a text

When a text is a concatenation of pieces, two texts that agree agree piece by piece, provided that
the end of a piece can be seen from what follows it. `Framed` says so for one piece and every text
that may follow; a sequence of framed pieces with a common opening is read up to the first place
where the opening is missing.

Results:
* `append_sep_inj`: a piece without a separator, followed by the separator;
* **`Framed.flatMap`**: a sequence of framed pieces.
-/

namespace WireguardGateway.Lib

variable {α β κ : Type}

/-- A piece that ends at the first `sep`. -/
theorem append_sep_inj {sep : α} : ∀ {xs ys u v : List α}, sep ∉ xs → sep ∉ ys →
    xs ++ sep :: u = ys ++ sep :: v → xs = ys ∧ u = v := by
  intro xs
  induction xs with
  | nil =>
    intro ys u v _ hys h
    cases ys with
    | nil => exact ⟨rfl, (List.cons.inj h).2⟩
    | cons y ys => exact absurd ((List.cons.inj h).1 ▸ List.mem_cons_self) hys
  | cons x xs ih =>
    intro ys u v hxs hys h
    cases ys with
    | nil => exact absurd ((List.cons.inj h).1 ▸ List.mem_cons_self) hxs
    | cons y ys =>
      obtain ⟨rfl, hrest⟩ := List.cons.inj h
      obtain ⟨rfl, huv⟩ := ih (fun hmem => hxs (List.mem_cons_of_mem _ hmem))
        (fun hmem => hys (List.mem_cons_of_mem _ hmem)) hrest
      exact ⟨rfl, huv⟩

/-- From the front of a text that goes on with a `tail`, `enc` of an `ok` value can be read off, up
to the value's `key`. -/
def Framed (enc : β → List α) (key : β → κ) (ok : β → Prop) (tail : List α → Prop) : Prop :=
  ∀ a b xs ys, ok a → ok b → tail xs → tail ys → enc a ++ xs = enc b ++ ys → key a = key b ∧ xs = ys

/-- **A sequence of framed pieces** is read up to where their `opening` is missing. -/
theorem Framed.flatMap {enc : β → List α} {key : β → κ} {ok : β → Prop} {tail : List α → Prop}
    (h : Framed enc key ok tail) {opening : List α} (hopening : ∀ b, opening <+: enc b)
    (htail : ∀ xs, opening <+: xs → tail xs) :
    ∀ {as bs : List β} {xs ys : List α}, (∀ a ∈ as, ok a) → (∀ b ∈ bs, ok b) → tail xs → tail ys →
      ¬ opening <+: xs → ¬ opening <+: ys → as.flatMap enc ++ xs = bs.flatMap enc ++ ys →
        as.map key = bs.map key ∧ xs = ys := by
  have hstarts : ∀ (b : β) (bs : List β) (ys : List α),
    opening <+: (b :: bs).flatMap enc ++ ys := by
    intro b bs ys
    rw [List.flatMap_cons, List.append_assoc]
    exact (hopening b).trans (List.prefix_append _ _)
  have hnext : ∀ (bs : List β) {ys : List α}, tail ys → tail (bs.flatMap enc ++ ys) := by
    intro bs ys hys
    cases bs with
    | nil => exact hys
    | cons b bs => exact htail _ (hstarts b bs ys)
  intro as
  induction as with
  | nil =>
    intro bs xs ys _ _ _ _ hxs _ heq
    cases bs with
    | nil => exact ⟨rfl, heq⟩
    | cons b bs =>
      rw [List.flatMap_nil, List.nil_append] at heq
      rw [heq] at hxs
      exact absurd (hstarts b bs ys) hxs
  | cons a as ih =>
    intro bs xs ys has hbs htx hty hxs hys heq
    cases bs with
    | nil =>
      rw [List.flatMap_nil, List.nil_append] at heq
      rw [← heq] at hys
      exact absurd (hstarts a as xs) hys
    | cons b bs =>
      rw [List.flatMap_cons, List.flatMap_cons, List.append_assoc, List.append_assoc] at heq
      obtain ⟨hkey, hrest⟩ := h a b _ _ (has a List.mem_cons_self) (hbs b List.mem_cons_self)
        (hnext as htx) (hnext bs hty) heq
      obtain ⟨hkeys, htails⟩ := ih (fun c hc => has c (List.mem_cons_of_mem _ hc))
        (fun c hc => hbs c (List.mem_cons_of_mem _ hc)) htx hty hxs hys hrest
      exact ⟨by rw [List.map_cons, List.map_cons, hkey, hkeys], htails⟩

end WireguardGateway.Lib

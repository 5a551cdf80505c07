import IdmMw.Library.Stopping

/-!
# Requests after answers

Some requests may be made only after certain answers.

* `Monitor.history`: the monitor that remembers the answered requests;
* `wp_history`: its weakest precondition speaks of the programs that are followed, and of the runs.
-/

namespace Async

variable {ε R α : Type} {A : R → Type} {P : List (Event A) → R → Prop} {p : Async ε A α}
  {Q : List (Event A) → Except ε α → Prop} {s : List (Event A)}

/-- Whether a request is allowed depends on the requests that were answered before. -/
def Monitor.history (P : List (Event A) → R → Prop) : Monitor (List (Event A)) A where
  ok := P
  next t r a t' := t' = t ++ [⟨r, a⟩]

theorem wp_history : p.wp (.history P) Q s ↔
    (∀ t r k, p.Follows t (await r k) → P (s ++ t) r) ∧ ∀ t x, p.Runs t x → Q (s ++ t) x := by
  induction p generalizing s with
  | settle y =>
    constructor
    · intro h
      constructor
      · intro t r k hf
        cases t with
        | nil => cases hf
        | cons e t => exact hf.elim
      · rintro t x ⟨rfl, rfl⟩
        rwa [List.append_nil]
    · rintro ⟨-, h⟩
      have hend := h [] y ⟨rfl, rfl⟩
      rwa [List.append_nil] at hend
  | await r k ih =>
    have hsnoc : ∀ a t, s ++ [⟨r, a⟩] ++ t = s ++ ⟨r, a⟩ :: t := fun a t => by
      rw [List.append_assoc, List.singleton_append]
    constructor
    · rintro ⟨hok, h⟩
      constructor
      · intro t r' k' hf
        cases t with
        | nil =>
          cases hf
          rwa [List.append_nil]
        | cons e t =>
          obtain ⟨a, rfl, hf⟩ := hf
          exact hsnoc a t ▸ ((ih a).1 (h a _ rfl)).1 t r' k' hf
      · rintro _ x ⟨a, t, rfl, hr⟩
        exact hsnoc a t ▸ ((ih a).1 (h a _ rfl)).2 t x hr
    · rintro ⟨hP, hQ⟩
      have hfirst := hP [] r k rfl
      rw [List.append_nil] at hfirst
      refine ⟨hfirst, ?_⟩
      rintro a _ rfl
      refine (ih a).2 ⟨fun t r' k' hf => ?_, fun t x hr => ?_⟩
      · rw [hsnoc]
        exact hP (⟨r, a⟩ :: t) r' k' ⟨a, rfl, hf⟩
      · rw [hsnoc]
        exact hQ (⟨r, a⟩ :: t) x ⟨a, t, rfl, hr⟩

/-- What is asked whatever was answered, and the runs. -/
theorem Issues.wp_history {P' : R → Prop} (h : p.Issues P') (hP : ∀ t r, P' r → P t r)
    (hQ : ∀ t x, p.Runs t x → Q (s ++ t) x) : p.wp (.history P) Q s := by
  refine Async.wp_history.2 ⟨fun t r k hf => hP _ r ?_, hQ⟩
  exact h.of_makes ⟨t, k, hf⟩

end Async

import Mathlib.Tactic.Common

/-!
# Runs of a transition system

A system whose events may or may not be possible in a state, and its runs in which every event meets
a condition on the state that it finds: what every such event keeps, a run keeps (`Run.invariant`).
-/

namespace Transitions

variable {σ ε : Type} {step : σ → ε → Option σ} {ok : σ → ε → Prop} {I : σ → Prop} {s s' : σ}
  {es : List ε}

/-- A run, each of whose events meets the condition. -/
inductive Run (step : σ → ε → Option σ) (ok : σ → ε → Prop) : σ → List ε → σ → Prop
  | nil (s : σ) : Run step ok s [] s
  | cons {s m s' : σ} {e : ε} {es : List ε} (hok : ok s e) (hstep : step s e = some m)
      (hrest : Run step ok m es s') : Run step ok s (e :: es) s'

/-- What every event keeps, a run keeps. -/
theorem Run.invariant (h : Run step ok s es s')
    (hI : ∀ s e s', I s → ok s e → step s e = some s' → I s') (hs : I s) : I s' := by
  induction h with
  | nil s => exact hs
  | cons hok hstep _ ih => exact ih (hI _ _ _ hs hok hstep)

/-- Events that are possible one after another make a run. -/
theorem Run.of_foldlM (h : es.foldlM step s = some s') : Run step (fun _ _ => True) s es s' := by
  induction es generalizing s with
  | nil =>
    obtain rfl : s = s' := Option.some.inj h
    exact .nil _
  | cons e es ih =>
    rw [List.foldlM_cons] at h
    obtain ⟨m, hstep, hrest⟩ := Option.bind_eq_some_iff.1 h
    exact .cons trivial hstep (ih hrest)

/-- Either every event of a run meets a condition, or there is a first event that does not. -/
theorem Run.forall_or_exists {ok' : σ → ε → Prop} (h : Run step ok s es s') :
    Run step ok' s es s' ∨ ∃ es₁ e es₂ m m', es = es₁ ++ e :: es₂ ∧ Run step ok s es₁ m ∧
      ¬ ok' m e ∧ step m e = some m' ∧ Run step ok m' es₂ s' := by
  induction h with
  | nil s => exact Or.inl (.nil s)
  | @cons s m s' e es hok hstep hrest ih =>
    by_cases he : ok' s e
    · rcases ih with ih | ⟨es₁, e', es₂, n, n', rfl, h₁, hne, hn, h₂⟩
      · exact Or.inl (.cons he hstep ih)
      · exact Or.inr ⟨e :: es₁, e', es₂, n, n', rfl, .cons hok hstep h₁, hne, hn, h₂⟩
    · exact Or.inr ⟨[], e, es, s, m, rfl, .nil s, he, hstep, hrest⟩

end Transitions

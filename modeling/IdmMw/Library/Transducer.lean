import Mathlib.Tactic.Common

/-!
# Transducers

A machine that reads symbols one after another and writes symbols, or gives up.

* `feed`: what is written while a list is read, and the state after it;
* `run`: what is written in all, when the list is everything there is to read;
* `feed_append`, `run_append`: reading two lists one after the other.
-/

/-- Reads symbols of `α` and writes symbols of `β`. -/
structure Transducer (σ α β : Type) where
  step : σ → α → Option (List β × σ)
  finish : σ → Option (List β)

namespace Transducer

variable {σ α β : Type} (T : Transducer σ α β)

/-- What is written while the list is read, and the state after it. -/
def feed : σ → List α → Option (List β × σ)
  | s, [] => some ([], s)
  | s, a :: as => do
    let (out, s') ← T.step s a
    let (rest, s'') ← feed s' as
    some (out ++ rest, s'')

/-- What is written in all. -/
def run (s : σ) (as : List α) : Option (List β) := do
  let (out, s') ← T.feed s as
  let rest ← T.finish s'
  some (out ++ rest)

variable {T} {s s' s'' : σ} {as bs : List α} {out out' last : List β}

theorem feed_cons {a : α} (hstep : T.step s a = some (out, s'))
    (hrest : T.feed s' as = some (out', s'')) : T.feed s (a :: as) = some (out ++ out', s'') := by
  simp [feed, hstep, hrest]

theorem feed_append (h : T.feed s as = some (out, s')) (h' : T.feed s' bs = some (out', s'')) :
    T.feed s (as ++ bs) = some (out ++ out', s'') := by
  induction as generalizing s out with
  | nil =>
    obtain ⟨rfl, rfl⟩ : [] = out ∧ s = s' := by simpa [feed] using h
    exact h'
  | cons a as ih =>
    simp only [feed, Option.bind_eq_bind, Option.bind_eq_some_iff] at h
    obtain ⟨⟨first, m⟩, hstep, ⟨rest, m'⟩, hrest, h⟩ := h
    obtain ⟨rfl, rfl⟩ : first ++ rest = out ∧ m' = s' := by simpa using h
    rw [List.cons_append, List.append_assoc]
    exact feed_cons hstep (ih hrest)

/-- What is read one by one alike. -/
theorem feed_map {γ : Type} {f : γ → α} {g : γ → List β} {cs : List γ}
    (h : ∀ c ∈ cs, T.step s (f c) = some (g c, s)) :
    T.feed s (cs.map f) = some (cs.flatMap g, s) := by
  induction cs with
  | nil => rfl
  | cons c cs ih =>
    rw [List.map_cons, List.flatMap_cons]
    exact feed_cons (h c List.mem_cons_self) (ih fun c' hc' => h c' (List.mem_cons_of_mem _ hc'))

theorem run_eq_some_iff : T.run s as = some out ↔
    ∃ first s' last, T.feed s as = some (first, s') ∧ T.finish s' = some last ∧
      first ++ last = out := by
  simp only [run, Option.bind_eq_bind, Option.bind_eq_some_iff, Option.some.injEq, Prod.exists]
  constructor
  · rintro ⟨first, s', hfeed, last, hfinish, rfl⟩
    exact ⟨first, s', last, hfeed, hfinish, rfl⟩
  · rintro ⟨first, s', last, hfeed, hfinish, rfl⟩
    exact ⟨first, s', hfeed, last, hfinish, rfl⟩

theorem run_of_feed (h : T.feed s as = some (out, s')) (hfinish : T.finish s' = some last) :
    T.run s as = some (out ++ last) := run_eq_some_iff.2 ⟨out, s', last, h, hfinish, rfl⟩

/-- Reading stops where the second list cannot be read. -/
theorem feed_append_none (h : T.feed s as = some (out, s')) (h' : T.feed s' bs = none) :
    T.feed s (as ++ bs) = none := by
  induction as generalizing s out with
  | nil =>
    obtain ⟨rfl, rfl⟩ : [] = out ∧ s = s' := by simpa [feed] using h
    exact h'
  | cons a as ih =>
    simp only [feed, Option.bind_eq_bind, Option.bind_eq_some_iff] at h
    obtain ⟨⟨first, m⟩, hstep, ⟨rest, m'⟩, hrest, h⟩ := h
    obtain ⟨-, rfl⟩ : first ++ rest = out ∧ m' = s' := by simpa using h
    simp [feed, hstep, ih hrest]

/-- What is written for a list that goes on. -/
theorem run_append (h : T.feed s as = some (out, s')) :
    T.run s (as ++ bs) = (T.run s' bs).map (out ++ ·) := by
  cases hrest : T.feed s' bs with
  | none => simp [run, hrest, feed_append_none h hrest]
  | some result =>
    obtain ⟨more, m⟩ := result
    cases hfinish : T.finish m with
    | none => simp [run, hrest, feed_append h hrest, hfinish]
    | some last => simp [run, hrest, feed_append h hrest, hfinish]

/-- What is read without a trace. -/
theorem run_skip (h : T.feed s as = some ([], s')) : T.run s (as ++ bs) = T.run s' bs := by
  rw [run_append h]
  cases T.run s' bs <;> rfl

end Transducer

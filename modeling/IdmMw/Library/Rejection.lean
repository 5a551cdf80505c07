import IdmMw.Library.Async

/-!
# Programs that fail before their first effect

A program may fail of itself, although every request is answered well. If it then has had an effect
already, it leaves something behind.

* `Good`: the answers that are good; `Effect`: the requests that have an effect;
* `NeverFails Good p`: with good answers, `p` does not fail;
* `FailsFirst Effect Good p`: where it fails with good answers, it has had no effect;
* `FailsLate Effect Good p`: it may fail with good answers after an effect (`failsFirst_iff`).

The rules follow the program: checks, and steps that never fail.
-/

namespace Async

variable {ε R α β : Type} {A : R → Type} (Effect : R → Prop) (Good : Event A → Prop)

/-- With good answers the program does not fail. -/
def NeverFails (p : Async ε A α) : Prop :=
  ∀ t e, p.Runs t (.error e) → ¬ ∀ v ∈ t, Good v

/-- Where the program fails with good answers, it has had no effect. -/
def FailsFirst (p : Async ε A α) : Prop :=
  ∀ t e, p.Runs t (.error e) → (∀ v ∈ t, Good v) → ∀ v ∈ t, ¬ Effect v.req

/-- The program may fail with good answers. -/
def MayFail (p : Async ε A α) : Prop := ∃ t e, p.Runs t (.error e) ∧ ∀ v ∈ t, Good v

/-- The program may fail with good answers after an effect. -/
def FailsLate (p : Async ε A α) : Prop :=
  ∃ t e, p.Runs t (.error e) ∧ (∀ v ∈ t, Good v) ∧ ∃ v ∈ t, Effect v.req

/-- With good answers the program does not end without an effect. -/
def Effective (p : Async ε A α) : Prop :=
  ∀ t a, p.Runs t (.ok a) → (∀ v ∈ t, Good v) → ∃ v ∈ t, Effect v.req

variable {Effect Good} {p : Async ε A α} {f : α → Async ε A β}

theorem failsFirst_iff : FailsFirst Effect Good p ↔ ¬ FailsLate Effect Good p := by
  constructor
  · rintro h ⟨t, e, hrun, ht, v, hv, heffect⟩
    exact h t e hrun ht v hv heffect
  · intro h t e hrun ht v hv heffect
    exact h ⟨t, e, hrun, ht, v, hv, heffect⟩

theorem neverFails_iff : NeverFails Good p ↔ ¬ MayFail Good p := by
  constructor
  · rintro h ⟨t, e, hrun, ht⟩
    exact h t e hrun ht
  · intro h t e hrun ht
    exact h ⟨t, e, hrun, ht⟩

/-! ### Programs that never fail -/

theorem neverFails_pure (a : α) : NeverFails Good (pure a : Async ε A α) := by
  rintro t e ⟨-, h⟩
  cases h

/-- A request whose good answers are no failures. -/
theorem neverFails_request {r : R} {k : A r → Except ε α}
    (h : ∀ a, Good ⟨r, a⟩ → (k a).isOk = true) :
    NeverFails Good (await r fun a => settle (k a)) := by
  intro t e hrun ht
  obtain ⟨a, rfl, hk⟩ := runs_request.1 hrun
  have hok := h a (ht _ List.mem_cons_self)
  rw [← hk] at hok
  cases hok

theorem NeverFails.bind (hp : NeverFails Good p) (hf : ∀ a, NeverFails Good (f a)) :
    NeverFails Good (p >>= f) := by
  intro t e hrun ht
  rcases runs_bind.1 hrun with ⟨e', -, hrun⟩ | ⟨a, t₁, t₂, rfl, -, hrun⟩
  · exact hp t e' hrun ht
  · exact hf a t₂ _ hrun fun v hv => ht v (List.mem_append_right _ hv)

theorem neverFails_check {x : Except ε α} (hx : x.isOk = true)
    (h : ∀ a, x = .ok a → NeverFails Good (f a)) : NeverFails Good (ofExcept x >>= f) := by
  cases x with
  | error e => cases hx
  | ok a => exact h a rfl

/-! ### Programs that fail first -/

theorem NeverFails.failsFirst (h : NeverFails Good p) : FailsFirst Effect Good p :=
  fun t e hrun ht => absurd ht (h t e hrun)

theorem failsFirst_settle (x : Except ε α) :
    FailsFirst Effect Good (settle x : Async ε A α) := by
  rintro t e ⟨rfl, -⟩ - v hv
  cases hv

theorem failsFirst_check {x : Except ε α} (h : ∀ a, x = .ok a → FailsFirst Effect Good (f a)) :
    FailsFirst Effect Good (ofExcept x >>= f) := by
  cases x with
  | error e => exact failsFirst_settle (.error e)
  | ok a => exact h a rfl

/-- A step that never fails, and then nothing does. -/
theorem NeverFails.then_failsFirst (hp : NeverFails Good p) (hf : ∀ a, NeverFails Good (f a)) :
    FailsFirst Effect Good (p >>= f) := (hp.bind hf).failsFirst

/-! ### Programs that fail late -/

theorem mayFail_error {e : ε} : MayFail Good (settle (.error e) : Async ε A α) :=
  ⟨[], e, ⟨rfl, rfl⟩, by simp⟩

theorem mayFail_check {x : Except ε α} {a : α} (hx : x = .ok a) (h : MayFail Good (f a)) :
    MayFail Good (ofExcept x >>= f) := by
  subst hx
  exact h

theorem mayFail_check_error {x : Except ε α} {e : ε} (hx : x = .error e) :
    MayFail Good (ofExcept x >>= f) := by
  subst hx
  exact mayFail_error

section GoodAnswers

variable (hgood : ∀ r, ∃ a, Good ⟨r, a⟩)
include hgood

/-- A program that never fails may be answered well, and then has a result. -/
theorem NeverFails.exists_run (hp : NeverFails Good p) :
    ∃ t a, p.Runs t (.ok a) ∧ ∀ v ∈ t, Good v := by
  obtain ⟨t, x, ht, hrun⟩ := exists_runs hgood p
  cases x with
  | error e => exact absurd ht (hp t e hrun)
  | ok a => exact ⟨t, a, hrun, ht⟩

theorem NeverFails.then_mayFail (hp : NeverFails Good p) (hf : ∀ a, MayFail Good (f a)) :
    MayFail Good (p >>= f) := by
  obtain ⟨t, a, hrun, ht⟩ := hp.exists_run hgood
  obtain ⟨t', e, hrun', ht'⟩ := hf a
  refine ⟨t ++ t', e, runs_bind.2 (Or.inr ⟨a, t, t', rfl, hrun, hrun'⟩), fun v hv => ?_⟩
  rcases List.mem_append.1 hv with hv | hv
  · exact ht v hv
  · exact ht' v hv

/-- After a step with an effect, every failure is late. -/
theorem NeverFails.then_failsLate (hp : NeverFails Good p) (heffect : Effective Effect Good p)
    (hf : ∀ a, MayFail Good (f a)) : FailsLate Effect Good (p >>= f) := by
  obtain ⟨t, a, hrun, ht⟩ := hp.exists_run hgood
  obtain ⟨t', e, hrun', ht'⟩ := hf a
  obtain ⟨v, hv, hv'⟩ := heffect t a hrun ht
  refine ⟨t ++ t', e, runs_bind.2 (Or.inr ⟨a, t, t', rfl, hrun, hrun'⟩), fun v hv => ?_, v,
    List.mem_append_left _ hv, hv'⟩
  rcases List.mem_append.1 hv with hv | hv
  · exact ht v hv
  · exact ht' v hv

end GoodAnswers

theorem failsLate_check {x : Except ε α} {a : α} (hx : x = .ok a)
    (h : FailsLate Effect Good (f a)) : FailsLate Effect Good (ofExcept x >>= f) := by
  subst hx
  exact h

/-- A request that is an effect. -/
theorem effective_request {r : R} (h : Effect r) {k : A r → Except ε α} :
    Effective Effect Good (await r fun a => settle (k a)) := by
  intro t a hrun _
  obtain ⟨b, rfl, -⟩ := runs_request.1 hrun
  exact ⟨_, List.mem_cons_self, h⟩

theorem Effective.bind (hp : Effective Effect Good p) : Effective Effect Good (p >>= f) := by
  intro t b hrun ht
  rcases runs_bind.1 hrun with ⟨e, h, -⟩ | ⟨a, t₁, t₂, rfl, hrun, -⟩
  · cases h
  · obtain ⟨v, hv, heffect⟩ := hp t₁ a hrun fun v hv => ht v (List.mem_append_left _ hv)
    exact ⟨v, List.mem_append_left _ hv, heffect⟩

end Async

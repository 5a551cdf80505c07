import IdmMw.Library.Async

/-!
# Programs and the kind of their errors

A kind of errors, `E`; the answers that are expected, `Expected`.

* `Spares E x`: the result is not an error of the kind;
* `SparesRuns E Expected p`: no run with expected answers ends with such an error;
* `FailsWith E Expected p`: one does (`sparesRuns_iff`).

The rules follow the program: what is put together from parts with no such error has none.
-/

namespace Async

variable {ε R α β : Type} {A : R → Type} (E : ε → Prop) (Expected : Event A → Prop)

/-- The result is not an error of the kind. -/
def Spares (x : Except ε α) : Prop := ∀ e, x = .error e → ¬ E e

/-- With expected answers the program does not end with an error of the kind. -/
def SparesRuns (p : Async ε A α) : Prop :=
  ∀ t x, p.Runs t x → (∀ v ∈ t, Expected v) → Spares E x

/-- With expected answers the program may end with an error of the kind. -/
def FailsWith (p : Async ε A α) : Prop :=
  ∃ t e, p.Runs t (.error e) ∧ (∀ v ∈ t, Expected v) ∧ E e

variable {E Expected}

/-! ### Results -/

section Results

variable {x : Except ε α} {f : α → Except ε β}

theorem spares_ok {a : α} : Spares E (.ok a : Except ε α) := nofun

theorem spares_pure {a : α} : Spares E (pure a : Except ε α) := nofun

theorem spares_error {e : ε} (h : ¬ E e) : Spares E (.error e : Except ε α) := by
  rintro e' heq
  obtain rfl := Except.error.inj heq
  exact h

theorem spares_of_isOk (h : x.isOk = true) : Spares E x := by
  rintro e rfl
  cases h

theorem Spares.bind (hx : Spares E x) (hf : ∀ a, x = .ok a → Spares E (f a)) :
    Spares E (x >>= f) := by
  cases x with
  | error e => exact spares_error (hx e rfl)
  | ok a => exact hf a rfl

theorem spares_mapM {f : α → Except ε β} {as : List α} (hf : ∀ a ∈ as, Spares E (f a)) :
    Spares E (as.mapM f) := by
  induction as with
  | nil => exact spares_ok
  | cons a as ih =>
    rw [List.mapM_cons]
    refine (hf a List.mem_cons_self).bind fun b _ => ?_
    exact (ih fun a' ha' => hf a' (List.mem_cons_of_mem _ ha')).bind fun bs _ => spares_ok

/-- The first item with an error decides. -/
theorem exists_error_of_mapM (f : α → Except ε β) {as : List α} {a : α} (ha : a ∈ as) {e : ε}
    (h : f a = .error e) : ∃ a' ∈ as, ∃ e', f a' = .error e' ∧ as.mapM f = .error e' := by
  induction as with
  | nil => cases ha
  | cons head as ih =>
    rw [List.mapM_cons]
    cases hhead : f head with
    | error e' => exact ⟨head, List.mem_cons_self, e', hhead, rfl⟩
    | ok b =>
      rcases List.mem_cons.1 ha with rfl | ha
      · rw [h] at hhead
        cases hhead
      · obtain ⟨a', ha', e', herror, hrest⟩ := ih ha
        refine ⟨a', List.mem_cons_of_mem _ ha', e', herror, ?_⟩
        rw [hrest]
        rfl

end Results

/-! ### Programs -/

section Programs

variable {p : Async ε A α} {f : α → Async ε A β}

theorem sparesRuns_iff : SparesRuns E Expected p ↔ ¬ FailsWith E Expected p := by
  constructor
  · rintro h ⟨t, e, hrun, ht, he⟩
    exact h t _ hrun ht e rfl he
  · rintro h t x hrun ht e rfl he
    exact h ⟨t, e, hrun, ht, he⟩

theorem sparesRuns_settle {x : Except ε α} (h : Spares E x) :
    SparesRuns E Expected (settle x : Async ε A α) := by
  rintro t y ⟨-, rfl⟩ -
  exact h

theorem sparesRuns_pure {a : α} : SparesRuns E Expected (pure a : Async ε A α) :=
  sparesRuns_settle spares_ok

theorem sparesRuns_throw {e : ε} (h : ¬ E e) : SparesRuns E Expected (throw e : Async ε A α) :=
  sparesRuns_settle (spares_error h)

theorem sparesRuns_request {r : R} {k : A r → Except ε α}
    (h : ∀ a, Expected ⟨r, a⟩ → Spares E (k a)) :
    SparesRuns E Expected (await r fun a => settle (k a)) := by
  intro t x hrun ht
  obtain ⟨a, rfl, rfl⟩ := runs_request.1 hrun
  exact h a (ht _ List.mem_cons_self)

theorem SparesRuns.andThen {f : Except ε α → Async ε A β} (hp : SparesRuns E Expected p)
    (hf : ∀ x, Spares E x → SparesRuns E Expected (f x)) :
    SparesRuns E Expected (p.andThen f) := by
  intro t y hrun ht
  obtain ⟨t₁, t₂, x, rfl, hrun₁, hrun₂⟩ := runs_andThen.1 hrun
  have hx := hp t₁ x hrun₁ fun v hv => ht v (List.mem_append_left _ hv)
  exact hf x hx t₂ y hrun₂ fun v hv => ht v (List.mem_append_right _ hv)

theorem SparesRuns.bind (hp : SparesRuns E Expected p)
    (hf : ∀ a, SparesRuns E Expected (f a)) : SparesRuns E Expected (p >>= f) :=
  hp.andThen fun
    | .ok a, _ => hf a
    | .error e, hx => sparesRuns_settle (spares_error (hx e rfl))

/-- What follows a program may count on how the program came to its result. -/
theorem SparesRuns.bind_of_runs (hp : SparesRuns E Expected p)
    (hf : ∀ t a, p.Runs t (.ok a) → (∀ v ∈ t, Expected v) → SparesRuns E Expected (f a)) :
    SparesRuns E Expected (p >>= f) := by
  intro t y hrun ht
  rcases runs_bind.1 hrun with ⟨e, rfl, hp'⟩ | ⟨a, t₁, t₂, rfl, hp', hf'⟩
  · exact spares_error (hp t _ hp' ht e rfl)
  · refine hf t₁ a hp' (fun v hv => ht v (List.mem_append_left _ hv)) t₂ y hf' ?_
    exact fun v hv => ht v (List.mem_append_right _ hv)

/-- What follows a request may rely on its answer being expected. -/
theorem sparesRuns_request_bind {r : R} {k : A r → Except ε α}
    (h : ∀ a, Expected ⟨r, a⟩ → Spares E (k a))
    (hf : ∀ a, Expected ⟨r, a⟩ → ∀ b, k a = .ok b → SparesRuns E Expected (f b)) :
    SparesRuns E Expected ((await r fun a => settle (k a)) >>= f) := by
  rintro t y ⟨a, t', rfl, hrun⟩ ht
  have ha := ht _ List.mem_cons_self
  have ht' := fun v hv => ht v (List.mem_cons_of_mem _ hv)
  dsimp only [andThen] at hrun
  cases hk : k a with
  | ok b =>
    rw [hk] at hrun
    exact hf a ha b hk t' y hrun ht'
  | error e =>
    rw [hk] at hrun
    obtain ⟨-, rfl⟩ := hrun
    exact spares_error (h a ha e hk)

theorem sparesRuns_check {x : Except ε α} (hx : Spares E x)
    (h : ∀ a, x = .ok a → SparesRuns E Expected (f a)) :
    SparesRuns E Expected (ofExcept x >>= f) := by
  cases x with
  | error e => exact sparesRuns_settle (spares_error (hx e rfl))
  | ok a => exact h a rfl

theorem SparesRuns.tryCatch {h : ε → Async ε A α} (hp : SparesRuns E Expected p)
    (hh : ∀ e, ¬ E e → SparesRuns E Expected (h e)) :
    SparesRuns E Expected (tryCatch p h) :=
  hp.andThen fun
    | .ok _, _ => sparesRuns_settle spares_ok
    | .error e, hx => hh e (hx e rfl)

/-- A program whose outcome is reported has no error at all. -/
theorem sparesRuns_attempt {f : α → β} {g : ε → β} : SparesRuns E Expected
    (tryCatch (p >>= fun a => pure (f a)) fun e => pure (g e)) := by
  intro t y hrun _
  obtain ⟨x, -, rfl⟩ := runs_attempt.1 hrun
  exact spares_ok

/-! ### Programs that fail -/

theorem failsWith_error {e : ε} (h : E e) :
    FailsWith E Expected (settle (.error e) : Async ε A α) :=
  ⟨[], e, ⟨rfl, rfl⟩, by simp, h⟩

theorem failsWith_check {x : Except ε α} {a : α} (hx : x = .ok a)
    (h : FailsWith E Expected (f a)) : FailsWith E Expected (ofExcept x >>= f) := by
  subst hx
  exact h

theorem failsWith_check_error {x : Except ε α} {e : ε} (hx : x = .error e) (h : E e) :
    FailsWith E Expected (ofExcept x >>= f) := by
  subst hx
  exact failsWith_error h

/-- A program may fail after a part that went well. -/
theorem failsWith_bind {t : List (Event A)} {a : α} (hrun : p.Runs t (.ok a))
    (ht : ∀ v ∈ t, Expected v) (h : FailsWith E Expected (f a)) :
    FailsWith E Expected (p >>= f) := by
  obtain ⟨t', e, hrun', ht', he⟩ := h
  refine ⟨t ++ t', e, runs_bind.2 (Or.inr ⟨a, t, t', rfl, hrun, hrun'⟩), fun v hv => ?_, he⟩
  rcases List.mem_append.1 hv with hv | hv
  · exact ht v hv
  · exact ht' v hv

end Programs

end Async

import Mathlib.Tactic

/-!
# Asynchronous programs as trees of requests

A program that talks to the outside (a database, a broker, a clock) only through awaited
requests is a tree: it has either *settled* with a result, or it *awaits* the answer to one
request and goes on according to that answer. The answers to a request `r` form the type `A r`;
a request that may fail has answers `Except ε _`, one that cannot has plain answers.

* `Async ε A α`, with its monad structure and `tryCatch` (a settled error is a rejection);
* `Runs p t x`: answered as in the trace `t`, the program `p` settles with `x`;
* `Follows p t p'`: answered as in `t`, the program `p` is left as `p'`;
* `Monitor` and `wp`: an automaton that watches the requests, and the weakest precondition of a
  program under it, with the rules for sequencing and catching, and what it says about runs;
* `Issues P p`: every request `p` may ever make satisfies `P`.

Nothing here says how requests are answered; an environment is a relation on traces or, for
concurrent programs, on a shared state.
-/

/-- A program over requests `r : R` with answers `A r`: settled, or awaiting an answer. -/
inductive Async (ε : Type) {R : Type} (A : R → Type) (α : Type) : Type
  | settle (x : Except ε α)
  | await (r : R) (k : A r → Async ε A α)

namespace Async

variable {ε R α β : Type} {A : R → Type}

/-- Continue with `f` once `p` has settled, whatever its result. -/
def andThen : Async ε A α → (Except ε α → Async ε A β) → Async ε A β
  | settle x, f => f x
  | await r k, f => await r fun a => (k a).andThen f

/-- Sequencing: a rejection skips the continuation. -/
def bind (p : Async ε A α) (f : α → Async ε A β) : Async ε A β :=
  p.andThen fun
    | .ok a => f a
    | .error e => settle (.error e)

/-- Handle a rejection. -/
def orElse (p : Async ε A α) (h : ε → Async ε A α) : Async ε A α :=
  p.andThen fun
    | .ok a => settle (.ok a)
    | .error e => h e

instance : Monad (Async ε A) where
  pure a := settle (.ok a)
  bind := bind

instance : MonadExceptOf ε (Async ε A) where
  throw e := settle (.error e)
  tryCatch := orElse

/-- A result already at hand. -/
def ofExcept (x : Except ε α) : Async ε A α := settle x

/-- A sequence of results succeeds if both do. -/
theorem bind_eq_ok {x : Except ε α} {f : α → Except ε β} {b : β} :
    x >>= f = .ok b ↔ ∃ a, x = .ok a ∧ f a = .ok b := by
  cases x with
  | error e => simp [Bind.bind, Except.bind]
  | ok a => simp [Bind.bind, Except.bind]

/-- A sequence of results fails if one does. -/
theorem bind_eq_error {x : Except ε α} {f : α → Except ε β} {e : ε} :
    x >>= f = .error e ↔ x = .error e ∨ ∃ a, x = .ok a ∧ f a = .error e := by
  cases x with
  | error e' => simp [Bind.bind, Except.bind]
  | ok a => simp [Bind.bind, Except.bind]

theorem map_eq_ok {x : Except ε α} {f : α → β} {b : β} :
    x.map f = .ok b ↔ ∃ a, x = .ok a ∧ f a = b := by
  cases x <;> simp [Except.map]

theorem mapError_eq_ok {ε' : Type} {x : Except ε α} {f : ε → ε'} {a : α} :
    x.mapError f = .ok a ↔ x = .ok a := by
  cases x <;> simp [Except.mapError]

/-- What is made of an outcome. -/
def reported (f : α → β) (g : ε → β) : Except ε α → β
  | .ok a => f a
  | .error e => g e

/-- What a list of results comes from. -/
theorem mem_of_mapM {f : α → Except ε β} {as : List α} {bs : List β} (h : as.mapM f = .ok bs) :
    ∀ b ∈ bs, ∃ a ∈ as, f a = .ok b := by
  induction as generalizing bs with
  | nil =>
    obtain rfl := Except.ok.inj h
    simp
  | cons a as ih =>
    rw [List.mapM_cons] at h
    obtain ⟨first, hfirst, h⟩ := bind_eq_ok.1 h
    obtain ⟨rest, hrest, h⟩ := bind_eq_ok.1 h
    obtain rfl := Except.ok.inj h
    intro b hb
    rcases List.mem_cons.1 hb with rfl | hb
    · exact ⟨a, List.mem_cons_self, hfirst⟩
    · obtain ⟨a', ha', hf⟩ := ih hrest b hb
      exact ⟨a', List.mem_cons_of_mem _ ha', hf⟩

/-- Each result comes from the item in its place. -/
theorem forall₂_of_mapM {f : α → Except ε β} {as : List α} {bs : List β}
    (h : as.mapM f = .ok bs) : List.Forall₂ (fun a b => f a = .ok b) as bs := by
  induction as generalizing bs with
  | nil =>
    obtain rfl := Except.ok.inj h
    exact .nil
  | cons a as ih =>
    rw [List.mapM_cons] at h
    obtain ⟨b, hb, h⟩ := bind_eq_ok.1 h
    obtain ⟨bs', hbs, h⟩ := bind_eq_ok.1 h
    obtain rfl := Except.ok.inj h
    exact .cons hb (ih hbs)

/-- Where a list of checks passes, each does. -/
theorem forall_of_mapM {f : α → Except ε β} {as : List α} {bs : List β} {P : α → Prop}
    (h : as.mapM f = .ok bs) (hP : ∀ a b, f a = .ok b → P a) : ∀ a ∈ as, P a := by
  induction as generalizing bs with
  | nil => simp
  | cons a as ih =>
    rw [List.mapM_cons] at h
    obtain ⟨first, hfirst, h⟩ := bind_eq_ok.1 h
    obtain ⟨rest, hrest, -⟩ := bind_eq_ok.1 h
    intro a' ha'
    rcases List.mem_cons.1 ha' with rfl | ha'
    · exact hP _ _ hfirst
    · exact ih hrest a' ha'

theorem exists_of_isOk {x : Except ε α} (h : x.isOk = true) : ∃ a, x = .ok a := by
  cases x with
  | error e => cases h
  | ok a => exact ⟨a, rfl⟩

/-- A request together with the answer it got. -/
structure Event (A : R → Type) where
  req : R
  ans : A req

/-! ### Runs -/

/-- `Runs p t x`: with the answers of `t`, the program `p` settles with `x`. -/
def Runs : Async ε A α → List (Event A) → Except ε α → Prop
  | settle y, t, x => t = [] ∧ x = y
  | await r k, t, x => ∃ a t', t = ⟨r, a⟩ :: t' ∧ (k a).Runs t' x

/-- `Follows p t p'`: with the answers of `t`, the program `p` is left as `p'`. -/
def Follows : Async ε A α → List (Event A) → Async ε A α → Prop
  | p, [], p' => p' = p
  | settle _, _ :: _, _ => False
  | await r k, e :: t, p' => ∃ a, e = ⟨r, a⟩ ∧ (k a).Follows t p'

section Runs

variable {p : Async ε A α} {t : List (Event A)} {x : Except ε α}

/-- A single request. -/
theorem runs_request {r : R} {k : A r → Except ε α} :
    (await r fun a => settle (k a) : Async ε A α).Runs t x ↔ ∃ a, t = [⟨r, a⟩] ∧ x = k a := by
  constructor
  · rintro ⟨a, _, rfl, rfl, rfl⟩
    exact ⟨a, rfl, rfl⟩
  · rintro ⟨a, rfl, rfl⟩
    exact ⟨a, [], rfl, rfl, rfl⟩

/-- A run of a sequence is a run of its first part followed by a run of the second. -/
theorem runs_andThen {f : Except ε α → Async ε A β} {y : Except ε β} :
    (p.andThen f).Runs t y ↔ ∃ t₁ t₂ x, t = t₁ ++ t₂ ∧ p.Runs t₁ x ∧ (f x).Runs t₂ y := by
  induction p generalizing t with
  | settle z =>
    constructor
    · intro h
      exact ⟨[], t, z, rfl, ⟨rfl, rfl⟩, h⟩
    · rintro ⟨t₁, t₂, x, rfl, ⟨rfl, rfl⟩, h⟩
      exact h
  | await r k ih =>
    constructor
    · rintro ⟨a, t', rfl, h⟩
      obtain ⟨t₁, t₂, x, rfl, h₁, h₂⟩ := (ih a).1 h
      exact ⟨⟨r, a⟩ :: t₁, t₂, x, rfl, ⟨a, t₁, rfl, h₁⟩, h₂⟩
    · rintro ⟨_, t₂, x, rfl, ⟨a, t₁, rfl, h₁⟩, h₂⟩
      exact ⟨a, t₁ ++ t₂, rfl, (ih a).2 ⟨t₁, t₂, x, rfl, h₁, h₂⟩⟩

theorem runs_bind {f : α → Async ε A β} {y : Except ε β} :
    (p >>= f).Runs t y ↔
      (∃ e, y = .error e ∧ p.Runs t (.error e)) ∨
      (∃ a t₁ t₂, t = t₁ ++ t₂ ∧ p.Runs t₁ (.ok a) ∧ (f a).Runs t₂ y) := by
  show (p.andThen _).Runs t y ↔ _
  rw [runs_andThen]
  constructor
  · rintro ⟨t₁, t₂, x, rfl, h₁, h₂⟩
    cases x with
    | error e =>
      obtain ⟨rfl, rfl⟩ := h₂
      exact Or.inl ⟨e, rfl, by simpa using h₁⟩
    | ok a => exact Or.inr ⟨a, t₁, t₂, rfl, h₁, h₂⟩
  · rintro (⟨e, rfl, h⟩ | ⟨a, t₁, t₂, rfl, h₁, h₂⟩)
    · exact ⟨t, [], .error e, by simp, h, rfl, rfl⟩
    · exact ⟨t₁, t₂, .ok a, rfl, h₁, h₂⟩

/-- A sequence succeeds if both parts do. -/
theorem runs_bind_ok {f : α → Async ε A β} {b : β} :
    (p >>= f).Runs t (.ok b) ↔
      ∃ a t₁ t₂, t = t₁ ++ t₂ ∧ p.Runs t₁ (.ok a) ∧ (f a).Runs t₂ (.ok b) := by
  rw [runs_bind]
  refine or_iff_right ?_
  rintro ⟨e, he, -⟩
  cases he

/-- A result at hand, and the rest. -/
theorem runs_check_ok {y : Except ε α} {f : α → Async ε A β} {b : β} :
    (ofExcept y >>= f).Runs t (.ok b) ↔ ∃ a, y = .ok a ∧ (f a).Runs t (.ok b) := by
  cases y with
  | error e =>
    constructor
    · rintro ⟨-, ⟨⟩⟩
    · rintro ⟨a, ⟨⟩, -⟩
  | ok a =>
    constructor
    · exact fun h => ⟨a, rfl, h⟩
    · rintro ⟨_, ⟨⟩, h⟩
      exact h

theorem runs_tryCatch {h : ε → Async ε A α} :
    (tryCatch p h).Runs t x ↔
      (∃ a, x = .ok a ∧ p.Runs t (.ok a)) ∨
      (∃ e t₁ t₂, t = t₁ ++ t₂ ∧ p.Runs t₁ (.error e) ∧ (h e).Runs t₂ x) := by
  show (p.andThen _).Runs t x ↔ _
  rw [runs_andThen]
  constructor
  · rintro ⟨t₁, t₂, z, rfl, h₁, h₂⟩
    cases z with
    | ok a =>
      obtain ⟨rfl, rfl⟩ := h₂
      exact Or.inl ⟨a, rfl, by simpa using h₁⟩
    | error e => exact Or.inr ⟨e, t₁, t₂, rfl, h₁, h₂⟩
  · rintro (⟨a, rfl, h⟩ | ⟨e, t₁, t₂, rfl, h₁, h₂⟩)
    · exact ⟨t, [], .ok a, by simp, h, rfl, rfl⟩
    · exact ⟨t₁, t₂, .error e, rfl, h₁, h₂⟩

/-- Of two runs whose answers begin alike, one is the other. -/
theorem Runs.prefix_unique {t' s s' : List (Event A)} {x' : Except ε α} (h : p.Runs t x)
    (h' : p.Runs t' x') (heq : t ++ s = t' ++ s') : t = t' ∧ x = x' := by
  induction p generalizing t t' with
  | settle y =>
    obtain ⟨rfl, rfl⟩ := h
    obtain ⟨rfl, rfl⟩ := h'
    exact ⟨rfl, rfl⟩
  | await r k ih =>
    obtain ⟨a, t, rfl, h⟩ := h
    obtain ⟨a', t', rfl, h'⟩ := h'
    obtain ⟨hevent, htail⟩ := List.cons.inj heq
    obtain rfl : a = a' := by simpa using hevent
    obtain ⟨rfl, rfl⟩ := ih a h h' htail
    exact ⟨rfl, rfl⟩

/-- What is made of a result. -/
theorem runs_map_ok {f : α → β} {b : β} :
    (f <$> p).Runs t (.ok b) ↔ ∃ a, f a = b ∧ p.Runs t (.ok a) := by
  show (p >>= fun a => Pure.pure (f a)).Runs t (.ok b) ↔ _
  rw [runs_bind]
  constructor
  · rintro (⟨e, he, -⟩ | ⟨a, t₁, t₂, rfl, h, rfl, hb⟩)
    · cases he
    · exact ⟨a, (Except.ok.inj hb).symm, by simpa using h⟩
  · rintro ⟨a, rfl, h⟩
    exact Or.inr ⟨a, t, [], by simp, h, rfl, rfl⟩

/-- A program whose outcome is reported: it never fails. -/
theorem runs_attempt {f : α → β} {g : ε → β} {y : Except ε β} :
    (tryCatch (p >>= fun a => pure (f a)) fun e => pure (g e)).Runs t y ↔
      ∃ x, p.Runs t x ∧ y = .ok (reported f g x) := by
  rw [runs_tryCatch]
  simp only [runs_bind]
  constructor
  · rintro (⟨b, rfl, ⟨e, h, -⟩ | ⟨a, t₁, t₂, rfl, hrun, rfl, h⟩⟩ |
      ⟨e, t₁, t₂, rfl, ⟨e', h, hrun⟩ | ⟨_, _, _, -, -, -, h⟩, rfl, rfl⟩)
    · cases h
    · obtain rfl := Except.ok.inj h
      exact ⟨.ok a, by simpa using hrun, rfl⟩
    · obtain rfl := Except.error.inj h
      exact ⟨.error e, by simpa using hrun, rfl⟩
    · cases h
  · rintro ⟨x, hrun, rfl⟩
    cases x with
    | ok a => exact Or.inl ⟨_, rfl, Or.inr ⟨a, t, [], by simp, hrun, rfl, rfl⟩⟩
    | error e => exact Or.inr ⟨e, t, [], by simp, Or.inl ⟨e, rfl, hrun⟩, rfl, rfl⟩

end Runs

/-- A complete run follows the program up to its settled form. -/
theorem follows_settle {p : Async ε A α} {t : List (Event A)} {x : Except ε α} :
    p.Follows t (settle x) ↔ p.Runs t x := by
  induction t generalizing p with
  | nil =>
    cases p with
    | settle y => simp [Follows, Runs]
    | await r k => simp [Follows, Runs]
  | cons e t ih =>
    cases p with
    | settle y => simp [Follows, Runs]
    | await r k =>
      constructor
      · rintro ⟨a, rfl, h⟩
        exact ⟨a, t, rfl, ih.1 h⟩
      · rintro ⟨a, t', h, hr⟩
        obtain ⟨rfl, rfl⟩ := List.cons.inj h
        exact ⟨a, rfl, ih.2 hr⟩

theorem Follows.snoc {p : Async ε A α} {t : List (Event A)} {r : R} {k : A r → Async ε A α}
    (h : p.Follows t (await r k)) (a : A r) : p.Follows (t ++ [⟨r, a⟩]) (k a) := by
  induction t generalizing p with
  | nil =>
    obtain rfl : p = await r k := by cases p <;> exact h.symm
    exact ⟨a, rfl, by cases k a <;> rfl⟩
  | cons e t ih =>
    cases p with
    | settle y => exact h.elim
    | await r' k' =>
      obtain ⟨b, rfl, h⟩ := h
      exact ⟨b, rfl, ih h⟩

/-! ### Which requests a program makes -/

/-- Every request `p` may make, whatever the answers, satisfies `P`. -/
def Issues (P : R → Prop) : Async ε A α → Prop
  | settle _ => True
  | await r k => P r ∧ ∀ a, (k a).Issues P

section Issues

variable {P P' : R → Prop} {p : Async ε A α}

theorem issues_settle {x : Except ε α} : (settle x : Async ε A α).Issues P := trivial

theorem issues_pure {a : α} : (pure a : Async ε A α).Issues P := trivial

theorem issues_throw {e : ε} : (throw e : Async ε A α).Issues P := trivial

theorem issues_ofExcept {x : Except ε α} : (ofExcept x : Async ε A α).Issues P := trivial

theorem Issues.mono (h : p.Issues P) (hP : ∀ r, P r → P' r) : p.Issues P' := by
  induction p with
  | settle x => trivial
  | await r k ih => exact ⟨hP r h.1, fun a => ih a (h.2 a)⟩

theorem Issues.and (h : p.Issues P) (h' : p.Issues P') : p.Issues fun r => P r ∧ P' r := by
  induction p with
  | settle x => trivial
  | await r k ih => exact ⟨⟨h.1, h'.1⟩, fun a => ih a (h.2 a) (h'.2 a)⟩

theorem Issues.andThen {f : Except ε α → Async ε A β} (h : p.Issues P)
    (hf : ∀ x, (f x).Issues P) : (p.andThen f).Issues P := by
  induction p with
  | settle x => exact hf x
  | await r k ih => exact ⟨h.1, fun a => ih a (h.2 a)⟩

theorem Issues.bind {f : α → Async ε A β} (h : p.Issues P) (hf : ∀ a, (f a).Issues P) :
    (p >>= f).Issues P :=
  Issues.andThen h fun
    | .ok a => hf a
    | .error _ => trivial

theorem issues_ite {c : Prop} [Decidable c] {p' : Async ε A α} (h : p.Issues P)
    (h' : p'.Issues P) : (if c then p else p').Issues P := by
  split
  · exact h
  · exact h'

/-- What does not depend on the request holds if there may be one. -/
theorem issues_imp_iff {q : Prop} :
    (p.Issues fun r => P r → q) ↔ (¬ (p.Issues fun r => ¬ P r) → q) := by
  constructor
  · intro h hsend
    by_contra hq
    exact hsend (h.mono fun r hr hP => hq (hr hP))
  · intro h
    by_cases hq : q
    · induction p with
      | settle x => exact issues_settle
      | await r k ih => exact ⟨fun _ => hq, fun a => ih a fun _ => hq⟩
    · exact (not_not.1 (mt h hq)).mono fun r hr hP => absurd hP hr

/-- What follows a program may count on how the program came to its result. -/
theorem Issues.bind_of_runs {f : α → Async ε A β} (h : p.Issues P)
    (hf : ∀ t a, p.Runs t (.ok a) → (f a).Issues P) : (p >>= f).Issues P := by
  induction p with
  | settle x =>
    cases x with
    | error e => exact issues_settle
    | ok a => exact hf [] a ⟨rfl, rfl⟩
  | await r k ih =>
    refine ⟨h.1, fun a => ih a (h.2 a) fun t b hrun => ?_⟩
    exact hf (⟨r, a⟩ :: t) b ⟨a, t, rfl, hrun⟩

/-- A sequence makes the requests of its first part, and those of the second after every result that
the first may have. -/
theorem issues_bind_iff {f : α → Async ε A β} :
    (p >>= f).Issues P ↔ p.Issues P ∧ ∀ t a, p.Runs t (.ok a) → (f a).Issues P := by
  constructor
  · intro h
    induction p with
    | settle x =>
      refine ⟨issues_settle, ?_⟩
      rintro t a ⟨rfl, rfl⟩
      exact h
    | await r k ih =>
      refine ⟨⟨h.1, fun a => (ih a (h.2 a)).1⟩, ?_⟩
      rintro _ b ⟨a, t, rfl, hrun⟩
      exact (ih a (h.2 a)).2 t b hrun
  · rintro ⟨h, hf⟩
    exact h.bind_of_runs hf

theorem issues_map {f : α → β} : (f <$> p).Issues P ↔ p.Issues P :=
  issues_bind_iff.trans (and_iff_left fun _ _ _ => issues_pure)

/-- A result at hand, and the rest. -/
theorem issues_check {x : Except ε α} {f : α → Async ε A β}
    (h : ∀ a, x = .ok a → (f a).Issues P) : (ofExcept x >>= f).Issues P := by
  cases x with
  | error e => exact issues_settle
  | ok a => exact h a rfl

theorem Issues.tryCatch {f : ε → Async ε A α} (h : p.Issues P) (hf : ∀ e, (f e).Issues P) :
    (tryCatch p f).Issues P :=
  Issues.andThen h fun
    | .ok _ => trivial
    | .error e => hf e

theorem issues_tryCatch_pure {f : ε → α} :
    (tryCatch p fun e => pure (f e)).Issues P ↔ p.Issues P := by
  constructor
  · intro h
    induction p with
    | settle x => exact issues_settle
    | await r k ih => exact ⟨h.1, fun a => ih a (h.2 a)⟩
  · exact fun h => h.tryCatch fun _ => issues_pure

theorem Issues.of_follows {t : List (Event A)} {p' : Async ε A α} (h : p.Issues P)
    (hf : p.Follows t p') : ∀ e ∈ t, P e.req := by
  induction t generalizing p with
  | nil => simp
  | cons v t ih =>
    cases p with
    | settle y => exact hf.elim
    | await r k =>
      obtain ⟨a, rfl, hf⟩ := hf
      intro e he
      rcases List.mem_cons.1 he with rfl | he
      · exact h.1
      · exact ih (h.2 a) hf e he

theorem Issues.of_runs {t : List (Event A)} {x : Except ε α} (h : p.Issues P) (hr : p.Runs t x) :
    ∀ e ∈ t, P e.req := h.of_follows (follows_settle.2 hr)

end Issues

/-! ### Monitors -/

/-- An automaton that watches a program: the requests allowed in a state, and the states it may
go to when a request is answered (several, where the surroundings may interfere). -/
structure Monitor (σ : Type) {R : Type} (A : R → Type) where
  ok : σ → R → Prop
  next : σ → (r : R) → A r → σ → Prop

variable {σ : Type}

/-- The weakest precondition of `p` under the monitor `M`: from `s` every request made is allowed,
and `Q` holds of the state and the result when `p` settles. -/
def wp (M : Monitor σ A) : Async ε A α → (σ → Except ε α → Prop) → σ → Prop
  | settle x, Q, s => Q s x
  | await r k, Q, s => M.ok s r ∧ ∀ a s', M.next s r a s' → (k a).wp M Q s'

section Wp

variable {M : Monitor σ A} {p : Async ε A α} {Q Q' : σ → Except ε α → Prop} {s : σ}

theorem wp_settle {x : Except ε α} : (settle x : Async ε A α).wp M Q s ↔ Q s x := Iff.rfl

theorem wp_await {r : R} {k : A r → Async ε A α} :
    (await r k).wp M Q s ↔ M.ok s r ∧ ∀ a s', M.next s r a s' → (k a).wp M Q s' := Iff.rfl

theorem wp_pure {a : α} : (pure a : Async ε A α).wp M Q s ↔ Q s (.ok a) := Iff.rfl

theorem wp_ofExcept {x : Except ε α} : (ofExcept x : Async ε A α).wp M Q s ↔ Q s x := Iff.rfl

theorem wp_mono (h : p.wp M Q s) (hQ : ∀ s x, Q s x → Q' s x) : p.wp M Q' s := by
  induction p generalizing s with
  | settle x => exact hQ s x h
  | await r k ih => exact ⟨h.1, fun a s' hn => ih a (h.2 a s' hn)⟩

theorem wp_andThen {f : Except ε α → Async ε A β} {Q : σ → Except ε β → Prop} :
    (p.andThen f).wp M Q s ↔ p.wp M (fun s x => (f x).wp M Q s) s := by
  induction p generalizing s with
  | settle x => rfl
  | await r k ih =>
    show (M.ok s r ∧ ∀ a s', _ → _) ↔ (M.ok s r ∧ ∀ a s', _ → _)
    simp only [ih]

/-- The rule of sequencing. -/
theorem wp_bind {f : α → Async ε A β} {Q : σ → Except ε β → Prop} :
    (p >>= f).wp M Q s ↔
      p.wp M (fun s x => match x with
        | .ok a => (f a).wp M Q s
        | .error e => Q s (.error e)) s := by
  refine wp_andThen.trans (iff_of_eq (congrArg (p.wp M · s) ?_))
  funext s x
  cases x <;> rfl

/-- The rule of catching. -/
theorem wp_tryCatch {f : ε → Async ε A α} :
    (tryCatch p f).wp M Q s ↔
      p.wp M (fun s x => match x with
        | .ok a => Q s (.ok a)
        | .error e => (f e).wp M Q s) s := by
  refine wp_andThen.trans (iff_of_eq (congrArg (p.wp M · s) ?_))
  funext s x
  cases x <;> rfl

/-- Watching the answered requests, the monitor goes from the first state to the second. -/
def Monitor.Leads (M : Monitor σ A) : σ → List (Event A) → σ → Prop
  | s, [], s' => s' = s
  | s, e :: t, s' => ∃ m, M.next s e.req e.ans m ∧ M.Leads m t s'

/-- A run of the program under the monitor ends as the weakest precondition says. -/
theorem wp_runs {t : List (Event A)} {x : Except ε α} {s' : σ} (h : p.wp M Q s)
    (hr : p.Runs t x) (hl : M.Leads s t s') : Q s' x := by
  induction p generalizing s t with
  | settle y =>
    obtain ⟨rfl, rfl⟩ := hr
    obtain rfl := hl
    exact h
  | await r k ih =>
    obtain ⟨a, t', rfl, hr⟩ := hr
    obtain ⟨m, hn, hl⟩ := hl
    exact ih a (h.2 a m hn) hr hl

/-- Every request of a run is allowed when it is made. -/
theorem wp_allows {t₁ t₂ : List (Event A)} {e : Event A} {x : Except ε α} {s' : σ}
    (h : p.wp M Q s) (hr : p.Runs (t₁ ++ e :: t₂) x) (hl : M.Leads s t₁ s') : M.ok s' e.req := by
  induction t₁ generalizing p s with
  | nil =>
    obtain rfl := hl
    cases p with
    | settle y => cases hr.1
    | await r k =>
      obtain ⟨a, t', ht, -⟩ := hr
      cases ht
      exact h.1
  | cons v t₁ ih =>
    cases p with
    | settle y => cases hr.1
    | await r k =>
      obtain ⟨a, t', ht, hr⟩ := hr
      cases ht
      obtain ⟨m, hn, hl⟩ := hl
      exact ih (h.2 a m hn) hr hl

/-- The monitor that computes `f` along the answered requests. -/
def Monitor.fold (f : σ → Event A → σ) : Monitor σ A where
  ok _ _ := True
  next s r a s' := s' = f s ⟨r, a⟩

/-- Under such a monitor the weakest precondition speaks of the runs of the program. -/
theorem wp_fold {f : σ → Event A → σ} :
    p.wp (.fold f) Q s ↔ ∀ t x, p.Runs t x → Q (t.foldl f s) x := by
  induction p generalizing s with
  | settle y =>
    constructor
    · rintro h t x ⟨rfl, rfl⟩
      exact h
    · intro h
      exact h [] y ⟨rfl, rfl⟩
  | await r k ih =>
    constructor
    · rintro ⟨-, h⟩ _ x ⟨a, t, rfl, hr⟩
      exact (ih a).1 (h a _ rfl) t x hr
    · intro h
      refine ⟨trivial, ?_⟩
      rintro a _ rfl
      exact (ih a).2 fun t x hr => h (⟨r, a⟩ :: t) x ⟨a, t, rfl, hr⟩

/-- The monitor that knows what the requests are answered with. -/
def Monitor.answering (P : Event A → Prop) : Monitor Unit A where
  ok _ _ := True
  next _ r a _ := P ⟨r, a⟩

/-- Under such a monitor the weakest precondition speaks of the runs with these answers. -/
theorem wp_answering {P : Event A → Prop} {Q : Unit → Except ε α → Prop} :
    p.wp (.answering P) Q () ↔ ∀ t x, (∀ e ∈ t, P e) → p.Runs t x → Q () x := by
  induction p with
  | settle y =>
    constructor
    · rintro h t x - ⟨rfl, rfl⟩
      exact h
    · intro h
      exact h [] y (by simp) ⟨rfl, rfl⟩
  | await r k ih =>
    constructor
    · rintro ⟨-, h⟩ _ x hP ⟨a, t, rfl, hr⟩
      exact (ih a).1 (h a () (hP _ List.mem_cons_self)) t x
        (fun e he => hP e (List.mem_cons_of_mem _ he)) hr
    · intro h
      refine ⟨trivial, fun a _ ha => (ih a).2 fun t x hP hr => ?_⟩
      refine h (⟨r, a⟩ :: t) x (fun e he => ?_) ⟨a, t, rfl, hr⟩
      rcases List.mem_cons.1 he with rfl | he
      · exact ha
      · exact hP e he

/-- Where every request can be answered, a program has a run. -/
theorem exists_runs {P : Event A → Prop} (h : ∀ r, ∃ a, P ⟨r, a⟩) (p : Async ε A α) :
    ∃ t x, (∀ e ∈ t, P e) ∧ p.Runs t x := by
  induction p with
  | settle y => exact ⟨[], y, by simp, rfl, rfl⟩
  | await r k ih =>
    obtain ⟨a, ha⟩ := h r
    obtain ⟨t, x, ht, hr⟩ := ih a
    refine ⟨⟨r, a⟩ :: t, x, fun e he => ?_, a, t, rfl, hr⟩
    rcases List.mem_cons.1 he with rfl | he
    · exact ha
    · exact ht e he

/-- A program that only makes requests which keep `I` keeps `I`. -/
theorem Issues.wp {P : R → Prop} {I : σ → Prop} (h : p.Issues P)
    (hI : ∀ s r, I s → P r → M.ok s r ∧ ∀ a s', M.next s r a s' → I s') (hs : I s) :
    p.wp M (fun s _ => I s) s := by
  induction p generalizing s with
  | settle x => exact hs
  | await r k ih =>
    obtain ⟨hok, hnext⟩ := hI s r hs h.1
    exact ⟨hok, fun a s' hn => ih a (h.2 a) (hnext a s' hn)⟩

end Wp

end Async

import IdmMw.Library.Async

/-!
# Interleavings of asynchronous programs

A *pool* runs any number of asynchronous programs over one shared state. In one step either a
program gets the answer to the request it awaits (and the shared state changes with it), or a
program starts in a free slot, or the surroundings move by themselves. A request and its answer
are thus one atomic step, and everything else may happen between two requests of a program.

* `System`: how requests are answered, what may start, how the surroundings move;
* `Step`, `Exec`: one step, and a finite execution with the history of its steps;
* `Exec.invariant`: what every step keeps, an execution keeps;
* `Watched`: every program of the pool stays under its monitor, if the monitor's state is coupled
  to the shared state in a way that the steps of the others respect (`Coupling`);
* `Guarded`: the same together with an invariant of the shared state that the monitored steps keep.
-/

open Async

variable {ι σ ε R α τ : Type} {A : R → Type}

/-- How a pool moves. -/
structure System (ι σ ε : Type) {R : Type} (A : R → Type) (α : Type) where
  /-- in state `s` the request `r` of slot `i` may be answered `a`, leaving the second state -/
  env : ι → σ → (r : R) → A r → σ → Prop
  /-- in state `s` the program `p` may start in slot `i` -/
  start : ι → σ → Async ε A α → σ → Prop
  /-- moves of the surroundings -/
  tick : σ → σ → Prop

/-- A shared state and the programs running over it (`none`: a free slot). -/
structure Pool (ι σ ε : Type) {R : Type} (A : R → Type) (α : Type) where
  shared : σ
  thread : ι → Option (Async ε A α)

/-- What happened in a step. -/
inductive Label (ι : Type) {R : Type} (A : R → Type)
  | call (i : ι) (e : Event A)
  | start (i : ι)
  | tick

/-- A step of an execution, with the pools before and after it. -/
structure Entry (ι σ ε : Type) {R : Type} (A : R → Type) (α : Type) where
  before : Pool ι σ ε A α
  label : Label ι A
  after : Pool ι σ ε A α

/-- The pool with nothing running. -/
def Pool.idle (s : σ) : Pool ι σ ε A α := ⟨s, fun _ => none⟩

namespace System

variable [DecidableEq ι] {S : System ι σ ε A α}

/-- One step of the pool. -/
inductive Step (S : System ι σ ε A α) : Pool ι σ ε A α → Label ι A → Pool ι σ ε A α → Prop
  | call {s : Pool ι σ ε A α} {i : ι} {r : R} {k : A r → Async ε A α} {a : A r} {s' : σ}
      (hi : s.thread i = some (await r k)) (henv : S.env i s.shared r a s') :
      Step S s (.call i ⟨r, a⟩) ⟨s', Function.update s.thread i (some (k a))⟩
  | start {s : Pool ι σ ε A α} {i : ι} {p : Async ε A α} {s' : σ}
      (hi : s.thread i = none) (hp : S.start i s.shared p s') :
      Step S s (.start i) ⟨s', Function.update s.thread i (some p)⟩
  | tick {s : Pool ι σ ε A α} {s' : σ} (ht : S.tick s.shared s') :
      Step S s .tick ⟨s', s.thread⟩

/-- A finite execution, with its history. -/
inductive Exec (S : System ι σ ε A α) :
    Pool ι σ ε A α → List (Entry ι σ ε A α) → Pool ι σ ε A α → Prop
  | nil (s : Pool ι σ ε A α) : Exec S s [] s
  | snoc {s m s' : Pool ι σ ε A α} {es : List (Entry ι σ ε A α)} {l : Label ι A} :
      Exec S s es m → Step S m l s' → Exec S s (es ++ [⟨m, l, s'⟩]) s'

variable {s m s' : Pool ι σ ε A α} {es es₁ es₂ : List (Entry ι σ ε A α)}
  {e : Entry ι σ ε A α} {l : Label ι A}

theorem Step.call_inv {i : ι} {v : Event A} (h : S.Step s (.call i v) s') :
    ∃ k, s.thread i = some (await v.req k) ∧ S.env i s.shared v.req v.ans s'.shared ∧
      s'.thread = Function.update s.thread i (some (k v.ans)) := by
  cases h with
  | call hi henv => exact ⟨_, hi, henv, rfl⟩

theorem Exec.trans (h₁ : S.Exec s es₁ m) (h₂ : S.Exec m es₂ s') : S.Exec s (es₁ ++ es₂) s' := by
  induction h₂ with
  | nil => simpa using h₁
  | snoc _ hstep ih => rw [← List.append_assoc]; exact ih.snoc hstep

theorem exec_nil_iff : S.Exec s [] s' ↔ s' = s := by
  constructor
  · intro h
    generalize hes : ([] : List (Entry ι σ ε A α)) = es at h
    cases h with
    | nil => rfl
    | snoc _ _ => simp at hes
  · rintro rfl
    exact .nil _

theorem exec_snoc_iff : S.Exec s (es ++ [e]) s' ↔
    S.Exec s es e.before ∧ S.Step e.before e.label e.after ∧ e.after = s' := by
  constructor
  · intro h
    generalize hes : es ++ [e] = es' at h
    cases h with
    | nil => simp at hes
    | snoc h hstep =>
      obtain ⟨rfl, he⟩ := List.append_inj' hes rfl
      obtain rfl := List.singleton_injective he
      exact ⟨h, hstep, rfl⟩
  · rintro ⟨h, hstep, rfl⟩
    exact h.snoc hstep

/-- An execution splits where its history splits. -/
theorem exec_append_iff : S.Exec s (es₁ ++ es₂) s' ↔ ∃ m, S.Exec s es₁ m ∧ S.Exec m es₂ s' := by
  constructor
  · intro h
    induction es₂ using List.reverseRecOn generalizing s' with
    | nil => exact ⟨s', by simpa using h, .nil _⟩
    | append_singleton es₂ e ih =>
      rw [← List.append_assoc, exec_snoc_iff] at h
      obtain ⟨h, hstep, rfl⟩ := h
      obtain ⟨m, h₁, h₂⟩ := ih h
      exact ⟨m, h₁, h₂.snoc hstep⟩
  · rintro ⟨m, h₁, h₂⟩
    exact h₁.trans h₂

theorem exec_cons_iff : S.Exec s (e :: es) s' ↔
    e.before = s ∧ S.Step e.before e.label e.after ∧ S.Exec e.after es s' := by
  rw [← List.singleton_append, exec_append_iff]
  constructor
  · rintro ⟨m, h₁, h₂⟩
    obtain ⟨h, hstep, rfl⟩ := exec_snoc_iff.1 (by simpa using h₁ : S.Exec s ([] ++ [e]) m)
    exact ⟨exec_nil_iff.1 h, hstep, h₂⟩
  · rintro ⟨rfl, hstep, h⟩
    exact ⟨e.after, by simpa using (Exec.nil (S := S) e.before).snoc hstep, h⟩

/-- Around any step of an execution: an execution before it, the step, an execution after it. -/
theorem exec_middle_iff : S.Exec s (es₁ ++ e :: es₂) s' ↔
    S.Exec s es₁ e.before ∧ S.Step e.before e.label e.after ∧ S.Exec e.after es₂ s' := by
  rw [exec_append_iff]
  constructor
  · rintro ⟨m, h₁, h₂⟩
    obtain ⟨rfl, hstep, h₂⟩ := exec_cons_iff.1 h₂
    exact ⟨h₁, hstep, h₂⟩
  · rintro ⟨h₁, hstep, h₂⟩
    exact ⟨_, h₁, exec_cons_iff.2 ⟨rfl, hstep, h₂⟩⟩

/-- Some execution leads from `s` to `s'`, and `P` holds of each of its steps. -/
def Reaches (S : System ι σ ε A α) (P : Entry ι σ ε A α → Prop) (s s' : Pool ι σ ε A α) : Prop :=
  ∃ es, S.Exec s es s' ∧ ∀ e ∈ es, P e

theorem reaches_refl {P : Entry ι σ ε A α → Prop} (s : Pool ι σ ε A α) : S.Reaches P s s :=
  ⟨[], .nil s, by simp⟩

theorem Reaches.snoc {P : Entry ι σ ε A α → Prop} (h : S.Reaches P s m) (hstep : S.Step m l s')
    (hP : P ⟨m, l, s'⟩) : S.Reaches P s s' := by
  obtain ⟨es, h, hes⟩ := h
  refine ⟨_, h.snoc hstep, fun e he => ?_⟩
  rcases List.mem_append.1 he with he | he
  · exact hes e he
  · rw [List.mem_singleton.1 he]
    exact hP

/-- A step at the end of an execution, and the executions that go on from there. -/
theorem Reaches.mark {P : Entry ι σ ε A α → Prop} (h : S.Reaches P s m)
    (P' : Entry ι σ ε A α → Prop) (hstep : S.Step m l s') :
    S.Reaches P s m ∧ S.Step m l s' ∧ S.Reaches P' s' s' :=
  ⟨h, hstep, reaches_refl s'⟩

/-- The end of an execution, and the executions that go on from there. -/
theorem Exec.mark (h : S.Exec s es m) : S.Exec s es m ∧ S.Exec m [] m := ⟨h, .nil m⟩

/-- Put together an execution around a step. -/
theorem Exec.around {n : Pool ι σ ε A α} (h₁ : S.Exec s es₁ m) (hstep : S.Step m l s')
    (h₂ : S.Exec s' es₂ n) : S.Exec s (es₁ ++ ⟨m, l, s'⟩ :: es₂) n :=
  exec_middle_iff.2 ⟨h₁, hstep, h₂⟩

theorem Exec.step_of_mem (h : S.Exec s es s') (he : e ∈ es) : S.Step e.before e.label e.after := by
  obtain ⟨es₁, es₂, rfl⟩ := List.append_of_mem he
  exact (exec_middle_iff.1 h).2.1

/-- What every step of an execution keeps, the execution keeps. -/
theorem Exec.invariant {I : Pool ι σ ε A α → Prop} (h : S.Exec s es s')
    (hI : ∀ e ∈ es, S.Step e.before e.label e.after → I e.before → I e.after) (hs : I s) : I s' := by
  induction h with
  | nil => exact hs
  | @snoc m s' es l h hstep ih =>
    exact hI ⟨m, l, s'⟩ (by simp) hstep (ih fun e he => hI e (by simp [he]))

/-- An invariant of an execution holds before each of its steps. -/
theorem Exec.invariant_before {I : Pool ι σ ε A α → Prop} (h : S.Exec s es s')
    (hI : ∀ e ∈ es, S.Step e.before e.label e.after → I e.before → I e.after) (hs : I s)
    (he : e ∈ es) : I e.before := by
  obtain ⟨es₁, es₂, rfl⟩ := List.append_of_mem he
  exact (exec_middle_iff.1 h).1.invariant (fun e he => hI e (by simp [he])) hs

/-! ### Programs under a monitor -/

/-- The state `q` of the monitor of slot `i` is coupled to the shared state by `C i`: the slot's
own steps move both together, and every other step respects the coupling. -/
structure Coupling (S : System ι σ ε A α) (M : Monitor τ A) (Q : ι → τ → Except ε α → Prop)
    (C : ι → σ → τ → Prop) : Prop where
  own : ∀ {i s q r a s'}, C i s q → M.ok q r → S.env i s r a s' → ∃ q', M.next q r a q' ∧ C i s' q'
  other : ∀ {i j s q q' r a s'}, i ≠ j → C i s q → C j s q' → M.ok q' r → S.env j s r a s' → C i s' q
  start : ∀ {i s p s'}, S.start i s p s' → ∃ q, C i s' q ∧ p.wp M (Q i) q
  start_other : ∀ {i j s q p s'}, i ≠ j → C i s q → S.start j s p s' → C i s' q
  tick : ∀ {i s q s'}, C i s q → S.tick s s' → C i s' q

/-- Every running program is under the monitor, in a state coupled to the shared one. -/
def Watched (M : Monitor τ A) (Q : ι → τ → Except ε α → Prop) (C : ι → σ → τ → Prop)
    (s : Pool ι σ ε A α) : Prop :=
  ∀ i p, s.thread i = some p → ∃ q, C i s.shared q ∧ p.wp M (Q i) q

variable {M : Monitor τ A} {Q : ι → τ → Except ε α → Prop} {C : ι → σ → τ → Prop}

omit [DecidableEq ι] in
theorem watched_idle (x : σ) : Watched M Q C (Pool.idle x : Pool ι σ ε A α) := by
  intro i p h
  cases h

theorem Coupling.step (hC : S.Coupling M Q C) (h : S.Step s l s') (hw : Watched M Q C s) :
    Watched M Q C s' := by
  intro i p hp
  cases h with
  | @call j r k a x hj henv =>
    obtain ⟨q, hq, hok, hk⟩ := hw j _ hj
    by_cases hij : i = j
    · subst hij
      obtain ⟨q', hnext, hq'⟩ := hC.own hq hok henv
      obtain rfl : k a = p := by simpa using hp
      exact ⟨q', hq', hk a q' hnext⟩
    · obtain ⟨q', hq', hp'⟩ := hw i p (by simpa [hij] using hp)
      exact ⟨q', hC.other hij hq' hq hok henv, hp'⟩
  | @start j p' x hj hstart =>
    by_cases hij : i = j
    · subst hij
      obtain rfl : p' = p := by simpa using hp
      exact hC.start hstart
    · obtain ⟨q, hq, hp'⟩ := hw i p (by simpa [hij] using hp)
      exact ⟨q, hC.start_other hij hq hstart, hp'⟩
  | tick ht =>
    obtain ⟨q, hq, hp'⟩ := hw i p hp
    exact ⟨q, hC.tick hq ht, hp'⟩

/-- Every program of an execution from an idle pool stays under its monitor. -/
theorem Coupling.watched (hC : S.Coupling M Q C) {x : σ} (h : S.Exec (.idle x) es s') :
    Watched M Q C s' :=
  h.invariant (fun _ _ hstep => hC.step hstep) (watched_idle x)

theorem Coupling.watched_before (hC : S.Coupling M Q C) {x : σ} (h : S.Exec (.idle x) es s')
    (he : e ∈ es) : Watched M Q C e.before :=
  h.invariant_before (fun _ _ hstep => hC.step hstep) (watched_idle x) he

/-- A request answered in a watched pool was allowed by the monitor of its slot. -/
theorem Watched.ok {i : ι} {v : Event A} (hw : Watched M Q C s) (h : S.Step s (.call i v) s') :
    ∃ q, C i s.shared q ∧ M.ok q v.req := by
  obtain ⟨k, hk, -⟩ := h.call_inv
  obtain ⟨q, hq, hok, -⟩ := hw i _ hk
  exact ⟨q, hq, hok⟩

/-! ### Monitors and invariants -/

/-- While `I` holds of the shared state, the steps that the monitors allow keep it, and the monitors'
states stay coupled to the shared state. -/
structure Guarded (S : System ι σ ε A α) (M : Monitor τ A) (Q : ι → τ → Except ε α → Prop)
    (C : σ → τ → Prop) (I : σ → Prop) : Prop where
  keeps : ∀ {i s q r a s'}, I s → C s q → M.ok q r → S.env i s r a s' →
    I s' ∧ ∃ q', M.next q r a q' ∧ C s' q'
  other : ∀ {i s q q' r a s'}, I s → C s q → C s q' → M.ok q' r → S.env i s r a s' → C s' q
  start : ∀ {i s p s'}, I s → S.start i s p s' → I s' ∧ ∃ q, C s' q ∧ p.wp M (Q i) q
  start_other : ∀ {i s q p s'}, I s → C s q → S.start i s p s' → C s' q
  tick : ∀ {s s'}, I s → S.tick s s' → I s' ∧ ∀ q, C s q → C s' q

theorem Guarded.step {C : σ → τ → Prop} {I : σ → Prop} (hG : S.Guarded M Q C I)
    (h : S.Step s l s') (hI : I s.shared) (hw : Watched M Q (fun _ => C) s) :
    I s'.shared ∧ Watched M Q (fun _ => C) s' := by
  cases h with
  | @call j r k a x hj henv =>
    obtain ⟨q, hq, hok, hk⟩ := hw j _ hj
    obtain ⟨hI', q', hnext, hq'⟩ := hG.keeps hI hq hok henv
    refine ⟨hI', fun i p hp => ?_⟩
    by_cases hij : i = j
    · subst hij
      obtain rfl : k a = p := by simpa using hp
      exact ⟨q', hq', hk a q' hnext⟩
    · obtain ⟨q₁, hq₁, hp'⟩ := hw i p (by simpa [hij] using hp)
      exact ⟨q₁, hG.other hI hq₁ hq hok henv, hp'⟩
  | @start j p' x hj hstart =>
    obtain ⟨hI', q', hq', hp'⟩ := hG.start hI hstart
    refine ⟨hI', fun i p hp => ?_⟩
    by_cases hij : i = j
    · subst hij
      obtain rfl : p' = p := by simpa using hp
      exact ⟨q', hq', hp'⟩
    · obtain ⟨q, hq, hp'⟩ := hw i p (by simpa [hij] using hp)
      exact ⟨q, hG.start_other hI hq hstart, hp'⟩
  | tick ht =>
    obtain ⟨hI', hC⟩ := hG.tick hI ht
    refine ⟨hI', fun i p hp => ?_⟩
    obtain ⟨q, hq, hp'⟩ := hw i p hp
    exact ⟨q, hC q hq, hp'⟩

/-- The invariant holds throughout an execution from an idle pool. -/
theorem Guarded.invariant {C : σ → τ → Prop} {I : σ → Prop} (hG : S.Guarded M Q C I) {x : σ}
    (h : S.Exec (.idle x) es s') (hI : I x) : I s'.shared := by
  refine (h.invariant (I := fun s => I s.shared ∧ Watched M Q (fun _ => C) s)
    (fun _ _ hstep hs => hG.step hstep hs.1 hs.2) ⟨hI, watched_idle x⟩).1

/-! ### The trace of one slot -/

/-- The answered requests of slot `i` in a history. -/
def traceOf (i : ι) (es : List (Entry ι σ ε A α)) : List (Event A) :=
  es.filterMap fun e => match e.label with
    | .call j v => if j = i then some v else none
    | _ => none

theorem traceOf_append (i : ι) : traceOf i (es₁ ++ es₂) = traceOf i es₁ ++ traceOf i es₂ :=
  List.filterMap_append

theorem traceOf_call (i : ι) (v : Event A) :
    traceOf i [(⟨m, .call i v, s'⟩ : Entry ι σ ε A α)] = [v] := by simp [traceOf]

/-- An event in the trace of a slot is a step of the history. -/
theorem exists_step_of_traceOf {i : ι} {v : Event A} {t₁ t₂ : List (Event A)}
    (h : traceOf i es = t₁ ++ v :: t₂) :
    ∃ es₁ e es₂, es = es₁ ++ e :: es₂ ∧ e.label = .call i v ∧ traceOf i es₁ = t₁ ∧
      traceOf i es₂ = t₂ := by
  obtain ⟨es₁, es', rfl, h₁, h'⟩ := List.filterMap_eq_append_iff.1 h
  obtain ⟨l, e, es₂, rfl, hl, he, h₂⟩ := List.filterMap_eq_cons_iff.1 h'
  refine ⟨es₁ ++ l, e, es₂, by simp, ?_, ?_, h₂⟩
  · cases hlab : e.label with
    | call j w =>
      simp only [hlab] at he
      split at he
      · next hji => rw [hji, Option.some.inj he]
      · cases he
    | start j => simp [hlab] at he
    | tick => simp [hlab] at he
  · rw [traceOf_append, show traceOf i l = [] from List.filterMap_eq_nil_iff.2 hl, List.append_nil]
    exact h₁

/-- From an idle pool: the trace of a slot is that of the program started in it. -/
theorem Exec.follows_of_idle {x : σ} (h : S.Exec (.idle x) es s') (i : ι) :
    (s'.thread i = none ∧ traceOf i es = []) ∨
      ∃ p₀ p s₀ s₁, s'.thread i = some p ∧ S.start i s₀ p₀ s₁ ∧ p₀.Follows (traceOf i es) p := by
  generalize hs : Pool.idle x = s at h
  induction h with
  | nil =>
    subst hs
    exact Or.inl ⟨rfl, rfl⟩
  | @snoc m s' es l h hstep ih =>
    rw [traceOf_append]
    cases hstep with
    | @call j r k a x' hj henv =>
      by_cases hij : i = j
      · subst hij
        rcases ih with ⟨hnone, -⟩ | ⟨p₀, p, s₀, s₁, hp, hstart, hf⟩
        · rw [hnone] at hj
          cases hj
        · obtain rfl : p = await r k := by
            rw [hp] at hj
            exact Option.some.inj hj
          refine Or.inr ⟨p₀, k a, s₀, s₁, by simp, hstart, ?_⟩
          rw [traceOf_call]
          exact hf.snoc a
      · simpa [hij, traceOf, Ne.symm hij] using ih
    | @start j p x' hj hp =>
      by_cases hij : i = j
      · subst hij
        rcases ih with ⟨-, htrace⟩ | ⟨p₀, q, s₀, s₁, hq, -, -⟩
        · refine Or.inr ⟨p, p, m.shared, x', by simp, hp, ?_⟩
          rw [htrace]
          cases p <;> rfl
        · rw [hq] at hj
          cases hj
      · simpa [hij, traceOf] using ih
    | tick ht => simpa [traceOf] using ih

end System

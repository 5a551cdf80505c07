import IdmMw.Library.Async

/-!
# Programs that may stop anywhere

A process that dies leaves its program at some request. What then holds of the shared state is what
holds whenever the program waits for an answer.

* `embed`: a program, as a program over the requests of a larger interface;
* `forEach`: one program after the other for the members of a list, with the rule of the loop;
* `Monitor.guarded`: how requests are answered, and an invariant that holds at every request;
* `Makes`: a program gets to a request;
* `Runs.follows`, `wp_follows`, `Follows.guarded`: wherever the program has got to, the invariant
  holds.
-/

namespace Async

variable {ε R R' α ρ σ : Type} {A : R → Type} {A' : R' → Type}

/-! ### Larger interfaces and loops -/

/-- The same program, over requests that comprise its own. -/
def embed (f : R → R') (g : ∀ r, A' (f r) → A r) : Async ε A α → Async ε A' α
  | settle x => settle x
  | await r k => await (f r) fun a => (k (g r a)).embed f g

/-- Run `f` for one member after the other; the first rejection ends the loop. -/
def forEach (f : ρ → Async ε A Unit) : List ρ → Async ε A Unit
  | [] => pure ()
  | row :: rows => do
    f row
    forEach f rows

theorem issues_embed {f : R → R'} {g : ∀ r, A' (f r) → A r} {p : Async ε A α} {P : R' → Prop}
    (h : ∀ r, P (f r)) : (p.embed f g).Issues P := by
  induction p with
  | settle x => trivial
  | await r k ih => exact ⟨h r, fun a => ih (g r a)⟩

/-- An embedded program settles as the program does. -/
theorem runs_embed {f : R → R'} {g : ∀ r, A' (f r) → A r} {p : Async ε A α} {t : List (Event A')}
    {x : Except ε α} (h : (p.embed f g).Runs t x) : ∃ t', p.Runs t' x := by
  induction p generalizing t with
  | settle y => exact ⟨[], rfl, h.2⟩
  | await r k ih =>
    obtain ⟨a, t, rfl, h⟩ := h
    obtain ⟨t', h'⟩ := ih (g r a) h
    exact ⟨⟨r, g r a⟩ :: t', g r a, t', rfl, h'⟩

theorem issues_forEach {f : ρ → Async ε A Unit} {P : R → Prop} {rows : List ρ}
    (h : ∀ row ∈ rows, (f row).Issues P) : (forEach f rows).Issues P := by
  induction rows with
  | nil => exact issues_pure
  | cons row rows ih =>
    refine Issues.bind (h row List.mem_cons_self) fun _ => ih fun row' hrow' => ?_
    exact h row' (List.mem_cons_of_mem _ hrow')

/-- Where its requests leave the state alone, an embedded program just settles. -/
theorem wp_embed {f : R → R'} {g : ∀ r, A' (f r) → A r} {M : Monitor σ A'} {p : Async ε A α}
    {Q : σ → Except ε α → Prop} {s : σ} (hok : ∀ r, M.ok s (f r))
    (hnext : ∀ r a s', M.next s (f r) a s' → s' = s) (h : ∀ t x, p.Runs t x → Q s x) :
    (p.embed f g).wp M Q s := by
  induction p with
  | settle x => exact h [] x ⟨rfl, rfl⟩
  | await r k ih =>
    refine ⟨hok r, fun a s' hs' => ?_⟩
    obtain rfl := hnext r a s' hs'
    exact ih (g r a) fun t x hr => h (⟨r, g r a⟩ :: t) x ⟨g r a, t, rfl, hr⟩

/-- The rule of the loop: `I` holds of the members that are done. -/
theorem wp_forEach {f : ρ → Async ε A Unit} {M : Monitor σ A} {Q : σ → Except ε Unit → Prop}
    {I : List ρ → σ → Prop} {rows : List ρ} {s : σ}
    (hstep : ∀ done row s, row ∈ rows → I done s → (f row).wp M (fun s x => match x with
      | .ok _ => I (done ++ [row]) s
      | .error e => Q s (.error e)) s)
    (hend : ∀ s, I rows s → Q s (.ok ())) (hs : I [] s) : (forEach f rows).wp M Q s := by
  have hloop : ∀ rest done s, rows = done ++ rest → I done s → (forEach f rest).wp M Q s := by
    intro rest
    induction rest with
    | nil =>
      rintro done s hrows hs
      rw [List.append_nil] at hrows
      subst hrows
      exact hend s hs
    | cons row rest ih =>
      intro done s hrows hs
      refine wp_bind.2 (wp_mono (hstep done row s (by simp [hrows]) hs) ?_)
      rintro s' (e | u) hs'
      · exact hs'
      · exact ih (done ++ [row]) s' (by simp [hrows]) hs'
  exact hloop rows [] s rfl hs

/-! ### Stopping -/

/-- Some run of the program gets to the request. Whether it is ever answered is left open. -/
def Makes (p : Async ε A α) (r : R) : Prop := ∃ t k, p.Follows t (await r k)

theorem Issues.of_makes {P : R → Prop} {p : Async ε A α} {r : R} (h : p.Issues P)
    (hr : p.Makes r) : P r := by
  obtain ⟨t, k, hf⟩ := hr
  induction t generalizing p with
  | nil =>
    obtain rfl : await r k = p := by cases p <;> exact hf
    exact h.1
  | cons e t ih =>
    cases p with
    | settle x => exact hf.elim
    | await r' k' =>
      obtain ⟨a, rfl, hf⟩ := hf
      exact ih (h.2 a) hf

/-- A run may stop anywhere. -/
theorem Runs.follows {p : Async ε A α} {t₁ t₂ : List (Event A)} {x : Except ε α}
    (h : p.Runs (t₁ ++ t₂) x) : ∃ p', p.Follows t₁ p' := by
  induction t₁ generalizing p with
  | nil => exact ⟨p, by cases p <;> rfl⟩
  | cons e t₁ ih =>
    cases p with
    | settle y => exact absurd h.1 (by simp)
    | await r k =>
      obtain ⟨a, t', ht, hr⟩ := h
      obtain ⟨rfl, rfl⟩ := List.cons.inj ht
      obtain ⟨p', hp'⟩ := ih hr
      exact ⟨p', a, rfl, hp'⟩

/-- Requests are answered by the relation `next`, and `I` holds whenever one is made. -/
def Monitor.guarded (I : σ → Prop) (next : σ → (r : R) → A r → σ → Prop) : Monitor σ A where
  ok s _ := I s
  next := next

/-- Which requests are answered how does not depend on the invariant. -/
theorem Monitor.Leads.guarded {I J : σ → Prop} {next : σ → (r : R) → A r → σ → Prop}
    {t : List (Event A)} {s s' : σ} (h : (Monitor.guarded I next).Leads s t s') :
    (Monitor.guarded J next).Leads s t s' := by
  induction t generalizing s with
  | nil => exact h
  | cons e t ih =>
    obtain ⟨m, hn, hl⟩ := h
    exact ⟨m, hn, ih hl⟩

theorem Monitor.Leads.append {M : Monitor σ A} {t₁ t₂ : List (Event A)} {s m s' : σ}
    (h₁ : M.Leads s t₁ m) (h₂ : M.Leads m t₂ s') : M.Leads s (t₁ ++ t₂) s' := by
  induction t₁ generalizing s with
  | nil =>
    obtain rfl := h₁
    exact h₂
  | cons e t₁ ih =>
    obtain ⟨n, hn, hl⟩ := h₁
    exact ⟨n, hn, ih hl⟩

/-- What every answer keeps holds in the end. -/
theorem Monitor.Leads.of_append {M : Monitor σ A} {t₁ t₂ : List (Event A)} {s s' : σ}
    (h : M.Leads s (t₁ ++ t₂) s') : ∃ m, M.Leads s t₁ m ∧ M.Leads m t₂ s' := by
  induction t₁ generalizing s with
  | nil => exact ⟨s, rfl, h⟩
  | cons e t₁ ih =>
    obtain ⟨s₁, hnext, h⟩ := h
    obtain ⟨m, h₁, h₂⟩ := ih h
    exact ⟨m, ⟨s₁, hnext, h₁⟩, h₂⟩

theorem Monitor.Leads.invariant {M : Monitor σ A} {I : σ → Prop} {t : List (Event A)} {s s' : σ}
    (h : M.Leads s t s') (hI : ∀ s r a s', M.next s r a s' → I s → I s') (hs : I s) : I s' := by
  induction t generalizing s with
  | nil =>
    obtain rfl := h
    exact hs
  | cons e t ih =>
    obtain ⟨m, hn, hl⟩ := h
    exact ih hl (hI s e.req e.ans m hn hs)

/-- What is left of a program meets what is left of its specification. -/
theorem wp_follows {M : Monitor σ A} {p p' : Async ε A α} {Q : σ → Except ε α → Prop}
    {t : List (Event A)} {s s' : σ} (h : p.wp M Q s) (hf : p.Follows t p') (hl : M.Leads s t s') :
    p'.wp M Q s' := by
  induction t generalizing p s with
  | nil =>
    obtain rfl : p' = p := by cases p <;> exact hf
    obtain rfl := hl
    exact h
  | cons e t ih =>
    cases p with
    | settle x => exact hf.elim
    | await r k =>
      obtain ⟨a, rfl, hf⟩ := hf
      obtain ⟨m, hn, hl⟩ := hl
      exact ih (h.2 a m hn) hf hl

/-- Wherever a program is stopped, the invariant holds. -/
theorem Follows.guarded {I : σ → Prop} {next : σ → (r : R) → A r → σ → Prop}
    {p p' : Async ε A α} {Q : σ → Except ε α → Prop} {t : List (Event A)} {s s' : σ}
    (hf : p.Follows t p') (h : p.wp (.guarded I next) Q s) (hQ : ∀ s x, Q s x → I s)
    (hl : (Monitor.guarded I next).Leads s t s') : I s' := by
  have hleft := wp_follows h hf hl
  cases p' with
  | settle x => exact hQ s' x hleft
  | await r k => exact hleft.1

end Async

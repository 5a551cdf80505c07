import IdmMw.Library.Runs
import Mathlib.Data.List.Nodup
import Mathlib.Logic.Function.Basic

/-!
# Calls that read and then write

Several calls on one store. A call reads the store with one statement, prepares what it will write,
and writes it with a second statement; statements of the other calls may come between.

* `Calls`, `step`: the calls, and their statements one at a time;
* `Calls.once`, `Calls.serially`: a call with nothing in between, and calls one after another;
* `Serializes`: every write does what the call would do if it read now, up to what is observed;
* `Serializes.run`: then a run ends as the calls do in the order of their writes.
-/

namespace Interleaving

open Transitions

variable {ι σ δ α : Type}

/-- What a call prepares from the store that it reads, and what it makes of the store that it writes;
`none` where it fails. -/
structure Calls (ι σ δ : Type) where
  prepare : ι → σ → Option δ
  write : ι → δ → σ → Option σ

inductive Progress (σ δ : Type)
  | waiting
  | prepared (seen : σ) (data : δ)
  | finished

/-- `written` are the calls that have written, in the order of their writes. -/
structure State (ι σ δ : Type) where
  store : σ
  progress : ι → Progress σ δ
  written : List ι

inductive Statement (ι : Type)
  | read (i : ι)
  | write (i : ι)

/-- No call has begun. -/
def State.initial (store : σ) : State ι σ δ := ⟨store, fun _ => .waiting, []⟩

/-- A call with no statement of another in between. -/
def Calls.once (calls : Calls ι σ δ) (i : ι) (s : σ) : Option σ :=
  (calls.prepare i s).bind fun data => calls.write i data s

/-- Calls one after another. -/
def Calls.serially (calls : Calls ι σ δ) : List ι → σ → Option σ
  | [], s => some s
  | i :: is, s => (calls.once i s).bind (calls.serially is)

theorem Calls.serially_append (calls : Calls ι σ δ) (is is' : List ι) (s : σ) :
    calls.serially (is ++ is') s = (calls.serially is s).bind (calls.serially is') := by
  induction is generalizing s with
  | nil => rfl
  | cons i is ih =>
    show (calls.once i s).bind (calls.serially (is ++ is')) =
      ((calls.once i s).bind (calls.serially is)).bind (calls.serially is')
    rw [Option.bind_assoc]
    congr 1
    funext s'
    exact ih s'

variable [DecidableEq ι]

def step (calls : Calls ι σ δ) (s : State ι σ δ) : Statement ι → Option (State ι σ δ)
  | .read i =>
    match s.progress i with
    | .waiting => (calls.prepare i s.store).map fun data =>
        { s with progress := Function.update s.progress i (.prepared s.store data) }
    | _ => none
  | .write i =>
    match s.progress i with
    | .prepared _ data => (calls.write i data s.store).map fun store =>
        ⟨store, Function.update s.progress i .finished, s.written ++ [i]⟩
    | _ => none

variable {calls : Calls ι σ δ} {s s' : State ι σ δ} {i : ι}

theorem step_read (h : step calls s (.read i) = some s') :
    s.progress i = .waiting ∧ ∃ data, calls.prepare i s.store = some data ∧
      s' = { s with progress := Function.update s.progress i (.prepared s.store data) } := by
  simp only [step] at h
  split at h
  · next hwaiting =>
    obtain ⟨data, hdata, rfl⟩ := Option.map_eq_some_iff.1 h
    exact ⟨hwaiting, data, hdata, rfl⟩
  · cases h

theorem step_write (h : step calls s (.write i) = some s') :
    ∃ seen data store, s.progress i = .prepared seen data ∧
      calls.write i data s.store = some store ∧
      s' = ⟨store, Function.update s.progress i .finished, s.written ++ [i]⟩ := by
  simp only [step] at h
  split at h
  · next seen data hprepared =>
    obtain ⟨store, hstore, rfl⟩ := Option.map_eq_some_iff.1 h
    exact ⟨seen, data, store, hprepared, hstore, rfl⟩
  · cases h

/-! ### The books -/

/-- The calls that have finished are those that have written, once each. -/
structure Books (s : State ι σ δ) : Prop where
  nodup : s.written.Nodup
  finished_iff : ∀ i, s.progress i = .finished ↔ i ∈ s.written

omit [DecidableEq ι] in
theorem Books.initial (store : σ) : Books (.initial store : State ι σ δ) where
  nodup := List.nodup_nil
  finished_iff := fun _ => ⟨nofun, fun h => absurd h List.not_mem_nil⟩

theorem Books.step {e : Statement ι} (h : Books s) (hstep : step calls s e = some s') :
    Books s' := by
  cases e with
  | read i =>
    obtain ⟨hwaiting, data, -, rfl⟩ := step_read hstep
    refine ⟨h.nodup, fun j => ?_⟩
    show Function.update s.progress i _ j = _ ↔ j ∈ s.written
    by_cases hj : j = i
    · subst hj
      rw [Function.update_self]
      refine ⟨nofun, fun hmem => ?_⟩
      rw [(h.finished_iff j).2 hmem] at hwaiting
      cases hwaiting
    · rw [Function.update_of_ne hj]
      exact h.finished_iff j
  | write i =>
    obtain ⟨seen, data, store, hprepared, -, rfl⟩ := step_write hstep
    have hnew : i ∉ s.written := by
      intro hmem
      rw [(h.finished_iff i).2 hmem] at hprepared
      cases hprepared
    refine ⟨List.nodup_append.2 ⟨h.nodup, List.nodup_singleton i, ?_⟩, fun j => ?_⟩
    · rintro j hj _ hi rfl
      exact hnew (List.mem_singleton.1 hi ▸ hj)
    · show Function.update s.progress i _ j = _ ↔ j ∈ s.written ++ [i]
      rw [List.mem_append, List.mem_singleton]
      by_cases hj : j = i
      · subst hj
        rw [Function.update_self]
        exact ⟨fun _ => .inr rfl, fun _ => rfl⟩
      · rw [Function.update_of_ne hj, h.finished_iff j]
        exact ⟨.inl, fun h => h.resolve_right hj⟩

/-! ### Serializability -/

/-- A condition under which writes do what the calls would do if they read now; `P` is kept, and what
is observed of a store decides what is observed after a call. -/
structure Serializes (calls : Calls ι σ δ) (ok : State ι σ δ → Statement ι → Prop) (P : σ → Prop)
    (observe : σ → α) : Prop where
  keep : ∀ i seen data s s', P seen → P s → calls.prepare i seen = some data →
    calls.write i data s = some s' → P s'
  same : ∀ i s t s', P s → P t → observe s = observe t → calls.once i s = some s' →
    ∃ t', calls.once i t = some t' ∧ observe s' = observe t'
  now : ∀ s i seen data s', P seen → P s.store → s.progress i = .prepared seen data →
    calls.prepare i seen = some data → ok s (.write i) → calls.write i data s.store = some s' →
    ∃ t, calls.once i s.store = some t ∧ observe t = observe s'

/-- The store is as after the calls that have written, one after another. -/
structure Serialized (calls : Calls ι σ δ) (P : σ → Prop) (observe : σ → α) (start : σ)
    (s : State ι σ δ) : Prop where
  store : P s.store
  seen : ∀ i seen data, s.progress i = .prepared seen data →
    P seen ∧ calls.prepare i seen = some data
  serial : ∃ t, calls.serially s.written start = some t ∧ P t ∧ observe t = observe s.store

variable {ok : State ι σ δ → Statement ι → Prop} {P : σ → Prop} {observe : σ → α} {start : σ}

omit [DecidableEq ι] in
theorem Serializes.once (h : Serializes calls ok P observe) {t t' : σ} (ht : P t)
    (honce : calls.once i t = some t') : P t' := by
  obtain ⟨data, hprepare, hwrite⟩ := Option.bind_eq_some_iff.1 honce
  exact h.keep i t data t t' ht ht hprepare hwrite

theorem Serialized.step (hc : Serializes calls ok P observe) {e : Statement ι}
    (h : Serialized calls P observe start s) (hok : ok s e) (hstep : step calls s e = some s') :
    Serialized calls P observe start s' := by
  cases e with
  | read i =>
    obtain ⟨-, data, hprepare, rfl⟩ := step_read hstep
    refine ⟨h.store, fun j seen data' hj => ?_, h.serial⟩
    change Function.update s.progress i _ j = _ at hj
    by_cases hji : j = i
    · subst hji
      rw [Function.update_self] at hj
      cases hj
      exact ⟨h.store, hprepare⟩
    · rw [Function.update_of_ne hji] at hj
      exact h.seen j seen data' hj
  | write i =>
    obtain ⟨seen, data, store, hprepared, hwrite, rfl⟩ := step_write hstep
    obtain ⟨hseen, hprepare⟩ := h.seen i seen data hprepared
    obtain ⟨t, hserial, ht, hobserve⟩ := h.serial
    obtain ⟨now, hnow, hnow'⟩ := hc.now s i seen data store hseen h.store hprepared hprepare hok
      hwrite
    obtain ⟨t', hone, ht'⟩ := hc.same i s.store t now h.store ht hobserve.symm hnow
    refine ⟨hc.keep i seen data s.store store hseen h.store hprepare hwrite, ?_, t', ?_, ?_, ?_⟩
    · intro j seen' data' hj
      change Function.update s.progress i _ j = _ at hj
      by_cases hji : j = i
      · subst hji
        rw [Function.update_self] at hj
        cases hj
      · rw [Function.update_of_ne hji] at hj
        exact h.seen j seen' data' hj
    · show calls.serially (s.written ++ [i]) start = some t'
      rw [Calls.serially_append, hserial]
      show (calls.once i t).bind (calls.serially []) = some t'
      rw [hone]
      rfl
    · exact hc.once ht hone
    · exact ht'.symm.trans hnow'

/-- A run whose writes meet the condition ends as the calls do in the order of their writes. -/
theorem Serializes.run (hc : Serializes calls ok P observe) (hstart : P start)
    {statements : List (Statement ι)} (h : Run (step calls) ok (.initial start) statements s) :
    Serialized calls P observe start s ∧ Books s :=
  h.invariant (I := fun s => Serialized calls P observe start s ∧ Books s)
    (fun _ _ _ hI hok hstep => ⟨hI.1.step hc hok hstep, hI.2.step hstep⟩)
    ⟨⟨hstart, (fun _ _ _ h => nomatch h), start, rfl, hstart, rfl⟩, .initial start⟩

end Interleaving

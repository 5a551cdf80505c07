import IdmMw.Library.Runs
import Mathlib.Tactic

/-!
# Row versions under READ COMMITTED

A table keeps versions of its rows. A session runs its commands one after another and then commits.
A deletion sees what had been committed when it began, together with the work of its own session; it
then visits the versions that it saw, waits for a version that another running session has deleted,
and passes over one whose deletion has been committed meanwhile. Versions that were committed after
the deletion began are not visited. An insertion needs every version with the same key gone.

* `Version`, `Command`, `Session`, `State`, and `Event` with `step`;
* `State.stored`: the rows that are committed and not deleted;
* `Step`, `step_cases`: what one event does;
* `Replaces`: a session that deletes the rows of a set and inserts others in their place;
* `Overlaps`: a deletion begins while the other session is between its deletion and its end;
* `replaced_of_apart`, `stored_of_overlap`, `replaced_iff`: two replacements of one set leave what
  one of them inserts, unless they overlap and both insert something.

A session may also update the one row that owns the set; such an update waits for the session that
has updated it before.
-/

set_option linter.unusedSectionVars false

namespace Mvcc

open Transitions

/-- A version of a row: the session that inserted it (`none`: it was there before all sessions) and
the last session that deleted it. -/
structure Version (τ ρ : Type) where
  row : ρ
  insertedBy : Option τ
  deletedBy : Option τ

inductive Outcome
  | running
  | committed
  | aborted
  deriving DecidableEq

inductive Command (ρ : Type)
  | deleteWhere (P : ρ → Bool)
  | insert (rows : List ρ)
  | updateOwner

/-- What a session still has to do, the versions that its running deletion has yet to visit, and how
it has ended. -/
structure Session (ρ : Type) where
  todo : List (Command ρ)
  scan : Option (List ℕ)
  outcome : Outcome

structure State (τ ρ : Type) where
  versions : List (Version τ ρ)
  sessions : τ → Session ρ
  ownerUpdatedBy : Option τ

inductive Event (τ : Type)
  | search (t : τ)
  | visit (t : τ) (i : ℕ)
  | finish (t : τ)
  | insert (t : τ)
  | inserted (t : τ)
  | updateOwner (t : τ)
  | commit (t : τ)
  | abort (t : τ)

variable {τ ρ κ : Type} [DecidableEq τ] [DecidableEq κ]

namespace State

variable (s : State τ ρ) (t : τ)

/-- No session has begun. -/
def initial (versions : List ρ) (scripts : τ → List (Command ρ)) : State τ ρ :=
  ⟨versions.map fun row => ⟨row, none, none⟩, fun t => ⟨scripts t, none, .running⟩, none⟩

def put (x : Session ρ) : State τ ρ :=
  { s with sessions := Function.update s.sessions t x }

/-- The session has committed. -/
def ended (u : τ) : Bool := (s.sessions u).outcome = .committed

/-- The deletion of a version by `u` need not be respected: nobody has deleted it, or in vain. -/
def unclaimed : Option τ → Bool
  | none => true
  | some u => (s.sessions u).outcome = .aborted

/-- The version was there, or is committed, or is the session's own. -/
def born (v : Version τ ρ) : Bool :=
  match v.insertedBy with
  | none => true
  | some u => u = t || s.ended u

/-- The version is deleted by a committed session, or by the session itself. -/
def gone (v : Version τ ρ) : Bool :=
  match v.deletedBy with
  | none => false
  | some u => u = t || s.ended u

/-- The versions that a deletion of `t` finds when it begins. -/
def found (P : ρ → Bool) : List ℕ :=
  (List.range s.versions.length).filter fun i =>
    match s.versions[i]? with
    | none => false
    | some v => s.born t v && !s.gone t v && P v.row

/-- The version keeps no session from inserting its key. -/
def outOfWay (v : Version τ ρ) : Bool :=
  s.gone t v ||
    match v.insertedBy with
    | none => false
    | some u => (s.sessions u).outcome = .aborted

/-- The version is committed, and no committed session has deleted it. -/
def live (v : Version τ ρ) : Bool :=
  (match v.insertedBy with
    | none => true
    | some u => s.ended u) &&
  match v.deletedBy with
    | none => true
    | some u => !s.ended u

def stored : List ρ := (s.versions.filter s.live).map Version.row

end State

/-- One event; `none` where it cannot happen, in particular where its session has to wait. -/
def step (key : ρ → κ) (s : State τ ρ) : Event τ → Option (State τ ρ)
  | .search t =>
    match s.sessions t with
    | ⟨.deleteWhere P :: rest, none, .running⟩ =>
      some (s.put t ⟨rest, some (s.found t P), .running⟩)
    | _ => none
  | .visit t i =>
    match s.sessions t, s.versions[i]? with
    | ⟨todo, some is, .running⟩, some v =>
      let s' := s.put t ⟨todo, some (is.erase i), .running⟩
      if i ∈ is then
        if s.unclaimed v.deletedBy then
          some { s' with versions := s.versions.set i { v with deletedBy := some t } }
        else if s.gone t v then some s'
        else none
      else none
    | _, _ => none
  | .finish t =>
    match s.sessions t with
    | ⟨todo, some [], .running⟩ => some (s.put t ⟨todo, none, .running⟩)
    | _ => none
  | .insert t =>
    match s.sessions t with
    | ⟨.insert (row :: rows) :: rest, none, .running⟩ =>
      if s.versions.all fun v => key v.row ≠ key row || s.outOfWay t v then
        some { s.put t ⟨.insert rows :: rest, none, .running⟩ with
          versions := s.versions ++ [⟨row, some t, none⟩] }
      else none
    | _ => none
  | .inserted t =>
    match s.sessions t with
    | ⟨.insert [] :: rest, none, .running⟩ => some (s.put t ⟨rest, none, .running⟩)
    | _ => none
  | .updateOwner t =>
    match s.sessions t with
    | ⟨.updateOwner :: rest, none, .running⟩ =>
      if s.ownerUpdatedBy.all fun u => u = t || (s.sessions u).outcome ≠ .running then
        some { s.put t ⟨rest, none, .running⟩ with ownerUpdatedBy := some t }
      else none
    | _ => none
  | .commit t =>
    match s.sessions t with
    | ⟨[], none, .running⟩ => some (s.put t ⟨[], none, .committed⟩)
    | _ => none
  | .abort t =>
    match s.sessions t with
    | ⟨todo, scan, .running⟩ => some (s.put t ⟨todo, scan, .aborted⟩)
    | _ => none

/-- What one event does, case by case. -/
inductive Step (key : ρ → κ) (s : State τ ρ) : Event τ → State τ ρ → Prop
  | search {t P rest} (h : s.sessions t = ⟨.deleteWhere P :: rest, none, .running⟩) :
      Step key s (.search t) (s.put t ⟨rest, some (s.found t P), .running⟩)
  | delete {t i todo is v} (h : s.sessions t = ⟨todo, some is, .running⟩)
      (hv : s.versions[i]? = some v) (hi : i ∈ is) (hfree : s.unclaimed v.deletedBy = true) :
      Step key s (.visit t i) { s.put t ⟨todo, some (is.erase i), .running⟩ with
        versions := s.versions.set i { v with deletedBy := some t } }
  | pass {t i todo is v} (h : s.sessions t = ⟨todo, some is, .running⟩)
      (hv : s.versions[i]? = some v) (hi : i ∈ is) (hgone : s.gone t v = true) :
      Step key s (.visit t i) (s.put t ⟨todo, some (is.erase i), .running⟩)
  | finish {t todo} (h : s.sessions t = ⟨todo, some [], .running⟩) :
      Step key s (.finish t) (s.put t ⟨todo, none, .running⟩)
  | insert {t row rows rest} (h : s.sessions t = ⟨.insert (row :: rows) :: rest, none, .running⟩)
      (hkey : ∀ v ∈ s.versions, key v.row = key row → s.outOfWay t v = true) :
      Step key s (.insert t) { s.put t ⟨.insert rows :: rest, none, .running⟩ with
        versions := s.versions ++ [⟨row, some t, none⟩] }
  | inserted {t rest} (h : s.sessions t = ⟨.insert [] :: rest, none, .running⟩) :
      Step key s (.inserted t) (s.put t ⟨rest, none, .running⟩)
  | updateOwner {t rest} (h : s.sessions t = ⟨.updateOwner :: rest, none, .running⟩) :
      Step key s (.updateOwner t)
        { s.put t ⟨rest, none, .running⟩ with ownerUpdatedBy := some t }
  | commit {t} (h : s.sessions t = ⟨[], none, .running⟩) :
      Step key s (.commit t) (s.put t ⟨[], none, .committed⟩)
  | abort {t todo scan} (h : s.sessions t = ⟨todo, scan, .running⟩) :
      Step key s (.abort t) (s.put t ⟨todo, scan, .aborted⟩)

variable {key : ρ → κ} {s s' : State τ ρ} {e : Event τ}

theorem step_cases (h : step key s e = some s') : Step key s e s' := by
  cases e with
  | search t =>
    simp only [step] at h
    split at h
    · rename_i hs
      cases h
      exact .search hs
    · cases h
  | visit t i =>
    simp only [step] at h
    split at h
    · rename_i hs hv
      split_ifs at h with hi hfree hgone
      · cases h
        exact .delete hs hv hi hfree
      · cases h
        exact .pass hs hv hi hgone
    · cases h
  | finish t =>
    simp only [step] at h
    split at h
    · rename_i hs
      cases h
      exact .finish hs
    · cases h
  | insert t =>
    simp only [step] at h
    split at h
    · rename_i hs
      split_ifs at h with hall
      cases h
      refine .insert hs fun v hv hk => ?_
      have := List.all_eq_true.1 hall v hv
      simpa [hk] using this
    · cases h
  | inserted t =>
    simp only [step] at h
    split at h
    · rename_i hs
      cases h
      exact .inserted hs
    · cases h
  | updateOwner t =>
    simp only [step] at h
    split at h
    · rename_i hs
      split_ifs at h
      cases h
      exact .updateOwner hs
    · cases h
  | commit t =>
    simp only [step] at h
    split at h
    · rename_i hs
      cases h
      exact .commit hs
    · cases h
  | abort t =>
    simp only [step] at h
    split at h
    · rename_i hs
      cases h
      exact .abort hs
    · cases h

/-! ### What an event changes -/

/-- The session whose event it is. -/
def Event.session : Event τ → τ
  | .search t | .visit t _ | .finish t | .insert t | .inserted t | .updateOwner t | .commit t
  | .abort t => t

/-- The rows that a command still inserts. -/
def Command.rows : Command ρ → List ρ
  | .insert rows => rows
  | _ => []

def Command.Deletes : Command ρ → Prop
  | .deleteWhere _ => True
  | _ => False

/-- The deletion of the session has begun. -/
def Session.Begun (x : Session ρ) : Prop := ∀ c ∈ x.todo, ¬ c.Deletes

/-- The deletion of `u` has yet to visit the version `i`. -/
def State.Visits (s : State τ ρ) (u : τ) (i : ℕ) : Prop :=
  ∃ is, (s.sessions u).scan = some is ∧ i ∈ is

/-- `u` inserts the row, or has inserted it. -/
def State.Inserts (s : State τ ρ) (u : τ) (row : ρ) : Prop :=
  row ∈ (s.sessions u).todo.flatMap Command.rows ∨
    ∃ v ∈ s.versions, v.insertedBy = some u ∧ v.row = row

/-- In this event the running session `t` becomes `x`. -/
structure Moves (s s' : State τ ρ) (t : τ) (x : Session ρ) : Prop where
  sessions : s'.sessions = Function.update s.sessions t x
  running : (s.sessions t).outcome = .running

section Step

variable {t u : τ} {i : ℕ} {v : Version τ ρ}

theorem Moves.self {x : Session ρ} (h : Moves s s' t x) : s'.sessions t = x := by
  rw [h.sessions, Function.update_self]

theorem Moves.ne {x : Session ρ} (h : Moves s s' t x) (hu : u ≠ t) :
    s'.sessions u = s.sessions u := by
  rw [h.sessions, Function.update_of_ne hu]

/-- A session that has ended stays so. -/
theorem Moves.ended {x : Session ρ} (h : Moves s s' t x) (hend : s.ended u = true) :
    s'.ended u = true := by
  by_cases hu : u = t
  · subst hu
    simp [State.ended, h.running] at hend
  · unfold State.ended at hend ⊢
    rwa [h.ne hu]

theorem Step.moves (hs : Step key s e s') : ∃ x, Moves s s' e.session x := by
  cases hs with
  | search hs | delete hs | pass hs | finish hs | insert hs | inserted hs | updateOwner hs
  | commit hs | abort hs => exact ⟨_, rfl, by rw [Event.session, hs]⟩

/-- Whoever is not aborted was not aborted before. -/
theorem Step.outcome_ne (hs : Step key s e s') (h : ∀ u, (s'.sessions u).outcome ≠ .aborted)
    (u : τ) : (s.sessions u).outcome ≠ .aborted := by
  obtain ⟨x, hm⟩ := hs.moves
  by_cases hu : u = e.session
  · rw [hu, hm.running]
    simp
  · rw [← hm.ne hu]
    exact h u

/-- A deletion that is still to come was to come before. -/
theorem Step.deletes {c : Command ρ} (hs : Step key s e s') (hc : c ∈ (s'.sessions u).todo)
    (hdel : c.Deletes) : c ∈ (s.sessions u).todo := by
  obtain ⟨x, hm⟩ := hs.moves
  by_cases hne : u = e.session
  · subst hne
    cases hs with
    | @search _ _ rest hs | @inserted _ rest hs | @updateOwner _ rest hs =>
      have hc' : c ∈ rest := by simpa [State.put, Event.session] using hc
      rw [Event.session, hs]
      exact List.mem_cons_of_mem _ hc'
    | commit hs => simp [State.put, Event.session] at hc
    | delete hs | pass hs | finish hs | abort hs =>
      rw [Event.session, hs]
      simpa [State.put, Event.session] using hc
    | insert hs =>
      rw [Event.session, hs]
      rcases List.mem_cons.1 (by simpa [State.put, Event.session] using hc) with rfl | hc'
      · exact hdel.elim
      · exact List.mem_cons_of_mem _ hc'
  · rwa [hm.ne hne] at hc

theorem Step.begun (hs : Step key s e s') (hu : (s.sessions u).Begun) : (s'.sessions u).Begun :=
  fun c hc hdel => hu c (hs.deletes hc hdel) hdel

/-- A version after an event was there, unless it is the row just inserted; whoever visits it may
have deleted it. -/
theorem Step.version (hs : Step key s e s') (hv : s'.versions[i]? = some v) :
    (∃ v₀, s.versions[i]? = some v₀ ∧ v.row = v₀.row ∧ v.insertedBy = v₀.insertedBy ∧
      (v.deletedBy = v₀.deletedBy ∨ s.Visits e.session i ∧ v.deletedBy = some e.session ∧
        s.unclaimed v₀.deletedBy = true)) ∨
    i = s.versions.length ∧ v.insertedBy = some e.session ∧ v.deletedBy = none ∧
      ∀ w ∈ s.versions, key w.row = key v.row → s.outOfWay e.session w = true := by
  cases hs with
  | @delete t j todo is w hs hw hj hfree =>
    left
    have hlt : j < s.versions.length := (List.getElem?_eq_some_iff.1 hw).1
    dsimp only at hv
    rw [List.getElem?_set] at hv
    split_ifs at hv with hij
    · subst hij
      obtain rfl := Option.some.inj hv
      exact ⟨w, hw, rfl, rfl, Or.inr ⟨⟨is, by rw [Event.session, hs], hj⟩, rfl, hfree⟩⟩
    · exact ⟨v, hv, rfl, rfl, Or.inl rfl⟩
  | @insert t row rows rest hs hkey =>
    rw [List.getElem?_append] at hv
    split_ifs at hv with hi
    · exact Or.inl ⟨v, hv, rfl, rfl, Or.inl rfl⟩
    · right
      have hlen : i - s.versions.length = 0 := by
        have := (List.getElem?_eq_some_iff.1 hv).1
        simpa using this
      rw [hlen] at hv
      obtain rfl := Option.some.inj hv
      exact ⟨by omega, rfl, rfl, hkey⟩
  | search | pass | finish | inserted | updateOwner | commit | abort =>
    exact Or.inl ⟨v, hv, rfl, rfl, Or.inl rfl⟩

/-- A version stays, with its row and the session that inserted it. -/
theorem Step.keeps (hs : Step key s e s') (hv : s.versions[i]? = some v) :
    ∃ v', s'.versions[i]? = some v' ∧ v'.row = v.row ∧ v'.insertedBy = v.insertedBy := by
  cases hs with
  | @delete t j todo is w hs hw hj hfree =>
    have hlt : j < s.versions.length := (List.getElem?_eq_some_iff.1 hw).1
    by_cases hij : j = i
    · subst hij
      obtain rfl : w = v := Option.some.inj (hw.symm.trans hv)
      exact ⟨_, List.getElem?_set_self hlt, rfl, rfl⟩
    · exact ⟨v, (List.getElem?_set_ne hij).trans hv, rfl, rfl⟩
  | insert =>
    exact ⟨v, (List.getElem?_append_left (List.getElem?_eq_some_iff.1 hv).1).trans hv, rfl, rfl⟩
  | search | pass | finish | inserted | updateOwner | commit | abort => exact ⟨v, hv, rfl, rfl⟩

/-- An event that adds no version of `u` changes nothing in what `u` inserts. -/
theorem Step.inserts_of_no_version (hs : Step key s e s')
    (hnew : u ≠ e.session ∨ s'.versions.length = s.versions.length)
    (htodo : (s'.sessions u).todo.flatMap Command.rows = (s.sessions u).todo.flatMap Command.rows)
    {row : ρ} : s'.Inserts u row ↔ s.Inserts u row := by
  unfold State.Inserts
  rw [htodo]
  refine or_congr_right ⟨?_, ?_⟩
  · rintro ⟨v, hv, hby, rfl⟩
    obtain ⟨i, hi⟩ := List.getElem?_of_mem hv
    rcases hs.version hi with ⟨v₀, hv₀, hrow, hby₀, -⟩ | ⟨rfl, hby', -⟩
    · exact ⟨v₀, List.mem_of_getElem? hv₀, hby₀.symm.trans hby, hrow.symm⟩
    · rcases hnew with hne | hlen
      · exact absurd (Option.some.inj (hby.symm.trans hby')) hne
      · have := (List.getElem?_eq_some_iff.1 hi).1
        omega
  · rintro ⟨v, hv, hby, rfl⟩
    obtain ⟨i, hi⟩ := List.getElem?_of_mem hv
    obtain ⟨v', hv', hrow, hby'⟩ := hs.keeps hi
    exact ⟨v', List.mem_of_getElem? hv', hby'.trans hby, hrow⟩

/-- What a session is about to insert it has inserted afterwards, and nothing else. -/
theorem Step.inserts (hs : Step key s e s') {row : ρ} : s'.Inserts u row ↔ s.Inserts u row := by
  obtain ⟨x, hm⟩ := hs.moves
  by_cases hu : u = e.session
  · have hs₀ := hs
    subst hu
    cases hs with
    | @insert t r rows rest hs hkey =>
      simp only [State.Inserts, State.put, Event.session, Function.update_self, hs,
        List.flatMap_cons, Command.rows, List.cons_append, List.mem_cons, List.mem_append,
        List.not_mem_nil, or_false]
      constructor
      · rintro (hrow | ⟨v, hv | rfl, hby, rfl⟩)
        · exact Or.inl (Or.inr hrow)
        · exact Or.inr ⟨v, hv, hby, rfl⟩
        · exact Or.inl (Or.inl rfl)
      · rintro ((rfl | hrow) | ⟨v, hv, hby, rfl⟩)
        · exact Or.inr ⟨_, Or.inr rfl, rfl, rfl⟩
        · exact Or.inl hrow
        · exact Or.inr ⟨v, Or.inl hv, hby, rfl⟩
    | search hs | inserted hs | updateOwner hs | delete hs | pass hs | finish hs | commit hs
    | abort hs =>
      refine hs₀.inserts_of_no_version (Or.inr (by simp [State.put])) ?_
      simp [State.put, Event.session, hs, Command.rows]
  · exact hs.inserts_of_no_version (Or.inl hu) (by rw [hm.ne hu])

/-- What a session has yet to visit it had to visit before, unless its deletion has just begun. -/
theorem Step.visits (hs : Step key s e s') (hi : s'.Visits u i) :
    s.Visits u i ∨ e = .search u ∧ ∃ P rest,
      s.sessions u = ⟨.deleteWhere P :: rest, none, .running⟩ ∧ i ∈ s.found u P := by
  obtain ⟨x, hm⟩ := hs.moves
  by_cases hne : u = e.session
  · subst hne
    obtain ⟨is, his, hi⟩ := hi
    cases hs with
    | @search t P rest hs =>
      obtain rfl : s.found t P = is := by simpa [State.put, Event.session] using his
      exact Or.inr ⟨rfl, P, rest, hs, hi⟩
    | @delete t j todo is' w hs | @pass t j todo is' w hs =>
      obtain rfl : is'.erase j = is := by simpa [State.put, Event.session] using his
      exact Or.inl ⟨is', by rw [Event.session, hs], List.mem_of_mem_erase hi⟩
    | finish hs | insert hs | inserted hs | updateOwner hs | commit hs =>
      simp [State.put, Event.session] at his
    | @abort t todo scan hs =>
      obtain rfl : scan = some is := by simpa [State.put, Event.session] using his
      exact Or.inl ⟨is, by rw [Event.session, hs], hi⟩
  · obtain ⟨is, his, hi⟩ := hi
    rw [hm.ne hne] at his
    exact Or.inl ⟨is, his, hi⟩

/-- A version that is struck off has been deleted, by the session itself or by one that has ended. -/
theorem Step.visited (hs : Step key s e s') (hi : s.Visits u i) (hv : s'.versions[i]? = some v) :
    s'.Visits u i ∨ ∃ w, v.deletedBy = some w ∧ (w = u ∨ s'.ended w = true) := by
  obtain ⟨x, hm⟩ := hs.moves
  obtain ⟨is, his, hi⟩ := hi
  by_cases hne : u = e.session
  · subst hne
    cases hs with
    | @delete t j todo is' w hs hw hj hfree =>
      obtain rfl : is' = is := by simpa [Event.session, hs] using his
      by_cases hij : i = j
      · subst hij
        have hlt : i < s.versions.length := (List.getElem?_eq_some_iff.1 hw).1
        obtain rfl := Option.some.inj ((List.getElem?_set_self hlt).symm.trans hv)
        exact Or.inr ⟨t, rfl, Or.inl rfl⟩
      · exact Or.inl ⟨is'.erase j, by simp [State.put, Event.session],
          (List.mem_erase_of_ne hij).2 hi⟩
    | @pass t j todo is' w hs hw hj hgone =>
      obtain rfl : is' = is := by simpa [Event.session, hs] using his
      by_cases hij : i = j
      · subst hij
        obtain rfl : w = v := Option.some.inj (hw.symm.trans hv)
        unfold State.gone at hgone
        cases hd : w.deletedBy with
        | none => simp [hd] at hgone
        | some b =>
          rw [hd] at hgone
          refine Or.inr ⟨b, rfl, ?_⟩
          by_cases hb : b = t
          · exact Or.inl hb
          · exact Or.inr (hm.ended (by simpa [hb] using hgone))
      · exact Or.inl ⟨is'.erase j, by simp [State.put, Event.session],
          (List.mem_erase_of_ne hij).2 hi⟩
    | finish hs =>
      obtain rfl : [] = is := by simpa [Event.session, hs] using his
      cases hi
    | abort hs => exact Or.inl ⟨is, by simpa [State.put, Event.session, hs] using his, hi⟩
    | search hs | insert hs | inserted hs | updateOwner hs | commit hs =>
      simp [Event.session, hs] at his
  · exact Or.inl ⟨is, by rw [hm.ne hne]; exact his, hi⟩

theorem mem_found {P : ρ → Bool} (hv : s.versions[i]? = some v) :
    i ∈ s.found t P ↔ s.born t v = true ∧ s.gone t v = false ∧ P v.row = true := by
  obtain ⟨hi, rfl⟩ := List.getElem?_eq_some_iff.1 hv
  simp [State.found, hi, and_assoc]

end Step

/-! ### Two sessions that replace one set -/

/-- The commands delete the rows of the set `P`, once, and insert `rows` into it. -/
structure Replaces (P : ρ → Bool) (rows : List ρ) (todo : List (Command ρ)) : Prop where
  head : ∃ rest, todo = .deleteWhere P :: rest ∧ ∀ c ∈ rest, ¬ c.Deletes
  inserts : todo.flatMap Command.rows = rows
  within : ∀ row ∈ rows, P row = true

/-- The deletion of `t` has not begun, and nothing in the table is from `t`. -/
structure Waiting (P : ρ → Bool) (s : State τ ρ) (t : τ) : Prop where
  session : ∃ rest, s.sessions t = ⟨.deleteWhere P :: rest, none, .running⟩ ∧
    ∀ c ∈ rest, ¬ c.Deletes
  untouched : ∀ v ∈ s.versions, v.insertedBy ≠ some t ∧ v.deletedBy ≠ some t

/-- What holds while two sessions replace the set `P` and none has been aborted. -/
structure Replacing (key : ρ → κ) (P : ρ → Bool) (rows : Bool → List ρ) (s : State Bool ρ) :
    Prop where
  waiting : ∀ t, (s.sessions t).Begun ∨ Waiting P s t
  inserts : ∀ t row, row ∈ rows t ↔ s.Inserts t row
  ended : ∀ t, s.ended t = true → s.sessions t = ⟨[], none, .committed⟩
  inRange : ∀ t i, s.Visits t i → i < s.versions.length
  own : ∀ t i v, s.versions[i]? = some v → v.insertedBy = some t →
    v.deletedBy ≠ some t ∧ ¬ s.Visits t i
  old : ∀ t i v, (s.sessions t).Begun → s.versions[i]? = some v → v.insertedBy = none →
    P v.row = true → s.Visits t i ∨ ∃ u, v.deletedBy = some u ∧ (u = t ∨ s.ended u = true)
  distinct : ∀ (i j : ℕ) (v w : Version Bool ρ), i ≠ j → s.versions[i]? = some v →
    s.versions[j]? = some w → v.insertedBy ≠ none → key v.row = key w.row →
    v.deletedBy = none → w.deletedBy ≠ none

section Replacing

variable {P : ρ → Bool} {rows : Bool → List ρ} {s s' : State Bool ρ} {e : Event Bool} {t u : Bool}

theorem Replacing.initial {versions : List ρ} {scripts : Bool → List (Command ρ)}
    (h : ∀ t, Replaces P (rows t) (scripts t)) :
    Replacing key P rows (State.initial versions scripts) := by
  have hnew : ∀ v ∈ (State.initial versions scripts).versions,
      v.insertedBy = none ∧ v.deletedBy = none := by
    intro v hv
    obtain ⟨row, -, rfl⟩ := List.mem_map.1 hv
    exact ⟨rfl, rfl⟩
  refine ⟨fun t => ?_, fun t row => ?_, fun t hend => ?_, ?_, fun t i v hv hby => ?_,
    fun t i v hbegun _ _ _ => ?_, fun i j v w _ hv _ hby => ?_⟩
  · obtain ⟨rest, hrest, hdel⟩ := (h t).head
    refine Or.inr ⟨⟨rest, by simp [State.initial, hrest], hdel⟩, fun v hv => ?_⟩
    simp [hnew v hv]
  · rw [← (h t).inserts]
    refine ⟨Or.inl, ?_⟩
    rintro (hrow | ⟨v, hv, hby, -⟩)
    · exact hrow
    · rw [(hnew v hv).1] at hby
      cases hby
  · simp [State.ended, State.initial] at hend
  · rintro t i ⟨is, his, -⟩
    cases his
  · rw [(hnew v (List.mem_of_getElem? hv)).1] at hby
    cases hby
  · obtain ⟨rest, hrest, -⟩ := (h t).head
    exact absurd trivial (hbegun (.deleteWhere P) (by simp [State.initial, hrest]))
  · exact absurd (hnew v (List.mem_of_getElem? hv)).1 hby

/-- Whoever begins a deletion begins that of the set, with nothing in the table from it. -/
theorem Replacing.of_search (h : Replacing key P rows s) {P' : ρ → Bool} {rest : List (Command ρ)}
    (hs : s.sessions t = ⟨.deleteWhere P' :: rest, none, .running⟩) :
    P' = P ∧ (∀ c ∈ rest, ¬ c.Deletes) ∧
      ∀ v ∈ s.versions, v.insertedBy ≠ some t ∧ v.deletedBy ≠ some t := by
  rcases h.waiting t with hb | hw
  · exact absurd trivial (hb (.deleteWhere P') (by rw [hs]; exact List.mem_cons_self))
  · obtain ⟨rest', hrest, hdel⟩ := hw.session
    obtain ⟨rfl, rfl⟩ : P' = P ∧ rest = rest' := by
      rw [hs] at hrest
      simpa using hrest
    exact ⟨rfl, hdel, hw.untouched⟩

/-- Only the beginning of its deletion, or an abort, changes a session that waits. -/
theorem Step.of_waiting (hs : Step key s e s') (hw : Waiting P s u)
    (habort : (s'.sessions u).outcome ≠ .aborted) :
    e = .search u ∧ (s'.sessions u).Begun ∨ e.session ≠ u := by
  obtain ⟨rest, hrest, hdel⟩ := hw.session
  by_cases hu : u = e.session
  · subst hu
    left
    cases hs with
    | search hs =>
      obtain ⟨rfl, rfl⟩ : _ ∧ _ := by simpa [Event.session, hs] using hrest
      exact ⟨rfl, by simpa [State.put, Event.session, Session.Begun] using hdel⟩
    | abort hs => simp [State.put, Event.session] at habort
    | delete hs | pass hs | finish hs | insert hs | inserted hs | updateOwner hs | commit hs =>
      simp [Event.session, hs] at hrest
  · exact Or.inr (Ne.symm hu)

/-- While nobody is aborted, only a version that nobody has deleted is free. -/
theorem eq_none_of_unclaimed {d : Option Bool} (habort : ∀ u, (s.sessions u).outcome ≠ .aborted)
    (h : s.unclaimed d = true) : d = none := by
  cases d with
  | none => rfl
  | some u => exact absurd (by simpa [State.unclaimed] using h) (habort u)

/-- While nobody is aborted, a version out of the way has been deleted. -/
theorem ne_none_of_outOfWay {v : Version Bool ρ}
    (habort : ∀ u, (s.sessions u).outcome ≠ .aborted) (h : s.outOfWay t v = true) :
    v.deletedBy ≠ none := by
  intro hd
  unfold State.outOfWay State.gone at h
  rw [hd] at h
  cases hby : v.insertedBy with
  | none => simp [hby] at h
  | some u => exact habort u (by simpa [hby] using h)

/-- A deletion that begins has to visit the versions of the set that were there before the sessions,
unless a session that it respects has deleted them. -/
theorem Step.old (hs : Step key s (.search u) s') (h : Replacing key P rows s) {i : ℕ}
    {v : Version Bool ρ} (hv : s'.versions[i]? = some v) (hby : v.insertedBy = none)
    (hP : P v.row = true) :
    s'.Visits u i ∨ ∃ w, v.deletedBy = some w ∧ (w = u ∨ s'.ended w = true) := by
  obtain ⟨x, hm⟩ := hs.moves
  cases hs with
  | @search _ P' rest hs =>
    obtain ⟨rfl, -, -⟩ := h.of_search hs
    have hborn : s.born u v = true := by simp [State.born, hby]
    cases hgone : s.gone u v with
    | false =>
      exact Or.inl ⟨_, by simp [State.put], (mem_found (s := s) hv).2 ⟨hborn, hgone, hP⟩⟩
    | true =>
      unfold State.gone at hgone
      cases hd : v.deletedBy with
      | none => simp [hd] at hgone
      | some w =>
        rw [hd] at hgone
        refine Or.inr ⟨w, rfl, ?_⟩
        by_cases hw : w = u
        · exact Or.inl hw
        · exact Or.inr (hm.ended (by simpa [hw] using hgone))

/-- What one event keeps while nobody is aborted. -/
theorem Replacing.step (h : Replacing key P rows s) (hs : Step key s e s')
    (habort' : ∀ u, (s'.sessions u).outcome ≠ .aborted) : Replacing key P rows s' := by
  have habort := hs.outcome_ne habort'
  obtain ⟨x, hm⟩ := hs.moves
  refine ⟨fun u => ?_, fun u row => (h.inserts u row).trans hs.inserts.symm, fun u => ?_,
    fun u i hi => ?_, fun u i v hv hby => ?_, fun u i v hb hv hby hP => ?_,
    fun i j v w hij hv hw hby hk hd => ?_⟩
  · rcases h.waiting u with hb | hw
    · exact Or.inl (hs.begun hb)
    · rcases hs.of_waiting hw (habort' u) with ⟨-, hb⟩ | hne
      · exact Or.inl hb
      · refine Or.inr ⟨?_, fun v hv => ?_⟩
        · rw [hm.ne (Ne.symm hne)]
          exact hw.session
        · obtain ⟨i, hi⟩ := List.getElem?_of_mem hv
          rcases hs.version hi with ⟨v₀, hv₀, -, hby, hdel⟩ | ⟨-, hby, hdel, -⟩
          · obtain ⟨hnot, hnot'⟩ := hw.untouched v₀ (List.mem_of_getElem? hv₀)
            refine ⟨by rwa [hby], ?_⟩
            rcases hdel with hdel | ⟨-, hdel, -⟩
            · rwa [hdel]
            · rw [hdel]
              exact fun he => hne (Option.some.inj he)
          · rw [hby, hdel]
            exact ⟨fun he => hne (Option.some.inj he), by simp⟩
  · by_cases hu : u = e.session
    · subst hu
      cases hs with
      | commit hs => simp [State.put, Event.session]
      | search hs | delete hs | pass hs | finish hs | insert hs | inserted hs | updateOwner hs
      | abort hs => simp [State.ended, State.put, Event.session]
    · unfold State.ended
      rw [hm.ne hu]
      exact h.ended u
  · have hlen : i < s.versions.length := by
      rcases hs.visits hi with hi | ⟨-, P', rest, -, hfound⟩
      · exact h.inRange u i hi
      · exact List.mem_range.1 (List.mem_filter.1 hfound).1
    obtain ⟨v', hv', -⟩ := hs.keeps (List.getElem?_eq_getElem hlen)
    exact (List.getElem?_eq_some_iff.1 hv').1
  · -- a session visits no version of its own, hence does not delete one
    have hvisits : ∀ v₀, s.versions[i]? = some v₀ → v₀.insertedBy = some u →
        ¬ s.Visits u i ∧ ¬ s'.Visits u i := by
      intro v₀ hv₀ hby₀
      have hnot := (h.own u i v₀ hv₀ hby₀).2
      refine ⟨hnot, fun hi => ?_⟩
      rcases hs.visits hi with hi | ⟨-, P', rest, hsession, -⟩
      · exact hnot hi
      · exact ((h.of_search hsession).2.2 v₀ (List.mem_of_getElem? hv₀)).1 hby₀
    rcases hs.version hv with ⟨v₀, hv₀, -, hby₀, hdel⟩ | ⟨rfl, -, hdel, -⟩
    · have hby₀ := hby₀.symm.trans hby
      refine ⟨?_, (hvisits v₀ hv₀ hby₀).2⟩
      rcases hdel with hdel | ⟨hi, hdel, -⟩
      · rw [hdel]
        exact (h.own u i v₀ hv₀ hby₀).1
      · rw [hdel]
        intro he
        rw [Option.some.inj he] at hi
        exact (hvisits v₀ hv₀ hby₀).1 hi
    · refine ⟨by simp [hdel], fun hi => ?_⟩
      rcases hs.visits hi with hi | ⟨-, P', rest, -, hfound⟩
      · exact lt_irrefl _ (h.inRange u _ hi)
      · exact lt_irrefl _ (List.mem_range.1 (List.mem_filter.1 hfound).1)
  · rcases hs.version hv with ⟨v₀, hv₀, hrow, hby₀, hdel⟩ | ⟨-, hnew, -⟩
    · have hold : (s.sessions u).Begun → s'.Visits u i ∨
          ∃ w, v.deletedBy = some w ∧ (w = u ∨ s'.ended w = true) := by
        intro hb
        rcases h.old u i v₀ hb hv₀ (hby₀.symm.trans hby) (by rwa [← hrow]) with hi | ⟨w, hd, hw⟩
        · exact hs.visited hi hv
        · refine Or.inr ⟨w, ?_, hw.imp_right hm.ended⟩
          rcases hdel with hdel | ⟨-, -, hfree⟩
          · exact hdel.trans hd
          · rw [eq_none_of_unclaimed habort hfree] at hd
            cases hd
      rcases h.waiting u with hb₀ | hw
      · exact hold hb₀
      · rcases hs.of_waiting hw (habort' u) with ⟨rfl, -⟩ | hne
        · exact hs.old h hv hby hP
        · exact hold (by rwa [hm.ne (Ne.symm hne)] at hb)
    · rw [hby] at hnew
      cases hnew
  · rcases hs.version hv with ⟨v₀, hv₀, hrow, hby₀, hdel⟩ | ⟨rfl, -, -, hout⟩
    · have hd₀ : v₀.deletedBy = none := by
        rcases hdel with hdel | ⟨-, hdel, -⟩
        · exact hdel.symm.trans hd
        · rw [hdel] at hd
          cases hd
      rcases hs.version hw with ⟨w₀, hw₀, hrow', -, hdel'⟩ | ⟨rfl, -, -, hout⟩
      · have hne := h.distinct i j v₀ w₀ hij hv₀ hw₀ (by rwa [← hby₀]) (by rwa [← hrow, ← hrow']) hd₀
        rcases hdel' with hdel' | ⟨-, hdel', -⟩
        · rwa [hdel']
        · simp [hdel']
      · exact absurd hd₀ (ne_none_of_outOfWay habort
          (hout v₀ (List.mem_of_getElem? hv₀) (by rwa [← hrow])))
    · rcases hs.version hw with ⟨w₀, hw₀, hrow', -, hdel'⟩ | ⟨rfl, -⟩
      · have hne := ne_none_of_outOfWay habort
          (hout w₀ (List.mem_of_getElem? hw₀) (by rw [← hrow', hk]))
        rcases hdel' with hdel' | ⟨-, hdel', -⟩
        · rwa [hdel']
        · simp [hdel']
      · exact absurd rfl hij

/-! ### Overlapping deletions -/

/-- A deletion begins while the other session is between the beginning of its own and its end. -/
def Overlaps (s : State Bool ρ) : Event Bool → Prop
  | .search t => (s.sessions !t).Begun ∧ (s.sessions !t).outcome = .running
  | _ => False

/-- One session has committed before the deletion of the other began, which leaves nothing of it. -/
def Apart (s : State Bool ρ) : Prop :=
  (∀ t, (s.sessions t).Begun) → ∃ f, s.ended f = true ∧ ∀ i v, s.versions[i]? = some v →
    (v.insertedBy = some f → s.Visits (!f) i ∨ v.deletedBy = some (!f)) ∧
    (v.insertedBy = some (!f) → v.deletedBy ≠ some f)

/-- Neither session deletes what the other one inserts. -/
def Overlapped (s : State Bool ρ) : Prop :=
  (∀ t, (s.sessions t).Begun) ∧ ∀ t i v, s.versions[i]? = some v → v.insertedBy = some t →
    v.deletedBy ≠ some (!t) ∧ ¬ s.Visits (!t) i

theorem eq_not_of_ne (h : u ≠ t) : u = !t := by
  cases u <;> cases t <;> simp_all

/-- A session that has begun its deletion finds nothing more to visit. -/
theorem Step.visits_of_begun (hs : Step key s e s') (hu : (s.sessions u).Begun) {i : ℕ}
    (hi : s'.Visits u i) : s.Visits u i := by
  rcases hs.visits hi with hi | ⟨-, P', rest, hsession, -⟩
  · exact hi
  · exact absurd trivial (hu (.deleteWhere P') (by rw [hsession]; exact List.mem_cons_self))

theorem Overlapped.step (h : Overlapped s) (hr : Replacing key P rows s) (hs : Step key s e s') :
    Overlapped s' := by
  refine ⟨fun t => hs.begun (h.1 t), fun t i v hv hby => ?_⟩
  rcases hs.version hv with ⟨v₀, hv₀, -, hby₀, hdel⟩ | ⟨rfl, -, hdel, -⟩
  · obtain ⟨hnot, hvisits⟩ := h.2 t i v₀ hv₀ (hby₀.symm.trans hby)
    refine ⟨?_, fun hi => hvisits (hs.visits_of_begun (h.1 _) hi)⟩
    rcases hdel with hdel | ⟨hi, hdel, -⟩
    · rwa [hdel]
    · rw [hdel]
      intro he
      rw [Option.some.inj he] at hi
      exact hvisits hi
  · refine ⟨by simp [hdel], fun hi => ?_⟩
    exact lt_irrefl _ (hr.inRange _ _ (hs.visits_of_begun (h.1 _) hi))

/-- When two deletions overlap, the later one does not see what the other session inserts. -/
theorem Overlaps.overlapped (h : Overlaps s e) (hr : Replacing key P rows s)
    (hs : Step key s e s') : Overlapped s' := by
  obtain ⟨x, hm⟩ := hs.moves
  cases hs with
  | @search t P' rest hs =>
    obtain ⟨hbegun, hrun⟩ := h
    obtain ⟨rfl, hrest, huntouched⟩ := hr.of_search hs
    refine ⟨fun u => ?_, fun u i v hv hby => ?_⟩
    · by_cases hu : u = t
      · subst hu
        simpa [State.put, Session.Begun] using hrest
      · rw [hm.ne hu, eq_not_of_ne hu]
        exact hbegun
    · have hv' := huntouched v (List.mem_of_getElem? hv)
      obtain rfl : u = !t := eq_not_of_ne fun hu => hv'.1 (hu ▸ hby)
      rw [Bool.not_not]
      refine ⟨hv'.2, ?_⟩
      rintro ⟨is, his, hi⟩
      obtain rfl : s.found t P' = is := by simpa [State.put] using his
      have hborn := ((mem_found (s := s) hv).1 hi).1
      simp [State.born, hby, State.ended, hrun] at hborn
  | delete | pass | finish | insert | inserted | updateOwner | commit | abort => exact h.elim

/-- A deletion that begins after the other session has committed sees all that it has inserted. -/
theorem apart_of_search (h : ¬ Overlaps s (.search t)) (hr : Replacing key P rows s)
    (hs : Step key s (.search t) s') (hP : ∀ t, ∀ row ∈ rows t, P row = true)
    (habort : ∀ u, (s.sessions u).outcome ≠ .aborted) : Apart s' := by
  intro hbegun'
  obtain ⟨x, hm⟩ := hs.moves
  cases hs with
  | @search _ P' rest hs =>
    obtain ⟨rfl, -, huntouched⟩ := hr.of_search hs
    have hend : s.ended (!t) = true := by
      have hbegun : (s.sessions (!t)).Begun := by
        have := hbegun' (!t)
        rwa [hm.ne (by simp [Event.session])] at this
      have hrun : (s.sessions (!t)).outcome ≠ .running := fun hrun => h ⟨hbegun, hrun⟩
      cases hout : (s.sessions (!t)).outcome with
      | running => exact absurd hout hrun
      | aborted => exact absurd hout (habort _)
      | committed => simp [State.ended, hout]
    refine ⟨!t, hm.ended hend, fun i v hv => ?_⟩
    have hv' := huntouched v (List.mem_of_getElem? hv)
    rw [Bool.not_not]
    refine ⟨fun hby => Or.inl ⟨s.found t P', by simp [State.put], ?_⟩, fun hby => absurd hby hv'.1⟩
    refine (mem_found (s := s) hv).2 ⟨by simp [State.born, hby, hend], ?_, ?_⟩
    · unfold State.gone
      cases hd : v.deletedBy with
      | none => rfl
      | some w =>
        exfalso
        by_cases hw : w = t
        · exact hv'.2 (hw ▸ hd)
        · exact (hr.own (!t) i v hv hby).1 (eq_not_of_ne hw ▸ hd)
    · exact hP (!t) v.row ((hr.inserts _ _).2 (Or.inr ⟨v, List.mem_of_getElem? hv, hby, rfl⟩))

theorem Apart.step (h : Apart s) (hr : Replacing key P rows s) (hr' : Replacing key P rows s')
    (hs : Step key s e s') (hno : ¬ Overlaps s e) (hP : ∀ t, ∀ row ∈ rows t, P row = true)
    (habort' : ∀ u, (s'.sessions u).outcome ≠ .aborted) : Apart s' := by
  by_cases hsearch : ∃ t, e = .search t
  · obtain ⟨t, rfl⟩ := hsearch
    exact apart_of_search hno hr hs hP (hs.outcome_ne habort')
  intro hbegun'
  obtain ⟨x, hm⟩ := hs.moves
  have hbegun : ∀ u, (s.sessions u).Begun := by
    intro u
    rcases hr.waiting u with hb | hw
    · exact hb
    · rcases hs.of_waiting hw (habort' u) with ⟨rfl, -⟩ | hne
      · exact absurd ⟨u, rfl⟩ hsearch
      · have := hbegun' u
        rwa [hm.ne (Ne.symm hne)] at this
  obtain ⟨f, hf, hall⟩ := h hbegun
  have hactor : e.session = !f := by
    refine eq_not_of_ne ?_
    rintro rfl
    simp [State.ended, hm.running] at hf
  refine ⟨f, hm.ended hf, fun i v hv => ?_⟩
  rcases hs.version hv with ⟨v₀, hv₀, -, hby₀, hdel⟩ | ⟨rfl, hnew, hdel, -⟩
  · rw [hby₀]
    refine ⟨fun hby => ?_, fun hby => ?_⟩
    · rcases (hall i v₀ hv₀).1 hby with hi | hd
      · rcases hs.visited hi hv with hi | ⟨w, hd, hw⟩
        · exact Or.inl hi
        · obtain rfl : w = !f := eq_not_of_ne fun hwf =>
            (hr'.own f i v hv (hby₀.trans hby)).1 (hwf ▸ hd)
          exact Or.inr hd
      · rcases hdel with hdel | ⟨-, hdel, -⟩
        · exact Or.inr (hdel.trans hd)
        · exact Or.inr (hactor ▸ hdel)
    · rcases hdel with hdel | ⟨-, hdel, -⟩
      · rw [hdel]
        exact (hall i v₀ hv₀).2 hby
      · rw [hdel, hactor]
        simp
  · rw [hnew, hactor, hdel]
    simp

/-! ### What two replacements leave -/

/-- Where all sessions have committed, the rows that nobody has deleted are stored. -/
theorem mem_stored (hdone : ∀ u, s.ended u = true) {row : ρ} :
    row ∈ s.stored ↔ ∃ v ∈ s.versions, v.deletedBy = none ∧ v.row = row := by
  have hlive : ∀ v : Version Bool ρ, s.live v = true ↔ v.deletedBy = none := by
    intro v
    unfold State.live
    cases v.insertedBy <;> cases v.deletedBy <;> simp [hdone]
  unfold State.stored
  simp only [List.mem_map, List.mem_filter, hlive, and_assoc]

/-- What is stored of the set in the end has been inserted by one of the sessions. -/
theorem Replacing.stored (h : Replacing key P rows s) (hdone : ∀ u, s.ended u = true) {row : ρ} :
    row ∈ s.stored.filter P ↔ P row = true ∧
      ∃ (t : Bool) (i : ℕ) (v : Version Bool ρ), s.versions[i]? = some v ∧
        v.insertedBy = some t ∧ v.deletedBy = none ∧ v.row = row := by
  rw [List.mem_filter, mem_stored hdone, and_comm]
  refine and_congr_right fun hP => ⟨?_, ?_⟩
  · rintro ⟨v, hv, hd, rfl⟩
    obtain ⟨i, hi⟩ := List.getElem?_of_mem hv
    cases hby : v.insertedBy with
    | some t => exact ⟨t, i, v, hi, hby, hd, rfl⟩
    | none =>
      exfalso
      have hend := h.ended true (hdone true)
      rcases h.old true i v (by simp [hend, Session.Begun]) hi hby hP with ⟨is, his, -⟩ | ⟨w, hw, -⟩
      · simp [hend] at his
      · rw [hd] at hw
        cases hw
  · rintro ⟨t, i, v, hv, -, hd, rfl⟩
    exact ⟨v, List.mem_of_getElem? hv, hd, rfl⟩

/-- What a session was to insert it has inserted in the end. -/
theorem Replacing.inserted (h : Replacing key P rows s) (hdone : ∀ u, s.ended u = true) {row : ρ} :
    row ∈ rows t ↔ ∃ (i : ℕ) (v : Version Bool ρ), s.versions[i]? = some v ∧
      v.insertedBy = some t ∧ v.row = row := by
  rw [h.inserts t row, State.Inserts, h.ended t (hdone t)]
  constructor
  · rintro (hrow | ⟨v, hv, hby, hrow⟩)
    · simp at hrow
    · obtain ⟨i, hi⟩ := List.getElem?_of_mem hv
      exact ⟨i, v, hi, hby, hrow⟩
  · rintro ⟨i, v, hv, hby, hrow⟩
    exact Or.inr ⟨v, List.mem_of_getElem? hv, hby, hrow⟩

/-- Deletions apart: what the later session inserts is stored. -/
theorem Apart.stored (h : Apart s) (hr : Replacing key P rows s)
    (hP : ∀ t, ∀ row ∈ rows t, P row = true) (hdone : ∀ u, s.ended u = true) :
    ∃ t, ∀ row, row ∈ s.stored.filter P ↔ row ∈ rows t := by
  have hbegun : ∀ t, (s.sessions t).Begun := fun t => by simp [hr.ended t (hdone t), Session.Begun]
  obtain ⟨f, -, hall⟩ := h hbegun
  refine ⟨!f, fun row => ?_⟩
  rw [hr.stored hdone, hr.inserted hdone]
  constructor
  · rintro ⟨-, t, i, v, hv, hby, hd, rfl⟩
    have ht : t ≠ f := by
      rintro rfl
      rcases (hall i v hv).1 hby with ⟨is, his, -⟩ | hdel
      · simp [hr.ended _ (hdone (!t))] at his
      · rw [hd] at hdel
        cases hdel
    exact ⟨i, v, hv, eq_not_of_ne ht ▸ hby, rfl⟩
  · rintro ⟨i, v, hv, hby, rfl⟩
    refine ⟨hP (!f) _ ((hr.inserted hdone).2 ⟨i, v, hv, hby, rfl⟩), !f, i, v, hv, hby, ?_, rfl⟩
    cases hd : v.deletedBy with
    | none => rfl
    | some w =>
      exfalso
      by_cases hw : w = f
      · exact (hall i v hv).2 hby (hw ▸ hd)
      · exact (hr.own (!f) i v hv hby).1 (eq_not_of_ne hw ▸ hd)

/-- Overlapping deletions delete nothing that the sessions have inserted. -/
theorem Overlapped.deletedBy (h : Overlapped s) (hr : Replacing key P rows s) {i : ℕ}
    {v : Version Bool ρ} (hv : s.versions[i]? = some v) (hby : v.insertedBy = some t) :
    v.deletedBy = none := by
  cases hd : v.deletedBy with
  | none => rfl
  | some w =>
    exfalso
    by_cases hw : w = t
    · exact (hr.own t i v hv hby).1 (hw ▸ hd)
    · exact (h.2 t i v hv hby).1 (eq_not_of_ne hw ▸ hd)

/-- Overlapping deletions: what either session inserts is stored. -/
theorem Overlapped.stored (h : Overlapped s) (hr : Replacing key P rows s)
    (hP : ∀ t, ∀ row ∈ rows t, P row = true) (hdone : ∀ u, s.ended u = true) (row : ρ) :
    row ∈ s.stored.filter P ↔ ∃ t, row ∈ rows t := by
  rw [hr.stored hdone]
  constructor
  · rintro ⟨-, t, i, v, hv, hby, -, rfl⟩
    exact ⟨t, (hr.inserted hdone).2 ⟨i, v, hv, hby, rfl⟩⟩
  · rintro ⟨t, ht⟩
    obtain ⟨i, v, hv, hby, rfl⟩ := (hr.inserted hdone).1 ht
    exact ⟨hP t _ ht, t, i, v, hv, hby, h.deletedBy hr hv hby, rfl⟩

/-- Overlapping deletions leave what one session inserts only if one of them inserts nothing: two
rows with one key are not both stored. -/
theorem Overlapped.empty (h : Overlapped s) (hr : Replacing key P rows s)
    (hP : ∀ t, ∀ row ∈ rows t, P row = true) (hdone : ∀ u, s.ended u = true) {t : Bool}
    (ht : ∀ row, row ∈ s.stored.filter P ↔ row ∈ rows t) : rows (!t) = [] := by
  by_contra hne
  obtain ⟨row, hrow⟩ := List.exists_mem_of_ne_nil _ hne
  have hrow' : row ∈ rows t := (ht row).1 ((h.stored hr hP hdone row).2 ⟨!t, hrow⟩)
  obtain ⟨i, v, hv, hby, hvrow⟩ := (hr.inserted hdone).1 hrow
  obtain ⟨j, w, hw, hby', hwrow⟩ := (hr.inserted hdone).1 hrow'
  have hij : i ≠ j := by
    rintro rfl
    obtain rfl : v = w := Option.some.inj (hv.symm.trans hw)
    rw [hby] at hby'
    simp at hby'
  exact hr.distinct i j v w hij hv hw (by simp [hby]) (by rw [hvrow, hwrow])
    (h.deletedBy hr hv hby) (h.deletedBy hr hw hby')

section Runs

variable {versions : List ρ} {scripts : Bool → List (Command ρ)} {s₀ : State Bool ρ}
  {es : List (Event Bool)} {ok : State Bool ρ → Event Bool → Prop}

/-- Who is not aborted in the end has not been aborted on the way. -/
theorem outcome_ne_of_run (hrun : Run (Mvcc.step key) ok s₀ es s)
    (habort : ∀ u, (s.sessions u).outcome ≠ .aborted) :
    ∀ u, (s₀.sessions u).outcome ≠ .aborted := by
  induction hrun with
  | nil s => exact habort
  | cons _ hstep _ ih => exact (step_cases hstep).outcome_ne (ih habort)

theorem Replacing.run (h : Replacing key P rows s₀) (hrun : Run (Mvcc.step key) ok s₀ es s)
    (habort : ∀ u, (s.sessions u).outcome ≠ .aborted) : Replacing key P rows s := by
  refine hrun.invariant (I := fun s => (∀ u, (s.sessions u).outcome ≠ .aborted) →
    Replacing key P rows s) ?_ (fun _ => h) habort
  intro s e s' ih _ hstep habort'
  have hs := step_cases hstep
  exact (ih (hs.outcome_ne habort')).step hs habort'

theorem Apart.run (h : Apart s₀) (hr : Replacing key P rows s₀)
    (hrun : Run (Mvcc.step key) (fun s e => ¬ Overlaps s e) s₀ es s)
    (hP : ∀ t, ∀ row ∈ rows t, P row = true)
    (habort : ∀ u, (s.sessions u).outcome ≠ .aborted) : Apart s := by
  refine (hrun.invariant (I := fun s => (∀ u, (s.sessions u).outcome ≠ .aborted) →
    Replacing key P rows s ∧ Apart s) ?_ (fun _ => ⟨hr, h⟩) habort).2
  intro s e s' ih hno hstep habort'
  have hs := step_cases hstep
  obtain ⟨hr, h⟩ := ih (hs.outcome_ne habort')
  have hr' := hr.step hs habort'
  exact ⟨hr', h.step hr hr' hs hno hP habort'⟩

theorem Overlapped.run (h : Overlapped s₀) (hr : Replacing key P rows s₀)
    (hrun : Run (Mvcc.step key) ok s₀ es s)
    (habort : ∀ u, (s.sessions u).outcome ≠ .aborted) : Overlapped s := by
  refine (hrun.invariant (I := fun s => (∀ u, (s.sessions u).outcome ≠ .aborted) →
    Replacing key P rows s ∧ Overlapped s) ?_ (fun _ => ⟨hr, h⟩) habort).2
  intro s e s' ih _ hstep habort'
  have hs := step_cases hstep
  obtain ⟨hr, h⟩ := ih (hs.outcome_ne habort')
  exact ⟨hr.step hs habort', h.step hr hs⟩

theorem Apart.initial (h : ∀ t, Replaces P (rows t) (scripts t)) :
    Apart (State.initial versions scripts) := by
  intro hbegun
  obtain ⟨rest, hrest, -⟩ := (h true).head
  exact absurd trivial (hbegun true (.deleteWhere P) (by simp [State.initial, hrest]))

/-- Two sessions that replace a set and commit leave what one of them inserts if and only if one of
them inserts nothing or their deletions do not overlap. -/
theorem replaced_iff (h : ∀ t, Replaces P (rows t) (scripts t))
    (hrun : Run (Mvcc.step key) (fun _ _ => True) (State.initial versions scripts) es s)
    (hdone : ∀ t, s.ended t = true) :
    (∃ t, ∀ row, row ∈ s.stored.filter P ↔ row ∈ rows t) ↔
      (∃ t, rows t = []) ∨
        Run (Mvcc.step key) (fun s e => ¬ Overlaps s e) (State.initial versions scripts) es s := by
  have habort : ∀ u, (s.sessions u).outcome ≠ .aborted := fun u => by
    have := hdone u
    unfold State.ended at this
    simp_all
  have hP : ∀ t, ∀ row ∈ rows t, P row = true := fun t => (h t).within
  have hinit : Replacing key P rows (State.initial versions scripts) := .initial h
  have hr := hinit.run hrun habort
  rcases (hrun.forall_or_exists : Run (Mvcc.step key) (fun s e => ¬ Overlaps s e) _ es s ∨ _) with
    hapart | hover
  · exact iff_of_true (((Apart.initial h).run hinit hapart hP habort).stored hr hP hdone)
      (Or.inr hapart)
  · obtain ⟨es₁, e, es₂, m, m', -, hrun₁, hoverlaps, hstep, hrun₂⟩ := hover
    have hs := step_cases hstep
    have habort' := outcome_ne_of_run hrun₂ habort
    have hm := hinit.run hrun₁ (hs.outcome_ne habort')
    have hover : Overlapped s :=
      ((not_not.1 hoverlaps).overlapped hm hs).run (hm.step hs habort') hrun₂ habort
    constructor
    · rintro ⟨t, ht⟩
      exact Or.inl ⟨!t, hover.empty hr hP hdone ht⟩
    · rintro (⟨t, ht⟩ | hapart)
      · refine ⟨!t, fun row => ?_⟩
        rw [hover.stored hr hP hdone]
        constructor
        · rintro ⟨u, hu⟩
          have hut : u ≠ t := by
            rintro rfl
            simp [ht] at hu
          rwa [eq_not_of_ne hut] at hu
        · exact fun hrow => ⟨!t, hrow⟩
      · exact ((Apart.initial h).run hinit hapart hP habort).stored hr hP hdone

end Runs

end Replacing

end Mvcc

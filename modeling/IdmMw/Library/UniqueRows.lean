import Mathlib.Data.List.Nodup
import Mathlib.Data.Set.Insert

/-!
# A table with a unique column

Any number of programs insert rows into a table in which a column is unique. The insertions are served
in any order, and one is accepted exactly if no row has its key.

* `own`: what one of the programs asks for;
* `Inserts`: the insertions are served one after the other;
* `accepted_iff_nodup`: all are accepted exactly if their keys differ and are new;
* `accepted_iff`: the same of programs that each insert once.
-/

namespace UniqueRows

variable {ι κ E : Type}

/-- What one of the programs asks for. -/
def own [DecidableEq ι] (i : ι) (log : List (ι × E)) : List E := (log.filter (·.1 = i)).map (·.2)

/-- The calls of the programs, served one after the other; an insertion has a key, and is accepted or
not. -/
inductive Inserts (insertion : E → Option (κ × Bool)) : Set κ → List (ι × E) → Set κ → Prop
  | nil {s : Set κ} : Inserts insertion s [] s
  | other {s s' : Set κ} {i : ι} {e : E} {log : List (ι × E)} (h : insertion e = none)
      (rest : Inserts insertion s log s') : Inserts insertion s ((i, e) :: log) s'
  | accepted {s s' : Set κ} {i : ι} {e : E} {log : List (ι × E)} {k : κ}
      (h : insertion e = some (k, true)) (hnew : k ∉ s)
      (rest : Inserts insertion (insert k s) log s') : Inserts insertion s ((i, e) :: log) s'
  | refused {s s' : Set κ} {i : ι} {e : E} {log : List (ι × E)} {k : κ}
      (h : insertion e = some (k, false)) (hold : k ∈ s) (rest : Inserts insertion s log s') :
      Inserts insertion s ((i, e) :: log) s'

variable {insertion : E → Option (κ × Bool)} {s s' : Set κ} {log : List (ι × E)} {key : ι → κ}

/-- The insertions of a log, with the program that makes each. -/
def insertions (insertion : E → Option (κ × Bool)) (log : List (ι × E)) : List (ι × κ × Bool) :=
  log.filterMap fun call => (insertion call.2).map (call.1, ·)

theorem insertions_cons {i : ι} {e : E} : insertions insertion ((i, e) :: log) =
    ((insertion e).map (i, ·)).toList ++ insertions insertion log := by
  unfold insertions
  rw [List.filterMap_cons]
  cases insertion e <;> rfl

/-- All insertions are accepted exactly if their keys differ, and none was there before. -/
theorem accepted_iff_nodup (h : Inserts insertion s log s') :
    (∀ e ∈ insertions insertion log, e.2.2 = true) ↔
      ((insertions insertion log).map (·.2.1)).Nodup ∧
        ∀ e ∈ insertions insertion log, e.2.1 ∉ s := by
  induction h with
  | nil => exact ⟨fun _ => ⟨List.nodup_nil, fun e he => absurd he List.not_mem_nil⟩,
      fun _ e he => absurd he List.not_mem_nil⟩
  | other h rest ih =>
    rw [insertions_cons, h]
    exact ih
  | @accepted s s' i e log k h hnew rest ih =>
    rw [insertions_cons, h]
    show (∀ e ∈ (i, k, true) :: insertions insertion log, e.2.2 = true) ↔
      (k :: (insertions insertion log).map (·.2.1)).Nodup ∧
        ∀ e ∈ (i, k, true) :: insertions insertion log, e.2.1 ∉ s
    rw [List.forall_mem_cons, List.forall_mem_cons, List.nodup_cons, ih]
    have hk : k ∉ (insertions insertion log).map (·.2.1) ↔
        ∀ e ∈ insertions insertion log, e.2.1 ≠ k := by
      rw [List.mem_map]
      exact ⟨fun h e he heq => h ⟨e, he, heq⟩, fun h ⟨e, he, heq⟩ => h e he heq⟩
    have hinsert : (∀ e ∈ insertions insertion log, e.2.1 ∉ insert k s) ↔
        (∀ e ∈ insertions insertion log, e.2.1 ≠ k) ∧
          ∀ e ∈ insertions insertion log, e.2.1 ∉ s := by
      rw [← forall₂_and]
      exact forall₂_congr fun e _ => not_or
    rw [hk, hinsert]
    tauto
  | @refused s s' i e log k h hold rest ih =>
    rw [insertions_cons, h]
    refine iff_of_false (fun hall => ?_) (fun hall => ?_)
    · cases hall (i, k, false) List.mem_cons_self
    · exact hall.2 (i, k, false) List.mem_cons_self hold

variable [DecidableEq ι]

theorem own_cons_self {i : ι} {e : E} : own i ((i, e) :: log) = e :: own i log := by
  unfold own
  rw [List.filter_cons_of_pos (by simp), List.map_cons]

theorem own_cons_of_ne {i j : ι} {e : E} (h : j ≠ i) : own i ((j, e) :: log) = own i log := by
  unfold own
  rw [List.filter_cons_of_neg (by simpa using h)]

theorem own_insertions (i : ι) :
    own i (insertions insertion log) = (own i log).filterMap insertion := by
  induction log with
  | nil => rfl
  | cons call log ih =>
    obtain ⟨j, e⟩ := call
    rw [insertions_cons]
    by_cases hj : j = i
    · subst hj
      rw [own_cons_self, List.filterMap_cons]
      cases insertion e with
      | none => exact ih
      | some a => exact own_cons_self.trans (congrArg (a :: ·) ih)
    · rw [own_cons_of_ne hj]
      cases insertion e with
      | none => exact ih
      | some a => exact (own_cons_of_ne hj).trans ih

theorem mem_own {i : ι} {e : E} : e ∈ own i log ↔ (i, e) ∈ log := by
  unfold own
  constructor
  · intro h
    obtain ⟨⟨j, e⟩, hfilter, rfl⟩ := List.mem_map.1 h
    obtain ⟨hlog, hj⟩ := List.mem_filter.1 hfilter
    obtain rfl : j = i := of_decide_eq_true hj
    exact hlog
  · exact fun h => List.mem_map.2 ⟨(i, e), List.mem_filter.2 ⟨h, decide_eq_true rfl⟩, rfl⟩

/-- Where each program inserts once, all insertions are accepted exactly if their keys differ and none
was there before. -/
theorem accepted_iff (h : Inserts insertion s log s')
    (hone : ∀ i, ∃ accepted, (own i log).filterMap insertion = [(key i, accepted)]) :
    (∀ i, (own i log).filterMap insertion = [(key i, true)]) ↔
      Function.Injective key ∧ ∀ i, key i ∉ s := by
  have hown : ∀ i, ∃ accepted, own i (insertions insertion log) = [(key i, accepted)] :=
    fun i => (hone i).imp fun _ hi => (own_insertions i).trans hi
  have hkey : ∀ e ∈ insertions insertion log, e.2.1 = key e.1 := by
    rintro ⟨i, a⟩ he
    obtain ⟨accepted, hi⟩ := hown i
    have hmem := mem_own.2 he
    rw [hi] at hmem
    exact congrArg Prod.fst (List.mem_singleton.1 hmem)
  have hmem : ∀ i, i ∈ (insertions insertion log).map Prod.fst := by
    intro i
    obtain ⟨accepted, hi⟩ := hown i
    have hmem : (key i, accepted) ∈ own i (insertions insertion log) := by
      rw [hi]
      exact List.mem_singleton.2 rfl
    exact List.mem_map.2 ⟨_, mem_own.1 hmem, rfl⟩
  have hnodup : ((insertions insertion log).map Prod.fst).Nodup := by
    refine List.nodup_iff_count_le_one.2 fun i => ?_
    obtain ⟨accepted, hi⟩ := hown i
    have hlength := congrArg List.length hi
    unfold own at hlength
    rw [List.length_map, ← List.countP_eq_length_filter] at hlength
    rw [List.count, List.countP_map]
    refine le_of_eq (Eq.trans (List.countP_congr fun e _ => ?_) hlength)
    show (e.1 == i) = true ↔ decide (e.1 = i) = true
    rw [beq_iff_eq, decide_eq_true_iff]
  have hkeys : (insertions insertion log).map (·.2.1) =
      ((insertions insertion log).map Prod.fst).map key := by
    rw [List.map_map]
    exact List.map_congr_left hkey
  have hall : (∀ i, (own i log).filterMap insertion = [(key i, true)]) ↔
      ∀ e ∈ insertions insertion log, e.2.2 = true := by
    constructor
    · rintro hall ⟨i, a⟩ he
      have hmem := mem_own.2 he
      rw [own_insertions, hall i] at hmem
      exact congrArg Prod.snd (List.mem_singleton.1 hmem)
    · intro hall i
      obtain ⟨accepted, hi⟩ := hown i
      have hmem : (key i, accepted) ∈ own i (insertions insertion log) := by
        rw [hi]
        exact List.mem_singleton.2 rfl
      have haccepted : accepted = true := hall _ (mem_own.1 hmem)
      rw [← own_insertions, hi, haccepted]
  rw [hall, accepted_iff_nodup h, hkeys, List.nodup_map_iff_inj_on hnodup]
  refine and_congr ⟨fun hinj i j hij => hinj i (hmem i) j (hmem j) hij,
    fun hinj i _ j _ hij => hinj hij⟩ ⟨fun hnew i => ?_, fun hnew e he => ?_⟩
  · obtain ⟨e, he, rfl⟩ := List.mem_map.1 (hmem i)
    rw [← hkey e he]
    exact hnew e he
  · rw [hkey e he]
    exact hnew e.1

end UniqueRows

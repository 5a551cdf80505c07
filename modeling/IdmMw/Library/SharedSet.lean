import Mathlib.Data.Set.Basic
import Mathlib.Tactic.Tauto

/-!
# A set that two programs read and write back

Two programs change a set that is elsewhere: each reads the set, and writes back what it has read with
its change. Their calls come in any order, and a call is served at once.

* `Change`: what is put into the set, and what is taken out;
* `Serves`: the calls of both are served one after the other;
* `final_of_updates`: the set at the end is that of the two changes one after the other, or, where
  both have read before one writes, that of the change that is written last alone;
* `noLost_iff`: no change is lost unless that of the first to write is overtaken and had an effect.
-/

namespace SharedSet

variable {κ E : Type}

/-- What is put into a set and what is taken out of it. -/
structure Change (κ : Type) where
  added : Set κ
  removed : Set κ
  disjoint : ∀ k ∈ added, k ∉ removed

def Change.apply (c : Change κ) (s : Set κ) : Set κ :=
  {k | k ∈ c.added ∨ k ∈ s ∧ k ∉ c.removed}

theorem Change.mem_apply {c : Change κ} {s : Set κ} {k : κ} :
    k ∈ c.apply s ↔ k ∈ c.added ∨ k ∈ s ∧ k ∉ c.removed := Iff.rfl

inductive Access (κ : Type)
  | read (seen : Set κ)
  | write (members : Set κ)

variable {access : E → Option (Access κ)} {i : Bool} {e : E} {s s' seen members : Set κ}
  {log : List (Bool × E)}

/-- The calls are served one after the other; each is made by one of two programs. -/
inductive Serves (access : E → Option (Access κ)) : Set κ → List (Bool × E) → Set κ → Prop
  | nil {s : Set κ} : Serves access s [] s
  | other {i : Bool} {e : E} {s s' : Set κ} {log : List (Bool × E)} (h : access e = none)
      (rest : Serves access s log s') : Serves access s ((i, e) :: log) s'
  | read {i : Bool} {e : E} {s s' : Set κ} {log : List (Bool × E)} (h : access e = some (.read s))
      (rest : Serves access s log s') : Serves access s ((i, e) :: log) s'
  | write {i : Bool} {e : E} {s s' members : Set κ} {log : List (Bool × E)}
      (h : access e = some (.write members)) (rest : Serves access members log s') :
      Serves access s ((i, e) :: log) s'

/-- The calls of one program. -/
def own (i : Bool) (log : List (Bool × E)) : List E := (log.filter (·.1 = i)).map (·.2)

/-- The calls read the set and write it back with the change, with other calls around. -/
def Updates (access : E → Option (Access κ)) (c : Change κ) (es : List E) : Prop :=
  ∃ seen, es.filterMap access = [.read seen, .write (c.apply seen)]

/-- What each program has put in and the other has not taken out is there at the end, and what it has
taken out and the other has not put in is not. -/
def NoLost (c : Bool → Change κ) (s' : Set κ) : Prop :=
  ∀ i k, (k ∈ (c i).added → k ∉ (c (!i)).removed → k ∈ s') ∧
    (k ∈ (c i).removed → k ∉ (c (!i)).added → k ∉ s')

/-- The calls that read or write. -/
def accesses (access : E → Option (Access κ)) (log : List (Bool × E)) : List (Bool × Access κ) :=
  log.filterMap fun call => (access call.2).map (call.1, ·)

def Access.isWrite : Access κ → Bool
  | .read _ => false
  | .write _ => true

/-- The other reads, the program writes, and then the other writes. -/
def overtaking (i : Bool) : List (Bool × Bool) := [(!i, false), (i, true), (!i, true)]

/-- The program writes after the other has read and before the other writes. -/
def Overtaken (access : E → Option (Access κ)) (log : List (Bool × E)) (i : Bool) : Prop :=
  (overtaking i).Sublist ((accesses access log).map fun call => (call.1, call.2.isWrite))

/-- The change leaves the set as it is, except for what the other change is about. -/
def Ineffective (c c' : Change κ) (s : Set κ) : Prop :=
  ∀ k, k ∉ c'.added → k ∉ c'.removed → (k ∈ c.apply s ↔ k ∈ s)

/-! ### The accesses of a log -/

theorem own_cons_self : own i ((i, e) :: log) = e :: own i log := by
  unfold own
  rw [List.filter_cons_of_pos (by simp), List.map_cons]

theorem own_cons_other : own i ((!i, e) :: log) = own i log := by
  unfold own
  rw [List.filter_cons_of_neg (by simp)]

theorem accesses_cons : accesses access ((i, e) :: log) =
    ((access e).map (i, ·)).toList ++ accesses access log := by
  unfold accesses
  rw [List.filterMap_cons]
  cases access e <;> rfl

theorem own_accesses : own i (accesses access log) = (own i log).filterMap access := by
  induction log with
  | nil => rfl
  | cons call log ih =>
    obtain ⟨j, e⟩ := call
    rw [accesses_cons]
    obtain rfl | rfl : j = i ∨ j = !i := by cases j <;> cases i <;> simp
    · rw [own_cons_self, List.filterMap_cons]
      cases access e with
      | none => exact ih
      | some a => exact own_cons_self.trans (congrArg (a :: ·) ih)
    · rw [own_cons_other]
      cases access e with
      | none => exact ih
      | some a => exact own_cons_other.trans ih

theorem Serves.accesses (h : Serves access s log s') : Serves some s (accesses access log) s' := by
  induction h with
  | nil => exact .nil
  | other h rest ih =>
    rw [accesses_cons, h]
    exact ih
  | read h rest ih =>
    rw [accesses_cons, h]
    exact .read rfl ih
  | write h rest ih =>
    rw [accesses_cons, h]
    exact .write rfl ih

variable {calls : List (Bool × Access κ)}

theorem serves_nil (h : Serves some s ([] : List (Bool × Access κ)) s') : s' = s := by
  cases h
  rfl

theorem serves_read (h : Serves some s ((i, .read seen) :: calls) s') :
    seen = s ∧ Serves some s calls s' := by
  cases h with
  | other h _ => cases h
  | read h rest =>
    cases h
    exact ⟨rfl, rest⟩
  | write h _ => cases h

theorem serves_write (h : Serves some s ((i, .write members) :: calls) s') :
    Serves some members calls s' := by
  cases h with
  | other h _ => cases h
  | read h _ => cases h
  | write h rest =>
    cases h
    exact rest

/-! ### The orders of two reads and two writes -/

variable {A : Type} {entries : List (Bool × A)} {r w : Bool → A}

theorem eq_map_of_own (h : own (!i) entries = []) : entries = (own i entries).map (i, ·) := by
  induction entries with
  | nil => rfl
  | cons entry entries ih =>
    obtain ⟨j, a⟩ := entry
    obtain rfl | rfl : j = i ∨ j = !i := by cases j <;> cases i <;> simp
    · rw [own_cons_self, List.map_cons]
      refine congrArg ((j, a) :: ·) (ih ?_)
      rw [← own_cons_other (i := !j) (e := a), Bool.not_not]
      exact h
    · rw [own_cons_self] at h
      cases h

theorem own_not_cons_self {a : A} : own (!i) ((i, a) :: entries) = own (!i) entries := by
  unfold own
  rw [List.filter_cons_of_neg (by simp)]

/-- One program before the other, or one writes between the other's two calls, or after both have
read. -/
theorem order_of_own (h : ∀ i, own i entries = [r i, w i]) :
    ∃ i, entries = [(i, r i), (i, w i), (!i, r (!i)), (!i, w (!i))] ∨
      entries = [(i, r i), (!i, r (!i)), (i, w i), (!i, w (!i))] ∨
      entries = [(!i, r (!i)), (i, r i), (i, w i), (!i, w (!i))] := by
  cases entries with
  | nil => cases h true
  | cons entry entries =>
    obtain ⟨j, a⟩ := entry
    have hown := h j
    have hother := h (!j)
    rw [own_cons_self, List.cons.injEq] at hown
    rw [own_not_cons_self] at hother
    obtain ⟨rfl, hown⟩ := hown
    cases entries with
    | nil => cases hown
    | cons entry entries =>
      obtain ⟨j', a⟩ := entry
      obtain rfl | rfl : j' = j ∨ j' = !j := by cases j' <;> cases j <;> simp
      · rw [own_cons_self, List.cons.injEq] at hown
        rw [own_not_cons_self] at hother
        obtain ⟨rfl, hown⟩ := hown
        refine ⟨j', Or.inl ?_⟩
        have hmap := eq_map_of_own (i := !j') (by rw [Bool.not_not]; exact hown)
        rw [hmap, hother]
        rfl
      · rw [own_cons_self, List.cons.injEq] at hother
        rw [own_cons_other] at hown
        obtain ⟨rfl, hother⟩ := hother
        cases entries with
        | nil => cases hown
        | cons entry entries =>
          obtain ⟨j', a⟩ := entry
          obtain rfl | rfl : j' = j ∨ j' = !j := by cases j' <;> cases j <;> simp
          · rw [own_cons_self, List.cons.injEq] at hown
            rw [own_not_cons_self] at hother
            obtain ⟨rfl, hown⟩ := hown
            refine ⟨j', Or.inr (Or.inl ?_)⟩
            have hmap := eq_map_of_own (i := !j') (by rw [Bool.not_not]; exact hown)
            rw [hmap, hother]
            rfl
          · rw [own_cons_self, List.cons.injEq] at hother
            rw [own_cons_other] at hown
            obtain ⟨rfl, hother⟩ := hother
            refine ⟨!j, Or.inr (Or.inr ?_)⟩
            rw [eq_map_of_own (i := j) hother, hown, Bool.not_not]
            rfl

theorem not_overtaken_serial : ∀ i j : Bool,
    ¬ (overtaking j).Sublist [(i, false), (i, true), (!i, false), (!i, true)] := by
  decide

theorem overtaken_between : ∀ i : Bool,
    (overtaking i).Sublist [(i, false), (!i, false), (i, true), (!i, true)] ∧
      ¬ (overtaking (!i)).Sublist [(i, false), (!i, false), (i, true), (!i, true)] := by
  decide

theorem overtaken_within : ∀ i : Bool,
    (overtaking i).Sublist [(!i, false), (i, false), (i, true), (!i, true)] ∧
      ¬ (overtaking (!i)).Sublist [(!i, false), (i, false), (i, true), (!i, true)] := by
  decide

/-! ### The set at the end -/

variable {c : Bool → Change κ}

/-- The changes one after the other lose nothing. -/
theorem noLost_apply (s : Set κ) (i : Bool) : NoLost c ((c (!i)).apply ((c i).apply s)) := by
  intro j k
  have hdisjoint := (c i).disjoint k
  have hdisjoint' := (c (!i)).disjoint k
  simp only [Change.mem_apply]
  obtain rfl | rfl : j = i ∨ j = !i := by cases j <;> cases i <;> simp
  · tauto
  · rw [Bool.not_not]
    tauto

/-- The other change alone loses nothing exactly where the change has no effect. -/
theorem noLost_apply_other_iff {i : Bool} :
    NoLost c ((c (!i)).apply s) ↔ Ineffective (c i) (c (!i)) s := by
  constructor
  · intro h k hadded hremoved
    obtain ⟨hput, htaken⟩ := h i k
    simp only [Change.mem_apply] at hput htaken ⊢
    tauto
  · intro h j k
    have hineffective := h k
    have hdisjoint := (c i).disjoint k
    have hdisjoint' := (c (!i)).disjoint k
    simp only [Change.mem_apply] at hineffective ⊢
    obtain rfl | rfl : j = i ∨ j = !i := by cases j <;> cases i <;> simp
    · tauto
    · rw [Bool.not_not]
      tauto

/-- The set at the end, and who is overtaken. -/
theorem final_of_updates (hserves : Serves access s log s')
    (hruns : ∀ i, Updates access (c i) (own i log)) :
    ∃ i, ((∀ j, ¬ Overtaken access log j) ∧ s' = (c (!i)).apply ((c i).apply s)) ∨
      Overtaken access log i ∧ ¬ Overtaken access log (!i) ∧ s' = (c (!i)).apply s := by
  choose seen hseen using hruns
  have hserves := hserves.accesses
  unfold Overtaken
  have hown : ∀ i, own i (accesses access log) = [.read (seen i), .write ((c i).apply (seen i))] :=
    fun i => own_accesses.trans (hseen i)
  obtain ⟨i, horder | horder | horder⟩ := order_of_own hown
  · rw [horder] at hserves ⊢
    obtain ⟨hread, hserves⟩ := serves_read hserves
    obtain ⟨hread', hserves⟩ := serves_read (serves_write hserves)
    refine ⟨i, Or.inl ⟨not_overtaken_serial i, ?_⟩⟩
    rw [serves_nil (serves_write hserves), hread', hread]
  · rw [horder] at hserves ⊢
    obtain ⟨hread, hserves⟩ := serves_read hserves
    obtain ⟨hread', hserves⟩ := serves_read hserves
    refine ⟨i, Or.inr ⟨(overtaken_between i).1, (overtaken_between i).2, ?_⟩⟩
    rw [serves_nil (serves_write (serves_write hserves)), hread']
  · rw [horder] at hserves ⊢
    obtain ⟨hread, hserves⟩ := serves_read hserves
    obtain ⟨hread', hserves⟩ := serves_read hserves
    refine ⟨i, Or.inr ⟨(overtaken_within i).1, (overtaken_within i).2, ?_⟩⟩
    rw [serves_nil (serves_write (serves_write hserves)), hread]

/-- Nothing is lost exactly if the change that is overtaken, if any, has no effect. -/
theorem noLost_iff (hserves : Serves access s log s')
    (hruns : ∀ i, Updates access (c i) (own i log)) :
    NoLost c s' ↔ ∀ i, Overtaken access log i → Ineffective (c i) (c (!i)) s := by
  obtain ⟨i, ⟨hnone, rfl⟩ | ⟨hovertaken, hnot, rfl⟩⟩ := final_of_updates hserves hruns
  · exact iff_of_true (noLost_apply s i) fun j hj => absurd hj (hnone j)
  · rw [noLost_apply_other_iff]
    constructor
    · intro h j hj
      obtain rfl | rfl : j = i ∨ j = !i := by cases j <;> cases i <;> simp
      · exact h
      · exact absurd hj hnot
    · exact fun h => h i hovertaken

end SharedSet

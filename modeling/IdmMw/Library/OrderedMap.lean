import Mathlib.Data.List.Nodup
import Mathlib.Tactic.Common

/-!
# Maps that remember the order of their keys

A map as the list of its entries, in the order in which their keys were first set; `List.lookup`
reads it.

* `OrderedMap.set`: an old key keeps its place, a new one goes to the end;
* `lookup_set`: a set entry is read back, the others are as they were;
* `Distinct`: every key has one entry, which `set` keeps; then entries are what `lookup` finds;
* `ofEntries`: a list of entries as a map, in which the last entry of a key counts;
* `assign`: the entries of a second map over those of a first; `lookup_assign`;
* `find?_key_iff`: the same for a list of rows, one of whose columns is a key;
* `nodup_eraseDups`, `eraseDups_of_nodup`: the first occurrences in a list.
-/

namespace OrderedMap

variable {κ α : Type} [DecidableEq κ]

/-- Set the value of a key. -/
def set (m : List (κ × α)) (k : κ) (v : α) : List (κ × α) :=
  match m with
  | [] => [(k, v)]
  | (k', v') :: m => if k' = k then (k, v) :: m else (k', v') :: set m k v

/-- Every key has one entry. -/
def Distinct (m : List (κ × α)) : Prop := (m.map Prod.fst).Nodup

instance (m : List (κ × α)) : Decidable (Distinct m) := by
  unfold Distinct
  infer_instance

variable {m : List (κ × α)} {k k' : κ} {v : α}

theorem lookup_cons_self (k : κ) (v : α) (m : List (κ × α)) :
    ((k, v) :: m).lookup k = some v := by
  rw [List.lookup_cons]
  simp

theorem lookup_cons_of_ne (h : k' ≠ k) (v : α) (m : List (κ × α)) :
    ((k', v) :: m).lookup k = m.lookup k := by
  rw [List.lookup_cons, beq_false_of_ne h.symm]

theorem lookup_set_self (m : List (κ × α)) (k : κ) (v : α) : (set m k v).lookup k = some v := by
  induction m with
  | nil => exact lookup_cons_self k v []
  | cons entry m ih =>
    obtain ⟨k', v'⟩ := entry
    unfold set
    by_cases h : k' = k
    · rw [if_pos h]
      exact lookup_cons_self k v m
    · rw [if_neg h, lookup_cons_of_ne h]
      exact ih

theorem lookup_set_of_ne (h : k' ≠ k) (m : List (κ × α)) (v : α) :
    (set m k v).lookup k' = m.lookup k' := by
  induction m with
  | nil => exact lookup_cons_of_ne h.symm v []
  | cons entry m ih =>
    obtain ⟨k'', v'⟩ := entry
    unfold set
    by_cases hk : k'' = k
    · subst hk
      rw [if_pos rfl, lookup_cons_of_ne h.symm, lookup_cons_of_ne h.symm]
    · rw [if_neg hk]
      by_cases hk' : k'' = k'
      · subst hk'
        rw [lookup_cons_self, lookup_cons_self]
      · rw [lookup_cons_of_ne hk', lookup_cons_of_ne hk', ih]

theorem lookup_set (m : List (κ × α)) (k k' : κ) (v : α) :
    (set m k v).lookup k' = if k' = k then some v else m.lookup k' := by
  by_cases h : k' = k
  · subst h
    rw [if_pos rfl, lookup_set_self]
  · rw [if_neg h, lookup_set_of_ne h]

/-- An entry behind others is set in its place. -/
theorem set_append_cons {done : List (κ × α)} (h : k ∉ done.map Prod.fst) (v v' : α)
    (m : List (κ × α)) : set (done ++ (k, v') :: m) k v = done ++ (k, v) :: m := by
  induction done with
  | nil => exact if_pos rfl
  | cons entry done ih =>
    have hk : entry.1 ≠ k := fun hk => h (hk ▸ List.mem_cons_self)
    rw [List.cons_append, List.cons_append, ← ih fun hdone => h (List.mem_cons_of_mem _ hdone)]
    exact if_neg hk

/-! ### The keys -/

theorem mem_keys_set : k' ∈ (set m k v).map Prod.fst ↔ k' = k ∨ k' ∈ m.map Prod.fst := by
  induction m with
  | nil => simp [set]
  | cons entry m ih =>
    obtain ⟨k'', v'⟩ := entry
    unfold set
    by_cases h : k'' = k
    · subst h
      rw [if_pos rfl]
      simp
    · rw [if_neg h, List.map_cons, List.mem_cons, ih, List.map_cons, List.mem_cons]
      tauto

theorem keys_set (m : List (κ × α)) (k : κ) (v : α) : (set m k v).map Prod.fst =
    if k ∈ m.map Prod.fst then m.map Prod.fst else m.map Prod.fst ++ [k] := by
  induction m with
  | nil => rfl
  | cons entry m ih =>
    obtain ⟨k', v'⟩ := entry
    unfold set
    by_cases h : k' = k
    · subst h
      simp
    · rw [if_neg h, List.map_cons, ih]
      by_cases hmem : k ∈ m.map Prod.fst
      · rw [if_pos hmem, if_pos (by rw [List.map_cons]; exact List.mem_cons_of_mem _ hmem)]
        rfl
      · rw [if_neg hmem, if_neg (by simpa [Ne.symm h] using hmem)]
        rfl

theorem Distinct.set (h : Distinct m) (k : κ) (v : α) : Distinct (set m k v) := by
  induction m with
  | nil => exact List.nodup_singleton k
  | cons entry m ih =>
    obtain ⟨k', v'⟩ := entry
    obtain ⟨hk', hm⟩ := List.nodup_cons.1 h
    unfold OrderedMap.set
    by_cases hk : k' = k
    · subst hk
      rw [if_pos rfl]
      exact h
    · rw [if_neg hk]
      refine List.nodup_cons.2 ⟨?_, ih hm⟩
      intro hmem
      rcases mem_keys_set.1 hmem with heq | hold
      · exact hk heq
      · exact hk' hold

/-! ### The entries -/

theorem mem_of_lookup (h : m.lookup k = some v) : (k, v) ∈ m := by
  obtain ⟨l₁, l₂, rfl, -⟩ := List.lookup_eq_some_iff.1 h
  simp

theorem lookup_eq_none_iff : m.lookup k = none ↔ k ∉ m.map Prod.fst := by
  rw [List.lookup_eq_none_iff, List.mem_map]
  constructor
  · rintro h ⟨entry, hmem, rfl⟩
    have := h entry hmem
    simp at this
  · intro h entry hmem
    by_contra heq
    have heq : k = entry.1 := by simpa using heq
    exact h ⟨entry, hmem, heq.symm⟩

/-- With one entry a key, an entry is what `lookup` finds. -/
theorem Distinct.lookup_of_mem (hm : Distinct m) (h : (k, v) ∈ m) : m.lookup k = some v := by
  induction m with
  | nil => cases h
  | cons entry m ih =>
    obtain ⟨k', v'⟩ := entry
    obtain ⟨hk', hdistinct⟩ := List.nodup_cons.1 hm
    by_cases hk : k' = k
    · subst hk
      rcases List.mem_cons.1 h with heq | hrest
      · cases heq
        exact lookup_cons_self k' v m
      · exact absurd (List.mem_map_of_mem hrest) hk'
    · rw [lookup_cons_of_ne hk]
      rcases List.mem_cons.1 h with heq | hrest
      · cases heq
        exact absurd rfl hk
      · exact ih hdistinct hrest

/-- Maps with the same keys in the same order are equal if they have the same values. -/
theorem eq_of_lookup {m' : List (κ × α)} (hkeys : m.map Prod.fst = m'.map Prod.fst)
    (hm : Distinct m) (h : ∀ k, m.lookup k = m'.lookup k) : m = m' := by
  induction m generalizing m' with
  | nil => exact (List.map_eq_nil_iff.1 hkeys.symm).symm
  | cons entry m ih =>
    obtain ⟨k, v⟩ := entry
    obtain ⟨⟨k', v'⟩, m', rfl, hk, hrest⟩ := List.map_eq_cons_iff.1 hkeys.symm
    obtain rfl : k' = k := hk
    obtain ⟨hnotMem, hm⟩ := List.nodup_cons.1 hm
    have hv := h k'
    rw [lookup_cons_self, lookup_cons_self] at hv
    obtain rfl := Option.some.inj hv
    congr 1
    refine ih hrest.symm hm fun k => ?_
    by_cases hk : k' = k
    · subst hk
      rw [lookup_eq_none_iff.2 hnotMem, lookup_eq_none_iff.2 (by rw [hrest]; exact hnotMem)]
    · have hlookup := h k
      rw [lookup_cons_of_ne hk, lookup_cons_of_ne hk] at hlookup
      exact hlookup

/-! ### From a list of entries -/

/-- Set the entries one after the other. -/
def ofEntries (entries : List (κ × α)) : List (κ × α) :=
  entries.foldl (fun m (k, v) => set m k v) []

theorem distinct_foldl_set {entries m : List (κ × α)} (h : Distinct m) :
    Distinct (entries.foldl (fun m (k, v) => set m k v) m) := by
  induction entries generalizing m with
  | nil => exact h
  | cons entry entries ih => exact ih (h.set entry.1 entry.2)

theorem distinct_ofEntries (entries : List (κ × α)) : Distinct (ofEntries entries) :=
  distinct_foldl_set List.nodup_nil

/-- The last entry of a key is read back. -/
theorem lookup_ofEntries (entries : List (κ × α)) (k : κ) :
    (ofEntries entries).lookup k = entries.reverse.lookup k := by
  unfold ofEntries
  rw [List.foldl_eq_foldr_reverse]
  induction entries.reverse with
  | nil => rfl
  | cons entry entries ih =>
    obtain ⟨k', v⟩ := entry
    rw [List.foldr_cons, lookup_set, ih]
    by_cases h : k = k'
    · subst h
      rw [if_pos rfl, lookup_cons_self]
    · rw [if_neg h, lookup_cons_of_ne fun heq => h heq.symm]

/-! ### One map over another -/

/-- The entries of `m'` over those of `m`, which keep their places. -/
def assign (m m' : List (κ × α)) : List (κ × α) :=
  (m.map fun (k, v) => (k, (m'.lookup k).getD v)) ++ m'.filter fun (k, _) => k ∉ m.map Prod.fst

theorem lookup_filter_key (p : κ → Bool) (hp : p k = true) (m : List (κ × α)) :
    (m.filter fun entry => p entry.1).lookup k = m.lookup k := by
  induction m with
  | nil => rfl
  | cons entry m ih =>
    obtain ⟨k', v⟩ := entry
    by_cases hk : k' = k
    · subst hk
      rw [List.filter_cons, if_pos hp, lookup_cons_self, lookup_cons_self]
    · rw [lookup_cons_of_ne hk, ← ih, List.filter_cons]
      split
      · exact lookup_cons_of_ne hk _ _
      · rfl

theorem lookup_filter_key_eq_none (p : κ → Bool) (hp : p k = false) (m : List (κ × α)) :
    (m.filter fun entry => p entry.1).lookup k = none := by
  rw [lookup_eq_none_iff]
  intro hmem
  obtain ⟨entry, hentry, rfl⟩ := List.mem_map.1 hmem
  have hpos := (List.mem_filter.1 hentry).2
  rw [hp] at hpos
  cases hpos

/-- The second map is read first. -/
theorem lookup_assign (m m' : List (κ × α)) (k : κ) :
    (assign m m').lookup k = (m'.lookup k).or (m.lookup k) := by
  have hmap : ∀ m : List (κ × α), (m.map fun (k, v) => (k, (m'.lookup k).getD v)).lookup k =
      (m.lookup k).map fun v => (m'.lookup k).getD v := by
    intro m
    induction m with
    | nil => rfl
    | cons entry m ih =>
      obtain ⟨k', v⟩ := entry
      by_cases hk : k' = k
      · subst hk
        rw [List.map_cons, lookup_cons_self, lookup_cons_self]
        rfl
      · rw [List.map_cons, lookup_cons_of_ne hk, lookup_cons_of_ne hk, ih]
  unfold assign
  rw [List.lookup_append, hmap m]
  cases hm : m.lookup k with
  | some v =>
    cases m'.lookup k with
    | some v' => rfl
    | none => rfl
  | none =>
    have hkeys := lookup_eq_none_iff.1 hm
    have hfilter : (m'.filter fun entry => decide (entry.1 ∉ m.map Prod.fst)).lookup k =
        m'.lookup k :=
      lookup_filter_key (fun k' => decide (k' ∉ m.map Prod.fst)) (decide_eq_true hkeys) m'
    rw [hfilter, Option.map_none, Option.none_or, Option.or_none]

/-! ### Rows -/

/-- With one row a key, a row is what the search for its key finds. -/
theorem find?_key_iff {β : Type} {key : β → κ} {rows : List β} (hrows : (rows.map key).Nodup)
    {row : β} : rows.find? (fun row => key row = k) = some row ↔ row ∈ rows ∧ key row = k := by
  constructor
  · intro h
    exact ⟨List.mem_of_find?_eq_some h, by simpa using List.find?_some h⟩
  · rintro ⟨hmem, rfl⟩
    cases hfind : rows.find? (fun row' => key row' = key row) with
    | none =>
      have hnot := List.find?_eq_none.1 hfind row hmem
      simp at hnot
    | some found =>
      have hkey : key found = key row := by simpa using List.find?_some hfind
      rw [List.inj_on_of_nodup_map hrows (List.mem_of_find?_eq_some hfind) hmem hkey]

/-! ### First occurrences -/

theorem nodup_eraseDups (as : List κ) : as.eraseDups.Nodup := by
  induction hn : as.length using Nat.strongRecOn generalizing as with
  | _ n ih =>
    cases as with
    | nil => exact List.nodup_nil
    | cons a as =>
      rw [List.eraseDups_cons, List.nodup_cons]
      refine ⟨by simp [List.mem_eraseDups], ih _ ?_ _ rfl⟩
      have hle := List.length_filter_le (fun b => !b == a) as
      simp only [List.length_cons] at hn
      omega

theorem eraseDups_of_nodup {as : List κ} (h : as.Nodup) : as.eraseDups = as := by
  induction as with
  | nil => rfl
  | cons a as ih =>
    obtain ⟨ha, has⟩ := List.nodup_cons.1 h
    have hfilter : as.filter (fun b => !b == a) = as := by
      rw [List.filter_eq_self]
      intro b hb
      simpa using fun heq : b = a => ha (heq ▸ hb)
    rw [List.eraseDups_cons, hfilter, ih has]

end OrderedMap

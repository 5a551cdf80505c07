import IdmMw.Library.ValueText

/-!
# The order of keys

Values that differ in the order of the entries of objects, and the form in which the entries are
sorted by a comparison of their keys that may call distinct keys equal.

* `sortByKey_eq_of_perm`, `sortByKey_swap_ne`: the sort forgets the order of entries if and only if
  no two keys tie;
* `JsValue.Reordered`: other orders of entries, at any depth;
* `JsValue.canonicalForm`: the entries are sorted, and the numbers are those that are read back;
* `JsValue.canonicalForm_eq_of_reordered`, `JsValue.untied_of_canonicalForm_eq`: the form is the same
  for all orders if and only if no keys tie;
* `JsValue.reordered_of_canonicalForm_eq`: it is the same for no other values.
-/

/-! ### Sorting entries -/

section Sorting

variable {κ α β : Type} {cmp : κ → κ → Ordering} {entries entries' : List (κ × α)}

/-- The entries in the order of their keys; those that tie stay in their order. -/
def sortByKey (cmp : κ → κ → Ordering) (entries : List (κ × α)) : List (κ × α) :=
  entries.mergeSort fun e e' => (cmp e.1 e'.1).isLE

theorem sortByKey_perm (cmp : κ → κ → Ordering) (entries : List (κ × α)) :
    (sortByKey cmp entries).Perm entries :=
  List.mergeSort_perm entries _

/-- Only the keys matter. -/
theorem map_sortByKey (cmp : κ → κ → Ordering) (f : α → β) (entries : List (κ × α)) :
    (sortByKey cmp entries).map (fun e => (e.1, f e.2)) =
      sortByKey cmp (entries.map fun e => (e.1, f e.2)) :=
  List.map_mergeSort fun _ _ _ _ => rfl

variable [Std.TransCmp cmp]

theorem isLE_trans (e₁ e₂ e₃ : κ × α) (h : (cmp e₁.1 e₂.1).isLE = true)
    (h' : (cmp e₂.1 e₃.1).isLE = true) : (cmp e₁.1 e₃.1).isLE = true :=
  Std.TransCmp.isLE_trans h h'

theorem isLE_total (e₁ e₂ : κ × α) : ((cmp e₁.1 e₂.1).isLE || (cmp e₂.1 e₁.1).isLE) = true := by
  have hswap : cmp e₂.1 e₁.1 = (cmp e₁.1 e₂.1).swap := Std.OrientedCmp.eq_swap
  rw [hswap]
  cases cmp e₁.1 e₂.1 <;> rfl

/-- Where no two keys tie, the order in which the entries come does not matter. -/
theorem sortByKey_eq_of_perm (h : entries.Perm entries')
    (hkeys : (entries.map Prod.fst).Nodup)
    (hties : ∀ e ∈ entries, ∀ e' ∈ entries, cmp e.1 e'.1 = .eq → e.1 = e'.1) :
    sortByKey cmp entries = sortByKey cmp entries' := by
  have hsort := sortByKey_perm cmp entries
  have hsort' := sortByKey_perm cmp entries'
  refine List.Perm.eq_of_pairwise ?_ (List.pairwise_mergeSort isLE_trans isLE_total entries)
    (List.pairwise_mergeSort isLE_trans isLE_total entries') (hsort.trans (h.trans hsort'.symm))
  intro e e' he he' hle hge
  have hmem : e ∈ entries := hsort.mem_iff.1 he
  have hmem' : e' ∈ entries := h.mem_iff.2 (hsort'.mem_iff.1 he')
  have htie : cmp e.1 e'.1 = .eq := Std.OrientedCmp.isLE_antisymm hle hge
  exact List.inj_on_of_nodup_map hkeys hmem hmem' (hties e hmem e' hmem' htie)

/-- Two things do not stand in both orders in a list without duplicates. -/
theorem not_sublist_swap {xs : List κ} (hxs : xs.Nodup) {a b : κ} (h : [a, b].Sublist xs) :
    ¬ [b, a].Sublist xs := by
  induction xs with
  | nil => cases h
  | cons x xs ih =>
    obtain ⟨hx, hnodup⟩ := List.nodup_cons.1 hxs
    intro hswap
    cases h with
    | cons _ h =>
      cases hswap with
      | cons _ hswap => exact ih hnodup h hswap
      | cons_cons _ hswap => exact hx (h.subset (List.mem_cons_of_mem _ List.mem_cons_self))
    | cons_cons _ h =>
      cases hswap with
      | cons _ hswap => exact hx (hswap.subset (List.mem_cons_of_mem _ List.mem_cons_self))
      | cons_cons _ hswap => exact hx (h.subset List.mem_cons_self)

/-- Two entries whose distinct keys tie come out in the order in which they go in. -/
theorem sortByKey_swap_ne {e e' : κ × α} (htie : cmp e.1 e'.1 = .eq)
    (hkeys : ((e :: e' :: entries).map Prod.fst).Nodup) :
    sortByKey cmp (e :: e' :: entries) ≠ sortByKey cmp (e' :: e :: entries) := by
  intro h
  have hfirst : [e, e'].Sublist (sortByKey cmp (e :: e' :: entries)) :=
    List.pair_sublist_mergeSort isLE_trans isLE_total (by rw [htie]; rfl)
      ((List.nil_sublist entries).cons_cons e' |>.cons_cons e)
  have hsecond : [e', e].Sublist (sortByKey cmp (e' :: e :: entries)) :=
    List.pair_sublist_mergeSort isLE_trans isLE_total
      (by rw [Std.OrientedCmp.eq_symm htie]; rfl)
      ((List.nil_sublist entries).cons_cons e |>.cons_cons e')
  have hnodup : ((sortByKey cmp (e :: e' :: entries)).map Prod.fst).Nodup :=
    ((sortByKey_perm cmp _).map Prod.fst).nodup_iff.2 hkeys
  exact not_sublist_swap hnodup (hfirst.map Prod.fst) (h ▸ hsecond.map Prod.fst)

end Sorting

/-- What holds of all members holds of them after one is replaced, if it goes over to that one. -/
theorem forall_mem_replace {α : Type} {P : α → Prop} {v w : α} {before after : List α}
    (h : ∀ u ∈ before ++ v :: after, P u) (hw : P v → P w) : ∀ u ∈ before ++ w :: after, P u := by
  simp only [List.mem_append, List.mem_cons] at h ⊢
  rintro u (hbefore | rfl | hafter)
  · exact h u (Or.inl hbefore)
  · exact hw (h v (Or.inr (Or.inl rfl)))
  · exact h u (Or.inr (Or.inr hafter))

namespace JsValue

/-! ### Other orders -/

def entries : JsValue → List (String × JsValue)
  | obj entries => entries
  | _ => []

def keys (v : JsValue) : List String := v.entries.map Prod.fst

/-- The value with the entries of objects, at any depth, in another order. -/
inductive Reordered : JsValue → JsValue → Prop
  | refl (v : JsValue) : Reordered v v
  | trans {u v w : JsValue} (h : Reordered u v) (h' : Reordered v w) : Reordered u w
  | entries {es es' : List (String × JsValue)} (h : es.Perm es') : Reordered (obj es) (obj es')
  | item {v w : JsValue} (before after : List JsValue) (h : Reordered v w) :
    Reordered (arr (before ++ v :: after)) (arr (before ++ w :: after))
  | value {v w : JsValue} (key : String) (before after : List (String × JsValue))
      (h : Reordered v w) :
    Reordered (obj (before ++ (key, v) :: after)) (obj (before ++ (key, w) :: after))

namespace Reordered

variable {v w : JsValue}

theorem symm (h : Reordered v w) : Reordered w v := by
  induction h with
  | refl v => exact refl v
  | trans _ _ ih ih' => exact trans ih' ih
  | entries h => exact entries h.symm
  | item before after _ ih => exact item before after ih
  | value key before after _ ih => exact value key before after ih

/-- What depends on the keys of objects only, in any order, stays. -/
theorem everywhere {p : List String → Prop} (hp : ∀ {ks ks'}, ks.Perm ks' → p ks → p ks')
    (h : Reordered v w) (hv : Everywhere (fun u => p u.keys) v) :
    Everywhere (fun u => p u.keys) w := by
  induction h with
  | refl v => exact hv
  | trans _ _ ih ih' => exact ih' (ih hv)
  | @entries es es' h =>
    refine ⟨hp (h.map Prod.fst) hv.here, ?_⟩
    intro u hu
    exact hv.inside ((h.map Prod.snd).mem_iff.2 hu)
  | @item v w before after _ ih =>
    refine ⟨hv.here, ?_⟩
    exact forall_mem_replace (fun u hu => hv.inside hu) ih
  | @value v w key before after _ ih =>
    have hkeys : (obj (before ++ (key, v) :: after)).keys =
        (obj (before ++ (key, w) :: after)).keys := by
      simp [keys, JsValue.entries]
    have hinside : ∀ u ∈ before.map Prod.snd ++ v :: after.map Prod.snd,
        Everywhere (fun u => p u.keys) u := by
      intro u hu
      exact hv.inside (by simpa [children] using hu)
    refine ⟨hkeys ▸ hv.here, ?_⟩
    intro u hu
    refine forall_mem_replace hinside ih u ?_
    simpa [children] using hu

/-- Reordering each item of an array. -/
theorem map_items {f : JsValue → JsValue} {items : List JsValue}
    (h : ∀ v ∈ items, Reordered v (f v)) (before : List JsValue) :
    Reordered (arr (before ++ items)) (arr (before ++ items.map f)) := by
  induction items generalizing before with
  | nil => exact refl _
  | cons v items ih =>
    have hfirst := item before items (h v List.mem_cons_self)
    have hrest := ih (fun u hu => h u (List.mem_cons_of_mem _ hu)) (before ++ [f v])
    simp only [List.append_assoc, List.singleton_append] at hrest
    exact trans hfirst hrest

/-- Reordering each value of an object. -/
theorem map_entries {f : JsValue → JsValue} {es : List (String × JsValue)}
    (h : ∀ e ∈ es, Reordered e.2 (f e.2)) (before : List (String × JsValue)) :
    Reordered (obj (before ++ es)) (obj (before ++ es.map fun e => (e.1, f e.2))) := by
  induction es generalizing before with
  | nil => exact refl _
  | cons e es ih =>
    have hfirst := value e.1 before es (h e List.mem_cons_self)
    have hrest := ih (fun u hu => h u (List.mem_cons_of_mem _ hu)) (before ++ [(e.1, f e.2)])
    simp only [List.append_assoc, List.singleton_append] at hrest
    exact trans hfirst hrest

end Reordered

/-- An object or an array. -/
def isContainer : JsValue → Bool
  | arr _ => true
  | obj _ => true
  | _ => false

theorem Reordered.cases {v w : JsValue} (h : Reordered v w) :
    v = w ∨ (v.isContainer = true ∧ w.isContainer = true) := by
  induction h with
  | refl v => exact Or.inl rfl
  | trans _ _ ih ih' =>
    rcases ih with rfl | ⟨hu, hv⟩
    · exact ih'
    · rcases ih' with rfl | ⟨_, hw⟩
      · exact Or.inr ⟨hu, hv⟩
      · exact Or.inr ⟨hu, hw⟩
  | _ => exact Or.inr ⟨rfl, rfl⟩

/-! ### The canonical form -/

/-- The number that `JSON.stringify` and `JSON.parse` make of a number. -/
def ofNumber : JsNumber → JsValue
  | .zero => num .zero
  | .negativeZero => num .zero
  | .finite d => num (.finite d)
  | .infinity _ => null

theorem text_ofNumber (n : JsNumber) : (ofNumber n).text = n.text := by
  cases n <;> rfl

section Canonical

variable (cmp : String → String → Ordering)

mutual

/-- The value that is read back from the text, with the entries in the order of their keys. -/
def canonicalForm : JsValue → JsValue
  | null => null
  | bool b => bool b
  | num n => ofNumber n
  | str s => str s
  | arr items => arr (canonicalItems items)
  | obj entries => obj (sortByKey cmp (canonicalEntries entries))

def canonicalItems : List JsValue → List JsValue
  | [] => []
  | v :: items => canonicalForm v :: canonicalItems items

def canonicalEntries : List (String × JsValue) → List (String × JsValue)
  | [] => []
  | (key, v) :: entries => (key, canonicalForm v) :: canonicalEntries entries

end

theorem canonicalForm_arr (items : List JsValue) :
    canonicalForm cmp (arr items) = arr (items.map (canonicalForm cmp)) := by
  have hitems : canonicalItems cmp items = items.map (canonicalForm cmp) :=
    eq_map_of_cons rfl (fun _ _ => rfl) items
  rw [canonicalForm, hitems]

theorem canonicalForm_obj (es : List (String × JsValue)) : canonicalForm cmp (obj es) =
    obj (sortByKey cmp (es.map fun e => (e.1, canonicalForm cmp e.2))) := by
  have hentries : canonicalEntries cmp es = es.map fun e => (e.1, canonicalForm cmp e.2) :=
    eq_map_of_cons rfl (fun _ _ => rfl) es
  rw [canonicalForm, hentries]

end Canonical

variable {cmp : String → String → Ordering} {v w : JsValue}

theorem ordinary_canonicalForm (cmp : String → String → Ordering) (v : JsValue) :
    (canonicalForm cmp v).Ordinary := by
  induction v using JsValue.induction with
  | step v ih =>
    cases v with
    | num n => cases n <;> exact ⟨trivial, by simp [canonicalForm, ofNumber, children]⟩
    | arr items =>
      rw [canonicalForm_arr]
      refine ⟨trivial, ?_⟩
      intro w hw
      obtain ⟨u, hu, rfl⟩ := List.mem_map.1 hw
      exact ih u hu
    | obj es =>
      rw [canonicalForm_obj]
      refine ⟨trivial, ?_⟩
      intro w hw
      obtain ⟨e, he, rfl⟩ := List.mem_map.1 hw
      obtain ⟨e, hmem, rfl⟩ := List.mem_map.1 ((sortByKey_perm cmp _).mem_iff.1 he)
      exact ih e.2 (List.mem_map_of_mem hmem)
    | _ => exact ⟨trivial, by simp [canonicalForm, children]⟩

/-- Nothing but the order of entries changes, where the numbers are read back as they are. -/
theorem reordered_canonicalForm (cmp : String → String → Ordering) (hv : v.Ordinary) :
    Reordered v (canonicalForm cmp v) := by
  induction v using JsValue.induction with
  | step v ih =>
    cases v with
    | num n =>
      cases n with
      | zero => exact Reordered.refl _
      | negativeZero => exact absurd hv.here id
      | finite d => exact Reordered.refl _
      | infinity negative => exact absurd hv.here id
    | arr items =>
      rw [canonicalForm_arr]
      exact Reordered.map_items (fun w hw => ih w hw (hv.inside hw)) []
    | obj es =>
      have hvalues : ∀ e ∈ es, Reordered e.2 (canonicalForm cmp e.2) := by
        intro e he
        have hmem : e.2 ∈ (obj es).children := List.mem_map_of_mem he
        exact ih e.2 hmem (hv.inside hmem)
      rw [canonicalForm_obj]
      exact (Reordered.map_entries hvalues []).trans (Reordered.entries (sortByKey_perm cmp _).symm)
    | _ => exact Reordered.refl _

/-- Values with one canonical form differ in the order of entries only. -/
theorem reordered_of_canonicalForm_eq (hv : v.Ordinary) (hw : w.Ordinary)
    (h : canonicalForm cmp v = canonicalForm cmp w) : Reordered v w := by
  have hback := (reordered_canonicalForm cmp hw).symm
  rw [← h] at hback
  exact (reordered_canonicalForm cmp hv).trans hback

/-! ### Ties -/

/-- No object has a key twice, as objects of the language do not. -/
def DistinctKeys (v : JsValue) : Prop := Everywhere (fun u => u.keys.Nodup) v

def NoTies (cmp : String → String → Ordering) (ks : List String) : Prop :=
  ∀ k ∈ ks, ∀ k' ∈ ks, cmp k k' = .eq → k = k'

theorem noTies_nil (cmp : String → String → Ordering) : NoTies cmp [] := by
  intro k hk
  cases hk

/-- No two keys of an object compare equal. -/
def Untied (cmp : String → String → Ordering) (v : JsValue) : Prop :=
  Everywhere (fun u => NoTies cmp u.keys) v

theorem untied_of_not_container (h : v.isContainer = false) : v.Untied cmp := by
  cases v with
  | arr items => cases h
  | obj es => cases h
  | _ => exact ⟨noTies_nil cmp, by simp [children]⟩

theorem Reordered.distinctKeys (h : Reordered v w) (hv : v.DistinctKeys) : w.DistinctKeys :=
  h.everywhere (fun hperm hnodup => hperm.nodup_iff.1 hnodup) hv

theorem Reordered.untied (h : Reordered v w) (hv : v.Untied cmp) : w.Untied cmp := by
  refine h.everywhere ?_ hv
  intro ks ks' hperm hties k hk k' hk' htie
  exact hties k (hperm.mem_iff.2 hk) k' (hperm.mem_iff.2 hk') htie

variable [Std.TransCmp cmp]

/-- Without ties, the canonical form forgets the order of entries. -/
theorem canonicalForm_eq_of_reordered (h : Reordered v w) (hkeys : v.DistinctKeys)
    (hties : v.Untied cmp) : canonicalForm cmp v = canonicalForm cmp w := by
  induction h with
  | refl v => rfl
  | trans h _ ih ih' =>
    exact (ih hkeys hties).trans (ih' (h.distinctKeys hkeys) (h.untied hties))
  | @entries es es' h =>
    rw [canonicalForm_obj, canonicalForm_obj]
    congr 1
    have hfst : (es.map fun e => (e.1, canonicalForm cmp e.2)).map Prod.fst = es.map Prod.fst := by
      rw [List.map_map]
      rfl
    have hmem : ∀ e ∈ es.map (fun e => (e.1, canonicalForm cmp e.2)), e.1 ∈ (obj es).keys := by
      intro e he
      show e.1 ∈ es.map Prod.fst
      rw [← hfst]
      exact List.mem_map_of_mem he
    refine sortByKey_eq_of_perm (h.map _) (hfst ▸ hkeys.here) ?_
    intro e he e' he' htie
    exact hties.here e.1 (hmem e he) e'.1 (hmem e' he') htie
  | @item v w before after _ ih =>
    have hmem : v ∈ (arr (before ++ v :: after)).children :=
      List.mem_append_right _ List.mem_cons_self
    rw [canonicalForm_arr, canonicalForm_arr]
    simp only [List.map_append, List.map_cons, ih (hkeys.inside hmem) (hties.inside hmem)]
  | @value v w key before after _ ih =>
    have hmem : v ∈ (obj (before ++ (key, v) :: after)).children := by
      simp [children]
    rw [canonicalForm_obj, canonicalForm_obj]
    simp only [List.map_append, List.map_cons, ih (hkeys.inside hmem) (hties.inside hmem)]

/-- Two keys that tie are found in the order in which they come. -/
theorem noTies_of_canonicalForm_eq {es : List (String × JsValue)}
    (hkeys : (es.map Prod.fst).Nodup)
    (h : ∀ es', es.Perm es' → canonicalForm cmp (obj es) = canonicalForm cmp (obj es')) :
    NoTies cmp (es.map Prod.fst) := by
  intro k hk k' hk' htie
  by_contra hne
  obtain ⟨e, he, rfl⟩ := List.mem_map.1 hk
  obtain ⟨e', he', rfl⟩ := List.mem_map.1 hk'
  obtain ⟨rest, hperm⟩ : ∃ rest, es.Perm (e :: e' :: rest) := by
    obtain ⟨before, after, rfl⟩ := List.append_of_mem he
    have hfirst : (before ++ e :: after).Perm (e :: (before ++ after)) := List.perm_middle
    have hmem : e' ∈ before ++ after := by
      rcases List.mem_cons.1 (hfirst.mem_iff.1 he') with rfl | hmem
      · exact absurd rfl hne
      · exact hmem
    obtain ⟨before', after', hrest⟩ := List.append_of_mem hmem
    rw [hrest] at hfirst
    exact ⟨before' ++ after', hfirst.trans (List.perm_middle.cons e)⟩
  have heq := (h _ hperm).symm.trans (h _ (hperm.trans (List.Perm.swap e' e rest)))
  rw [canonicalForm_obj, canonicalForm_obj] at heq
  simp only [List.map_cons] at heq
  have htie' : cmp (e.1, canonicalForm cmp e.2).1 (e'.1, canonicalForm cmp e'.2).1 = .eq := htie
  refine sortByKey_swap_ne htie' ?_ (JsValue.obj.inj heq)
  have hnodup := (hperm.map Prod.fst).nodup_iff.1 hkeys
  simpa [Function.comp_def] using hnodup

omit [Std.TransCmp cmp] in
/-- With distinct keys, a sorted list of entries tells the value of each key. -/
theorem value_eq_of_sortByKey_eq {key : String} {before after : List (String × JsValue)}
    (hkeys : ((before ++ (key, v) :: after).map Prod.fst).Nodup)
    (h : sortByKey cmp ((before ++ (key, v) :: after).map fun e => (e.1, canonicalForm cmp e.2)) =
      sortByKey cmp ((before ++ (key, w) :: after).map fun e => (e.1, canonicalForm cmp e.2))) :
    canonicalForm cmp v = canonicalForm cmp w := by
  have hmem : (key, canonicalForm cmp v) ∈
      (before ++ (key, w) :: after).map fun e => (e.1, canonicalForm cmp e.2) := by
    rw [← (sortByKey_perm cmp _).mem_iff, ← h, (sortByKey_perm cmp _).mem_iff]
    simp
  obtain ⟨e, he, heq⟩ := List.mem_map.1 hmem
  obtain ⟨hkey, hvalue⟩ := Prod.mk.inj heq
  have hnodup : ((before ++ (key, w) :: after).map Prod.fst).Nodup := by
    simpa using hkeys
  have hw : (key, w) ∈ before ++ (key, w) :: after := by simp
  rw [← hvalue, List.inj_on_of_nodup_map hnodup he hw hkey]

/-- A form that forgets the order of entries says that no keys tie. -/
theorem untied_of_canonicalForm_eq (hkeys : v.DistinctKeys)
    (h : ∀ w, Reordered v w → canonicalForm cmp v = canonicalForm cmp w) : v.Untied cmp := by
  induction v using JsValue.induction with
  | step v ih =>
    cases v with
    | arr items =>
      refine ⟨noTies_nil cmp, ?_⟩
      intro u hu
      refine ih u hu (hkeys.inside hu) ?_
      intro u' hu'
      obtain ⟨before, after, rfl⟩ := List.append_of_mem (show u ∈ items from hu)
      have hform := h _ (Reordered.item before after hu')
      rw [canonicalForm_arr, canonicalForm_arr] at hform
      simp only [List.map_append, List.map_cons] at hform
      exact (List.cons.inj (List.append_cancel_left (JsValue.arr.inj hform))).1
    | obj es =>
      refine ⟨noTies_of_canonicalForm_eq hkeys.here fun es' hes' => h _ (Reordered.entries hes'), ?_⟩
      intro u hu
      refine ih u hu (hkeys.inside hu) ?_
      intro u' hu'
      obtain ⟨⟨key, u⟩, he, rfl⟩ := List.mem_map.1 hu
      obtain ⟨before, after, rfl⟩ := List.append_of_mem he
      have hform := h _ (Reordered.value key before after hu')
      rw [canonicalForm_obj, canonicalForm_obj] at hform
      exact value_eq_of_sortByKey_eq hkeys.here (JsValue.obj.inj hform)
    | _ => exact ⟨noTies_nil cmp, by simp [children]⟩

end JsValue

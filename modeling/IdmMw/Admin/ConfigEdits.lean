import IdmMw.Model.TargetSystems

/-!
# Sending back what was shown

An administrator is shown a configuration with its secrets masked, and may send back what was shown.
Nothing should change, and no secret should be lost.

* `showsAll`, `redactSecrets_eq_self_iff`: the values in which nothing is masked;
* `sentBack`, `mergeEntries_redactEntries`: what becomes of a configuration that is shown and sent
  back. The merge goes along objects, as the redaction does, but not into arrays;
* `survives`, `merge_redact_iff`: a configuration comes back as it was exactly if nothing is masked
  in the arrays that it shows.
-/

namespace IdmMw

open OrderedMap

/-! ### What is masked -/

/-- The value is the mask. -/
def isMask : Json → Bool
  | .str value => value == maskedSecretValue
  | _ => false

theorem isMask_iff {v : Json} : isMask v = true ↔ .str maskedSecretValue = v := by
  cases v with
  | str value =>
    rw [Json.str.injEq]
    exact beq_iff_eq.trans eq_comm
  | _ => exact iff_of_false Bool.false_ne_true Json.noConfusion

mutual

/-- The value is shown as it is: a secret in it is the mask itself. -/
def showsAll : Json → Bool
  | .arr items => showsAllItems items
  | .obj fields => showsAllEntries fields
  | _ => true

def showsAllItems : List Json → Bool
  | [] => true
  | item :: items => showsAll item && showsAllItems items

def showsAllEntries : Settings → Bool
  | [] => true
  | (key, item) :: fields =>
    (if isSecretKey key then isMask item else showsAll item) && showsAllEntries fields

end

mutual

theorem redactSecrets_eq_self_iff : ∀ v : Json, redactSecrets v = v ↔ showsAll v = true
  | .null => iff_of_true rfl rfl
  | .bool _ => iff_of_true rfl rfl
  | .num _ => iff_of_true rfl rfl
  | .str _ => iff_of_true rfl rfl
  | .arr items => by
    rw [redactSecrets, showsAll, Json.arr.injEq]
    exact redactItems_eq_self_iff items
  | .obj fields => by
    rw [redactSecrets, showsAll, Json.obj.injEq]
    exact redactEntries_eq_self_iff fields

theorem redactItems_eq_self_iff :
    ∀ items : List Json, redactItems items = items ↔ showsAllItems items = true
  | [] => iff_of_true rfl rfl
  | item :: items => by
    rw [redactItems, showsAllItems, List.cons.injEq, Bool.and_eq_true,
      redactSecrets_eq_self_iff item, redactItems_eq_self_iff items]

theorem redactEntries_eq_self_iff :
    ∀ fields : Settings, redactEntries fields = fields ↔ showsAllEntries fields = true
  | [] => iff_of_true rfl rfl
  | (key, item) :: fields => by
    rw [redactEntries, showsAllEntries, List.cons.injEq, Bool.and_eq_true, Prod.mk.injEq,
      redactEntries_eq_self_iff fields]
    by_cases hkey : isSecretKey key = true
    · rw [if_pos hkey, if_pos hkey, isMask_iff]
      simp only [true_and]
    · rw [if_neg hkey, if_neg hkey, redactSecrets_eq_self_iff item]
      simp only [true_and]

end

/-! ### What comes back -/

mutual

/-- What becomes of the value when what is shown of it is sent back. -/
def sentBack : Json → Json
  | .obj fields => .obj (sentBackEntries fields)
  | value => redactSecrets value

def sentBackEntries : Settings → Settings
  | [] => []
  | (key, item) :: fields =>
    (key, if isSecretKey key then item else sentBack item) :: sentBackEntries fields

end

theorem redactEntries_keys (fields : Settings) :
    (redactEntries fields).map Prod.fst = fields.map Prod.fst := by
  induction fields with
  | nil => rfl
  | cons entry fields ih =>
    rw [redactEntries, List.map_cons, List.map_cons, ih]

/-- What is shown of an entry. -/
theorem mem_redactEntries {fields : Settings} {key : String} {item : Json}
    (h : (key, item) ∈ fields) :
    (key, if isSecretKey key then .str maskedSecretValue else redactSecrets item) ∈
      redactEntries fields := by
  induction fields with
  | nil => cases h
  | cons entry fields ih =>
    rw [redactEntries]
    rcases List.mem_cons.1 h with rfl | hrest
    · exact List.mem_cons_self
    · exact List.mem_cons_of_mem _ (ih hrest)

theorem distinct_of_distinctKeys {fields : Settings} (h : distinctKeysOfFields fields = true) :
    Distinct fields := by
  induction fields with
  | nil => exact List.nodup_nil
  | cons entry fields ih =>
    obtain ⟨key, item⟩ := entry
    rw [distinctKeysOfFields, Bool.and_eq_true, Bool.and_eq_true] at h
    refine List.nodup_cons.2 ⟨?_, ih h.2⟩
    intro hmem
    have hcontains := List.contains_iff_mem.2 hmem
    rw [hcontains] at h
    cases h.1.1

/-- The objects of an object have distinct keys too. -/
theorem distinctKeys_of_mem {fields : Settings} (h : distinctKeysOfFields fields = true)
    {key : String} {item : Json} (hmem : (key, item) ∈ fields) : item.distinctKeys = true := by
  induction fields with
  | nil => cases hmem
  | cons entry fields ih =>
    obtain ⟨key', item'⟩ := entry
    rw [distinctKeysOfFields, Bool.and_eq_true, Bool.and_eq_true] at h
    rcases List.mem_cons.1 hmem with heq | hrest
    · cases heq
      exact h.1.2
    · exact ih h.2 hrest

/-- The mask counts as masked. -/
theorem isMaskedSecretValue_mask : isMaskedSecretValue (some (.str maskedSecretValue)) = true := by
  decide

mutual

/-- The recursive call of the loop, or else what is shown. -/
theorem mergeObjects_redactSecrets : ∀ v : Json, v.distinctKeys = true →
    (mergeObjects v (some (redactSecrets v))).getD (redactSecrets v) = sentBack v
  | .null, _ => rfl
  | .bool _, _ => rfl
  | .num _, _ => rfl
  | .str _, _ => rfl
  | .arr _, _ => rfl
  | .obj fields, h => by
    have hdistinct := distinct_of_distinctKeys h
    have hlookup : ∀ key item, (key, item) ∈ fields → (redactEntries fields).lookup key =
        some (if isSecretKey key then .str maskedSecretValue else redactSecrets item) := by
      intro key item hmem
      have hshown : Distinct (redactEntries fields) := by
        unfold Distinct
        rw [redactEntries_keys]
        exact hdistinct
      exact hshown.lookup_of_mem (mem_redactEntries hmem)
    rw [redactSecrets, mergeObjects, Option.getD_some, sentBack, Json.obj.injEq]
    exact mergeEntries_redactEntries fields [] (redactEntries fields) hlookup hdistinct
      fun _ _ hmem => distinctKeys_of_mem h hmem

/-- The loop restores the entries one after the other; `done` are those before. -/
theorem mergeEntries_redactEntries : ∀ (fields done incoming : Settings),
    (∀ key item, (key, item) ∈ fields → incoming.lookup key =
      some (if isSecretKey key then .str maskedSecretValue else redactSecrets item)) →
    Distinct (done ++ fields) →
    (∀ key item, (key, item) ∈ fields → item.distinctKeys = true) →
    mergeEntries fields incoming (done ++ redactEntries fields) = done ++ sentBackEntries fields
  | [], _, _, _, _, _ => rfl
  | (key, item) :: fields, done, incoming, hincoming, hdistinct, hitems => by
    have hkey : key ∉ done.map Prod.fst := by
      unfold Distinct at hdistinct
      rw [List.map_append, List.nodup_append] at hdistinct
      intro hmem
      exact hdistinct.2.2 key hmem key List.mem_cons_self rfl
    have hnext : Distinct ((done ++ [(key, if isSecretKey key then item else sentBack item)]) ++
        fields) := by
      unfold Distinct at hdistinct ⊢
      simpa using hdistinct
    have hrest := mergeEntries_redactEntries fields _ incoming
      (fun key' item' hmem => hincoming key' item' (List.mem_cons_of_mem _ hmem)) hnext
      (fun key' item' hmem => hitems key' item' (List.mem_cons_of_mem _ hmem))
    have hitem := mergeObjects_redactSecrets item (hitems key item List.mem_cons_self)
    rw [List.append_assoc, List.append_assoc, List.singleton_append, List.singleton_append]
      at hrest
    rw [sentBackEntries, ← hrest, mergeEntries, redactEntries, hincoming key item List.mem_cons_self]
    congr 1
    by_cases hsecret : isSecretKey key = true
    · rw [if_pos hsecret, if_pos hsecret, if_pos hsecret, isMaskedSecretValue_mask, Bool.or_true,
        if_pos rfl, set_append_cons hkey]
    · rw [if_neg hsecret, if_neg hsecret, if_neg hsecret, ← hitem]
      cases mergeObjects item (some (redactSecrets item)) with
      | none => rfl
      | some value => exact set_append_cons hkey _ _ _

end

/-! ### What comes back unchanged -/

mutual

/-- Nothing is masked in the arrays that are shown. -/
def survives : Json → Bool
  | .arr items => showsAllItems items
  | .obj fields => survivesEntries fields
  | _ => true

def survivesEntries : Settings → Bool
  | [] => true
  | (key, item) :: fields => (isSecretKey key || survives item) && survivesEntries fields

end

mutual

theorem sentBack_eq_self_iff : ∀ v : Json, sentBack v = v ↔ survives v = true
  | .null => iff_of_true rfl rfl
  | .bool _ => iff_of_true rfl rfl
  | .num _ => iff_of_true rfl rfl
  | .str _ => iff_of_true rfl rfl
  | .arr items => redactSecrets_eq_self_iff (.arr items)
  | .obj fields => by
    rw [sentBack, survives, Json.obj.injEq]
    exact sentBackEntries_eq_self_iff fields

theorem sentBackEntries_eq_self_iff :
    ∀ fields : Settings, sentBackEntries fields = fields ↔ survivesEntries fields = true
  | [] => iff_of_true rfl rfl
  | (key, item) :: fields => by
    rw [sentBackEntries, survivesEntries, List.cons.injEq, Bool.and_eq_true, Prod.mk.injEq,
      sentBackEntries_eq_self_iff fields]
    by_cases hkey : isSecretKey key = true
    · simp only [hkey, if_true, true_and, Bool.true_or]
    · rw [if_neg hkey, Bool.eq_false_iff.2 hkey, Bool.false_or, sentBack_eq_self_iff item]
      simp only [true_and]

end

/-- A configuration that is shown and sent back stays as it is exactly if nothing is masked in the
arrays that are shown. -/
theorem merge_redact_iff (c : Configuration) :
    mergeConfigPreservingSecrets c.settings (redactEntries c.settings) = c.settings ↔
      survivesEntries c.settings = true := by
  rw [← sentBackEntries_eq_self_iff]
  have h := mergeObjects_redactSecrets (.obj c.settings) c.distinct
  rw [redactSecrets, mergeObjects, Option.getD_some, sentBack, Json.obj.injEq] at h
  rw [mergeConfigPreservingSecrets, h]

/-- A token of one of several servers. -/
def Configuration.servers : Configuration where
  settings := [("servers", .arr [.obj [("token", .str "t-1")]])]
  distinct := by decide

/-- The token is replaced by its mask. -/
theorem merge_redact_ne :
    mergeConfigPreservingSecrets Configuration.servers.settings
      (redactEntries Configuration.servers.settings) ≠ Configuration.servers.settings := by
  intro h
  have hmerged : mergeConfigPreservingSecrets Configuration.servers.settings
      (redactEntries Configuration.servers.settings) =
        [("servers", .arr [.obj [("token", .str "***")]])] := rfl
  rw [hmerged] at h
  simp [Configuration.servers] at h

end IdmMw

import IdmMw.Admin.ConfigEdits

/-!
# The merge of configurations, path by path

* `Json.at?`, `Json.EqUpToOrder`: what a path of keys leads to, and values that differ in the order
  of keys only;
* `lookup_merge`: what the merge has under a key, by what is stored and what is sent under it;
* `at?_merge_sent`, `at?_merge_left`: a secret that is sent is set, one that is left out or masked
  stays (`SendsSecret`, `LeavesSecret`);
* `merge_eqUpToOrder`: the stored configuration matters only in the secrets that are left
  (`SecretsAgree`);
* `distinctKeys_merge`: the result is an object of the language;
* `merge_merge`: a merge that is made again changes nothing.
-/

namespace IdmMw

open OrderedMap

variable {current current' incoming merged fields : Settings} {key : String} {path : List String}
  {v v' : Json}

/-! ### Paths -/

/-- What the path of keys leads to. -/
def Json.at? : List String → Json → Option Json
  | [], v => some v
  | key :: path, v => (v.get? key).bind (Json.at? path)

/-- Without the entries, where it is an object. -/
def Json.shell : Json → Json
  | .obj _ => .obj []
  | v => v

/-- The values are the same, but for the order of the keys of objects. -/
def SameValue (v v' : Option Json) : Prop :=
  ∀ path, (v.bind (Json.at? path)).map Json.shell = (v'.bind (Json.at? path)).map Json.shell

def Json.EqUpToOrder (v v' : Json) : Prop := SameValue (some v) (some v')

theorem Json.EqUpToOrder.get? (h : v.EqUpToOrder v') (key : String) :
    SameValue (v.get? key) (v'.get? key) := fun path => h (key :: path)

theorem SameValue.shell {v v' : Option Json} (h : SameValue v v') :
    v.map Json.shell = v'.map Json.shell := by
  have hnil := h []
  cases v <;> cases v' <;> exact hnil

theorem SameValue.or {v v' : Option Json} (h : SameValue v v') (w : Option Json) :
    SameValue (v.or w) (v'.or w) := by
  have hshell := h.shell
  cases v with
  | none =>
    cases v' with
    | none => exact fun _ => rfl
    | some v' => cases hshell
  | some v =>
    cases v' with
    | none => cases hshell
    | some v' => exact h

theorem Json.at?_append (path path' : List String) (v : Json) :
    v.at? (path ++ path') = (v.at? path).bind (Json.at? path') := by
  induction path generalizing v with
  | nil => rfl
  | cons key path ih =>
    show (v.get? key).bind (Json.at? (path ++ path')) = ((v.get? key).bind (Json.at? path)).bind _
    rw [Option.bind_assoc]
    congr 1
    funext item
    exact ih item

theorem SameValue.at? (h : v.EqUpToOrder v') (path : List String) :
    SameValue (v.at? path) (v'.at? path) := by
  intro rest
  rw [← Json.at?_append, ← Json.at?_append]
  exact h (path ++ rest)

theorem at?_singleton (fields : Settings) (key : String) :
    (Json.obj fields).at? [key] = fields.lookup key := by
  show (fields.lookup key).bind (Json.at? []) = fields.lookup key
  cases fields.lookup key <;> rfl

/-- The entries under a key; none where there is no object. -/
def entriesUnder (fields : Settings) (key : String) : Settings :=
  match fields.lookup key with
  | some (.obj fields) => fields
  | _ => []

/-- A path goes on in the entries under its first key. -/
theorem at?_cons (fields : Settings) (key key' : String) (path : List String) :
    (Json.obj fields).at? (key :: key' :: path) =
      (Json.obj (entriesUnder fields key)).at? (key' :: path) := by
  show (fields.lookup key).bind (Json.at? (key' :: path)) = _
  unfold entriesUnder
  rcases fields.lookup key with _ | v
  · rfl
  · cases v <;> rfl

/-! ### One key -/

/-- What the merge has under a key. -/
def mergedValue (key : String) (currentValue incomingValue : Option Json) : Option Json :=
  if isSecretKey key then
    if incomingValue.isNone || isMaskedSecretValue incomingValue then
      currentValue.or incomingValue
    else incomingValue
  else (currentValue.bind fun value => mergeObjects value incomingValue).or incomingValue

theorem mergeObjects_none (v : Json) : mergeObjects v none = none := by
  cases v <;> rfl

/-- What the loop makes of an entry: it touches its key only. -/
theorem mergeEntries_cons (first : String) (value : Json) (current incoming merged : Settings) :
    ∃ next, mergeEntries ((first, value) :: current) incoming merged =
        mergeEntries current incoming next ∧
      (∀ key, key ≠ first → next.lookup key = merged.lookup key) ∧
      next.lookup first =
        if isSecretKey first then
          if (incoming.lookup first).isNone || isMaskedSecretValue (incoming.lookup first) then
            some value
          else merged.lookup first
        else (mergeObjects value (incoming.lookup first)).or (merged.lookup first) := by
  have hset : ∀ value, (∀ key, key ≠ first → (set merged first value).lookup key =
      merged.lookup key) ∧ (set merged first value).lookup first = some value := fun value =>
    ⟨fun key hkey => lookup_set_of_ne hkey merged value, lookup_set_self merged first value⟩
  rw [mergeEntries]
  split_ifs with hsecret hleft
  · exact ⟨_, rfl, hset value⟩
  · exact ⟨_, rfl, fun _ _ => rfl, rfl⟩
  · cases mergeObjects value (incoming.lookup first) with
    | none => exact ⟨_, rfl, fun _ _ => rfl, rfl⟩
    | some value => exact ⟨_, rfl, hset value⟩

/-- The loop sets each stored key at most once. -/
theorem lookup_mergeEntries (hcurrent : Distinct current) (incoming merged : Settings)
    (key : String) : (mergeEntries current incoming merged).lookup key =
      match current.lookup key with
      | none => merged.lookup key
      | some value =>
        if isSecretKey key then
          if (incoming.lookup key).isNone || isMaskedSecretValue (incoming.lookup key) then
            some value
          else merged.lookup key
        else (mergeObjects value (incoming.lookup key)).or (merged.lookup key) := by
  induction current generalizing merged with
  | nil => rfl
  | cons entry current ih =>
    obtain ⟨first, value⟩ := entry
    obtain ⟨hfirst, hrest⟩ := List.nodup_cons.1 hcurrent
    obtain ⟨next, hnext, hothers, hlookup⟩ := mergeEntries_cons first value current incoming merged
    rw [hnext, ih hrest]
    by_cases hkey : key = first
    · subst hkey
      rw [lookup_eq_none_iff.2 hfirst, lookup_cons_self]
      exact hlookup
    · rw [lookup_cons_of_ne (Ne.symm hkey), hothers key hkey]

theorem lookup_merge (hcurrent : Distinct current) (incoming : Settings) (key : String) :
    (mergeConfigPreservingSecrets current incoming).lookup key =
      mergedValue key (current.lookup key) (incoming.lookup key) := by
  unfold mergeConfigPreservingSecrets
  rw [lookup_mergeEntries hcurrent]
  unfold mergedValue
  cases current.lookup key with
  | none =>
    dsimp only
    split_ifs <;> rfl
  | some value => rfl

/-- Under a key where an object is sent, that is merged with what is stored; under the key of no
secret. -/
theorem mergedValue_obj (hkey : isSecretKey key = false) (hincoming : incoming.lookup key =
    some (.obj fields)) : mergedValue key (current.lookup key) (incoming.lookup key) =
      some (.obj (mergeConfigPreservingSecrets (entriesUnder current key) fields)) := by
  unfold mergedValue entriesUnder
  rw [hkey, if_neg Bool.false_ne_true, hincoming]
  rcases current.lookup key with _ | v
  · rfl
  · cases v <;> rfl

theorem mergedValue_of_not_obj (hkey : isSecretKey key = false)
    (hincoming : ∀ fields, incoming.lookup key ≠ some (.obj fields)) :
    mergedValue key (current.lookup key) (incoming.lookup key) = incoming.lookup key := by
  unfold mergedValue
  rw [hkey, if_neg Bool.false_ne_true]
  have hmerge : ∀ v, mergeObjects v (incoming.lookup key) = none := by
    intro v
    rcases hvalue : incoming.lookup key with _ | w
    · exact mergeObjects_none v
    · cases w with
      | obj fields => exact absurd hvalue (hincoming fields)
      | _ => cases v <;> rfl
  cases current.lookup key with
  | none => rfl
  | some v =>
    show (mergeObjects v (incoming.lookup key)).or _ = _
    rw [hmerge v]
    rfl

theorem mergedValue_sent (hkey : isSecretKey key = true) (hvalue : incoming.lookup key = some v)
    (hmask : isMaskedSecretValue (some v) = false) :
    mergedValue key (current.lookup key) (incoming.lookup key) = some v := by
  unfold mergedValue
  rw [if_pos hkey, hvalue, hmask]
  rfl

theorem mergedValue_left (hkey : isSecretKey key = true)
    (hleft : incoming.lookup key = none ∨ isMaskedSecretValue (incoming.lookup key) = true) :
    mergedValue key (current.lookup key) (incoming.lookup key) =
      (current.lookup key).or (incoming.lookup key) := by
  unfold mergedValue
  rw [if_pos hkey]
  rcases hleft with hnone | hmask
  · rw [hnone]
    rfl
  · rw [hmask, Bool.or_true]
    rfl

theorem distinct_entriesUnder (h : distinctKeysOfFields current = true) (key : String) :
    distinctKeysOfFields (entriesUnder current key) = true := by
  unfold entriesUnder
  rcases hlookup : current.lookup key with _ | v
  · rfl
  · have hv := distinctKeys_of_mem h (mem_of_lookup hlookup)
    cases v with
    | obj fields => exact hv
    | _ => rfl

/-! ### Secrets -/

/-- What is sent has a value for the secret, and no mask. -/
def SendsSecret (incoming : Json) (path : List String) (key : String) (v : Json) : Prop :=
  isSecretKey key = true ∧ isMaskedSecretValue (some v) = false ∧
    incoming.at? (path ++ [key]) = some v

/-- What is sent has an object where the secret belongs, without the secret or with a mask. -/
def LeavesSecret (incoming : Json) (path : List String) (key : String) : Prop :=
  isSecretKey key = true ∧ (∀ parent ∈ path, isSecretKey parent = false) ∧
    ∃ fields, incoming.at? path = some (.obj fields) ∧
      (fields.lookup key = none ∨ isMaskedSecretValue (fields.lookup key) = true)

/-- A secret that is sent is set. -/
theorem at?_merge_sent (hcurrent : distinctKeysOfFields current = true)
    (h : SendsSecret (.obj incoming) path key v) :
    (Json.obj (mergeConfigPreservingSecrets current incoming)).at? (path ++ [key]) = some v := by
  obtain ⟨hkey, hmask, hvalue⟩ := h
  induction path generalizing current incoming with
  | nil =>
    have hlookup : incoming.lookup key = some v := by
      obtain ⟨item, hitem, hv⟩ := Option.bind_eq_some_iff.1 hvalue
      exact hitem.trans hv
    show ((mergeConfigPreservingSecrets current incoming).lookup key).bind (Json.at? []) = some v
    rw [lookup_merge (distinct_of_distinctKeys hcurrent), mergedValue_sent hkey hlookup hmask]
    rfl
  | cons parent path ih =>
    obtain ⟨item, hitem, hv⟩ := Option.bind_eq_some_iff.1 hvalue
    show ((mergeConfigPreservingSecrets current incoming).lookup parent).bind
      (Json.at? (path ++ [key])) = some v
    rw [lookup_merge (distinct_of_distinctKeys hcurrent)]
    -- only an object has a value on a path that goes on
    obtain ⟨fields, rfl⟩ : ∃ fields, item = .obj fields := by
      cases item with
      | obj fields => exact ⟨fields, rfl⟩
      | _ => cases path <;> cases hv
    cases hparent : isSecretKey parent with
    | true =>
      rw [mergedValue_sent hparent hitem rfl]
      exact hv
    | false =>
      rw [mergedValue_obj hparent hitem]
      exact ih (distinct_entriesUnder hcurrent parent) hv

/-- A secret that is left out or masked stays. -/
theorem at?_merge_left (hcurrent : distinctKeysOfFields current = true)
    (h : LeavesSecret (.obj incoming) path key)
    (hv : (Json.obj current).at? (path ++ [key]) = some v) :
    (Json.obj (mergeConfigPreservingSecrets current incoming)).at? (path ++ [key]) = some v := by
  obtain ⟨hkey, hpath, fields, hfields, hleft⟩ := h
  induction path generalizing current incoming with
  | nil =>
    have heq : incoming = fields := by
      cases hfields
      rfl
    subst heq
    have hlookup : current.lookup key = some v := by
      obtain ⟨item, hitem, hv⟩ := Option.bind_eq_some_iff.1 hv
      exact hitem.trans hv
    show ((mergeConfigPreservingSecrets current incoming).lookup key).bind (Json.at? []) = some v
    rw [lookup_merge (distinct_of_distinctKeys hcurrent), mergedValue_left hkey hleft, hlookup]
    rfl
  | cons parent path ih =>
    obtain ⟨item, hitem, hfields'⟩ := Option.bind_eq_some_iff.1 hfields
    obtain ⟨sent, rfl⟩ : ∃ sent, item = .obj sent := by
      cases item with
      | obj sent => exact ⟨sent, rfl⟩
      | _ => cases path <;> cases hfields'
    have hstored : (Json.obj (entriesUnder current parent)).at? (path ++ [key]) = some v := by
      rcases path with _ | ⟨second, path⟩
      · exact (at?_cons current parent key []).symm.trans hv
      · exact (at?_cons current parent second (path ++ [key])).symm.trans hv
    show ((mergeConfigPreservingSecrets current incoming).lookup parent).bind
      (Json.at? (path ++ [key])) = some v
    rw [lookup_merge (distinct_of_distinctKeys hcurrent),
      mergedValue_obj (hpath parent List.mem_cons_self) hitem]
    exact ih (distinct_entriesUnder hcurrent parent) hstored
      (fun parent hparent => hpath parent (List.mem_cons_of_mem _ hparent)) hfields'

/-- The secret that the merge keeps: the stored one, or what is sent where none is stored. -/
def keptSecret (current incoming : Settings) (path : List String) (key : String) : Option Json :=
  ((Json.obj current).at? (path ++ [key])).or ((Json.obj incoming).at? (path ++ [key]))

/-- Of the secrets that are left, the same would be kept. -/
def SecretsAgree (incoming current current' : Settings) : Prop :=
  ∀ path key, LeavesSecret (.obj incoming) path key →
    SameValue (keptSecret current incoming path key) (keptSecret current' incoming path key)

theorem SecretsAgree.of_eqUpToOrder (incoming : Settings)
    (h : (Json.obj current).EqUpToOrder (.obj current')) :
    SecretsAgree incoming current current' := fun path key _ =>
  (SameValue.at? h (path ++ [key])).or _

theorem SecretsAgree.under (h : SecretsAgree incoming current current')
    (hkey : isSecretKey key = false) (hincoming : incoming.lookup key = some (.obj fields)) :
    SecretsAgree fields (entriesUnder current key) (entriesUnder current' key) := by
  intro path secret hleaves
  have hincoming' : ∀ path, (Json.obj incoming).at? (key :: path) = (Json.obj fields).at? path := by
    intro path
    show (incoming.lookup key).bind (Json.at? path) = _
    rw [hincoming]
    rfl
  have hkept : ∀ current : Settings, keptSecret current incoming (key :: path) secret =
      keptSecret (entriesUnder current key) fields path secret := by
    intro current
    unfold keptSecret
    rw [List.cons_append, hincoming']
    congr 1
    rcases path with _ | ⟨second, path⟩
    · exact at?_cons current key secret []
    · exact at?_cons current key second (path ++ [secret])
  obtain ⟨hsecret, hpath, sent, hsent, hleft⟩ := hleaves
  have hagree := h (key :: path) secret ⟨hsecret, ?_, sent, (hincoming' path).trans hsent, hleft⟩
  · rwa [hkept, hkept] at hagree
  · intro parent hparent
    rcases List.mem_cons.1 hparent with rfl | hparent
    · exact hkey
    · exact hpath parent hparent

/-- Merged with configurations that agree on the secrets that are left, what is sent gives the
same. -/
theorem merge_eqUpToOrder (hcurrent : distinctKeysOfFields current = true)
    (hcurrent' : distinctKeysOfFields current' = true)
    (h : SecretsAgree incoming current current') :
    (Json.obj (mergeConfigPreservingSecrets current incoming)).EqUpToOrder
      (.obj (mergeConfigPreservingSecrets current' incoming)) := by
  intro path
  induction path generalizing current current' incoming with
  | nil => rfl
  | cons key path ih =>
    show (((mergeConfigPreservingSecrets current incoming).lookup key).bind (Json.at? path)).map _ =
      (((mergeConfigPreservingSecrets current' incoming).lookup key).bind (Json.at? path)).map _
    rw [lookup_merge (distinct_of_distinctKeys hcurrent),
      lookup_merge (distinct_of_distinctKeys hcurrent')]
    cases hkey : isSecretKey key with
    | true =>
      by_cases hleft : incoming.lookup key = none ∨
          isMaskedSecretValue (incoming.lookup key) = true
      · rw [mergedValue_left hkey hleft, mergedValue_left hkey hleft]
        have hagree := h [] key ⟨hkey, nofun, incoming, rfl, hleft⟩ path
        unfold keptSecret at hagree
        rwa [List.nil_append, at?_singleton, at?_singleton, at?_singleton] at hagree
      · obtain ⟨hsome, hmask⟩ := not_or.1 hleft
        obtain ⟨v, hv⟩ := Option.ne_none_iff_exists'.1 hsome
        rw [hv, Bool.not_eq_true] at hmask
        rw [mergedValue_sent hkey hv hmask, mergedValue_sent hkey hv hmask]
    | false =>
      by_cases hobj : ∃ fields, incoming.lookup key = some (.obj fields)
      · obtain ⟨fields, hfields⟩ := hobj
        rw [mergedValue_obj hkey hfields, mergedValue_obj hkey hfields]
        exact ih (distinct_entriesUnder hcurrent key) (distinct_entriesUnder hcurrent' key)
          (h.under hkey hfields)
      · have hother := not_exists.1 hobj
        rw [mergedValue_of_not_obj hkey hother, mergedValue_of_not_obj hkey hother]

/-! ### Distinct keys -/

theorem distinctKeysOfFields_iff {fields : Settings} : distinctKeysOfFields fields = true ↔
    Distinct fields ∧ ∀ entry ∈ fields, entry.2.distinctKeys = true := by
  constructor
  · intro h
    exact ⟨distinct_of_distinctKeys h, fun entry hentry => distinctKeys_of_mem h hentry⟩
  · rintro ⟨hdistinct, hvalues⟩
    induction fields with
    | nil => rfl
    | cons entry fields ih =>
      obtain ⟨key, item⟩ := entry
      obtain ⟨hkey, hrest⟩ := List.nodup_cons.1 hdistinct
      rw [distinctKeysOfFields, hvalues _ List.mem_cons_self,
        ih hrest fun entry hentry => hvalues entry (List.mem_cons_of_mem _ hentry)]
      have hnot : (fields.map Prod.fst).contains key = false := by
        simpa using hkey
      rw [hnot]
      rfl

theorem distinctKeysOfFields_set (hmerged : distinctKeysOfFields merged = true)
    (hv : v.distinctKeys = true) (key : String) :
    distinctKeysOfFields (set merged key v) = true := by
  obtain ⟨hdistinct, hvalues⟩ := distinctKeysOfFields_iff.1 hmerged
  refine distinctKeysOfFields_iff.2 ⟨hdistinct.set key v, fun entry hentry => ?_⟩
  have hlookup := (hdistinct.set key v).lookup_of_mem hentry
  by_cases hkey : entry.1 = key
  · rw [hkey, lookup_set_self] at hlookup
    obtain rfl := Option.some.inj hlookup
    exact hv
  · rw [lookup_set_of_ne hkey] at hlookup
    exact hvalues _ (mem_of_lookup hlookup)

mutual

theorem distinctKeys_mergeObjects : ∀ (v : Json) (incomingValue : Option Json) (w : Json),
    v.distinctKeys = true → (∀ item, incomingValue = some item → item.distinctKeys = true) →
    mergeObjects v incomingValue = some w → w.distinctKeys = true
  | .obj current, some (.obj incoming), w, hv, hincoming, h => by
    rw [mergeObjects] at h
    obtain rfl := Option.some.inj h
    exact distinctKeys_mergeEntries current incoming incoming hv (hincoming _ rfl)
      (hincoming _ rfl)
  | .obj _, none, _, _, _, h => by cases h
  | .obj _, some .null, _, _, _, h => by cases h
  | .obj _, some (.bool _), _, _, _, h => by cases h
  | .obj _, some (.num _), _, _, _, h => by cases h
  | .obj _, some (.str _), _, _, _, h => by cases h
  | .obj _, some (.arr _), _, _, _, h => by cases h
  | .null, _, _, _, _, h => by cases h
  | .bool _, _, _, _, _, h => by cases h
  | .num _, _, _, _, _, h => by cases h
  | .str _, _, _, _, _, h => by cases h
  | .arr _, _, _, _, _, h => by cases h

theorem distinctKeys_mergeEntries : ∀ (current incoming merged : Settings),
    distinctKeysOfFields current = true → distinctKeysOfFields incoming = true →
    distinctKeysOfFields merged = true →
    distinctKeysOfFields (mergeEntries current incoming merged) = true
  | [], _, _, _, _, hmerged => by
    rw [mergeEntries]
    exact hmerged
  | (key, value) :: current, incoming, merged, hcurrent, hincoming, hmerged => by
    have hvalue : value.distinctKeys = true := distinctKeys_of_mem hcurrent List.mem_cons_self
    have hrest : distinctKeysOfFields current = true := by
      rw [distinctKeysOfFields, Bool.and_eq_true] at hcurrent
      exact hcurrent.2
    have hsent : ∀ item, incoming.lookup key = some item → item.distinctKeys = true :=
      fun item hitem => distinctKeys_of_mem hincoming (mem_of_lookup hitem)
    rw [mergeEntries]
    refine distinctKeys_mergeEntries current incoming _ hrest hincoming ?_
    split_ifs
    · exact distinctKeysOfFields_set hmerged hvalue key
    · exact hmerged
    · cases hmerge : mergeObjects value (incoming.lookup key) with
      | none => exact hmerged
      | some item =>
        exact distinctKeysOfFields_set hmerged
          (distinctKeys_mergeObjects value (incoming.lookup key) item hvalue hsent hmerge) key

end

theorem distinctKeys_merge (hcurrent : distinctKeysOfFields current = true)
    (hincoming : distinctKeysOfFields incoming = true) :
    distinctKeysOfFields (mergeConfigPreservingSecrets current incoming) = true :=
  distinctKeys_mergeEntries current incoming incoming hcurrent hincoming hincoming

/-! ### A merge that is made again -/

/-- The keys that the loop adds. -/
def leftKeys (merged : Settings) (keys : List String) : List String :=
  keys.filter fun key => isSecretKey key && !(merged.map Prod.fst).contains key

theorem isSome_of_mergeObjects {value : Option Json} (h : mergeObjects v value = some v') :
    value.isSome = true := by
  cases value with
  | none =>
    rw [mergeObjects_none] at h
    cases h
  | some value => rfl

theorem mem_keys_of_isSome (h : (incoming.lookup key).isSome = true) :
    key ∈ incoming.map Prod.fst := by
  by_contra hkey
  rw [lookup_eq_none_iff.2 hkey] at h
  cases h

/-- The loop adds the keys of the secrets that are not there. -/
theorem keys_mergeEntries (hcurrent : Distinct current)
    (hincoming : ∀ key ∈ incoming.map Prod.fst, key ∈ merged.map Prod.fst) :
    (mergeEntries current incoming merged).map Prod.fst =
      merged.map Prod.fst ++ leftKeys merged (current.map Prod.fst) := by
  induction current generalizing merged with
  | nil => exact (List.append_nil _).symm
  | cons entry current ih =>
    obtain ⟨first, value⟩ := entry
    obtain ⟨hfirst, hrest⟩ := List.nodup_cons.1 hcurrent
    -- where the key is there already, the step adds none
    have hkept : ∀ next : Settings, first ∈ merged.map Prod.fst →
        next.map Prod.fst = merged.map Prod.fst →
        (mergeEntries current incoming next).map Prod.fst =
          merged.map Prod.fst ++ leftKeys merged (first :: current.map Prod.fst) := by
      intro next hmem hkeys
      rw [ih hrest (by rw [hkeys]; exact hincoming), hkeys]
      unfold leftKeys
      rw [hkeys, List.filter_cons_of_neg (by simp [hmem])]
    have hsetKept : ∀ value, first ∈ merged.map Prod.fst →
        (set merged first value).map Prod.fst = merged.map Prod.fst := fun value hmem => by
      rw [keys_set, if_pos hmem]
    rw [mergeEntries, List.map_cons]
    split_ifs with hsecret hleft
    · by_cases hmem : first ∈ merged.map Prod.fst
      · exact hkept _ hmem (hsetKept value hmem)
      · have hkeys : (set merged first value).map Prod.fst = merged.map Prod.fst ++ [first] := by
          rw [keys_set, if_neg hmem]
        rw [ih hrest fun key hkey => by
          rw [hkeys]
          exact List.mem_append_left _ (hincoming key hkey), hkeys, List.append_assoc]
        unfold leftKeys
        rw [List.filter_cons_of_pos (by simp [hsecret, hmem]), hkeys]
        refine congrArg (merged.map Prod.fst ++ ·) (congrArg (first :: ·) (List.filter_congr ?_))
        intro key hkey
        have hne : key ≠ first := fun heq => hfirst (heq ▸ hkey)
        have hmem : key ∈ merged.map Prod.fst ++ [first] ↔ key ∈ merged.map Prod.fst := by
          rw [List.mem_append, List.mem_singleton, or_iff_left hne]
        rw [List.contains_eq_mem, List.contains_eq_mem, decide_eq_decide.2 hmem]
    · have hsome : (incoming.lookup first).isSome = true := by
        rw [Bool.or_eq_true, not_or] at hleft
        simpa using hleft.1
      exact hkept _ (hincoming first (mem_keys_of_isSome hsome)) rfl
    · cases hmerge : mergeObjects value (incoming.lookup first) with
      | some value' =>
        have hmem := hincoming first (mem_keys_of_isSome (isSome_of_mergeObjects hmerge))
        exact hkept _ hmem (hsetKept value' hmem)
      | none =>
        show (mergeEntries current incoming merged).map Prod.fst = _
        rw [ih hrest hincoming]
        unfold leftKeys
        rw [List.filter_cons_of_neg (by simp [hsecret])]

theorem keys_merge (hcurrent : Distinct current) :
    (mergeConfigPreservingSecrets current incoming).map Prod.fst =
      incoming.map Prod.fst ++ leftKeys incoming (current.map Prod.fst) :=
  keys_mergeEntries hcurrent fun _ hkey => hkey

theorem leftKeys_append_leftKeys (incoming : Settings) (keys : List String) :
    leftKeys incoming (incoming.map Prod.fst ++ leftKeys incoming keys) =
      leftKeys incoming keys := by
  have hnone : leftKeys incoming (incoming.map Prod.fst) = [] :=
    List.filter_eq_nil_iff.2 fun key hkey => by
      rw [List.contains_iff_mem.2 hkey]
      simp
  unfold leftKeys at hnone ⊢
  rw [List.filter_append, hnone, List.nil_append, List.filter_filter]
  refine List.filter_congr fun key _ => ?_
  rw [Bool.and_self]

theorem sizeOf_lt_of_lookup (h : incoming.lookup key = some (.obj fields)) :
    sizeOf fields < sizeOf incoming := by
  have hlt := List.sizeOf_lt_of_mem (mem_of_lookup h)
  simp only [Prod.mk.sizeOf_spec, Json.obj.sizeOf_spec] at hlt
  omega

/-- A merge that is made again changes nothing, not even the order of the keys. -/
theorem merge_merge (current incoming : Settings) (hcurrent : distinctKeysOfFields current = true)
    (hincoming : distinctKeysOfFields incoming = true) :
    mergeConfigPreservingSecrets (mergeConfigPreservingSecrets current incoming) incoming =
      mergeConfigPreservingSecrets current incoming := by
  have hdistinct := distinct_of_distinctKeys hcurrent
  have hmerged := distinctKeys_merge hcurrent hincoming
  refine (eq_of_lookup ?_ (distinct_of_distinctKeys hmerged) fun key => ?_).symm
  · rw [keys_merge (distinct_of_distinctKeys hmerged), keys_merge hdistinct,
      leftKeys_append_leftKeys]
  · rw [lookup_merge (distinct_of_distinctKeys hmerged)]
    cases hkey : isSecretKey key with
    | true =>
      by_cases hleft : incoming.lookup key = none ∨
          isMaskedSecretValue (incoming.lookup key) = true
      · rw [mergedValue_left hkey hleft, lookup_merge hdistinct, mergedValue_left hkey hleft]
        cases current.lookup key <;> cases incoming.lookup key <;> rfl
      · obtain ⟨hsome, hmask⟩ := not_or.1 hleft
        obtain ⟨v, hv⟩ := Option.ne_none_iff_exists'.1 hsome
        have hplain : isMaskedSecretValue (some v) = false := by
          rw [← hv]
          exact Bool.eq_false_iff.2 hmask
        rw [mergedValue_sent hkey hv hplain, lookup_merge hdistinct,
          mergedValue_sent hkey hv hplain]
    | false =>
      by_cases hobj : ∃ fields, incoming.lookup key = some (.obj fields)
      · obtain ⟨fields, hfields⟩ := hobj
        have hunder : entriesUnder (mergeConfigPreservingSecrets current incoming) key =
            mergeConfigPreservingSecrets (entriesUnder current key) fields := by
          unfold entriesUnder
          rw [lookup_merge hdistinct, mergedValue_obj hkey hfields]
          rfl
        have hv := distinctKeys_of_mem hincoming (mem_of_lookup hfields)
        have hsize := sizeOf_lt_of_lookup hfields
        rw [mergedValue_obj hkey hfields, lookup_merge hdistinct, mergedValue_obj hkey hfields,
          hunder, merge_merge (entriesUnder current key) fields
            (distinct_entriesUnder hcurrent key) hv]
      · have hnot := fun fields h => hobj ⟨fields, h⟩
        rw [mergedValue_of_not_obj hkey hnot, lookup_merge hdistinct,
          mergedValue_of_not_obj hkey hnot]
termination_by sizeOf incoming

/-- Sending a configuration again changes nothing; and a stored secret stays where what is sent leaves
it out, or has a mask in its place. -/
theorem merge_repeated (current incoming : Settings)
    (hcurrent : distinctKeysOfFields current = true)
    (hincoming : distinctKeysOfFields incoming = true) :
    mergeConfigPreservingSecrets (mergeConfigPreservingSecrets current incoming) incoming =
        mergeConfigPreservingSecrets current incoming ∧
      ∀ path key v, LeavesSecret (.obj incoming) path key →
        (Json.obj current).at? (path ++ [key]) = some v →
        (Json.obj (mergeConfigPreservingSecrets current incoming)).at? (path ++ [key]) = some v :=
  ⟨merge_merge current incoming hcurrent hincoming,
    fun _ _ _ hleaves hv => at?_merge_left hcurrent hleaves hv⟩

/-- A masked password beside a setting that changes. -/
theorem merge_repeated_masked :
    (mergeConfigPreservingSecrets
      [("db", .obj [("host", .str "a"), ("password", .str "secret")])]
      [("db", .obj [("host", .str "b"), ("password", .str "***")])]) =
      [("db", .obj [("host", .str "b"), ("password", .str "secret")])] ∧
    mergeConfigPreservingSecrets
      [("db", .obj [("host", .str "b"), ("password", .str "secret")])]
      [("db", .obj [("host", .str "b"), ("password", .str "***")])] =
      [("db", .obj [("host", .str "b"), ("password", .str "secret")])] := by
  have h := (merge_repeated [("db", .obj [("host", .str "a"), ("password", .str "secret")])]
    [("db", .obj [("host", .str "b"), ("password", .str "***")])] (by decide) (by decide)).1
  have hmerged : mergeConfigPreservingSecrets
      [("db", .obj [("host", .str "a"), ("password", .str "secret")])]
      [("db", .obj [("host", .str "b"), ("password", .str "***")])] =
      [("db", .obj [("host", .str "b"), ("password", .str "secret")])] := by rfl
  rw [hmerged] at h
  exact ⟨hmerged, h⟩

end IdmMw

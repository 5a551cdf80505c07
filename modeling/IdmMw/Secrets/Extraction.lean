import IdmMw.Model.Secrets

/-!
# What is taken from the answer of the vault

The value of a reference should be the text that the configured path leads to, or else the first one
under the usual keys, or else the empty text, which is refused (`Extracts`).

`extracts_iff`: the path is followed to see whether it leads to a text, but then taken as the name of
one property; so a path of more than one part finds nothing, unless there is a property with the whole
path for its name.
-/

namespace IdmMw

namespace IndeedPamAapmClient

variable {js : Runtime} {body : Json} {path refId respType jsonPath : String}

/-- The text that the parts lead to, if it is not empty. -/
def leadsTo (body : Json) (parts : List String) : Option String :=
  match walk body parts with
  | some (.str text) => if text = "" then none else some text
  | _ => none

/-- The text that should be taken from the answer. -/
def expected (body : Json) (jsonPath : String) : String :=
  ((leadsTo body (parts jsonPath)).or
    (fallbacks.findSome? fun fallback => leadsTo body [fallback])).getD ""

/-- What is taken is the expected text, and only a text that is not empty is returned. -/
def Extracts (js : Runtime) (refId respType jsonPath : String) (body : Json) : Prop :=
  extractValue js body respType jsonPath = some (.str (expected body jsonPath)) ∧
    ∀ v, getValue js refId respType jsonPath (.ok body) = .ok v → ∃ text, text ≠ "" ∧ v = .str text

/-- The path has one part or leads to no text, or its text is that of the property with the whole path
for its name; an answer that is no object is blank. -/
def Readable (js : Runtime) (jsonPath : String) (body : Json) : Prop :=
  if isObject body then
    ∀ text, leadsTo body (parts jsonPath) = some text →
      (parts jsonPath).length = 1 ∨ property body jsonPath = some (.str text)
  else trim (body.toText js.numberText) = ""

theorem readable_of_object (h : isObject body = true) : Readable js jsonPath body ↔
    ∀ text, leadsTo body (parts jsonPath) = some text →
      (parts jsonPath).length = 1 ∨ property body jsonPath = some (.str text) := by
  unfold Readable
  rw [if_pos h]

theorem leadsTo_eq_some {parts : List String} {text : String} :
    leadsTo body parts = some text ↔ walk body parts = some (.str text) ∧ text ≠ "" := by
  unfold leadsTo
  split
  · next text' hwalk =>
    rw [hwalk]
    by_cases hempty : text' = ""
    · subst hempty
      simp
    · rw [if_neg hempty]
      constructor
      · rintro heq
        obtain rfl := Option.some.inj heq
        exact ⟨rfl, hempty⟩
      · rintro ⟨heq, -⟩
        exact congrArg some (Json.str.inj (Option.some.inj heq))
  · next hnot =>
    constructor
    · nofun
    · rintro ⟨hwalk, -⟩
      exact absurd hwalk (hnot text)

theorem tryReadJsonPath_iff : tryReadJsonPath body path = (leadsTo body (parts path)).isSome := by
  unfold tryReadJsonPath leadsTo
  rcases walk body (parts path) with _ | _ | _ | _ | text | _ | _
  case some.str =>
    by_cases hempty : text = ""
    · simp [hempty]
    · simp [hempty]
  all_goals rfl

/-- A path of one part is the name of its property. -/
theorem parts_eq_singleton {part : String} (h : parts path = [part]) : part = path := by
  unfold parts at h
  obtain ⟨chars, hchars, rfl⟩ := List.map_eq_singleton_iff.1 h
  by_cases hplain : ∀ c ∈ path.toList, (decide (c = '.') || decide (c = ':')) = false
  · rw [List.splitOnP_eq_singleton hplain] at hchars
    rw [← List.singleton_inj.1 hchars, String.ofList_toList]
  · -- a separator makes a second part
    push Not at hplain
    obtain ⟨c, hc, hsep⟩ := hplain
    obtain ⟨before, after, hpath⟩ := List.append_of_mem hc
    rw [hpath, List.splitOnP_append_cons before after (Bool.eq_true_of_not_eq_false hsep)] at hchars
    have hlength := congrArg List.length hchars
    have hbefore := List.length_pos_iff.2 (List.splitOnP_ne_nil
      (fun c => decide (c = '.') || decide (c = ':')) before)
    have hafter := List.length_pos_iff.2 (List.splitOnP_ne_nil
      (fun c => decide (c = '.') || decide (c = ':')) after)
    rw [List.length_append, List.length_singleton] at hlength
    omega

theorem walk_singleton (part : String) : walk body [part] = property body part := by
  show (property body part).bind (walk · []) = _
  cases property body part <;> rfl

theorem parts_fallback {fallback : String} (h : fallback ∈ fallbacks) :
    parts fallback = [fallback] := by
  have hall : ∀ fallback ∈ fallbacks, parts fallback = [fallback] := by decide
  exact hall fallback h

/-- The text under a usual key is the value of that property. -/
theorem extract_fallback :
    (match fallbacks.find? (tryReadJsonPath body) with
      | some fallback => property body fallback
      | none => some (.str "")) =
      some (.str ((fallbacks.findSome? fun fallback => leadsTo body [fallback]).getD "")) := by
  have hread : ∀ fallback ∈ fallbacks,
      tryReadJsonPath body fallback = (leadsTo body [fallback]).isSome := fun fallback h => by
    rw [tryReadJsonPath_iff, parts_fallback h]
  generalize fallbacks = keys at hread
  induction keys with
  | nil => rfl
  | cons key keys ih =>
    have hkeys := fun fallback h => hread fallback (List.mem_cons_of_mem _ h)
    rw [List.find?_cons, hread key List.mem_cons_self, List.findSome?_cons]
    cases hlead : leadsTo body [key] with
    | none => exact ih hkeys
    | some text =>
      have hwalk := (leadsTo_eq_some.1 hlead).1
      rw [walk_singleton] at hwalk
      exact hwalk

/-- What is taken from an answer that is an object. -/
theorem extractValue_of_object (htype : js.toLowerCase respType = "json")
    (hbody : isObject body = true) : extractValue js body respType jsonPath =
      match leadsTo body (parts jsonPath) with
      | some _ => property body jsonPath
      | none => some (.str (expected body jsonPath)) := by
  unfold extractValue
  rw [if_neg (by simp [htype, hbody]), tryReadJsonPath_iff]
  cases hlead : leadsTo body (parts jsonPath) with
  | some text => rfl
  | none =>
    show (match fallbacks.find? (tryReadJsonPath body) with
      | some fallback => property body fallback
      | none => some (.str "")) = _
    rw [extract_fallback]
    unfold expected
    rw [hlead, Option.none_or]

theorem getValue_eq : getValue js refId respType jsonPath (.ok body) =
    match (extractValue js body respType jsonPath).filter Json.truthy with
    | some result => .ok result
    | none => .error (.error s!"PAM ref '{refId}' returned an empty value.") := rfl

/-- Only a text that is not empty is returned, if a text is taken. -/
theorem getValue_of_text {text : String} (h : extractValue js body respType jsonPath =
    some (.str text)) {v : Json} (hv : getValue js refId respType jsonPath (.ok body) = .ok v) :
    ∃ text, text ≠ "" ∧ v = .str text := by
  rw [getValue_eq, h] at hv
  by_cases hempty : text = ""
  · subst hempty
    cases hv
  · have htruthy : Json.truthy (.str text) = true := by simpa [Json.truthy] using hempty
    rw [Option.filter_some, if_pos htruthy] at hv
    exact ⟨text, hempty, (Except.ok.inj hv).symm⟩

theorem extracts_of_text (h : extractValue js body respType jsonPath =
    some (.str (expected body jsonPath))) : Extracts js refId respType jsonPath body :=
  ⟨h, fun _ hv => getValue_of_text h hv⟩

theorem expected_of_leadsTo {text : String} (h : leadsTo body (parts jsonPath) = some text) :
    expected body jsonPath = text := by
  unfold expected
  rw [h]
  rfl

/-- A scalar has no properties, so nothing is expected. -/
theorem expected_of_scalar (hbody : isObject body = false) : expected body jsonPath = "" := by
  have hnone : ∀ part parts, leadsTo body (part :: parts) = none := by
    intro part parts
    have hproperty : property body part = none := by
      cases body <;> first | rfl | cases hbody
    unfold leadsTo walk
    rw [hproperty]
    rfl
  have hparts : ∃ part rest, parts jsonPath = part :: rest := by
    refine List.exists_cons_of_ne_nil fun hnil => ?_
    exact List.splitOnP_ne_nil _ _ (List.map_eq_nil_iff.1 hnil)
  obtain ⟨part, rest, hparts⟩ := hparts
  unfold expected
  rw [hparts, hnone]
  simp [fallbacks, hnone]

/-- The law fails of a path with more than one part, and of an answer that is no object. -/
theorem readable_of_extracts (htype : js.toLowerCase respType = "json")
    (h : Extracts js refId respType jsonPath body) : Readable js jsonPath body := by
  cases hbody : isObject body with
  | true =>
    refine (readable_of_object hbody).2 fun text hlead => ?_
    have hvalue := h.1
    rw [extractValue_of_object htype hbody, hlead, expected_of_leadsTo hlead] at hvalue
    exact Or.inr hvalue
  | false =>
    unfold Readable
    rw [if_neg (by simp [hbody])]
    have hvalue := h.1
    unfold extractValue at hvalue
    rw [if_pos (by simp [hbody]), expected_of_scalar hbody] at hvalue
    exact Json.str.inj (Option.some.inj hvalue)

/-- The expected text is taken exactly from such an answer. -/
theorem extracts_iff (js : Runtime) (refId respType jsonPath : String) (body : Json)
    (htype : js.toLowerCase respType = "json") :
    Extracts js refId respType jsonPath body ↔ Readable js jsonPath body := by
  refine ⟨readable_of_extracts htype, fun h => extracts_of_text ?_⟩
  cases hbody : isObject body with
  | true =>
    have h := (readable_of_object hbody).1 h
    rw [extractValue_of_object htype hbody]
    cases hlead : leadsTo body (parts jsonPath) with
    | none => rfl
    | some text =>
      rw [expected_of_leadsTo hlead]
      rcases h text hlead with hone | hproperty
      · obtain ⟨part, hpart⟩ := List.length_eq_one_iff.1 hone
        have hwalk := (leadsTo_eq_some.1 hlead).1
        rw [hpart, walk_singleton, parts_eq_singleton hpart] at hwalk
        exact hwalk
      · exact hproperty
  | false =>
    unfold Readable at h
    rw [hbody, if_neg Bool.false_ne_true] at h
    unfold extractValue
    rw [if_pos (by simp [hbody]), expected_of_scalar hbody, h]

/-- A path of one part. -/
theorem extracts_password : Extracts .ascii "db" "JSON" "password" (.obj [("password", .str "s3")]) :=
  (extracts_iff _ _ _ _ _ (by decide)).2 ((readable_of_object rfl).2 fun _ _ => Or.inl rfl)

/-- The answer has the text in an object within an object. -/
theorem nested_not_extracts : ¬ ∀ jsonPath body,
    Extracts .ascii "db" "json" jsonPath body := by
  intro h
  have hreadable := readable_of_extracts (by decide)
    (h "data.password" (.obj [("data", .obj [("password", .str "s3")])]))
  rcases (readable_of_object rfl).1 hreadable "s3" (by decide) with hone | hproperty
  · exact absurd hone (by decide)
  · cases hproperty

end IndeedPamAapmClient

end IdmMw

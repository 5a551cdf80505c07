import IdmMw.Model.ConnectorError

/-!
# No secret is left in the errors that connectors report

* `HasSecret`: the secrets of a value, under the keys that `isSecretKey` knows;
* `mem_allSecrets`: all of them are collected;
* `barrier_censor`: no secret that is a plain text reaches into the word that is written instead;
* `not_infix_safeConnectorErrorMessage`: no such secret is in the message.
-/

namespace IdmMw

namespace ConnectorError

open Rewriting

variable {secret key : String} {parentKey : Option String}

/-! ### Secrets of a value -/

/-- The text, or an element of an array. -/
inductive IsElement (secret : String) : Json → Prop
  | text : IsElement secret (.str secret)
  | item {item : Json} {items : List Json} (hitem : item ∈ items) :
      IsElement secret item → IsElement secret (.arr items)

/-- The text stands under a secret key. -/
inductive HasSecret (secret : String) : Json → Prop
  | here {key : String} {item : Json} {fields : Settings} (hfield : (key, item) ∈ fields)
      (hkey : isSecretKey key = true) : IsElement secret item → HasSecret secret (.obj fields)
  | field {key : String} {item : Json} {fields : Settings} (hfield : (key, item) ∈ fields) :
      HasSecret secret item → HasSecret secret (.obj fields)
  | item {item : Json} {items : List Json} (hitem : item ∈ items) :
      HasSecret secret item → HasSecret secret (.arr items)

theorem mem_collectItems {item : Json} {items : List Json} (hitem : item ∈ items)
    (h : secret ∈ collectSecrets parentKey item) : secret ∈ collectItems parentKey items := by
  induction items with
  | nil => cases hitem
  | cons first items ih =>
    unfold collectItems
    rcases List.mem_cons.1 hitem with rfl | hitem
    · exact List.mem_append_left _ h
    · exact List.mem_append_right _ (ih hitem)

theorem mem_collectEntries {item : Json} {fields : Settings} (hfield : (key, item) ∈ fields)
    (h : secret ∈ collectSecrets (some key) item) : secret ∈ collectEntries fields := by
  induction fields with
  | nil => cases hfield
  | cons first fields ih =>
    unfold collectEntries
    rcases List.mem_cons.1 hfield with rfl | hfield
    · exact List.mem_append_left _ h
    · exact List.mem_append_right _ (ih hfield)

theorem isSecretParent_of_isSecretKey (h : isSecretKey key = true) :
    isSecretParent (some key) = true := by
  show (decide (key ≠ "") && isSecretKey key) = true
  rw [h, Bool.and_true]
  refine decide_eq_true ?_
  rintro rfl
  exact absurd h (by decide)

/-- Elements under a secret key are collected. -/
theorem mem_collectSecrets_of_isElement {value : Json} (hparent : isSecretParent parentKey = true)
    (hlength : minLiteralSecretLength ≤ utf16Length secret) (h : IsElement secret value) :
    secret ∈ collectSecrets parentKey value := by
  induction h with
  | text =>
    unfold collectSecrets
    rw [hparent, Bool.true_and, if_pos (decide_eq_true hlength)]
    exact List.mem_singleton_self _
  | item hitem _ ih => exact mem_collectItems hitem ih

/-- The secrets of a value are collected. -/
theorem mem_collectSecrets {value : Json} (hlength : minLiteralSecretLength ≤ utf16Length secret)
    (h : HasSecret secret value) : secret ∈ collectSecrets parentKey value := by
  induction h generalizing parentKey with
  | here hfield hkey helement =>
    exact mem_collectEntries hfield
      (mem_collectSecrets_of_isElement (isSecretParent_of_isSecretKey hkey) hlength helement)
  | field hfield _ ih => exact mem_collectEntries hfield ih
  | item hitem _ ih => exact mem_collectItems hitem ih

theorem mem_allSecrets {secretSources : List (Option Json)} :
    secret ∈ allSecrets secretSources ↔
      ∃ value, some value ∈ secretSources ∧ secret ∈ collectSecrets none value := by
  unfold allSecrets
  rw [List.mem_mergeSort, List.mem_eraseDups, List.mem_flatMap]
  constructor
  · rintro ⟨source, hsource, hmem⟩
    cases source with
    | none => cases hmem
    | some value => exact ⟨value, hsource, hmem⟩
  · rintro ⟨value, hvalue, hmem⟩
    exact ⟨some value, hvalue, hmem⟩

mutual

theorem length_of_mem_collectSecrets {parentKey : Option String} :
    ∀ {value : Json}, secret ∈ collectSecrets parentKey value →
      minLiteralSecretLength ≤ utf16Length secret
  | .arr _, h => length_of_mem_collectItems h
  | .obj _, h => length_of_mem_collectEntries h
  | .str text, h => by
    unfold collectSecrets at h
    split at h
    · next hsecret =>
      obtain rfl := List.mem_singleton.1 h
      exact of_decide_eq_true (Bool.and_eq_true_iff.1 hsecret).2
    · cases h
  | .null, h => nomatch h
  | .bool _, h => nomatch h
  | .num _, h => nomatch h

theorem length_of_mem_collectItems {parentKey : Option String} :
    ∀ {items : List Json}, secret ∈ collectItems parentKey items →
      minLiteralSecretLength ≤ utf16Length secret
  | [], h => nomatch h
  | item :: items, h => by
    unfold collectItems at h
    rcases List.mem_append.1 h with h | h
    · exact length_of_mem_collectSecrets h
    · exact length_of_mem_collectItems h

theorem length_of_mem_collectEntries :
    ∀ {fields : Settings}, secret ∈ collectEntries fields →
      minLiteralSecretLength ≤ utf16Length secret
  | [], h => nomatch h
  | (key, item) :: fields, h => by
    unfold collectEntries at h
    rcases List.mem_append.1 h with h | h
    · exact length_of_mem_collectSecrets h
    · exact length_of_mem_collectEntries h

end

theorem toList_ne_nil (h : minLiteralSecretLength ≤ utf16Length secret) : secret.toList ≠ [] := by
  intro hnil
  unfold utf16Length at h
  rw [hnil] at h
  exact absurd h (by decide)

/-! ### Replacements -/

/-- The text has no blank, no `=` and no bracket, and is not a part of the word that is written instead
of secrets. -/
structure Plain (secret : String) : Prop where
  chars : ∀ c ∈ secret.toList, isSpace c = false ∧ c ≠ '=' ∧ c ≠ '[' ∧ c ≠ ']'
  censored : ¬ secret.toList <:+: "REDACTED".toList

theorem barrier_censor (h : Plain secret) :
    Barrier secret.toList secretRedactionCensor.toList := by
  have hopening : '[' ∉ secret.toList := fun hmem => (h.chars _ hmem).2.2.1 rfl
  have hclosing : ']' ∉ secret.toList := fun hmem => (h.chars _ hmem).2.2.2 rfl
  exact barrier_of_brackets hopening hclosing h.censored

/-- Where secrets are replaced, no other secret arises. -/
theorem not_infix_foldl_censor {secrets : List String} (hplain : Plain secret)
    (hsecrets : ∀ other ∈ secrets, other.toList ≠ []) {message : List Char}
    (h : ¬ secret.toList <:+: message) : ¬ secret.toList <:+: secrets.foldl censor message := by
  induction secrets generalizing message with
  | nil => exact h
  | cons other secrets ih =>
    refine ih (fun s hs => hsecrets s (List.mem_cons_of_mem _ hs)) fun hinfix => h ?_
    have hcuts := cuts_literal (hsecrets other List.mem_cons_self) (barrier_censor hplain)
    exact (rewritten_replaceFrom hcuts none message).within [] hinfix

/-- Each secret is replaced when its turn comes. -/
theorem not_infix_foldl_censor_of_mem {secrets : List String} (hplain : Plain secret)
    (hsecrets : ∀ other ∈ secrets, other.toList ≠ []) (hmem : secret ∈ secrets)
    (message : List Char) : ¬ secret.toList <:+: secrets.foldl censor message := by
  induction secrets generalizing message with
  | nil => cases hmem
  | cons other secrets ih =>
    have hothers : ∀ s ∈ secrets, s.toList ≠ [] :=
      fun s hs => hsecrets s (List.mem_cons_of_mem _ hs)
    rcases List.mem_cons.1 hmem with rfl | hmem
    · exact not_infix_foldl_censor hplain hothers
        (not_infix_replace_literal (hsecrets _ List.mem_cons_self) (barrier_censor hplain) message)
    · exact ih hothers hmem _

/-- The patterns write barriers, too. -/
theorem barrier_patterns (h : Plain secret) :
    ∀ pattern ∈ [bearerPattern, urlPattern, assignmentPattern],
      Barrier secret.toList pattern.inserted := by
  intro pattern hpattern
  simp only [List.mem_cons, List.not_mem_nil, or_false] at hpattern
  rcases hpattern with rfl | rfl | rfl
  · exact (barrier_censor h).cons fun hmem => absurd (h.chars _ hmem).1 (by decide)
  · exact barrier_censor h
  · exact (barrier_censor h).cons fun hmem => (h.chars _ hmem).2.1 rfl

/-- What the patterns replace makes no secret. -/
theorem not_infix_replace_rule (h : Plain secret) {pattern : Pattern Char}
    (hpattern : pattern ∈ [bearerPattern, urlPattern, assignmentPattern]) {message : List Char}
    (hmessage : ¬ secret.toList <:+: message) :
    ¬ secret.toList <:+: replace pattern.rule message := fun hinfix =>
  hmessage ((rewritten_replaceFrom (cuts_rule pattern (barrier_patterns h pattern hpattern)) none
    message).within [] hinfix)

/-- No secret of the sources is in the message, if it has at least four characters and is plain. -/
theorem not_infix_safeConnectorErrorMessage (error : JsError) (secretSources : List (Option Json))
    {value : Json} (hvalue : some value ∈ secretSources) (hsecret : HasSecret secret value)
    (hlength : minLiteralSecretLength ≤ utf16Length secret) (hplain : Plain secret) :
    ¬ secret.toList <:+: (safeConnectorErrorMessage error secretSources).toList := by
  have hmem : secret ∈ allSecrets secretSources :=
    mem_allSecrets.2 ⟨value, hvalue, mem_collectSecrets hlength hsecret⟩
  have hsecrets : ∀ other ∈ allSecrets secretSources, other.toList ≠ [] := by
    intro other hother
    obtain ⟨source, -, hcollected⟩ := mem_allSecrets.1 hother
    exact toList_ne_nil (length_of_mem_collectSecrets hcollected)
  unfold safeConnectorErrorMessage
  rw [String.toList_ofList]
  refine not_infix_replace_rule hplain (by simp) ?_
  refine not_infix_replace_rule hplain (by simp) ?_
  refine not_infix_replace_rule hplain (by simp) ?_
  exact not_infix_foldl_censor_of_mem hplain hsecrets hmem _

theorem plain_agentToken : Plain "agent-token" where
  chars c hc :=
    have hall : ("agent-token".toList.all fun c =>
        isSpace c = false ∧ c ≠ '=' ∧ c ≠ '[' ∧ c ≠ ']') = true := by decide
    of_decide_eq_true (List.all_eq_true.1 hall c hc)
  censored := by decide

/-- A token that a configuration holds. -/
theorem not_infix_agentToken : ¬ "agent-token".toList <:+: (safeConnectorErrorMessage
    (.error "failed with agent-token")
      [some (.obj [("apiToken", .arr [.str "agent", .str "agent-token"])])]).toList :=
  not_infix_safeConnectorErrorMessage _ _ List.mem_cons_self
    (.here List.mem_cons_self (by decide) (.item (List.mem_cons_of_mem _ List.mem_cons_self) .text))
    (by decide) plain_agentToken

end ConnectorError

end IdmMw

import IdmMw.Library.UrlText
import IdmMw.Model.Secrets

/-!
# The references of the environment

When the references of the environment are resolved, none should be left, everything else should be as
it was, and each reference should be fetched once (`Resolved`).

* `LoopResult`, `resolveKeys_runs`: what the loop has done, by the keys it went through;
* `resolves_iff`: all is as it should be unless a scheme is written in both cases, or a reference has
  nothing behind its scheme.
-/

namespace IdmMw

open Async OrderedMap

namespace SecretResolverService

variable {env : Environment} {key value : String} {keys : List String}
  {resolver resolver' : SecretResolver} {t : List (Async.Event PamAns)}

/-! ### The law -/

/-- What the start-up takes for a reference. -/
def IsLeft (value : String) : Prop := EncryptionService.isSecretReference (trimmed value) = true

/-- The reference that is fetched. -/
def fetched (e : Async.Event PamAns) : String :=
  match e.req with
  | .getValue refId => refId

/-- The vault does not answer with a reference. -/
def Resolvent : Async.Event PamAns → Prop
  | ⟨.getValue _, answer⟩ => ∀ value, answer = .ok value → ¬ IsLeft value

/-- What should have become of the environment. -/
structure Resolved (before after : Environment) (t : List (Async.Event PamAns)) : Prop where
  complete : ∀ key value, isOwn key = false → after.lookup key = some value → ¬ IsLeft value
  unchanged : ∀ key value, before.lookup key = some value → ¬ IsLeft value →
    after.lookup key = some value
  keys : after.map Prod.fst = before.map Prod.fst
  same : ∀ key key' value value', isOwn key = false → isOwn key' = false →
    before.lookup key = some value → before.lookup key' = some value' → IsLeft value →
    extractRefId value = extractRefId value' → after.lookup key = after.lookup key'
  once : (t.map fetched).Nodup

/-- Whenever all is resolved, it is resolved as it should be. -/
def Resolves (env : Environment) : Prop :=
  ∀ t resolver, (resolveAll "IndeedPamAapm" ⟨env, []⟩).Runs t (.ok resolver) →
    (∀ e ∈ t, Resolvent e) → Resolved env resolver.env t

/-- Every reference has its scheme in one case, and something behind it. -/
def Spelled (env : Environment) : Prop :=
  ∀ key value, isOwn key = false → env.lookup key = some value → IsLeft value →
    isReference value = true ∧ extractRefId value ≠ some ""

/-! ### References -/

/-- No letter is upper case after it was made lower case. -/
theorem toLower_ne {c d : Char} (hd : d.toNat < 97 ∧ d.toLower ≠ d) : c.toLower ≠ d := by
  intro h
  obtain rfl := Url.eq_of_toLower h hd.1
  exact hd.2 h

theorem not_isPrefixOf_lower {pre text : List Char} {c : Char}
    (hc : c.toNat < 97 ∧ c.toLower ≠ c) : ¬ (c :: pre).isPrefixOf (text.map Char.toLower) = true := by
  intro h
  obtain ⟨rest, hrest⟩ := List.isPrefixOf_iff_prefix.1 h
  obtain ⟨c', text', rfl, hc', -⟩ := List.map_eq_cons_iff.1 hrest.symm
  exact toLower_ne hc hc'

theorem extractRefId_isSome : (extractRefId value).isSome = true ↔ IsLeft value := by
  unfold extractRefId IsLeft EncryptionService.isSecretReference
  rw [Option.isSome_map, List.find?_isSome]
  constructor
  · rintro ⟨pre, hpre, hstarts⟩
    rw [Bool.or_eq_true]
    simp only [List.mem_cons, List.not_mem_nil, or_false] at hpre
    rcases hpre with rfl | rfl | rfl | rfl
    · exact Or.inl hstarts
    · exact Or.inr hstarts
    · exact absurd hstarts (not_isPrefixOf_lower (by decide))
    · exact absurd hstarts (not_isPrefixOf_lower (by decide))
  · intro h
    rcases Bool.or_eq_true_iff.1 h with h | h
    · exact ⟨"secret://", by simp, h⟩
    · exact ⟨"aapm://", by simp, h⟩

/-- What is resolved counts as a reference at start-up. -/
theorem isLeft_of_isReference (h : isReference value = true) : IsLeft value := by
  unfold isReference at h
  obtain ⟨pre, hpre, hstarts⟩ := List.any_eq_true.1 h
  obtain ⟨rest, hrest⟩ := List.isPrefixOf_iff_prefix.1 hstarts
  unfold IsLeft EncryptionService.isSecretReference
  rw [← hrest, List.map_append, Bool.or_eq_true]
  simp only [List.mem_cons, List.not_mem_nil, or_false] at hpre
  rcases hpre with rfl | rfl | rfl | rfl
  · exact Or.inl (List.isPrefixOf_iff_prefix.2 ⟨_, rfl⟩)
  · exact Or.inr (List.isPrefixOf_iff_prefix.2 ⟨_, rfl⟩)
  · exact Or.inl (List.isPrefixOf_iff_prefix.2 ⟨_, rfl⟩)
  · exact Or.inr (List.isPrefixOf_iff_prefix.2 ⟨_, rfl⟩)

/-! ### The loop -/

/-- The reference that the loop fetches for a key. -/
def refIdAt (env : Environment) (key : String) : Option String :=
  ((env.lookup key).bind extractRefId).filter (· ≠ "")

theorem resolveKey_of_none (h : refIdAt resolver.env key = none) :
    resolveKey resolver key = Pure.pure resolver := by
  unfold refIdAt at h
  unfold resolveKey
  rw [h]

theorem resolveKey_of_cached {refId value : String} (h : refIdAt resolver.env key = some refId)
    (hcache : resolver.cache.lookup refId = some value) :
    resolveKey resolver key = Pure.pure { resolver with env := set resolver.env key value } := by
  unfold refIdAt at h
  unfold resolveKey
  rw [h]
  dsimp only
  rw [hcache]

theorem resolveKey_of_not_cached {refId : String} (h : refIdAt resolver.env key = some refId)
    (hcache : resolver.cache.lookup refId = none) :
    resolveKey resolver key = Async.await (.getValue refId) .settle >>= fun resolved =>
      Pure.pure ⟨set resolver.env key resolved, set resolver.cache refId resolved⟩ := by
  unfold refIdAt at h
  unfold resolveKey
  rw [h]
  dsimp only
  rw [hcache]

/-- The ways in which a key may be resolved. -/
theorem resolveKey_runs (h : (resolveKey resolver key).Runs t (.ok resolver')) :
    (refIdAt resolver.env key = none ∧ t = [] ∧ resolver' = resolver) ∨
      ∃ refId value, refIdAt resolver.env key = some refId ∧
        resolver'.env = set resolver.env key value ∧
        ((resolver.cache.lookup refId = some value ∧ t = [] ∧ resolver'.cache = resolver.cache) ∨
          resolver.cache.lookup refId = none ∧ t = [⟨.getValue refId, .ok value⟩] ∧
            resolver'.cache = set resolver.cache refId value) := by
  cases hrefId : refIdAt resolver.env key with
  | none =>
    rw [resolveKey_of_none hrefId] at h
    obtain ⟨rfl, hx⟩ := h
    exact Or.inl ⟨rfl, rfl, Except.ok.inj hx⟩
  | some refId =>
    refine Or.inr ?_
    cases hcache : resolver.cache.lookup refId with
    | some value =>
      rw [resolveKey_of_cached hrefId hcache] at h
      obtain ⟨rfl, hx⟩ := h
      obtain rfl := Except.ok.inj hx
      exact ⟨refId, value, rfl, rfl, Or.inl ⟨hcache, rfl, rfl⟩⟩
    | none =>
      rw [resolveKey_of_not_cached hrefId hcache] at h
      obtain ⟨value, t₁, t₂, rfl, hfetch, rfl, hx⟩ := runs_bind_ok.1 h
      obtain ⟨answer, rfl, hanswer⟩ := runs_request.1 hfetch
      obtain rfl := Except.ok.inj hx
      refine ⟨refId, value, rfl, rfl, Or.inr ⟨hcache, ?_, rfl⟩⟩
      rw [show answer = .ok value from hanswer.symm]
      rfl

/-- What the loop has done when it went through the keys. -/
structure LoopResult (keys : List String) (resolver resolver' : SecretResolver)
    (t : List (Async.Event PamAns)) : Prop where
  kept : resolver'.env.map Prod.fst = resolver.env.map Prod.fst
  others : ∀ key ∉ keys, resolver'.env.lookup key = resolver.env.lookup key
  skipped : ∀ key ∈ keys, refIdAt resolver.env key = none →
    resolver'.env.lookup key = resolver.env.lookup key
  resolved : ∀ key ∈ keys, ∀ refId, refIdAt resolver.env key = some refId →
    ∃ value, resolver'.cache.lookup refId = some value ∧ resolver'.env.lookup key = some value
  grows : ∀ refId value, resolver.cache.lookup refId = some value →
    resolver'.cache.lookup refId = some value
  cached : ∀ refId value, resolver'.cache.lookup refId = some value →
    resolver.cache.lookup refId = some value ∨ ⟨.getValue refId, .ok value⟩ ∈ t
  fresh : ∀ refId ∈ t.map fetched, resolver.cache.lookup refId = none ∧
    ∃ value, resolver'.cache.lookup refId = some value
  once : (t.map fetched).Nodup

theorem mem_of_refIdAt {refId : String} (h : refIdAt env key = some refId) :
    key ∈ env.map Prod.fst := by
  by_contra hkey
  unfold refIdAt at h
  rw [lookup_eq_none_iff.2 hkey] at h
  cases h

theorem keys_set_of_refIdAt {refId : String} (h : refIdAt env key = some refId) (value : String) :
    (set env key value).map Prod.fst = env.map Prod.fst := by
  rw [keys_set, if_pos (mem_of_refIdAt h)]

/-- One key more. -/
theorem LoopResult.cons {resolver₁ : SecretResolver} {t₁ t₂ : List (Async.Event PamAns)}
    (hkey : key ∉ keys) (h₁ : LoopResult [key] resolver resolver₁ t₁)
    (h₂ : LoopResult keys resolver₁ resolver' t₂) :
    LoopResult (key :: keys) resolver resolver' (t₁ ++ t₂) where
  kept := h₂.kept.trans h₁.kept
  others key' hkey' := by
    obtain ⟨hne, hmem⟩ := not_or.1 fun hor => hkey' (List.mem_cons.2 hor)
    rw [h₂.others key' hmem, h₁.others key' (by simpa using hne)]
  skipped key' hkey' hnone := by
    rcases List.mem_cons.1 hkey' with rfl | hmem
    · rw [h₂.others key' hkey, h₁.skipped key' List.mem_cons_self hnone]
    · have hsame := h₁.others key' fun hone => hkey (List.mem_singleton.1 hone ▸ hmem)
      have hnone' : refIdAt resolver₁.env key' = none := by
        unfold refIdAt
        rw [hsame]
        exact hnone
      rw [h₂.skipped key' hmem hnone', hsame]
  resolved key' hkey' refId hrefId := by
    rcases List.mem_cons.1 hkey' with rfl | hmem
    · obtain ⟨value, hcache, henv⟩ := h₁.resolved key' List.mem_cons_self refId hrefId
      exact ⟨value, h₂.grows refId value hcache, by rw [h₂.others key' hkey, henv]⟩
    · have hsame := h₁.others key' fun hone => hkey (List.mem_singleton.1 hone ▸ hmem)
      refine h₂.resolved key' hmem refId ?_
      unfold refIdAt
      rw [hsame]
      exact hrefId
  grows refId value h := h₂.grows refId value (h₁.grows refId value h)
  cached refId value h := by
    rcases h₂.cached refId value h with h | h
    · rcases h₁.cached refId value h with h | h
      · exact Or.inl h
      · exact Or.inr (List.mem_append_left _ h)
    · exact Or.inr (List.mem_append_right _ h)
  fresh refId h := by
    rw [List.map_append] at h
    rcases List.mem_append.1 h with h | h
    · obtain ⟨hnone, value, hvalue⟩ := h₁.fresh refId h
      exact ⟨hnone, value, h₂.grows refId value hvalue⟩
    · obtain ⟨hnone, hvalue⟩ := h₂.fresh refId h
      refine ⟨?_, hvalue⟩
      -- what was in the cache before is in it still
      by_contra hsome
      obtain ⟨value, hsome⟩ := Option.ne_none_iff_exists'.1 hsome
      rw [h₁.grows refId value hsome] at hnone
      cases hnone
  once := by
    rw [List.map_append]
    refine List.nodup_append'.2 ⟨h₁.once, h₂.once, fun refId hfirst hrest => ?_⟩
    obtain ⟨-, value, hvalue⟩ := h₁.fresh refId hfirst
    rw [(h₂.fresh refId hrest).1] at hvalue
    cases hvalue

theorem loopResult_nil (resolver : SecretResolver) : LoopResult [] resolver resolver [] where
  kept := rfl
  others _ _ := rfl
  skipped _ h := by cases h
  resolved _ h := by cases h
  grows _ _ h := h
  cached _ _ h := Or.inl h
  fresh _ h := by cases h
  once := List.nodup_nil

theorem loopResult_key (h : (resolveKey resolver key).Runs t (.ok resolver')) :
    LoopResult [key] resolver resolver' t := by
  rcases resolveKey_runs h with ⟨hnone, rfl, rfl⟩ | ⟨refId, value, hrefId, henv, hfetch⟩
  · refine ⟨rfl, fun _ _ => rfl, fun _ _ _ => rfl, fun key' hkey' refId hrefId => ?_,
      fun _ _ h => h, fun _ _ h => Or.inl h, fun _ h => (by cases h), List.nodup_nil⟩
    obtain rfl := List.mem_singleton.1 hkey'
    rw [hnone] at hrefId
    cases hrefId
  · have hkeys : resolver'.env.map Prod.fst = resolver.env.map Prod.fst := by
      rw [henv, keys_set_of_refIdAt hrefId]
    have hothers : ∀ key' ∉ [key], resolver'.env.lookup key' = resolver.env.lookup key' := by
      intro key' hkey'
      rw [henv, lookup_set_of_ne (by simpa using hkey')]
    have hskipped : ∀ key' ∈ [key], refIdAt resolver.env key' = none →
        resolver'.env.lookup key' = resolver.env.lookup key' := by
      intro key' hkey' hnone
      obtain rfl := List.mem_singleton.1 hkey'
      rw [hnone] at hrefId
      cases hrefId
    have hresolved : resolver'.cache.lookup refId = some value →
        ∀ key' ∈ [key], ∀ refId', refIdAt resolver.env key' = some refId' →
          ∃ value, resolver'.cache.lookup refId' = some value ∧
            resolver'.env.lookup key' = some value := by
      intro hcached key' hkey' refId' hrefId'
      obtain rfl := List.mem_singleton.1 hkey'
      obtain rfl := Option.some.inj (hrefId.symm.trans hrefId')
      exact ⟨value, hcached, by rw [henv, lookup_set_self]⟩
    rcases hfetch with ⟨hcached, rfl, hcache⟩ | ⟨hnone, rfl, hcache⟩
    · refine ⟨hkeys, hothers, hskipped, hresolved (by rw [hcache, hcached]), ?_, ?_,
        fun _ h => (by cases h), List.nodup_nil⟩
      · intro refId' value' h
        rw [hcache]
        exact h
      · intro refId' value' h
        rw [hcache] at h
        exact Or.inl h
    · have hnew : resolver'.cache.lookup refId = some value := by rw [hcache, lookup_set_self]
      refine ⟨hkeys, hothers, hskipped, hresolved hnew, ?_, ?_, ?_, List.nodup_singleton _⟩
      · intro refId' value' hvalue
        have hne : refId' ≠ refId := by
          rintro rfl
          rw [hnone] at hvalue
          cases hvalue
        rw [hcache, lookup_set_of_ne hne]
        exact hvalue
      · intro refId' value' hvalue
        by_cases heq : refId' = refId
        · subst heq
          obtain rfl := Option.some.inj (hnew.symm.trans hvalue)
          exact Or.inr List.mem_cons_self
        · rw [hcache, lookup_set_of_ne heq] at hvalue
          exact Or.inl hvalue
      · intro refId' h
        obtain rfl := List.mem_singleton.1 h
        exact ⟨hnone, value, hnew⟩

theorem resolveKeys_runs (hkeys : keys.Nodup)
    (h : (resolveKeys keys resolver).Runs t (.ok resolver')) :
    LoopResult keys resolver resolver' t := by
  induction keys generalizing resolver t with
  | nil =>
    obtain ⟨rfl, hx⟩ := h
    obtain rfl := Except.ok.inj hx
    exact loopResult_nil _
  | cons key keys ih =>
    obtain ⟨hkey, hrest⟩ := List.nodup_cons.1 hkeys
    obtain ⟨resolver₁, t₁, t₂, rfl, hrun₁, hrun₂⟩ := runs_bind_ok.1 h
    exact (loopResult_key hrun₁).cons hkey (ih hrest hrun₂)

/-! ### All variables -/

theorem mem_referenceKeys (henv : Distinct env) : key ∈ referenceKeys env ↔
    ∃ value, env.lookup key = some value ∧ isOwn key = false ∧ isReference value = true := by
  unfold referenceKeys
  rw [List.mem_map]
  constructor
  · rintro ⟨⟨key', value⟩, hmem, rfl⟩
    obtain ⟨hmem, hkey⟩ := List.mem_filter.1 hmem
    refine ⟨value, henv.lookup_of_mem hmem, ?_⟩
    simpa using hkey
  · rintro ⟨value, hlookup, hown, href⟩
    exact ⟨(key, value), List.mem_filter.2 ⟨mem_of_lookup hlookup, by simp [hown, href]⟩, rfl⟩

theorem nodup_referenceKeys (henv : Distinct env) : (referenceKeys env).Nodup :=
  henv.sublist (List.filter_sublist.map Prod.fst)

theorem refIdAt_eq_some {refId : String} (hlookup : env.lookup key = some value) :
    refIdAt env key = some refId ↔ extractRefId value = some refId ∧ refId ≠ "" := by
  unfold refIdAt
  rw [hlookup, Option.bind_some, Option.filter_eq_some_iff]
  simp

theorem refIdAt_eq_none (hlookup : env.lookup key = some value)
    (hnone : ¬ IsLeft value ∨ extractRefId value = some "") : refIdAt env key = none := by
  rw [Option.eq_none_iff_forall_ne_some]
  intro refId hrefId
  obtain ⟨hextract, hne⟩ := (refIdAt_eq_some hlookup).1 hrefId
  rcases hnone with hnot | hempty
  · exact hnot (extractRefId_isSome.1 (by rw [hextract]; rfl))
  · rw [hempty] at hextract
    exact hne (Option.some.inj hextract).symm

/-- What comes of the variables that the loop does not touch. -/
theorem unchanged_of_loopResult (henv : Distinct env)
    (h : LoopResult (referenceKeys env) ⟨env, []⟩ resolver t) (hlookup : env.lookup key = some value)
    (hnot : isReference value = false ∨ extractRefId value = some "") :
    resolver.env.lookup key = some value := by
  by_cases hmem : key ∈ referenceKeys env
  · obtain ⟨value', hlookup', -, href⟩ := (mem_referenceKeys henv).1 hmem
    obtain rfl := Option.some.inj (hlookup.symm.trans hlookup')
    rcases hnot with hnot | hempty
    · rw [href] at hnot
      cases hnot
    · rw [h.skipped key hmem (refIdAt_eq_none hlookup (Or.inr hempty))]
      exact hlookup
  · rw [h.others key hmem]
    exact hlookup

/-- Of a reference that is spelled well, the value of its reference is what the cache has. -/
theorem resolved_of_loopResult (henv : Distinct env)
    (h : LoopResult (referenceKeys env) ⟨env, []⟩ resolver t) (hspelled : Spelled env)
    (hown : isOwn key = false) (hlookup : env.lookup key = some value) (hleft : IsLeft value) :
    ∃ refId, extractRefId value = some refId ∧ ∃ resolved,
      resolver.cache.lookup refId = some resolved ∧ resolver.env.lookup key = some resolved := by
  obtain ⟨href, hne⟩ := hspelled key value hown hlookup hleft
  obtain ⟨refId, hrefId⟩ := Option.isSome_iff_exists.1 (extractRefId_isSome.2 hleft)
  have hat : refIdAt env key = some refId :=
    (refIdAt_eq_some hlookup).2 ⟨hrefId, fun hempty => hne (by rw [hrefId, hempty])⟩
  exact ⟨refId, hrefId, h.resolved key ((mem_referenceKeys henv).2 ⟨value, hlookup, hown, href⟩)
    refId hat⟩

theorem resolved_of_spelled (henv : Distinct env) (hspelled : Spelled env)
    (h : LoopResult (referenceKeys env) ⟨env, []⟩ resolver t) (ht : ∀ e ∈ t, Resolvent e) :
    Resolved env resolver.env t where
  complete key value hown hlookup := by
    obtain ⟨value', hbefore⟩ : ∃ value', env.lookup key = some value' := by
      refine Option.ne_none_iff_exists'.1 fun hnone => ?_
      rw [lookup_eq_none_iff, ← h.kept, ← lookup_eq_none_iff, hlookup] at hnone
      cases hnone
    by_cases hleft : IsLeft value'
    · obtain ⟨refId, -, resolved, hcache, hresolved⟩ :=
        resolved_of_loopResult henv h hspelled hown hbefore hleft
      obtain rfl := Option.some.inj (hlookup.symm.trans hresolved)
      rcases h.cached refId value hcache with hnone | hmem
      · cases hnone
      · exact ht _ hmem value rfl
    · have hnot : isReference value' = false :=
        Bool.eq_false_iff.2 fun href => hleft (isLeft_of_isReference href)
      rw [unchanged_of_loopResult henv h hbefore (Or.inl hnot)] at hlookup
      obtain rfl := Option.some.inj hlookup
      exact hleft
  unchanged key value hbefore hnot :=
    unchanged_of_loopResult henv h hbefore
      (Or.inl (Bool.eq_false_iff.2 fun href => hnot (isLeft_of_isReference href)))
  keys := h.kept
  same key key' value value' hown hown' hbefore hbefore' hleft hsame := by
    obtain ⟨refId, hrefId, resolved, hcache, hresolved⟩ :=
      resolved_of_loopResult henv h hspelled hown hbefore hleft
    have hleft' : IsLeft value' := extractRefId_isSome.1 (by rw [← hsame, hrefId]; rfl)
    obtain ⟨refId', hrefId', resolved', hcache', hresolved'⟩ :=
      resolved_of_loopResult henv h hspelled hown' hbefore' hleft'
    obtain rfl : refId = refId' := Option.some.inj (hrefId.symm.trans (hsame.trans hrefId'))
    rw [hresolved, hresolved', ← hcache, hcache']
  once := h.once

/-- The vault may answer everything. -/
theorem exists_resolveKeys (keys : List String) (resolver : SecretResolver) :
    ∃ t resolver', (resolveKeys keys resolver).Runs t (.ok resolver') ∧ ∀ e ∈ t, Resolvent e := by
  induction keys generalizing resolver with
  | nil => exact ⟨[], resolver, ⟨rfl, rfl⟩, by simp⟩
  | cons key keys ih =>
    have hone : ∃ t resolver', (resolveKey resolver key).Runs t (.ok resolver') ∧
        ∀ e ∈ t, Resolvent e := by
      unfold resolveKey
      split
      · exact ⟨[], _, ⟨rfl, rfl⟩, by simp⟩
      · split
        · exact ⟨[], _, ⟨rfl, rfl⟩, by simp⟩
        · refine ⟨[⟨.getValue _, .ok ""⟩], _, ⟨.ok "", [], rfl, rfl, rfl⟩, fun e he => ?_⟩
          obtain rfl := List.mem_singleton.1 he
          rintro value heq
          obtain rfl := Except.ok.inj heq
          exact Bool.eq_false_iff.1 (by decide)
    obtain ⟨t₁, resolver₁, hrun₁, ht₁⟩ := hone
    obtain ⟨t₂, resolver₂, hrun₂, ht₂⟩ := ih resolver₁
    refine ⟨t₁ ++ t₂, resolver₂, runs_bind_ok.2 ⟨_, t₁, t₂, rfl, hrun₁, hrun₂⟩, fun e he => ?_⟩
    rcases List.mem_append.1 he with he | he
    · exact ht₁ e he
    · exact ht₂ e he

theorem resolveAll_runs (henv : Distinct env)
    (h : (resolveAll "IndeedPamAapm" ⟨env, []⟩).Runs t (.ok resolver)) :
    LoopResult (referenceKeys env) ⟨env, []⟩ resolver t :=
  resolveKeys_runs (nodup_referenceKeys henv) h

/-- A reference that is not spelled well is left. -/
theorem spelled_of_resolves (henv : Distinct env) (h : Resolves env) : Spelled env := by
  intro key value hown hlookup hleft
  obtain ⟨t, resolver, hrun, ht⟩ := exists_resolveKeys (referenceKeys env) ⟨env, []⟩
  have hresolved := h t resolver hrun ht
  have hloop := resolveAll_runs henv hrun
  by_contra hnot
  have hnot' : isReference value = false ∨ extractRefId value = some "" := by
    rcases not_and_or.1 hnot with hnot | hempty
    · exact Or.inl (Bool.eq_false_iff.2 hnot)
    · exact Or.inr (not_not.1 hempty)
  exact hresolved.complete key value hown (unchanged_of_loopResult henv hloop hlookup hnot') hleft

/-- All is resolved as it should be exactly if every reference is spelled well. -/
theorem resolves_iff (env : Environment) (henv : Distinct env) : Resolves env ↔ Spelled env :=
  ⟨spelled_of_resolves henv, fun hspelled _ _ hrun ht =>
    resolved_of_spelled henv hspelled (resolveAll_runs henv hrun) ht⟩

/-- Two variables with one reference. -/
theorem resolves_two : Resolves [("DB_PASSWORD", "secret://db"), ("DB_COPY", " aapm://db ")] := by
  refine (resolves_iff _ (by decide)).2 fun key value hown hlookup hleft => ?_
  have hmem := mem_of_lookup hlookup
  simp only [List.mem_cons, Prod.mk.injEq, List.not_mem_nil, or_false] at hmem
  rcases hmem with ⟨-, rfl⟩ | ⟨-, rfl⟩
  · exact ⟨by decide, by decide⟩
  · exact ⟨by decide, by decide⟩

/-- A scheme with a capital letter is left. -/
theorem capital_not_resolves : ¬ ∀ env, Distinct env → Resolves env := by
  intro h
  have hspelled := spelled_of_resolves (by decide) (h [("DB_PASSWORD", "Secret://db")] (by decide))
  have hleft : IsLeft "Secret://db" := by
    unfold IsLeft
    decide
  exact absurd (hspelled "DB_PASSWORD" "Secret://db" (by decide) rfl hleft).1 (by decide)

end SecretResolverService

end IdmMw

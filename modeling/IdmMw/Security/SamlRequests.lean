import IdmMw.Library.ExpiringSet
import IdmMw.Model.SamlRequests
import IdmMw.Security.Sessions

/-!
# The id of a SAML request is answered once

What `getAsync` accepts after any calls of the provider. The map `used` is read by the whole key, while
a key is valid by its first two parts, and the expiry of a payload is compared with two readings of the
clock.

* `Carries`: the key has a payload with its signature, whatever follows;
* `tracks_run`: after any calls `used` holds the keys that were removed and have not expired;
* `getAsync_accepted_iff`: what `getAsync` accepts;
* `OneTime`: no payload is accepted once a key with it has been removed; `oneTime_iff`: when that is so.
-/

namespace IdmMw

namespace SignedSamlRequestCacheProvider

open ExpiringSet

variable {crypto : TokenCrypto} {isoText : ℚ → String} {key key' : List Char} {used : Used}
  {payload payload' : SignedSamlRequestPayload} {now time expiresAt verified pruned : ℚ}
  {calls before : List SamlCall} {call : SamlCall}

/-! ### What is verified -/

/-- The key has the payload and its signature; more parts may follow. -/
def Carries (crypto : TokenCrypto) (key : List Char) (payload : SignedSamlRequestPayload) : Prop :=
  ∃ rest, samlRequestIdPrefix.isPrefixOf key = true ∧
    (key.drop samlRequestIdPrefix.length).splitOn '.' =
      crypto.encode payload.toJson :: crypto.sign (crypto.encode payload.toJson) :: rest

theorem verify_of_carries (hsound : crypto.Sound) (h : Carries crypto key payload) (now : ℚ) :
    verify crypto key now = if payload.exp < now then none else some payload := by
  obtain ⟨rest, hbegins, hsplit⟩ := h
  have hpayload := (hsound.encode_token payload.toJson).1
  have hsign := (hsound.sign_token (crypto.encode payload.toJson)).1
  have hvalid : ((crypto.encode payload.toJson).isEmpty ||
      (crypto.sign (crypto.encode payload.toJson)).isEmpty ||
      !crypto.safeEqual (crypto.sign (crypto.encode payload.toJson))
        (crypto.sign (crypto.encode payload.toJson))) = false := by
    rw [hsound.safeEqual_iff.2 rfl, List.isEmpty_eq_false_iff.2 hpayload,
      List.isEmpty_eq_false_iff.2 hsign]
    rfl
  unfold verify
  rw [hbegins, hsplit]
  dsimp only
  rw [hvalid, hsound.decode_encode payload.toJson rfl]
  rfl

/-- A key is verified until its payload expires. -/
theorem verify_of_verify (h : verify crypto key now = some payload) (time : ℚ) :
    verify crypto key time = if payload.exp < time then none else some payload := by
  unfold verify at h ⊢
  split at h
  · cases h
  · next hbegins =>
    rw [if_neg hbegins]
    split at h
    · split at h
      · cases h
      · next hvalid =>
        rw [if_neg hvalid]
        split at h
        · cases h
        · split at h
          · split at h
            · cases h
            · obtain rfl := Option.some.inj h
              rfl
          · cases h
    · cases h

/-- What is verified is a text with its signature. -/
theorem signed_of_verify (hsound : crypto.Sound) (h : verify crypto key now = some payload) :
    ∃ text rest, samlRequestIdPrefix.isPrefixOf key = true ∧
      (key.drop samlRequestIdPrefix.length).splitOn '.' = text :: crypto.sign text :: rest := by
  unfold verify at h
  split at h
  · cases h
  · next hbegins =>
    rw [Bool.not_eq_true, Bool.not_eq_false'] at hbegins
    split at h
    · next text signature rest hsplit =>
      split at h
      · cases h
      · next hvalid =>
        rw [Bool.or_eq_true, not_or] at hvalid
        have hequal := hvalid.2
        rw [Bool.not_eq_true, Bool.not_eq_false', hsound.safeEqual_iff] at hequal
        subst hequal
        exact ⟨text, rest, hbegins, hsplit⟩
    · cases h

theorem le_of_verify (h : verify crypto key now = some payload) : now ≤ payload.exp := by
  have hnow := (verify_of_verify h now).symm.trans h
  by_contra hlt
  rw [if_pos (not_le.1 hlt)] at hnow
  cases hnow

theorem verify_unique (h : verify crypto key now = some payload)
    (h' : verify crypto key time = some payload') : payload = payload' := by
  have htime := (verify_of_verify h time).symm.trans h'
  split at htime
  · cases htime
  · exact Option.some.inj htime

theorem verify_nil : verify crypto [] now = none := rfl

/-! ### The calls -/

theorem run_snoc (before : List SamlCall) (call : SamlCall) :
    run crypto isoText (before ++ [call]) = step crypto isoText (run crypto isoText before) call := by
  unfold run
  rw [List.foldl_append]
  rfl

/-- A `removeAsync` has verified the key, with the expiry. -/
def Removed (crypto : TokenCrypto) (calls : List SamlCall) (key : List Char) (expiresAt : ℚ) : Prop :=
  ∃ verified pruned payload, .removeAsync (some key) verified pruned ∈ calls ∧
    verify crypto key verified = some payload ∧ payload.exp = expiresAt

theorem functional_removed : Functional (Removed crypto calls) := by
  rintro key e e' ⟨verified, pruned, payload, -, hverify, rfl⟩
    ⟨verified', pruned', payload', -, hverify', rfl⟩
  rw [verify_unique hverify hverify']

theorem removed_snoc : Removed crypto (before ++ [call]) key expiresAt ↔
    Removed crypto before key expiresAt ∨ Removed crypto [call] key expiresAt := by
  unfold Removed
  simp only [List.mem_append, or_and_right, exists_or]

/-- A call that verifies no key for removal removes none. -/
theorem removed_snoc_of_none (h : ∀ key expiresAt, ¬ Removed crypto [call] key expiresAt) :
    Removed crypto (before ++ [call]) = Removed crypto before := by
  funext key expiresAt
  rw [eq_iff_iff, removed_snoc, or_iff_left (h key expiresAt)]

/-- The readings of the clock do not decrease, and are times for which there are dates. -/
structure Clocked (calls : List SamlCall) : Prop where
  sorted : (calls.flatMap SamlCall.readings).Pairwise (· ≤ ·)
  dates : ∀ reading ∈ calls.flatMap SamlCall.readings, |reading| ≤ maxTime

theorem Clocked.append {after : List SamlCall} (h : Clocked (calls ++ after)) : Clocked calls where
  sorted := by
    have hsorted := h.sorted
    rw [List.flatMap_append] at hsorted
    exact (List.pairwise_append.1 hsorted).1
  dates := fun reading hmem => h.dates reading (by
    rw [List.flatMap_append]
    exact List.mem_append_left _ hmem)

/-- A reading is not before those of the calls before it. -/
theorem Clocked.le_of_mem {after : List SamlCall} {reading reading' : ℚ}
    (h : Clocked (before ++ call :: after)) (hmem : reading ∈ before.flatMap SamlCall.readings)
    (hmem' : reading' ∈ call.readings) : reading ≤ reading' := by
  have hsorted := h.sorted
  rw [List.flatMap_append] at hsorted
  refine (List.pairwise_append.1 hsorted).2.2 reading hmem reading' ?_
  rw [List.flatMap_cons]
  exact List.mem_append_left _ hmem'

/-- After any calls `used` holds the keys that were removed and have not expired. -/
theorem tracks_run (h : Clocked calls)
    (htime : ∀ reading ∈ calls.flatMap SamlCall.readings, reading ≤ time) :
    Tracks (run crypto isoText calls) (Removed crypto calls) time := by
  induction calls using List.reverseRecOn generalizing time with
  | nil =>
    refine tracks_nil time ?_
    rintro key expiresAt ⟨_, _, _, hmem, -⟩
    exact absurd hmem List.not_mem_nil
  | append_singleton before call ih =>
    have hbefore : ∀ reading ∈ before.flatMap SamlCall.readings, ∀ reading' ∈ call.readings,
        reading ≤ reading' := fun reading hmem reading' hmem' => h.le_of_mem hmem hmem'
    have hcall : ∀ reading ∈ call.readings, reading ≤ time := fun reading hmem =>
      htime reading (by simp [hmem])
    have hsame := ih h.append fun reading hmem => htime reading (by
      rw [List.flatMap_append]
      exact List.mem_append_left _ hmem)
    rw [run_snoc]
    cases call with
    | createRequestId nonce now =>
      rw [removed_snoc_of_none (by rintro _ _ ⟨_, _, _, hmem, -⟩; simp at hmem)]
      exact hsame
    | saveAsync key value verified =>
      rw [removed_snoc_of_none (by rintro _ _ ⟨_, _, _, hmem, -⟩; simp at hmem)]
      exact hsame
    | getAsync key verified pruned =>
      rw [removed_snoc_of_none (by rintro _ _ ⟨_, _, _, hmem, -⟩; simp at hmem)]
      have hpruned := ih h.append fun reading hmem => hbefore reading hmem pruned (by
        simp [SamlCall.readings])
      have hle : pruned ≤ time := hcall pruned (by simp [SamlCall.readings])
      show Tracks (getAsync crypto isoText _ key verified pruned).2 _ _
      unfold getAsync
      cases verify crypto key verified with
      | none => exact hsame
      | some payload =>
        dsimp only
        split
        · exact (hpruned.prune le_rfl).mono hle
        · exact (hpruned.prune le_rfl).mono hle
    | removeAsync given verified pruned =>
      have hpruned := ih h.append fun reading hmem => hbefore reading hmem pruned (by
        simp [SamlCall.readings])
      have hle : pruned ≤ time := hcall pruned (by simp [SamlCall.readings])
      show Tracks (removeAsync crypto isoText _ given verified pruned).2 _ _
      unfold removeAsync
      split
      · rw [removed_snoc_of_none (by rintro _ _ ⟨_, _, _, hmem, -⟩; simp at hmem)]
        exact hsame
      · rw [removed_snoc_of_none]
        · exact hsame
        · rintro key expiresAt ⟨_, _, _, hmem, hverify, -⟩
          obtain ⟨rfl, rfl, rfl⟩ : key = [] ∧ _ = verified ∧ _ = pruned := by simpa using hmem
          cases hverify
      · next key _ =>
        cases hverify : verify crypto key verified with
        | none =>
          rw [removed_snoc_of_none]
          · exact hsame
          · rintro key' expiresAt ⟨_, _, _, hmem, hverify', -⟩
            obtain ⟨rfl, rfl, rfl⟩ : key' = key ∧ _ = verified ∧ _ = pruned := by
              simpa using hmem
            rw [hverify] at hverify'
            cases hverify'
        | some payload =>
          refine (((hpruned.prune le_rfl).add ?_ functional_removed)).mono hle
          intro key' expiresAt
          rw [removed_snoc]
          refine or_congr_right ⟨?_, ?_⟩
          · rintro ⟨_, _, payload', hmem, hverify', rfl⟩
            obtain ⟨rfl, rfl, rfl⟩ : key' = key ∧ _ = verified ∧ _ = pruned := by
              simpa using hmem
            exact ⟨rfl, by rw [verify_unique hverify' hverify]⟩
          · rintro ⟨rfl, rfl⟩
            exact ⟨verified, pruned, payload, List.mem_singleton_self _, hverify, rfl⟩

/-! ### What is accepted -/

/-- The call returns a text. -/
def Accepted (answer : Except JsError (Option String)) : Prop := ∃ text, answer = .ok (some text)

theorem accepted_toISOString (h : |time| ≤ maxTime) :
    Accepted ((toISOString isoText time).map some) := by
  unfold toISOString
  rw [if_pos h]
  exact ⟨_, rfl⟩

/-- The id has been given out. -/
def IsIssued (calls : List SamlCall) (payload : SignedSamlRequestPayload) : Prop :=
  ∃ nonce now, .createRequestId nonce now ∈ calls ∧ payload = createRequestId nonce now

theorem Clocked.iat_le (h : Clocked calls) (hissued : IsIssued calls payload) :
    |payload.iat| ≤ maxTime := by
  obtain ⟨nonce, now, hmem, rfl⟩ := hissued
  exact h.dates now (List.mem_flatMap.2 ⟨_, hmem, List.mem_singleton_self now⟩)

theorem IsIssued.append {after : List SamlCall} (h : IsIssued calls payload) :
    IsIssued (calls ++ after) payload := by
  obtain ⟨nonce, now, hmem, hpayload⟩ := h
  exact ⟨nonce, now, List.mem_append_left _ hmem, hpayload⟩

/-- An issued payload is accepted until it expires, unless its key has been removed as it is spelled;
a key that expires between the two readings of the clock is accepted all the same. -/
theorem getAsync_accepted_iff (hsound : crypto.Sound)
    (h : Clocked (calls ++ [.getAsync key verified pruned])) (hissued : IsIssued calls payload)
    (hcarries : Carries crypto key payload) :
    Accepted (getAsync crypto isoText (run crypto isoText calls) key verified pruned).1 ↔
      verified ≤ payload.exp ∧ ¬ (Removed crypto calls key payload.exp ∧ pruned ≤ payload.exp) := by
  have hverify := verify_of_carries hsound hcarries verified
  by_cases hlive : payload.exp < verified
  · rw [if_pos hlive] at hverify
    unfold getAsync
    rw [hverify]
    refine iff_of_false ?_ fun hboth => absurd hlive (not_lt.2 hboth.1)
    rintro ⟨text, htext⟩
    cases htext
  · rw [if_neg hlive] at hverify
    have htracks : Tracks (run crypto isoText calls) (Removed crypto calls) pruned :=
      tracks_run h.append fun reading hmem => h.le_of_mem hmem (by simp [SamlCall.readings])
    have hused : key ∈ (prune pruned (run crypto isoText calls)).map Prod.fst ↔
        Removed crypto calls key payload.exp ∧ pruned ≤ payload.exp := by
      rw [← htracks.mem_iff le_rfl, List.mem_map]
      constructor
      · rintro ⟨⟨_, expiresAt⟩, hmem, rfl⟩
        obtain ⟨_, _, payload', _, hverify', rfl⟩ := ((htracks.mem_iff le_rfl).1 hmem).1
        rw [verify_unique hverify hverify']
        exact hmem
      · exact fun hmem => ⟨_, hmem, rfl⟩
    unfold getAsync
    rw [hverify]
    dsimp only
    split
    · next hmem =>
      refine iff_of_false ?_ fun hboth => hboth.2 (hused.1 hmem)
      rintro ⟨text, htext⟩
      cases htext
    · next hnot =>
      refine iff_of_true (accepted_toISOString (h.append.iat_le hissued)) ⟨not_lt.1 hlive, ?_⟩
      exact fun hboth => hnot (hused.2 hboth)

/-- A key with an issued payload is removed until it expires. -/
theorem removeAsync_accepted_iff (hsound : crypto.Sound)
    (h : Clocked calls) (hissued : IsIssued calls payload) (hcarries : Carries crypto key payload) :
    Accepted (removeAsync crypto isoText used (some key) verified pruned).1 ↔
      verified ≤ payload.exp := by
  have hverify := verify_of_carries hsound hcarries verified
  obtain ⟨_, hbegins, -⟩ := hcarries
  unfold removeAsync
  split
  · next hkey => cases hkey
  · next hkey =>
    obtain rfl := Option.some.inj hkey
    cases hbegins
  · next key' _ hkey =>
    obtain rfl := Option.some.inj hkey
    rw [hverify]
    by_cases hlive : payload.exp < verified
    · rw [if_pos hlive]
      refine iff_of_false ?_ (not_le.2 hlive)
      rintro ⟨text, htext⟩
      cases htext
    · rw [if_neg hlive]
      exact iff_of_true (accepted_toISOString (h.iat_le hissued)) (not_lt.1 hlive)

/-! ### The law -/

/-- Once a key with an issued payload has been removed, no key with that payload is accepted. -/
def OneTime (crypto : TokenCrypto) (isoText : ℚ → String) (calls : List SamlCall) : Prop :=
  ∀ before between after key key' verified pruned verified' pruned' payload,
    calls = before ++ .removeAsync (some key) verified pruned ::
      (between ++ .getAsync key' verified' pruned' :: after) →
    IsIssued before payload → Carries crypto key payload → Carries crypto key' payload →
    Accepted (removeAsync crypto isoText (run crypto isoText before) (some key) verified pruned).1 →
    ¬ Accepted (getAsync crypto isoText (run crypto isoText
      (before ++ .removeAsync (some key) verified pruned :: between)) key' verified' pruned').1

/-- Where a key is asked for after one with the same payload has been removed, and before that
expires: it has been removed as it is spelled, and it does not expire before the second reading of the
clock. -/
def AskedAsRemoved (crypto : TokenCrypto) (calls : List SamlCall) : Prop :=
  ∀ before between after key key' verified pruned verified' pruned' payload,
    calls = before ++ .removeAsync (some key) verified pruned ::
      (between ++ .getAsync key' verified' pruned' :: after) →
    IsIssued before payload → Carries crypto key payload → Carries crypto key' payload →
    verified' ≤ payload.exp →
    (∃ verified'' pruned'', .removeAsync (some key') verified'' pruned'' ∈
      before ++ .removeAsync (some key) verified pruned :: between) ∧ pruned' ≤ payload.exp

/-- What is accepted of a payload after one of its keys has been removed. -/
theorem getAsync_accepted_after (hsound : crypto.Sound) {between after : List SamlCall}
    {verified' pruned' : ℚ}
    (h : Clocked (before ++ .removeAsync (some key) verified pruned ::
      (between ++ .getAsync key' verified' pruned' :: after)))
    (hissued : IsIssued before payload) (hcarries : Carries crypto key' payload) :
    Accepted (getAsync crypto isoText (run crypto isoText
      (before ++ .removeAsync (some key) verified pruned :: between)) key' verified' pruned').1 ↔
    verified' ≤ payload.exp ∧ ¬ ((∃ verified'' pruned'',
      .removeAsync (some key') verified'' pruned'' ∈
        before ++ .removeAsync (some key) verified pruned :: between) ∧ pruned' ≤ payload.exp) := by
  have hcalls : before ++ .removeAsync (some key) verified pruned ::
      (between ++ .getAsync key' verified' pruned' :: after) =
      (before ++ .removeAsync (some key) verified pruned :: between) ++
        .getAsync key' verified' pruned' :: after := by simp
  rw [hcalls] at h
  have hget : Clocked ((before ++ .removeAsync (some key) verified pruned :: between) ++
      [.getAsync key' verified' pruned']) := by
    rw [List.append_cons _ (SamlCall.getAsync key' verified' pruned')] at h
    exact h.append
  rw [getAsync_accepted_iff hsound hget hissued.append hcarries]
  refine and_congr_right fun hlive => not_congr (and_congr_left fun _ => ?_)
  constructor
  · rintro ⟨verified'', pruned'', -, hmem, -⟩
    exact ⟨verified'', pruned'', hmem⟩
  · rintro ⟨verified'', pruned'', hmem⟩
    have hle : verified'' ≤ verified' := h.le_of_mem
      (List.mem_flatMap.2 ⟨_, hmem, List.mem_cons_self⟩) List.mem_cons_self
    have hverify := verify_of_carries hsound hcarries verified''
    rw [if_neg (not_lt.2 (hle.trans hlive))] at hverify
    exact ⟨verified'', pruned'', payload, hmem, hverify, rfl⟩

/-- No payload is accepted after one of its keys has been removed exactly if what is asked for later has
been removed as it is spelled, and does not expire while it is looked up. -/
theorem oneTime_iff (hsound : crypto.Sound) (h : Clocked calls) :
    OneTime crypto isoText calls ↔ AskedAsRemoved crypto calls := by
  constructor
  · rintro honce before between after key key' verified pruned verified' pruned' payload rfl hissued
      hcarries hcarries' hlive
    have hle : verified ≤ verified' := by
      have hclock := h
      rw [show before ++ .removeAsync (some key) verified pruned ::
          (between ++ .getAsync key' verified' pruned' :: after) =
          (before ++ .removeAsync (some key) verified pruned :: between) ++
            .getAsync key' verified' pruned' :: after by simp] at hclock
      refine hclock.le_of_mem (List.mem_flatMap.2 ⟨.removeAsync (some key) verified pruned, ?_, ?_⟩)
        List.mem_cons_self
      · simp
      · exact List.mem_cons_self
    have hremoved : Accepted (removeAsync crypto isoText (run crypto isoText before) (some key)
        verified pruned).1 :=
      (removeAsync_accepted_iff hsound h.append hissued hcarries).2 (hle.trans hlive)
    have hnot := honce _ _ _ _ _ _ _ _ _ _ rfl hissued hcarries hcarries' hremoved
    rw [getAsync_accepted_after hsound h hissued hcarries'] at hnot
    by_contra hneither
    exact hnot ⟨hlive, hneither⟩
  · rintro hasked before between after key key' verified pruned verified' pruned' payload rfl hissued
      hcarries hcarries' -
    rw [getAsync_accepted_after hsound h hissued hcarries']
    rintro ⟨hlive, hneither⟩
    exact hneither (hasked _ _ _ _ _ _ _ _ _ _ rfl hissued hcarries hcarries' hlive)

/-- The signatures on the key are those of ids that have been given out. -/
def Unforged (crypto : TokenCrypto) (calls : List SamlCall) (key : List Char) : Prop :=
  ∀ text rest, samlRequestIdPrefix.isPrefixOf key = true →
    (key.drop samlRequestIdPrefix.length).splitOn '.' = text :: crypto.sign text :: rest →
    ∃ payload, IsIssued calls payload ∧ text = crypto.encode payload.toJson

/-- What is accepted after any calls: the keys with an id that has been given out and has not expired,
but those that have been removed. -/
theorem getAsync_accepts (hsound : crypto.Sound) (hunforged : Unforged crypto calls key)
    (h : Clocked (calls ++ [.getAsync key verified pruned])) :
    Accepted (getAsync crypto isoText (run crypto isoText calls) key verified pruned).1 ↔
      ∃ payload, IsIssued calls payload ∧ Carries crypto key payload ∧ verified ≤ payload.exp ∧
        ¬ (Removed crypto calls key payload.exp ∧ pruned ≤ payload.exp) := by
  constructor
  · intro haccepted
    cases hverify : verify crypto key verified with
    | none =>
      obtain ⟨text, htext⟩ := haccepted
      unfold getAsync at htext
      rw [hverify] at htext
      cases htext
    | some payload =>
      obtain ⟨text, rest, hbegins, hsplit⟩ := signed_of_verify hsound hverify
      obtain ⟨payload, hissued, rfl⟩ := hunforged text rest hbegins hsplit
      have hcarries : Carries crypto key payload := ⟨rest, hbegins, hsplit⟩
      exact ⟨payload, hissued, hcarries,
        (getAsync_accepted_iff hsound h hissued hcarries).1 haccepted⟩
  · rintro ⟨payload, hissued, hcarries, hboth⟩
    exact (getAsync_accepted_iff hsound h hissued hcarries).2 hboth

/-! ### An id that is answered -/

theorem drop_requestId (payload : SignedSamlRequestPayload) (more : List Char) :
    (requestId crypto payload ++ more).drop samlRequestIdPrefix.length =
      crypto.encode payload.toJson ++ '.' :: (crypto.sign (crypto.encode payload.toJson) ++ more) := by
  unfold requestId
  rw [List.append_assoc, List.drop_left, List.append_assoc, List.cons_append]

theorem isPrefixOf_requestId (payload : SignedSamlRequestPayload) (more : List Char) :
    samlRequestIdPrefix.isPrefixOf (requestId crypto payload ++ more) = true := by
  unfold requestId
  rw [List.append_assoc]
  exact List.isPrefixOf_iff_prefix.2 (List.prefix_append _ _)

theorem carries_requestId (hsound : crypto.Sound) (payload : SignedSamlRequestPayload) :
    Carries crypto (requestId crypto payload) payload := by
  have hdot : isBase64url '.' = false := by decide
  refine ⟨[], ?_, ?_⟩
  · rw [← List.append_nil (requestId crypto payload)]
    exact isPrefixOf_requestId payload []
  · have hdrop := @drop_requestId crypto payload []
    rw [List.append_nil, List.append_nil] at hdrop
    rw [hdrop, List.splitOn_append_cons_self_of_not_mem
        (not_mem_of_isToken (hsound.encode_token _) hdot),
      List.splitOn_eq_singleton (not_mem_of_isToken (hsound.sign_token _) hdot)]

/-- So does the id with a further part. -/
theorem carries_append (hsound : crypto.Sound) (payload : SignedSamlRequestPayload)
    (more : List Char) : Carries crypto (requestId crypto payload ++ '.' :: more) payload := by
  have hdot : isBase64url '.' = false := by decide
  refine ⟨more.splitOn '.', isPrefixOf_requestId payload _, ?_⟩
  rw [drop_requestId, List.splitOn_append_cons_self_of_not_mem
      (not_mem_of_isToken (hsound.encode_token _) hdot),
    List.splitOn_append_cons_self_of_not_mem (not_mem_of_isToken (hsound.sign_token _) hdot)]

/-- The id of a request, which is given out, answered, and asked for again with `suffix` behind it. -/
def answered (crypto : TokenCrypto) (suffix : List Char) : List SamlCall :=
  let id := requestId crypto (createRequestId "nonce" 0)
  [.createRequestId "nonce" 0, .removeAsync (some id) 0 0, .getAsync (id ++ suffix) 0 0]

theorem clocked_answered (suffix : List Char) : Clocked (answered crypto suffix) := by
  have hreadings : ∀ reading ∈ (answered crypto suffix).flatMap SamlCall.readings, reading = 0 := by
    simp [answered, SamlCall.readings]
  constructor
  · refine List.Pairwise.imp_of_mem ?_ (List.pairwise_of_forall fun _ _ => trivial : List.Pairwise
      (fun _ _ => True) _)
    intro reading reading' hmem hmem' _
    rw [hreadings reading hmem, hreadings reading' hmem']
  · intro reading hmem
    rw [hreadings reading hmem, abs_zero]
    decide

theorem oneTime_answered : OneTime .counting (fun _ => "") (answered .counting []) := by
  refine (oneTime_iff TokenCrypto.counting_sound (clocked_answered [])).2 ?_
  intro before between after key key' verified pruned verified' pruned' payload h hissued _ _ _
  have hget : SamlCall.getAsync key' verified' pruned' ∈ answered .counting [] := by
    rw [h]
    simp
  have hremove : SamlCall.removeAsync (some key) verified pruned ∈ answered .counting [] := by
    rw [h]
    simp
  obtain ⟨rfl, rfl, rfl⟩ : key' = _ ∧ verified' = 0 ∧ pruned' = 0 := by
    simpa [answered] using hget
  obtain ⟨rfl, rfl, rfl⟩ : key = _ ∧ verified = 0 ∧ pruned = 0 := by
    simpa [answered] using hremove
  refine ⟨⟨0, 0, by simp⟩, ?_⟩
  obtain ⟨nonce, now, hmem, rfl⟩ := hissued
  have hcreate : SamlCall.createRequestId nonce now ∈ answered .counting [] := by
    rw [h]
    exact List.mem_append_left _ hmem
  obtain ⟨rfl, rfl⟩ : nonce = "nonce" ∧ now = 0 := by simpa [answered] using hcreate
  show (0 : ℚ) ≤ 0 + 600000
  norm_num

theorem unforged_requestId (hsound : crypto.Sound) (hissued : IsIssued calls payload) :
    Unforged crypto calls (requestId crypto payload) := by
  intro text rest _ hsplit
  obtain ⟨_, -, hown⟩ := carries_requestId hsound payload
  exact ⟨payload, hissued, (List.cons.inj (hsplit.symm.trans hown)).1⟩

/-- An id is accepted a minute after it has been given out. -/
theorem getAsync_accepts_issued : Accepted (getAsync .counting (fun _ => "")
    (run .counting (fun _ => "") [.createRequestId "nonce" 0])
    (requestId .counting (createRequestId "nonce" 0)) 60000 60000).1 := by
  have hsound := TokenCrypto.counting_sound
  have hissued : IsIssued [.createRequestId "nonce" 0] (createRequestId "nonce" 0) :=
    ⟨_, _, List.mem_singleton_self _, rfl⟩
  have hclock : Clocked ([.createRequestId "nonce" 0] ++
      [.getAsync (requestId .counting (createRequestId "nonce" 0)) 60000 60000]) := by
    constructor
    · norm_num [SamlCall.readings]
    · norm_num [SamlCall.readings, maxTime]
  refine (getAsync_accepts hsound (unforged_requestId hsound hissued) hclock).2
    ⟨_, hissued, carries_requestId hsound _, ?_, ?_⟩
  · show (60000 : ℚ) ≤ 0 + 600000
    norm_num
  · rintro ⟨⟨_, _, _, hmem, -⟩, -⟩
    simp at hmem

/-- An id that has been answered is accepted once more with a dot behind it. -/
theorem not_oneTime : Clocked (answered .counting ['.']) ∧
    ¬ OneTime .counting (fun _ => "") (answered .counting ['.']) := by
  have hsound := TokenCrypto.counting_sound
  refine ⟨clocked_answered ['.'], fun h => ?_⟩
  let id := requestId .counting (createRequestId "nonce" 0)
  have hclock : Clocked ([.createRequestId "nonce" 0] ++ .removeAsync (some id) 0 0 ::
      ([] ++ .getAsync (id ++ ['.']) 0 0 :: [])) := clocked_answered ['.']
  have hissued : IsIssued [.createRequestId "nonce" 0] (createRequestId "nonce" 0) :=
    ⟨_, _, List.mem_singleton_self _, rfl⟩
  have hcarries := carries_append hsound (createRequestId "nonce" 0) []
  have hlive : (0 : ℚ) ≤ (createRequestId "nonce" 0).exp := by
    show (0 : ℚ) ≤ 0 + 600000
    norm_num
  have hid := carries_requestId hsound (createRequestId "nonce" 0)
  refine h _ [] [] _ _ 0 0 0 0 _ rfl hissued hid hcarries
    ((removeAsync_accepted_iff hsound hclock.append hissued hid).2 hlive) ?_
  refine (getAsync_accepted_after hsound hclock hissued hcarries).2 ⟨hlive, ?_⟩
  rintro ⟨⟨verified, pruned, hmem⟩, -⟩
  simp [id] at hmem

end SignedSamlRequestCacheProvider

end IdmMw

import IdmMw.Model.IntegrationAuth

/-!
# The canonical string of a signed request

* `stableStringify_eq_text`: the body is signed as the text of its canonical form;
* `canonical_inj`: two requests with one canonical string have the same timestamp, method and path,
  and bodies that differ in the order of keys only;
* `orderFree_iff`: the order of keys does not matter exactly where no two keys of an object compare
  equal;
* `canonicalExact_iff`: both, for every request that is accepted.
-/

namespace IdmMw

open IntegrationAuthService

variable {crypto : IntegrationCrypto} {collation : Collation} {config : IntegrationAuthConfig}
  {now : ℚ} {req req' : IntegrationRequest} {timestamp timestamp' : List Char} {v w : JsValue}

/-! ### The text of the body -/

theorem stableStringify_arr (collation : Collation) (items : List JsValue) :
    stableStringify collation (.arr items) =
      '[' :: (joinComma (items.map (stableStringify collation)) ++ [']']) := by
  have hitems : stableStringifyItems collation items = items.map (stableStringify collation) :=
    JsValue.eq_map_of_cons rfl (fun _ _ => rfl) items
  rw [stableStringify, hitems]

/-- The entries are sorted by their keys, and then written. -/
theorem stableStringify_obj (collation : Collation) (entries : List (String × JsValue)) :
    stableStringify collation (.obj entries) =
      '\x7b' :: (joinComma ((collation.sort Prod.fst entries).map fun e =>
        quote e.1 ++ ':' :: stableStringify collation e.2) ++ ['\x7d']) := by
  have hentries : stableStringifyEntries collation entries =
      entries.map fun e => (e.1, stableStringify collation e.2) :=
    JsValue.eq_map_of_cons rfl (fun _ _ => rfl) entries
  have hsort := map_sortByKey collation.localeCompare (stableStringify collation) entries
  rw [stableStringify, hentries]
  show _ :: (joinComma ((sortByKey collation.localeCompare _).map _) ++ _) = _
  rw [← hsort, List.map_map]
  rfl

theorem stableStringify_eq_text (collation : Collation) (v : JsValue) :
    stableStringify collation v = (v.canonicalForm collation.localeCompare).text := by
  induction v using JsValue.induction with
  | step v ih =>
    cases v with
    | num n => exact (JsValue.text_ofNumber n).symm
    | arr items =>
      have hitems : items.map (stableStringify collation) =
          items.map (JsValue.text ∘ JsValue.canonicalForm collation.localeCompare) :=
        List.map_congr_left ih
      rw [stableStringify_arr, JsValue.canonicalForm_arr, JsValue.text_arr, List.map_map, hitems]
    | obj entries =>
      rw [stableStringify_obj, JsValue.canonicalForm_obj, JsValue.text_obj, ← map_sortByKey,
        List.map_map]
      show _ :: (joinComma ((sortByKey collation.localeCompare entries).map _) ++ _) = _
      rw [List.map_congr_left]
      intro e he
      have hmem : e ∈ entries := (sortByKey_perm _ _).mem_iff.1 he
      rw [ih e.2 (List.mem_map_of_mem hmem)]
      rfl
    | _ => rfl

theorem requestBodyToString_eq_text (hbody : req.body = some v) (hv : v.isContainer = true) :
    requestBodyToString collation req = (v.canonicalForm collation.localeCompare).text := by
  have hannounced : ((req.headers.lookup "content-length").isSome ||
      (req.headers.lookup "transfer-encoding").isSome) = true := by
    rw [Bool.or_eq_true]
    exact req.announced (by rw [hbody]; rfl)
  rw [← stableStringify_eq_text]
  unfold requestBodyToString bodyToString
  dsimp only
  rw [hannounced, hbody]
  cases v with
  | arr items => rfl
  | obj entries => rfl
  | _ => cases hv

/-! ### The canonical string -/

theorem canonical_eq (crypto : IntegrationCrypto) (collation : Collation)
    (req : IntegrationRequest) (timestamp : List Char) :
    canonical crypto collation req timestamp =
      timestamp ++ '\n' :: (req.method ++ '\n' :: (path req.originalUrl ++
        '\n' :: crypto.sha256 (requestBodyToString collation req))) := by
  unfold canonical
  rw [req.method_upper]
  simp [List.intercalate]

/-- The timestamp, the method and the path have no newline. -/
def SingleLined (req : IntegrationRequest) (timestamp : List Char) : Prop :=
  '\n' ∉ timestamp ∧ '\n' ∉ req.method ∧ '\n' ∉ path req.originalUrl

/-- A line and what is behind it are read off in one way. -/
theorem line_append_inj {xs ys r r' : List Char} (hxs : '\n' ∉ xs) (hys : '\n' ∉ ys)
    (h : xs ++ '\n' :: r = ys ++ '\n' :: r') : xs = ys ∧ r = r' := by
  have hline : ∀ {zs : List Char}, '\n' ∉ zs → ∀ c ∈ zs, (c != '\n') = true := by
    intro zs hzs c hc
    rw [bne_iff_ne]
    rintro rfl
    exact hzs hc
  obtain ⟨hlines, hrest⟩ := append_inj_of_ends (hline hxs) (hline hys)
    (ends_cons (by decide) r) (ends_cons (by decide) r') h
  exact ⟨hlines, (List.cons.inj hrest).2⟩

theorem canonical_lines (hsha : Function.Injective crypto.sha256) (hreq : SingleLined req timestamp)
    (hreq' : SingleLined req' timestamp')
    (h : canonical crypto collation req timestamp = canonical crypto collation req' timestamp') :
    timestamp = timestamp' ∧ req.method = req'.method ∧ path req.originalUrl = path req'.originalUrl ∧
      requestBodyToString collation req = requestBodyToString collation req' := by
  rw [canonical_eq, canonical_eq] at h
  obtain ⟨htimestamp, hrest⟩ := line_append_inj hreq.1 hreq'.1 h
  obtain ⟨hmethod, hrest⟩ := line_append_inj hreq.2.1 hreq'.2.1 hrest
  obtain ⟨hpath, hdigest⟩ := line_append_inj hreq.2.2 hreq'.2.2 hrest
  exact ⟨htimestamp, hmethod, hpath, hsha hdigest⟩

/-- The body is a JSON object or array, whose numbers are finite and not the negative zero. -/
def Structured (req : IntegrationRequest) : Prop :=
  ∃ v, req.body = some v ∧ v.isContainer = true ∧ v.Ordinary

/-- Nothing but the order of keys is lost. -/
theorem canonical_inj (hsha : Function.Injective crypto.sha256) (hreq : SingleLined req timestamp)
    (hreq' : SingleLined req' timestamp') (hbody : Structured req) (hbody' : Structured req')
    (h : canonical crypto collation req timestamp = canonical crypto collation req' timestamp') :
    timestamp = timestamp' ∧ req.method = req'.method ∧ path req.originalUrl = path req'.originalUrl ∧
      Option.Rel JsValue.Reordered req.body req'.body := by
  obtain ⟨v, hv, hcontainer, hordinary⟩ := hbody
  obtain ⟨v', hv', hcontainer', hordinary'⟩ := hbody'
  obtain ⟨htimestamp, hmethod, hpath, htext⟩ := canonical_lines hsha hreq hreq' h
  refine ⟨htimestamp, hmethod, hpath, ?_⟩
  rw [requestBodyToString_eq_text hv hcontainer, requestBodyToString_eq_text hv' hcontainer'] at htext
  have hform := JsValue.text_inj (JsValue.ordinary_canonicalForm _ v)
    (JsValue.ordinary_canonicalForm _ v') htext
  rw [hv, hv']
  exact Option.Rel.some (JsValue.reordered_of_canonicalForm_eq hordinary hordinary' hform)

/-! ### The order of keys -/

/-- The same request, with the entries of objects in its body in another order. -/
structure IntegrationRequest.Reordering (req req' : IntegrationRequest) : Prop where
  method : req.method = req'.method
  originalUrl : req.originalUrl = req'.originalUrl
  headers : req.headers = req'.headers
  body : Option.Rel JsValue.Reordered req.body req'.body

/-- The order of keys changes neither the canonical string nor the verdict. -/
def OrderFree (crypto : IntegrationCrypto) (collation : Collation)
    (config : IntegrationAuthConfig) (now : ℚ) (req : IntegrationRequest) : Prop :=
  ∀ req', req.Reordering req' →
    (∀ timestamp, canonical crypto collation req timestamp =
      canonical crypto collation req' timestamp) ∧
      verify crypto collation config now req = verify crypto collation config now req'

/-- The verdict depends on the headers and the canonical string. -/
theorem verify_congr (hheaders : req.headers = req'.headers)
    (h : ∀ timestamp, canonical crypto collation req timestamp =
      canonical crypto collation req' timestamp) :
    verify crypto collation config now req = verify crypto collation config now req' := by
  have hheader : header req = header req' := by
    funext name
    unfold header
    rw [hheaders]
  have hsignature : signature crypto collation req = signature crypto collation req' := by
    funext timestamp secret
    unfold signature
    rw [h]
  unfold verify
  rw [hheader, hsignature]

theorem canonical_eq_iff (hsha : Function.Injective crypto.sha256)
    (hmethod : req.method = req'.method) (hurl : req.originalUrl = req'.originalUrl) :
    canonical crypto collation req timestamp = canonical crypto collation req' timestamp ↔
      requestBodyToString collation req = requestBodyToString collation req' := by
  rw [canonical_eq, canonical_eq, hmethod, hurl]
  constructor
  · intro h
    have hmethod := (List.cons.inj (List.append_cancel_left h)).2
    have hpath := (List.cons.inj (List.append_cancel_left hmethod)).2
    exact hsha (List.cons.inj (List.append_cancel_left hpath)).2
  · intro h
    rw [h]

section Comparator

variable [Std.TransCmp collation.localeCompare]

theorem requestBodyToString_reordering (h : req.Reordering req')
    (hties : ∀ v ∈ req.body, v.Untied collation.localeCompare) :
    requestBodyToString collation req = requestBodyToString collation req' := by
  have hsame : req.body = req'.body →
      requestBodyToString collation req = requestBodyToString collation req' := by
    intro hbody
    unfold requestBodyToString
    rw [h.headers, hbody]
  have hrel := h.body
  cases hv : req.body with
  | none =>
    cases hw : req'.body with
    | none => exact hsame (hv.trans hw.symm)
    | some w =>
      rw [hv, hw] at hrel
      cases hrel
  | some v =>
    cases hw : req'.body with
    | none =>
      rw [hv, hw] at hrel
      cases hrel
    | some w =>
      rw [hv, hw] at hrel
      cases hrel with
      | some hreordered =>
        rcases hreordered.cases with rfl | ⟨hcontainer, hcontainer'⟩
        · exact hsame (hv.trans hw.symm)
        · rw [requestBodyToString_eq_text hv hcontainer,
            requestBodyToString_eq_text hw hcontainer',
            JsValue.canonicalForm_eq_of_reordered hreordered (req.distinctKeys v hv) (hties v hv)]

/-- The order of keys does not matter exactly where no two keys of an object compare equal. -/
theorem orderFree_iff (hsha : Function.Injective crypto.sha256) :
    OrderFree crypto collation config now req ↔
      ∀ v ∈ req.body, v.Untied collation.localeCompare := by
  constructor
  · intro h v hv
    cases hcontainer : v.isContainer with
    | false => exact JsValue.untied_of_not_container hcontainer
    | true =>
      refine JsValue.untied_of_canonicalForm_eq (req.distinctKeys v hv) ?_
      intro w hw
      have hcontainer' : w.isContainer = true := by
        rcases hw.cases with rfl | ⟨_, hcontainer'⟩
        · exact hcontainer
        · exact hcontainer'
      let req' : IntegrationRequest :=
        { req with
          body := some w
          announced := fun _ => req.announced (by rw [hv]; rfl)
          distinctKeys := by
            intro u hu
            obtain rfl := Option.some.inj hu
            exact hw.distinctKeys (req.distinctKeys v hv) }
      have hreordering : req.Reordering req' :=
        ⟨rfl, rfl, rfl, by rw [show req.body = some v from hv]; exact Option.Rel.some hw⟩
      have htext := (canonical_eq_iff hsha hreordering.method hreordering.originalUrl).1
        ((h req' hreordering).1 [])
      rw [requestBodyToString_eq_text hv hcontainer,
        requestBodyToString_eq_text (show req'.body = some w from rfl) hcontainer'] at htext
      exact JsValue.text_inj (JsValue.ordinary_canonicalForm _ v)
        (JsValue.ordinary_canonicalForm _ w) htext
  · intro hties req' hreordering
    have hcanonical : ∀ timestamp, canonical crypto collation req timestamp =
        canonical crypto collation req' timestamp := fun timestamp =>
      (canonical_eq_iff hsha hreordering.method hreordering.originalUrl).2
        (requestBodyToString_reordering hreordering hties)
    exact ⟨hcanonical, verify_congr hreordering.headers hcanonical⟩

/-! ### Both directions -/

/-- The canonical string of the request forgets the order of keys, and nothing else. -/
structure CanonicalExact (crypto : IntegrationCrypto) (collation : Collation)
    (config : IntegrationAuthConfig) (now : ℚ) (req : IntegrationRequest) : Prop where
  orderFree : OrderFree crypto collation config now req
  injective : ∀ (req' : IntegrationRequest) (timestamp timestamp' : List Char),
    SingleLined req timestamp → SingleLined req' timestamp' → Structured req → Structured req' →
    canonical crypto collation req timestamp = canonical crypto collation req' timestamp' →
    timestamp = timestamp' ∧ req.method = req'.method ∧ path req.originalUrl = path req'.originalUrl ∧
      Option.Rel JsValue.Reordered req.body req'.body

/-- For every request, accepted or not: the canonical form is exact if and only if no two keys of an
object of the body compare equal. -/
theorem canonicalExact_iff (hsha : Function.Injective crypto.sha256) :
    CanonicalExact crypto collation config now req ↔
      ∀ v ∈ req.body, v.Untied collation.localeCompare := by
  constructor
  · intro h
    exact (orderFree_iff hsha).1 h.orderFree
  · intro hties
    refine ⟨(orderFree_iff hsha).2 hties, ?_⟩
    intro req' timestamp timestamp' hreq hreq' hbody hbody' h
    exact canonical_inj hsha hreq hreq' hbody hbody' h

end Comparator

/-! ### A signed request -/

def decomposed (text : String) : List ℕ :=
  text.toList.flatMap fun c => if c = 'é' then ['e'.toNat, 0x301] else [c.toNat]

/-- Canonically equivalent texts compare equal, as `localeCompare` has to have it. -/
def Collation.decomposing : Collation where
  asc a b := a ≤ b
  localeCompare := compareOn decomposed

instance : Std.TransCmp Collation.decomposing.localeCompare :=
  inferInstanceAs (Std.TransCmp (compareOn decomposed))

/-- A platform with the digests of one request. -/
def IntegrationCrypto.signing (body digest hmac : String) : IntegrationCrypto where
  sha256 text := if text = body.toList then digest.toList else 'x' :: text
  hmacSha256 _ _ := hmac.toList
  fixedLengthFingerprint := id

theorem sha256_signing_injective {body digest hmac : String} (h : digest.toList.head? ≠ some 'x') :
    Function.Injective (IntegrationCrypto.signing body digest hmac).sha256 := by
  intro text text' heq
  unfold IntegrationCrypto.signing at heq
  dsimp only at heq
  split_ifs at heq with ht ht' ht'
  · rw [ht, ht']
  · rw [heq] at h
    exact absurd rfl h
  · rw [← heq] at h
    exact absurd rfl h
  · exact (List.cons.inj heq).2

def IntegrationAuthConfig.signing : IntegrationAuthConfig :=
  ⟨none, some "integration-credential", none⟩

def signedRequest (body : JsValue) (hkeys : body.DistinctKeys) (length signature : String) :
    IntegrationRequest where
  method := "POST".toList
  originalUrl := "/webhooks/avanpost?ignored=true".toList
  headers := [("content-length", .text length.toList),
    ("x-idmmw-timestamp", .text "1700000000".toList),
    ("x-idmmw-signature", .text signature.toList)]
  body := some body
  method_upper := by decide
  announced := fun _ => Or.inl rfl
  distinctKeys := by
    intro v hv
    obtain rfl := Option.some.inj hv
    exact hkeys

theorem trimAscii_eq_self {s : String} (hhead : s.toList.head?.any Char.isWhitespace = false)
    (hlast : s.toList.getLast?.any Char.isWhitespace = false) : s.trimAscii.toString = s := by
  have hstart : s.toSlice.trimAsciiStart = s.toSlice := by
    apply String.Slice.dropWhile_eq_self
    rw [String.Slice.startsWith_bool_eq_head?, String.copy_toSlice]
    exact hhead
  have hend : s.toSlice.trimAsciiEnd = s.toSlice := by
    apply String.Slice.dropEndWhile_eq_self
    rw [String.Slice.endsWith_bool_eq_getLast?, String.copy_toSlice]
    exact hlast
  show s.toSlice.trimAsciiStart.trimAsciiEnd.copy = s
  rw [hstart, hend, String.copy_toSlice]

theorem parseTimestamp_seconds : parseTimestamp "1700000000".toList = some 1700000000000 := by
  have hnumber : Json.numberOfString (String.ofList "1700000000".toList) = some 1700000000 := by
    have hdigits : Json.digits? 10 "1700000000".toList = some 1700000000 := by decide
    have hmantissa : ("1700000000".toList.takeWhile fun c => c ≠ 'e' ∧ c ≠ 'E') =
        "1700000000".toList := by decide
    have hexponent : ("1700000000".toList.dropWhile fun c => c ≠ 'e' ∧ c ≠ 'E') = [] := by decide
    have hwhole : ("1700000000".toList.takeWhile (· ≠ '.')) = "1700000000".toList := by decide
    have hfraction : ("1700000000".toList.dropWhile (· ≠ '.')).drop 1 = [] := by decide
    have hne : "1700000000".toList ≠ [] := by decide
    rw [String.ofList_toList]
    unfold Json.numberOfString
    rw [trimAscii_eq_self (by decide) (by decide)]
    show Json.decimal? "1700000000".toList = _
    unfold Json.decimal?
    dsimp only
    rw [hmantissa, hexponent, hwhole, hfraction, if_neg fun h => hne h.1, List.append_nil, hdigits]
    norm_num
  unfold parseTimestamp
  rw [hnumber]
  norm_num

/-- The request is accepted at the time of its timestamp, if it carries the HMAC. -/
theorem verify_signedRequest {body : JsValue} (hkeys : body.DistinctKeys)
    {text digest hmac length signature : String}
    (hsignature : normalizeSignature signature.toList = some hmac.toList)
    (hne : signature ≠ "") :
    verify (.signing text digest hmac) collation .signing 1700000000000
      (signedRequest body hkeys length signature) = accepted := by
  have hsecret : secret .signing = some "integration-credential".toList := by decide
  obtain ⟨c, cs, hcs⟩ : ∃ c cs, signature.toList = c :: cs := by
    cases hlist : signature.toList with
    | nil => exact absurd (String.toList_injective hlist) hne
    | cons c cs => exact ⟨c, cs, rfl⟩
  have htimestamp : header (signedRequest body hkeys length signature) "x-idmmw-timestamp" =
      some ('1' :: "700000000".toList) := rfl
  have hheader : header (signedRequest body hkeys length signature) "x-idmmw-signature" =
      some (c :: cs) := congrArg some hcs
  have hparse : parseTimestamp ('1' :: "700000000".toList) = some 1700000000000 :=
    parseTimestamp_seconds
  rw [hcs] at hsignature
  unfold verify
  rw [hsecret, htimestamp, hheader]
  dsimp only
  rw [hparse]
  dsimp only
  rw [hsignature]
  norm_num [IntegrationAuthConfig.signing, safeEqual, IntegrationCrypto.signing,
    IntegrationAuthService.signature]

/-- A number of one digit. -/
def oneDigit (c : Char) (hdigit : c.isDigit = true) (hne : c ≠ '0') : JsValue :=
  .num <| .finite
    { negative := false
      digits := [c]
      point := 1
      isDigit := by simpa using hdigit
      ne_nil := List.cons_ne_nil c []
      head_ne := by simpa using hne
      getLast_ne := by simpa using hne }

def nestedBody : JsValue :=
  .obj [("z", oneDigit '1' (by decide) (by decide)),
    ("a", .obj [("b", oneDigit '2' (by decide) (by decide))])]

/-- What holds of its three lists of keys holds everywhere in `nestedBody`. -/
theorem everywhere_nestedBody {p : List String → Prop} (houter : p ["z", "a"]) (hinner : p ["b"])
    (hnone : p []) : JsValue.Everywhere (fun v => p v.keys) nestedBody := by
  have hdigit : ∀ n, JsValue.Everywhere (fun v => p v.keys) (.num n) := fun n =>
    ⟨hnone, by simp [JsValue.children]⟩
  refine ⟨houter, ?_⟩
  intro v hv
  rcases List.mem_cons.1 hv with rfl | hv
  · exact hdigit _
  obtain rfl := List.mem_singleton.1 hv
  refine ⟨hinner, ?_⟩
  intro w hw
  obtain rfl := List.mem_singleton.1 hw
  exact hdigit _

theorem distinctKeys_nestedBody : nestedBody.DistinctKeys :=
  everywhere_nestedBody (p := List.Nodup) (by decide) (by decide) (by decide)

def nestedRequest : IntegrationRequest :=
  signedRequest nestedBody distinctKeys_nestedBody "19"
    "sha256=7a92adb53f46aa30d04333f8d3075524ae934b7e5c53526c14014bbade8964a3"

def nestedCrypto : IntegrationCrypto :=
  .signing "\x7b\"a\":\x7b\"b\":2\x7d,\"z\":1\x7d"
    "13bf451a28599eb77ebb813c6b754a9cb470a7dc848ccf246254095682b78894"
    "7a92adb53f46aa30d04333f8d3075524ae934b7e5c53526c14014bbade8964a3"

theorem canonicalExact_nested :
    verify nestedCrypto .decomposing .signing 1700000000000 nestedRequest = accepted ∧
      CanonicalExact nestedCrypto .decomposing .signing 1700000000000 nestedRequest := by
  refine ⟨verify_signedRequest _ (by decide) (by decide), ?_⟩
  refine (canonicalExact_iff (sha256_signing_injective (by decide))).2 ?_
  intro v hv
  obtain rfl := Option.some.inj hv
  refine everywhere_nestedBody (p := JsValue.NoTies _) ?_ ?_ ?_
  · show ∀ k ∈ ["z", "a"], ∀ k' ∈ ["z", "a"], compareOn decomposed k k' = .eq → k = k'
    decide
  · show ∀ k ∈ ["b"], ∀ k' ∈ ["b"], compareOn decomposed k k' = .eq → k = k'
    decide
  · exact JsValue.noTies_nil _

/-- The two keys are canonically equivalent. -/
def accentedBody : JsValue :=
  .obj [("é", oneDigit '1' (by decide) (by decide)),
    ("e\u0301", oneDigit '2' (by decide) (by decide))]

theorem distinctKeys_accentedBody : accentedBody.DistinctKeys := by
  refine ⟨?_, ?_⟩
  · show ["é", "e\u0301"].Nodup
    decide
  · intro v hv
    have hnum : ∃ n, v = .num n := by
      rcases List.mem_cons.1 hv with rfl | hv
      · exact ⟨_, rfl⟩
      · exact ⟨_, List.mem_singleton.1 hv⟩
    obtain ⟨n, rfl⟩ := hnum
    exact ⟨List.nodup_nil, by simp [JsValue.children]⟩

def accentedRequest : IntegrationRequest :=
  signedRequest accentedBody distinctKeys_accentedBody "16"
    "c4fdce64f4e9cf224617721ab9ce21fa95c196533a72b94892a411aab94cbf36"

def accentedCrypto : IntegrationCrypto :=
  .signing "\x7b\"é\":1,\"e\u0301\":2\x7d"
    "f126472a603049b5f986bb8f35ba8b5fbace9e37c2d5b2abf5ad131a166835b6"
    "c4fdce64f4e9cf224617721ab9ce21fa95c196533a72b94892a411aab94cbf36"

/-- An accepted request whose canonical string depends on the order of the keys. -/
theorem not_canonicalExact : Function.Injective accentedCrypto.sha256 ∧
    verify accentedCrypto .decomposing .signing 1700000000000 accentedRequest = accepted ∧
      ¬ CanonicalExact accentedCrypto .decomposing .signing 1700000000000 accentedRequest := by
  have hsha : Function.Injective accentedCrypto.sha256 := sha256_signing_injective (by decide)
  refine ⟨hsha, verify_signedRequest _ (by decide) (by decide), ?_⟩
  intro h
  have huntied := (orderFree_iff hsha).1 h.orderFree accentedBody rfl
  have hkeys : ("é" : String) = "e\u0301" := by
    refine huntied.here "é" List.mem_cons_self "e\u0301" ?_ ?_
    · exact List.mem_cons_of_mem _ List.mem_cons_self
    · show compareOn decomposed "é" "e\u0301" = .eq
      decide
  exact absurd hkeys (by decide)

end IdmMw

import IdmMw.Connectors.RestTarget
import IdmMw.Model.PassworkConnector

/-!
# Where the requests of the Passwork connector go

* `Resource`: what a path names, with the place of an id; `resourceOf`: the resource of an operation;
* `Addressed`: the URL of a request for a resource; `execute_addressed`: there are no other requests;
* `Confined`: read as a URL, the text has the path of the interface and the segments of the resource;
* `sends_addressed`: the URL that is read from such a text;
* `pathsConfined_iff`: all requests are confined, unless the id is `.` or `..`, or the base URL has a
  query or a fragment.
-/

namespace IdmMw

open Async

namespace PassworkConnectorService

variable {js : Runtime} {toAscii : List UInt8 → Option (List Char)} {payload : ConnectorPayload}
  {config data params : Json} {operation url : String}

/-! ### Resources -/

/-- A path of names, with an id somewhere behind the first. -/
structure Resource where
  first : String
  names : List String
  id : Option String
  behind : List String

/-- The segments of the path, with a segment for the id. -/
def Resource.segments (resource : Resource) (segment : List Char) : List (List Char) :=
  resource.names.map String.toList ++ (resource.id.map fun _ => segment).toList ++
    resource.behind.map String.toList

/-- The path as it is written. -/
def Resource.path (resource : Resource) : List Char :=
  (resource.first.toList ::
    resource.segments (Url.encodeURIComponent (resource.id.getD "").toList)).flatMap ('/' :: ·)

/-- A user, a group, or one of their collections. -/
def resourceOf (js : Runtime) (operation : String) (data params : Json) : Option Resource :=
  match operation with
  | "user.create" | "user.search" | "user.resolve" => some ⟨"users", [], none, []⟩
  | "user.update" | "user.delete" | "user.get" =>
    some ⟨"users", [], userId js data params, []⟩
  | "user.disable" | "user.lock" => some ⟨"users", [], userId js data params, ["block"]⟩
  | "user.enable" | "user.unlock" => some ⟨"users", [], userId js data params, ["unblock"]⟩
  | "group.create" | "group.search" => some ⟨"user-groups", [], none, []⟩
  | "group.update" | "group.delete" | "group.get" =>
    some ⟨"user-groups", [], groupId js data params, []⟩
  | "group.addMember" => some ⟨"user-groups", [], groupId js data params, ["add-users"]⟩
  | "group.removeMember" => some ⟨"user-groups", [], groupId js data params, ["remove-users"]⟩
  | "system.test" => some ⟨"sessions", ["current", "info"], none, []⟩
  | _ => none

/-- What the requests for a payload are for: the resource of its operation; the groups, and each group
that a new user is added to; the users and the groups of a synchronisation. -/
inductive Asked (js : Runtime) (payload : ConnectorPayload) : Resource → Prop
  | operation {resource : Resource}
      (h : resourceOf js payload.operation payload.data payload.params = some resource) :
      Asked js payload resource
  | groups (h : payload.operation = "user.create") : Asked js payload ⟨"user-groups", [], none, []⟩
  | member (h : payload.operation = "user.create") (id : String) :
      Asked js payload ⟨"user-groups", [], some id, ["add-users"]⟩
  | syncUsers (h : payload.operation = "sync.full") : Asked js payload ⟨"users", [], none, []⟩
  | syncGroups (h : payload.operation = "sync.full") :
      Asked js payload ⟨"user-groups", [], none, []⟩

/-- The names of a resource are such that stay as they are, and its id is not empty. -/
structure Resource.Named (resource : Resource) : Prop where
  first : Url.Word resource.first.toList
  names : ∀ name ∈ resource.names, Url.Word name.toList
  behind : ∀ name ∈ resource.behind, Url.Word name.toList
  id : resource.id ≠ some ""

/-- The names in the paths of the interface. -/
def pathNames : List String := ["users", "user-groups", "block", "unblock", "add-users",
  "remove-users", "sessions", "current", "info"]

theorem word_of_mem {name : String} (h : name ∈ pathNames) : Url.Word name.toList := by
  have hnames : ∀ name ∈ pathNames, name.toList ≠ [] ∧
      name.toList.all Url.isUnreserved = true ∧ Url.isDots name.toList = false := by
    decide
  exact ⟨(hnames name h).1, List.all_eq_true.1 (hnames name h).2.1, (hnames name h).2.2⟩

theorem named_of_mem {first : String} {names behind : List String} {id : Option String}
    (h : ∀ name ∈ first :: (names ++ behind), name ∈ pathNames) (hid : id ≠ some "") :
    Resource.Named ⟨first, names, id, behind⟩ where
  first := word_of_mem (h first List.mem_cons_self)
  names name hname :=
    word_of_mem (h name (List.mem_cons_of_mem _ (List.mem_append_left _ hname)))
  behind name hname :=
    word_of_mem (h name (List.mem_cons_of_mem _ (List.mem_append_right _ hname)))
  id := hid

/-- Nothing, or a query. -/
def IsQuery (text : List Char) : Prop := text = [] ∨ ∃ more, text = '?' :: more

/-- The path of a request is that of the resource, with a query behind it. -/
structure For (request : PassworkRequest) (resource : Resource) : Prop where
  named : resource.Named
  path : ∃ query, IsQuery query ∧ request.path.toList = resource.path ++ query

theorem for_appendQuery {method path : String} {query : Settings} {body : Option Json}
    {resource : Resource} (hnamed : resource.Named) (hpath : path.toList = resource.path) :
    For ⟨method, appendQuery js path query, body⟩ resource := by
  refine ⟨hnamed, ?_⟩
  show ∃ text, IsQuery text ∧ (appendQuery js path query).toList = resource.path ++ text
  unfold appendQuery
  split
  · exact ⟨[], Or.inl rfl, by rw [hpath, List.append_nil]⟩
  · exact ⟨_, Or.inr ⟨_, rfl⟩, by
      rw [String.toList_append, String.toList_append, hpath, List.append_assoc]
      rfl⟩

theorem for_collection {method path : String} {body : Option Json} {resource : Resource}
    (hnamed : resource.Named) (hpath : path.toList = resource.path) :
    For ⟨method, path, body⟩ resource :=
  ⟨hnamed, [], Or.inl rfl, by rw [List.append_nil]; exact hpath⟩

/-- The request for one user or one group. -/
theorem for_objectRequest {method first action : String} {id : Option String}
    {behind : List String} {body : Option Json} {request : PassworkRequest}
    (hnames : ∀ name ∈ first :: ([] ++ behind), name ∈ pathNames)
    (haction : action.toList = behind.flatMap fun name => '/' :: name.toList)
    (h : objectRequest method ("/" ++ first ++ "/") id action body = .ok request) :
    For request ⟨first, [], id, behind⟩ := by
  unfold objectRequest at h
  obtain ⟨escaped, hescaped, hrequest⟩ := bind_eq_ok.1 h
  obtain rfl := Except.ok.inj hrequest
  cases id with
  | none => cases hescaped
  | some value =>
    unfold requireId at hescaped
    dsimp only at hescaped
    split at hescaped
    · cases hescaped
    · next hne =>
      obtain rfl := Except.ok.inj hescaped
      refine ⟨named_of_mem hnames (by simpa using hne), [], Or.inl rfl, ?_⟩
      simp only [Resource.path, Resource.segments, List.map_nil, List.nil_append, Option.map_some,
        Option.toList_some, Option.getD_some, List.flatMap_cons, List.flatMap_map,
        List.append_nil, String.toList_append,
        String.toList_ofList, haction, List.append_assoc, List.cons_append]
      rfl

theorem objectRequest_of_memberRequest {action : String} {request : PassworkRequest}
    (h : memberRequest js action data params = .ok request) :
    ∃ body, objectRequest "POST" "/user-groups/" (groupId js data params) action body =
      .ok request := by
  unfold memberRequest at h
  split at h
  · cases h
  · exact ⟨_, h⟩

/-- The request for an operation is one for its resource. -/
theorem for_buildRequest {request : PassworkRequest}
    (h : buildRequest js operation data params = .ok request) :
    ∃ resource, resourceOf js operation data params = some resource ∧ For request resource := by
  unfold buildRequest at h
  split at h
  · obtain rfl := Except.ok.inj h
    exact ⟨_, rfl, for_collection (named_of_mem (by decide) nofun) rfl⟩
  · exact ⟨_, rfl, for_objectRequest (by decide) rfl h⟩
  · exact ⟨_, rfl, for_objectRequest (by decide) rfl h⟩
  · exact ⟨_, rfl, for_objectRequest (by decide) rfl h⟩
  · obtain rfl := Except.ok.inj h
    exact ⟨_, rfl, for_appendQuery (named_of_mem (by decide) nofun) rfl⟩
  · obtain rfl := Except.ok.inj h
    exact ⟨_, rfl, for_appendQuery (named_of_mem (by decide) nofun) rfl⟩
  · exact ⟨_, rfl, for_objectRequest (by decide) rfl h⟩
  · exact ⟨_, rfl, for_objectRequest (by decide) rfl h⟩
  · exact ⟨_, rfl, for_objectRequest (by decide) rfl h⟩
  · exact ⟨_, rfl, for_objectRequest (by decide) rfl h⟩
  · obtain rfl := Except.ok.inj h
    exact ⟨_, rfl, for_collection (named_of_mem (by decide) nofun) rfl⟩
  · exact ⟨_, rfl, for_objectRequest (by decide) rfl h⟩
  · exact ⟨_, rfl, for_objectRequest (by decide) rfl h⟩
  · exact ⟨_, rfl, for_objectRequest (by decide) rfl h⟩
  · obtain rfl := Except.ok.inj h
    exact ⟨_, rfl, for_appendQuery (named_of_mem (by decide) nofun) rfl⟩
  · obtain ⟨body, h⟩ := objectRequest_of_memberRequest h
    exact ⟨_, rfl, for_objectRequest (by decide) rfl h⟩
  · obtain ⟨body, h⟩ := objectRequest_of_memberRequest h
    exact ⟨_, rfl, for_objectRequest (by decide) rfl h⟩
  · obtain rfl := Except.ok.inj h
    exact ⟨_, rfl, for_collection (named_of_mem (by decide) nofun) rfl⟩
  · cases h

/-! ### Requests -/

/-- A property of the URLs that requests are sent to. -/
def OnRequest (Q : String → Prop) : PassworkReq → Prop
  | .request url _ _ _ => Q url
  | .httpsAgent _ => True

theorem call_issues {request : PassworkRequest} {Q : String → Prop}
    (h : ∀ baseUrl, config.get? "baseUrl" = some (.str baseUrl) →
      Q (apiBaseUrl baseUrl ++ request.path)) :
    (call js config request).Issues (OnRequest Q) := by
  unfold call
  split
  · next baseUrl hbase =>
    split
    · exact issues_throw
    · refine Issues.bind ?_ fun agent => ⟨h baseUrl hbase, fun _ => issues_settle⟩
      unfold axiosConfig
      split
      · exact issues_pure
      · exact Issues.bind issues_ofExcept fun _ =>
          Issues.bind ⟨trivial, fun _ => issues_settle⟩ fun _ => issues_pure
  · exact issues_throw

/-- The URL of a request for a resource, if it is one that is asked for. -/
structure Addressed (js : Runtime) (payload : ConnectorPayload) (resource : Resource)
    (url : String) : Prop where
  asked : Asked js payload resource
  named : resource.Named
  url : ∃ baseUrl query, payload.config.bind (·.get? "baseUrl") = some (.str baseUrl) ∧
    IsQuery query ∧ url.toList = (apiBaseUrl baseUrl).toList ++ resource.path ++ query

theorem call_addressed {request : PassworkRequest} {resource : Resource}
    (hconfig : payload.config = some config) (hasked : Asked js payload resource)
    (hfor : For request resource) : (call js config request).Issues
      (OnRequest fun url => ∃ resource, Addressed js payload resource url) := by
  refine call_issues fun baseUrl hbase => ⟨resource, hasked, hfor.named, ?_⟩
  obtain ⟨query, hquery, hpath⟩ := hfor.path
  refine ⟨baseUrl, query, by rw [hconfig]; exact hbase, hquery, ?_⟩
  rw [String.toList_append, hpath, List.append_assoc]

/-- An id stays where the groups are left out. -/
theorem get?_withoutGenericGroups {key : String} (hkey : 'd' ∈ key.toList) :
    (withoutGenericGroups data).get? key = data.get? key := by
  have hne : key ≠ "groups" := by
    rintro rfl
    exact absurd hkey (by decide)
  exact (OrderedMap.lookup_filter_key (fun key => decide (key ≠ "groups")) (decide_eq_true hne) _).trans
    (RestConnectorService.lookup_entries hkey (by decide) data)

theorem resourceOf_withoutGenericGroups : resourceOf js operation
    (if isUserWriteOperation operation then withoutGenericGroups data else data) params =
      resourceOf js operation data params := by
  split
  · next hwrite =>
    have huser : userId js (withoutGenericGroups data) params = userId js data params := by
      unfold userId
      rw [get?_withoutGenericGroups (by decide), get?_withoutGenericGroups (by decide)]
    unfold isUserWriteOperation at hwrite
    rcases Bool.or_eq_true_iff.1 hwrite with h | h
    · obtain rfl := of_decide_eq_true h
      rfl
    · obtain rfl := of_decide_eq_true h
      show some _ = some _
      rw [huser]
  · rfl

/-! ### All requests -/

theorem addToGroups_addressed (hconfig : payload.config = some config)
    (hcreate : payload.operation = "user.create") (userId : String) (groupIds : List String) :
    (addToGroups js config userId groupIds).Issues
      (OnRequest fun url => ∃ resource, Addressed js payload resource url) := by
  induction groupIds with
  | nil => exact issues_pure
  | cons groupId groupIds ih =>
    refine issues_check fun request hrequest => Issues.bind ?_ fun _ => ih
    exact call_addressed hconfig (.member hcreate groupId)
      (for_objectRequest (by decide) rfl hrequest)

theorem callOperation_addressed (hconfig : payload.config = some config) :
    (callOperation js payload.operation config payload.data payload.params).Issues
      (OnRequest fun url => ∃ resource, Addressed js payload resource url) := by
  refine issues_check fun request hrequest => ?_
  obtain ⟨resource, hresource, hfor⟩ := for_buildRequest hrequest
  rw [resourceOf_withoutGenericGroups] at hresource
  have hcall : (call js config request).Issues
      (OnRequest fun url => ∃ resource, Addressed js payload resource url) :=
    call_addressed hconfig (.operation hresource) hfor
  split
  · next hcreate =>
    refine Issues.bind ?_ fun groupIds => Issues.bind hcall fun response =>
      Issues.bind ?_ fun _ => issues_pure
    · refine issues_check fun refs _ => ?_
      obtain ⟨mode, refs⟩ := refs
      dsimp only
      split
      · exact issues_pure
      · split
        · exact issues_pure
        · refine Issues.bind (call_addressed hconfig (.groups hcreate)
            (for_appendQuery (named_of_mem (by decide) nofun) rfl)) fun _ => issues_ofExcept
    · unfold applyUserGroupMapping
      split
      · exact issues_pure
      · split
        · exact issues_throw
        · exact addToGroups_addressed hconfig hcreate _ _
  · exact hcall

theorem both_issues {first second : PassworkProg Json} {P : PassworkReq → Prop}
    (hfirst : first.Issues P) (hsecond : second.Issues P) : (both first second).Issues P :=
  hfirst.andThen fun _ => hsecond.andThen fun _ => issues_settle

/-- Every request is one for a resource that is asked for. -/
theorem execute_addressed (js : Runtime) (payload : ConnectorPayload) :
    (execute js payload).Issues
      (OnRequest fun url => ∃ resource, Addressed js payload resource url) := by
  unfold execute
  split
  · exact issues_pure
  · next config hconfig =>
    have hconfig := (Option.filter_eq_some_iff.1 hconfig).1
    split
    · exact issues_pure
    · split
      · exact issues_pure
      · refine Issues.tryCatch (Issues.bind ?_ fun _ => issues_pure) fun _ => issues_pure
        by_cases hsync : payload.operation = "sync.full"
        · rw [hsync]
          refine Issues.bind (both_issues ?_ ?_) fun _ => issues_pure
          · exact call_addressed hconfig (.syncUsers hsync)
              (for_appendQuery (named_of_mem (by decide) nofun) rfl)
          · exact call_addressed hconfig (.syncGroups hsync)
              (for_appendQuery (named_of_mem (by decide) nofun) rfl)
        · unfold perform
          split
          · exact issues_pure
          · next heq => exact absurd heq hsync
          · exact callOperation_addressed hconfig

/-! ### The law -/

/-- The text is a URL that a request can be sent to. -/
structure Sends (toAscii : List UInt8 → Option (List Char)) (text : String) (url : Url) : Prop where
  parsed : Url.parse toAscii text.toList none = some url
  scheme : url.scheme = "http".toList ∨ url.scheme = "https".toList

theorem Sends.isWeb {text : String} {url : Url} (h : Sends toAscii text url) :
    Url.isWeb url.scheme = true := by
  rcases h.scheme with hscheme | hscheme <;> rw [hscheme] <;> decide

/-- The URL has the path of the interface, and behind it the segments of the resource; the segment of an
id is not empty, and is the id when it is decoded. -/
def Confined (toAscii : List UInt8 → Option (List Char)) (payload : ConnectorPayload)
    (resource : Resource) (text : String) : Prop :=
  ∀ baseUrl url, payload.config.bind (·.get? "baseUrl") = some (.str baseUrl) →
    Sends toAscii text url → ∃ base segment, Sends toAscii (apiBaseUrl baseUrl) base ∧
      (∀ id ∈ resource.id, segment ≠ [] ∧
        Url.percentDecode segment = id.toList.flatMap String.utf8EncodeChar) ∧
      url.path = .segments (base.path.list ++ resource.first.toList :: resource.segments segment)

/-- The URL of the interface has no query and no fragment, and the id does not stand for a directory. -/
def Safe (toAscii : List UInt8 → Option (List Char)) (payload : ConnectorPayload)
    (resource : Resource) : Prop :=
  ∀ baseUrl base, payload.config.bind (·.get? "baseUrl") = some (.str baseUrl) →
    Sends toAscii (apiBaseUrl baseUrl) base →
      (base.query = none ∧ base.fragment = none) ∧ resource.id ≠ some "." ∧ resource.id ≠ some ".."

/-- Every request is one for a resource of the payload, and its URL names that resource. -/
def PathsConfined (js : Runtime) (toAscii : List UInt8 → Option (List Char))
    (payload : ConnectorPayload) : Prop :=
  (execute js payload).Issues (OnRequest fun url =>
    (∃ resource, Addressed js payload resource url) ∧
      ∀ resource, Addressed js payload resource url → Confined toAscii payload resource url)

theorem word_api : Url.Word "api".toList :=
  ⟨by decide, List.all_eq_true.1 (by decide), by decide⟩

theorem word_v1 : Url.Word "v1".toList :=
  ⟨by decide, List.all_eq_true.1 (by decide), by decide⟩

theorem apiBaseUrl_toList (baseUrl : String) : (apiBaseUrl baseUrl).toList =
    withoutSlashes baseUrl ++ '/' :: ("api".toList ++ '/' :: "v1".toList) := by
  unfold apiBaseUrl
  rw [String.toList_append, String.toList_ofList]
  rfl

/-- The segments that are written. -/
def Resource.written (resource : Resource) : List (List Char) :=
  resource.segments (Url.encodeURIComponent (resource.id.getD "").toList)

theorem Resource.Named.stays {resource : Resource} (h : resource.Named) :
    ∀ segment ∈ resource.written, Url.Stays segment := by
  intro segment hsegment
  unfold Resource.written Resource.segments at hsegment
  rcases List.mem_append.1 hsegment with hsegment | hsegment
  · rcases List.mem_append.1 hsegment with hsegment | hsegment
    · obtain ⟨name, hname, rfl⟩ := List.mem_map.1 hsegment
      exact (h.names name hname).stays
    · obtain ⟨id, -, rfl⟩ := Option.map_eq_some_iff.1 (Option.mem_toList.1 hsegment)
      exact Url.stays_encodeURIComponent _
  · obtain ⟨name, hname, rfl⟩ := List.mem_map.1 hsegment
    exact (h.behind name hname).stays

/-- The URL of a request for a resource, by the URL of the interface. -/
theorem sends_addressed {resource : Resource} (h : Addressed js payload resource url)
    {baseUrl : String} (hbase : payload.config.bind (·.get? "baseUrl") = some (.str baseUrl))
    {base : Url} (hsends : Sends toAscii (apiBaseUrl baseUrl) base) :
    ∃ u, Sends toAscii url u ∧ u.path = .segments
      (if base.query = none ∧ base.fragment = none then
        Url.addSegments base.scheme base.path.list (resource.first.toList :: resource.written)
      else base.path.list) := by
  obtain ⟨baseUrl', query, hbase', hquery, hurl⟩ := h.url
  obtain rfl := Json.str.inj (Option.some.inj (hbase.symm.trans hbase'))
  have hparsed := hsends.parsed
  rw [apiBaseUrl_toList] at hparsed
  obtain ⟨u, hu, hscheme, -, hpath⟩ := Url.parse_child word_api word_v1 hsends.isWeb hparsed
    (resource.first.toList ++ resource.written.flatMap ('/' :: ·) ++ query)
  have htext : url.toList = withoutSlashes baseUrl ++ '/' :: ("api".toList ++ '/' ::
      ("v1".toList ++ '/' :: (resource.first.toList ++ resource.written.flatMap ('/' :: ·) ++
        query))) := by
    rw [hurl, apiBaseUrl_toList]
    simp [Resource.path, Resource.written]
  refine ⟨u, ⟨by rw [htext]; exact hu, hscheme ▸ hsends.scheme⟩, ?_⟩
  rw [hpath, Url.splitOnP_pathText h.named.first.stays h.named.stays hquery]

/-- There is such a URL only if the text of the interface is one. -/
theorem exists_base {resource : Resource} (h : Addressed js payload resource url)
    {baseUrl : String} (hbase : payload.config.bind (·.get? "baseUrl") = some (.str baseUrl))
    {u : Url} (hsends : Sends toAscii url u) : ∃ base, Sends toAscii (apiBaseUrl baseUrl) base := by
  obtain ⟨baseUrl', query, hbase', -, hurl⟩ := h.url
  obtain rfl := Json.str.inj (Option.some.inj (hbase.symm.trans hbase'))
  have htext : url.toList = withoutSlashes baseUrl ++ '/' :: ("api".toList ++ '/' ::
      ("v1".toList ++ '/' :: (resource.first.toList ++ resource.written.flatMap ('/' :: ·) ++
        query))) := by
    rw [hurl, apiBaseUrl_toList]
    simp [Resource.path, Resource.written]
  have hparsed := hsends.parsed
  rw [htext] at hparsed
  obtain ⟨base, hparsedBase, hscheme⟩ :=
    Url.exists_base_of_child word_api word_v1 hsends.isWeb hparsed
  exact ⟨base, by rw [apiBaseUrl_toList]; exact hparsedBase, hscheme ▸ hsends.scheme⟩

theorem Resource.Named.plain {resource : Resource} (h : resource.Named)
    (hid : resource.id ≠ some "." ∧ resource.id ≠ some "..") {scheme : List Char} :
    ∀ segment ∈ resource.first.toList :: resource.written, Url.Plain scheme segment := by
  intro segment hsegment
  rcases List.mem_cons.1 hsegment with rfl | hsegment
  · exact h.first.stays.plain h.first.dots
  · unfold Resource.written Resource.segments at hsegment
    rcases List.mem_append.1 hsegment with hsegment | hsegment
    · rcases List.mem_append.1 hsegment with hsegment | hsegment
      · obtain ⟨name, hname, rfl⟩ := List.mem_map.1 hsegment
        exact (h.names name hname).stays.plain (h.names name hname).dots
      · obtain ⟨id, heq, rfl⟩ := Option.map_eq_some_iff.1 (Option.mem_toList.1 hsegment)
        rw [heq] at hid ⊢
        refine Url.plain_encodeURIComponent ⟨fun hdot => hid.1 ?_, fun hdots => hid.2 ?_⟩
        · rw [← String.toList_inj.1 hdot]
          rfl
        · rw [← String.toList_inj.1 hdots]
          rfl
    · obtain ⟨name, hname, rfl⟩ := List.mem_map.1 hsegment
      exact (h.behind name hname).stays.plain (h.behind name hname).dots

/-- An id that stands for a directory is no segment of the path. -/
theorem not_confined_of_dots {resource : Resource} (h : resource.Named) {id : String}
    (hid : resource.id = some id) (hdots : id = "." ∨ id = "..") {scheme segment : List Char}
    (hfile : Url.isFile scheme = false) (hsegment : segment ≠ []) (before : List (List Char)) :
    Url.addSegments scheme before (resource.first.toList :: resource.written) ≠
      before ++ resource.first.toList :: resource.segments segment := by
  have hescaped : Url.encodeURIComponent id.toList = id.toList := by
    rcases hdots with rfl | rfl <;> decide
  have hwritten : resource.first.toList :: resource.written =
      (resource.first.toList :: resource.names.map String.toList) ++
        (id.toList :: resource.behind.map String.toList) := by
    unfold Resource.written Resource.segments
    rw [hid]
    simp [hescaped]
  have hfilled : before ++ resource.first.toList :: resource.segments segment =
      (before ++ (resource.first.toList :: resource.names.map String.toList)) ++
        (segment :: resource.behind.map String.toList) := by
    unfold Resource.segments
    rw [hid]
    simp
  rw [hwritten, hfilled, Url.addSegments_plain_append hfile ?_ (by simp)]
  · refine Url.addSegments_dots hfile ?_ (by simp) ?_ hsegment
    · rcases hdots with rfl | rfl
      · exact Or.inl rfl
      · exact Or.inr rfl
    · intro name hname
      obtain ⟨text, htext, rfl⟩ := List.mem_map.1 hname
      exact (h.behind text htext).stays.plain (h.behind text htext).dots
  · intro name hname
    rcases List.mem_cons.1 hname with rfl | hname
    · exact h.first.stays.plain h.first.dots
    · obtain ⟨text, htext, rfl⟩ := List.mem_map.1 hname
      exact (h.names text htext).stays.plain (h.names text htext).dots

theorem safe_of_confined {resource : Resource} (h : Addressed js payload resource url)
    (hconfined : Confined toAscii payload resource url) : Safe toAscii payload resource := by
  intro baseUrl base hbase hsends
  obtain ⟨u, hu, hpath⟩ := sends_addressed h hbase hsends
  obtain ⟨base', segment, hbase', hsegment, hconfined⟩ := hconfined baseUrl u hbase hu
  obtain rfl := Option.some.inj (hsends.parsed.symm.trans hbase'.parsed)
  have hsegments := Url.Path.segments.inj (hpath.symm.trans hconfined)
  by_cases hnone : base.query = none ∧ base.fragment = none
  · rw [if_pos hnone] at hsegments
    have hfile := Url.isFile_of_isWeb hsends.isWeb
    have hdots : ∀ id, id = "." ∨ id = ".." → resource.id ≠ some id := fun id hid heq =>
      not_confined_of_dots h.named heq hid hfile (hsegment id heq).1 _ hsegments
    exact ⟨hnone, hdots _ (Or.inl rfl), hdots _ (Or.inr rfl)⟩
  · rw [if_neg hnone] at hsegments
    have hlength := congrArg List.length hsegments
    simp only [List.length_append, List.length_cons] at hlength
    omega

theorem confined_of_safe {resource : Resource} (h : Addressed js payload resource url)
    (hsafe : Safe toAscii payload resource) : Confined toAscii payload resource url := by
  intro baseUrl u hbase hu
  obtain ⟨base, hsends⟩ := exists_base h hbase hu
  obtain ⟨hnone, hid⟩ := hsafe baseUrl base hbase hsends
  obtain ⟨u', hu', hpath⟩ := sends_addressed h hbase hsends
  obtain rfl := Option.some.inj (hu.parsed.symm.trans hu'.parsed)
  rw [if_pos hnone, Url.addSegments_plain (Url.isFile_of_isWeb hsends.isWeb) (h.named.plain hid)]
    at hpath
  refine ⟨base, Url.encodeURIComponent (resource.id.getD "").toList, hsends, ?_, hpath⟩
  intro id hmem
  have heq : resource.id = some id := hmem
  rw [heq]
  refine ⟨Url.encodeURIComponent_ne_nil fun hnil => h.named.id ?_,
    Url.decode_encodeURIComponent _⟩
  rw [heq]
  exact congrArg some (String.toList_inj.1 hnil)

/-- The requests of a payload name their resources exactly if, for each of them, the URL of the interface
has no query and no fragment, and the id is neither `.` nor `..`. -/
theorem pathsConfined_iff (js : Runtime) (toAscii : List UInt8 → Option (List Char))
    (payload : ConnectorPayload) :
    PathsConfined js toAscii payload ↔ (execute js payload).Issues (OnRequest fun url =>
      ∀ resource, Addressed js payload resource url → Safe toAscii payload resource) := by
  constructor
  · refine fun h => h.mono fun request hrequest => ?_
    cases request with
    | httpsAgent tls => trivial
    | request url request headers agent =>
      exact fun resource haddressed =>
        safe_of_confined haddressed (hrequest.2 resource haddressed)
  · refine fun h => ((execute_addressed js payload).and h).mono fun request hrequest => ?_
    cases request with
    | httpsAgent tls => trivial
    | request url request headers agent =>
      obtain ⟨hasked, hsafe⟩ := hrequest
      exact ⟨hasked, fun resource haddressed =>
        confined_of_safe haddressed (hsafe resource haddressed)⟩

/-- The user `..` is asked for. -/
def parentPayload : ConnectorPayload where
  operation := "user.get"
  targetSystem := "passwork"
  payload := .obj [("data", .obj [("id", .str "..")]),
    ("config", .obj [("baseUrl", .str "https://pw"), ("accessToken", .str "t")])]

/-- The URL of the interface. -/
def parentBase : Url :=
  ⟨"https".toList, ⟨[], [], some (.domain "pw".toList), none⟩,
    .segments ["api".toList, "v1".toList], none, none⟩

theorem parent_addressed : Addressed .ascii parentPayload ⟨"users", [], some "..", []⟩
    "https://pw/api/v1/users/.." where
  asked := .operation rfl
  named := named_of_mem (by decide) (by decide)
  url := ⟨"https://pw", [], rfl, Or.inl rfl, by decide⟩

theorem parent_sends : Sends RestConnectorService.asciiDomain (apiBaseUrl "https://pw") parentBase where
  parsed := by decide +kernel
  scheme := Or.inr rfl

/-- The path of this request is that of the interface: no segment stands for the user. -/
theorem parent_not_confined :
    ¬ ∀ payload, PathsConfined .ascii RestConnectorService.asciiDomain payload := by
  intro h
  have hrequest := (h parentPayload).1.2 ⟨"users", [], some "..", []⟩ parent_addressed
  exact (safe_of_confined parent_addressed hrequest _ _ rfl parent_sends).2.2 rfl

end PassworkConnectorService

end IdmMw

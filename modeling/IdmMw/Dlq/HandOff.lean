import IdmMw.Model.Sealing
import IdmMw.Pipeline.Traces

/-!
# Handing a claimed item over

With Kafka, `AdminService.retry` and `retryMany` claim items and send a retry message for each. A
claim whose message was not sent should not outlive the call (`ReleasesClaims`).

* `retry_runs`: a granted claim, and the metrics refresh after it;
* `retryItem_runs`: decoding the payload and sending the message;
* `releasesClaims_iff`: nothing gives a claim back, so the law holds exactly if none of these steps
  fails after a granted claim.
-/

namespace IdmMw

open Async

/-! ### The law -/

/-- The two calls that claim items and hand them over. -/
inductive RetryCall
  | retry (id : String)
  | retryMany (params : RetryManyParams)

def RetryCall.program (app : App) : RetryCall → Prog Unit
  | retry id => AdminService.retry app id
  | retryMany params => do
    let _ ← AdminService.retryMany app params
    pure ()

/-- The text is an encoded retry message for the item. -/
def MessageFor (app : App) (id : String) (raw : JsonText) : Prop :=
  ∃ dto, Encodes app.encryption (retryMessage id dto) raw

/-- Kafka accepts a retry message for the item. -/
def SentFor (app : App) (id : String) : Ev → Prop
  | ⟨.producerSend topic raw, .ok _⟩ => topic = app.config.retryTopic ∧ MessageFor app id raw
  | _ => False

/-- The item is no longer being retried: an update ends its claim, or the item is gone. -/
def EndsClaim (id : String) : Ev → Prop
  | ⟨.dlqItemUpdate id' data, .ok _⟩ => id' = id ∧ data.status ≠ .retrying
  | ⟨.dlqItemFindUnique id', .ok none⟩ => id' = id
  | _ => False

/-- `P c t₂` holds for each claim `c` that is granted in the trace, where `t₂` is what follows it. -/
def AfterClaims (P : DlqItemClaim → Trace → Prop) : Trace → Prop
  | [] => True
  | v :: t => (∀ c, v = ⟨.dlqItemUpdateMany c, .ok 1⟩ → P c t) ∧ AfterClaims P t

/-- After each claim that the call is granted, the call ends the claim or sends a message. -/
def ReleasesClaims (app : App) (t : Trace) : Prop :=
  AfterClaims (fun c t₂ => Saw (EndsClaim c.id) t₂ ∨ Saw (SentFor app c.id) t₂) t

/-- The answer of a lookup of an item. -/
def found? : Ev → Option (Except JsError (Option DlqItem))
  | ⟨.dlqItemFindUnique _, answer⟩ => some answer
  | _ => none

@[simp] theorem found?_findUnique (id : String) (answer : Except JsError (Option DlqItem)) :
    found? ⟨.dlqItemFindUnique id, answer⟩ = some answer := rfl

/-- The call has read the row. -/
def Read (item : DlqItem) : Ev → Prop
  | ⟨.dlqItemFindUnique _, .ok found⟩ => found = some item
  | ⟨.dlqItemFindMany _, .ok items⟩ => item ∈ items
  | _ => False

/-- No step fails that lies between a claim of the item, after which the trace goes on as `t₂`, and
its message: the metrics refresh, the lookup of the item, decoding its payload, encoding the message
and sending it. -/
structure Unhindered (app : App) (t : Trace) (id : String) (t₂ : Trace) : Prop where
  counted : ∀ e, t₂.findSome? counted? ≠ some (.error e)
  found : ∀ e, t₂.findSome? found? ≠ some (.error e)
  handedOver : t₂.findSome? found? = some (.ok none) ∨
    (∀ item, Saw (Read item) t → item.id = id →
      ∃ payload, JsonHelper.fromJson app item.payload = .ok payload) ∧
    app.encryption.CanEncode ∧ ∀ e, t₂.findSome? sent? ≠ some (.error e)

/-- No hand-over of the call is hindered. -/
def HandsOver (app : App) (t : Trace) : Prop :=
  AfterClaims (fun c t₂ => Unhindered app t c.id t₂) t

/-- Rows come as asked for: by their id, and each of them once. -/
structure RowsAsAsked (t : Trace) : Prop where
  unique : ∀ id item, ⟨.dlqItemFindUnique id, .ok (some item)⟩ ∈ t → item.id = id
  many : ∀ query items, ⟨.dlqItemFindMany query, .ok items⟩ ∈ t →
    (items.map fun item => item.id).Nodup

variable {app : App} {t : Trace} {id : String}

/-! ### Messages -/

/-- A message is for one item. -/
theorem MessageFor.id_eq {id' : String} {raw : JsonText} (hcipher : app.encryption.cipher.Correct)
    (h : MessageFor app id raw) (h' : MessageFor app id' raw) : id = id' := by
  obtain ⟨dto, h⟩ := h
  obtain ⟨dto', h'⟩ := h'
  have hmessage := h.inj hcipher h'
  simp only [retryMessage, Json.obj.injEq, List.cons.injEq, Prod.mk.injEq, Json.str.injEq,
    true_and] at hmessage
  exact hmessage.1

theorem SentFor.area {v : Ev} (h : SentFor app id v) : v.req.area = .kafka := by
  unfold SentFor at h
  split at h <;> first | rfl | exact h.elim

/-! ### The steps of a hand-over -/

/-- A claim is granted. -/
def Granted : Ev → Prop
  | ⟨.dlqItemUpdateMany _, .ok 1⟩ => True
  | _ => False

theorem Granted.area {v : Ev} (h : Granted v) : v.req.area = .dlqClaim := by
  unfold Granted at h
  split at h <;> first | rfl | exact h.elim

theorem leaseSeconds_footprint (app : App) (targetSystem : Option String) :
    Footprint (DlqService.leaseSeconds app targetSystem) [.targets] := by
  cases targetSystem with
  | none => exact footprint_pure
  | some targetSystem => exact (forTarget_footprint app _).bind fun _ => footprint_pure

/-- `DlqService.retry`: no claim is granted, or one is, and then the metrics are refreshed. -/
theorem retry_runs {x : Except JsError Bool} (h : (DlqService.retry app id).Runs t x) :
    (¬ Saw Granted t ∧ x ≠ .ok true) ∨
      ∃ t₁ c t₂ y, t = t₁ ++ ⟨.dlqItemUpdateMany c, .ok 1⟩ :: t₂ ∧ c.id = id ∧ ¬ Saw Granted t₁ ∧
        DlqService.updateMetrics.Runs t₂ y ∧ x = y.map fun _ => true := by
  have hrequest : ∀ {r : Req} {α : Type} {k : Ans r → Except JsError α} {u y}, r.area ≠ .dlqClaim →
      (.await r fun a => .settle (k a) : Prog α).Runs u y → ¬ Saw Granted u := by
    rintro r α k u y hr hrun ⟨v, hv, hgranted⟩
    obtain ⟨a, rfl, -⟩ := runs_request.1 hrun
    obtain rfl := List.mem_singleton.1 hv
    exact hr hgranted.area
  rcases runs_bind.1 h with ⟨e, rfl, h'⟩ | ⟨targetSystem, t₁, t₂, rfl, h₁, h₂⟩
  · exact Or.inl ⟨hrequest (by simp [Req.area]) h', by simp⟩
  have hfind := hrequest (by simp [Req.area]) h₁
  have hlease : ∀ {u y}, (DlqService.leaseSeconds app targetSystem).Runs u y → ¬ Saw Granted u :=
    fun hr => (leaseSeconds_footprint app targetSystem).not_saw hr fun v hv => by rw [hv.area]; decide
  rcases runs_bind.1 h₂ with ⟨e, rfl, h'⟩ | ⟨lease, t₃, t₄, rfl, h₃, h₄⟩
  · exact Or.inl ⟨by simp [hfind, hlease h'], by simp⟩
  rcases runs_bind.1 h₄ with ⟨e, rfl, h'⟩ | ⟨date, t₅, t₆, rfl, h₅, h₆⟩
  · obtain ⟨a, -, hx⟩ := runs_request.1 h'
    cases hx
  have hdate := hrequest (by simp [Req.area]) h₅
  rcases runs_bind.1 h₆ with ⟨e, rfl, h'⟩ | ⟨dateNow, t₇, t₈, rfl, h₇, h₈⟩
  · obtain ⟨a, -, hx⟩ := runs_request.1 h'
    cases hx
  have hdateNow := hrequest (by simp [Req.area]) h₇
  rcases runs_bind.1 h₈ with ⟨e, rfl, h'⟩ | ⟨count, t₉, t₁₀, rfl, h₉, h₁₀⟩
  · obtain ⟨answer, rfl, rfl⟩ := runs_request.1 h'
    exact Or.inl ⟨by simp [hfind, hlease h₃, hdate, hdateNow, Granted], by simp⟩
  obtain ⟨answer, rfl, rfl⟩ := runs_request.1 h₉
  by_cases hcount : count = 1
  · subst hcount
    refine Or.inr ⟨t₁ ++ (t₃ ++ (t₅ ++ t₇)), ⟨id, date, dateNow, lease, app.pid⟩, t₁₀, ?_⟩
    rw [if_pos rfl] at h₁₀
    rcases runs_bind.1 h₁₀ with ⟨e, rfl, h'⟩ | ⟨u, t₁₁, t₁₂, rfl, h₁₁, rfl, rfl⟩
    · exact ⟨.error e, by simp, rfl, by simp [hfind, hlease h₃, hdate, hdateNow], h', rfl⟩
    · exact ⟨.ok u, by simp, rfl, by simp [hfind, hlease h₃, hdate, hdateNow], by simpa using h₁₁,
        rfl⟩
  · rw [if_neg hcount] at h₁₀
    obtain ⟨rfl, rfl⟩ := h₁₀
    have hnot : ¬ Granted ⟨.dlqItemUpdateMany ⟨id, date, dateNow, lease, app.pid⟩, .ok count⟩ := by
      unfold Granted
      split
      · next heq =>
        cases heq
        exact absurd rfl hcount
      · exact not_false
    exact Or.inl ⟨by simp [hfind, hlease h₃, hdate, hdateNow, hnot], by simp⟩

/-- Handing an item over fails before the message, or sends it. -/
theorem retryItem_runs {item : DlqItem} {x : Except JsError Unit}
    (hkafka : app.config.isKafkaEnabled = true) (h : (AdminService.retryItem app item).Runs t x) :
    (t = [] ∧ ∃ e, JsonHelper.fromJson app item.payload = .error e) ∨
      ∃ payload, JsonHelper.fromJson app item.payload = .ok payload ∧ ∃ dto,
        (KafkaProducerService.send app app.config.retryTopic
          (retryMessage item.id dto)).Runs t x := by
  unfold AdminService.retryItem at h
  rcases runs_bind.1 h with ⟨e, rfl, h'⟩ | ⟨payload, t₁, t₂, rfl, h₁, h₂⟩
  · exact Or.inl ⟨h'.1, e, h'.2.symm⟩
  · obtain ⟨rfl, hpayload⟩ := h₁
    dsimp only at h₂
    rw [if_pos hkafka] at h₂
    exact Or.inr ⟨payload, hpayload.symm, _, h₂⟩

theorem retryItem_footprint (item : DlqItem) (hkafka : app.config.isKafkaEnabled = true) :
    Footprint (AdminService.retryItem app item) [.process, .kafka] := by
  refine footprint_settle.bind fun payload => ?_
  dsimp only
  rw [if_pos hkafka]
  exact send_footprint app _ _

/-- The message of a hand-over is for its item. -/
theorem retryItem_sentFor {item : DlqItem} {x : Except JsError Unit}
    (hkafka : app.config.isKafkaEnabled = true) (hcipher : app.encryption.cipher.Correct)
    (h : (AdminService.retryItem app item).Runs t x) (hsaw : Saw (SentFor app id) t) :
    id = item.id := by
  obtain ⟨v, hv, hsent⟩ := hsaw
  rcases retryItem_runs hkafka h with ⟨rfl, -⟩ | ⟨payload, -, dto, hsend⟩
  · cases hv
  rcases send_cases hkafka hsend with ⟨-, e, -, -, hencode⟩ | ⟨-, u, raw, answer, rfl, hencode, -⟩
  · have harea := Issues.of_runs (encodeKafkaMessage_footprint _ _) hencode v hv
    simp [hsent.area] at harea
  · rcases List.mem_append.1 hv with hv | hv
    · have harea := Issues.of_runs (encodeKafkaMessage_footprint _ _) hencode v hv
      simp [hsent.area] at harea
    · obtain rfl := List.mem_singleton.1 hv
      cases answer with
      | error e => exact hsent.elim
      | ok u => exact hsent.2.id_eq hcipher ⟨dto, _, hencode⟩

/-- In a trace that begins with the hand-over of an item and shows no other message for it, there is
a message for it exactly if no step of the hand-over fails. -/
theorem retryItem_sent_iff {item : DlqItem} {x : Except JsError Unit} {rest : Trace}
    (hkafka : app.config.isKafkaEnabled = true)
    (h : (AdminService.retryItem app item).Runs t x) (hrest : ¬ Saw (SentFor app item.id) rest) :
    Saw (SentFor app item.id) (t ++ rest) ↔
      (∃ payload, JsonHelper.fromJson app item.payload = .ok payload) ∧
        app.encryption.CanEncode ∧ ∀ e, (t ++ rest).findSome? sent? ≠ some (.error e) := by
  rcases retryItem_runs hkafka h with ⟨rfl, e, he⟩ | ⟨payload, hpayload, dto, hsend⟩
  · simp [he, hrest]
  have hquiet : ∀ {u y}, (app.encryption.encodeKafkaMessage (retryMessage item.id dto)).Runs u y →
      ¬ Saw (SentFor app item.id) u ∧ u.findSome? sent? = none := by
    intro u y hr
    refine ⟨(encodeKafkaMessage_footprint _ _).not_saw hr fun v hv => by rw [hv.area]; decide,
      (encodeKafkaMessage_footprint _ _).findSome?_eq_none hr fun v hv => ?_⟩
    unfold sent? at hv
    split at hv
    · simp [Req.area]
    · exact absurd rfl hv
  rcases send_cases hkafka hsend with
    ⟨hcannot, e, -, -, hencode⟩ | ⟨hcan, u, raw, answer, rfl, hencode, -⟩
  · simp [hcannot, hrest, hquiet hencode]
  · obtain ⟨hsaw, hfind⟩ := hquiet hencode
    cases answer with
    | ok =>
      have hmessage : MessageFor app item.id raw := ⟨dto, u, hencode⟩
      simp [SentFor, hmessage, hpayload, hcan, hfind, List.findSome?_cons]
    | error e => simp [SentFor, hsaw, hrest, hfind, List.findSome?_cons]

/-! ### Claims in a trace -/

section AfterClaims

variable {P P' : DlqItemClaim → Trace → Prop}

theorem afterClaims_append {t₁ t₂ : Trace} :
    AfterClaims P (t₁ ++ t₂) ↔ AfterClaims (fun c u => P c (u ++ t₂)) t₁ ∧ AfterClaims P t₂ := by
  induction t₁ with
  | nil => simp [AfterClaims]
  | cons v t₁ ih => simp [AfterClaims, ih, and_assoc]

theorem afterClaims_of_not_saw (h : ¬ Saw Granted t) : AfterClaims P t := by
  induction t with
  | nil => trivial
  | cons v t ih =>
    rw [saw_cons, not_or] at h
    refine ⟨?_, ih h.2⟩
    rintro c rfl
    exact absurd trivial h.1

theorem afterClaims_cons_claim {c : DlqItemClaim} :
    AfterClaims P (⟨.dlqItemUpdateMany c, .ok 1⟩ :: t) ↔ P c t ∧ AfterClaims P t := by
  constructor
  · rintro ⟨h, ht⟩
    exact ⟨h c rfl, ht⟩
  · rintro ⟨h, ht⟩
    refine ⟨?_, ht⟩
    rintro c' ⟨⟩
    exact h

theorem AfterClaims.congr (h : AfterClaims (fun c u => P c u ↔ P' c u) t) :
    AfterClaims P t ↔ AfterClaims P' t := by
  induction t with
  | nil => rfl
  | cons v t ih =>
    obtain ⟨hv, ht⟩ := h
    exact and_congr (forall_congr' fun c => forall_congr' fun hc => hv c hc) (ih ht)

end AfterClaims

/-! ### The two calls -/

/-- The request neither reads whole rows nor updates one. -/
def Req.LeavesRows (r : Req) : Prop :=
  r.area ≠ .dlqUpdate ∧ (∀ id, r ≠ .dlqItemFindUnique id) ∧ ∀ query, r ≠ .dlqItemFindMany query

theorem Footprint.leavesRows {α : Type} {p : Prog α} {as : List Area} (h : Footprint p as)
    (has : .dlqUpdate ∉ as ∧ .dlqRead ∉ as) : p.Issues Req.LeavesRows := by
  refine Issues.mono h fun r hr => ⟨?_, ?_, ?_⟩
  · intro harea
    exact has.1 (harea ▸ hr)
  · rintro id rfl
    exact has.2 hr
  · rintro query rfl
    exact has.2 hr

theorem retry_leavesRows : (DlqService.retry app id).Issues Req.LeavesRows := by
  refine Issues.bind (⟨⟨by simp [Req.area], by simp, by simp⟩, fun _ => trivial⟩) fun target => ?_
  refine ((leaseSeconds_footprint app target).leavesRows (by decide)).bind fun lease => ?_
  refine Issues.bind (⟨⟨by simp [Req.area], by simp, by simp⟩, fun _ => trivial⟩) fun date => ?_
  refine Issues.bind (⟨⟨by simp [Req.area], by simp, by simp⟩, fun _ => trivial⟩) fun dateNow => ?_
  refine Issues.bind (⟨⟨by simp [Req.area], by simp, by simp⟩, fun _ => trivial⟩) fun count => ?_
  split
  · exact (updateMetrics_footprint.leavesRows (by decide)).bind fun _ => trivial
  · trivial

theorem retry_quiet {id' : String} {x : Except JsError Bool}
    (h : (DlqService.retry app id).Runs t x) : ¬ Saw (SentFor app id') t := by
  have hfoot : Footprint (DlqService.retry app id)
      [.dlqRead, .targets, .clock, .dlqClaim, .dlqCount, .metrics] := by
    refine Footprint.bind (footprint_request (by simp [Req.area])) fun target => ?_
    refine ((leaseSeconds_footprint app target).mono (by decide)).bind fun lease => ?_
    refine Footprint.bind (footprint_request (by simp [Req.area])) fun date => ?_
    refine Footprint.bind (footprint_request (by simp [Req.area])) fun dateNow => ?_
    refine Footprint.bind (footprint_request (by simp [Req.area])) fun count => ?_
    split
    · exact (updateMetrics_footprint.mono (by decide)).bind fun _ => footprint_pure
    · exact footprint_pure
  exact hfoot.not_saw h fun v hv => by rw [hv.area]; decide

variable (id) in
/-- Nothing ends a claim, finds an item or reads a row where rows are left alone. -/
theorem leavesRows_not_saw (h : ∀ v ∈ t, v.req.LeavesRows) :
    ¬ Saw (EndsClaim id) t ∧ t.findSome? found? = none ∧ ∀ item, ¬ Saw (Read item) t := by
  refine ⟨?_, List.findSome?_eq_none_iff.2 fun v hv => ?_, ?_⟩
  · rintro ⟨v, hv, hends⟩
    obtain ⟨harea, hunique, -⟩ := h v hv
    unfold EndsClaim at hends
    split at hends
    · exact harea rfl
    · exact hunique _ rfl
    · exact hends
  · obtain ⟨-, hunique, -⟩ := h v hv
    unfold found?
    split
    · exact absurd rfl (hunique _)
    · rfl
  · rintro item ⟨v, hv, hread⟩
    obtain ⟨-, hunique, hmany⟩ := h v hv
    unfold Read at hread
    split at hread
    · exact hunique _ rfl
    · exact hmany _ rfl
    · exact hread

/-- What follows a granted claim of the item: after a refresh of the metrics, and perhaps a lookup
that finds the item, it is handed over. The law holds of it if no step of that is hindered. -/
theorem handOver_iff (counts : List (DlqStatus × ℕ)) {item : DlqItem} {u s rest T : Trace}
    {x : Except JsError Unit} (hkafka : app.config.isKafkaEnabled = true)
    (hcounted : u.findSome? counted? = some (.ok counts))
    (hfound : u.findSome? found? = none ∨ u.findSome? found? = some (.ok (some item)))
    (hends : ¬ Saw (EndsClaim item.id) u) (hquiet : ∀ v ∈ u, v.req.area ≠ .kafka)
    (hs : (AdminService.retryItem app item).Runs s x)
    (hrest : ¬ Saw (SentFor app item.id) rest) (hleave : ∀ v ∈ rest, v.req.LeavesRows)
    (hread : ∀ item', Saw (Read item') T → item'.id = item.id → item' = item)
    (hread' : Saw (Read item) T) :
    Saw (EndsClaim item.id) (u ++ (s ++ rest)) ∨ Saw (SentFor app item.id) (u ++ (s ++ rest)) ↔
      Unhindered app T item.id (u ++ (s ++ rest)) := by
  have hleave' : ∀ v ∈ s ++ rest, v.req.LeavesRows := by
    intro v hv
    rcases List.mem_append.1 hv with hv | hv
    · exact Issues.of_runs ((retryItem_footprint item hkafka).leavesRows (by decide)) hs v hv
    · exact hleave v hv
  obtain ⟨hends', hfound', -⟩ := leavesRows_not_saw item.id hleave'
  have hsent : ¬ Saw (SentFor app item.id) u := by
    rintro ⟨v, hv, hsent⟩
    exact hquiet v hv hsent.area
  have hsent' : u.findSome? sent? = none := by
    refine List.findSome?_eq_none_iff.2 fun v hv => ?_
    have harea := hquiet v hv
    unfold sent?
    split
    · exact absurd rfl harea
    · rfl
  have hleft : Saw (EndsClaim item.id) (u ++ (s ++ rest)) ∨
      Saw (SentFor app item.id) (u ++ (s ++ rest)) ↔ Saw (SentFor app item.id) (s ++ rest) := by
    rw [saw_append] at hends'
    simp only [saw_append]
    tauto
  have hnone : (u ++ (s ++ rest)).findSome? found? ≠ some (.ok none) ∧
      ∀ e, (u ++ (s ++ rest)).findSome? found? ≠ some (.error e) := by
    rw [List.findSome?_append, hfound']
    rcases hfound with hfound | hfound <;> simp [hfound]
  rw [hleft, retryItem_sent_iff hkafka hs hrest]
  constructor
  · rintro ⟨hdecodes, hcan, hsend⟩
    refine ⟨by simp [List.findSome?_append, hcounted], hnone.2, Or.inr ⟨?_, hcan, ?_⟩⟩
    · intro item' hsaw hid
      rw [hread item' hsaw hid]
      exact hdecodes
    · simpa [List.findSome?_append, hsent'] using hsend
  · rintro ⟨-, -, hgone | ⟨hdecodes, hcan, hsend⟩⟩
    · exact absurd hgone hnone.1
    · exact ⟨hdecodes item hread' rfl, hcan, by simpa [List.findSome?_append, hsent'] using hsend⟩

/-- Where the metrics refresh of a claim fails, the claim is neither ended nor handed over. -/
theorem refreshFailed_iff {rest T : Trace} {e : JsError} (hrest : ¬ Saw (SentFor app id) rest)
    (hends : ¬ Saw (EndsClaim id) rest) :
    Saw (EndsClaim id) (⟨.dlqItemGroupBy, .error e⟩ :: rest) ∨
        Saw (SentFor app id) (⟨.dlqItemGroupBy, .error e⟩ :: rest) ↔
      Unhindered app T id (⟨.dlqItemGroupBy, .error e⟩ :: rest) := by
  refine iff_of_false ?_ fun h => h.counted e rfl
  simp [EndsClaim, SentFor, hrest, hends]

/-- The law for one granted claim `c` of the item, where the call goes on with `rest` after what
follows the claim in the hand-over. -/
def ClaimLaw (app : App) (T rest : Trace) (c : DlqItemClaim) (t₂ : Trace) : Prop :=
  Saw (EndsClaim c.id) (t₂ ++ rest) ∨ Saw (SentFor app c.id) (t₂ ++ rest) ↔
    Unhindered app T c.id (t₂ ++ rest)

variable (app id) in
/-- A metrics refresh neither ends a claim nor finds an item nor sends a message. -/
theorem refresh_quiet {x : Except JsError Unit} (h : DlqService.updateMetrics.Runs t x) :
    (∀ v ∈ t, v.req.LeavesRows) ∧ ¬ Saw Granted t ∧ ¬ Saw (SentFor app id) t ∧
      ∀ v ∈ t, v.req.area ≠ .kafka := by
  refine ⟨Issues.of_runs (updateMetrics_footprint.leavesRows (by decide)) h,
    updateMetrics_footprint.not_saw h fun v hv => by rw [hv.area]; decide,
    updateMetrics_footprint.not_saw h fun v hv => by rw [hv.area]; decide, fun v hv harea => ?_⟩
  have hmem := Issues.of_runs updateMetrics_footprint h v hv
  simp [harea] at hmem

theorem retryOne_claims {item : DlqItem} {x : Except JsError Bool} {rest T : Trace}
    (hkafka : app.config.isKafkaEnabled = true) (h : (AdminService.retryOne app item).Runs t x)
    (hrest : ¬ Saw (SentFor app item.id) rest) (hleave : ∀ v ∈ rest, v.req.LeavesRows)
    (hread : ∀ item', Saw (Read item') T → item'.id = item.id → item' = item)
    (hread' : Saw (Read item) T) :
    AfterClaims (ClaimLaw app T rest) t := by
  have hgranted : ∀ {u y}, (AdminService.retryItem app item).Runs u y → ¬ Saw Granted u :=
    fun hr => (retryItem_footprint item hkafka).not_saw hr fun v hv => by rw [hv.area]; decide
  rcases runs_bind.1 h with ⟨e, rfl, h'⟩ | ⟨claimed, t₁, t₂, rfl, h₁, h₂⟩
  · rcases retry_runs h' with ⟨hnone, -⟩ | ⟨u₁, c, u₂, y, rfl, hid, hnone, hrefresh, hy⟩
    · exact afterClaims_of_not_saw hnone
    rw [afterClaims_append, afterClaims_cons_claim]
    obtain ⟨-, hnone', -⟩ := refresh_quiet app item.id hrefresh
    refine ⟨afterClaims_of_not_saw hnone, ?_, afterClaims_of_not_saw hnone'⟩
    rcases refresh_runs hrefresh with ⟨e, rfl, rfl⟩ | ⟨_, _, _, rfl, -⟩
    · unfold ClaimLaw
      rw [hid]
      exact refreshFailed_iff hrest (leavesRows_not_saw _ hleave).1
    · cases hy
  have hnone₂ : ¬ Saw Granted t₂ := by
    cases claimed with
    | false =>
      obtain ⟨rfl, -⟩ := h₂
      exact saw_nil
    | true =>
      rcases runs_bind.1 h₂ with ⟨e, rfl, h'⟩ | ⟨u, t₃, t₄, rfl, h₃, rfl, -⟩
      · exact hgranted h'
      · simpa using hgranted h₃
  rcases retry_runs h₁ with ⟨hnone, -⟩ | ⟨u₁, c, u₂, y, rfl, hid, hnone, hrefresh, hy⟩
  · exact afterClaims_of_not_saw (by simp [hnone, hnone₂])
  rw [List.append_assoc, List.cons_append, afterClaims_append, afterClaims_cons_claim]
  obtain ⟨hleave', hnone', -, hkafka'⟩ := refresh_quiet app item.id hrefresh
  refine ⟨afterClaims_of_not_saw hnone, ?_, afterClaims_of_not_saw (by simp [hnone', hnone₂])⟩
  obtain ⟨hends, hfound, -⟩ := leavesRows_not_saw item.id hleave'
  rcases refresh_runs hrefresh with ⟨e, rfl, rfl⟩ | ⟨counts, w, rfl, rfl, hw⟩
  · cases hy
  cases hy
  have hhand : ∃ s y, t₂ = s ∧ (AdminService.retryItem app item).Runs s y := by
    rcases runs_bind.1 h₂ with ⟨e, rfl, h'⟩ | ⟨u, t₃, t₄, rfl, h₃, rfl, -⟩
    · exact ⟨_, _, rfl, h'⟩
    · exact ⟨_, _, by simp, h₃⟩
  obtain ⟨s, y, rfl, hs⟩ := hhand
  unfold ClaimLaw
  rw [hid, List.append_assoc]
  exact handOver_iff counts hkafka rfl (Or.inl hfound) hends hkafka' hs hrest hleave hread hread'

theorem retryOne_leavesRows {item : DlqItem} (hkafka : app.config.isKafkaEnabled = true) :
    (AdminService.retryOne app item).Issues Req.LeavesRows := by
  refine retry_leavesRows.bind fun claimed => ?_
  cases claimed with
  | false => trivial
  | true =>
    exact ((retryItem_footprint item hkafka).leavesRows (by decide)).bind fun _ => trivial

theorem retryOne_sentFor {item : DlqItem} {x : Except JsError Bool}
    (hkafka : app.config.isKafkaEnabled = true) (hcipher : app.encryption.cipher.Correct)
    (h : (AdminService.retryOne app item).Runs t x) (hsaw : Saw (SentFor app id) t) :
    id = item.id := by
  rcases runs_bind.1 h with ⟨e, rfl, h'⟩ | ⟨claimed, t₁, t₂, rfl, h₁, h₂⟩
  · exact absurd hsaw (retry_quiet h')
  rcases saw_append.1 hsaw with hsaw | hsaw
  · exact absurd hsaw (retry_quiet h₁)
  cases claimed with
  | false =>
    obtain ⟨rfl, -⟩ := h₂
    exact absurd hsaw saw_nil
  | true =>
    rcases runs_bind.1 h₂ with ⟨e, rfl, h'⟩ | ⟨u, t₃, t₄, rfl, h₃, rfl, -⟩
    · exact retryItem_sentFor hkafka hcipher h' hsaw
    · exact retryItem_sentFor hkafka hcipher h₃ (by simpa using hsaw)

/-- The loop goes on whatever becomes of an item. -/
theorem retryItems_cons_runs {item : DlqItem} {items : List DlqItem} {acc : RetryManyResult}
    {x : Except JsError RetryManyResult}
    (h : (AdminService.retryItems app (item :: items) acc).Runs t x) :
    ∃ t₁ t₂ y acc', t = t₁ ++ t₂ ∧ (AdminService.retryOne app item).Runs t₁ y ∧
      (AdminService.retryItems app items acc').Runs t₂ x := by
  rcases runs_bind.1 h with ⟨e, rfl, h'⟩ | ⟨acc', t₁, t₂, rfl, h₁, h₂⟩
  · rcases runs_tryCatch.1 h' with ⟨_, hx, -⟩ | ⟨_, _, _, -, -, -, hx⟩ <;> cases hx
  · rcases runs_tryCatch.1 h₁ with ⟨_, hx, h'⟩ | ⟨e, t₃, t₄, rfl, h₃, rfl, -⟩
    · rcases runs_bind.1 h' with ⟨_, hx', -⟩ | ⟨queued, t₃, t₄, rfl, h₃, rfl, -⟩
      · rw [hx'] at hx
        cases hx
      · exact ⟨_, _, _, acc', by simp, h₃, h₂⟩
    · rcases runs_bind.1 h₃ with ⟨_, hx', h'⟩ | ⟨queued, t₅, t₆, -, -, -, hx⟩
      · exact ⟨_, _, _, acc', by simp, h', h₂⟩
      · cases hx

/-- The loop sends messages for its items only, and neither finds nor updates any. -/
theorem retryItems_quiet {items : List DlqItem} {acc : RetryManyResult}
    {x : Except JsError RetryManyResult} (hkafka : app.config.isKafkaEnabled = true)
    (hcipher : app.encryption.cipher.Correct)
    (h : (AdminService.retryItems app items acc).Runs t x) :
    (∀ id, Saw (SentFor app id) t → ∃ item ∈ items, id = item.id) ∧
      ∀ v ∈ t, v.req.LeavesRows := by
  induction items generalizing t acc with
  | nil =>
    obtain ⟨rfl, -⟩ := h
    exact ⟨by simp, by simp⟩
  | cons item items ih =>
    obtain ⟨t₁, t₂, y, acc', rfl, h₁, h₂⟩ := retryItems_cons_runs h
    obtain ⟨hsent, hleave⟩ := ih h₂
    refine ⟨fun id hsaw => ?_, fun v hv => ?_⟩
    · rcases saw_append.1 hsaw with hsaw | hsaw
      · exact ⟨item, List.mem_cons_self, retryOne_sentFor hkafka hcipher h₁ hsaw⟩
      · obtain ⟨item', hmem, hid⟩ := hsent id hsaw
        exact ⟨item', List.mem_cons_of_mem _ hmem, hid⟩
    · rcases List.mem_append.1 hv with hv | hv
      · exact Issues.of_runs (retryOne_leavesRows hkafka) h₁ v hv
      · exact hleave v hv

/-- The law holds of every claim that the loop is granted. -/
theorem retryItems_claims {items : List DlqItem} {acc : RetryManyResult}
    {x : Except JsError RetryManyResult} {rest T : Trace}
    (hkafka : app.config.isKafkaEnabled = true) (hcipher : app.encryption.cipher.Correct)
    (h : (AdminService.retryItems app items acc).Runs t x)
    (hnodup : (items.map fun item => item.id).Nodup)
    (hrest : ∀ id, ¬ Saw (SentFor app id) rest) (hleave : ∀ v ∈ rest, v.req.LeavesRows)
    (hread : ∀ item ∈ items, Saw (Read item) T ∧
      ∀ item', Saw (Read item') T → item'.id = item.id → item' = item) :
    AfterClaims (ClaimLaw app T rest) t := by
  induction items generalizing t acc with
  | nil =>
    obtain ⟨rfl, -⟩ := h
    trivial
  | cons item items ih =>
    obtain ⟨hnew, hnodup⟩ := List.nodup_cons.1 hnodup
    obtain ⟨t₁, t₂, y, acc', rfl, h₁, h₂⟩ := retryItems_cons_runs h
    obtain ⟨hsent, hleave₂⟩ := retryItems_quiet hkafka hcipher h₂
    obtain ⟨hread', hread''⟩ := hread item List.mem_cons_self
    have hrest₂ : ¬ Saw (SentFor app item.id) (t₂ ++ rest) := by
      rw [saw_append]
      rintro (hsaw | hsaw)
      · obtain ⟨item', hmem, hid⟩ := hsent _ hsaw
        exact hnew (List.mem_map.2 ⟨item', hmem, hid.symm⟩)
      · exact hrest _ hsaw
    have hleave' : ∀ v ∈ t₂ ++ rest, v.req.LeavesRows := by
      intro v hv
      rcases List.mem_append.1 hv with hv | hv
      · exact hleave₂ v hv
      · exact hleave v hv
    have hlaw : (fun c u => ClaimLaw app T rest c (u ++ t₂)) = ClaimLaw app T (t₂ ++ rest) := by
      funext c u
      simp only [ClaimLaw, List.append_assoc]
    rw [afterClaims_append, hlaw]
    exact ⟨retryOne_claims hkafka h₁ hrest₂ hleave' hread'' hread',
      ih h₂ hnodup fun item' hmem => hread item' (List.mem_cons_of_mem _ hmem)⟩

/-- The law for `retryMany`, claim by claim. -/
theorem retryMany_claims {params : RetryManyParams} {x : Except JsError RetryManyResult}
    (hkafka : app.config.isKafkaEnabled = true) (hcipher : app.encryption.cipher.Correct)
    (h : (AdminService.retryMany app params).Runs t x) (hrows : RowsAsAsked t) :
    AfterClaims (ClaimLaw app t []) t := by
  unfold AdminService.retryMany at h
  split at h
  · obtain ⟨rfl, -⟩ := h
    trivial
  rcases runs_bind.1 h with ⟨e, rfl, h'⟩ | ⟨items, t₁, t₂, rfl, h₁, h₂⟩
  · obtain ⟨answer, rfl, -⟩ := runs_request.1 h'
    exact afterClaims_of_not_saw (by simp [Granted])
  obtain ⟨answer, rfl, rfl⟩ := runs_request.1 h₁
  have hnodup := hrows.many (AdminService.retryManyQuery params) items (by simp)
  have hsplit : ∃ t₃ t₄ y z acc, t₂ = t₃ ++ t₄ ∧ (AdminService.retryItems app items acc).Runs t₃ y ∧
      (t₄ = [] ∨ DlqService.updateMetrics.Runs t₄ z) := by
    rcases runs_bind.1 h₂ with ⟨e, rfl, h'⟩ | ⟨result, t₃, t₄, rfl, h₃, h₄⟩
    · exact ⟨t₂, [], _, .ok (), _, by simp, h', Or.inl rfl⟩
    · rcases runs_bind.1 h₄ with ⟨e, rfl, h'⟩ | ⟨u, t₅, t₆, rfl, h₅, rfl, -⟩
      · exact ⟨t₃, t₄, _, _, _, rfl, h₃, Or.inr h'⟩
      · exact ⟨t₃, t₅, _, _, _, by simp, h₃, Or.inr h₅⟩
  obtain ⟨t₃, t₄, y, z, acc, rfl, h₃, h₄⟩ := hsplit
  have hquiet : (∀ v ∈ t₄, v.req.LeavesRows) ∧ ¬ Saw Granted t₄ ∧
      ∀ id, ¬ Saw (SentFor app id) t₄ := by
    rcases h₄ with rfl | h₄
    · simp
    · exact ⟨(refresh_quiet app "" h₄).1,
        (refresh_quiet app "" h₄).2.1, fun id => (refresh_quiet _ _ h₄).2.2.1⟩
  obtain ⟨hleave, hnone, hsent⟩ := hquiet
  have hleave₃ := (retryItems_quiet hkafka hcipher h₃).2
  rw [List.singleton_append]
  have hread : ∀ item, Saw (Read item)
      (⟨.dlqItemFindMany (AdminService.retryManyQuery params), .ok items⟩ :: (t₃ ++ t₄)) ↔
        item ∈ items := by
    intro item
    simp [Read, (leavesRows_not_saw "" hleave₃).2.2, (leavesRows_not_saw "" hleave).2.2]
  rw [← List.singleton_append, afterClaims_append, afterClaims_append]
  refine ⟨afterClaims_of_not_saw (by simp [Granted]), ?_, afterClaims_of_not_saw hnone⟩
  have hlaw := retryItems_claims hkafka hcipher h₃ hnodup hsent hleave
    fun item hmem => ⟨(hread item).2 hmem, fun item' hsaw hid =>
      List.inj_on_of_nodup_map hnodup ((hread item').1 hsaw) hmem hid⟩
  have heq : ∀ T, (fun c u => ClaimLaw app T [] c (u ++ t₄)) = ClaimLaw app T t₄ := by
    intro T
    funext c u
    simp only [ClaimLaw, List.append_nil]
  rw [heq]
  exact hlaw

/-- What `retry` does with an item that it has claimed. -/
theorem retryClaimed_runs {x : Except JsError Unit}
    (h : (do
      let item ← dlqItemFindUnique id
      AdminService.retryFound app item
      DlqService.updateMetrics : Prog Unit).Runs t x) :
    (∃ e, t = [⟨.dlqItemFindUnique id, .error e⟩]) ∨
      (∃ m y, t = ⟨.dlqItemFindUnique id, .ok none⟩ :: m ∧ DlqService.updateMetrics.Runs m y) ∨
      ∃ item s y m z, t = ⟨.dlqItemFindUnique id, .ok (some item)⟩ :: (s ++ m) ∧
        (AdminService.retryItem app item).Runs s y ∧
        (m = [] ∨ DlqService.updateMetrics.Runs m z) := by
  rcases runs_bind.1 h with ⟨e, rfl, h'⟩ | ⟨found, t₁, t₂, rfl, h₁, h₂⟩
  · obtain ⟨answer, rfl, rfl⟩ := runs_request.1 h'
    exact Or.inl ⟨e, rfl⟩
  obtain ⟨answer, rfl, rfl⟩ := runs_request.1 h₁
  refine Or.inr ?_
  cases found with
  | none =>
    rcases runs_bind.1 h₂ with ⟨_, -, -, hx⟩ | ⟨u, t₃, t₄, rfl, ⟨rfl, -⟩, h₄⟩
    · cases hx
    · exact Or.inl ⟨t₄, x, rfl, h₄⟩
  | some item =>
    rcases runs_bind.1 h₂ with ⟨e, rfl, h'⟩ | ⟨u, t₃, t₄, rfl, h₃, h₄⟩
    · exact Or.inr ⟨item, t₂, _, [], .ok (), by simp, h', Or.inl rfl⟩
    · exact Or.inr ⟨item, t₃, _, t₄, x, rfl, h₃, Or.inr h₄⟩

/-- Whatever it does, it does not claim another item. -/
theorem retryClaimed_not_granted {x : Except JsError Unit}
    (hkafka : app.config.isKafkaEnabled = true)
    (h : (do
      let item ← dlqItemFindUnique id
      AdminService.retryFound app item
      DlqService.updateMetrics : Prog Unit).Runs t x) : ¬ Saw Granted t := by
  rcases retryClaimed_runs h with ⟨e, rfl⟩ | ⟨m, y, rfl, hm⟩ | ⟨item, s, y, m, z, rfl, hs, hm⟩
  · simp [Granted]
  · simp [Granted, (refresh_quiet app id hm).2.1]
  · have hs' : ¬ Saw Granted s :=
      (retryItem_footprint item hkafka).not_saw hs fun v hv => by rw [hv.area]; decide
    rcases hm with rfl | hm
    · simp [Granted, hs']
    · simp [Granted, hs', (refresh_quiet app id hm).2.1]

/-- The law for `retry`, claim by claim. -/
theorem adminRetry_claims {x : Except JsError Unit}
    (hkafka : app.config.isKafkaEnabled = true)
    (h : (AdminService.retry app id).Runs t x) (hrows : RowsAsAsked t) :
    AfterClaims (ClaimLaw app t []) t := by
  rcases runs_bind.1 h with ⟨e, rfl, h'⟩ | ⟨claimed, t₁, t₂, rfl, h₁, h₂⟩
  · rcases retry_runs h' with ⟨hnone, -⟩ | ⟨u₁, c, u₂, y, rfl, hid, hnone, hrefresh, hy⟩
    · exact afterClaims_of_not_saw hnone
    obtain ⟨-, hnone', -⟩ := refresh_quiet app id hrefresh
    rw [afterClaims_append, afterClaims_cons_claim]
    refine ⟨afterClaims_of_not_saw hnone, ?_, afterClaims_of_not_saw hnone'⟩
    rcases refresh_runs hrefresh with ⟨e, rfl, rfl⟩ | ⟨_, _, _, rfl, -⟩
    · exact refreshFailed_iff saw_nil saw_nil
    · cases hy
  rcases retry_runs h₁ with ⟨hnone, hx⟩ | ⟨u₁, c, u₂, y, rfl, hid, hnone, hrefresh, hy⟩
  · cases claimed with
    | true => exact absurd rfl hx
    | false =>
      obtain ⟨rfl, -⟩ := h₂
      exact afterClaims_of_not_saw (by simpa using hnone)
  obtain ⟨hleave, hnone', hsent, hkafka'⟩ := refresh_quiet app id hrefresh
  obtain ⟨hends, hfound, hread⟩ := leavesRows_not_saw id hleave
  have hcounted : ∃ counts, u₂.findSome? counted? = some (.ok counts) := by
    rcases refresh_runs hrefresh with ⟨e, rfl, rfl⟩ | ⟨counts, w, rfl, -, -⟩
    · cases hy
    · exact ⟨counts, rfl⟩
  obtain ⟨counts, hcounted⟩ := hcounted
  obtain rfl : claimed = true := by
    cases y with
    | error e => cases hy
    | ok u => exact Except.ok.inj hy
  have hread₁ := (leavesRows_not_saw id (Issues.of_runs retry_leavesRows h₁)).2.2
  generalize hT : u₁ ++ ⟨.dlqItemUpdateMany c, .ok 1⟩ :: u₂ ++ t₂ = T at hrows ⊢
  nth_rewrite 2 [← hT]
  rw [List.append_assoc, List.cons_append, afterClaims_append, afterClaims_cons_claim]
  refine ⟨afterClaims_of_not_saw hnone, ?_, afterClaims_of_not_saw ?_⟩
  swap
  · simp [hnone', retryClaimed_not_granted hkafka h₂]
  unfold ClaimLaw
  rw [hid, List.append_nil]
  rcases retryClaimed_runs h₂ with ⟨e, rfl⟩ | ⟨m, y, rfl, hm⟩ | ⟨item, s, y, m, z, rfl, hs, hm⟩
  · -- the lookup fails
    refine iff_of_false (by simp [hends, hsent, EndsClaim, SentFor]) fun hclear => ?_
    exact hclear.found e (by simp [List.findSome?_append, List.findSome?_cons, hfound])
  · -- the item is gone
    refine iff_of_true (Or.inl (by simp [EndsClaim])) ⟨?_, ?_, Or.inl ?_⟩
    · simp [List.findSome?_append, hcounted]
    · simp [List.findSome?_append, List.findSome?_cons, hfound]
    · simp [List.findSome?_append, List.findSome?_cons, hfound]
  · obtain rfl : item.id = id := hrows.unique id item (by simp [← hT])
    have hm' : ¬ Saw (SentFor app item.id) m ∧ ∀ v ∈ m, v.req.LeavesRows := by
      rcases hm with rfl | hm
      · simp
      · exact ⟨(refresh_quiet _ _ hm).2.2.1, (refresh_quiet app item.id hm).1⟩
    have hread' : ∀ item', Saw (Read item') T ↔ item' = item := by
      intro item'
      have hs' := (leavesRows_not_saw item.id (Issues.of_runs
        ((retryItem_footprint item hkafka).leavesRows (by decide)) hs)).2.2 item'
      have hm'' := (leavesRows_not_saw item.id hm'.2).2.2 item'
      rw [← hT, saw_append]
      simp [hread₁, hs', hm'', Read, eq_comm]
    have hpre : u₂ ++ ⟨.dlqItemFindUnique item.id, .ok (some item)⟩ :: (s ++ m) =
        (u₂ ++ [⟨.dlqItemFindUnique item.id, .ok (some item)⟩]) ++ (s ++ m) := by simp
    rw [hpre]
    refine handOver_iff counts hkafka ?_ (Or.inr ?_) ?_ ?_ hs hm'.1 hm'.2
      (fun item' hsaw _ => (hread' item').1 hsaw) ((hread' item).2 rfl)
    · simp [List.findSome?_append, hcounted]
    · simp [List.findSome?_append, List.findSome?_cons, hfound]
    · simp [hends, EndsClaim]
    · intro v hv
      rcases List.mem_append.1 hv with hv | hv
      · exact hkafka' v hv
      · obtain rfl := List.mem_singleton.1 hv
        simp [Req.area]

/-- With Kafka, a call releases its claims exactly if none of its hand-overs is hindered. -/
theorem releasesClaims_iff {call : RetryCall} {x : Except JsError Unit}
    (hkafka : app.config.isKafkaEnabled = true) (hcipher : app.encryption.cipher.Correct)
    (h : (call.program app).Runs t x) (hrows : RowsAsAsked t) :
    ReleasesClaims app t ↔ HandsOver app t := by
  have hlaw : ClaimLaw app t [] = fun c u => Saw (EndsClaim c.id) u ∨ Saw (SentFor app c.id) u ↔
      Unhindered app t c.id u := by
    funext c u
    simp only [ClaimLaw, List.append_nil]
  refine AfterClaims.congr (hlaw ▸ ?_)
  cases call with
  | retry id => exact adminRetry_claims hkafka h hrows
  | retryMany params =>
    rcases runs_bind.1 h with ⟨e, rfl, h'⟩ | ⟨result, t₁, t₂, rfl, h₁, rfl, rfl⟩
    · exact retryMany_claims hkafka hcipher h' hrows
    · rw [List.append_nil] at hrows ⊢
      exact retryMany_claims hkafka hcipher h₁ hrows

/-- The row of the item below. -/
def someItem : DlqItem where
  id := "item-1"
  eventId := "event-1"
  operation := "user.create"
  targetSystem := "target"
  payload := .native (.obj [])
  error := "rejected"
  retryCount := 0
  status := .retrying
  lockedAt := some 0
  lockedBy := some "1"

/-- A retry that hands its item over. -/
theorem releasesClaims_retry : ∃ t x,
    ((RetryCall.retry "item-1").program App.sealed).Runs t x ∧ Saw Granted t ∧
      (ReleasesClaims App.sealed t ↔ HandsOver App.sealed t) := by
  have h : ∃ t x, ((RetryCall.retry "item-1").program App.sealed).Runs t x ∧ Saw Granted t ∧
      RowsAsAsked t := by
    refine ⟨_, _, ⟨.ok (some "target"), _, rfl, .ok none, _, rfl, 0, _, rfl, 0, _, rfl, .ok 1, _, rfl,
      .ok [], _, rfl, (), _, rfl, (), _, rfl, (), _, rfl, (), _, rfl, .ok (some someItem), _, rfl,
      "iv", _, rfl, .ok (), _, rfl, .ok [], _, rfl, (), _, rfl, (), _, rfl, (), _, rfl, (), _, rfl,
      rfl, rfl⟩, ?_, ?_, ?_⟩
    · simp [Granted]
    · intro id item hmem
      simp at hmem
      rw [hmem.1, hmem.2]
      rfl
    · intro query items hmem
      simp at hmem
  obtain ⟨t, x, hrun, hgranted, hrows⟩ := h
  exact ⟨t, x, hrun, hgranted, releasesClaims_iff rfl Cipher.sealing_correct hrun hrows⟩

/-- A retry whose message is not accepted: the item stays claimed. -/
theorem not_releasesClaims : ∃ t x,
    ((RetryCall.retry "item-1").program App.queueing).Runs t x ∧ RowsAsAsked t ∧
      ¬ ReleasesClaims App.queueing t := by
  refine ⟨_, _, ⟨.ok (some "target"), _, rfl, .ok none, _, rfl, 0, _, rfl, 0, _, rfl, .ok 1, _, rfl,
    .ok [], _, rfl, (), _, rfl, (), _, rfl, (), _, rfl, (), _, rfl, .ok (some someItem), _, rfl,
    .error "broker down", _, rfl, rfl, rfl⟩, ⟨?_, ?_⟩, ?_⟩
  · intro id item hmem
    simp at hmem
    rw [hmem.1, hmem.2]
    rfl
  · intro query items hmem
    simp at hmem
  · simp [ReleasesClaims, AfterClaims, EndsClaim, SentFor]

end IdmMw

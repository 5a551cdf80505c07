import IdmMw.Library.Lease
import IdmMw.Library.Pool
import IdmMw.Model.Footprint

/-!
# The dead letter queue, its workers and its administrators

Any number of programs share the table `DlqItem`, a clock and the topic of retry messages: those that
park events, administrators who claim or close items, and workers who get retry messages, each of
them any number of times.

* `DlqItem.Claimable`, `DlqItem.claimed`, `DlqItem.updated`: the statements on the table;
* `DlqState`, `DlqEnv`, `DlqStart`, `dlqSystem`;
* `DlqItem.lease`: an item as a leased resource, and `Claimable` as the grant of a claim;
* `DlqEnv.effect`, `DlqEnv.item_step`: what an answered request does to the table.

Every statement may fail, and then it has done nothing. The fields `subject`, `hand`, `claims` and
`claimedAt` of the state are not in the program: they keep book of who works on which item under
which claim.
-/

namespace IdmMw

open Async

/-! ### Statements on the table -/

/-- The item is skipped or resolved. -/
def DlqStatus.Closed (status : DlqStatus) : Prop := status = .skipped ∨ status = .resolved

/-- The filter of the `updateMany` that claims an item. -/
def DlqItem.Claimable (item : DlqItem) (c : DlqItemClaim) : Prop :=
  item.status ∉ [.skipped, .resolved] ∧
    (item.status ≠ .retrying ∨ item.lockedAt = none ∨
      ∃ lockedAt, item.lockedAt = some lockedAt ∧ lockedAt < c.expiredBefore)

/-- The data of that `updateMany`. -/
def DlqItem.claimed (item : DlqItem) (c : DlqItemClaim) : DlqItem :=
  { item with
    status := .retrying
    retryCount := item.retryCount + 1
    lockedAt := some c.now
    lockedBy := some c.lockedBy }

/-- `dlqItem.update`. -/
def DlqItem.updated (item : DlqItem) (data : DlqItemUpdate) : DlqItem :=
  { item with
    status := data.status
    error := data.error.getD item.error
    lockedAt := data.lockedAt
    lockedBy := data.lockedBy }

/-- The row of a `dlqItem.create`. -/
def DlqItemCreate.item (data : DlqItemCreate) (id : String) : DlqItem where
  id := id
  eventId := data.eventId
  operation := data.operation
  targetSystem := data.targetSystem
  payload := data.payload
  error := data.error
  retryCount := data.retryCount
  status := data.status
  lockedAt := none
  lockedBy := none

/-- An item as a leased resource. -/
def DlqItem.lease (item : DlqItem) : Lease Time :=
  match item.status, item.lockedAt with
  | .pending, _ => .free
  | .retrying, none => .free
  | .retrying, some lockedAt => .held lockedAt
  | .skipped, _ => .closed
  | .resolved, _ => .closed

/-- The filter of the claim is the grant of the lease. -/
theorem DlqItem.claimable_iff {item : DlqItem} {c : DlqItemClaim} :
    item.Claimable c ↔ item.lease.CanClaim c.expiredBefore := by
  unfold Claimable lease
  cases item.status <;> cases item.lockedAt <;> simp [Lease.CanClaim]

/-- The lock columns are set exactly while a retry is on. -/
structure DlqItem.LeaseInv (item : DlqItem) : Prop where
  locked : item.status = .retrying ↔ item.lockedAt.isSome
  owned : item.lockedAt.isSome ↔ item.lockedBy.isSome

/-! ### The shared state -/

/-- Which item a slot has in hand, and under which claim on it (counted from 1). -/
structure Hand where
  id : String
  claim : ℕ
  deriving DecidableEq

structure DlqState (ι : Type) where
  items : String → Option DlqItem
  clock : Time
  /-- the retry messages sent so far, with what the sender had in hand -/
  topic : List (JsonText × Option Hand)
  /-- the item that a slot was last given, by a claim or by a message -/
  subject : ι → Option String
  /-- the item that a slot has in hand: that it was given and has neither updated nor handed over -/
  hand : ι → Option Hand
  /-- the number of claims granted of an item -/
  claims : String → ℕ
  /-- when the latest of them was made -/
  claimedAt : String → Option Time

/-- Any table, and nothing under way. -/
def DlqState.initial {ι : Type} (items : String → Option DlqItem) (clock : Time) : DlqState ι where
  items := items
  clock := clock
  topic := []
  subject _ := none
  hand _ := none
  claims _ := 0
  claimedAt id := (items id).bind fun item => item.lockedAt

/-- A table with one item, which awaits a retry. -/
def oneItem : String → Option DlqItem :=
  fun id => if id = "item-1" then
    some
      { id := "item-1"
        eventId := "event-1"
        operation := "user.create"
        targetSystem := "target"
        payload := .native (.obj [])
        error := "rejected"
        retryCount := 0
        status := .pending
        lockedAt := none
        lockedBy := none }
  else none

variable {ι : Type} [DecidableEq ι]

namespace DlqState

variable (s : DlqState ι)

/-- Store a new item. -/
def create (id : String) (data : DlqItemCreate) : DlqState ι :=
  { s with items := Function.update s.items id (some (data.item id)) }

/-- Grant a claim to slot `i`, which has the item in hand then. -/
def claim (i : ι) (c : DlqItemClaim) (item : DlqItem) : DlqState ι :=
  { s with
    items := Function.update s.items c.id (some (item.claimed c))
    subject := Function.update s.subject i (some c.id)
    hand := Function.update s.hand i (some ⟨c.id, s.claims c.id + 1⟩)
    claims := Function.update s.claims c.id (s.claims c.id + 1)
    claimedAt := Function.update s.claimedAt c.id (some c.now) }

/-- Update an item. If slot `i` had it in hand, it is done with it. -/
def update (i : ι) (id : String) (data : DlqItemUpdate) (item : DlqItem) : DlqState ι :=
  { s with
    items := Function.update s.items id (some (item.updated data))
    hand := if (s.hand i).map Hand.id = some id then Function.update s.hand i none else s.hand }

/-- Put a retry message on the topic, and what slot `i` had in hand with it. -/
def send (i : ι) (raw : JsonText) : DlqState ι :=
  { s with
    topic := s.topic ++ [(raw, s.hand i)]
    hand := Function.update s.hand i none }

end DlqState

/-! ### Answers -/

/-- A failed request of the table or the topic. -/
def DlqFailed : Ev → Prop
  | ⟨.dlqItemCreate _, .error _⟩ | ⟨.dlqItemFindTarget _, .error _⟩
  | ⟨.dlqItemFindUnique _, .error _⟩ | ⟨.dlqItemFindMany _, .error _⟩
  | ⟨.dlqItemUpdateMany _, .error _⟩ | ⟨.dlqItemUpdate _ _, .error _⟩
  | ⟨.producerSend _ _, .error _⟩ => True
  | _ => False

/-- The requests that the table, the clock or the topic answers. -/
def Req.OnDlq (retryTopic : String) : Req → Prop
  | .now | .dlqItemCreate _ | .dlqItemFindTarget _ | .dlqItemFindUnique _ | .dlqItemFindMany _ => True
  | .dlqItemUpdateMany _ | .dlqItemUpdate _ _ => True
  | .producerSend topic _ => topic = retryTopic
  | _ => False

/-- How the request `r` of slot `i` may be answered. The update of a missing row fails. -/
inductive DlqEnv (retryTopic : String) : ι → DlqState ι → (r : Req) → Ans r → DlqState ι → Prop
  | now {i s} : DlqEnv retryTopic i s .now s.clock s
  | create {i s id data} (hid : s.items id = none) :
      DlqEnv retryTopic i s (.dlqItemCreate data) (.ok ()) (s.create id data)
  | findTarget {i s id} :
      DlqEnv retryTopic i s (.dlqItemFindTarget id)
        (.ok ((s.items id).map fun item => item.targetSystem)) s
  | findUnique {i s id} : DlqEnv retryTopic i s (.dlqItemFindUnique id) (.ok (s.items id)) s
  | findMany {i s query} {items : List DlqItem}
      (hitems : ∀ item ∈ items, s.items item.id = some item) :
      DlqEnv retryTopic i s (.dlqItemFindMany query) (.ok items) s
  | claim {i s c item} (hitem : s.items c.id = some item) (hclaim : item.Claimable c) :
      DlqEnv retryTopic i s (.dlqItemUpdateMany c) (.ok 1) (s.claim i c item)
  | noClaim {i s c} (hclaim : ∀ item, s.items c.id = some item → ¬ item.Claimable c) :
      DlqEnv retryTopic i s (.dlqItemUpdateMany c) (.ok 0) s
  | update {i s id data item} (hitem : s.items id = some item) :
      DlqEnv retryTopic i s (.dlqItemUpdate id data) (.ok ()) (s.update i id data item)
  | send {i s raw} : DlqEnv retryTopic i s (.producerSend retryTopic raw) (.ok ()) (s.send i raw)
  | failed {i s r a} (h : DlqFailed ⟨r, a⟩) : DlqEnv retryTopic i s r a s
  | other {i s r a} (h : ¬ r.OnDlq retryTopic) : DlqEnv retryTopic i s r a s

/-- What an answered request does to the state. -/
inductive DlqEffect : ι → DlqState ι → Ev → DlqState ι → Prop
  | none {i s v} (hclaim : ∀ c, v ≠ ⟨.dlqItemUpdateMany c, .ok 1⟩)
      (hupdate : ∀ id data, v ≠ ⟨.dlqItemUpdate id data, .ok ()⟩) : DlqEffect i s v s
  | create {i s id data} (hid : s.items id = none) :
      DlqEffect i s ⟨.dlqItemCreate data, .ok ()⟩ (s.create id data)
  | claim {i s c item} (hitem : s.items c.id = some item) (hclaim : item.Claimable c) :
      DlqEffect i s ⟨.dlqItemUpdateMany c, .ok 1⟩ (s.claim i c item)
  | update {i s id data item} (hitem : s.items id = some item) :
      DlqEffect i s ⟨.dlqItemUpdate id data, .ok ()⟩ (s.update i id data item)
  | send {i s topic raw} : DlqEffect i s ⟨.producerSend topic raw, .ok ()⟩ (s.send i raw)

section Env

variable {retryTopic : String} {i : ι} {s s' : DlqState ι} {r : Req} {a : Ans r}

theorem DlqEnv.effect (h : DlqEnv retryTopic i s r a s') : DlqEffect i s ⟨r, a⟩ s' := by
  cases h with
  | create hid => exact .create hid
  | claim hitem hclaim => exact .claim hitem hclaim
  | update hitem => exact .update hitem
  | send => exact .send
  | now | findTarget | findUnique | findMany _ => exact .none (by simp) (by simp)
  | noClaim _ =>
    refine .none (fun c h => ?_) (by simp)
    cases h
  | failed h =>
    refine .none (fun c heq => ?_) fun id data heq => ?_
    · rw [heq] at h
      exact h
    · rw [heq] at h
      exact h
  | other h =>
    refine .none (fun c heq => ?_) fun id data heq => ?_
    · cases heq
      exact h trivial
    · cases heq
      exact h trivial

theorem DlqEnv.clock_eq (h : DlqEnv retryTopic i s r a s') : s'.clock = s.clock := by
  cases h.effect <;> rfl

theorem DlqEnv.now_eq {date : Time} (h : DlqEnv retryTopic i s .now date s') : date = s.clock := by
  cases h with
  | now => rfl
  | failed h => exact h.elim
  | other h => exact absurd trivial h

end Env

/-- What slot `j` has in hand after an update in slot `i`, it had before; if it is the same slot, then
not the updated item. -/
theorem hand_of_update {i j : ι} {s : DlqState ι} {id : String} {data : DlqItemUpdate}
    {item : DlqItem} {hand : Hand} (h : (s.update i id data item).hand j = some hand) :
    s.hand j = some hand ∧ (j = i → hand.id ≠ id) := by
  unfold DlqState.update at h
  dsimp only at h
  split at h
  · by_cases hji : j = i
    · simp [hji] at h
    · exact ⟨by simpa [hji] using h, fun heq => absurd heq hji⟩
  · next hne =>
    refine ⟨h, ?_⟩
    rintro rfl hid
    exact hne (by rw [h, Option.map_some, hid])

/-- What slot `i` has in hand after a step of slot `j`, it had before, or has just claimed. -/
theorem DlqEffect.hand_eq {i j : ι} {s s' : DlqState ι} {v : Ev} {id : String}
    (h : DlqEffect j s v s') (hand : (s'.hand i).map Hand.id = some id) :
    (s.hand i).map Hand.id = some id ∨
      i = j ∧ ∃ c, c.id = id ∧ v = ⟨.dlqItemUpdateMany c, .ok 1⟩ := by
  cases h with
  | none | create => exact Or.inl hand
  | @claim c item _ _ =>
    by_cases hij : i = j
    · refine Or.inr ⟨hij, c, ?_, rfl⟩
      simpa [DlqState.claim, hij] using hand
    · exact Or.inl (by simpa [DlqState.claim, hij] using hand)
  | update =>
    obtain ⟨hand, hhand, hid⟩ := Option.map_eq_some_iff.1 hand
    exact Or.inl (by rw [(hand_of_update hhand).1, Option.map_some, hid])
  | send =>
    by_cases hij : i = j
    · simp [DlqState.send, hij] at hand
    · exact Or.inl (by simpa [DlqState.send, hij] using hand)

/-! ### What may start -/

/-- What is started without a message. -/
inductive DlqJob
  | process (dto : ProcessingPayload)
  | add (item : DlqItemData)
  | retry (id : String)
  | skip (id : String)
  | resolve (id : String)
  | markRetryFailed (id error : String)
  | adminRetry (id : String)
  | adminRetryMany (params : RetryManyParams)
  | adminSkip (id : String)

/-- Run a program for its effects. -/
def forEffect {α : Type} (p : Prog α) : Prog Unit := do
  let _ ← p
  pure ()

def DlqJob.program (app : App) : DlqJob → Prog Unit
  | process dto => forEffect (ProcessingService.process app dto)
  | add item => DlqService.add app item
  | retry id => forEffect (DlqService.retry app id)
  | skip id => DlqService.skip id
  | resolve id => DlqService.resolve id
  | markRetryFailed id error => DlqService.markRetryFailed id error
  | adminRetry id => AdminService.retry app id
  | adminRetryMany params => forEffect (AdminService.retryMany app params)
  | adminSkip id => AdminService.skip id

/-- The item that a message names. -/
def namedItem (app : App) (raw : JsonText) : Option String :=
  match KafkaConsumerService.decode app (some raw) with
  | .ok (_, dlqItemId) => dlqItemId
  | .error _ => none

/-- What the handler of a message has in hand: the item that the message names, under the claim that
it was sent under. -/
def handOf (app : App) (raw : JsonText) (sent : Option Hand) : Option Hand :=
  (namedItem app raw).map fun id =>
    match sent with
    | some hand => if hand.id = id then hand else ⟨id, 0⟩
    | none => ⟨id, 0⟩

theorem handOf_id (app : App) (raw : JsonText) (sent : Option Hand) :
    (handOf app raw sent).map Hand.id = namedItem app raw := by
  unfold handOf
  cases namedItem app raw with
  | none => rfl
  | some id =>
    cases sent with
    | none => rfl
    | some hand =>
      by_cases hid : hand.id = id <;> simp [hid]

/-- A job, or the handler of a retry message, which may be delivered any number of times. -/
inductive DlqStart (app : App) : ι → DlqState ι → Prog Unit → DlqState ι → Prop
  | job {i s} (job : DlqJob) :
      DlqStart app i s (job.program app)
        { s with
          subject := Function.update s.subject i none
          hand := Function.update s.hand i none }
  | deliver {i s raw sent} (h : (raw, sent) ∈ s.topic) :
      DlqStart app i s (KafkaConsumerService.eachMessage app app.config.retryTopic (some raw))
        { s with
          subject := Function.update s.subject i (namedItem app raw)
          hand := Function.update s.hand i (handOf app raw sent) }

/-- Time passes. -/
inductive DlqTick : DlqState ι → DlqState ι → Prop
  | clock {s t} (h : s.clock ≤ t) : DlqTick s { s with clock := t }

def dlqSystem (ι : Type) [DecidableEq ι] (app : App) : System ι (DlqState ι) JsError Ans Unit where
  env := DlqEnv app.config.retryTopic
  start := DlqStart app
  tick := DlqTick

abbrev DlqPool (ι : Type) := Pool ι (DlqState ι) JsError Ans Unit
abbrev DlqEntry (ι : Type) := Entry ι (DlqState ι) JsError Ans Unit
abbrev DlqLabel (ι : Type) := Label ι Ans

/-! ### What a step does to one item -/

/-- A claim of the item is granted. -/
def ClaimOf (id : String) (c : DlqItemClaim) (l : DlqLabel ι) : Prop :=
  c.id = id ∧ ∃ i, l = .call i ⟨.dlqItemUpdateMany c, .ok 1⟩

/-- The item is updated. -/
def UpdateOf (id : String) (data : DlqItemUpdate) (l : DlqLabel ι) : Prop :=
  ∃ i, l = .call i ⟨.dlqItemUpdate id data, .ok ()⟩

/-- What a step with the label makes of an item. -/
inductive ItemStep (id : String) (item : DlqItem) : DlqLabel ι → DlqItem → Prop
  | stays {l} (hclaim : ∀ c, ¬ ClaimOf id c l) (hupdate : ∀ data, ¬ UpdateOf id data l) :
      ItemStep id item l item
  | claimed {l c} (hl : ClaimOf id c l) (hclaim : item.Claimable c) :
      ItemStep id item l (item.claimed c)
  | updated {l data} (hl : UpdateOf id data l) : ItemStep id item l (item.updated data)

variable {app : App} {p p' : DlqPool ι} {l : DlqLabel ι} {id : String} {item : DlqItem}

/-- An item stays in the table, and changes by claims and updates only. -/
theorem item_step (h : (dlqSystem ι app).Step p l p') (hitem : p.shared.items id = some item) :
    ∃ item', p'.shared.items id = some item' ∧ ItemStep id item l item' := by
  cases h with
  | @call i r k a x hi henv =>
    cases henv.effect with
    | none hclaim hupdate =>
      refine ⟨item, hitem, .stays ?_ ?_⟩
      · rintro c ⟨-, j, hl⟩
        cases hl
        exact hclaim c rfl
      · rintro data ⟨j, hl⟩
        cases hl
        exact hupdate id data rfl
    | @create id' data hid =>
      have hne : id ≠ id' := by
        rintro rfl
        rw [hid] at hitem
        cases hitem
      refine ⟨item, ?_, .stays ?_ ?_⟩
      · simpa [DlqState.create, hne] using hitem
      · rintro c ⟨-, j, ⟨⟩⟩
      · rintro data ⟨j, ⟨⟩⟩
    | @claim c item' hitem' hclaim =>
      by_cases hid : c.id = id
      · obtain rfl : item' = item := by
          rw [← hid] at hitem
          exact Option.some.inj (hitem'.symm.trans hitem)
        refine ⟨item'.claimed c, ?_, .claimed ⟨hid, i, rfl⟩ hclaim⟩
        simp [DlqState.claim, hid]
      · refine ⟨item, ?_, .stays ?_ ?_⟩
        · simpa [DlqState.claim, Ne.symm hid] using hitem
        · rintro c' ⟨hid', j, hl⟩
          cases hl
          exact hid hid'
        · rintro data ⟨j, ⟨⟩⟩
    | @update id' data item' hitem' =>
      by_cases hid : id' = id
      · subst hid
        obtain rfl : item' = item := Option.some.inj (hitem'.symm.trans hitem)
        refine ⟨item'.updated data, ?_, .updated ⟨i, rfl⟩⟩
        simp [DlqState.update]
      · refine ⟨item, ?_, .stays ?_ ?_⟩
        · simpa [DlqState.update, Ne.symm hid] using hitem
        · rintro c ⟨-, j, ⟨⟩⟩
        · rintro data' ⟨j, hl⟩
          cases hl
          exact hid rfl
    | send =>
      refine ⟨item, hitem, .stays ?_ ?_⟩
      · rintro c ⟨-, j, ⟨⟩⟩
      · rintro data ⟨j, ⟨⟩⟩
  | start hi hp =>
    refine ⟨item, ?_, .stays ?_ ?_⟩
    · cases hp <;> exact hitem
    · rintro c ⟨-, j, ⟨⟩⟩
    · rintro data ⟨j, ⟨⟩⟩
  | tick ht =>
    refine ⟨item, ?_, .stays ?_ ?_⟩
    · cases ht
      exact hitem
    · rintro c ⟨-, j, ⟨⟩⟩
    · rintro data ⟨j, ⟨⟩⟩

/-- Where an item comes from: from the same item before the step, or from a `create`. -/
theorem item_origin (h : (dlqSystem ι app).Step p l p') {item' : DlqItem}
    (hitem : p'.shared.items id = some item') :
    (∃ item, p.shared.items id = some item ∧ ItemStep id item l item') ∨
      ∃ i data, l = .call i ⟨.dlqItemCreate data, .ok ()⟩ ∧ p.shared.items id = none ∧
        item' = data.item id := by
  cases hbefore : p.shared.items id with
  | some item =>
    obtain ⟨item'', hitem'', hstep⟩ := item_step h hbefore
    obtain rfl : item'' = item' := Option.some.inj (hitem''.symm.trans hitem)
    exact Or.inl ⟨item, rfl, hstep⟩
  | none =>
    have hsame : p'.shared.items id = p.shared.items id → False := by
      intro heq
      rw [heq, hbefore] at hitem
      cases hitem
    cases h with
    | @call i r k a x hi henv =>
      cases henv.effect with
      | none | send => exact (hsame rfl).elim
      | @create id' data hid =>
        by_cases hne : id = id'
        · subst hne
          refine Or.inr ⟨i, data, rfl, rfl, ?_⟩
          simpa [DlqState.create, eq_comm] using hitem
        · exact (hsame (by simp [DlqState.create, hne])).elim
      | @claim c item hitem' _ =>
        by_cases hne : id = c.id
        · rw [hne, hitem'] at hbefore
          cases hbefore
        · exact (hsame (by simp [DlqState.claim, hne])).elim
      | @update id' data item hitem' =>
        by_cases hne : id = id'
        · rw [hne, hitem'] at hbefore
          cases hbefore
        · exact (hsame (by simp [DlqState.update, hne])).elim
    | start hi hp => cases hp <;> exact (hsame rfl).elim
    | tick ht =>
      cases ht
      exact (hsame rfl).elim

end IdmMw

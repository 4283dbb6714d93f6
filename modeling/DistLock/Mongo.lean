import DistLock.Basic

namespace DistLock.Mongo

/-- The documents of the `locks` collection whose `name` is the lock name, in natural order. -/
abbrev Collection := List LockRecord

/-- MongoDB refuses `Lock`'s update, which sets the same fields in `$setOnInsert` and `$set`. -/
def upsertError : String :=
  "write exception: write errors: [Updating the path 'ownerID' would create a conflict at 'ownerID']"

def upsertLock (_docs : Collection) (_ownerID : String) (_expiredAt : Nat) :
    Except String (Nat × Collection) :=
  .error upsertError

/-- `UpdateOne({name}, {$set: {expiredAt}})`: the first document for the name, whoever owns it. -/
def setExpiry (docs : Collection) (expiredAt : Nat) : Collection :=
  match docs with
  | [] => []
  | doc :: rest => { doc with expiredAt := expiredAt } :: rest

def lock (l : Locker) (now : Nat) (docs : Collection) (fault : Option String) : Reply Collection :=
  match fault with
  | some e => { result := .error ("failed to acquire lock: " ++ e), store := docs }
  | none => match upsertLock docs l.ownerID (now + l.lockTimeout) with
    | .error e => { result := .error ("failed to acquire lock: " ++ e), store := docs }
    | .ok (matched, docs') =>
      if matched = 0 then
        { result := .error "lock is already held by another owner", store := docs' }
      else { result := .ok (), store := docs', renews := true }

def renew (l : Locker) (now : Nat) (docs : Collection) (fault : Option String) : Reply Collection :=
  match fault with
  | some e => { result := .error ("failed to renew lock: " ++ e), store := docs }
  | none => { result := .ok (), store := setExpiry docs (now + l.lockTimeout) }

/-- `Unlock`: `DeleteOne({name})`, the first document for the name, whoever owns it. -/
def unlock (docs : Collection) (fault : Option String) : Reply Collection :=
  match fault with
  | some e => { result := .error ("failed to release lock: " ++ e), store := docs }
  | none => { result := .ok (), store := docs.tail }

def afterUnlock (l : Locker) (r : Reply Collection) : Locker :=
  if r.ok then { l with ownerID := "" } else l

theorem lock_renews (l : Locker) (now : Nat) (docs : Collection) (fault : Option String) :
    (lock l now docs fault).renews = (lock l now docs fault).ok := by
  unfold lock
  repeat' split
  all_goals rfl

theorem unlock_deletes_first_doc (doc : LockRecord) (rest : Collection) :
    (unlock (doc :: rest) none).ok ∧ (unlock (doc :: rest) none).store = rest :=
  ⟨rfl, rfl⟩

theorem renew_by_name (l : Locker) (now : Nat) (doc : LockRecord) (rest : Collection) :
    (renew l now (doc :: rest) none).ok ∧
      (renew l now (doc :: rest) none).store = ⟨doc.ownerID, now + l.lockTimeout⟩ :: rest :=
  ⟨rfl, rfl⟩

theorem renew_ok_of_empty (l : Locker) (now : Nat) :
    (renew l now [] none).ok ∧ (renew l now [] none).store = [] :=
  ⟨rfl, rfl⟩

theorem mongo_lock_fails_on_empty_collection :
    (lock ⟨"A", 10000000000⟩ 0 [] none).result =
        .error ("failed to acquire lock: " ++ upsertError) ∧
      (lock ⟨"A", 10000000000⟩ 0 [] none).store = [] :=
  ⟨rfl, rfl⟩

end DistLock.Mongo

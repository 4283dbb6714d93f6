import DistLock.Basic

namespace DistLock.Consul

structure Session where
  id : String
  ttl : Nat
  expiresAt : Nat
  deriving DecidableEq, Repr

/-- The value under `lockKey` (a plain `KV().Put` binds no session to it) and the sessions. -/
structure Backend where
  key : Option String
  sessions : List Session
  deriving DecidableEq, Repr

def Backend.session? (b : Backend) (id : String) (now : Nat) : Option Session :=
  b.sessions.find? fun s => s.id = id ∧ now < s.expiresAt

/-- Consul takes session TTLs from 10s to 24h. -/
def ttlValid (ttl : Nat) : Bool :=
  10 * 1000000000 ≤ ttl && ttl ≤ 86400 * 1000000000

def createSession (b : Backend) (now : Nat) (id : String) (ttl : Nat) : Except String Backend :=
  if ttlValid ttl then .ok { b with sessions := ⟨id, ttl, now + ttl⟩ :: b.sessions }
  else .error "Unexpected response code: 500 (Invalid Session TTL)"

/-- `Session().Renew(id)`: the client returns no error when the server answers 404. -/
def renewSession (b : Backend) (now : Nat) (id : String) : Backend :=
  { b with sessions := b.sessions.map fun s =>
      if s.id = id ∧ now < s.expiresAt then { s with expiresAt := now + s.ttl } else s }

structure Faults where
  first : Option String := none
  second : Option String := none

/-- `Lock`: create a session, then a plain `KV().Put` of the owner ID, whatever the key holds. -/
def lock (l : Locker) (now : Nat) (sessionID : String) (b : Backend) (f : Faults) : Reply Backend :=
  let created : Except String Backend := match f.first with
    | some e => .error e
    | none => createSession b now sessionID l.lockTimeout
  match created with
  | .error e => { result := .error ("failed to create session: " ++ e), store := b }
  | .ok b => match f.second with
    | some e => { result := .error ("failed to acquire lock: " ++ e), store := b }
    | none => { result := .ok (), store := { b with key := some l.ownerID }, renews := true }

def unlock (b : Backend) (fault : Option String) : Reply Backend :=
  match fault with
  | some e => { result := .error ("failed to release lock: " ++ e), store := b }
  | none => { result := .ok (), store := { b with key := none } }

/-- `Renew`: renews the session whose ID is the owner ID, not the one `Lock` created. -/
def renew (l : Locker) (now : Nat) (b : Backend) (fault : Option String) : Reply Backend :=
  match fault with
  | some e => { result := .error ("failed to renew lock: " ++ e), store := b }
  | none => { result := .ok (), store := renewSession b now l.ownerID }

theorem lock_renews (l : Locker) (now : Nat) (sessionID : String) (b : Backend) (f : Faults) :
    (lock l now sessionID b f).renews = (lock l now sessionID b f).ok := by
  dsimp only [lock]
  repeat' split
  all_goals rfl

theorem unlock_deletes_any_key (b : Backend) :
    (unlock b none).ok ∧ (unlock b none).store.key = none :=
  ⟨rfl, rfl⟩

theorem renew_ok_any (l : Locker) (now : Nat) (b : Backend) :
    (renew l now b none).ok ∧ (renew l now b none).store.key = b.key :=
  ⟨rfl, rfl⟩

/-- At 1s `B`'s `Lock` returns nil and replaces the owner ID `A` wrote at 0 with a 10s timeout. -/
theorem consul_lock_overwrites_held_key :
    (Consul.lock ⟨"A", 10000000000⟩ 0 "session-a" ⟨none, []⟩ {}).ok ∧
      (Consul.lock ⟨"A", 10000000000⟩ 0 "session-a" ⟨none, []⟩ {}).store.key = some "A" ∧
      (Consul.lock ⟨"B", 10000000000⟩ 1000000000 "session-b"
        (Consul.lock ⟨"A", 10000000000⟩ 0 "session-a" ⟨none, []⟩ {}).store {}).ok ∧
      (Consul.lock ⟨"B", 10000000000⟩ 1000000000 "session-b"
        (Consul.lock ⟨"A", 10000000000⟩ 0 "session-a" ⟨none, []⟩ {}).store {}).store.key =
          some "B" := by
  decide

end DistLock.Consul

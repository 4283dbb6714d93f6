import DistLock.Basic

namespace DistLock.Etcd

structure Lease where
  id : Nat
  ttl : Nat
  expiresAt : Nat
  deriving DecidableEq, Repr

/-- The key `lockKey` with its lease, the leases, the next lease ID, and the minimum lease TTL. -/
structure Backend where
  key : Option (String × Nat)
  leases : List Lease
  nextLease : Nat
  minTTL : Nat
  deriving DecidableEq, Repr

def errLeaseNotFound : String := "etcdserver: requested lease not found"

def Backend.lease? (b : Backend) (id now : Nat) : Option Lease :=
  b.leases.find? fun ls => ls.id = id ∧ now < ls.expiresAt

def Backend.liveKey (b : Backend) (now : Nat) : Option (String × Nat) :=
  b.key.filter fun k => (b.lease? k.2 now).isSome

def Backend.grantedTTL (b : Backend) (ttl : Nat) : Nat := max ttl b.minTTL

def grant (b : Backend) (now ttl : Nat) : Nat × Backend :=
  (b.nextLease,
    { b with leases := ⟨b.nextLease, b.grantedTTL ttl, now + b.grantedTTL ttl⟩ :: b.leases,
             nextLease := b.nextLease + 1 })

def put (b : Backend) (now : Nat) (value : String) (id : Nat) : Except String Backend :=
  match b.lease? id now with
  | some _ => .ok { b with key := some (value, id) }
  | none => .error errLeaseNotFound

def revoke (b : Backend) (now id : Nat) : Except String Backend :=
  match b.lease? id now with
  | some _ => .ok { b with leases := b.leases.filter (·.id ≠ id), key := b.key.filter (·.2 ≠ id) }
  | none => .error errLeaseNotFound

def keepAliveOnce (b : Backend) (now id : Nat) : Except String Backend :=
  match b.lease? id now with
  | some _ => .ok { b with leases := b.leases.map fun ls =>
      if ls.id = id then { ls with expiresAt := now + ls.ttl } else ls }
  | none => .error errLeaseNotFound

theorem keepAliveOnce_frame {b b' : Backend} {now id : Nat} (ok : keepAliveOnce b now id = .ok b') :
    b'.key = b.key ∧ ∀ ls ∈ b.leases, ls.id ≠ id → ls ∈ b'.leases := by
  unfold keepAliveOnce at ok
  split at ok
  · cases ok
    exact ⟨rfl, fun ls mem other => List.mem_map.mpr ⟨ls, mem, by simp [other]⟩⟩
  · cases ok

/-- `int64(l.lockTimeout.Seconds())` seconds, in nanoseconds. -/
def leaseTTL (lockTimeout : Nat) : Nat := lockTimeout / 1000000000 * 1000000000

structure Faults where
  first : Option String := none
  second : Option String := none

/-- `Lock`: `Grant`, `l.leaseID = leaseResp.ID`, then a `Put` with no guard on the key. -/
def lock (l : Locker) (leaseID now : Nat) (b : Backend) (f : Faults) : Reply Backend × Nat :=
  match f.first with
  | some e => ({ result := .error e, store := b }, leaseID)
  | none =>
    let (id, b) := grant b now (leaseTTL l.lockTimeout)
    match f.second with
    | some e => ({ result := .error ("failed to acquire lock: " ++ e), store := b }, id)
    | none => match put b now l.ownerID id with
      | .error e => ({ result := .error ("failed to acquire lock: " ++ e), store := b }, id)
      | .ok b => ({ result := .ok (), store := b, renews := true }, id)

def unlock (leaseID now : Nat) (b : Backend) (f : Faults) : Reply Backend :=
  match f.first with
  | some e => { result := .error e, store := b }
  | none =>
    let b := { b with key := none }
    match f.second with
    | some e => { result := .error ("failed to revoke lease: " ++ e), store := b }
    | none => match revoke b now leaseID with
      | .error e => { result := .error ("failed to revoke lease: " ++ e), store := b }
      | .ok b => { result := .ok (), store := b }

def renew (leaseID now : Nat) (b : Backend) (fault : Option String) : Reply Backend :=
  match fault with
  | some e => { result := .error e, store := b }
  | none => match keepAliveOnce b now leaseID with
    | .error e => { result := .error e, store := b }
    | .ok b => { result := .ok (), store := b }

theorem lock_renews (l : Locker) (leaseID now : Nat) (b : Backend) (f : Faults) :
    (lock l leaseID now b f).1.renews = (lock l leaseID now b f).1.ok := by
  unfold lock
  repeat' split
  all_goals rfl

theorem lock_ok {l : Locker} {leaseID now : Nat} {b : Backend} {f : Faults}
    (ok : (lock l leaseID now b f).1.ok) :
    (lock l leaseID now b f).2 = b.nextLease ∧
      (lock l leaseID now b f).1.store =
        { b with key := some (l.ownerID, b.nextLease), nextLease := b.nextLease + 1,
                 leases := ⟨b.nextLease, b.grantedTTL (leaseTTL l.lockTimeout),
                   now + b.grantedTTL (leaseTTL l.lockTimeout)⟩ :: b.leases } := by
  rcases f with ⟨_ | e₁, _ | e₂⟩ <;> simp only [lock, grant, Reply.ok] at ok ⊢
  all_goals try simp at ok
  cases granted : put { b with leases := ⟨b.nextLease, b.grantedTTL (leaseTTL l.lockTimeout),
      now + b.grantedTTL (leaseTTL l.lockTimeout)⟩ :: b.leases, nextLease := b.nextLease + 1 }
      now l.ownerID b.nextLease with
  | error e => simp [granted] at ok
  | ok b' =>
    simp only [granted, true_and]
    unfold put at granted
    split at granted <;> cases granted
    rfl

theorem lease?_head {b : Backend} {id ttl e now : Nat} {rest : List Lease}
    (leases : b.leases = ⟨id, ttl, e⟩ :: rest) (lt : now < e) :
    b.lease? id now = some ⟨id, ttl, e⟩ := by
  simp [Backend.lease?, leases, lt]

theorem liveKey_of_head {b : Backend} {id ttl e now : Nat} {rest : List Lease} {owner : String}
    (leases : b.leases = ⟨id, ttl, e⟩ :: rest) (lt : now < e) (key : b.key = some (owner, id)) :
    b.liveKey now = some (owner, id) := by
  simp [Backend.liveKey, key, lease?_head leases lt]

theorem renew_head {b : Backend} {id ttl e now : Nat} {rest : List Lease}
    (leases : b.leases = ⟨id, ttl, e⟩ :: rest) (lt : now < e) :
    (∃ rest', (renew id now b none).store.leases = ⟨id, ttl, now + ttl⟩ :: rest') ∧
      (renew id now b none).store.key = b.key := by
  simp [renew, keepAliveOnce, lease?_head leases lt, leases]

theorem unlock_deletes_any_key (leaseID now : Nat) (b : Backend) (second : Option String) :
    (unlock leaseID now b ⟨none, second⟩).store.key = none := by
  cases second with
  | some e => rfl
  | none =>
    simp only [unlock]
    cases revoked : revoke { b with key := none } now leaseID with
    | error e => rfl
    | ok b' =>
      unfold revoke at revoked
      split at revoked <;> cases revoked
      rfl

theorem renew_ok_iff (leaseID now : Nat) (b : Backend) :
    (renew leaseID now b none).ok ↔ (b.lease? leaseID now).isSome := by
  cases alive : b.lease? leaseID now <;> simp [renew, keepAliveOnce, alive, Reply.ok]

inductive Call where
  | lock (now : Nat) (f : Faults)
  | renew (now : Nat) (fault : Option String)
  | unlock (now : Nat) (f : Faults)

/-- One instance and the server: `l.leaseID`, and whether its latest `Lock` returned nil with no
`Unlock` since. -/
structure Instance where
  leaseID : Nat
  backend : Backend
  held : Bool

def Instance.call (l : Locker) (s : Instance) : Call → Instance
  | .lock now f =>
    let r := lock l s.leaseID now s.backend f
    ⟨r.2, r.1.store, r.1.ok⟩
  | .renew now fault => { s with backend := (renew s.leaseID now s.backend fault).store }
  | .unlock now f => ⟨s.leaseID, (unlock s.leaseID now s.backend f).store, false⟩

def Instance.run (l : Locker) (s : Instance) (calls : List Call) : Instance :=
  calls.foldl (Instance.call l) s

/-- `A`'s second `Lock` is granted lease 2 and its `Put` fails: `l.leaseID` is 2, the key is on
lease 1. -/
theorem etcd_failed_lock_moves_leaseID :
    (Etcd.lock ⟨"A", 10000000000⟩ 0 0 ⟨none, [], 1, 0⟩ {}).1.ok ∧
      (Etcd.lock ⟨"A", 10000000000⟩ 0 0 ⟨none, [], 1, 0⟩ {}).2 = 1 ∧
      (Etcd.lock ⟨"A", 10000000000⟩ 1 1000000000
        (Etcd.lock ⟨"A", 10000000000⟩ 0 0 ⟨none, [], 1, 0⟩ {}).1.store
        ⟨none, some "connection reset"⟩).1.ok = false ∧
      (Etcd.lock ⟨"A", 10000000000⟩ 1 1000000000
        (Etcd.lock ⟨"A", 10000000000⟩ 0 0 ⟨none, [], 1, 0⟩ {}).1.store
        ⟨none, some "connection reset"⟩).2 = 2 ∧
      (Etcd.lock ⟨"A", 10000000000⟩ 1 1000000000
        (Etcd.lock ⟨"A", 10000000000⟩ 0 0 ⟨none, [], 1, 0⟩ {}).1.store
        ⟨none, some "connection reset"⟩).1.store.key = some ("A", 1) := by
  decide

/-- At 1s `B`'s `Lock` rebinds the key `A` bound at 0 to a live lease. -/
theorem etcd_lock_overwrites_live_key :
    (Etcd.lock ⟨"A", 10000000000⟩ 0 0 ⟨none, [], 1, 2000000000⟩ {}).1.ok ∧
      (Etcd.lock ⟨"A", 10000000000⟩ 0 0 ⟨none, [], 1, 2000000000⟩ {}).1.store.liveKey
        1000000000 = some ("A", 1) ∧
      (Etcd.lock ⟨"B", 10000000000⟩ 0 1000000000
        (Etcd.lock ⟨"A", 10000000000⟩ 0 0 ⟨none, [], 1, 2000000000⟩ {}).1.store {}).1.ok ∧
      ((Etcd.lock ⟨"B", 10000000000⟩ 0 1000000000
        (Etcd.lock ⟨"A", 10000000000⟩ 0 0 ⟨none, [], 1, 2000000000⟩ {}).1.store {}).1.store.lease?
          1 1000000000).isSome ∧
      (Etcd.lock ⟨"B", 10000000000⟩ 0 1000000000
        (Etcd.lock ⟨"A", 10000000000⟩ 0 0 ⟨none, [], 1, 2000000000⟩ {}).1.store {}).1.store.liveKey
          1000000000 = some ("B", 2) := by
  decide

end DistLock.Etcd

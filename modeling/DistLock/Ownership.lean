import DistLock.Gorm
import DistLock.Redis
import DistLock.Memcached
import DistLock.Mongo
import DistLock.Etcd
import DistLock.Consul
import DistLock.Zookeeper

namespace DistLock.Ownership

/-- The calls addressed to the instance's own node, lease or session leave other records alone. -/
structure AddressedToOwn : Prop where
  zookeeperUnlock : ∀ lockPath (l : Locker) nodes fault owner, owner ≠ l.ownerID →
    Zookeeper.lockNode lockPath owner ∈ nodes →
    Zookeeper.lockNode lockPath owner ∈ (Zookeeper.unlock lockPath l nodes fault).store
  etcdRenew : ∀ leaseID now b fault, (Etcd.renew leaseID now b fault).store.key = b.key ∧
    ∀ ls ∈ b.leases, ls.id ≠ leaseID → ls ∈ (Etcd.renew leaseID now b fault).store.leases
  consulRenew : ∀ (l : Locker) now b fault, (Consul.renew l now b fault).store.key = b.key ∧
    ∀ s ∈ b.sessions, s.id ≠ l.ownerID → s ∈ (Consul.renew l now b fault).store.sessions
  memcachedRenew : ∀ (l : Locker) now s fault, l.lockTimeout / 1000000000 ≤ 2592000 →
    (Memcached.renew l now s fault).ok →
    (Memcached.live (Memcached.renew l now s fault).store now).map (·.value) = some l.ownerID

/-- The calls that act on the record for the lock name, whoever owns it. -/
structure ActsByName : Prop where
  gormUnlock : ∀ row, (Gorm.unlock row .none).ok ∧ (Gorm.unlock row .none).store = none
  redisUnlock : ∀ key, (Redis.unlock key none).ok ∧ (Redis.unlock key none).store = none
  memcachedUnlock : ∀ now item, Memcached.live (some item) now = some item →
    (Memcached.unlock now (some item) none).ok ∧ (Memcached.unlock now (some item) none).store = none
  mongoUnlock : ∀ doc rest,
    (Mongo.unlock (doc :: rest) none).ok ∧ (Mongo.unlock (doc :: rest) none).store = rest
  etcdUnlock : ∀ leaseID now b second, (Etcd.unlock leaseID now b ⟨none, second⟩).store.key = none
  consulUnlock : ∀ b, (Consul.unlock b none).ok ∧ (Consul.unlock b none).store.key = none
  gormRenew : ∀ dialect (l : Locker) now lock, (Gorm.renew dialect l now (some lock) .none).ok ∧
    (Gorm.renew dialect l now (some lock) .none).store =
      some ⟨lock.ownerID, dialect.storedTime (now + l.lockTimeout)⟩
  redisRenew : ∀ (l : Locker) now (k : Item), k.expiresAt.all (now < ·) → 0 < l.lockTimeout →
    (Redis.renew l now (some k) none).store =
      some { k with expiresAt := some (now + Redis.formatSec l.lockTimeout * 1000000000) }
  memcachedRenew : ∀ (l : Locker) now item, Memcached.live (some item) now = some item →
    (Memcached.renew l now (some item) none).ok ∧
      (Memcached.renew l now (some item) none).store = some (Memcached.lockItem l now)
  mongoRenew : ∀ (l : Locker) now doc rest, (Mongo.renew l now (doc :: rest) none).ok ∧
    (Mongo.renew l now (doc :: rest) none).store = ⟨doc.ownerID, now + l.lockTimeout⟩ :: rest

/-- The `Renew`s that return nil with no live record of the caller. -/
structure NilWithoutRecord : Prop where
  gorm : ∀ dialect (l : Locker) now,
    (Gorm.renew dialect l now none .none).ok ∧ (Gorm.renew dialect l now none .none).store = none
  redis : ∀ (l : Locker) now key, Redis.live key now = none →
    (Redis.renew l now key none).ok ∧ (Redis.renew l now key none).store = key
  mongo : ∀ (l : Locker) now, (Mongo.renew l now [] none).ok ∧ (Mongo.renew l now [] none).store = []
  etcd : ∀ leaseID now b, (Etcd.renew leaseID now b none).ok ↔ (b.lease? leaseID now).isSome
  consul : ∀ (l : Locker) now b,
    (Consul.renew l now b none).ok ∧ (Consul.renew l now b none).store.key = b.key

theorem etcd_renew_keeps_others (leaseID now : Nat) (b : Etcd.Backend) (fault : Option String) :
    (Etcd.renew leaseID now b fault).store.key = b.key ∧
      ∀ ls ∈ b.leases, ls.id ≠ leaseID → ls ∈ (Etcd.renew leaseID now b fault).store.leases := by
  cases fault with
  | some e => exact ⟨rfl, fun _ mem _ => mem⟩
  | none =>
    cases ok : Etcd.keepAliveOnce b now leaseID with
    | error e => simpa [Etcd.renew, ok] using fun _ mem _ => mem
    | ok b' => simp only [Etcd.renew, ok]; exact Etcd.keepAliveOnce_frame ok

theorem consul_renew_keeps_others (l : Locker) (now : Nat) (b : Consul.Backend)
    (fault : Option String) :
    (Consul.renew l now b fault).store.key = b.key ∧
      ∀ s ∈ b.sessions, s.id ≠ l.ownerID → s ∈ (Consul.renew l now b fault).store.sessions := by
  cases fault with
  | some e => exact ⟨rfl, fun _ mem _ => mem⟩
  | none => exact ⟨rfl, fun s mem other => List.mem_map.mpr ⟨s, mem, by simp [other]⟩⟩

theorem memcached_renew_owned {l : Locker} {now : Nat} {s : Memcached.Store}
    {fault : Option String} (bound : l.lockTimeout / 1000000000 ≤ 2592000)
    (ok : (Memcached.renew l now s fault).ok) :
    (Memcached.live (Memcached.renew l now s fault).store now).map (·.value) = some l.ownerID := by
  rw [Memcached.renew_ok_store ok, Memcached.lockItem_live l now bound]
  rfl

/-- What holds of the ownership law, and where each adapter breaks it. -/
theorem renew_unlock_ownership : AddressedToOwn ∧ ActsByName ∧ NilWithoutRecord :=
  ⟨⟨fun lockPath l nodes fault _ other mem =>
      Zookeeper.unlock_keeps_other lockPath l nodes fault other mem,
    etcd_renew_keeps_others, consul_renew_keeps_others,
    fun _ _ _ _ bound ok => memcached_renew_owned bound ok⟩,
   ⟨Gorm.unlock_deletes_any_row, Redis.unlock_deletes_any_key,
    fun _ _ live => Memcached.unlock_deletes_any_item live, Mongo.unlock_deletes_first_doc,
    Etcd.unlock_deletes_any_key, Consul.unlock_deletes_any_key,
    fun dialect l now lock => Gorm.renew_by_name dialect l now (some lock),
    fun l _ _ alive pos => Redis.renew_store_of_live l alive pos,
    fun l _ _ live => Memcached.renew_replaces_any_item l live,
    Mongo.renew_by_name⟩,
   ⟨fun dialect l now => Gorm.renew_by_name dialect l now none,
    fun l _ _ gone => Redis.renew_ok_of_missing l gone,
    Mongo.renew_ok_of_empty, Etcd.renew_ok_iff, Consul.renew_ok_any⟩⟩

theorem gorm_renew_rewrites_other_row :
    (Gorm.renew .mysql ⟨"A", 10000000000⟩ 5000000000 (some ⟨"B", 20000000000⟩) .none).ok ∧
      (Gorm.renew .mysql ⟨"A", 10000000000⟩ 5000000000 (some ⟨"B", 20000000000⟩) .none).store =
        some ⟨"B", 15000000000⟩ := by
  decide

end DistLock.Ownership

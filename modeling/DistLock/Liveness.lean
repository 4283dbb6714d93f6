import DistLock.Redis
import DistLock.Etcd

namespace DistLock.Liveness

def ctxError : String := "context canceled"

def ctxFault (done : Option Nat) (t : Nat) : Option String :=
  if done.any (· ≤ t) then some ctxError else none

theorem ctxFault_live {done : Option Nat} {t : Nat} (live : done.all (t < ·)) :
    ctxFault done t = none := by
  cases done <;> simp_all [ctxFault]

/-- The backend after the renewal goroutine's first `n` ticks, at `t0 + d`, ..., `t0 + n * d`. -/
def renewals {β : Type} (renew : Nat → β → β) (t0 d : Nat) : Nat → β → β
  | 0, b => b
  | n + 1, b => renew (t0 + (n + 1) * d) (renewals renew t0 d n b)

def ticks (t0 d t : Nat) : Nat := (t - t0) / d

/-- The key at `t` of a `RedisLocker` whose `Lock` at `t0` ran with a context done from `done`. -/
def redisKeyAt (l : Locker) (done : Option Nat) (t0 : Nat) (key : Redis.Key) (t : Nat) :
    Redis.Key :=
  let r := Redis.lock l t0 key (ctxFault done t0) (ctxFault done t0)
  if r.renews then
    renewals (fun s key => (Redis.renew l s key (ctxFault done s)).store) t0 (l.lockTimeout / 2)
      (ticks t0 (l.lockTimeout / 2) t) r.store
  else r.store

/-- The backend at `t` of an `EtcdLocker` whose `Lock` at `t0` ran with a context done from `done`. -/
def etcdAt (l : Locker) (leaseID : Nat) (done : Option Nat) (t0 : Nat) (b : Etcd.Backend)
    (t : Nat) : Etcd.Backend :=
  let locked := Etcd.lock l leaseID t0 b ⟨ctxFault done t0, ctxFault done t0⟩
  renewals (fun s b => (Etcd.renew locked.2 s b (ctxFault done s)).store) t0 (l.lockTimeout / 2)
    (ticks t0 (l.lockTimeout / 2) t) locked.1.store

theorem ctx_live_of_le {done : Option Nat} {s t : Nat} (live : done.all (t < ·)) (le : s ≤ t) :
    done.all (s < ·) := by
  cases done <;> simp_all
  omega

theorem next_tick_before {t0 n d ttl : Nat} (short : d < ttl) :
    t0 + (n + 1) * d < t0 + n * d + ttl := by
  rw [Nat.succ_mul]
  omega

theorem tick_le {t0 d t n : Nat} (le : n ≤ ticks t0 d t) (after : t0 ≤ t) : t0 + n * d ≤ t := by
  have := Nat.mul_le_mul_right d le
  have := Nat.div_mul_le_self (t - t0) d
  unfold ticks at *
  omega

theorem before_lapse {t0 t d ttl : Nat} (pos : 0 < d) (short : d ≤ ttl) (after : t0 ≤ t) :
    t < t0 + ticks t0 d t * d + ttl := by
  have split := Nat.div_add_mod (t - t0) d
  have rem := Nat.mod_lt (t - t0) pos
  rw [ticks, Nat.mul_comm]
  omega

/-- The run lemma of the renewal goroutine. -/
theorem renewals_invariant {β : Type} {renew : Nat → β → β} {t0 d N : Nat} {b : β}
    (P : Nat → β → Prop) (init : P 0 b)
    (step : ∀ n b, n < N → P n b → P (n + 1) (renew (t0 + (n + 1) * d) b)) (n : Nat)
    (le : n ≤ N) : P n (renewals renew t0 d n b) := by
  induction n with
  | zero => exact init
  | succ n ih => exact step n _ le (ih (Nat.le_of_succ_le le))

section

variable {l : Locker} {done : Option Nat} {t0 t : Nat}

theorem redisKeyAt_live (key : Redis.Key) (pos : 0 < l.lockTimeout / 2)
    (renews : (Redis.lock l t0 key (ctxFault done t0) (ctxFault done t0)).renews)
    (live : done.all (t < ·)) (after : t0 ≤ t) :
    ∃ e, redisKeyAt l done t0 key t = some ⟨l.ownerID, some e⟩ ∧
      t0 + (ticks t0 (l.lockTimeout / 2) t + 1) * (l.lockTimeout / 2) < e := by
  have timeout : 0 < l.lockTimeout := by omega
  obtain ⟨ttl, set, long⟩ := Redis.setNXTtl_pos timeout
  have locked := (Redis.lock_renews_store renews).2
  rw [set] at locked
  simp only [redisKeyAt, renews, if_true]
  refine renewals_invariant
    (fun n (key : Redis.Key) => ∃ e, key = some ⟨l.ownerID, some e⟩ ∧
      t0 + (n + 1) * (l.lockTimeout / 2) < e)
    ⟨t0 + ttl, locked, by omega⟩ (fun n key tick ⟨e, held, lapse⟩ => ?_) _ (Nat.le_refl _)
  have expire := Redis.half_lt_formatSec timeout
  rw [ctxFault_live (ctx_live_of_le live (tick_le tick after)), held,
    Redis.renew_store_of_live l (by simpa using lapse) timeout]
  exact ⟨_, rfl, by rw [Nat.succ_mul (n + 1)]; omega⟩

theorem etcdAt_eq (leaseID : Nat) (b : Etcd.Backend)
    (short : l.lockTimeout / 2 < b.grantedTTL (Etcd.leaseTTL l.lockTimeout))
    (ok : (Etcd.lock l leaseID t0 b ⟨ctxFault done t0, ctxFault done t0⟩).1.ok)
    (live : done.all (t < ·)) (after : t0 ≤ t) :
    (∃ rest, (etcdAt l leaseID done t0 b t).leases =
      ⟨b.nextLease, b.grantedTTL (Etcd.leaseTTL l.lockTimeout),
        t0 + ticks t0 (l.lockTimeout / 2) t * (l.lockTimeout / 2) +
          b.grantedTTL (Etcd.leaseTTL l.lockTimeout)⟩ :: rest) ∧
      (etcdAt l leaseID done t0 b t).key = some (l.ownerID, b.nextLease) := by
  obtain ⟨id, locked⟩ := Etcd.lock_ok ok
  simp only [etcdAt, id, locked]
  refine renewals_invariant (fun n (b' : Etcd.Backend) =>
      (∃ rest, b'.leases = ⟨b.nextLease, b.grantedTTL (Etcd.leaseTTL l.lockTimeout),
        t0 + n * (l.lockTimeout / 2) + b.grantedTTL (Etcd.leaseTTL l.lockTimeout)⟩ :: rest) ∧
      b'.key = some (l.ownerID, b.nextLease)) ⟨⟨b.leases, by simp⟩, rfl⟩
    (fun n b' tick ⟨⟨rest, leases⟩, key⟩ => ?_) _ (Nat.le_refl _)
  rw [ctxFault_live (ctx_live_of_le live (tick_le tick after))]
  obtain ⟨renewed, same⟩ := Etcd.renew_head leases (next_tick_before short)
  exact ⟨renewed, same.trans key⟩

/-- While the context lives, the renewal keeps a `RedisLocker`'s key live and naming its owner. -/
theorem redis_lease_maintained_while_ctx_live (key : Redis.Key) (pos : 0 < l.lockTimeout / 2)
    (renews : (Redis.lock l t0 key (ctxFault done t0) (ctxFault done t0)).renews)
    (live : done.all (t < ·)) (after : t0 ≤ t) :
    (Redis.live (redisKeyAt l done t0 key t) t).map Item.value = some l.ownerID := by
  obtain ⟨e, held, lapse⟩ := redisKeyAt_live key pos renews live after
  have := before_lapse pos (Nat.le_refl _) after
  rw [held, Redis.live_of_lt _ (show t < e by rw [Nat.succ_mul] at lapse; omega)]
  rfl

/-- A 10s lock taken at 0 with a context done at 20s still holds the key at 15s. -/
theorem redis_lease_maintained_at_15s :
    (Redis.live (redisKeyAt ⟨"A", 10000000000⟩ (some 20000000000) 0 none 15000000000)
      15000000000).map Item.value = some "A" :=
  redis_lease_maintained_while_ctx_live none (by decide) (by decide) (by decide) (by decide)

/-- While the context lives, the renewal keeps an `EtcdLocker`'s key bound to a live lease. -/
theorem etcd_lease_maintained_while_ctx_live (leaseID : Nat) (b : Etcd.Backend)
    (pos : 0 < l.lockTimeout / 2)
    (short : l.lockTimeout / 2 < b.grantedTTL (Etcd.leaseTTL l.lockTimeout))
    (ok : (Etcd.lock l leaseID t0 b ⟨ctxFault done t0, ctxFault done t0⟩).1.ok)
    (live : done.all (t < ·)) (after : t0 ≤ t) :
    ((etcdAt l leaseID done t0 b t).liveKey t).map Prod.fst = some l.ownerID := by
  obtain ⟨⟨rest, leases⟩, key⟩ := etcdAt_eq leaseID b short ok live after
  rw [Etcd.liveKey_of_head leases (before_lapse pos (Nat.le_of_lt short) after) key]
  rfl

theorem etcd_lease_maintained_at_15s :
    ((etcdAt ⟨"A", 10000000000⟩ 0 (some 20000000000) 0 ⟨none, [], 1, 0⟩ 15000000000).liveKey
      15000000000).map Prod.fst = some "A" :=
  etcd_lease_maintained_while_ctx_live 0 ⟨none, [], 1, 0⟩ (by decide) (by decide) (by decide)
    (by decide) (by decide)

end

def RedisLeaseMaintained : Prop :=
  ∀ (l : Locker) (done : Option Nat) (t0 : Nat) (key : Redis.Key) (t : Nat),
    (Redis.lock l t0 key (ctxFault done t0) (ctxFault done t0)).ok → t0 ≤ t →
      (Redis.live (redisKeyAt l done t0 key t) t).map Item.value = some l.ownerID

def EtcdLeaseMaintained : Prop :=
  ∀ (l : Locker) (leaseID : Nat) (done : Option Nat) (t0 : Nat) (b : Etcd.Backend) (t : Nat),
    (Etcd.lock l leaseID t0 b ⟨ctxFault done t0, ctxFault done t0⟩).1.ok → t0 ≤ t →
      ((etcdAt l leaseID done t0 b t).liveKey t).map Prod.fst = some l.ownerID

/-- With a context done at 1s, the renewals at 5s and 10s fail and the key expires at 10s. -/
theorem lease_lapses_after_ctx_done : ¬ RedisLeaseMaintained ∧ ¬ EtcdLeaseMaintained :=
  ⟨fun maintained =>
    absurd (maintained ⟨"A", 10000000000⟩ (some 1000000000) 0 none 10000000000 (by decide)
      (by decide)) (by decide),
   fun maintained =>
    absurd (maintained ⟨"A", 10000000000⟩ 0 (some 1000000000) 0 ⟨none, [], 1, 0⟩ 10000000000
      (by decide) (by decide)) (by decide)⟩

end DistLock.Liveness

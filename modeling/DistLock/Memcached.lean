import DistLock.Cluster

namespace DistLock.Memcached

abbrev Store := Option Item

def live (s : Store) (now : Nat) : Store :=
  s.filter fun item => item.expiresAt.all (now < ·)

/-- `int32(l.lockTimeout.Seconds())`: truncated; out of range the amd64 conversion gives `-2^31`. -/
def expiration (lockTimeout : Nat) : Int :=
  if lockTimeout / 1000000000 < 2 ^ 31 then (lockTimeout / 1000000000 : Nat) else -2 ^ 31

/-- When an item stored at `now` expires: 0 never, up to 30 days relative, above that a Unix
time, negative at once. -/
def expiryOf (now : Nat) (expiration : Int) : Option Nat :=
  if expiration = 0 then none
  else if expiration < 0 then some now
  else if expiration ≤ 2592000 then some (now + expiration.toNat * 1000000000)
  else some (expiration.toNat * 1000000000)

def errNotStored : String := "memcache: item not stored"
def errCacheMiss : String := "memcache: cache miss"

def add (s : Store) (now : Nat) (item : Item) : Except String Store :=
  match live s now with
  | some _ => .error errNotStored
  | none => .ok (some item)

def replace (s : Store) (now : Nat) (item : Item) : Except String Store :=
  match live s now with
  | some _ => .ok (some item)
  | none => .error errNotStored

def delete (s : Store) (now : Nat) : Except String Store :=
  match live s now with
  | some _ => .ok none
  | none => .error errCacheMiss

def lockItem (l : Locker) (now : Nat) : Item :=
  ⟨l.ownerID, expiryOf now (expiration l.lockTimeout)⟩

def request (fault : Option String) (server : Except String Store) : Except String Store :=
  match fault with
  | some e => .error e
  | none => server

def lock (l : Locker) (now : Nat) (s : Store) (fault : Option String) : Reply Store :=
  match request fault (add s now (lockItem l now)) with
  | .error e =>
    if e = errNotStored then
      { result := .error "lock is already held by another owner", store := s }
    else { result := .error ("failed to acquire lock: " ++ e), store := s }
  | .ok s' => { result := .ok (), store := s', renews := true }

/-- `Renew`: `Replace` with the caller's owner ID, over whatever item holds the key. -/
def renew (l : Locker) (now : Nat) (s : Store) (fault : Option String) : Reply Store :=
  match request fault (replace s now (lockItem l now)) with
  | .error e =>
    if e = errNotStored then
      { result := .error "lock is not held by this owner anymore", store := s }
    else { result := .error ("failed to renew lock: " ++ e), store := s }
  | .ok s' => { result := .ok (), store := s' }

def unlock (now : Nat) (s : Store) (fault : Option String) : Reply Store :=
  match request fault (delete s now) with
  | .error e => { result := .error ("failed to release lock: " ++ e), store := s }
  | .ok s' => { result := .ok (), store := s' }

theorem expiration_of_le {lockTimeout : Nat} (bound : lockTimeout / 1000000000 ≤ 2592000) :
    expiration lockTimeout = (lockTimeout / 1000000000 : Nat) := by
  have fits : lockTimeout / 1000000000 < 2 ^ 31 := by omega
  rw [expiration, if_pos fits]

theorem expiryOf_live (now : Nat) {n : Nat} (bound : n ≤ 2592000) :
    (expiryOf now n).all (now < ·) := by
  by_cases zero : n = 0
  · subst zero
    rfl
  · have pos : ¬ (n : Int) = 0 := by omega
    have nonneg : ¬ (n : Int) < 0 := by omega
    have small : (n : Int) ≤ 2592000 := by omega
    simp only [expiryOf, pos, nonneg, small, if_false, if_true, Option.all_some, Int.toNat_ofNat]
    simp only [decide_eq_true_eq]
    omega

theorem lockItem_live (l : Locker) (now : Nat) (bound : l.lockTimeout / 1000000000 ≤ 2592000) :
    live (some (lockItem l now)) now = some (lockItem l now) := by
  have alive := expiryOf_live now bound
  simp only [live, lockItem, expiration_of_le bound, Option.filter, alive, if_true]

/-- Half a second truncates to 0, "never expires"; thirty-days-and-one reads as a Unix time in
1970, so the item has expired when it is written. -/
theorem memcached_expiration_out_of_range :
    expiration 500000000 = 0 ∧ (lockItem ⟨"A", 500000000⟩ 1700000000000000000).expiresAt = none ∧
      expiration 2678400000000000 = 2678400 ∧
      live (some (lockItem ⟨"A", 2678400000000000⟩ 1700000000000000000)) 1700000000000000000 =
        none := by
  decide

theorem renew_ok_store {l : Locker} {now : Nat} {s : Store} {fault : Option String}
    (ok : (renew l now s fault).ok) : (renew l now s fault).store = some (lockItem l now) := by
  cases fault with
  | some e => simp only [renew, request] at ok; split_ifs at ok <;> simp [Reply.ok] at ok
  | none => cases live_s : live s now <;> simp_all [renew, request, replace, Reply.ok]

theorem lock_renews (l : Locker) (now : Nat) (s : Store) (fault : Option String) :
    (lock l now s fault).renews = (lock l now s fault).ok := by
  unfold lock
  split
  · split <;> rfl
  · rfl

def call (T : Nat) (s : Store) (e : Event (Option String)) : Reply Store :=
  match e.call with
  | .lock => lock ⟨e.owner, T⟩ e.time s e.fault
  | .renew => renew ⟨e.owner, T⟩ e.time s e.fault
  | .unlock => unlock e.time s e.fault

def exec (T : Nat) : Cluster.Exec Store (Option String) :=
  fun s e => (some (call T s e).result, (call T s e).store)

def record (s : Store) : Option LockRecord :=
  s.bind fun item => item.expiresAt.map (⟨item.value, ·⟩)

/-- A lock timeout memcached keeps exactly: whole seconds, from 1s to 30 days. -/
structure ExactTimeout (T : Nat) : Prop where
  pos : 0 < T
  whole : T % 1000000000 = 0
  bound : T / 1000000000 ≤ 2592000

theorem lockItem_of_exact {l : Locker} (now : Nat) (exact : ExactTimeout l.lockTimeout) :
    lockItem l now = ⟨l.ownerID, some (now + l.lockTimeout)⟩ := by
  have seconds : 0 < l.lockTimeout / 1000000000 := by
    have := exact.pos; have := exact.whole; omega
  have pos : ¬ ((l.lockTimeout / 1000000000 : Nat) : Int) = 0 := by omega
  have nonneg : ¬ ((l.lockTimeout / 1000000000 : Nat) : Int) < 0 := by omega
  have small : ((l.lockTimeout / 1000000000 : Nat) : Int) ≤ 2592000 := by
    have := exact.bound; omega
  have whole : l.lockTimeout / 1000000000 * 1000000000 = l.lockTimeout := by
    have := exact.whole; omega
  simp only [lockItem, expiration_of_le exact.bound, expiryOf, pos, nonneg, small, if_false,
    if_true, Int.toNat_ofNat, whole]

theorem lock_store_live (l : Locker) {now : Nat} {item : Item} (fault : Option String)
    (live_item : live (some item) now = some item) :
    (lock l now (some item) fault).store = some item := by
  cases fault with
  | some e => simp only [lock, request]; split_ifs <;> rfl
  | none => simp [lock, request, add, live_item, errNotStored]

theorem lock_ok_store {l : Locker} {now : Nat} {s : Store} {fault : Option String}
    (ok : (lock l now s fault).result = .ok ()) :
    (lock l now s fault).store = some (lockItem l now) := by
  cases fault with
  | some e => simp only [lock, request] at ok; split_ifs at ok
  | none => cases live_s : live s now <;> simp_all [lock, request, add]

theorem unlock_deletes_any_item {now : Nat} {item : Item}
    (live_item : live (some item) now = some item) :
    (unlock now (some item) none).ok ∧ (unlock now (some item) none).store = none := by
  simp [unlock, request, delete, live_item, Reply.ok]

theorem renew_replaces_any_item (l : Locker) {now : Nat} {item : Item}
    (live_item : live (some item) now = some item) :
    (renew l now (some item) none).ok ∧ (renew l now (some item) none).store = some (lockItem l now) := by
  simp [renew, request, replace, live_item, Reply.ok]

theorem renew_error_store {l : Locker} {now : Nat} {s : Store} {fault : Option String}
    {msg : String}
    (error : (renew l now s fault).result = .error msg) : (renew l now s fault).store = s := by
  unfold renew at *
  split
  · split <;> rfl
  · rename_i stored; simp [stored] at error

/-- `A`'s second `Lock`, while its own item is live, reports the lock as held by another owner. -/
theorem memcached_relock_reports_other_owner :
    (lock ⟨"A", 10000000000⟩ 0 none none).ok ∧
      (live (lock ⟨"A", 10000000000⟩ 0 none none).store 1000000000).map (·.value) = some "A" ∧
      (lock ⟨"A", 10000000000⟩ 1000000000 (lock ⟨"A", 10000000000⟩ 0 none none).store
        none).result = .error "lock is already held by another owner" :=
  ⟨by decide, by decide, rfl⟩

end DistLock.Memcached

namespace DistLock.Memcached

open Cluster

theorem record_live {s : Store} {owner : String} {e now : Nat} (held : record s = some ⟨owner, e⟩)
    (lt : now < e) : ∃ item, s = some item ∧ live s now = s := by
  rcases s with _ | ⟨value, _ | e'⟩ <;> simp [record] at held
  obtain ⟨rfl, rfl⟩ := held
  exact ⟨_, rfl, by simp [live, Option.filter, lt]⟩

theorem keepsRecord {T : Nat} (exact : ExactTimeout T) :
    KeepsRecord (exec T) T Timely record where
  other := by
    intro c e i inv now timely other holds
    obtain ⟨expiry, held, covers⟩ := inv i (holds.of_le now)
    cases hc : e.call with
    | lock =>
      obtain ⟨item, stored, live_item⟩ := record_live held (Nat.lt_of_lt_of_le holds.2 covers)
      simp only [exec, call, hc, stored]
      rw [lock_store_live _ e.fault (stored ▸ live_item)]
    | unlock | renew =>
      exact absurd ((inv e.owner ((timely (by simp [hc])).of_le now)).owner_eq
        ⟨expiry, held, covers⟩) other
  own := by
    intro c e inv now timely holds
    simp only [Holds, step_views_self, exec] at holds ⊢
    cases hc : e.call with
    | lock =>
      simp only [call, hc] at holds ⊢
      cases ok : (lock ⟨e.owner, T⟩ e.time c.store e.fault).result <;>
        simp only [ok, View.record] at holds ⊢
      · simp at holds
      · rw [lock_ok_store ok, lockItem_of_exact e.time exact]
        exact Covers.exact _ _
    | unlock => simp [hc, View.record] at holds
    | renew =>
      simp only [call, hc] at holds ⊢
      cases ok : (renew ⟨e.owner, T⟩ e.time c.store e.fault).result <;>
        simp only [ok, View.record] at holds ⊢
      · rw [renew_error_store ok]
        exact inv e.owner ((timely (by simp [hc])).of_le now)
      · rw [renew_ok_store (by simp [Reply.ok, ok]), lockItem_of_exact e.time exact]
        exact Covers.exact _ _

/-- Mutual exclusion over every run with an exact timeout in which only the holder calls `Renew`
and `Unlock`. -/
theorem memcached_exclusive_of_timely (T : Nat) (exact : ExactTimeout T) (c : Cluster Store)
    (reach : Reachable (exec T) T Timely c) : c.Exclusive :=
  (keepsRecord exact).exclusive reach

theorem memcached_exclusive_of_timely_after_lock :
    ExactTimeout 10000000000 ∧
      Reachable (exec 10000000000) 10000000000 Timely
        ((⟨none, 0, fun _ => {}⟩ : Cluster Store).step (exec 10000000000) 10000000000
          ⟨"A", .lock, 0, none⟩) ∧
      ((⟨none, 0, fun _ => {}⟩ : Cluster Store).step (exec 10000000000) 10000000000
          ⟨"A", .lock, 0, none⟩).Exclusive :=
  let exact : ExactTimeout 10000000000 := ⟨by decide, by decide, by decide⟩
  let reach := Reachable.step (.init none 0) (Nat.le_refl _) (fun lock => absurd rfl lock)
  ⟨exact, reach, memcached_exclusive_of_timely _ exact _ reach⟩

/-- `A`'s late `Renew` replaces `B`'s item; and `T = 1.5s` truncates to 1s, so `B`'s `Add` at
1.2s succeeds while `A` holds. -/
theorem memcached_exclusion_fails :
    (¬ ∀ c, Reachable (exec 10000000000) 10000000000 (fun _ _ => True) c → c.Exclusive) ∧
      ¬ ∀ c, Reachable (exec 1500000000) 1500000000 Timely c → c.Exclusive := by
  constructor
  · intro exclusive
    let c₀ : Cluster Store := ⟨none, 0, fun _ => {}⟩
    let c₁ := c₀.step (exec 10000000000) 10000000000 ⟨"A", .lock, 0, none⟩
    let c₂ := c₁.step (exec 10000000000) 10000000000 ⟨"B", .lock, 11000000000, none⟩
    let c₃ := c₂.step (exec 10000000000) 10000000000 ⟨"A", .renew, 12000000000, none⟩
    have reach : Reachable (exec 10000000000) 10000000000 (fun _ _ => True) c₃ :=
      .step (.step (.step (.init none 0) (Nat.le_refl _) trivial) (by decide) trivial)
        (by decide) trivial
    exact absurd (exclusive c₃ reach _ (Nat.le_refl _) "A" "B" (by decide) (by decide))
      (by decide)
  · intro exclusive
    let c₀ : Cluster Store := ⟨none, 0, fun _ => {}⟩
    let c₁ := c₀.step (exec 1500000000) 1500000000 ⟨"A", .lock, 0, none⟩
    let c₂ := c₁.step (exec 1500000000) 1500000000 ⟨"B", .lock, 1200000000, none⟩
    have reach : Reachable (exec 1500000000) 1500000000 Timely c₂ :=
      .step (.step (.init none 0) (Nat.le_refl _) (fun lock => absurd rfl lock)) (by decide)
        (fun lock => absurd rfl lock)
    exact absurd (exclusive c₂ reach _ (Nat.le_refl _) "A" "B" (by decide) (by decide))
      (by decide)

end DistLock.Memcached

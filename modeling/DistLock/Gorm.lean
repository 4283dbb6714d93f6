import DistLock.Cluster

namespace DistLock.Gorm

inductive Dialect
  | mysql
  | postgres
  deriving DecidableEq, Repr

/-- A MySQL error number, a PostgreSQL SQLSTATE, or any other driver or connection error. -/
inductive DbError
  | mysql (number : Nat)
  | pg (code : String)
  | other (message : String)
  deriving DecidableEq, Repr

def DbError.message : DbError → String
  | .mysql number => "Error " ++ toString number
  | .pg code => "SQLSTATE " ++ code
  | .other message => message

def isDuplicateEntry : DbError → Bool
  | .mysql number => number == 1062
  | .pg code => code == "23505"
  | .other _ => false

def Dialect.duplicateKey : Dialect → DbError
  | .mysql => .mysql 1062
  | .postgres => .pg "23505"

/-- After a failed statement PostgreSQL has aborted the transaction; MySQL runs the next one. -/
def Dialect.afterError : Dialect → Option DbError
  | .mysql => none
  | .postgres => some (.pg "25P02")

/-- The expiry the `expired_at` column keeps, in nanoseconds: `datetime(3)` on MySQL rounds to the
millisecond (halves up), `timestamptz` on PostgreSQL keeps microseconds. -/
def Dialect.storedTime : Dialect → Nat → Nat
  | .mysql, t => (t + 500000) / 1000000 * 1000000
  | .postgres, t => t / 1000 * 1000

def Dialect.precision : Dialect → Nat
  | .mysql => 500000
  | .postgres => 1000

theorem Dialect.lt_storedTime_add (dialect : Dialect) (t : Nat) :
    t < dialect.storedTime t + dialect.precision := by
  cases dialect <;> simp only [storedTime, precision] <;> omega

inductive Fault
  | none
  | statement (message : String)
  | commit (message : String)
  deriving DecidableEq, Repr

/-- The closure `Lock` passes to `db.Transaction`. -/
def lockTx (dialect : Dialect) (l : Locker) (now : Nat) (row : Option LockRecord) :
    Except String LockRecord :=
  match row with
  | none => .ok ⟨l.ownerID, dialect.storedTime (now + l.lockTimeout)⟩
  | some lock =>
    if !isDuplicateEntry dialect.duplicateKey then .error dialect.duplicateKey.message
    else match dialect.afterError with
      | some err => .error err.message
      | none =>
        if !decide (lock.expiredAt < now) then .error ("lock is already held by " ++ lock.ownerID)
        else .ok ⟨l.ownerID, dialect.storedTime (now + l.lockTimeout)⟩

/-- `Lock`: the closure starts the renewal before the commit, so a failed commit leaves it running. -/
def lock (dialect : Dialect) (l : Locker) (now : Nat) (row : Option LockRecord) (fault : Fault) :
    Reply (Option LockRecord) :=
  match fault, lockTx dialect l now row with
  | .statement e, _ => { result := .error e, store := row }
  | _, .error e => { result := .error e, store := row }
  | .commit e, .ok _ => { result := .error e, store := row, renews := true }
  | .none, .ok lock => { result := .ok (), store := some lock, renews := true }

/-- `Renew`: `UPDATE locks SET expired_at = ? WHERE name = ?`, whoever owns the row. -/
def renew (dialect : Dialect) (l : Locker) (now : Nat) (row : Option LockRecord) (fault : Fault) :
    Reply (Option LockRecord) :=
  match fault with
  | .none =>
    { result := .ok (),
      store := row.map fun lock =>
        { lock with expiredAt := dialect.storedTime (now + l.lockTimeout) } }
  | .statement e | .commit e => { result := .error e, store := row }

def unlock (row : Option LockRecord) (fault : Fault) : Reply (Option LockRecord) :=
  match fault with
  | .none => { result := .ok (), store := none }
  | .statement e | .commit e => { result := .error e, store := row }

def call (dialect : Dialect) (T : Nat) (row : Option LockRecord) (e : Event Fault) :
    Reply (Option LockRecord) :=
  match e.call with
  | .lock => lock dialect ⟨e.owner, T⟩ e.time row e.fault
  | .renew => renew dialect ⟨e.owner, T⟩ e.time row e.fault
  | .unlock => unlock row e.fault

def exec (dialect : Dialect) (T : Nat) : Cluster.Exec (Option LockRecord) Fault :=
  fun row e => (some (call dialect T row e).result, (call dialect T row e).store)

theorem lockTx_live (dialect : Dialect) (l : Locker) {now : Nat} (lock : LockRecord)
    (live : now < lock.expiredAt) : ∃ e, lockTx dialect l now (some lock) = .error e := by
  have : ¬ lock.expiredAt < now := by omega
  cases dialect <;> simp [lockTx, isDuplicateEntry, Dialect.duplicateKey, Dialect.afterError, this]

theorem lock_store_live (dialect : Dialect) (l : Locker) {now : Nat} {lock : LockRecord}
    (fault : Fault) (live : now < lock.expiredAt) :
    (Gorm.lock dialect l now (some lock) fault).store = some lock := by
  obtain ⟨e, tx⟩ := lockTx_live dialect l lock live
  cases fault <;> simp [Gorm.lock, tx]

theorem lock_renews_of_ok {dialect : Dialect} {l : Locker} {now : Nat} {row : Option LockRecord}
    {fault : Fault} (ok : (lock dialect l now row fault).ok) :
    (lock dialect l now row fault).renews := by
  cases fault <;> cases tx : lockTx dialect l now row <;> simp_all [lock, Reply.ok]

theorem lockTx_ok {dialect : Dialect} {l : Locker} {now : Nat} {row : Option LockRecord}
    {lock : LockRecord} (ok : lockTx dialect l now row = .ok lock) :
    lock = ⟨l.ownerID, dialect.storedTime (now + l.lockTimeout)⟩ := by
  unfold lockTx at ok
  repeat' split at ok
  all_goals cases ok <;> rfl

theorem lock_ok {dialect : Dialect} {l : Locker} {now : Nat} {row : Option LockRecord}
    {fault : Fault} (ok : (lock dialect l now row fault).result = .ok ()) :
    (lock dialect l now row fault).store =
      some ⟨l.ownerID, dialect.storedTime (now + l.lockTimeout)⟩ := by
  cases fault <;> cases tx : lockTx dialect l now row <;> simp [lock, tx] at ok ⊢
  exact lockTx_ok tx

/-- `Lock` takes a missing row, or on MySQL an expired one; PostgreSQL never reclaims a row. -/
theorem lock_ok_iff (dialect : Dialect) (l : Locker) (now : Nat) (row : Option LockRecord) :
    (lock dialect l now row .none).ok ↔
      row.all fun lock => dialect = .mysql ∧ lock.expiredAt < now := by
  rcases row with _ | lock
  · rfl
  by_cases expired : lock.expiredAt < now <;> cases dialect <;>
    simp [Gorm.lock, lockTx, isDuplicateEntry, Dialect.duplicateKey, Dialect.afterError, expired,
      Reply.ok]

/-- On PostgreSQL `B`'s `Lock` meets `A`'s expired row with SQLSTATE 25P02 and leaves it. -/
theorem postgres_lock_never_reclaims :
    (Gorm.lock .postgres ⟨"B", 10⟩ 10 (some ⟨"A", 5⟩) .none).result = .error "SQLSTATE 25P02" ∧
      (Gorm.lock .postgres ⟨"B", 10⟩ 10 (some ⟨"A", 5⟩) .none).store = some ⟨"A", 5⟩ ∧
      (Gorm.lock .postgres ⟨"B", 10⟩ 10 (some ⟨"A", 15⟩) .none).result =
        .error "SQLSTATE 25P02" :=
  ⟨rfl, rfl, rfl⟩

theorem unlock_deletes_any_row (row : Option LockRecord) :
    (unlock row .none).ok ∧ (unlock row .none).store = none :=
  ⟨rfl, rfl⟩

theorem renew_by_name (dialect : Dialect) (l : Locker) (now : Nat) (row : Option LockRecord) :
    (renew dialect l now row .none).ok ∧
      (renew dialect l now row .none).store =
        row.map fun lock => ⟨lock.ownerID, dialect.storedTime (now + l.lockTimeout)⟩ :=
  ⟨rfl, rfl⟩

end DistLock.Gorm

namespace DistLock.Gorm

open Cluster

theorem covers_storedTime (dialect : Dialect) (owner : String) (now : Nat) {T : Nat}
    (longer : dialect.precision < T) :
    Covers (some ⟨owner, dialect.storedTime (now + T)⟩) owner (now + (T - dialect.precision)) :=
  ⟨_, rfl, by have := dialect.lt_storedTime_add (now + T); omega⟩

theorem keepsRecord (dialect : Dialect) (T : Nat) :
    KeepsRecord (exec dialect T) (T - dialect.precision) Timely id where
  other := by
    intro c e i inv now timely other holds
    obtain ⟨expiry, row, covers⟩ := inv i (holds.of_le now)
    cases hc : e.call with
    | lock =>
      simp only [exec, call, hc, id]
      rw [show c.store = _ from row]
      exact lock_store_live dialect _ e.fault (show e.time < (⟨i, expiry⟩ : LockRecord).expiredAt from
        Nat.lt_of_lt_of_le holds.2 covers)
    | unlock | renew =>
      exact absurd ((inv e.owner ((timely (by simp [hc])).of_le now)).owner_eq
        ⟨expiry, row, covers⟩) other
  own := by
    intro c e inv now timely holds
    simp only [Holds, step_views_self, exec] at holds ⊢
    cases hc : e.call with
    | lock =>
      simp only [call, hc] at holds ⊢
      cases ok : (lock dialect ⟨e.owner, T⟩ e.time c.store e.fault).result <;>
        simp only [ok, View.record] at holds ⊢
      · simp at holds
      · rw [lock_ok ok]
        exact covers_storedTime dialect e.owner e.time (T := T) (by have := holds.2; omega)
    | unlock => simp [hc, View.record] at holds
    | renew =>
      have mine := inv e.owner ((timely (by simp [hc])).of_le now)
      cases hf : e.fault <;> simp only [call, hc, hf, renew, View.record, id] at holds ⊢
      · obtain ⟨expiry, row, -⟩ := mine
        rw [show c.store = _ from row]
        exact covers_storedTime dialect e.owner e.time (by have := holds.2; omega)
      all_goals exact mine

/-- Mutual exclusion over every run in which only the holder calls `Renew` and `Unlock`, with
leases of `T` less the column's rounding. -/
theorem gorm_exclusive_of_timely (dialect : Dialect) (T : Nat) (c : Cluster (Option LockRecord))
    (reach : Reachable (exec dialect T) (T - dialect.precision) Timely c) : c.Exclusive :=
  (keepsRecord dialect T).exclusive reach

theorem gorm_exclusive_of_timely_after_lock :
    Reachable (exec .mysql 10000000000) (10000000000 - Dialect.precision .mysql) Timely
        ((⟨none, 0, fun _ => {}⟩ : Cluster (Option LockRecord)).step (exec .mysql 10000000000)
          (10000000000 - Dialect.precision .mysql) ⟨"A", .lock, 0, .none⟩) ∧
      ((⟨none, 0, fun _ => {}⟩ : Cluster (Option LockRecord)).step (exec .mysql 10000000000)
          (10000000000 - Dialect.precision .mysql) ⟨"A", .lock, 0, .none⟩).Exclusive :=
  let reach := Reachable.step (.init none 0) (Nat.le_refl _) (fun lock => absurd rfl lock)
  ⟨reach, gorm_exclusive_of_timely .mysql 10000000000 _ reach⟩

/-- `A`'s late `Renew` updates `B`'s row by name; and with full leases of 1.0004s MySQL's rounding
lets `B` reclaim the row while `A` holds. -/
theorem gorm_late_renew_breaks_exclusion :
    (¬ ∀ c, Reachable (exec .mysql 10000000000) (10000000000 - Dialect.precision .mysql)
        (fun _ _ => True) c → c.Exclusive) ∧
      ¬ ∀ c, Reachable (exec .mysql 1000400000) 1000400000 Timely c → c.Exclusive := by
  constructor
  · intro exclusive
    let T := 10000000000 - Dialect.precision .mysql
    let c₀ : Cluster (Option LockRecord) := ⟨none, 0, fun _ => {}⟩
    let c₁ := c₀.step (exec .mysql 10000000000) T ⟨"A", .lock, 0, .none⟩
    let c₂ := c₁.step (exec .mysql 10000000000) T ⟨"B", .lock, 11000000000, .none⟩
    let c₃ := c₂.step (exec .mysql 10000000000) T ⟨"A", .renew, 12000000000, .none⟩
    have reach : Reachable (exec .mysql 10000000000) T (fun _ _ => True) c₃ :=
      .step (.step (.step (.init none 0) (Nat.le_refl _) trivial) (by decide) trivial) (by decide)
        trivial
    exact absurd (exclusive c₃ reach _ (Nat.le_refl _) "A" "B" (by decide) (by decide))
      (by decide)
  · intro exclusive
    let c₀ : Cluster (Option LockRecord) := ⟨none, 0, fun _ => {}⟩
    let c₁ := c₀.step (exec .mysql 1000400000) 1000400000 ⟨"A", .lock, 0, .none⟩
    let c₂ := c₁.step (exec .mysql 1000400000) 1000400000 ⟨"B", .lock, 1000100000, .none⟩
    have reach : Reachable (exec .mysql 1000400000) 1000400000 Timely c₂ :=
      .step (.step (.init none 0) (Nat.le_refl _) (fun lock => absurd rfl lock)) (by decide)
        (fun lock => absurd rfl lock)
    exact absurd (exclusive c₂ reach _ (Nat.le_refl _) "A" "B" (by decide) (by decide))
      (by decide)

end DistLock.Gorm

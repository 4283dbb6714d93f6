import DistLock.Gorm

namespace DistLock.GormTxn

open Gorm

def errRecordNotFound : String := "record not found"

/-- The committed row, the uncommitted `INSERT` of the name, and the holder of the row's lock. -/
structure Db where
  row : Option LockRecord
  inserting : Option Nat
  updating : Option Nat
  deriving DecidableEq, Repr

def Db.release (db : Db) (i : Nat) : Db :=
  { db with inserting := db.inserting.filter (· ≠ i), updating := db.updating.filter (· ≠ i) }

@[simp] theorem Db.release_row (db : Db) (i : Nat) : (db.release i).row = db.row := rfl

theorem Db.release_inserting_of_ne {db : Db} {i j : Nat} (held : db.inserting = some j)
    (ne : j ≠ i) : (db.release i).inserting = some j := by
  simp [Db.release, held, ne]

structure Txn where
  locker : Locker
  now : Nat
  deriving DecidableEq, Repr

inductive Pc
  /-- Next: `tx.Create(&Lock{...})`. -/
  | create
  /-- `Create` met the unique index on `Name`; next: `tx.First(&lock, "name = ?", ...)`. -/
  | first
  /-- `First` read a row that expired before `now`; next: `tx.Save(&lock)`. -/
  | save
  /-- The closure returned nil; next: the commit, which makes `row` the committed row. -/
  | commit (row : LockRecord)
  /-- `db.Transaction` returned `result`. -/
  | done (result : Except String Unit)

def Pc.wins : Pc → Bool
  | .commit _ | .done (.ok ()) => true
  | _ => false

def Txn.row (dialect : Dialect) (t : Txn) : LockRecord :=
  ⟨t.locker.ownerID, dialect.storedTime (t.now + t.locker.lockTimeout)⟩

/-- The statement of transaction `i` at `pc`: `none` while it waits for a lock. `First` is the
first consistent read, so MySQL's snapshot reads the committed row. -/
def stmt (dialect : Dialect) (i : Nat) (t : Txn) (db : Db) : Pc → Option (Db × Pc)
  | .create =>
    if db.inserting.any (· ≠ i) then none
    else match db.row with
      | none => some ({ db with inserting := some i }, .commit (t.row dialect))
      | some _ =>
        if !isDuplicateEntry dialect.duplicateKey then
          some (db.release i, .done (.error dialect.duplicateKey.message))
        else some (db, .first)
  | .first =>
    match dialect.afterError with
    | some err => some (db.release i, .done (.error err.message))
    | none => match db.row with
      | none => some (db.release i, .done (.error errRecordNotFound))
      | some lock =>
        if !decide (lock.expiredAt < t.now) then
          some (db.release i, .done (.error ("lock is already held by " ++ lock.ownerID)))
        else some (db, .save)
  | .save =>
    if db.updating.any (· ≠ i) then none
    else some ({ db with updating := some i }, .commit (t.row dialect))
  | .commit row => some ({ db.release i with row := some row }, .done (.ok ()))
  | .done _ => none

structure World where
  db : Db
  pcs : List Pc

section

variable (dialect : Dialect) (txns : List Txn)

def World.step (w : World) (i : Nat) : Option World :=
  match txns[i]?, w.pcs[i]? with
  | some t, some pc => (stmt dialect i t w.db pc).map fun next => ⟨next.1, w.pcs.set i next.2⟩
  | _, _ => none

/-- A schedule: `none` if the database does not permit it. -/
def World.run : World → List Nat → Option World
  | w, [] => some w
  | w, i :: schedule => (w.step dialect txns i).bind fun w => w.run schedule

def World.start (row : Option LockRecord) : World := ⟨⟨row, none, none⟩, txns.map fun _ => .create⟩

end

/-! ## What a statement can do -/

theorem stmt_cases {dialect : Dialect} {i : Nat} {t : Txn} {db db' : Db} {pc pc' : Pc}
    (ran : stmt dialect i t db pc = some (db', pc')) :
    (pc = .create ∧ (∀ j, db.inserting = some j → j = i) ∧ db.row = none ∧
        db' = { db with inserting := some i } ∧ pc' = .commit (t.row dialect)) ∨
      (pc = .create ∧ db' = db ∧ pc' = .first) ∨
      ((pc = .create ∨ pc = .first) ∧ db' = db.release i ∧ ∃ e, pc' = .done (.error e)) ∨
      (pc = .first ∧ dialect.afterError = none ∧ db' = db ∧ pc' = .save ∧
        ∃ lock, db.row = some lock ∧ lock.expiredAt < t.now) ∨
      (pc = .save ∧ (∀ j, db.updating = some j → j = i) ∧ db' = { db with updating := some i } ∧
        pc' = .commit (t.row dialect)) ∨
      (∃ row, pc = .commit row ∧ db' = { db.release i with row := some row } ∧
        pc' = .done (.ok ())) := by
  cases pc with
  | create =>
    simp only [stmt] at ran
    split at ran
    · cases ran
    · rename_i free
      rcases row : db.row with _ | lock <;> simp only [row] at ran
      · cases ran
        refine .inl ⟨rfl, fun j held => ?_, rfl, rfl, rfl⟩
        simpa [held] using free
      · split at ran <;> cases ran
        · exact .inr (.inr (.inl ⟨.inl rfl, rfl, _, rfl⟩))
        · exact .inr (.inl ⟨rfl, rfl, rfl⟩)
  | first =>
    simp only [stmt] at ran
    rcases after : dialect.afterError with _ | err <;> simp only [after] at ran
    · rcases row : db.row with _ | lock <;> simp only [row] at ran
      · cases ran
        exact .inr (.inr (.inl ⟨.inr rfl, rfl, _, rfl⟩))
      · split at ran <;> cases ran
        · exact .inr (.inr (.inl ⟨.inr rfl, rfl, _, rfl⟩))
        · rename_i stale
          exact .inr (.inr (.inr (.inl ⟨rfl, rfl, rfl, rfl, lock, rfl, by simpa using stale⟩)))
    · cases ran
      exact .inr (.inr (.inl ⟨.inr rfl, rfl, _, rfl⟩))
  | save =>
    simp only [stmt] at ran
    split at ran <;> cases ran
    rename_i free
    refine .inr (.inr (.inr (.inr (.inl ⟨rfl, fun j held => ?_, rfl, rfl⟩))))
    simpa [held] using free
  | commit row =>
    cases ran
    exact .inr (.inr (.inr (.inr (.inr ⟨row, rfl, rfl, rfl⟩))))
  | done _ => cases ran

theorem getElem?_set_of {pcs : List Pc} {k : Nat} {pc : Pc} (at_k : pcs[k]? = some pc) (pc' : Pc)
    (j : Nat) : (pcs.set k pc')[j]? = if k = j then some pc' else pcs[j]? := by
  have : k < pcs.length := (List.getElem?_eq_some_iff.1 at_k).1
  simp [List.getElem?_set, this]

section

variable {dialect : Dialect} {txns : List Txn}

theorem step_some {w w' : World} {k : Nat} (stepped : w.step dialect txns k = some w') :
    ∃ t pc db pc', txns[k]? = some t ∧ w.pcs[k]? = some pc ∧
      stmt dialect k t w.db pc = some (db, pc') ∧ w' = ⟨db, w.pcs.set k pc'⟩ := by
  unfold World.step at stepped
  split at stepped
  · obtain ⟨⟨db, pc'⟩, ran, rfl⟩ := Option.map_eq_some'.1 stepped
    exact ⟨_, _, db, pc', ‹_›, ‹_›, ran, rfl⟩
  · cases stepped

/-! ## No two `Lock` transactions both return nil -/

/-- The invariant of the exclusion law: at most one transaction has returned nil or is committing. -/
structure Safe (dialect : Dialect) (txns : List Txn) (w : World) : Prop where
  fresh : dialect.afterError = none →
    ∀ lock, w.db.row = some lock → ∀ t ∈ txns, ¬ lock.expiredAt < t.now
  noSave : Pc.save ∉ w.pcs
  single : ∀ i j : Nat, w.pcs[i]?.any Pc.wins → w.pcs[j]?.any Pc.wins → i = j
  inserting : ∀ (i : Nat) row, w.pcs[i]? = some (.commit row) →
    w.db.inserting = some i ∧ ∃ t, txns[i]? = some t ∧ row = t.row dialect
  committed : ∀ i : Nat, w.pcs[i]? = some (.done (.ok ())) → w.db.row ≠ none

theorem wins_of_commit {pcs : List Pc} {i : Nat} {row : LockRecord}
    (at_i : pcs[i]? = some (.commit row)) : pcs[i]?.any Pc.wins := by
  simp [at_i, Pc.wins]

theorem wins_of_done {pcs : List Pc} {i : Nat} (at_i : pcs[i]? = some (.done (.ok ()))) :
    pcs[i]?.any Pc.wins := by
  simp [at_i, Pc.wins]

theorem wins_of_wins_set {pcs : List Pc} {k i : Nat} {pc pc' : Pc} (at_k : pcs[k]? = some pc)
    (loses : pc'.wins = false) (wins : (pcs.set k pc')[i]?.any Pc.wins) :
    i ≠ k ∧ pcs[i]?.any Pc.wins := by
  rw [getElem?_set_of at_k] at wins
  split_ifs at wins with ki
  · simp [loses] at wins
  · exact ⟨Ne.symm ki, wins⟩

theorem eq_of_wins_set {pcs : List Pc} {k i : Nat} {pc pc' : Pc} (at_k : pcs[k]? = some pc)
    (only : ∀ j, pcs[j]?.any Pc.wins → j = k) (wins : (pcs.set k pc')[i]?.any Pc.wins) :
    i = k := by
  rw [getElem?_set_of at_k] at wins
  split_ifs at wins with ki
  · exact ki.symm
  · exact only i wins

theorem Safe.of_loses {w : World} {k : Nat} {pc pc' : Pc} {db : Db} (safe : Safe dialect txns w)
    (at_k : w.pcs[k]? = some pc) (loses : pc'.wins = false) (notSave : pc' ≠ .save)
    (row : db.row = w.db.row)
    (inserting : ∀ i, i ≠ k → w.db.inserting = some i → db.inserting = some i) :
    Safe dialect txns ⟨db, w.pcs.set k pc'⟩ where
  fresh := by simpa only [row] using safe.fresh
  noSave mem := (List.mem_or_eq_of_mem_set mem).elim safe.noSave (notSave ·.symm)
  single i j wi wj :=
    safe.single i j (wins_of_wins_set at_k loses wi).2 (wins_of_wins_set at_k loses wj).2
  inserting i r at_i := by
    have ne := (wins_of_wins_set at_k loses (wins_of_commit at_i)).1
    rw [List.getElem?_set_ne (Ne.symm ne)] at at_i
    exact ⟨inserting i ne (safe.inserting i r at_i).1, (safe.inserting i r at_i).2⟩
  committed i at_i := by
    have ne := (wins_of_wins_set at_k loses (wins_of_done at_i)).1
    rw [List.getElem?_set_ne (Ne.symm ne)] at at_i
    exact row ▸ safe.committed i at_i

theorem Safe.others_lose {w : World} {k : Nat} (safe : Safe dialect txns w)
    (free : ∀ j, w.db.inserting = some j → j = k) (empty : w.db.row = none) :
    ∀ j, w.pcs[j]?.any Pc.wins → j = k := by
  intro j wins
  rcases at_j : w.pcs[j]? with _ | ((_ | _ | _ | row | (_ | _)))
  all_goals simp [at_j, Pc.wins] at wins
  · exact free j (safe.inserting j row at_j).1
  · exact absurd empty (safe.committed j at_j)

theorem Safe.step
    (timely : ∀ s ∈ txns, ∀ t ∈ txns, t.now + dialect.precision ≤ s.now + s.locker.lockTimeout)
    {w w' : World} {k : Nat} (safe : Safe dialect txns w)
    (stepped : w.step dialect txns k = some w') : Safe dialect txns w' := by
  obtain ⟨t, pc, db, pc', txn, at_k, ran, rfl⟩ := step_some stepped
  rcases stmt_cases ran with ⟨rfl, free, empty, rfl, rfl⟩ | ⟨rfl, rfl, rfl⟩ |
    ⟨-, rfl, e, rfl⟩ | ⟨rfl, after, rfl, rfl, lock, row, stale⟩ | ⟨rfl, -, rfl, rfl⟩ |
    ⟨row, rfl, rfl, rfl⟩
  · -- the winning `INSERT`
    have only := safe.others_lose free empty
    refine ⟨safe.fresh, fun mem => ?_, fun i j wi wj => ?_, fun i r at_i => ?_, fun i at_i => ?_⟩
    · exact (List.mem_or_eq_of_mem_set mem).elim safe.noSave nofun
    · exact (eq_of_wins_set at_k only wi).trans (eq_of_wins_set at_k only wj).symm
    · obtain rfl := eq_of_wins_set at_k only (wins_of_commit at_i)
      rw [getElem?_set_of at_k, if_pos rfl] at at_i
      cases at_i
      exact ⟨rfl, t, txn, rfl⟩
    · obtain rfl := eq_of_wins_set at_k only (wins_of_done at_i)
      rw [getElem?_set_of at_k, if_pos rfl] at at_i
      cases at_i
  · exact safe.of_loses at_k rfl nofun rfl fun _ _ held => held
  · exact safe.of_loses at_k rfl nofun rfl fun _ ne held => Db.release_inserting_of_ne held ne
  · exact absurd stale (safe.fresh after lock row t (List.getElem?_mem txn))
  · exact absurd (List.getElem?_mem at_k) safe.noSave
  · -- the commit
    obtain ⟨-, t', txn', rfl⟩ := safe.inserting k row at_k
    cases txn.symm.trans txn'
    have only j (wins : w.pcs[j]?.any Pc.wins) : j = k := safe.single j k wins (wins_of_commit at_k)
    refine ⟨fun _ lock row_eq s mem => ?_, fun mem => ?_, fun i j wi wj => ?_, fun i r at_i => ?_,
      fun _ _ => by simp⟩
    · cases row_eq
      have := timely t (List.getElem?_mem txn) s mem
      have := dialect.lt_storedTime_add (t.now + t.locker.lockTimeout)
      simp only [Txn.row]
      omega
    · exact (List.mem_or_eq_of_mem_set mem).elim safe.noSave nofun
    · exact (eq_of_wins_set at_k only wi).trans (eq_of_wins_set at_k only wj).symm
    · obtain rfl := eq_of_wins_set at_k only (wins_of_commit at_i)
      rw [getElem?_set_of at_k, if_pos rfl] at at_i
      cases at_i

theorem Safe.run
    (timely : ∀ s ∈ txns, ∀ t ∈ txns, t.now + dialect.precision ≤ s.now + s.locker.lockTimeout)
    {w w' : World} {schedule : List Nat} (safe : Safe dialect txns w)
    (ran : w.run dialect txns schedule = some w') : Safe dialect txns w' := by
  induction schedule generalizing w with
  | nil => exact Option.some.inj ran ▸ safe
  | cons k schedule ih =>
    obtain ⟨w₁, stepped, rest⟩ := Option.bind_eq_some.1 ran
    exact ih (safe.step timely stepped) rest

theorem start_pc {row : Option LockRecord} {i : Nat} {pc : Pc}
    (at_i : (World.start txns row).pcs[i]? = some pc) : pc = .create := by
  obtain ⟨_, _, created⟩ := List.mem_map.1 (List.getElem?_mem at_i)
  exact created.symm

theorem start_loses (row : Option LockRecord) (i : Nat) :
    (World.start txns row).pcs[i]?.any Pc.wins = false := by
  cases at_i : (World.start txns row).pcs[i]? with
  | none => rfl
  | some pc => rw [start_pc at_i]; rfl

theorem safe_start {row : Option LockRecord}
    (fresh : dialect.afterError = none →
      ∀ lock, row = some lock → ∀ t ∈ txns, ¬ lock.expiredAt < t.now) :
    Safe dialect txns (World.start txns row) where
  fresh := fresh
  noSave mem := by
    obtain ⟨_, _, created⟩ := List.mem_map.1 mem
    cases created
  single i _ wins := by rw [start_loses] at wins; cases wins
  inserting _ _ at_i := by cases start_pc at_i
  committed _ at_i := by cases start_pc at_i

end

/-- No two `Lock` transactions both return nil, over every schedule the database permits. -/
theorem lock_txns_exclusive (dialect : Dialect) (txns : List Txn) (row : Option LockRecord)
    (timely : ∀ s ∈ txns, ∀ t ∈ txns, t.now + dialect.precision ≤ s.now + s.locker.lockTimeout)
    (fresh : dialect.afterError = none →
      ∀ lock, row = some lock → ∀ t ∈ txns, ¬ lock.expiredAt < t.now)
    (schedule : List Nat) (w : World)
    (ran : (World.start txns row).run dialect txns schedule = some w) :
    ∀ i j : Nat, w.pcs[i]? = some (.done (.ok ())) → w.pcs[j]? = some (.done (.ok ())) → i = j :=
  fun i j nil_i nil_j =>
    ((safe_start fresh).run timely ran).single i j (wins_of_done nil_i) (wins_of_done nil_j)

/-- `A` and `B` call `Lock` 1s apart on MySQL with a 10s timeout: at most one returns nil. -/
theorem lock_txns_exclusive_one_second_apart :
    ∃ w, (World.start [⟨⟨"A", 10000000000⟩, 0⟩, ⟨⟨"B", 10000000000⟩, 1000000000⟩] none).run .mysql
        [⟨⟨"A", 10000000000⟩, 0⟩, ⟨⟨"B", 10000000000⟩, 1000000000⟩] [0, 0, 1, 1] = some w ∧
      ∀ i j : Nat, w.pcs[i]? = some (.done (.ok ())) → w.pcs[j]? = some (.done (.ok ())) → i = j :=
  ⟨_, rfl, lock_txns_exclusive .mysql [⟨⟨"A", 10000000000⟩, 0⟩, ⟨⟨"B", 10000000000⟩, 1000000000⟩]
    none (by decide) (fun _ _ none => by cases none) [0, 0, 1, 1] _ rfl⟩

/-- On MySQL `A` and `B` both read `C`'s expired row, and `B`'s `Save` overwrites `A`'s: both
return nil. -/
theorem mysql_reclaimers_both_lock :
    (World.start [⟨⟨"A", 10000000000⟩, 10000000000⟩, ⟨⟨"B", 10000000000⟩, 10000000000⟩]
        (some ⟨"C", 5000000000⟩)).run .mysql
        [⟨⟨"A", 10000000000⟩, 10000000000⟩, ⟨⟨"B", 10000000000⟩, 10000000000⟩]
        [0, 1, 0, 1, 0, 0, 1, 1] =
      some ⟨⟨some ⟨"B", 20000000000⟩, none, none⟩, [.done (.ok ()), .done (.ok ())]⟩ :=
  rfl

/-! ## One transaction alone is the call-level `Gorm.lock` -/

theorem step_alone (dialect : Dialect) (t : Txn) (db : Db) (pc : Pc) :
    World.step dialect [t] ⟨db, [pc]⟩ 0 =
      (stmt dialect 0 t db pc).map fun next => ⟨next.1, [next.2]⟩ := rfl

/-- A `Lock` transaction that runs alone does what the call-level `Gorm.lock` does. -/
theorem run_alone (dialect : Dialect) (t : Txn) (row : Option LockRecord) :
    ∃ n, (World.start [t] row).run dialect [t] (List.replicate n 0) =
      some ⟨⟨(Gorm.lock dialect t.locker t.now row .none).store, none, none⟩,
        [.done (Gorm.lock dialect t.locker t.now row .none).result]⟩ := by
  rcases row with _ | lock
  · exact ⟨2, rfl⟩
  cases dialect
  · by_cases stale : lock.expiredAt < t.now
    · have fired : ¬ t.now ≤ lock.expiredAt := Nat.not_le.2 stale
      exact ⟨4, by simp [World.start, World.run, step_alone, stmt, Db.release, Gorm.lock, lockTx,
        Txn.row, isDuplicateEntry, Dialect.duplicateKey, Dialect.afterError, fired]⟩
    · have held : t.now ≤ lock.expiredAt := Nat.le_of_not_lt stale
      exact ⟨2, by simp [World.start, World.run, step_alone, stmt, Db.release, Gorm.lock, lockTx,
        isDuplicateEntry, Dialect.duplicateKey, Dialect.afterError, held]⟩
  · exact ⟨2, rfl⟩

end DistLock.GormTxn

import DistLock.Cluster

namespace DistLock.Redis

abbrev Key := Option Item

def live (key : Key) (now : Nat) : Key :=
  key.filter fun k => k.expiresAt.all (now < ·)

/-! ## The TTLs go-redis sends -/

/-- go-redis's `usePrecise`: a TTL under a second, or not whole seconds, goes in milliseconds. -/
def usePrecise (dur : Nat) : Bool :=
  dur < 1000000000 || dur % 1000000000 != 0

def formatMs (dur : Nat) : Nat :=
  if 0 < dur ∧ dur < 1000000 then 1 else dur / 1000000

def formatSec (dur : Nat) : Nat :=
  if 0 < dur ∧ dur < 1000000000 then 1 else dur / 1000000000

/-- The TTL `SetNX` gives the key: none for 0 (a plain `SETNX`), else `PX` or `EX`. -/
def setNXTtl (expiration : Nat) : Option Nat :=
  if expiration = 0 then none
  else if usePrecise expiration then some (formatMs expiration * 1000000)
  else some (formatSec expiration * 1000000000)

def setNX (key : Key) (now : Nat) (value : String) (ttl : Option Nat) : Bool × Key :=
  match live key now with
  | some _ => (false, key)
  | none => (true, some ⟨value, ttl.map (now + ·)⟩)

def get (key : Key) (now : Nat) : Except String String :=
  match live key now with
  | some k => .ok k.value
  | none => .error "redis: nil"

/-- `EXPIRE key seconds`: false when the key is gone; a TTL of 0 deletes it. -/
def expire (key : Key) (now : Nat) (seconds : Nat) : Bool × Key :=
  match live key now with
  | some k =>
    (true, if seconds = 0 then none
      else some { k with expiresAt := some (now + seconds * 1000000000) })
  | none => (false, key)

/-- `Lock`'s `SetNX`; `none` when the key was taken and the call goes on with `GET`. -/
def lockSetNX (l : Locker) (now : Nat) (key : Key) (fault : Option String) : Option (Reply Key) :=
  match fault with
  | some e => some { result := .error e, store := key }
  | none => match setNX key now l.ownerID (setNXTtl l.lockTimeout) with
    | (true, key') => some { result := .ok (), store := key', renews := true }
    | (false, _) => none

/-- The rest of `Lock`: nil when the key holds the caller's owner ID, with no renewal. -/
def lockGet (l : Locker) (now : Nat) (key : Key) (fault : Option String) : Reply Key :=
  match fault with
  | some e => { result := .error e, store := key }
  | none => match get key now with
    | .error e => { result := .error e, store := key }
    | .ok current =>
      if current != l.ownerID then
        { result := .error ("lock is already held by " ++ current), store := key }
      else { result := .ok (), store := key }

def lock (l : Locker) (now : Nat) (key : Key) (setFault getFault : Option String) : Reply Key :=
  (lockSetNX l now key setFault).getD (lockGet l now key getFault)

/-- `Renew`: `Expire` whoever holds the key; `Err()` is nil also when there was no key. -/
def renew (l : Locker) (now : Nat) (key : Key) (fault : Option String) : Reply Key :=
  match fault with
  | some e => { result := .error e, store := key }
  | none => { result := .ok (), store := (expire key now (formatSec l.lockTimeout)).2 }

def unlock (key : Key) (fault : Option String) : Reply Key :=
  match fault with
  | some e => { result := .error e, store := key }
  | none => { result := .ok (), store := none }

/-- The key, and the instances inside `Lock` between its `SET NX` and its `GET`. -/
structure World where
  key : Key
  getting : String → Bool

/-- A request of `e.owner`: `Lock`'s two commands are two requests, and others may run between. -/
def exec (T : Nat) : Cluster.Exec World (Option String) := fun w e =>
  let l : Locker := ⟨e.owner, T⟩
  match e.call with
  | .lock =>
    if w.getting e.owner then
      let r := lockGet l e.time w.key e.fault
      (some r.result, ⟨r.store, Function.update w.getting e.owner false⟩)
    else match lockSetNX l e.time w.key e.fault with
      | some r => (some r.result, { w with key := r.store })
      | none => (none, { w with getting := Function.update w.getting e.owner true })
  | .renew =>
    (some (renew l e.time w.key e.fault).result,
      { w with key := (renew l e.time w.key e.fault).store })
  | .unlock => (some (unlock w.key e.fault).result, { w with key := (unlock w.key e.fault).store })

def Serial (c : Cluster World) (e : Event (Option String)) : Prop :=
  c.store.getting e.owner = true → e.call = .lock

instance (c : Cluster World) (e : Event (Option String)) : Decidable (Serial c e) :=
  inferInstanceAs (Decidable (_ → _))

theorem live_some {k : Item} {now : Nat} (alive : k.expiresAt.all (now < ·)) :
    live (some k) now = some k := by
  simp [live, Option.filter, alive]

theorem live_of_lt (value : String) {now e : Nat} (lt : now < e) :
    live (some ⟨value, some e⟩) now = some ⟨value, some e⟩ :=
  live_some (by simpa using lt)

theorem half_lt_formatSec {T : Nat} (pos : 0 < T) : T / 2 < formatSec T * 1000000000 := by
  unfold formatSec
  split_ifs <;> omega

theorem formatSec_ne_zero {T : Nat} (pos : 0 < T) : formatSec T ≠ 0 := by
  have := half_lt_formatSec pos
  omega

theorem setNXTtl_pos {T : Nat} (pos : 0 < T) : ∃ ttl, setNXTtl T = some ttl ∧ T / 2 < ttl := by
  unfold setNXTtl formatMs formatSec
  split_ifs <;> first | omega | exact ⟨_, rfl, by omega⟩

theorem lockSetNX_live (l : Locker) {now : Nat} {key : Key} (fault : Option String)
    (alive : (live key now).isSome) :
    ∀ r, lockSetNX l now key fault = some r → r.store = key := by
  obtain ⟨k, hk⟩ := Option.isSome_iff_exists.1 alive
  cases fault <;> simp [lockSetNX, setNX, hk]

theorem setNX_true {key key' : Key} {now : Nat} {value : String} {ttl : Option Nat}
    (set : setNX key now value ttl = (true, key')) : key' = some ⟨value, ttl.map (now + ·)⟩ := by
  cases hk : live key now <;> simp [setNX, hk] at set
  exact set.symm

theorem lockSetNX_cases {l : Locker} {now : Nat} {key : Key} {fault : Option String}
    {r : Reply Key} (some_r : lockSetNX l now key fault = some r) :
    r = { result := .ok (), store := some ⟨l.ownerID, (setNXTtl l.lockTimeout).map (now + ·)⟩,
          renews := true } ∨
      ∃ e, r = { result := .error e, store := key } := by
  cases fault with
  | some e =>
    simp only [lockSetNX, Option.some.injEq] at some_r
    exact .inr ⟨e, some_r.symm⟩
  | none =>
    rcases hs : setNX key now l.ownerID (setNXTtl l.lockTimeout) with ⟨_ | _, key'⟩ <;>
      simp only [lockSetNX, hs, Option.some.injEq, reduceCtorEq] at some_r
    exact .inl (some_r ▸ setNX_true hs ▸ rfl)

theorem lockSetNX_ok {l : Locker} {now : Nat} {key : Key} {fault : Option String} {r : Reply Key}
    (some_r : lockSetNX l now key fault = some r) (ok : r.result = .ok ()) :
    r.store = some ⟨l.ownerID, (setNXTtl l.lockTimeout).map (now + ·)⟩ := by
  rcases lockSetNX_cases some_r with rfl | ⟨e, rfl⟩
  · rfl
  · cases ok

theorem lockGet_renews (l : Locker) (now : Nat) (key : Key) (fault : Option String) :
    (lockGet l now key fault).renews = false := by
  unfold lockGet
  repeat' split
  all_goals rfl

theorem lock_renews_store {l : Locker} {now : Nat} {key : Key} {setFault getFault : Option String}
    (renews : (lock l now key setFault getFault).renews) :
    (lock l now key setFault getFault).result = .ok () ∧
      (lock l now key setFault getFault).store =
        some ⟨l.ownerID, (setNXTtl l.lockTimeout).map (now + ·)⟩ := by
  unfold lock at *
  rcases hs : lockSetNX l now key setFault with _ | r
  · simp [hs, lockGet_renews] at renews
  · simp only [hs, Option.getD_some] at renews ⊢
    rcases lockSetNX_cases hs with rfl | ⟨e, rfl⟩
    · exact ⟨rfl, rfl⟩
    · cases renews

theorem lock_ok_of_renews {l : Locker} {now : Nat} {key : Key} {setFault getFault : Option String}
    (renews : (lock l now key setFault getFault).renews) :
    (lock l now key setFault getFault).ok := by
  simp only [Reply.ok, (lock_renews_store renews).1]

theorem lockGet_store (l : Locker) (now : Nat) (key : Key) (fault : Option String) :
    (lockGet l now key fault).store = key := by
  unfold lockGet
  split
  · rfl
  · split
    · rfl
    · split <;> rfl

theorem renew_store_of_live (l : Locker) {now : Nat} {k : Item} (alive : k.expiresAt.all (now < ·))
    (pos : 0 < l.lockTimeout) :
    (renew l now (some k) none).store =
      some { k with expiresAt := some (now + formatSec l.lockTimeout * 1000000000) } := by
  simp [renew, expire, live_some alive, formatSec_ne_zero pos]

theorem unlock_deletes_any_key (key : Key) :
    (unlock key none).ok ∧ (unlock key none).store = none :=
  ⟨rfl, rfl⟩

theorem renew_ok_of_missing (l : Locker) {now : Nat} {key : Key} (gone : live key now = none) :
    (renew l now key none).ok ∧ (renew l now key none).store = key := by
  simp [renew, expire, gone, Reply.ok]

theorem lockGet_cases (l : Locker) (now : Nat) (key : Key) (fault : Option String) :
    (∃ e, fault = some e ∧ (lockGet l now key fault).result = .error e) ∨
      (fault = none ∧ live key now = none ∧ (lockGet l now key fault).result = .error "redis: nil") ∨
      (∃ k, fault = none ∧ live key now = some k ∧ k.value ≠ l.ownerID ∧
        (lockGet l now key fault).result = .error ("lock is already held by " ++ k.value)) ∨
      (∃ k, fault = none ∧ live key now = some k ∧ k.value = l.ownerID ∧
        (lockGet l now key fault).result = .ok ()) := by
  rcases fault with _ | e
  · rcases k : live key now with _ | k'
    · exact .inr (.inl ⟨rfl, rfl, by simp [lockGet, get, k]⟩)
    · by_cases mine : k'.value = l.ownerID
      · exact .inr (.inr (.inr ⟨k', rfl, rfl, mine, by simp [lockGet, get, k, mine]⟩))
      · exact .inr (.inr (.inl ⟨k', rfl, rfl, mine, by simp [lockGet, get, k, mine]⟩))
  · exact .inl ⟨e, rfl, rfl⟩

theorem lockSetNX_none_cases (l : Locker) (now : Nat) (key : Key) :
    (live key now = none ∧
        lockSetNX l now key none =
          some ⟨.ok (), some ⟨l.ownerID, (setNXTtl l.lockTimeout).map (now + ·)⟩, true⟩) ∨
      (lockSetNX l now key none = none ∧ (live key now).isSome) := by
  cases k : live key now <;> simp [lockSetNX, setNX, k]

theorem held_ne_nil (other : String) : "redis: nil" ≠ "lock is already held by " ++ other := by
  intro same
  have := congrArg (fun s : String => s.data.head?) same
  simp [String.data_append] at this

theorem held_by_inj {a b : String}
    (same : "lock is already held by " ++ a = "lock is already held by " ++ b) : a = b := by
  simp only [String.ext_iff, String.data_append, List.append_cancel_left_eq] at same
  exact String.ext same

/-- `Lock`'s decision over every interleaving of its two commands. -/
theorem lock_decision (l : Locker) (t₁ t₂ : Nat) (k₁ k₂ : Key) (pos : 0 < l.lockTimeout) :
    (((lockSetNX l t₁ k₁ none).getD (lockGet l t₂ k₂ none)).result = .ok () →
      (lockSetNX l t₁ k₁ none =
          some ⟨.ok (), some ⟨l.ownerID, (setNXTtl l.lockTimeout).map (t₁ + ·)⟩, true⟩ ∧
        (live (some ⟨l.ownerID, (setNXTtl l.lockTimeout).map (t₁ + ·)⟩) t₁).map Item.value =
          some l.ownerID) ∨
        (lockSetNX l t₁ k₁ none = none ∧
          (live k₂ t₂).map Item.value = some l.ownerID)) ∧
    (∀ other, ((lockSetNX l t₁ k₁ none).getD (lockGet l t₂ k₂ none)).result =
        .error ("lock is already held by " ++ other) →
      ∃ k, live k₂ t₂ = some k ∧ k.value = other ∧ other ≠ l.ownerID) ∧
    ((live k₁ t₁).map Item.value = some l.ownerID →
      (live k₂ t₂).map Item.value = some l.ownerID →
      ((lockSetNX l t₁ k₁ none).getD (lockGet l t₂ k₂ none)).result = .ok ()) := by
  rcases lockSetNX_none_cases l t₁ k₁ with ⟨free, took⟩ | ⟨handed, taken⟩
  · obtain ⟨ttl, set, ttl_pos⟩ := setNXTtl_pos pos
    have fresh : live (some ⟨l.ownerID, (setNXTtl l.lockTimeout).map (t₁ + ·)⟩) t₁ =
        some ⟨l.ownerID, (setNXTtl l.lockTimeout).map (t₁ + ·)⟩ := by
      rw [set]
      exact live_of_lt _ (show t₁ < t₁ + ttl by omega)
    refine ⟨fun _ => .inl ⟨took, by rw [fresh]; rfl⟩, fun _ conflict => ?_, fun mine _ => ?_⟩
    · simp [took] at conflict
    · simp [free] at mine
  · simp only [handed, Option.getD_none]
    rcases lockGet_cases l t₂ k₂ none with ⟨e, none_eq, _⟩ | ⟨-, gone, nil⟩ |
      ⟨k, -, found, other, held⟩ | ⟨k, -, found, mine, ok⟩
    · cases none_eq
    · refine ⟨fun ok => by simp [nil] at ok, fun o conflict => ?_, fun _ own => ?_⟩
      · exact absurd (Except.error.inj (nil.symm.trans conflict)) (held_ne_nil o)
      · simp [gone] at own
    · refine ⟨fun ok => by simp [held] at ok, fun o conflict => ?_, fun _ own => ?_⟩
      · obtain rfl := held_by_inj (Except.error.inj (held.symm.trans conflict))
        exact ⟨k, found, rfl, other⟩
      · simp [found] at own
        exact absurd own other
    · refine ⟨fun _ => .inr ⟨trivial, by simp [found, mine]⟩, fun o conflict => ?_, fun _ _ => ok⟩
      simp [ok] at conflict

/-- `A`'s own key is live at both commands: its second `Lock` returns nil through `GET`. -/
theorem lock_decision_reentrant :
    ((lockSetNX ⟨"A", 10000000000⟩ 1 (some ⟨"A", some 10000000000⟩) none).getD
      (lockGet ⟨"A", 10000000000⟩ 2 (some ⟨"A", some 10000000000⟩) none)).result = .ok () :=
  (lock_decision ⟨"A", 10000000000⟩ 1 2 _ _ (by decide)).2.2 rfl rfl

end DistLock.Redis

namespace DistLock.Redis

open Cluster

def NoReentry (T : Nat) (c : Cluster World) (e : Event (Option String)) : Prop :=
  c.store.getting e.owner = true → e.call = .lock →
    (lockGet ⟨e.owner, T⟩ e.time c.store.key e.fault).result ≠ .ok ()

structure Disciplined (T : Nat) (c : Cluster World) (e : Event (Option String)) : Prop where
  serial : Serial c e
  timely : Timely c e
  noReentry : NoReentry T c e

/-- A lock timeout for which both TTLs go-redis sends keep the key for at least the timeout. -/
structure KeptTtl (T : Nat) : Prop where
  set : (setNXTtl T).all (T ≤ ·)
  expire : T ≤ formatSec T * 1000000000

theorem keptTtl_iff (T : Nat) :
    KeptTtl T ↔ (T < 1000000 ∨ T % 1000000 = 0) ∧ (T < 1000000000 ∨ T % 1000000000 = 0) := by
  have set : (setNXTtl T).all (T ≤ ·) ↔ T < 1000000 ∨ T % 1000000 = 0 := by
    unfold setNXTtl usePrecise formatMs formatSec
    split_ifs <;> simp at * <;> omega
  have expire : T ≤ formatSec T * 1000000000 ↔ T < 1000000000 ∨ T % 1000000000 = 0 := by
    unfold formatSec
    split_ifs <;> omega
  exact ⟨fun kept => ⟨set.1 kept.set, expire.1 kept.expire⟩,
    fun ⟨s, e⟩ => ⟨set.2 s, expire.2 e⟩⟩

def World.record (w : World) : Option LockRecord :=
  w.key.bind fun k => k.expiresAt.map (⟨k.value, ·⟩)

theorem record_alive {w : World} {owner : String} {e now : Nat}
    (held : w.record = some ⟨owner, e⟩) (lt : now < e) :
    w.key = some ⟨owner, some e⟩ ∧ live w.key now = some ⟨owner, some e⟩ := by
  rcases hw : w.key with _ | ⟨value, _ | e'⟩ <;> simp [World.record, hw] at held
  obtain ⟨rfl, rfl⟩ := held
  exact ⟨rfl, live_of_lt _ lt⟩

theorem exec_key_of_live (T : Nat) {w : World} {e : Event (Option String)} {k : Item}
    (alive : live w.key e.time = some k) (lock : e.call = .lock) :
    (exec T w e).2.key = w.key := by
  simp only [exec, lock]
  split
  · exact (lockGet_store _ _ _ _).trans rfl
  · rcases hs : lockSetNX ⟨e.owner, T⟩ e.time w.key e.fault with _ | r
    · rfl
    · exact lockSetNX_live _ _ (by simp [alive]) r hs

theorem keepsRecord {T : Nat} (kept : KeptTtl T) :
    KeepsRecord (exec T) T (Disciplined T) World.record where
  other := by
    intro c e i inv now ⟨_, timely, _⟩ other holds
    obtain ⟨expiry, held, covers⟩ := inv i (holds.of_le now)
    cases hc : e.call with
    | lock =>
      simp only [World.record,
        exec_key_of_live T (record_alive held (Nat.lt_of_lt_of_le holds.2 covers)).2 hc]
    | unlock | renew =>
      exact absurd ((inv e.owner ((timely (by simp [hc])).of_le now)).owner_eq
        ⟨expiry, held, covers⟩) other
  own := by
    intro c e inv now ⟨_, timely, noReentry⟩ holds
    simp only [Holds, step_views_self] at holds ⊢
    cases hc : e.call with
    | lock =>
      by_cases getting : c.store.getting e.owner = true
      · have err := noReentry getting hc
        cases ok : (lockGet ⟨e.owner, T⟩ e.time c.store.key e.fault).result
        · simp [exec, hc, getting, ok, View.record] at holds
        · exact absurd ok err
      · rcases hs : lockSetNX ⟨e.owner, T⟩ e.time c.store.key e.fault with _ | r
        · simp only [exec, hc, getting, hs, Bool.false_eq_true, if_false] at holds ⊢
          exact inv e.owner ((show c.Holds e.owner e.time from holds).of_le now)
        · cases ok : r.result
          · simp [exec, hc, getting, hs, ok, View.record] at holds
          · simp only [exec, hc, getting, hs, ok, Bool.false_eq_true, ite_false, View.record]
              at holds ⊢
            obtain ⟨ttl, set, -⟩ := setNXTtl_pos (show 0 < T by omega)
            have longer : T ≤ ttl := by simpa [set] using kept.set
            simp only [World.record, lockSetNX_ok hs ok, set]
            exact ⟨e.time + ttl, rfl, by omega⟩
    | unlock => simp [exec, hc, View.record] at holds
    | renew =>
      have mine := inv e.owner ((timely (by simp [hc])).of_le now)
      have ⟨expiry, held, covers⟩ := mine
      obtain ⟨key, alive⟩ := record_alive held (Nat.lt_of_lt_of_le (timely (by simp [hc])).2 covers)
      cases hf : e.fault <;> simp only [exec, hc, hf, renew, View.record] at holds ⊢
      · have pos : 0 < T := by omega
        have := kept.expire
        simp only [expire, alive, formatSec_ne_zero pos, ite_false, World.record]
        exact ⟨_, rfl, by omega⟩
      · exact mine

/-- Mutual exclusion over every interleaving in which only the holder calls `Renew` and `Unlock`,
no `Lock` re-enters, and go-redis keeps the TTLs whole. -/
theorem redis_exclusive_of_disciplined (T : Nat) (kept : KeptTtl T) (c : Cluster World)
    (reach : Reachable (exec T) T (Disciplined T) c) : c.Exclusive :=
  (keepsRecord kept).exclusive reach

theorem redis_exclusive_of_disciplined_after_lock :
    KeptTtl 10000000000 ∧
      Reachable (exec 10000000000) 10000000000 (Disciplined 10000000000)
        ((⟨⟨none, fun _ => false⟩, 0, fun _ => {}⟩ : Cluster World).step (exec 10000000000)
          10000000000 ⟨"A", .lock, 0, none⟩) ∧
      ((⟨⟨none, fun _ => false⟩, 0, fun _ => {}⟩ : Cluster World).step (exec 10000000000)
          10000000000 ⟨"A", .lock, 0, none⟩).Exclusive :=
  let kept : KeptTtl 10000000000 := (keptTtl_iff _).2 (by decide)
  let reach := Reachable.step (.init ⟨none, fun _ => false⟩ 0) (Nat.le_refl _)
    ⟨by decide, fun lock => absurd rfl lock, fun getting => absurd getting Bool.false_ne_true⟩
  ⟨kept, reach, redis_exclusive_of_disciplined _ kept _ reach⟩

/-- `A`'s late `Renew` extends `B`'s key; and with `T = 1.5s`, `EXPIRE 1` cuts `A`'s key to
1.75s and `B` takes it while `A` holds. -/
theorem redis_late_expire_breaks_exclusion :
    (¬ ∀ c, Reachable (exec 10000000000) 10000000000 Serial c → c.Exclusive) ∧
      ¬ ∀ c, Reachable (exec 1500000000) 1500000000 (Disciplined 1500000000) c → c.Exclusive := by
  constructor
  · intro exclusive
    let c₀ : Cluster World := ⟨⟨none, fun _ => false⟩, 0, fun _ => {}⟩
    let c₁ := c₀.step (exec 10000000000) 10000000000 ⟨"A", .lock, 0, none⟩
    let c₂ := c₁.step (exec 10000000000) 10000000000 ⟨"B", .lock, 11000000000, none⟩
    let c₃ := c₂.step (exec 10000000000) 10000000000 ⟨"A", .renew, 12000000000, none⟩
    have reach : Reachable (exec 10000000000) 10000000000 Serial c₃ :=
      .step (.step (.step (.init _ 0) (Nat.le_refl _) (by decide)) (by decide) (by decide))
        (by decide) (by decide)
    exact absurd (exclusive c₃ reach _ (Nat.le_refl _) "A" "B" (by decide) (by decide))
      (by decide)
  · intro exclusive
    let c₀ : Cluster World := ⟨⟨none, fun _ => false⟩, 0, fun _ => {}⟩
    let c₁ := c₀.step (exec 1500000000) 1500000000 ⟨"A", .lock, 0, none⟩
    let c₂ := c₁.step (exec 1500000000) 1500000000 ⟨"A", .renew, 750000000, none⟩
    let c₃ := c₂.step (exec 1500000000) 1500000000 ⟨"B", .lock, 1800000000, none⟩
    have reach : Reachable (exec 1500000000) 1500000000 (Disciplined 1500000000) c₃ :=
      .step (.step (.step (.init _ 0) (Nat.le_refl _)
          ⟨by decide, fun lock => absurd rfl lock, fun getting => absurd getting (by decide)⟩)
        (by decide) ⟨by decide, fun _ => by decide, fun getting => absurd getting (by decide)⟩)
        (by decide) ⟨by decide, fun lock => absurd rfl lock, fun getting => absurd getting (by decide)⟩
    exact absurd (exclusive c₃ reach _ (Nat.le_refl _) "A" "B" (by decide) (by decide))
      (by decide)

end DistLock.Redis

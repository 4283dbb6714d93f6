import DistLock.Gorm
import DistLock.Redis
import DistLock.Memcached
import DistLock.Mongo
import DistLock.Etcd
import DistLock.Consul
import DistLock.Zookeeper

namespace DistLock.Harness

/-- Where a goroutine is in `renewLock`'s loop; nothing closes `l.stopChan`. -/
inductive Pc
  /-- At the top of the loop: the `select` is about to evaluate `l.renewTicker.C`. -/
  | select
  /-- Blocked in the `select` on the channel of ticker `k`. -/
  | waiting (k : Nat)
  /-- Took a tick: calling `l.Renew`, which first waits for `l.mu`. -/
  | renewing
  /-- Evaluated `l.renewTicker.C` while `l.renewTicker` was nil. -/
  | panicked
  deriving DecidableEq, Repr

/-- The renewal fields of a locker (tickers numbered as `time.NewTicker` made them), and whether
an `Unlock` started with no nil `Lock` since (`released`) and the lock is held (`held`). -/
structure Instance where
  renewTicker : Option Nat
  tickers : Nat
  stopped : List Nat
  goroutines : List Pc
  released : Bool
  held : Bool
  deriving DecidableEq, Repr

def Instance.new : Instance := ⟨none, 0, [], [], false, false⟩

/-- The calls and the goroutines' steps; a `Lock` says whether it started a renewal and returned nil. -/
inductive Ev
  | lock (renews ok : Bool)
  | renew
  | unlock
  | go (g : Nat)
  deriving DecidableEq, Repr

def Ev.ofReply {β : Type} (r : Reply β) : Ev := .lock r.renews r.ok

/-- `Lock` under `l.mu`: a renewing one replaces `l.renewTicker`, leaving the old ticker running. -/
def lockCall (h : Instance) (renews ok : Bool) : Instance :=
  let h := if renews then
    { h with renewTicker := some h.tickers, tickers := h.tickers + 1,
             goroutines := h.goroutines ++ [.select] } else h
  { h with released := h.released && !ok, held := ok }

def unlockCall (h : Instance) : Instance :=
  { h with renewTicker := none, released := true, held := false,
           stopped := match h.renewTicker with
             | some k => k :: h.stopped
             | none => h.stopped }

/-- One step of goroutine `g`, and whether it was a `Renew`; `none` when it is blocked or gone. -/
def goStep (h : Instance) (g : Nat) : Option (Instance × Bool) :=
  match h.goroutines[g]? with
  | some .select =>
    some ({ h with goroutines := h.goroutines.set g (match h.renewTicker with
      | some k => .waiting k
      | none => .panicked) }, false)
  | some (.waiting k) =>
    if k ∈ h.stopped then none
    else some ({ h with goroutines := h.goroutines.set g .renewing }, false)
  | some .renewing => some ({ h with goroutines := h.goroutines.set g .select }, true)
  | some .panicked | none => none

def step (h : Instance) : Ev → Option (Instance × Bool)
  | .lock renews ok => some (lockCall h renews ok, false)
  | .renew => some (h, false)
  | .unlock => some (unlockCall h, false)
  | .go g => goStep h g

inductive Reachable (allowed : Instance → Ev → Prop) : Instance → Prop
  | new : Reachable allowed Instance.new
  | step {h h' : Instance} {e : Ev} {renewed : Bool} : Reachable allowed h → allowed h e →
      step h e = some (h', renewed) → Reachable allowed h'

section Adapters

variable {β : Type}

/-- One step of goroutine `g` with the backend: a tick sends the adapter's `renew`. -/
def renewLock (renew : β → Reply β) (h : Instance) (store : β) (g : Nat) : Option (Instance × β) :=
  (goStep h g).map fun (h', renewed) => (h', if renewed then (renew store).store else store)

def unlock (unlock : β → Reply β) (h : Instance) (store : β) : Except String Unit × Instance × β :=
  let r := unlock store
  (r.result, unlockCall h, r.store)

def GORMLocker.renewLock (dialect : Gorm.Dialect) (l : Locker) (now : Nat) (fault : Gorm.Fault) :=
  Harness.renewLock (Gorm.renew dialect l now · fault)

def GORMLocker.unlock (fault : Gorm.Fault) := Harness.unlock (Gorm.unlock · fault)

def RedisLocker.renewLock (l : Locker) (now : Nat) (fault : Option String) :=
  Harness.renewLock (Redis.renew l now · fault)

def RedisLocker.unlock (fault : Option String) := Harness.unlock (Redis.unlock · fault)

def MemcachedLocker.renewLock (l : Locker) (now : Nat) (fault : Option String) :=
  Harness.renewLock (Memcached.renew l now · fault)

def MemcachedLocker.unlock (now : Nat) (fault : Option String) :=
  Harness.unlock (Memcached.unlock now · fault)

def MongoLocker.renewLock (l : Locker) (now : Nat) (fault : Option String) :=
  Harness.renewLock (Mongo.renew l now · fault)

def MongoLocker.unlock (fault : Option String) := Harness.unlock (Mongo.unlock · fault)

def EtcdLocker.renewLock (leaseID now : Nat) (fault : Option String) :=
  Harness.renewLock (Etcd.renew leaseID now · fault)

def EtcdLocker.unlock (leaseID now : Nat) (f : Etcd.Faults) :=
  Harness.unlock (Etcd.unlock leaseID now · f)

def ConsulLocker.renewLock (l : Locker) (now : Nat) (fault : Option String) :=
  Harness.renewLock (Consul.renew l now · fault)

def ConsulLocker.unlock (fault : Option String) := Harness.unlock (Consul.unlock · fault)

def ZookeeperLocker.renewLock := Harness.renewLock Zookeeper.renew

def ZookeeperLocker.unlock (lockPath : String) (l : Locker) (fault : Option String) :=
  Harness.unlock (Zookeeper.unlock lockPath l · fault)

end Adapters

end DistLock.Harness

namespace DistLock.Harness

def Instance.live (h : Instance) : Pc → Bool
  | .select => h.renewTicker.any (· ∉ h.stopped)
  | .waiting k => k ∉ h.stopped
  | .renewing => true
  | .panicked => false

def NeverNilTicker (allowed : Instance → Ev → Prop) : Prop :=
  ∀ h, Reachable allowed h → Pc.panicked ∉ h.goroutines

def NoRenewalAfterRelease (allowed : Instance → Ev → Prop) : Prop :=
  ∀ h, Reachable allowed h → h.released = true → ∀ g h', goStep h g ≠ some (h', true)

def OneRenewalWhileHeld (allowed : Instance → Ev → Prop) : Prop :=
  ∀ h e h' renewed, Reachable allowed h → (∀ g, e ≠ .go g) → step h e = some (h', renewed) →
    h'.goroutines.countP h'.live = if h'.held then 1 else 0

/-- `Unlock` runs before the goroutine's first `select`, which reads the nil ticker. -/
theorem unlock_before_first_select_panics :
    ¬ NeverNilTicker fun _ _ => True := by
  intro never
  let lock := Ev.ofReply (Gorm.lock .mysql ⟨"A", 10⟩ 0 none .none)
  have reach : Reachable (fun _ _ => True) ⟨none, 1, [0], [.panicked], true, false⟩ :=
    .step (.step (.step .new (e := lock) trivial rfl) (e := .unlock) trivial rfl)
      (e := .go 0) trivial rfl
  exact never _ reach (List.mem_singleton_self _)

/-- A goroutine that took a tick waits for `l.mu` through `Unlock`, then renews. -/
theorem renew_after_unlock :
    ¬ NoRenewalAfterRelease fun _ _ => True := by
  intro never
  let lock := Ev.ofReply (Redis.lock ⟨"A", 10⟩ 0 none none none)
  have reach : Reachable (fun _ _ => True) ⟨none, 1, [0], [.renewing], true, false⟩ :=
    .step (.step (.step (.step .new (e := lock) trivial rfl) (e := .go 0) trivial rfl)
      (e := .go 0) trivial rfl) (e := .unlock) trivial rfl
  exact never _ reach rfl 0 _ rfl

/-- A memcached `Lock` that finds its own key held fails, and the first renewal goes on. -/
theorem failed_lock_keeps_renewal :
    ¬ OneRenewalWhileHeld fun _ _ => True := by
  intro one
  let first := Memcached.lock ⟨"A", 10000000000⟩ 0 none none
  let second := Memcached.lock ⟨"A", 10000000000⟩ 1 first.store none
  have reach : Reachable (fun _ _ => True) (lockCall .new first.renews first.ok) :=
    .step .new (e := .ofReply first) trivial rfl
  have count := one _ (.ofReply second) _ false reach (fun _ => Ev.noConfusion) rfl
  exact absurd count (by decide)

end DistLock.Harness

namespace DistLock.Harness

def NoOverwrite (h : Instance) : Ev → Prop
  | .lock renews _ => renews = true → h.renewTicker = none
  | _ => True

def Orderly (h : Instance) : Ev → Prop
  | .lock renews ok => renews = true → h.renewTicker = none ∧ ok = true
  | _ => True

theorem Orderly.noOverwrite {h : Instance} {e : Ev} (orderly : Orderly h e) : NoOverwrite h e := by
  cases e with
  | lock renews ok => exact fun renewing => (orderly renewing).1
  | _ => trivial

/-- The tickers still running are exactly `l.renewTicker`. -/
structure Tidy (h : Instance) : Prop where
  stopped : ∀ k ∈ h.stopped, k < h.tickers
  current : ∀ k, h.renewTicker = some k → k < h.tickers
  running : ∀ k < h.tickers, k ∉ h.stopped ↔ h.renewTicker = some k
  waiting : ∀ k, Pc.waiting k ∈ h.goroutines → k < h.tickers

theorem tidy_new : Tidy Instance.new :=
  ⟨by simp [Instance.new], by simp [Instance.new], by simp [Instance.new], by simp [Instance.new]⟩

theorem Tidy.lockCall {h : Instance} (tidy : Tidy h) {renews ok : Bool}
    (fresh : renews = true → h.renewTicker = none) : Tidy (lockCall h renews ok) := by
  cases renews with
  | false => exact ⟨tidy.stopped, tidy.current, tidy.running, tidy.waiting⟩
  | true =>
    have none := fresh rfl
    have fresh_k : h.tickers ∉ h.stopped := fun mem => Nat.lt_irrefl _ (tidy.stopped _ mem)
    refine ⟨fun k mem => Nat.lt_succ_of_lt (tidy.stopped k mem), by simp [Harness.lockCall], ?_, ?_⟩
    · intro k lt
      simp only [Harness.lockCall, if_true, Option.some.injEq]
      rcases Nat.lt_succ_iff_lt_or_eq.mp lt with lt | rfl
      · have := tidy.running k lt
        simp only [none, reduceCtorEq, iff_false, not_not] at this
        simp [this, Nat.ne_of_gt lt]
      · simp [fresh_k]
    · intro k mem
      simp only [Harness.lockCall, if_true, List.mem_append, List.mem_singleton,
        reduceCtorEq, or_false] at mem
      exact Nat.lt_succ_of_lt (tidy.waiting k mem)

theorem Tidy.unlockCall {h : Instance} (tidy : Tidy h) : Tidy (unlockCall h) := by
  refine ⟨?_, by simp [Harness.unlockCall], ?_, tidy.waiting⟩
  · cases current : h.renewTicker with
    | none => simpa [Harness.unlockCall, current] using tidy.stopped
    | some k =>
      simpa [Harness.unlockCall, current, tidy.current k current] using tidy.stopped
  · intro k lt
    have := tidy.running k lt
    cases current : h.renewTicker with
    | none => simp_all [Harness.unlockCall]
    | some j => by_cases same : k = j <;> simp_all [Harness.unlockCall, Ne.symm]

/-- What a goroutine's step can do: only its own place changes. -/
theorem goStep_cases {h h' : Instance} {g : Nat} {renewed : Bool}
    (stepped : goStep h g = some (h', renewed)) :
    ∃ pc, h' = { h with goroutines := h.goroutines.set g pc } ∧
      ((h.goroutines[g]? = some .select ∧ renewed = false ∧
          pc = h.renewTicker.elim .panicked .waiting) ∨
        (∃ k, h.goroutines[g]? = some (.waiting k) ∧ k ∉ h.stopped ∧ renewed = false ∧
          pc = .renewing) ∨
        (h.goroutines[g]? = some .renewing ∧ renewed = true ∧ pc = .select)) := by
  unfold goStep at stepped
  split at stepped
  · cases stepped
    refine ⟨_, rfl, .inl ⟨‹_›, rfl, ?_⟩⟩
    cases h.renewTicker <;> rfl
  · split at stepped
    · cases stepped
    · cases stepped
      exact ⟨_, rfl, .inr (.inl ⟨_, ‹_›, ‹_›, rfl, rfl⟩)⟩
  · cases stepped
    exact ⟨_, rfl, .inr (.inr ⟨‹_›, rfl, rfl⟩)⟩
  all_goals cases stepped

theorem Tidy.goStep {h h' : Instance} {g : Nat} {renewed : Bool} (tidy : Tidy h)
    (stepped : goStep h g = some (h', renewed)) : Tidy h' := by
  obtain ⟨pc, rfl, cases⟩ := goStep_cases stepped
  have fits : ∀ k, pc = .waiting k → k < h.tickers := by
    rcases cases with ⟨-, -, rfl⟩ | ⟨_, -, -, -, rfl⟩ | ⟨-, -, rfl⟩
    · intro k same
      cases current : h.renewTicker <;>
        simp only [current, Option.elim_none, Option.elim_some, reduceCtorEq, Pc.waiting.injEq]
          at same
      exact same ▸ tidy.current _ current
    all_goals exact fun _ same => Pc.noConfusion same
  exact ⟨tidy.stopped, tidy.current, tidy.running, fun k mem =>
    (List.mem_or_eq_of_mem_set mem).elim (tidy.waiting k) (fits k ·.symm)⟩

theorem Tidy.step {h h' : Instance} {e : Ev} {renewed : Bool} (tidy : Tidy h)
    (allowed : NoOverwrite h e) (stepped : step h e = some (h', renewed)) : Tidy h' := by
  cases e with
  | lock renews ok => cases stepped; exact tidy.lockCall allowed
  | renew => cases stepped; exact tidy
  | unlock => cases stepped; exact tidy.unlockCall
  | go g => exact tidy.goStep stepped

theorem tidy_reachable {allowed : Instance → Ev → Prop}
    (noOverwrite : ∀ h e, allowed h e → NoOverwrite h e) {h : Instance}
    (reach : Reachable allowed h) : Tidy h := by
  induction reach with
  | new => exact tidy_new
  | step _ ok stepped tidy => exact tidy.step (noOverwrite _ _ ok) stepped

end DistLock.Harness

namespace DistLock.Harness

def Quiet (h : Instance) : Prop :=
  h.released = true → h.renewTicker = none

theorem quiet_reachable {h : Instance} (reach : Reachable Orderly h) : Quiet h := by
  induction reach with
  | new => intro; rfl
  | @step h h' e _ _ orderly stepped quiet =>
    cases e with
    | lock renews ok =>
      cases stepped
      cases renews with
      | false => simpa [Quiet, lockCall] using fun released (_ : ok = false) => quiet released
      | true => simp [Quiet, lockCall, (orderly rfl).2]
    | renew => cases stepped; exact quiet
    | unlock => cases stepped; intro; rfl
    | go g =>
      obtain ⟨pc, rfl, -⟩ := goStep_cases stepped
      exact quiet

/-- After an `Unlock` a goroutine's step is the `Renew` of an earlier tick, or the nil select. -/
theorem late_renewals_are_pending {h h' : Instance} {g : Nat} {renewed : Bool}
    (reach : Reachable Orderly h) (released : h.released = true)
    (stepped : goStep h g = some (h', renewed)) :
    (h.goroutines[g]? = some .renewing ∧ renewed = true) ∨
      (h.goroutines[g]? = some .select ∧ h'.goroutines[g]? = some .panicked) := by
  have tidy := tidy_reachable (fun _ _ orderly => Orderly.noOverwrite orderly) reach
  have none := quiet_reachable reach released
  obtain ⟨pc, rfl, ⟨select, -, rfl⟩ | ⟨k, waiting, running, -⟩ | ⟨renewing, rfl, -⟩⟩ :=
    goStep_cases stepped
  · exact .inr ⟨select, by simp [List.getElem?_set_self', select, none]⟩
  · have made := tidy.waiting k (List.getElem?_mem waiting)
    exact absurd ((tidy.running k made).mp running) (by simp [none])
  · exact .inl ⟨renewing, rfl⟩

theorem late_renewals_are_pending_after_unlock :
    let h : Instance := ⟨none, 1, [0], [.renewing], true, false⟩
    let h' : Instance := ⟨none, 1, [0], [.select], true, false⟩
    Reachable Orderly h ∧ h.released = true ∧ goStep h 0 = some (h', true) ∧
      ((h.goroutines[0]? = some .renewing ∧ true = true) ∨
        (h.goroutines[0]? = some .select ∧ h'.goroutines[0]? = some .panicked)) :=
  have reach : Reachable Orderly ⟨none, 1, [0], [.renewing], true, false⟩ :=
    .step (.step (.step (.step .new (e := .lock true true) (fun _ => ⟨rfl, rfl⟩) rfl)
      (e := .go 0) trivial rfl) (e := .go 0) trivial rfl) (e := .unlock) trivial rfl
  ⟨reach, rfl, rfl, late_renewals_are_pending reach rfl rfl⟩

/-- The running tickers are exactly `l.renewTicker`, and which adapters start a renewal. -/
theorem running_ticker_is_current :
    (∀ h, Reachable NoOverwrite h →
      (∀ k < h.tickers, k ∉ h.stopped ↔ h.renewTicker = some k) ∧
        ∀ k, Pc.waiting k ∈ h.goroutines → k ∉ h.stopped → h.renewTicker = some k) ∧
    (∀ l now s fault, (Memcached.lock l now s fault).renews = (Memcached.lock l now s fault).ok) ∧
    (∀ l now docs fault, (Mongo.lock l now docs fault).renews = (Mongo.lock l now docs fault).ok) ∧
    (∀ l leaseID now b f,
      (Etcd.lock l leaseID now b f).1.renews = (Etcd.lock l leaseID now b f).1.ok) ∧
    (∀ l now sessionID b f,
      (Consul.lock l now sessionID b f).renews = (Consul.lock l now sessionID b f).ok) ∧
    (∀ lockPath l nodes fault,
      (Zookeeper.lock lockPath l nodes fault).renews = (Zookeeper.lock lockPath l nodes fault).ok) ∧
    (∀ dialect l now row fault,
      (Gorm.lock dialect l now row fault).ok → (Gorm.lock dialect l now row fault).renews) ∧
    (∀ l now key setFault getFault,
      (Redis.lock l now key setFault getFault).renews →
        (Redis.lock l now key setFault getFault).ok) :=
  ⟨fun _ reach =>
    have tidy := tidy_reachable (fun _ _ ok => ok) reach
    ⟨tidy.running, fun k mem running => (tidy.running k (tidy.waiting k mem)).mp running⟩,
    Memcached.lock_renews, Mongo.lock_renews, Etcd.lock_renews, Consul.lock_renews,
    Zookeeper.lock_renews, fun _ _ _ _ _ ok => Gorm.lock_renews_of_ok ok,
    fun _ _ _ _ _ renews => Redis.lock_ok_of_renews renews⟩

theorem running_ticker_is_current_relock :
    let h : Instance := ⟨some 1, 2, [0], [.waiting 0, .select], false, true⟩
    Reachable NoOverwrite h ∧ (∀ k < h.tickers, k ∉ h.stopped ↔ h.renewTicker = some k) ∧
      ∀ k, Pc.waiting k ∈ h.goroutines → k ∉ h.stopped → h.renewTicker = some k :=
  have reach : Reachable NoOverwrite ⟨some 1, 2, [0], [.waiting 0, .select], false, true⟩ :=
    .step (.step (.step (.step .new (e := .lock true true) (fun _ => rfl) rfl) (e := .go 0) trivial
      rfl) (e := .unlock) trivial rfl) (e := .lock true true) (fun _ => rfl) rfl
  ⟨reach, running_ticker_is_current.1 _ reach⟩

end DistLock.Harness

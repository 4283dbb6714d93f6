import DistLock.Basic

namespace DistLock

/-- What an instance knows of its lock: whether it holds it, and until when it counts on it. -/
structure View where
  locked : Bool := false
  leaseEnd : Nat := 0
  deriving DecidableEq, Repr

def View.record (lockTimeout : Nat) (call : Call) (time : Nat) (result : Except String Unit)
    (v : View) : View :=
  match call, result with
  | .lock, .ok _ => { locked := true, leaseEnd := time + lockTimeout }
  | .lock, .error _ => { v with locked := false }
  | .renew, .ok _ => { v with leaseEnd := time + lockTimeout }
  | .renew, .error _ => v
  | .unlock, _ => { v with locked := false }

structure Event (φ : Type) where
  owner : String
  call : Call
  time : Nat
  fault : φ

/-- Instances with pairwise distinct owner IDs on one lock name, and the backend they share. -/
structure Cluster (β : Type) where
  store : β
  clock : Nat
  views : String → View

namespace Cluster

variable {β φ : Type}

def Holds (c : Cluster β) (i : String) (t : Nat) : Prop :=
  (c.views i).locked = true ∧ t < (c.views i).leaseEnd

instance (c : Cluster β) (i : String) (t : Nat) : Decidable (c.Holds i t) :=
  inferInstanceAs (Decidable (_ ∧ _))

def Exclusive (c : Cluster β) : Prop :=
  ∀ t, c.clock ≤ t → ∀ i j, c.Holds i t → c.Holds j t → i = j

/-- An adapter's backend: a request's result if its call returns with it, and the backend after. -/
abbrev Exec (β φ : Type) := β → Event φ → Option (Except String Unit) × β

def step (exec : Exec β φ) (lockTimeout : Nat) (c : Cluster β) (e : Event φ) : Cluster β where
  store := (exec c.store e).2
  clock := e.time
  views := match (exec c.store e).1 with
    | some r =>
      Function.update c.views e.owner ((c.views e.owner).record lockTimeout e.call e.time r)
    | none => c.views

/-- Runs from any backend state, with every instance idle, and requests at non-decreasing times. -/
inductive Reachable (exec : Exec β φ) (lockTimeout : Nat) (adm : Cluster β → Event φ → Prop) :
    Cluster β → Prop
  | init (store : β) (clock : Nat) : Reachable exec lockTimeout adm ⟨store, clock, fun _ => {}⟩
  | step {c : Cluster β} {e : Event φ} : Reachable exec lockTimeout adm c → c.clock ≤ e.time →
      adm c e → Reachable exec lockTimeout adm (c.step exec lockTimeout e)

def Timely (c : Cluster β) (e : Event φ) : Prop :=
  e.call ≠ .lock → c.Holds e.owner e.time

theorem Holds.of_le {c : Cluster β} {i : String} {t t' : Nat} (holds : c.Holds i t)
    (le : t' ≤ t) : c.Holds i t' :=
  ⟨holds.1, by have := holds.2; omega⟩

@[simp] theorem step_clock (exec : Exec β φ) (T : Nat) (c : Cluster β) (e : Event φ) :
    (c.step exec T e).clock = e.time := rfl

@[simp] theorem step_store (exec : Exec β φ) (T : Nat) (c : Cluster β) (e : Event φ) :
    (c.step exec T e).store = (exec c.store e).2 := rfl

theorem step_views_of_ne (exec : Exec β φ) (T : Nat) (c : Cluster β) {e : Event φ} {i : String}
    (other : i ≠ e.owner) : (c.step exec T e).views i = c.views i := by
  unfold step
  split <;> simp [Function.update_noteq other]

theorem step_views_self (exec : Exec β φ) (T : Nat) (c : Cluster β) (e : Event φ) :
    (c.step exec T e).views e.owner = match (exec c.store e).1 with
      | some r => (c.views e.owner).record T e.call e.time r
      | none => c.views e.owner := by
  unfold step
  split <;> simp_all

def Covers (record : Option LockRecord) (i : String) (leaseEnd : Nat) : Prop :=
  ∃ e, record = some ⟨i, e⟩ ∧ leaseEnd ≤ e

theorem Covers.exact (i : String) (e : Nat) : Covers (some ⟨i, e⟩) i e := ⟨e, rfl, Nat.le_refl e⟩

theorem Covers.owner_eq {r : Option LockRecord} {i j : String} {a b : Nat} (ci : Covers r i a)
    (cj : Covers r j b) : i = j := by
  obtain ⟨e, rfl, -⟩ := ci
  obtain ⟨e', same, -⟩ := cj
  simp only [Option.some.injEq, LockRecord.mk.injEq] at same
  exact same.1

/-- Every instance that holds is the one the record names, and the record outlasts its lease. -/
def RecordInv (record : β → Option LockRecord) (c : Cluster β) : Prop :=
  ∀ i, c.Holds i c.clock → Covers (record c.store) i (c.views i).leaseEnd

theorem RecordInv.exclusive {record : β → Option LockRecord} {c : Cluster β}
    (inv : RecordInv record c) : c.Exclusive :=
  fun _ now i j hi hj => (inv i (hi.of_le now)).owner_eq (inv j (hj.of_le now))

/-- What a request may do to the record, said once per adapter. -/
structure KeepsRecord (exec : Exec β φ) (T : Nat) (adm : Cluster β → Event φ → Prop)
    (record : β → Option LockRecord) : Prop where
  other : ∀ c e i, RecordInv record c → c.clock ≤ e.time → adm c e → e.owner ≠ i →
    c.Holds i e.time → record (exec c.store e).2 = record c.store
  own : ∀ c e, RecordInv record c → c.clock ≤ e.time → adm c e →
    (c.step exec T e).Holds e.owner e.time →
    Covers (record (exec c.store e).2) e.owner ((c.step exec T e).views e.owner).leaseEnd

variable {exec : Exec β φ} {T : Nat} {adm : Cluster β → Event φ → Prop}
  {record : β → Option LockRecord}

theorem KeepsRecord.step (keeps : KeepsRecord exec T adm record) {c : Cluster β} {e : Event φ}
    (inv : RecordInv record c) (now : c.clock ≤ e.time) (ok : adm c e) :
    RecordInv record (c.step exec T e) := by
  intro i holds
  by_cases own : i = e.owner
  · subst own
    exact keeps.own c e inv now ok holds
  · have before : c.Holds i e.time := by
      simpa only [Holds, step_views_of_ne exec T c own] using holds
    rw [step_store, keeps.other c e i inv now ok (Ne.symm own) before,
      step_views_of_ne exec T c own]
    exact inv i (before.of_le now)

theorem KeepsRecord.reachable (keeps : KeepsRecord exec T adm record) {c : Cluster β}
    (reach : Reachable exec T adm c) : RecordInv record c := by
  induction reach with
  | init store clock => intro i holds; simp [Holds] at holds
  | step _ now ok inv => exact keeps.step inv now ok

/-- Mutual exclusion over whole runs, for every adapter whose requests keep the record. -/
theorem KeepsRecord.exclusive (keeps : KeepsRecord exec T adm record) {c : Cluster β}
    (reach : Reachable exec T adm c) : c.Exclusive :=
  (keeps.reachable reach).exclusive

end Cluster

end DistLock

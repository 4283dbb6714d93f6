import Mathlib.Algebra.Group.Int

namespace DistLock

inductive Call
  | lock
  | unlock
  | renew
  deriving DecidableEq, Repr

/-- The lock record a backend keeps for the lock name: its owner and its expiry. -/
structure LockRecord where
  ownerID : String
  expiredAt : Nat
  deriving DecidableEq, Repr

structure Item where
  value : String
  expiresAt : Option Nat
  deriving DecidableEq, Repr

/-- The fields of a locker its methods read; every backend model holds the one lock name. -/
structure Locker where
  ownerID : String
  lockTimeout : Nat
  deriving DecidableEq, Repr

/-- An adapter call: its error (`.ok ()` is nil), the backend after it, and whether it ran
`go l.renewLock(...)`. -/
structure Reply (β : Type) where
  result : Except String Unit
  store : β
  renews : Bool := false

def Reply.ok {β : Type} (r : Reply β) : Bool := r.result matches .ok _

theorem bind_eq_ok {ε α β : Type} {x : Except ε α} {f : α → Except ε β} {b : β} :
    x >>= f = .ok b ↔ ∃ a, x = .ok a ∧ f a = .ok b := by
  cases x <;> simp [Bind.bind, Except.bind]

theorem map_eq_ok {ε α β : Type} {x : Except ε α} {f : α → β} {b : β} :
    x.map f = .ok b ↔ ∃ a, x = .ok a ∧ f a = b := by
  cases x <;> simp [Except.map]

/-- `m[k] = v` on a Go map kept as an association list with one entry per key. -/
def mapSet {κ ν : Type} [DecidableEq κ] (m : List (κ × ν)) (k : κ) (v : ν) : List (κ × ν) :=
  (k, v) :: m.filter (·.1 ≠ k)

end DistLock

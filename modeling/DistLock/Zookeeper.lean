import DistLock.Basic

namespace DistLock.Zookeeper

abbrev Nodes := List String

def errNodeExists : String := "zk: node already exists"
def errNoNode : String := "zk: node does not exist"

def lockNode (lockPath ownerID : String) : String := lockPath ++ "/" ++ ownerID

theorem lockNode_inj {lockPath a b : String} (same : lockNode lockPath a = lockNode lockPath b) :
    a = b := by
  simp only [lockNode, String.ext_iff, String.data_append, List.append_assoc,
    List.append_cancel_left_eq] at same
  exact String.ext same

/-- `Create(path, ..., 0, ...)`: a persistent node under an existing parent. -/
def create (nodes : Nodes) (parent path : String) : Except String Nodes :=
  if path ∈ nodes then .error errNodeExists
  else if parent ∉ nodes then .error errNoNode
  else .ok (path :: nodes)

def delete (nodes : Nodes) (path : String) : Except String Nodes :=
  if path ∈ nodes then .ok (nodes.filter (· ≠ path)) else .error errNoNode

def lock (lockPath : String) (l : Locker) (nodes : Nodes) (fault : Option String) : Reply Nodes :=
  let created : Except String Nodes := match fault with
    | some e => .error e
    | none => create nodes lockPath (lockNode lockPath l.ownerID)
  match created with
  | .error e =>
    if e = errNodeExists then
      { result := .error "lock is already held by another owner", store := nodes }
    else { result := .error ("failed to acquire lock: " ++ e), store := nodes }
  | .ok nodes' => { result := .ok (), store := nodes', renews := true }

def unlock (lockPath : String) (l : Locker) (nodes : Nodes) (fault : Option String) : Reply Nodes :=
  let deleted : Except String Nodes := match fault with
    | some e => .error e
    | none => delete nodes (lockNode lockPath l.ownerID)
  match deleted with
  | .error e => { result := .error ("failed to release lock: " ++ e), store := nodes }
  | .ok nodes' => { result := .ok (), store := nodes' }

def afterUnlock (l : Locker) (r : Reply Nodes) : Locker :=
  if r.ok then { l with ownerID := "" } else l

/-- `Renew` only logs. -/
def renew (nodes : Nodes) : Reply Nodes := { result := .ok (), store := nodes }

theorem unlock_keeps_other (lockPath : String) (l : Locker) (nodes : Nodes) (fault : Option String)
    {owner : String} (other : owner ≠ l.ownerID) (mem : lockNode lockPath owner ∈ nodes) :
    lockNode lockPath owner ∈ (unlock lockPath l nodes fault).store := by
  have ne : lockNode lockPath owner ≠ lockNode lockPath l.ownerID :=
    fun same => other (lockNode_inj same)
  cases fault with
  | some e => exact mem
  | none =>
    by_cases own : lockNode lockPath l.ownerID ∈ nodes <;>
      simp [unlock, delete, own, mem, ne]

theorem lock_renews (lockPath : String) (l : Locker) (nodes : Nodes) (fault : Option String) :
    (lock lockPath l nodes fault).renews = (lock lockPath l nodes fault).ok := by
  dsimp only [lock]
  repeat' split
  all_goals rfl

/-- `Lock` returns nil exactly when the caller's own node is absent: other nodes never matter. -/
theorem lock_ok_iff (lockPath : String) (l : Locker) (nodes : Nodes) (parent : lockPath ∈ nodes) :
    ((lock lockPath l nodes none).ok ↔ lockNode lockPath l.ownerID ∉ nodes) ∧
      ((lock lockPath l nodes none).ok →
        (lock lockPath l nodes none).store = lockNode lockPath l.ownerID :: nodes) := by
  by_cases mine : lockNode lockPath l.ownerID ∈ nodes
  · simp [lock, create, mine, Reply.ok, errNodeExists]
  · simp [lock, create, mine, parent, Reply.ok]

/-- Two instances with distinct owner IDs each create their own node, and both `Lock`s return nil. -/
theorem zookeeper_distinct_owners_both_hold :
    (lock "/lock" ⟨"A", 10000000000⟩ ["/lock"] none).ok ∧
      (lock "/lock" ⟨"B", 10000000000⟩ (lock "/lock" ⟨"A", 10000000000⟩ ["/lock"] none).store
        none).ok ∧
      lockNode "/lock" "A" ∈ (lock "/lock" ⟨"B", 10000000000⟩
        (lock "/lock" ⟨"A", 10000000000⟩ ["/lock"] none).store none).store ∧
      lockNode "/lock" "B" ∈ (lock "/lock" ⟨"B", 10000000000⟩
        (lock "/lock" ⟨"A", 10000000000⟩ ["/lock"] none).store none).store := by
  decide

end DistLock.Zookeeper

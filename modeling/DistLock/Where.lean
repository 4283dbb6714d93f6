import Mathlib.Algebra.Group.Int
import DistLock.Basic

namespace DistLock.Where

/-- Go's `int` on a 64-bit platform, and `int64`: an integer in `[-2^63, 2^63)`. -/
@[ext]
structure GoInt where
  val : Int
  ge : -2 ^ 63 ≤ val
  lt : val < 2 ^ 63
  deriving DecidableEq

namespace GoInt

def wrap (x : Int) : GoInt := ⟨(x + 2 ^ 63) % 2 ^ 64 - 2 ^ 63, by omega, by omega⟩

instance (n : Nat) : OfNat GoInt n := ⟨wrap n⟩
instance : Neg GoInt := ⟨fun a => wrap (-a.val)⟩
instance : Sub GoInt := ⟨fun a b => wrap (a.val - b.val)⟩
instance : Mul GoInt := ⟨fun a b => wrap (a.val * b.val)⟩
instance : LT GoInt := ⟨fun a b => a.val < b.val⟩
instance : LE GoInt := ⟨fun a b => a.val ≤ b.val⟩
instance (a b : GoInt) : Decidable (a < b) := inferInstanceAs (Decidable (a.val < b.val))
instance (a b : GoInt) : Decidable (a ≤ b) := inferInstanceAs (Decidable (a.val ≤ b.val))

theorem val_wrap_of_range {x : Int} (ge : -2 ^ 63 ≤ x) (lt : x < 2 ^ 63) : (wrap x).val = x := by
  simp only [wrap]
  omega

@[simp] theorem val_sub (a b : GoInt) : (a - b).val = (wrap (a.val - b.val)).val := rfl
@[simp] theorem val_mul (a b : GoInt) : (a * b).val = (wrap (a.val * b.val)).val := rfl
@[simp] theorem lt_iff (a b : GoInt) : a < b ↔ a.val < b.val := Iff.rfl
@[simp] theorem le_iff (a b : GoInt) : a ≤ b ↔ a.val ≤ b.val := Iff.rfl
@[simp] theorem val_zero : (0 : GoInt).val = 0 := rfl
@[simp] theorem val_one : (1 : GoInt).val = 1 := rfl
@[simp] theorem val_neg_one : (-1 : GoInt).val = -1 := rfl

@[simp] theorem eq_zero_iff (a : GoInt) : a = 0 ↔ a.val = 0 :=
  ⟨fun h => h ▸ rfl, fun h => GoInt.ext h⟩

theorem val_sub_one {a : GoInt} (pos : 1 ≤ a.val) : (a - 1).val = a.val - 1 :=
  show (wrap (a.val - 1)).val = _ from val_wrap_of_range (by omega) (by have := a.lt; omega)

end GoInt

/-- A Go `any`: a comparable value, compared by Go's == (the `BEq` of `α`, which need not be
lawful), or a slice, map or func value, named by its type. -/
inductive Any (α : Type) where
  | comparable (a : α)
  | unhashable (type : String)

/-- The options of a query; `none` filters stand for a nil map. -/
structure Options (α Expr : Type) where
  offset : GoInt
  limit : GoInt
  filters : Option (List (α × Any α))
  clauses : List Expr

variable {α Expr : Type}

def defaultLimit : GoInt := -1

@[simp] theorem val_defaultLimit : defaultLimit.val = -1 := rfl

def errUnhashable (type : String) : String := "runtime error: hash of unhashable type " ++ type

def setFilter [BEq α] (m : List (α × Any α)) (key : α) (value : Any α) : List (α × Any α) :=
  (key, value) :: m.filter fun e => !(e.1 == key)

/-- The loop of `F` over the pairs, up to the first key that does not hash. -/
def setFilters [BEq α] (m : List (α × Any α)) : List (Any α) → Except String (List (α × Any α))
  | .comparable key :: value :: kvs => setFilters (setFilter m key value) kvs
  | .unhashable type :: _ :: _ => .error (errUnhashable type)
  | _ => .ok m

def withOffset (offset : GoInt) (whr : Options α Expr) : Options α Expr :=
  let offset := if offset < 0 then 0 else offset
  { whr with offset := offset }

def withLimit (limit : GoInt) (whr : Options α Expr) : Options α Expr :=
  let limit := if limit ≤ 0 then defaultLimit else limit
  { whr with limit := limit }

def withPage (page pageSize : GoInt) (whr : Options α Expr) : Options α Expr :=
  let page := if page = 0 then 1 else page
  let pageSize := if pageSize = 0 then defaultLimit else pageSize
  { whr with offset := (page - 1) * pageSize, limit := pageSize }

def withFilter (filter : Option (List (α × Any α))) (whr : Options α Expr) : Options α Expr :=
  { whr with filters := filter }

def withClauses (conds : List Expr) (whr : Options α Expr) : Options α Expr :=
  { whr with clauses := whr.clauses ++ conds }

def newWhere (opts : List (Options α Expr → Options α Expr)) : Options α Expr :=
  opts.foldl (fun whr opt => opt whr) ⟨0, defaultLimit, some [], []⟩

namespace Options

def O (whr : Options α Expr) (offset : GoInt) : Options α Expr :=
  let offset := if offset < 0 then 0 else offset
  { whr with offset := offset }

def L (whr : Options α Expr) (limit : GoInt) : Options α Expr :=
  let limit := if limit ≤ 0 then defaultLimit else limit
  { whr with limit := limit }

def P (whr : Options α Expr) (page pageSize : GoInt) : Options α Expr :=
  let page := if page < 1 then 1 else page
  let pageSize := if pageSize ≤ 0 then defaultLimit else pageSize
  { whr with offset := (page - 1) * pageSize, limit := pageSize }

def C (whr : Options α Expr) (conds : List Expr) : Options α Expr :=
  { whr with clauses := whr.clauses ++ conds }

/-- `F(kvs...)`: the first assignment to a nil map panics before its key is hashed. -/
def F [BEq α] (whr : Options α Expr) (kvs : List (Any α)) : Except String (Options α Expr) :=
  if kvs.length % 2 ≠ 0 then .ok whr
  else match whr.filters, kvs with
    | some m, kvs => (setFilters m kvs).map fun m => { whr with filters := some m }
    | none, [] => .ok whr
    | none, _ :: _ => .error "assignment to entry in nil map"

end Options

def O (offset : GoInt) : Options α Expr := (newWhere []).O offset
def L (limit : GoInt) : Options α Expr := (newWhere []).L limit
def P (page pageSize : GoInt) : Options α Expr := (newWhere []).P page pageSize
def C (conds : List Expr) : Options α Expr := (newWhere []).C conds
def F [BEq α] (kvs : List (Any α)) : Except String (Options α Expr) := (newWhere []).F kvs

inductive Call (α Expr : Type) where
  | O (offset : GoInt)
  | L (limit : GoInt)
  | P (page pageSize : GoInt)
  | C (conds : List Expr)
  | F (kvs : List (Any α))

namespace Options

variable [BEq α]

def call (whr : Options α Expr) : Call α Expr → Except String (Options α Expr)
  | .O offset => .ok (whr.O offset)
  | .L limit => .ok (whr.L limit)
  | .P page pageSize => .ok (whr.P page pageSize)
  | .C conds => .ok (whr.C conds)
  | .F kvs => whr.F kvs

def chain (whr : Options α Expr) : List (Call α Expr) → Except String (Options α Expr)
  | [] => .ok whr
  | c :: calls => (whr.call c).bind fun whr => whr.chain calls

end Options

/-! ## The pagination invariant -/

namespace Options

variable (whr : Options α Expr)

def Paginated : Prop := 0 ≤ whr.offset.val ∧ (whr.limit.val = -1 ∨ 0 < whr.limit.val)

instance : Decidable whr.Paginated := inferInstanceAs (Decidable (_ ∧ _))

@[simp] theorem O_limit (offset : GoInt) : (whr.O offset).limit = whr.limit := rfl
@[simp] theorem L_offset (limit : GoInt) : (whr.L limit).offset = whr.offset := rfl
@[simp] theorem C_offset (conds : List Expr) : (whr.C conds).offset = whr.offset := rfl
@[simp] theorem C_limit (conds : List Expr) : (whr.C conds).limit = whr.limit := rfl

theorem val_offset_O (offset : GoInt) : (whr.O offset).offset.val = max offset.val 0 := by
  simp only [O, GoInt.lt_iff, GoInt.val_zero]
  by_cases neg : offset.val < 0 <;> simp only [neg, ↓reduceIte, GoInt.val_zero] <;> omega

theorem val_limit_L (limit : GoInt) :
    (whr.L limit).limit.val = if limit.val ≤ 0 then -1 else limit.val := by
  simp only [L, GoInt.le_iff, GoInt.val_zero]
  by_cases nonpos : limit.val ≤ 0 <;> simp only [nonpos, ↓reduceIte, val_defaultLimit]

theorem val_limit_P (page pageSize : GoInt) :
    (whr.P page pageSize).limit.val = if pageSize.val ≤ 0 then -1 else pageSize.val := by
  simp only [P, GoInt.le_iff, GoInt.val_zero]
  by_cases nonpos : pageSize.val ≤ 0 <;> simp only [nonpos, ↓reduceIte, val_defaultLimit]

theorem val_offset_P (page pageSize : GoInt) :
    (whr.P page pageSize).offset.val =
      (GoInt.wrap ((max page.val 1 - 1) * (whr.P page pageSize).limit.val)).val := by
  have first : ((if page < 1 then 1 else page) - 1).val = max page.val 1 - 1 := by
    split
    · next below =>
      rw [GoInt.lt_iff, GoInt.val_one] at below
      rw [GoInt.val_sub_one (Int.le_refl 1), GoInt.val_one, Int.max_eq_right (by omega)]
    · next above =>
      rw [GoInt.lt_iff, GoInt.val_one, Int.not_lt] at above
      rw [GoInt.val_sub_one above, Int.max_eq_left above]
  simp only [P, GoInt.val_mul, first]

theorem val_offset_P_of_fits (page pageSize : GoInt) (first : 1 ≤ page.val)
    (sized : 1 ≤ pageSize.val) (fits : (page.val - 1) * pageSize.val < 2 ^ 63) :
    (whr.P page pageSize).offset.val = (page.val - 1) * pageSize.val := by
  have limit : (whr.P page pageSize).limit.val = pageSize.val := by
    rw [val_limit_P, if_neg (by omega)]
  have nonneg : 0 ≤ (page.val - 1) * pageSize.val := Int.mul_nonneg (by omega) (by omega)
  rw [val_offset_P, limit, Int.max_eq_left first]
  exact GoInt.val_wrap_of_range (by omega) fits

theorem withPage_eq_P (page pageSize : GoInt) (pageNonneg : 0 ≤ page.val)
    (sizeNonneg : 0 ≤ pageSize.val) : withPage page pageSize whr = whr.P page pageSize := by
  have samePage : (if page = 0 then 1 else page) = if page < 1 then 1 else page :=
    if_congr (by simp only [GoInt.eq_zero_iff, GoInt.lt_iff, GoInt.val_one]; omega) rfl rfl
  have sameSize : (if pageSize = 0 then defaultLimit else pageSize) =
      if pageSize ≤ 0 then defaultLimit else pageSize :=
    if_congr (by simp only [GoInt.eq_zero_iff, GoInt.le_iff, GoInt.val_zero]; omega) rfl rfl
  simp only [withPage, P, samePage, sameSize]

theorem F_ok [BEq α] {kvs : List (Any α)} {whr' : Options α Expr} (run : whr.F kvs = .ok whr') :
    whr'.offset = whr.offset ∧ whr'.limit = whr.limit := by
  unfold F at run
  split at run
  · cases run
    exact ⟨rfl, rfl⟩
  · split at run
    · obtain ⟨_, -, rfl⟩ := map_eq_ok.1 run
      exact ⟨rfl, rfl⟩
    all_goals cases run <;> exact ⟨rfl, rfl⟩

variable {whr}

theorem paginated_O (inv : whr.Paginated) (offset : GoInt) : (whr.O offset).Paginated :=
  ⟨by rw [val_offset_O]; omega, inv.2⟩

theorem paginated_L (inv : whr.Paginated) (limit : GoInt) : (whr.L limit).Paginated :=
  ⟨inv.1, by rw [val_limit_L]; split <;> omega⟩

theorem paginated_P {page pageSize : GoInt}
    (keeps : page.val ≤ 1 ∨ (1 ≤ pageSize.val ∧ (page.val - 1) * pageSize.val < 2 ^ 63)) :
    (whr.P page pageSize).Paginated := by
  refine ⟨?_, by rw [val_limit_P]; split <;> omega⟩
  by_cases first : page.val ≤ 1
  · rw [val_offset_P, Int.max_eq_right first, Int.sub_self, Int.zero_mul]
    decide
  · obtain ⟨sized, fits⟩ := keeps.resolve_left first
    rw [val_offset_P_of_fits whr page pageSize (by omega) sized fits]
    exact Int.mul_nonneg (by omega) (by omega)

end Options

/-! ## Whole builds and chains -/

def Call.Keeps : Call α Expr → Prop
  | .P page pageSize => page.val ≤ 1 ∨ (1 ≤ pageSize.val ∧ (page.val - 1) * pageSize.val < 2 ^ 63)
  | _ => True

def KeepsPagination (opt : Options α Expr → Options α Expr) : Prop :=
  ∀ whr, whr.Paginated → (opt whr).Paginated

theorem withOffset_keeps (offset : GoInt) :
    KeepsPagination (withOffset offset : Options α Expr → Options α Expr) :=
  fun _ inv => Options.paginated_O inv offset

theorem withLimit_keeps (limit : GoInt) :
    KeepsPagination (withLimit limit : Options α Expr → Options α Expr) :=
  fun _ inv => Options.paginated_L inv limit

theorem withFilter_keeps (filter : Option (List (α × Any α))) :
    KeepsPagination (withFilter filter : Options α Expr → Options α Expr) :=
  fun _ inv => inv

theorem withClauses_keeps (conds : List Expr) :
    KeepsPagination (withClauses conds : Options α Expr → Options α Expr) :=
  fun _ inv => inv

theorem withPage_keeps {page pageSize : GoInt} (pageNonneg : 0 ≤ page.val)
    (sizeNonneg : 0 ≤ pageSize.val)
    (keeps : page.val ≤ 1 ∨ (1 ≤ pageSize.val ∧ (page.val - 1) * pageSize.val < 2 ^ 63)) :
    KeepsPagination (withPage page pageSize : Options α Expr → Options α Expr) := fun whr _ => by
  rw [Options.withPage_eq_P whr page pageSize pageNonneg sizeNonneg]
  exact Options.paginated_P keeps

theorem newWhere_paginated (opts : List (Options α Expr → Options α Expr))
    (keeps : ∀ opt ∈ opts, KeepsPagination opt) : (newWhere opts).Paginated := by
  suffices run : ∀ whr : Options α Expr, whr.Paginated →
      (opts.foldl (fun whr opt => opt whr) whr).Paginated from run _ ⟨Int.le_refl 0, .inl rfl⟩
  induction opts with
  | nil => exact fun _ inv => inv
  | cons opt opts ih =>
    intro whr inv
    exact ih (fun o mem => keeps o (List.mem_cons_of_mem _ mem)) _ (keeps opt (.head _) whr inv)

namespace Options

variable [BEq α] {whr whr' : Options α Expr}

theorem paginated_call {c : Call α Expr} (inv : whr.Paginated) (keeps : c.Keeps)
    (run : whr.call c = .ok whr') : whr'.Paginated := by
  cases c with
  | O offset => cases run; exact paginated_O inv offset
  | L limit => cases run; exact paginated_L inv limit
  | P page pageSize => cases run; exact paginated_P keeps
  | C conds => cases run; exact inv
  | F kvs =>
    obtain ⟨offset, limit⟩ := F_ok whr run
    exact ⟨offset ▸ inv.1, limit ▸ inv.2⟩

theorem paginated_chain (calls : List (Call α Expr)) (keeps : ∀ c ∈ calls, c.Keeps) :
    ∀ {whr whr' : Options α Expr}, whr.Paginated → whr.chain calls = .ok whr' → whr'.Paginated := by
  induction calls with
  | nil => intro _ _ inv run; cases run; exact inv
  | cons c calls ih =>
    intro whr whr' inv run
    simp only [chain] at run
    cases step : whr.call c with
    | error e => rw [step] at run; cases run
    | ok mid =>
      rw [step] at run
      exact ih (fun c' mem => keeps c' (List.mem_cons_of_mem _ mem))
        (paginated_call inv (keeps c (.head _)) step) run

end Options

/-- Every `NewWhere` and chain of calls that keep the invariant ends paginated. -/
theorem paginated_newWhere_chain [BEq α] (opts : List (Options α Expr → Options α Expr))
    (calls : List (Call α Expr)) (optsKeep : ∀ opt ∈ opts, KeepsPagination opt)
    (callsKeep : ∀ c ∈ calls, c.Keeps) {whr : Options α Expr}
    (run : (newWhere opts).chain calls = .ok whr) : whr.Paginated :=
  Options.paginated_chain calls callsKeep (newWhere_paginated opts optsKeep) run

/-- `NewWhere(WithOffset(5), WithLimit(10)).P(2, 10).F(1, 2)` ends paginated. -/
theorem paginated_newWhere_chain_page_two :
    ∃ whr, (newWhere [withOffset 5, withLimit 10] : Options Nat Unit).chain
        [.P 2 10, .F [.comparable 1, .comparable 2]] = .ok whr ∧ whr.Paginated := by
  cases run : (newWhere [withOffset 5, withLimit 10] : Options Nat Unit).chain
      [.P 2 10, .F [.comparable 1, .comparable 2]] with
  | error e => cases run
  | ok whr =>
    exact ⟨whr, rfl, paginated_newWhere_chain [withOffset 5, withLimit 10]
      [.P 2 10, .F [.comparable 1, .comparable 2]]
      (List.forall_mem_cons.2 ⟨withOffset_keeps 5, List.forall_mem_cons.2 ⟨withLimit_keeps 10,
        fun _ none => absurd none (List.not_mem_nil _)⟩⟩)
      (List.forall_mem_cons.2 ⟨Or.inr ⟨by decide, by decide⟩, List.forall_mem_cons.2 ⟨trivial,
        fun _ none => absurd none (List.not_mem_nil _)⟩⟩) run⟩

/-- `P(3, 0)` and `WithPage(-1, 10)` set negative offsets, `WithPage(0, -5)` the limit -5, and
`P(2^62 + 1, 2)` wraps to `-2^63`. -/
theorem where_pagination_breaks :
    (P 3 0 : Options Unit Unit).offset.val = -2 ∧
      (newWhere [withPage (-1) 10] : Options Unit Unit).offset.val = -20 ∧
      (newWhere [withPage 0 (-5)] : Options Unit Unit).limit.val = -5 ∧
      (P 4611686018427387905 2 : Options Unit Unit).offset.val = -9223372036854775808 :=
  ⟨rfl, rfl, rfl, rfl⟩

/-! ## Filters -/

section Filters

variable [BEq α]

def pairs : List (Any α) → Except String (List (α × Any α))
  | .comparable key :: value :: kvs => (pairs kvs).map ((key, value) :: ·)
  | .unhashable type :: _ :: _ => .error (errUnhashable type)
  | _ => .ok []

theorem lookup_append (l l' : List (α × Any α)) (k : α) :
    (l ++ l').lookup k = (l.lookup k).or (l'.lookup k) := by
  induction l with
  | nil => rfl
  | cons e l ih =>
    rw [List.cons_append, List.lookup_cons, List.lookup_cons]
    cases k == e.1 <;> simp [ih]

variable [LawfulBEq α]

theorem lookup_filter_of_ne_key {k key : α} (ne : k ≠ key) (m : List (α × Any α)) :
    (m.filter fun e => !(e.1 == key)).lookup k = m.lookup k := by
  induction m with
  | nil => rfl
  | cons e m ih =>
    by_cases same : e.1 = key
    · rw [List.filter_cons_of_neg (by simp [same]), ih, List.lookup_cons, same, beq_false_of_ne ne]
    · rw [List.filter_cons_of_pos (by simp [same]), List.lookup_cons, List.lookup_cons, ih]

theorem lookup_setFilter (m : List (α × Any α)) (key : α) (value : Any α) (k : α) :
    (setFilter m key value).lookup k = ([(key, value)].lookup k).or (m.lookup k) := by
  by_cases same : k = key
  · simp [setFilter, same]
  · simp only [setFilter, List.lookup_cons, beq_false_of_ne same, lookup_filter_of_ne_key same,
      List.lookup_nil, Option.none_or]

theorem lookup_setFilters (k : α) :
    ∀ (m : List (α × Any α)) (kvs : List (Any α)), (setFilters m kvs).map (·.lookup k) =
      (pairs kvs).map fun ps => (ps.reverse.lookup k).or (m.lookup k)
  | _, [] | _, [.comparable _] | _, [.unhashable _] | _, .unhashable _ :: _ :: _ => rfl
  | m, .comparable key :: value :: kvs => by
    rw [setFilters, lookup_setFilters k _ kvs, pairs]
    cases pairs kvs <;>
      simp [Except.map, lookup_setFilter, List.reverse_cons, lookup_append, Option.or_assoc]

/-- `F` on a non-nil map: a key holds the value of its last pair, unless a key does not hash. -/
theorem F_lookup {whr : Options α Expr} {m : List (α × Any α)} (filters : whr.filters = some m)
    (kvs : List (Any α)) (k : α) :
    (whr.F kvs).map (fun whr' => whr'.filters.map (·.lookup k)) =
      if kvs.length % 2 = 0 then (pairs kvs).map fun ps => some ((ps.reverse.lookup k).or (m.lookup k))
      else .ok (some (m.lookup k)) := by
  unfold Options.F
  split
  · next odd => simp [odd, filters, Except.map]
  · next even =>
    rw [if_pos (not_not.1 even), filters]
    have := congrArg (Except.map some) (lookup_setFilters k m kvs)
    cases set : setFilters m kvs <;> cases ps : pairs kvs <;> simp_all [Except.map]

theorem F_lookup_last_pair :
    ((newWhere [] : Options Nat Unit).F [.comparable 1, .comparable 2, .unhashable "[]int",
      .comparable 3]).map (fun whr' => whr'.filters.map (·.lookup 1)) =
      .error "runtime error: hash of unhashable type []int" := by
  rw [F_lookup rfl]
  rfl

end Filters

end DistLock.Where

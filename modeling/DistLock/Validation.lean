import Mathlib.Logic.Function.Basic

namespace DistLock.Validation

/-- A Go type as reflection sees it: a struct type by its identity, a pointer, or another kind. -/
inductive Ty where
  | struct (id : Nat)
  | ptr (elem : Ty)
  | basic (kind : String)
  deriving DecidableEq

def Ty.kindName : Ty → String
  | .struct _ => "struct"
  | .ptr _ => "ptr"
  | .basic kind => kind

/-- A struct field: its name, type, whether it is embedded, and its `PkgPath` (empty exactly when
exported). -/
structure Field where
  name : String
  ty : Ty
  embedded : Bool
  pkgPath : String
  name_ne : name ≠ "" := by decide
  deriving DecidableEq

def Field.isExported (f : Field) : Bool := f.pkgPath == ""

/-- The struct types of the program: `env[id]` lists the fields of the type `id`. -/
abbrev Env := List (List Field)

def Env.fields (env : Env) (id : Nat) : List Field := env.getD id []

inductive Val where
  | struct (id : Nat) (fields : List Val)
  | ptr (elem : Ty) (target : Option Val)
  | basic (kind : String) (repr : String)

def Val.kindName : Val → String
  | .struct .. => "struct"
  | .ptr .. => "ptr"
  | .basic kind _ => kind

def valueError (method kind : String) : String :=
  "reflect: call of " ++ method ++ " on " ++ kind ++ " Value"

/-! ## `Type.FieldByName` -/

/-- The quick check of `FieldByName`: the first top-level field with the name, and its index. -/
def quickCheck (name : String) : List Field → Option (Nat × Field)
  | [] => none
  | f :: fs =>
    if f.name = name then some (0, f) else (quickCheck name fs).map fun (i, g) => (i + 1, g)

def Field.embeddedStruct (f : Field) : Option Nat :=
  if f.embedded then
    match f.ty with
    | .struct id => some id
    | .ptr (.struct id) => some id
    | _ => none
  else none

/-- The state of one depth level of `FieldByNameFunc`: the match, the queue and the visited types. -/
structure Search where
  result : Option (Field × List Nat)
  next : List (Nat × List Nat)
  nextCount : List (Nat × Nat)
  visited : List Nat

def countOf (count : List (Nat × Nat)) (t : Nat) : Nat := (count.lookup t).getD 0

/-- The field `f`, at position `i` of a struct reached by `index` and counted `count` times; a
second match at the depth annihilates: `error`. -/
def scanField (name : String) (count : Nat) (index : List Nat) (s : Search) (i : Nat) (f : Field) :
    Except Unit Search :=
  if f.name = name then
    if count > 1 || s.result.isSome then .error ()
    else .ok { s with result := some (f, index ++ [i]) }
  else match f.embeddedStruct with
    | none => .ok s
    | some styp =>
      if s.result.isSome then .ok s
      else if 0 < countOf s.nextCount styp then .ok { s with nextCount := (styp, 2) :: s.nextCount }
      else .ok { s with nextCount := (styp, if count > 1 then 2 else 1) :: s.nextCount,
                        next := s.next ++ [(styp, index ++ [i])] }

def scanFields (name : String) (count : Nat) (index : List Nat) :
    Search → Nat → List Field → Except Unit Search
  | s, _, [] => .ok s
  | s, i, f :: fs => do scanFields name count index (← scanField name count index s i f) (i + 1) fs

def scanLevel (env : Env) (name : String) (count : List (Nat × Nat)) :
    Search → List (Nat × List Nat) → Except Unit Search
  | s, [] => .ok s
  | s, (t, index) :: current =>
    if t ∈ s.visited then scanLevel env name count s current
    else do
      let s ← scanFields name (countOf count t) index { s with visited := t :: s.visited } 0
        (env.fields t)
      scanLevel env name count s current

/-- `FieldByNameFunc(func(s) { return s == name })`, one depth level per unit of fuel. -/
def fieldByNameFunc (env : Env) (name : String) :
    Nat → List (Nat × List Nat) → List (Nat × Nat) → List Nat → Option (Field × List Nat)
  | 0, _, _, _ => none
  | _, [], _, _ => none
  | fuel + 1, current, count, visited =>
    match scanLevel env name count ⟨none, [], [], visited⟩ current with
    | .error () => none
    | .ok s => if s.result.isSome then s.result
      else fieldByNameFunc env name fuel s.next s.nextCount s.visited

def Env.fieldByName (env : Env) (id : Nat) (name : String) : Option (Field × List Nat) :=
  if name = "" then none
  else match quickCheck name (env.fields id) with
    | some (i, f) => some (f, [i])
    | none =>
      if (env.fields id).any (·.embedded) then
        fieldByNameFunc env name (env.length + 1) [(id, [])] [] []
      else none

/-! ### The fuel of `FieldByNameFunc` never runs out -/

def unvisited (env : Env) (visited : List Nat) : List Nat :=
  (List.range env.length).filter (· ∉ visited)

theorem unvisited_lt {env : Env} {visited visited' : List Nat} {t : Nat} (sub : visited ⊆ visited')
    (mem : t ∈ visited') (fresh : t ∉ visited) (lt : t < env.length) :
    (unvisited env visited').length < (unvisited env visited).length := by
  have narrower : unvisited env visited' = (unvisited env visited).filter (· ∉ visited') := by
    rw [unvisited, unvisited, List.filter_filter]
    refine List.filter_congr fun x _ => ?_
    by_cases seen : x ∈ visited'
    · simp [seen]
    · simp [seen, show x ∉ visited from fun old => seen (sub old)]
  rw [narrower, List.length_filter_lt_length_iff_exists]
  exact ⟨t, List.mem_filter.2 ⟨List.mem_range.2 lt, by simpa using fresh⟩, by simpa using mem⟩

theorem scanField_visited {name : String} {count : Nat} {index : List Nat} {s s' : Search} {i : Nat}
    {f : Field} (scanned : scanField name count index s i f = .ok s') : s'.visited = s.visited := by
  unfold scanField at scanned
  repeat' split at scanned
  all_goals cases scanned <;> rfl

theorem scanFields_visited {name : String} {count : Nat} {index : List Nat} :
    ∀ {s s' : Search} {i : Nat} {fs : List Field},
      scanFields name count index s i fs = .ok s' → s'.visited = s.visited
  | _, _, _, [], scanned => by cases scanned; rfl
  | s, _, i, f :: fs, scanned => by
    simp only [scanFields] at scanned
    cases field : scanField name count index s i f with
    | error e => rw [field] at scanned; cases scanned
    | ok s₁ =>
      rw [field] at scanned
      exact (scanFields_visited scanned).trans (scanField_visited field)

theorem scanLevel_visits {env : Env} {name : String} {count : List (Nat × Nat)} :
    ∀ {s s' : Search} {current : List (Nat × List Nat)},
      scanLevel env name count s current = .ok s' →
      s.visited ⊆ s'.visited ∧ (s'.next ≠ s.next → ∃ t ∈ s'.visited, t ∉ s.visited ∧ t < env.length)
  | _, _, [], scanned => by cases scanned; exact ⟨List.Subset.refl _, fun ne => absurd rfl ne⟩
  | s, s', (t, index) :: current, scanned => by
    simp only [scanLevel] at scanned
    split at scanned
    · exact scanLevel_visits scanned
    · next unseen =>
      cases fields : scanFields name (countOf count t) index { s with visited := t :: s.visited } 0
        (env.fields t) with
      | error e => rw [fields] at scanned; cases scanned
      | ok s₁ =>
        rw [fields] at scanned
        have visited₁ : s₁.visited = t :: s.visited := scanFields_visited fields
        obtain ⟨sub, grew⟩ := scanLevel_visits scanned
        refine ⟨fun x mem => sub (visited₁ ▸ List.mem_cons_of_mem _ mem), fun ne => ?_⟩
        by_cases inEnv : t < env.length
        · exact ⟨t, sub (visited₁ ▸ List.mem_cons_self _ _), unseen, inEnv⟩
        · have empty : env.fields t = [] := by
            simp [Env.fields, List.getElem?_eq_none (Nat.le_of_not_lt inEnv)]
          rw [empty] at fields
          cases fields
          obtain ⟨t', mem, fresh, lt⟩ := grew ne
          exact ⟨t', mem, fun seen => fresh (List.mem_cons_of_mem _ seen), lt⟩

theorem fieldByNameFunc_nil (env : Env) (name : String) (fuel : Nat) (count : List (Nat × Nat))
    (visited : List Nat) : fieldByNameFunc env name fuel [] count visited = none := by
  cases fuel <;> rfl

theorem fieldByNameFunc_fuel (env : Env) (name : String) (k : Nat) :
    ∀ (n : Nat) (current : List (Nat × List Nat)) (count : List (Nat × Nat)) (visited : List Nat),
      (unvisited env visited).length < n →
      fieldByNameFunc env name (n + k) current count visited =
        fieldByNameFunc env name n current count visited
  | 0, _, _, _, enough => absurd enough (Nat.not_lt_zero _)
  | _, [], _, _, _ => by rw [fieldByNameFunc_nil, fieldByNameFunc_nil]
  | n + 1, c :: current, count, visited, enough => by
    rw [Nat.add_right_comm]
    simp only [fieldByNameFunc]
    cases scanned : scanLevel env name count ⟨none, [], [], visited⟩ (c :: current) with
    | error => rfl
    | ok s =>
      simp only
      split
      · rfl
      · by_cases queued : s.next = []
        · rw [queued, fieldByNameFunc_nil, fieldByNameFunc_nil]
        · obtain ⟨sub, grew⟩ := scanLevel_visits scanned
          obtain ⟨t, mem, fresh, lt⟩ := grew queued
          exact fieldByNameFunc_fuel env name k n _ _ _
            (Nat.lt_of_lt_of_le (unvisited_lt sub mem fresh lt) (Nat.le_of_lt_succ enough))

theorem fieldByNameFunc_enough_fuel (env : Env) (name : String) (id k : Nat) :
    fieldByNameFunc env name (env.length + 1 + k) [(id, [])] [] [] =
      fieldByNameFunc env name (env.length + 1) [(id, [])] [] [] :=
  fieldByNameFunc_fuel env name k _ _ _ _
    (Nat.lt_succ_of_le
      (Nat.le_trans (List.length_filter_le _ _) (Nat.le_of_eq (List.length_range _))))

/-! ## `reflect.Value` -/

def Val.field (v : Val) (i : Nat) : Except String Val :=
  match v with
  | .struct _ fields => match fields[i]? with
    | some f => .ok f
    | none => .error "reflect: Field index out of range"
  | v => .error (valueError "reflect.Value.Field" v.kindName)

def errNilEmbedded : String := "reflect: indirection through nil pointer to embedded struct"

/-- The loop of `Value.FieldByIndex` after its first step: a nil embedded pointer panics. -/
def fieldByIndexFrom : Val → List Nat → Except String Val
  | v, [] => .ok v
  | v, x :: xs => do
    let v ← match v with
      | .ptr (.struct _) none => .error errNilEmbedded
      | .ptr (.struct _) (some w) => .ok w
      | v => .ok v
    fieldByIndexFrom (← v.field x) xs

def fieldByIndex (v : Val) (index : List Nat) : Except String Val :=
  match index, v with
  | [i], v => v.field i
  | [], .struct .. => .ok v
  | x :: xs, .struct .. => do fieldByIndexFrom (← v.field x) xs
  | _, v => .error (valueError "reflect.Value.FieldByIndex" v.kindName)

/-- `Value.FieldByName(name)`, `none` being the zero `Value`. -/
def valueFieldByName (env : Env) (v : Option Val) (name : String) : Except String (Option Val) :=
  match v with
  | some (.struct id fields) => match env.fieldByName id name with
    | some (_, index) => some <$> fieldByIndex (.struct id fields) index
    | none => .ok none
  | some v => .error ("reflect: FieldByName of non-struct type " ++ v.kindName)
  | none => .error (valueError "reflect.Value.FieldByName" "zero")

def Val.elem : Val → Except String (Option Val)
  | .ptr _ target => .ok target
  | v => .error (valueError "reflect.Value.Elem" v.kindName)

def interface : Option Val → Except String Val
  | some v => .ok v
  | none => .error "reflect: call of reflect.Value.Interface on zero Value"

/-! ## The validator -/

/-- A `ValidatorFunc`: nil, or a function returning its error (`none` for nil). -/
abbrev ValidatorFunc := Option (Val → Option String)

def errNilDeref : String := "runtime error: invalid memory address or nil pointer dereference"

def ValidatorFunc.call : ValidatorFunc → Val → Except String (Option String)
  | some f, v => .ok (f v)
  | none, _ => .error errNilDeref

abbrev Rules := List (String × ValidatorFunc)

/-- The argument `obj` of type `any`: its dynamic type and its value. -/
structure Obj where
  ty : Ty
  val : Val

/-- One iteration of the loop of `ValidateSelectedFields`: `none` is `continue`. -/
def validateField (env : Env) (rules : Rules) (id : Nat) (objValue : Option Val) (field : String) :
    Except String (Option String) :=
  match env.fieldByName id field with
  | none => .ok none
  | some (structField, _) =>
    if !structField.isExported then .ok none
    else do
      match ← valueFieldByName env objValue field with
      | some (.ptr _ none) => .ok none
      | fieldValue =>
        let fieldValue := match fieldValue with
          | some (.ptr _ (some w)) => some w
          | fieldValue => fieldValue
        match rules.lookup field with
        | none => .ok none
        | some validator => validator.call (← interface fieldValue)

def validateFields (step : String → Except String (Option String)) :
    List String → Except String (Option String)
  | [] => .ok none
  | field :: fields => do
    match ← step field with
    | some err => .ok (some err)
    | none => validateFields step fields

def validateSelectedFields (env : Env) (obj : Obj) (rules : Rules) (fields : List String) :
    Except String (Option String) := do
  let (objValue, objType) ← match obj.ty with
    | .ptr elem => pure (← obj.val.elem, elem)
    | objType => pure (some obj.val, objType)
  match objType with
  | .struct id => validateFields (validateField env rules id objValue) fields
  | objType => .ok (some ("expected a struct, got " ++ objType.kindName))

def getExportedFieldNames (env : Env) (obj : Obj) : List String :=
  let typ := match obj.ty with
    | .ptr elem => elem
    | typ => typ
  match typ with
  | .struct id => ((env.fields id).filter (·.isExported)).map (·.name)
  | _ => []

def validateAllFields (env : Env) (obj : Obj) (rules : Rules) : Except String (Option String) :=
  validateSelectedFields env obj rules (getExportedFieldNames env obj)

/-! ## `ValidateAllFields` against a reference -/

abbrev FuncRules := List (String × (Val → Option String))

def FuncRules.toRules (rules : FuncRules) : Rules := rules.map fun (name, f) => (name, some f)

theorem FuncRules.lookup_toRules (rules : FuncRules) (name : String) :
    rules.toRules.lookup name = (rules.lookup name).map some := by
  induction rules with
  | nil => rfl
  | cons r rules ih =>
    obtain ⟨key, f⟩ := r
    by_cases same : name = key
    · subst same
      simp [toRules]
    · simp only [toRules, List.map_cons, List.lookup_cons, beq_false_of_ne same] at ih ⊢
      exact ih

def fieldFailure (rules : FuncRules) (name : String) : Val → Option String
  | .ptr _ none => none
  | .ptr _ (some w) => (rules.lookup name).bind (· w)
  | v => (rules.lookup name).bind (· v)

def firstFailure (rules : FuncRules) (fields : List (Field × Val)) : Option String :=
  fields.findSome? fun (f, v) => if f.isExported then fieldFailure rules f.name v else none

theorem quickCheck_append (pre post : List Field) (f : Field) (fresh : ∀ g ∈ pre, g.name ≠ f.name) :
    quickCheck f.name (pre ++ f :: post) = some (pre.length, f) := by
  induction pre with
  | nil => simp [quickCheck]
  | cons g pre ih =>
    rw [List.cons_append, quickCheck, if_neg (fresh g (.head _)),
      ih fun g' mem => fresh g' (List.mem_cons_of_mem _ mem)]
    rfl

section TopLevel

variable {env : Env} {rules : FuncRules} {id : Nat} {pre post : List Field} {f : Field}
  {vpre vpost : List Val} {v : Val}

theorem validateField_top (fields : env.fields id = pre ++ f :: post) (exported : f.isExported)
    (fresh : ∀ g ∈ pre, g.name ≠ f.name) (aligned : vpre.length = pre.length) :
    validateField env rules.toRules id (some (.struct id (vpre ++ v :: vpost))) f.name =
      .ok (fieldFailure rules f.name v) := by
  have found : env.fieldByName id f.name = some (f, [pre.length]) := by
    rw [Env.fieldByName, if_neg f.name_ne, fields,
      quickCheck_append pre post f fresh]
  have value : valueFieldByName env (some (.struct id (vpre ++ v :: vpost))) f.name =
      .ok (some v) := by
    simp only [valueFieldByName, found, fieldByIndex, Val.field, ← aligned,
      List.getElem?_append_right (Nat.le_refl _), Nat.sub_self, List.getElem?_cons_zero]
    rfl
  simp only [validateField, found, exported, Bool.not_true, if_false, value]
  rcases v with _ | ⟨_, _ | w⟩ | _ <;> simp only [fieldFailure, FuncRules.lookup_toRules] <;>
    cases rules.lookup f.name <;> rfl

/-- No other field has the name of an exported field, as Go requires of a struct. -/
def Distinct (fields : List Field) : Prop :=
  fields.Pairwise fun g f => (g.isExported ∨ f.isExported) → g.name ≠ f.name

def Fresh (pre rest : List Field) : Prop :=
  ∀ g ∈ pre, ∀ f ∈ rest, f.isExported → g.name ≠ f.name

theorem Fresh.step {rest : List Field} (fresh : Fresh pre (f :: rest))
    (distinct : Distinct (f :: rest)) : Fresh (pre ++ [f]) rest := by
  intro g mem f' mem' exported'
  rcases List.mem_append.1 mem with mem | mem
  · exact fresh g mem f' (List.mem_cons_of_mem _ mem') exported'
  · rw [List.mem_singleton] at mem
    subst mem
    exact (List.pairwise_cons.1 distinct).1 f' mem' (.inr exported')

theorem validateFields_top (vs : List Val) (rest : List Field) :
    ∀ (pre : List Field) (vpre vrest : List Val), env.fields id = pre ++ rest → vs = vpre ++ vrest →
      vpre.length = pre.length → vrest.length = rest.length → Fresh pre rest → Distinct rest →
      validateFields (validateField env rules.toRules id (some (.struct id vs)))
          ((rest.filter (·.isExported)).map (·.name)) =
        .ok (firstFailure rules (rest.zip vrest)) := by
  induction rest with
  | nil => intros; rfl
  | cons f rest ih =>
    intro pre vpre vrest fields values aligned len fresh distinct
    cases vrest with
    | nil => cases len
    | cons v vrest =>
      have next := ih (pre ++ [f]) (vpre ++ [v]) vrest (by simp [fields]) (by simp [values])
        (by simp [aligned]) (by simpa using len) (fresh.step distinct) distinct.of_cons
      subst values
      by_cases exported : f.isExported
      · simp only [List.filter_cons, exported, ↓reduceIte, List.map_cons]
        rw [validateFields,
          validateField_top fields exported (fun g mem => fresh g mem f (.head _) exported) aligned]
        simp only [firstFailure, List.zip_cons_cons, List.findSome?_cons, exported, if_true]
        cases fieldFailure rules f.name v with
        | some e => rfl
        | none => exact next
      · simp only [List.filter_cons, exported, ↓reduceIte, firstFailure, List.zip_cons_cons,
          List.findSome?_cons]
        exact next

end TopLevel

/-- `ValidateAllFields` returns the error of the first exported field whose rule fails. -/
theorem validateAllFields_eq_firstFailure (env : Env) (rules : FuncRules) (id : Nat)
    (vs : List Val) (shape : vs.length = (env.fields id).length)
    (distinct : Distinct (env.fields id)) :
    validateAllFields env ⟨.struct id, .struct id vs⟩ rules.toRules =
        .ok (firstFailure rules ((env.fields id).zip vs)) ∧
      ∀ e, validateAllFields env ⟨.ptr (.struct id), .ptr e (some (.struct id vs))⟩ rules.toRules =
        .ok (firstFailure rules ((env.fields id).zip vs)) := by
  have loop : validateAllFields env ⟨.struct id, .struct id vs⟩ rules.toRules =
      .ok (firstFailure rules ((env.fields id).zip vs)) :=
    validateFields_top vs (env.fields id) [] [] vs rfl rfl rfl shape (fun _ mem => by cases mem)
      distinct
  exact ⟨loop, fun _ => loop⟩

/-- A struct with an exported `X` and an unexported `secret` gets the reference's answer. -/
theorem validateAllFields_eq_firstFailure_X :
    Distinct [.mk "X" (.basic "int") false "", .mk "secret" (.basic "string") false "main"] ∧
      (validateAllFields [[.mk "X" (.basic "int") false "", .mk "secret" (.basic "string") false "main"]]
          ⟨.struct 0, .struct 0 [.basic "int" "-1", .basic "string" "s"]⟩
          (FuncRules.toRules [("X", fun _ => some "X must be positive")]) =
        .ok (firstFailure [("X", fun _ => some "X must be positive")]
          ([.mk "X" (.basic "int") false "", .mk "secret" (.basic "string") false "main"].zip
            [.basic "int" "-1", .basic "string" "s"])) ∧
      ∀ e, validateAllFields [[.mk "X" (.basic "int") false "",
          .mk "secret" (.basic "string") false "main"]]
          ⟨.ptr (.struct 0), .ptr e (some (.struct 0 [.basic "int" "-1", .basic "string" "s"]))⟩
          (FuncRules.toRules [("X", fun _ => some "X must be positive")]) =
        .ok (firstFailure [("X", fun _ => some "X must be positive")]
          ([.mk "X" (.basic "int") false "", .mk "secret" (.basic "string") false "main"].zip
            [.basic "int" "-1", .basic "string" "s"]))) :=
  have distinct : Distinct [.mk "X" (.basic "int") false "",
      .mk "secret" (.basic "string") false "main"] := by
    unfold Distinct
    decide
  ⟨distinct, validateAllFields_eq_firstFailure _ _ 0 _ rfl distinct⟩

/-! ## Promoted fields behind a nil pointer -/

/-- With `S{}`'s embedded `*Inner` nil, selecting the promoted `X` panics, while
`ValidateAllFields` skips `Inner` and returns nil. -/
theorem validation_nil_embedded_pointer_panics :
    validateSelectedFields [[.mk "Inner" (.ptr (.struct 1)) true ""], [.mk "X" (.basic "int") false ""]]
        ⟨.struct 0, .struct 0 [.ptr (.struct 1) none]⟩
        [("X", some fun _ => some "X must be positive")] ["X"] = .error errNilEmbedded ∧
      validateAllFields [[.mk "Inner" (.ptr (.struct 1)) true ""], [.mk "X" (.basic "int") false ""]]
        ⟨.struct 0, .struct 0 [.ptr (.struct 1) none]⟩
        [("X", some fun _ => some "X must be positive")] = .ok none :=
  ⟨rfl, rfl⟩

end DistLock.Validation

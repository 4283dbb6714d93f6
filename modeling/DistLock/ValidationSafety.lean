import DistLock.Basic
import DistLock.Validation

namespace DistLock.Validation

variable {env : Env}

/-! ## Paths of embedded fields -/

/-- `path` leads from the struct type `t` to `s` through embedded fields of type `T` or `*T`. -/
inductive Embeds (env : Env) : Nat → List Nat → Nat → Prop
  | refl (t : Nat) : Embeds env t [] t
  | cons {t i u s : Nat} {g : Field} {path : List Nat} : (env.fields t)[i]? = some g →
      g.embeddedStruct = some u → Embeds env u path s → Embeds env t (i :: path) s

theorem Embeds.snoc {t u s i : Nat} {g : Field} {path : List Nat} (reach : Embeds env t path u)
    (field : (env.fields u)[i]? = some g) (embedded : g.embeddedStruct = some s) :
    Embeds env t (path ++ [i]) s := by
  induction reach with
  | refl => exact .cons field embedded (.refl s)
  | cons field' embedded' _ ih => exact .cons field' embedded' (ih field)

def Resolves (env : Env) (root : Nat) (f : Field) (index : List Nat) : Prop :=
  ∃ path i s, index = path ++ [i] ∧ Embeds env root path s ∧ (env.fields s)[i]? = some f

/-- The invariant of `FieldByNameFunc` from `root`: what it holds and queues is reached from `root`. -/
structure SearchOK (env : Env) (root : Nat) (name : String) (s : Search) : Prop where
  result : ∀ f index, s.result = some (f, index) → f.name = name ∧ Resolves env root f index
  next : ∀ q ∈ s.next, Embeds env root q.2 q.1

theorem SearchOK.start (root : Nat) (name : String) (visited : List Nat) :
    SearchOK env root name ⟨none, [], [], visited⟩ :=
  ⟨fun _ _ none => (by cases none), fun _ mem => (by cases mem)⟩

section Search

variable {root : Nat} {name : String}

theorem SearchOK.scanField {s s' : Search} {count t i : Nat} {index : List Nat} {f : Field}
    (ok : SearchOK env root name s) (reach : Embeds env root index t)
    (field : (env.fields t)[i]? = some f) (scanned : scanField name count index s i f = .ok s') :
    SearchOK env root name s' := by
  unfold Validation.scanField at scanned
  split at scanned
  · next named =>
    split at scanned
    · cases scanned
    · cases scanned
      refine ⟨fun f' index' found => ?_, ok.next⟩
      cases found
      exact ⟨named, index, i, t, rfl, reach, field⟩
  · split at scanned
    · cases scanned; exact ok
    · next styp embedded =>
      split at scanned
      · cases scanned; exact ok
      · split at scanned <;> cases scanned
        · exact ⟨ok.result, ok.next⟩
        · refine ⟨ok.result, fun q mem => ?_⟩
          rcases List.mem_append.1 mem with old | new
          · exact ok.next q old
          · rw [List.mem_singleton] at new
            subst new
            exact reach.snoc field embedded

theorem SearchOK.scanFields {count t : Nat} {index : List Nat} (reach : Embeds env root index t) :
    ∀ {s s' : Search} {i : Nat} {fs : List Field}, (env.fields t).drop i = fs →
      SearchOK env root name s → scanFields name count index s i fs = .ok s' →
      SearchOK env root name s'
  | _, _, _, [], _, ok, scanned => by cases scanned; exact ok
  | s, _, i, f :: fs, rest, ok, scanned => by
    have field : (env.fields t)[i]? = some f := by
      rw [← List.head?_drop, rest]
      rfl
    have later : (env.fields t).drop (i + 1) = fs := by
      rw [← List.drop_drop, rest]
      rfl
    obtain ⟨s₁, first, scanned⟩ := bind_eq_ok.1 scanned
    exact SearchOK.scanFields reach later (ok.scanField reach field first) scanned

theorem SearchOK.scanLevel {count : List (Nat × Nat)} :
    ∀ {s s' : Search} {current : List (Nat × List Nat)}, (∀ q ∈ current, Embeds env root q.2 q.1) →
      SearchOK env root name s → scanLevel env name count s current = .ok s' →
      SearchOK env root name s'
  | _, _, [], _, ok, scanned => by cases scanned; exact ok
  | s, _, (t, index) :: current, reached, ok, scanned => by
    have rest : ∀ q ∈ current, Embeds env root q.2 q.1 :=
      fun q mem => reached q (List.mem_cons_of_mem _ mem)
    simp only [Validation.scanLevel] at scanned
    split at scanned
    · exact SearchOK.scanLevel rest ok scanned
    · obtain ⟨s₁, fields, scanned⟩ := bind_eq_ok.1 scanned
      have marked : SearchOK env root name { s with visited := t :: s.visited } :=
        ⟨ok.result, ok.next⟩
      exact SearchOK.scanLevel rest
        (SearchOK.scanFields (reached _ (.head _)) (List.drop_zero _) marked fields) scanned

end Search

theorem quickCheck_split {name : String} :
    ∀ {fs : List Field} {i : Nat} {f : Field}, quickCheck name fs = some (i, f) →
      ∃ pre post, fs = pre ++ f :: post ∧ pre.length = i ∧ f.name = name ∧ ∀ g ∈ pre, g.name ≠ name
  | [], _, _, found => by cases found
  | g :: fs, i, f, found => by
    simp only [quickCheck] at found
    split at found
    · next named =>
      cases found
      exact ⟨[], fs, rfl, rfl, named, fun _ mem => by cases mem⟩
    · next other =>
      obtain ⟨⟨j, f'⟩, rest, same⟩ := Option.map_eq_some'.1 found
      cases same
      obtain ⟨pre, post, rfl, rfl, named, fresh⟩ := quickCheck_split rest
      refine ⟨g :: pre, post, rfl, rfl, named, fun g' mem => ?_⟩
      rcases List.mem_cons.1 mem with rfl | mem
      · exact other
      · exact fresh g' mem

theorem quickCheck_none {name : String} :
    ∀ {fs : List Field}, quickCheck name fs = none → ∀ g ∈ fs, g.name ≠ name
  | [], _, _, mem => by cases mem
  | g :: fs, missing, g', mem => by
    simp only [quickCheck] at missing
    split at missing
    · cases missing
    · next other =>
      rcases List.mem_cons.1 mem with rfl | mem
      · exact other
      · exact quickCheck_none (Option.map_eq_none'.1 missing) g' mem

theorem quickCheck_lookup {name : String} {fs : List Field} {i : Nat} {f : Field}
    (quick : quickCheck name fs = some (i, f)) : fs[i]? = some f := by
  obtain ⟨pre, post, rfl, rfl, -, -⟩ := quickCheck_split quick
  rw [List.getElem?_append_right (Nat.le_refl _), Nat.sub_self, List.getElem?_cons_zero]

section Quick

variable {name : String} (count : Nat) (index : List Nat) {s : Search} {i : Nat} {f : Field}

theorem scanField_other (other : f.name ≠ name) :
    ∃ s', scanField name count index s i f = .ok s' ∧ s'.result = s.result := by
  unfold Validation.scanField
  rw [if_neg other]
  split
  · exact ⟨s, rfl, rfl⟩
  · split
    · exact ⟨s, rfl, rfl⟩
    · split <;> exact ⟨_, rfl, rfl⟩

theorem scanFields_other :
    ∀ {s : Search} {i : Nat} {fs : List Field}, (∀ g ∈ fs, g.name ≠ name) →
      ∃ s', scanFields name count index s i fs = .ok s' ∧ s'.result = s.result
  | s, _, [], _ => ⟨s, rfl, rfl⟩
  | _, _, g :: _, others => by
    obtain ⟨s₁, first, same₁⟩ := scanField_other count index (others g (.head _))
    obtain ⟨s₂, rest, same₂⟩ := scanFields_other fun g' mem => others g' (List.mem_cons_of_mem g mem)
    exact ⟨s₂, by rw [scanFields, first]; exact rest, same₂.trans same₁⟩

theorem scanFields_plain :
    ∀ {s : Search} {i : Nat} {fs : List Field}, (∀ g ∈ fs, g.name ≠ name ∧ g.embedded = false) →
      scanFields name count index s i fs = .ok s
  | _, _, [], _ => rfl
  | s, i, g :: _, plain => by
    have first : scanField name count index s i g = .ok s := by
      simp [Validation.scanField, (plain g (.head _)).1, Field.embeddedStruct, (plain g (.head _)).2]
    rw [scanFields, first]
    exact scanFields_plain fun g' mem => plain g' (List.mem_cons_of_mem g mem)

theorem scanFields_unique {post : List Field} (named : f.name = name) (once : count ≤ 1)
    (others : ∀ g ∈ post, g.name ≠ name) :
    ∀ {s : Search} {i : Nat} {pre : List Field}, (∀ g ∈ pre, g.name ≠ name) → s.result = none →
      ∃ s', scanFields name count index s i (pre ++ f :: post) = .ok s' ∧
        s'.result = some (f, index ++ [i + pre.length])
  | s, i, [], _, none_yet => by
    have first : scanField name count index s i f = .ok { s with result := some (f, index ++ [i]) } := by
      simp [Validation.scanField, named, none_yet, Nat.not_lt.2 once]
    obtain ⟨s', rest, same⟩ := scanFields_other count index
      (s := { s with result := some (f, index ++ [i]) }) (i := i + 1) others
    exact ⟨s', by rw [List.nil_append, scanFields, first]; exact rest, same⟩
  | s, i, g :: pre, fresh, none_yet => by
    obtain ⟨s₁, first, same⟩ := scanField_other count index (s := s) (i := i)
      (fresh g (.head _))
    obtain ⟨s', rest, found⟩ := scanFields_unique named once others (i := i + 1)
      (fun g' mem => fresh g' (List.mem_cons_of_mem g mem)) (same.trans none_yet)
    refine ⟨s', by rw [List.cons_append, scanFields, first]; exact rest, ?_⟩
    rw [found, List.length_cons, Nat.add_right_comm, Nat.add_assoc]

end Quick

theorem others_after {name : String} {pre post : List Field} {f : Field} (named : f.name = name)
    (unique : (pre ++ f :: post).countP (·.name = name) ≤ 1) : ∀ g ∈ post, g.name ≠ name := by
  simp only [List.countP_append, List.countP_cons, named, decide_True, if_true] at unique
  have none_after : post.countP (·.name = name) = 0 := by omega
  simpa using List.countP_eq_zero.1 none_after

theorem scanLevel_root (name : String) (id : Nat) :
    scanLevel env name [] ⟨none, [], [], []⟩ [(id, [])] =
      scanFields name 0 [] ⟨none, [], [], [id]⟩ 0 (env.fields id) := by
  simp only [scanLevel, List.not_mem_nil, if_false, show countOf [] id = 0 from rfl]
  cases scanFields name 0 [] ⟨none, [], [], [id]⟩ 0 (env.fields id) <;> rfl

/-- The shortcuts of `Type.FieldByName` agree with the full search, for a name at most one
top-level field has. -/
theorem fieldByName_eq_search {id : Nat} {name : String} (nonempty : name ≠ "")
    (unique : (env.fields id).countP (·.name = name) ≤ 1) :
    env.fieldByName id name = fieldByNameFunc env name (env.length + 1) [(id, [])] [] [] := by
  cases quick : quickCheck name (env.fields id) with
  | some found =>
    obtain ⟨i, f⟩ := found
    obtain ⟨pre, post, fields, rfl, named, fresh⟩ := quickCheck_split quick
    have others := others_after named (fields ▸ unique)
    obtain ⟨s, level, found⟩ := scanFields_unique 0 [] named (Nat.zero_le 1)
      others (s := ⟨none, [], [], [id]⟩) (i := 0) fresh rfl
    rw [Nat.zero_add, List.nil_append] at found
    rw [← fields] at level
    simp only [Env.fieldByName, if_neg nonempty, quick, fieldByNameFunc, scanLevel_root, level,
      found, Option.isSome_some, if_true]
  | none =>
    simp only [Env.fieldByName, if_neg nonempty, quick]
    split
    · rfl
    · next embeds =>
      have plain : ∀ g ∈ env.fields id, g.name ≠ name ∧ g.embedded = false := fun g mem =>
        ⟨quickCheck_none quick g mem, by simpa using List.any_eq_false.1 (by simpa using embeds) g mem⟩
      simp only [fieldByNameFunc, scanLevel_root, scanFields_plain 0 [] plain, Option.isSome_none,
        Bool.false_eq_true, if_false, fieldByNameFunc_nil]

theorem fieldByName_eq_search_top :
    "Y" ≠ "" ∧
      (Env.fields [[.mk "Inner" (.struct 1) true "", .mk "Y" (.basic "int") false ""],
        [.mk "X" (.basic "int") false ""]] 0).countP (·.name = "Y") ≤ 1 ∧
      Env.fieldByName [[.mk "Inner" (.struct 1) true "", .mk "Y" (.basic "int") false ""],
          [.mk "X" (.basic "int") false ""]] 0 "Y" =
        fieldByNameFunc [[.mk "Inner" (.struct 1) true "", .mk "Y" (.basic "int") false ""],
          [.mk "X" (.basic "int") false ""]] "Y" 3 [(0, [])] [] [] :=
  ⟨by decide, by decide, fieldByName_eq_search (by decide) (by decide)⟩

/-! ## Values of their types -/

mutual
inductive Typed (env : Env) : Val → Ty → Prop
  | struct {id : Nat} {vs : List Val} : FieldsTyped env vs (env.fields id) →
      Typed env (.struct id vs) (.struct id)
  | nil {elem : Ty} : Typed env (.ptr elem none) (.ptr elem)
  | ptr {elem : Ty} {v : Val} : Typed env v elem → Typed env (.ptr elem (some v)) (.ptr elem)
  | basic {kind repr : String} : Typed env (.basic kind repr) (.basic kind)

inductive FieldsTyped (env : Env) : List Val → List Field → Prop
  | nil : FieldsTyped env [] []
  | cons {v : Val} {vs : List Val} {f : Field} {fs : List Field} : Typed env v f.ty →
      FieldsTyped env vs fs → FieldsTyped env (v :: vs) (f :: fs)
end

theorem FieldsTyped.lookup :
    ∀ {vs : List Val} {fs : List Field} {i : Nat} {f : Field}, FieldsTyped env vs fs →
      fs[i]? = some f → ∃ v, vs[i]? = some v ∧ Typed env v f.ty
  | _, _, 0, _, .cons typed _, field => by
    rw [List.getElem?_cons_zero, Option.some.injEq] at field
    exact ⟨_, List.getElem?_cons_zero, field ▸ typed⟩
  | _, _, _ + 1, _, .cons _ rest, field => by
    rw [List.getElem?_cons_succ] at field
    simpa only [List.getElem?_cons_succ] using FieldsTyped.lookup rest field
  | _, _, _, _, .nil, field => by rw [List.getElem?_nil] at field; cases field

@[simp] theorem fieldByIndexFrom_nil_ptr (u x : Nat) (xs : List Nat) :
    fieldByIndexFrom (.ptr (.struct u) none) (x :: xs) = .error errNilEmbedded :=
  rfl

@[simp] theorem fieldByIndexFrom_ptr (u x : Nat) (w : Val) (xs : List Nat) :
    fieldByIndexFrom (.ptr (.struct u) (some w)) (x :: xs) = w.field x >>= (fieldByIndexFrom · xs) :=
  rfl

/-- The outcomes a call can have: a result with `P`, or a panic that `Bad` allows. -/
def Outcome {α : Type} (Bad : String → Prop) (P : α → Prop) (r : Except String α) : Prop :=
  (∃ e, r = .error e ∧ Bad e) ∨ ∃ a, r = .ok a ∧ P a

section Outcome

variable {α β : Type} {Bad Bad' : String → Prop} {P : α → Prop} {Q : β → Prop}
  {r : Except String α}

theorem Outcome.ok {a : α} (p : P a) : Outcome Bad P (.ok a) := .inr ⟨a, rfl, p⟩

theorem Outcome.mono (first : Outcome Bad P r) (weaker : ∀ e, Bad e → Bad' e) :
    Outcome Bad' P r := by
  rcases first with ⟨e, rfl, bad⟩ | ok
  · exact .inl ⟨e, rfl, weaker e bad⟩
  · exact .inr ok

theorem Outcome.bind {f : α → Except String β} (first : Outcome Bad P r)
    (rest : ∀ a, P a → Outcome Bad Q (f a)) : Outcome Bad Q (r >>= f) := by
  rcases first with ⟨e, rfl, bad⟩ | ⟨a, rfl, p⟩
  · exact .inl ⟨e, rfl, bad⟩
  · exact rest a p

theorem Outcome.map {f : α → β} (first : Outcome Bad P r) (rest : ∀ a, P a → Q (f a)) :
    Outcome Bad Q (f <$> r) := by
  rcases first with ⟨e, rfl, bad⟩ | ⟨a, rfl, p⟩
  · exact .inl ⟨e, rfl, bad⟩
  · exact .ok (rest a p)

end Outcome

def resolvesExported (env : Env) (id : Nat) (name : String) : Bool :=
  match env.fieldByName id name with
  | some (f, _) => f.isExported
  | none => false

theorem validateField_zero {rules : Rules} {id : Nat} (name : String) :
    validateField env rules id none name =
      if resolvesExported env id name then
        .error (valueError "reflect.Value.FieldByName" "zero")
      else .ok none := by
  unfold validateField resolvesExported
  cases env.fieldByName id name with
  | none => rfl
  | some found =>
    obtain ⟨f, _⟩ := found
    dsimp only
    cases f.isExported <;> rfl

theorem validateFields_zero {rules : Rules} {id : Nat} :
    ∀ fields : List String,
      validateFields (validateField env rules id none) fields =
        if fields.any (resolvesExported env id) then
          .error (valueError "reflect.Value.FieldByName" "zero")
        else .ok none
  | [] => rfl
  | name :: fields => by
    rw [validateFields, validateField_zero, List.any_cons]
    cases resolvesExported env id name
    · exact validateFields_zero fields
    · rfl

/-- On a nil pointer, `ValidateSelectedFields` panics exactly when a name resolves to an
exported field. -/
theorem validateSelectedFields_nil_pointer {id : Nat} {elem : Ty} {rules : Rules}
    (fields : List String) :
    validateSelectedFields env ⟨.ptr (.struct id), .ptr elem none⟩ rules fields =
      if fields.any (resolvesExported env id) then
        .error (valueError "reflect.Value.FieldByName" "zero")
      else .ok none :=
  validateFields_zero fields

end DistLock.Validation

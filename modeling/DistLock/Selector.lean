import DistLock.ValidationSafety

namespace DistLock.Validation

variable {env : Env}

/-! ## Paths of embedded fields -/

theorem Embeds.append {t u s : Nat} {p q : List Nat} (first : Embeds env t p u)
    (rest : Embeds env u q s) : Embeds env t (p ++ q) s := by
  induction first with
  | refl => exact rest
  | cons field embedded _ ih => exact .cons field embedded (ih rest)

theorem Embeds.split {s : Nat} {q : List Nat} :
    ∀ {t : Nat} {p : List Nat}, Embeds env t (p ++ q) s →
      ∃ u, Embeds env t p u ∧ Embeds env u q s
  | t, [], reach => ⟨t, .refl t, reach⟩
  | _, _ :: _, .cons field embedded reach =>
    let ⟨u, first, rest⟩ := Embeds.split reach
    ⟨u, .cons field embedded first, rest⟩

theorem Embeds.target_unique {t s s' : Nat} {p : List Nat} (reach : Embeds env t p s)
    (reach' : Embeds env t p s') : s = s' := by
  induction reach with
  | refl => cases reach'; rfl
  | cons field embedded _ ih =>
    cases reach' with
    | cons field' embedded' rest =>
      obtain rfl := Option.some.inj (field.symm.trans field')
      obtain rfl := Option.some.inj (embedded.symm.trans embedded')
      exact ih rest

def Env.embedsAt (env : Env) (p i : Nat) : Option Nat :=
  (env.fields p)[i]?.bind Field.embeddedStruct

theorem embedsAt_eq_some {p i u : Nat} :
    env.embedsAt p i = some u ↔ ∃ g, (env.fields p)[i]? = some g ∧ g.embeddedStruct = some u :=
  Option.bind_eq_some

theorem embedsAt_lt {p i u : Nat} (step : env.embedsAt p i = some u) :
    i < (env.fields p).length := by
  obtain ⟨g, field, -⟩ := embedsAt_eq_some.1 step
  exact (List.getElem?_eq_some_iff.1 field).1

theorem Embeds.snoc_iff {t u i : Nat} {q : List Nat} :
    Embeds env t (q ++ [i]) u ↔ ∃ p, Embeds env t q p ∧ env.embedsAt p i = some u := by
  constructor
  · intro reach
    obtain ⟨p, first, last⟩ := reach.split
    cases last with
    | cons field embedded rest =>
      cases rest
      exact ⟨p, first, embedsAt_eq_some.2 ⟨_, field, embedded⟩⟩
  · rintro ⟨p, first, step⟩
    obtain ⟨g, field, embedded⟩ := embedsAt_eq_some.1 step
    exact first.snoc field embedded

theorem Embeds.last {t u k : Nat} {path : List Nat} (len : path.length = k + 1)
    (reach : Embeds env t path u) :
    ∃ q i p, path = q ++ [i] ∧ q.length = k ∧ Embeds env t q p ∧ env.embedsAt p i = some u := by
  obtain rfl | ⟨q, i, rfl⟩ := List.eq_nil_or_concat path
  · cases len
  · rw [List.concat_eq_append] at len reach ⊢
    obtain ⟨p, first, step⟩ := Embeds.snoc_iff.1 reach
    exact ⟨q, i, p, rfl, by simpa using len, first, step⟩

theorem Resolves.field_unique {root : Nat} {f f' : Field} {index : List Nat}
    (res : Resolves env root f index) (res' : Resolves env root f' index) : f = f' := by
  obtain ⟨q, i, s, rfl, reach, field⟩ := res
  obtain ⟨q', i', s', same, reach', field'⟩ := res'
  obtain ⟨rfl, same_i⟩ := List.append_inj' same rfl
  obtain rfl : i = i' := List.singleton_inj.1 same_i
  rw [reach.target_unique reach'] at field
  exact Option.some.inj (field.symm.trans field')

/-! ## Depth and Go's selector rule -/

def ReachedAt (env : Env) (root k t : Nat) : Prop :=
  ∃ path : List Nat, path.length = k ∧ Embeds env root path t

def DepthOf (env : Env) (root k t : Nat) : Prop :=
  ReachedAt env root k t ∧ ∀ j < k, ¬ ReachedAt env root j t

def Twice (env : Env) (root k t : Nat) : Prop :=
  ∃ p q, p ≠ q ∧ p.length = k ∧ q.length = k ∧ Embeds env root p t ∧ Embeds env root q t

/-- Go's selector rule: `f` has the name, and every field with it at no greater depth is `f`. -/
def Selects (env : Env) (root : Nat) (name : String) (f : Field) (index : List Nat) : Prop :=
  Resolves env root f index ∧ f.name = name ∧
    ∀ g index', Resolves env root g index' → g.name = name → index'.length ≤ index.length →
      index' = index

section Depth

variable {root : Nat} {name : String}

theorem DepthOf.of_step {k u p i : Nat} {q : List Nat} (depth : DepthOf env root (k + 1) u)
    (len : q.length = k) (reach : Embeds env root q p) (step : env.embedsAt p i = some u) :
    DepthOf env root k p :=
  ⟨⟨q, len, reach⟩, fun j lt ⟨q', len', reach'⟩ =>
    depth.2 (j + 1) (by omega) ⟨q' ++ [i], by simp [len'], Embeds.snoc_iff.2 ⟨p, reach', step⟩⟩⟩

theorem DepthOf.parent {k u : Nat} (depth : DepthOf env root (k + 1) u) :
    ∃ i p, env.embedsAt p i = some u ∧ DepthOf env root k p := by
  obtain ⟨path, len, reach⟩ := depth.1
  obtain ⟨q, i, p, -, qlen, first, step⟩ := Embeds.last len reach
  exact ⟨i, p, step, depth.of_step qlen first step⟩

theorem Resolves.depthOf {k : Nat} {f : Field} {index : List Nat}
    (res : Resolves env root f index) (named : f.name = name) (len : index.length = k + 1)
    (shallow : ∀ g index', Resolves env root g index' → g.name = name → k < index'.length) :
    ∃ q i p, index = q ++ [i] ∧ q.length = k ∧ Embeds env root q p ∧
      (env.fields p)[i]? = some f ∧ DepthOf env root k p := by
  obtain ⟨q, i, p, rfl, reach, field⟩ := res
  have qlen : q.length = k := by simpa using len
  refine ⟨q, i, p, rfl, qlen, reach, field, ⟨q, qlen, reach⟩, fun j lt ⟨q', len', reach'⟩ => ?_⟩
  have := shallow f (q' ++ [i]) ⟨q', i, p, rfl, reach', field⟩ named
  simp only [List.length_append, List.length_singleton] at this
  omega

theorem Selects.depthOf {k : Nat} {f : Field} {index : List Nat}
    (sel : Selects env root name f index) (deep : k < index.length) :
    ∃ p, DepthOf env root k p := by
  obtain ⟨⟨q, i, s, rfl, reach, field⟩, named, least⟩ := sel
  have klen : k ≤ q.length := by
    simp only [List.length_append, List.length_singleton] at deep
    omega
  rw [← List.take_append_drop k q] at reach
  obtain ⟨p, first, rest⟩ := reach.split
  refine ⟨p, ⟨_, by simp [klen], first⟩, fun j lt ⟨q', len', reach'⟩ => ?_⟩
  have shorter := congrArg List.length
    (least f ((q' ++ q.drop k) ++ [i]) ⟨_, i, s, rfl, reach'.append rest, field⟩ named
      (by simp only [List.length_append, List.length_drop, List.length_singleton]; omega))
  simp only [List.length_append, List.length_drop, List.length_singleton] at shorter
  omega

end Depth

/-! ## Two hits at a level -/

def NamedAt (env : Env) (name : String) (p i : Nat) : Prop :=
  ∃ f, (env.fields p)[i]? = some f ∧ f.name = name

theorem namedAt_iff {name : String} {p i : Nat} {f : Field}
    (field : (env.fields p)[i]? = some f) : NamedAt env name p i ↔ f.name = name :=
  ⟨fun ⟨_, field', named⟩ => Option.some.inj (field.symm.trans field') ▸ named,
    fun named => ⟨f, field, named⟩⟩

def TwoHits (count : List (Nat × Nat)) (hit : Nat → Nat → Prop) : Prop :=
  (∃ p i p' i', hit p i ∧ hit p' i' ∧ (p ≠ p' ∨ i ≠ i')) ∨ ∃ p i, hit p i ∧ 1 < countOf count p

def TwoPaths (env : Env) (root k : Nat) (hit : Nat → Nat → Prop) : Prop :=
  ∃ q i p q' i' p', q ++ [i] ≠ q' ++ [i'] ∧ q.length = k ∧ q'.length = k ∧
    Embeds env root q p ∧ Embeds env root q' p' ∧ hit p i ∧ hit p' i'

section Hits

variable {count : List (Nat × Nat)} {hit : Nat → Nat → Prop}

theorem TwoHits.mono {hit' : Nat → Nat → Prop} (sub : ∀ p i, hit p i → hit' p i) :
    TwoHits count hit → TwoHits count hit'
  | .inl ⟨p, i, p', i', h, h', ne⟩ => .inl ⟨p, i, p', i', sub p i h, sub p' i' h', ne⟩
  | .inr ⟨p, i, h, heavy⟩ => .inr ⟨p, i, sub p i h, heavy⟩

theorem TwoHits.exists : TwoHits count hit → ∃ p i, hit p i
  | .inl ⟨p, i, _, _, h, _⟩ | .inr ⟨p, i, h, _⟩ => ⟨p, i, h⟩

variable {done : Nat → Nat → Prop} {t i : Nat}

theorem exists_insert (hit : Nat → Nat → Prop) :
    (∃ p j, (done p j ∨ p = t ∧ j = i) ∧ hit p j) ↔ (∃ p j, done p j ∧ hit p j) ∨ hit t i := by
  constructor
  · rintro ⟨p, j, d | ⟨rfl, rfl⟩, h⟩
    exacts [.inl ⟨p, j, d, h⟩, .inr h]
  · rintro (⟨p, j, d, h⟩ | h)
    exacts [⟨p, j, .inl d, h⟩, ⟨t, i, .inr ⟨rfl, rfl⟩, h⟩]

theorem twoHits_insert (hit : Nat → Nat → Prop) (fresh : ¬ done t i) :
    TwoHits count (fun p j => (done p j ∨ p = t ∧ j = i) ∧ hit p j) ↔
      TwoHits count (fun p j => done p j ∧ hit p j) ∨
        hit t i ∧ ((∃ p j, done p j ∧ hit p j) ∨ 1 < countOf count t) := by
  constructor
  · rintro (⟨p, j, p', j', ⟨d | ⟨rfl, rfl⟩, h⟩, ⟨d' | ⟨rfl, rfl⟩, h'⟩, ne⟩ |
      ⟨p, j, ⟨d | ⟨rfl, rfl⟩, h⟩, heavy⟩)
    · exact .inl (.inl ⟨p, j, p', j', ⟨d, h⟩, ⟨d', h'⟩, ne⟩)
    · exact .inr ⟨h', .inl ⟨p, j, d, h⟩⟩
    · exact .inr ⟨h, .inl ⟨p', j', d', h'⟩⟩
    · simp at ne
    · exact .inl (.inr ⟨p, j, ⟨d, h⟩, heavy⟩)
    · exact .inr ⟨h, .inr heavy⟩
  · rintro (two | ⟨h, ⟨p, j, d, h'⟩ | heavy⟩)
    · exact two.mono fun p j ⟨d, h⟩ => ⟨.inl d, h⟩
    · exact .inl ⟨p, j, t, i, ⟨.inl d, h'⟩, ⟨.inr ⟨rfl, rfl⟩, h⟩,
        not_and_or.1 fun ⟨same, same'⟩ => fresh (same ▸ same' ▸ d)⟩
    · exact .inr ⟨t, i, ⟨.inr ⟨rfl, rfl⟩, h⟩, heavy⟩

theorem twoHits_iff_twoPaths {root k : Nat} (depth : ∀ p i, hit p i → DepthOf env root k p)
    (counted : ∀ p, DepthOf env root k p → (1 < countOf count p ↔ Twice env root k p)) :
    TwoHits count hit ↔ TwoPaths env root k hit := by
  constructor
  · rintro (⟨p, i, p', i', h, h', ne⟩ | ⟨p, i, h, heavy⟩)
    · obtain ⟨q, len, reach⟩ := (depth p i h).1
      obtain ⟨q', len', reach'⟩ := (depth p' i' h').1
      refine ⟨q, i, p, q', i', p', fun same => ?_, len, len', reach, reach', h, h'⟩
      obtain ⟨rfl, same_i⟩ := List.append_inj' same rfl
      have same_p := reach.target_unique reach'
      have same_i := List.singleton_inj.1 same_i
      omega
    · obtain ⟨q, q', ne, len, len', reach, reach'⟩ := (counted p (depth p i h)).1 heavy
      exact ⟨q, i, p, q', i, p, fun same => ne (List.append_cancel_right same), len, len',
        reach, reach', h, h⟩
  · rintro ⟨q, i, p, q', i', p', ne, len, len', reach, reach', h, h'⟩
    by_cases same : p = p' ∧ i = i'
    · obtain ⟨rfl, rfl⟩ := same
      exact .inr ⟨p, i, h, (counted p (depth p i h)).2
        ⟨q, q', fun e => ne (e ▸ rfl), len, len', reach, reach'⟩⟩
    · exact .inl ⟨p, i, p', i', h, h', not_and_or.1 same⟩

end Hits

/-! ## Inside a level -/

def doneIn (env : Env) (S : Nat → Prop) (p i : Nat) : Prop := S p ∧ i < (env.fields p).length

theorem doneIn_congr {S S' : Nat → Prop} (same : ∀ p, S p ↔ S' p) (p i : Nat) :
    doneIn env S p i ↔ doneIn env S' p i :=
  and_congr_left' (same p)

theorem countOf_cons (c : List (Nat × Nat)) (a n u : Nat) :
    countOf ((a, n) :: c) u = if u = a then n else countOf c u := by
  by_cases same : u = a
  · simp [countOf, same]
  · simp only [countOf, List.lookup_cons, beq_false_of_ne same, if_neg same]

/-- The match of a level, once the fields `done` of its struct types at depth `k` are scanned. -/
structure Matched (env : Env) (root : Nat) (name : String) (k : Nat) (count : List (Nat × Nat))
    (done : Nat → Nat → Prop) (r : Option (Field × List Nat)) : Prop where
  noClash : ¬ TwoHits count fun p i => done p i ∧ NamedAt env name p i
  result : ∀ p i, done p i → NamedAt env name p i →
    ∃ f q, r = some (f, q ++ [i]) ∧ (env.fields p)[i]? = some f ∧ q.length = k ∧
      Embeds env root q p
  found : r ≠ none → ∃ p i, done p i ∧ NamedAt env name p i

/-- The queue for depth `k + 1`, once the fields `done` are scanned with no match. -/
structure Queued (env : Env) (root k : Nat) (count : List (Nat × Nat)) (done : Nat → Nat → Prop)
    (queue : List (Nat × List Nat)) (counts : List (Nat × Nat)) : Prop where
  next : ∀ q ∈ queue, q.2.length = k + 1 ∧ Embeds env root q.2 q.1
  queued : ∀ u, countOf counts u = 0 ↔ ¬ ∃ p i, done p i ∧ env.embedsAt p i = some u
  twice : ∀ u, 2 ≤ countOf counts u ↔
    TwoHits count fun p i => done p i ∧ env.embedsAt p i = some u
  listed : ∀ u, 0 < countOf counts u → ∃ q, (u, q) ∈ queue

structure ScanOK (env : Env) (root : Nat) (name : String) (k : Nat) (count : List (Nat × Nat))
    (done : Nat → Nat → Prop) (s : Search) : Prop where
  matched : Matched env root name k count done s.result
  queue : s.result = none → Queued env root k count done s.next s.nextCount

def Scanned (env : Env) (root : Nat) (name : String) (k : Nat) (count : List (Nat × Nat))
    (done : Nat → Nat → Prop) (r : Except Unit Search) : Prop :=
  (∃ s, r = .ok s ∧ ScanOK env root name k count done s) ∨
    r = .error () ∧ TwoHits count fun p i => done p i ∧ NamedAt env name p i

section Scan

variable {root : Nat} {name : String} {k : Nat} {count : List (Nat × Nat)}
  {done done' : Nat → Nat → Prop}

theorem ScanOK.start (visited : List Nat) (empty : ∀ p i, ¬ done p i) :
    ScanOK env root name k count done ⟨none, [], [], visited⟩ where
  matched :=
    ⟨fun two => let ⟨p, i, d, _⟩ := two.exists; empty p i d,
      fun p i d => absurd d (empty p i), fun some => absurd rfl some⟩
  queue _ :=
    ⟨fun _ mem => (by cases mem), fun _ => iff_of_true rfl fun ⟨p, i, d, _⟩ => empty p i d,
      fun _ => iff_of_false (by simp [countOf]) fun two =>
        let ⟨p, i, d, _⟩ := two.exists; empty p i d,
      fun _ pos => absurd pos (Nat.lt_irrefl 0)⟩

theorem ScanOK.congr {s : Search} (same : ∀ p i, done p i ↔ done' p i)
    (ok : ScanOK env root name k count done s) : ScanOK env root name k count done' s := by
  obtain rfl : done = done' := funext₂ fun p i => propext (same p i)
  exact ok

theorem Scanned.congr {r : Except Unit Search} (same : ∀ p i, done p i ↔ done' p i)
    (scanned : Scanned env root name k count done r) : Scanned env root name k count done' r := by
  obtain rfl : done = done' := funext₂ fun p i => propext (same p i)
  exact scanned

theorem Scanned.bind {r : Except Unit Search} {g : Search → Except Unit Search}
    (first : Scanned env root name k count done r) (sub : ∀ p i, done p i → done' p i)
    (rest : ∀ s, r = .ok s → ScanOK env root name k count done s →
      Scanned env root name k count done' (g s)) :
    Scanned env root name k count done' (r >>= g) := by
  rcases first with ⟨s, rfl, ok⟩ | ⟨rfl, clash⟩
  · exact rest s rfl ok
  · exact .inr ⟨rfl, clash.mono fun p i ⟨d, h⟩ => ⟨sub p i d, h⟩⟩

variable {t i : Nat}

theorem Matched.skip {result : Option (Field × List Nat)}
    (matched : Matched env root name k count done result) (fresh : ¬ done t i)
    (miss : ¬ NamedAt env name t i) :
    Matched env root name k count (fun p j => done p j ∨ p = t ∧ j = i) result where
  noClash := by
    rw [twoHits_insert _ fresh]
    exact fun two => two.elim matched.noClash fun ⟨hit, _⟩ => miss hit
  result p j d hit := d.elim (matched.result p j · hit) fun ⟨same, same'⟩ => by
    subst same same'
    exact absurd hit miss
  found some := let ⟨p, j, d, hit⟩ := matched.found some; ⟨p, j, .inl d, hit⟩

theorem Matched.first {f : Field} {idx : List Nat}
    (matched : Matched env root name k count done none) (fresh : ¬ done t i)
    (field : (env.fields t)[i]? = some f) (named : f.name = name) (once : ¬ 1 < countOf count t)
    (len : idx.length = k) (reach : Embeds env root idx t) :
    Matched env root name k count (fun p j => done p j ∨ p = t ∧ j = i) (some (f, idx ++ [i])) := by
  have unmatched : ¬ ∃ p j, done p j ∧ NamedAt env name p j := fun ⟨p, j, d, hit⟩ =>
    let ⟨_, _, none_eq, _⟩ := matched.result p j d hit
    Option.noConfusion none_eq
  refine ⟨?_, fun p j d hit => ?_, fun _ => ⟨t, i, .inr ⟨rfl, rfl⟩, f, field, named⟩⟩
  · rw [twoHits_insert _ fresh]
    exact fun two => two.elim matched.noClash fun ⟨_, other⟩ => other.elim unmatched once
  · rcases d with d | ⟨rfl, rfl⟩
    · exact absurd ⟨p, j, d, hit⟩ unmatched
    · exact ⟨f, idx, rfl, field, len, reach⟩

theorem Matched.clash {result : Option (Field × List Nat)}
    (matched : Matched env root name k count done result) (fresh : ¬ done t i)
    (hit : NamedAt env name t i) (either : 1 < countOf count t ∨ result ≠ none) :
    TwoHits count fun p j => (done p j ∨ p = t ∧ j = i) ∧ NamedAt env name p j :=
  (twoHits_insert _ fresh).2 (.inr ⟨hit, either.symm.imp matched.found id⟩)

variable {queue : List (Nat × List Nat)} {counts : List (Nat × Nat)}

theorem Queued.exists_of_pos (queued : Queued env root k count done queue counts) {u : Nat}
    (pos : 0 < countOf counts u) : ∃ p i, done p i ∧ env.embedsAt p i = some u :=
  Classical.not_not.1 ((queued.queued u).not.1 (Nat.pos_iff_ne_zero.1 pos))

theorem Queued.skip (queued : Queued env root k count done queue counts) (fresh : ¬ done t i)
    (plain : env.embedsAt t i = none) :
    Queued env root k count (fun p j => done p j ∨ p = t ∧ j = i) queue counts where
  next := queued.next
  queued u := by simpa [exists_insert, plain] using queued.queued u
  twice u := by simpa [twoHits_insert _ fresh, plain] using queued.twice u
  listed := queued.listed

theorem Queued.other_iff (queued : Queued env root k count done queue counts) (fresh : ¬ done t i)
    {u₀ u : Nat} (step : env.embedsAt t i = some u₀) (other : u ≠ u₀) :
    (countOf counts u = 0 ↔
        ¬ ∃ p j, (done p j ∨ p = t ∧ j = i) ∧ env.embedsAt p j = some u) ∧
      (2 ≤ countOf counts u ↔
        TwoHits count fun p j => (done p j ∨ p = t ∧ j = i) ∧ env.embedsAt p j = some u) := by
  have miss : env.embedsAt t i ≠ some u := by
    rw [step]
    exact fun same => other (Option.some.inj same).symm
  simp only [exists_insert, twoHits_insert _ fresh, miss, false_and, or_false]
  exact ⟨queued.queued u, queued.twice u⟩

theorem Queued.again (queued : Queued env root k count done queue counts) (fresh : ¬ done t i)
    {u₀ : Nat} (step : env.embedsAt t i = some u₀) (seen : 0 < countOf counts u₀) :
    Queued env root k count (fun p j => done p j ∨ p = t ∧ j = i) queue ((u₀, 2) :: counts) where
  next := queued.next
  queued u := by
    rw [countOf_cons]
    split
    · next same =>
      subst same
      exact iff_of_false (by decide) (not_not.2 ((exists_insert _).2 (.inr step)))
    · next other => exact (queued.other_iff fresh step other).1
  twice u := by
    rw [countOf_cons]
    split
    · next same =>
      subst same
      exact iff_of_true le_rfl
        ((twoHits_insert _ fresh).2 (.inr ⟨step, .inl (queued.exists_of_pos seen)⟩))
    · next other => exact (queued.other_iff fresh step other).2
  listed u pos := by
    rw [countOf_cons] at pos
    split at pos
    · next same => exact same ▸ queued.listed _ seen
    · exact queued.listed u pos

theorem Queued.first (queued : Queued env root k count done queue counts) (fresh : ¬ done t i)
    {u₀ : Nat} {idx : List Nat} (step : env.embedsAt t i = some u₀)
    (unseen : ¬ 0 < countOf counts u₀) (len : idx.length = k) (reach : Embeds env root idx t) :
    Queued env root k count (fun p j => done p j ∨ p = t ∧ j = i)
      (queue ++ [(u₀, idx ++ [i])]) ((u₀, if countOf count t > 1 then 2 else 1) :: counts) where
  next q mem := by
    rcases List.mem_append.1 mem with old | new
    · exact queued.next q old
    · rw [List.mem_singleton] at new
      subst new
      exact ⟨by simp [len], Embeds.snoc_iff.2 ⟨t, reach, step⟩⟩
  queued u := by
    rw [countOf_cons]
    split
    · next same =>
      subst same
      exact iff_of_false (by split <;> decide) (not_not.2 ((exists_insert _).2 (.inr step)))
    · next other => exact (queued.other_iff fresh step other).1
  twice u := by
    rw [countOf_cons]
    split
    · next same =>
      subst same
      have none_before : ¬ ∃ p j, done p j ∧ env.embedsAt p j = some u :=
        (queued.queued u).1 (Nat.eq_zero_of_not_pos unseen)
      rw [twoHits_insert _ fresh]
      simp only [step, true_and, none_before, false_or,
        show ¬ TwoHits count _ from fun two => none_before two.exists]
      split <;> omega
    · next other => exact (queued.other_iff fresh step other).2
  listed u pos := by
    rw [countOf_cons] at pos
    split at pos
    · next same => exact ⟨idx ++ [i], same ▸ List.mem_append_right _ (List.mem_singleton_self _)⟩
    · obtain ⟨q, mem⟩ := queued.listed u pos
      exact ⟨q, List.mem_append_left _ mem⟩

theorem ScanOK.scanField {s : Search} {idx : List Nat} {f : Field}
    (ok : ScanOK env root name k count done s) (len : idx.length = k)
    (reach : Embeds env root idx t) (field : (env.fields t)[i]? = some f) (fresh : ¬ done t i) :
    Scanned env root name k count (fun p j => done p j ∨ p = t ∧ j = i)
      (scanField name (countOf count t) idx s i f) := by
  unfold Validation.scanField
  split
  · next named =>
    have hit := (namedAt_iff field).2 named
    split
    · next quiet =>
      refine .inr ⟨rfl, ok.matched.clash fresh hit ?_⟩
      simpa [Option.isSome_iff_ne_none] using quiet
    · next quiet =>
      simp only [Bool.or_eq_true, decide_eq_true_eq, Option.isSome_iff_ne_none, not_or,
        not_not] at quiet
      have matched : Matched env root name k count done none := quiet.2 ▸ ok.matched
      exact .inl ⟨_, rfl, matched.first fresh field named quiet.1 len reach,
        fun none => Option.noConfusion none⟩
  · next unnamed =>
    have miss := mt (namedAt_iff field).1 unnamed
    have matched := ok.matched.skip fresh miss
    have step : env.embedsAt t i = f.embeddedStruct := by simp [Env.embedsAt, field]
    refine .inl ?_
    split
    · next plain =>
      exact ⟨s, rfl, matched, fun none => (ok.queue none).skip fresh (step.trans plain)⟩
    · next u₀ embeds =>
      split
      · next found =>
        exact ⟨s, rfl, matched, fun none => absurd found (by simp [none])⟩
      · next none =>
        simp only [Option.isSome_iff_ne_none, not_not] at none
        split
        · next seen =>
          exact ⟨_, rfl, matched, fun _ => (ok.queue none).again fresh (step.trans embeds) seen⟩
        · next unseen =>
          exact ⟨_, rfl, matched, fun _ =>
            (ok.queue none).first fresh (step.trans embeds) unseen len reach⟩

end Scan

/-! ## A whole level -/

section Level

variable {root : Nat} {name : String} {k : Nat} {count : List (Nat × Nat)}

theorem scanFields_scanned {t : Nat} {idx : List Nat} (len : idx.length = k)
    (reach : Embeds env root idx t) :
    ∀ {s : Search} {i : Nat} {done : Nat → Nat → Prop} (fs : List Field),
      (∀ j, (env.fields t)[i + j]? = fs[j]?) → (∀ j, i ≤ j → ¬ done t j) →
      ScanOK env root name k count done s →
      Scanned env root name k count (fun p j => done p j ∨ p = t ∧ i ≤ j ∧ j < i + fs.length)
        (scanFields name (countOf count t) idx s i fs)
  | s, i, done, [], _, _, ok =>
    Scanned.congr (fun p j => (or_iff_left fun ⟨_, lo, hi⟩ => by simp at hi; omega).symm)
      (.inl ⟨s, rfl, ok⟩)
  | s, i, done, f :: fs, fields, fresh, ok => by
    have field : (env.fields t)[i]? = some f := by simpa using fields 0
    refine (ok.scanField len reach field (fresh i (Nat.le_refl i))).bind (fun p j d => ?_)
      fun s₁ _ ok₁ => ?_
    · rcases d with d | ⟨rfl, rfl⟩
      · exact .inl d
      · exact .inr ⟨rfl, Nat.le_refl _, by simp⟩
    · refine (scanFields_scanned len reach fs (fun j => ?_) (fun j lt d => ?_) ok₁).congr
        fun p j => ?_
      · rw [Nat.add_right_comm]
        exact (fields (j + 1)).trans List.getElem?_cons_succ
      · exact d.elim (fresh j (by omega)) fun ⟨_, same⟩ => by omega
      · by_cases d : done p j <;> simp only [d, true_or, false_or, List.length_cons]
        omega

theorem exists_entry_cons {p t : Nat} {idx : List Nat} {rest : List (Nat × List Nat)} :
    (∃ idx', (p, idx') ∈ (t, idx) :: rest) ↔ p = t ∨ ∃ idx', (p, idx') ∈ rest := by
  simp only [List.mem_cons, Prod.mk.injEq]
  constructor
  · rintro ⟨idx', ⟨rfl, -⟩ | mem⟩
    exacts [.inl rfl, .inr ⟨idx', mem⟩]
  · rintro (rfl | ⟨idx', mem⟩)
    exacts [⟨idx, .inl ⟨rfl, rfl⟩⟩, ⟨idx', .inr mem⟩]

theorem scanLevel_visited :
    ∀ {s s' : Search} {rest : List (Nat × List Nat)}, scanLevel env name count s rest = .ok s' →
      ∀ p, p ∈ s'.visited ↔ p ∈ s.visited ∨ ∃ idx, (p, idx) ∈ rest
  | _, _, [], scanned, p => by cases scanned; simp
  | s, s', (t, idx) :: rest, scanned, p => by
    simp only [scanLevel] at scanned
    rw [exists_entry_cons]
    split at scanned
    · next seen =>
      rw [scanLevel_visited scanned p]
      constructor
      · exact Or.imp_right .inr
      · rintro (old | rfl | entry)
        exacts [.inl old, .inl seen, .inr entry]
    · obtain ⟨s₁, fields, rest'⟩ := bind_eq_ok.1 scanned
      rw [scanLevel_visited rest' p, scanFields_visited fields, List.mem_cons, or_assoc,
        or_left_comm]

theorem scanLevel_scanned (visited : List Nat) :
    ∀ {s : Search} {S : Nat → Prop} (rest : List (Nat × List Nat)),
      (∀ q ∈ rest, q.2.length = k ∧ Embeds env root q.2 q.1) →
      (∀ p, p ∈ s.visited ↔ p ∈ visited ∨ S p) →
      ScanOK env root name k count (doneIn env S) s →
      Scanned env root name k count
        (doneIn env fun p => S p ∨ p ∉ visited ∧ ∃ idx, (p, idx) ∈ rest)
        (scanLevel env name count s rest)
  | s, S, [], _, _, ok =>
    Scanned.congr (fun p j => by simp [doneIn]) (.inl ⟨s, rfl, ok⟩)
  | s, S, (t, idx) :: rest, entries, seen, ok => by
    have later : ∀ q ∈ rest, q.2.length = k ∧ Embeds env root q.2 q.1 :=
      fun q mem => entries q (List.mem_cons_of_mem _ mem)
    simp only [scanLevel]
    split
    · next old =>
      refine (scanLevel_scanned visited rest later seen ok).congr (doneIn_congr fun p => ?_)
      rw [exists_entry_cons]
      constructor
      · exact Or.imp_right (And.imp_right .inr)
      · rintro (sp | ⟨fresh, rfl | entry⟩)
        exacts [.inl sp, .inl (((seen p).1 old).resolve_left fresh), .inr ⟨fresh, entry⟩]
    · next unseen =>
      obtain ⟨len, reach⟩ := entries (t, idx) (List.mem_cons_self _ _)
      have first := scanFields_scanned len reach (s := { s with visited := t :: s.visited })
        (env.fields t) (fun j => by rw [Nat.zero_add])
        (fun j _ ⟨st, _⟩ => unseen ((seen t).2 (.inr st))) ⟨ok.matched, ok.queue⟩
      refine first.bind (fun p j d => ?_) fun s₁ scanned ok₁ => ?_
      · rcases d with ⟨sp, lt⟩ | ⟨rfl, -, lt⟩
        · exact ⟨.inl sp, lt⟩
        · exact ⟨.inr ⟨fun mem => unseen ((seen p).2 (.inl mem)), idx, List.mem_cons_self _ _⟩,
            by simpa using lt⟩
      · have seen₁ : ∀ p, p ∈ s₁.visited ↔ p ∈ visited ∨ (S p ∨ p = t) := fun p => by
          rw [scanFields_visited scanned, List.mem_cons, seen p, or_comm, or_assoc]
        have ok₁ := ok₁.congr fun p j => show _ ↔ doneIn env (fun p => S p ∨ p = t) p j by
          simp only [doneIn]
          constructor
          · rintro (⟨sp, lt⟩ | ⟨rfl, -, lt⟩)
            exacts [⟨.inl sp, lt⟩, ⟨.inr rfl, by simpa using lt⟩]
          · rintro ⟨sp | rfl, lt⟩
            exacts [.inl ⟨sp, lt⟩, .inr ⟨rfl, Nat.zero_le _, by simpa using lt⟩]
        refine (scanLevel_scanned visited rest later seen₁ ok₁).congr (doneIn_congr fun p => ?_)
        rw [exists_entry_cons]
        constructor
        · rintro ((sp | rfl) | ⟨fresh, entry⟩)
          exacts [.inl sp, .inr ⟨fun mem => unseen ((seen _).2 (.inl mem)), .inl rfl⟩,
            .inr ⟨fresh, .inr entry⟩]
        · rintro (sp | ⟨fresh, rfl | entry⟩)
          exacts [.inl (.inl sp), .inl (.inr rfl), .inr ⟨fresh, entry⟩]

/-- The state between depth levels, about to scan the struct types at depth `k`. -/
structure Level (env : Env) (root : Nat) (name : String) (k : Nat)
    (current : List (Nat × List Nat)) (count : List (Nat × Nat)) (visited : List Nat) : Prop where
  visited_iff : ∀ t, t ∈ visited ↔ ∃ j < k, ReachedAt env root j t
  paths : ∀ q ∈ current, q.2.length = k ∧ Embeds env root q.2 q.1
  complete : ∀ t, DepthOf env root k t → ∃ idx, (t, idx) ∈ current
  counted : ∀ t, DepthOf env root k t → (1 < countOf count t ↔ Twice env root k t)
  shallow : ∀ f index, Resolves env root f index → f.name = name → k < index.length

theorem Level.start (root : Nat) (name : String) : Level env root name 0 [(root, [])] [] [] where
  visited_iff t := iff_of_false (List.not_mem_nil t) fun ⟨j, lt, _⟩ => Nat.not_lt_zero j lt
  paths q mem := by
    rw [List.mem_singleton] at mem
    subst mem
    exact ⟨rfl, .refl root⟩
  complete t depth := by
    obtain ⟨path, len, reach⟩ := depth.1
    obtain rfl := List.eq_nil_of_length_eq_zero len
    cases reach
    exact ⟨[], List.mem_singleton_self _⟩
  counted t _ := iff_of_false (by simp [countOf]) fun ⟨p, q, ne, len, len', _⟩ =>
    ne (by rw [List.eq_nil_of_length_eq_zero len, List.eq_nil_of_length_eq_zero len'])
  shallow f index res _ := by
    obtain ⟨q, i, s, rfl, _⟩ := res
    simp

variable {current : List (Nat × List Nat)} {visited : List Nat}

theorem Level.depthOf_iff (lvl : Level env root name k current count visited) (p : Nat) :
    DepthOf env root k p ↔ p ∉ visited ∧ ∃ idx, (p, idx) ∈ current :=
  ⟨fun depth => ⟨fun mem => let ⟨j, lt, r⟩ := (lvl.visited_iff p).1 mem; depth.2 j lt r,
      lvl.complete p depth⟩,
    fun ⟨unseen, idx, mem⟩ => ⟨⟨idx, lvl.paths _ mem⟩,
      fun j lt r => unseen ((lvl.visited_iff p).2 ⟨j, lt, r⟩)⟩⟩

theorem Level.scan (lvl : Level env root name k current count visited) :
    Scanned env root name k count (doneIn env (DepthOf env root k))
      (scanLevel env name count ⟨none, [], [], visited⟩ current) :=
  (scanLevel_scanned visited (S := fun _ => False) current lvl.paths
      (fun _ => ⟨Or.inl, (Or.resolve_right · id)⟩)
      (ScanOK.start visited fun p j ⟨f, _⟩ => f)).congr fun p j => by
    simp only [doneIn, false_or, lvl.depthOf_iff p]

theorem twoPaths_iff_twice {u : Nat} (depth : DepthOf env root (k + 1) u) :
    TwoPaths env root k
        (fun p i => doneIn env (DepthOf env root k) p i ∧ env.embedsAt p i = some u) ↔
      Twice env root (k + 1) u := by
  constructor
  · rintro ⟨q, i, p, q', i', p', ne, len, len', reach, reach', ⟨-, step⟩, ⟨-, step'⟩⟩
    exact ⟨q ++ [i], q' ++ [i'], ne, by simp [len], by simp [len'],
      Embeds.snoc_iff.2 ⟨p, reach, step⟩, Embeds.snoc_iff.2 ⟨p', reach', step'⟩⟩
  · rintro ⟨r, r', ne, len, len', reach, reach'⟩
    obtain ⟨q, i, p, rfl, qlen, first, step⟩ := Embeds.last len reach
    obtain ⟨q', i', p', rfl, qlen', first', step'⟩ := Embeds.last len' reach'
    exact ⟨q, i, p, q', i', p', ne, qlen, qlen', first, first',
      ⟨⟨depth.of_step qlen first step, embedsAt_lt step⟩, step⟩,
      ⟨⟨depth.of_step qlen' first' step', embedsAt_lt step'⟩, step'⟩⟩

theorem Level.next (lvl : Level env root name k current count visited) {s : Search}
    (scanned : scanLevel env name count ⟨none, [], [], visited⟩ current = .ok s)
    (ok : ScanOK env root name k count (doneIn env (DepthOf env root k)) s)
    (none : s.result = none) : Level env root name (k + 1) s.next s.nextCount s.visited where
  visited_iff t := by
    rw [scanLevel_visited scanned t]
    constructor
    · rintro (old | ⟨idx, mem⟩)
      · obtain ⟨j, lt, r⟩ := (lvl.visited_iff t).1 old
        exact ⟨j, by omega, r⟩
      · exact ⟨k, by omega, idx, lvl.paths _ mem⟩
    · rintro ⟨j, lt, r⟩
      by_cases shallower : ∃ j < k, ReachedAt env root j t
      · exact .inl ((lvl.visited_iff t).2 shallower)
      · obtain rfl : j = k := by
          by_contra ne
          exact shallower ⟨j, by omega, r⟩
        exact .inr (lvl.complete t ⟨r, fun j lt r => shallower ⟨j, lt, r⟩⟩)
  paths := (ok.queue none).next
  complete u depth := by
    obtain ⟨i, p, step, parent⟩ := depth.parent
    refine (ok.queue none).listed u (Nat.pos_of_ne_zero fun zero => ?_)
    exact ((ok.queue none).queued u).1 zero ⟨p, i, ⟨parent, embedsAt_lt step⟩, step⟩
  counted u depth :=
    ((ok.queue none).twice u).trans
      ((twoHits_iff_twoPaths (fun _ _ hit => hit.1.1) lvl.counted).trans (twoPaths_iff_twice depth))
  shallow g index res named := by
    have deeper := lvl.shallow g index res named
    by_contra shallower
    obtain ⟨q, i, p, rfl, -, -, field, depth⟩ := res.depthOf named (by omega) lvl.shallow
    obtain ⟨_, _, some_eq, _⟩ :=
      ok.matched.result p i ⟨depth, (List.getElem?_eq_some_iff.1 field).1⟩ ⟨g, field, named⟩
    rw [none] at some_eq
    cases some_eq

theorem Level.selects (lvl : Level env root name k current count visited)
    {r : Option (Field × List Nat)}
    (matched : Matched env root name k count (doneIn env (DepthOf env root k)) r) {p i : Nat}
    {f : Field} {q : List Nat} (done : doneIn env (DepthOf env root k) p i)
    (field : (env.fields p)[i]? = some f) (named : f.name = name) (len : q.length = k)
    (reach : Embeds env root q p) : Selects env root name f (q ++ [i]) := by
  refine ⟨⟨q, i, p, rfl, reach, field⟩, named, fun g index' res named' short => ?_⟩
  have deeper := lvl.shallow g index' res named'
  simp only [List.length_append, List.length_singleton, len] at short
  obtain ⟨q', i', p', rfl, len', reach', field', depth'⟩ :=
    res.depthOf named' (by omega) lvl.shallow
  by_contra ne
  exact matched.noClash ((twoHits_iff_twoPaths (fun _ _ hit => hit.1.1) lvl.counted).2
    ⟨q', i', p', q, i, p, ne, len', len, reach', reach,
      ⟨⟨depth', (List.getElem?_eq_some_iff.1 field').1⟩, g, field', named'⟩,
      ⟨done, f, field, named⟩⟩)

theorem fieldByNameFunc_iff {f : Field} {index : List Nat} :
    ∀ (fuel k : Nat) (current : List (Nat × List Nat)) (count : List (Nat × Nat))
      (visited : List Nat), Level env root name k current count visited →
      (fieldByNameFunc env name fuel current count visited = some (f, index) ↔
        Selects env root name f index ∧ index.length ≤ k + fuel)
  | 0, k, _, _, _, lvl => by
    refine iff_of_false (by simp [fieldByNameFunc]) fun ⟨⟨res, named, _⟩, len⟩ => ?_
    have := lvl.shallow f index res named
    omega
  | fuel + 1, k, [], _, _, lvl => by
    refine iff_of_false (by simp [fieldByNameFunc_nil]) fun ⟨sel, _⟩ => ?_
    obtain ⟨p, depth⟩ := sel.depthOf (lvl.shallow f index sel.1 sel.2.1)
    obtain ⟨_, mem⟩ := lvl.complete p depth
    cases mem
  | fuel + 1, k, c :: cs, count, visited, lvl => by
    have deep := fun sel : Selects env root name f index => lvl.shallow f index sel.1 sel.2.1
    simp only [fieldByNameFunc]
    rcases lvl.scan with ⟨s, scanned, ok⟩ | ⟨scanned, clash⟩
    · rw [scanned]
      cases res : s.result with
      | none =>
        simp only [res, Option.isSome_none, Bool.false_eq_true, if_false]
        rw [fieldByNameFunc_iff fuel (k + 1) _ _ _ (lvl.next scanned ok res), Nat.add_right_comm,
          Nat.add_assoc]
      | some r =>
        obtain ⟨p, i, done, hit⟩ := ok.matched.found (res ▸ Option.some_ne_none r)
        obtain ⟨f₀, q, found, field, len, reach⟩ := ok.matched.result p i done hit
        have named := (namedAt_iff field).1 hit
        have sel₀ := lvl.selects ok.matched done field named len reach
        simp only [found, Option.isSome_some, if_true, Option.some.injEq, Prod.mk.injEq]
        constructor
        · rintro ⟨rfl, rfl⟩
          exact ⟨sel₀, by simp [len]⟩
        · rintro ⟨sel, -⟩
          have same := sel.2.2 f₀ (q ++ [i]) sel₀.1 named (by have := deep sel; simp [len]; omega)
          subst same
          exact ⟨sel₀.1.field_unique sel.1, rfl⟩
    · rw [scanned]
      refine iff_of_false (by simp) fun ⟨sel, _⟩ => ?_
      obtain ⟨q, i, p, q', i', p', ne, len, len', reach, reach', ⟨_, g, field, named⟩,
        ⟨_, g', field', named'⟩⟩ :=
        (twoHits_iff_twoPaths (fun _ _ hit => hit.1.1) lvl.counted).1 clash
      have := deep sel
      exact ne ((sel.2.2 g _ ⟨q, i, p, rfl, reach, field⟩ named (by simp [len]; omega)).trans
        (sel.2.2 g' _ ⟨q', i', p', rfl, reach', field'⟩ named' (by simp [len']; omega)).symm)

end Level

/-! ## The selector rule -/

/-- `FieldByNameFunc` returns exactly the field Go's selector rule selects, with no assumption on
the struct types. -/
theorem fieldByNameFunc_selects (root : Nat) (name : String) (f : Field) (index : List Nat) :
    fieldByNameFunc env name (env.length + 1) [(root, [])] [] [] = some (f, index) ↔
      Selects env root name f index := by
  rw [← fieldByNameFunc_enough_fuel env name root index.length,
    fieldByNameFunc_iff _ 0 _ _ _ (Level.start root name)]
  exact ⟨And.left, fun sel => ⟨sel, by omega⟩⟩

theorem quickCheck_unique {name : String} {fs : List Field} {i j : Nat} {g g' : Field}
    (quick : quickCheck name fs = some (i, g)) (unique : fs.countP (·.name = name) ≤ 1)
    (field : fs[j]? = some g') (named : g'.name = name) : j = i := by
  obtain ⟨pre, post, rfl, rfl, named₀, fresh⟩ := quickCheck_split quick
  rcases Nat.lt_trichotomy j pre.length with lt | eq | gt
  · rw [List.getElem?_append_left lt] at field
    exact absurd named (fresh g' (List.getElem?_mem field))
  · exact eq
  · rw [List.getElem?_append_right (Nat.le_of_lt gt)] at field
    obtain ⟨m, after⟩ : ∃ m, j - pre.length = m + 1 := ⟨j - pre.length - 1, by omega⟩
    rw [after, List.getElem?_cons_succ] at field
    exact absurd named (others_after named₀ unique g' (List.getElem?_mem field))

theorem Field.embedded_of_embeddedStruct {g : Field} {u : Nat}
    (embedded : g.embeddedStruct = some u) : g.embedded = true := by
  unfold Field.embeddedStruct at embedded
  split at embedded
  · assumption
  · cases embedded

/-- `Type.FieldByName` returns exactly the field Go's selector rule selects. -/
theorem fieldByName_selects {id : Nat} {name : String} {f : Field} {index : List Nat}
    (unique : (env.fields id).countP (·.name = name) ≤ 1) :
    env.fieldByName id name = some (f, index) ↔ name ≠ "" ∧ Selects env id name f index := by
  unfold Env.fieldByName
  split
  · next empty => exact iff_of_false (by simp) fun ⟨nonempty, _⟩ => nonempty empty
  · next nonempty =>
    rw [and_iff_right nonempty]
    split
    · next i g quick =>
      have top : Selects env id name g [i] := by
        obtain ⟨-, -, -, -, named, -⟩ := quickCheck_split quick
        refine ⟨⟨[], i, id, rfl, .refl id, quickCheck_lookup quick⟩, named,
          fun g' index' res named' short => ?_⟩
        obtain ⟨q, j, s, rfl, reach, field⟩ := res
        obtain rfl : q = [] := by simpa using short
        cases reach
        rw [quickCheck_unique quick unique field named', List.nil_append]
      simp only [Option.some.injEq, Prod.mk.injEq]
      constructor
      · rintro ⟨rfl, rfl⟩
        exact top
      · intro sel
        have same := sel.2.2 g [i] top.1 top.2.1 (by obtain ⟨q, j, s, rfl, -⟩ := sel.1; simp)
        subst same
        exact ⟨top.1.field_unique sel.1, rfl⟩
    · next quick =>
      split
      · rw [← fieldByNameFunc_enough_fuel env name id index.length,
          fieldByNameFunc_iff _ 0 _ _ _ (Level.start id name)]
        exact ⟨And.left, fun sel => ⟨sel, by omega⟩⟩
      · next plain =>
        refine iff_of_false (by simp) fun ⟨res, named, _⟩ => ?_
        obtain ⟨q, j, s, rfl, reach, field⟩ := res
        cases reach with
        | refl => exact quickCheck_none quick f (List.getElem?_mem field) named
        | cons field' embedded _ =>
          exact plain (List.any_eq_true.2
            ⟨_, List.getElem?_mem field', Field.embedded_of_embeddedStruct embedded⟩)

theorem fieldByName_selects_promoted :
    (Env.fields [[.mk "Inner" (.struct 1) true "", .mk "Y" (.basic "int") false ""],
        [.mk "X" (.basic "int") false ""]] 0).countP (·.name = "X") ≤ 1 ∧
      Selects [[.mk "Inner" (.struct 1) true "", .mk "Y" (.basic "int") false ""],
        [.mk "X" (.basic "int") false ""]] 0 "X" (.mk "X" (.basic "int") false "") [0, 0] :=
  ⟨by decide, ((fieldByName_selects (by decide)).1 (by decide)).2⟩

end DistLock.Validation

import DistLock.Basic

namespace DistLock.Token

def second : Int := 1000000000

def unix (t : Int) : Int := t / second

/-! ## The configuration -/

structure Config where
  key : String
  identityKey : String
  expiration : Int
  deriving DecidableEq, Repr

def defaultConfig : Config :=
  ⟨"Rtg8BPKNEf2mB4mgvKONGPZZQSaJWNLijxR42qRgq0iBb5", "identityKey", 2 * 3600 * second⟩

/-- The package's variables: `config`, and whether `once` has run its function. -/
structure Package where
  config : Config
  done : Bool
  deriving DecidableEq, Repr

def Package.start : Package := ⟨defaultConfig, false⟩

/-- The function `Init` passes to `once.Do`: each non-empty or non-zero argument replaces its field. -/
def Config.set (c : Config) (key identityKey : String) (expiration : Int) : Config :=
  { key := if key ≠ "" then key else c.key,
    identityKey := if identityKey ≠ "" then identityKey else c.identityKey,
    expiration := if expiration ≠ 0 then expiration else c.expiration }

def init (key identityKey : String) (expiration : Int) (p : Package) : Package :=
  if p.done then p else ⟨p.config.set key identityKey expiration, true⟩

/-! ## Claims -/

/-- A claim as `jwt.Parse` decodes it from JSON: a string, a number (a `float64`), or another value. -/
inductive Claim where
  | str (s : String)
  | num (n : Int)
  | other
  deriving DecidableEq, Repr

abbrev MapClaims := List (String × Claim)

/-- The check of a time claim `MapClaims` does not require: absent or 0 passes; a non-number fails. -/
def verifyTime (claim : String) (holds : Int → Bool) (m : MapClaims) : Bool :=
  match m.lookup claim with
  | none => true
  | some (.num t) => t == 0 || holds t
  | some _ => false

def verifyExpiresAt (m : MapClaims) (now : Int) : Bool := verifyTime "exp" (fun exp => now < exp) m

def verifyIssuedAt (m : MapClaims) (now : Int) : Bool := verifyTime "iat" (fun iat => iat ≤ now) m

def verifyNotBefore (m : MapClaims) (now : Int) : Bool := verifyTime "nbf" (fun nbf => nbf ≤ now) m

theorem verifyTime_ne_str {claim : String} {holds : Int → Bool} {m : MapClaims} {s : String}
    (passes : verifyTime claim holds m = true) : m.lookup claim ≠ some (.str s) := by
  intro str
  rw [verifyTime, str] at passes
  cases passes

/-! ## Errors -/

inductive Flag where
  | unverifiable
  | signatureInvalid
  | expired
  | issuedAt
  | notValidYet
  deriving DecidableEq, Repr

inductive Error where
  | invalidKey
  | signatureInvalid
  | validation (flags : List Flag)
  deriving DecidableEq, Repr

/-- `MapClaims.Valid()` at `now`: the bits of the checks that fail, `[]` for nil. -/
def MapClaims.valid (m : MapClaims) (now : Int) : List Flag :=
  (if verifyExpiresAt m (unix now) then [] else [.expired]) ++
    (if verifyIssuedAt m (unix now) then [] else [.issuedAt]) ++
      (if verifyNotBefore m (unix now) then [] else [.notValidYet])

theorem MapClaims.valid_eq_nil {m : MapClaims} {now : Int} :
    m.valid now = [] ↔ verifyExpiresAt m (unix now) = true ∧ verifyIssuedAt m (unix now) = true ∧
      verifyNotBefore m (unix now) = true := by
  unfold valid
  split <;> split <;> split <;> simp_all

/-! ## Tokens -/

/-- A `*jwt.Token` as `jwt.Parse` decodes it: the header's `alg`, the claims, and the signature. -/
structure Jwt where
  alg : String
  claims : MapClaims
  signature : String

def claimedIdentity (claims : MapClaims) (identityKey : String) : String :=
  match claims.lookup identityKey with
  | some (.str identity) => identity
  | _ => ""

theorem claimedIdentity_eq_iff {claims : MapClaims} {identityKey identity : String} :
    claimedIdentity claims identityKey = identity ∧ identity ≠ "" ↔
      claims.lookup identityKey = some (.str identity) ∧ identity ≠ "" := by
  unfold claimedIdentity
  split
  · next s found => simp only [found, Option.some.injEq, Claim.str.injEq]
  · next other => exact ⟨fun ⟨empty, nonempty⟩ => absurd empty.symm nonempty,
      fun ⟨str, _⟩ => absurd str (other _)⟩

def hmacMethods : List String := ["HS256", "HS384", "HS512"]

section Signing

/- The HMAC, with the hash `alg` names, of a token's signing string under a key. -/
variable (hmac : String → String → MapClaims → String)

/-- `jwt.Parse` with `Parse`'s key function, which refuses every method but HMAC. -/
def jwtParse (token : Jwt) (key : String) (now : Int) : Except Error Jwt :=
  if token.alg ∉ hmacMethods then .error (.validation [.unverifiable])
  else
    let flags := token.claims.valid now ++
      (if token.signature = hmac key token.alg token.claims then [] else [.signatureInvalid])
    if flags = [] then .ok token else .error (.validation flags)

def parse (config : Config) (token : Jwt) (key : String) (now : Int) : Except Error String := do
  let token ← jwtParse hmac token key now
  let identityKey := claimedIdentity token.claims config.identityKey
  if identityKey = "" then .error .signatureInvalid else .ok identityKey

variable {hmac}

theorem jwtParse_ok_iff {token token' : Jwt} {key : String} {now : Int} :
    jwtParse hmac token key now = .ok token' ↔
      token = token' ∧ token.alg ∈ hmacMethods ∧ token.signature = hmac key token.alg token.claims ∧
        token.claims.valid now = [] := by
  unfold jwtParse
  by_cases alg : token.alg ∈ hmacMethods
  · by_cases signed : token.signature = hmac key token.alg token.claims <;>
      by_cases valid : token.claims.valid now = [] <;> simp [alg, signed, valid]
  · simp [alg]

theorem parse_ok_iff {config : Config} {token : Jwt} {key : String} {now : Int}
    {identity : String} :
    parse hmac config token key now = .ok identity ↔
      token.alg ∈ hmacMethods ∧ token.signature = hmac key token.alg token.claims ∧
        token.claims.valid now = [] ∧ token.claims.lookup config.identityKey = some (.str identity) ∧
          identity ≠ "" := by
  have checked : ∀ claimed : String, (if claimed = "" then Except.error Error.signatureInvalid
      else Except.ok claimed) = .ok identity ↔ claimed = identity ∧ identity ≠ "" := by
    intro claimed
    by_cases empty : claimed = ""
    · subst empty
      simp only [if_true, reduceCtorEq, false_iff, not_and, ne_eq, not_not]
      exact Eq.symm
    · simp only [empty, if_false, Except.ok.injEq]
      exact ⟨fun same => ⟨same, same ▸ empty⟩, And.left⟩
  simp only [parse, bind_eq_ok, jwtParse_ok_iff, checked, ← claimedIdentity_eq_iff]
  constructor
  · rintro ⟨_, ⟨rfl, alg, signed, valid⟩, claimed⟩
    exact ⟨alg, signed, valid, claimed⟩
  · rintro ⟨alg, signed, valid, claimed⟩
    exact ⟨_, ⟨rfl, alg, signed, valid⟩, claimed⟩

/-- With the identity key `nbf`, `iat` or `exp`, `Parse` accepts no token at all. -/
theorem parse_reserved_identityKey {config : Config}
    (reserved : config.identityKey ∈ ["nbf", "iat", "exp"]) (token : Jwt) (key : String) (now : Int)
    (identity : String) : parse hmac config token key now ≠ .ok identity := by
  intro accepted
  obtain ⟨-, -, valid, claimed, -⟩ := parse_ok_iff.1 accepted
  obtain ⟨exp, iat, nbf⟩ := MapClaims.valid_eq_nil.1 valid
  simp only [List.mem_cons, List.mem_singleton, List.not_mem_nil, or_false] at reserved
  rcases reserved with key | key | key <;> rw [key] at claimed
  · exact verifyTime_ne_str nbf claimed
  · exact verifyTime_ne_str iat claimed
  · exact verifyTime_ne_str exp claimed

theorem parse_reserved_exp :
    (⟨"k", "exp", 3600 * second⟩ : Config).identityKey ∈ ["nbf", "iat", "exp"] ∧
      parse (fun _ _ _ => "") ⟨"k", "exp", 3600 * second⟩ ⟨"HS256", [("exp", .str "alice")], ""⟩ "k" 0 ≠
        .ok "alice" :=
  ⟨by decide, parse_reserved_identityKey (by decide) _ _ _ _⟩

end Signing

/-- The claims `Sign` issues, set in the literal's order, at the instants `t₀`, `t₁` and `t₂`. -/
def signClaims (config : Config) (identityKey : String) (t₀ t₁ t₂ : Int) : MapClaims :=
  mapSet (mapSet (mapSet (mapSet [] config.identityKey (.str identityKey)) "nbf" (.num (unix t₁)))
    "iat" (.num (unix t₂))) "exp" (.num (unix (t₀ + config.expiration)))

/-- `Sign`: the token string (`signedString` stands for its encoding and signature), and
`expireAt`. -/
def sign (signedString : String → String → MapClaims → String) (config : Config)
    (identityKey : String) (t₀ t₁ t₂ : Int) : Except Error (String × Int) :=
  let expireAt := t₀ + config.expiration
  let claims := signClaims config identityKey t₀ t₁ t₂
  if config.key = "" then .error .invalidKey
  else .ok (signedString config.key "HS256" claims, expireAt)

end DistLock.Token

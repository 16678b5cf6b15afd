import LumenFlow.Kit.Base64Url
import LumenFlow.Security.Numbers

/-!
# CSRF tokens of the SDK

`createCsrfToken` and `verifyCsrfToken`.  HMAC-SHA256 is a function of the host.  A clock gives
milliseconds, and the random bytes of a nonce are an argument.
-/

namespace LumenFlow

open Kit

namespace Security

/-- HMAC-SHA256 of a message under a secret. -/
abbrev Hmac := Bytes → Bytes → Bytes

/-- `text.length`, which counts UTF-16 code units. -/
def jsLength (text : JsString) : ℕ :=
  (text.map fun char => if char.toNat < 0x10000 then 1 else 2).sum

structure CsrfResult where
  valid : Bool
  error : String
  deriving DecidableEq

def CsrfResult.ok : CsrfResult := ⟨true, ""⟩

def CsrfResult.fail (error : String) : CsrfResult := ⟨false, error⟩

def safeMethods : List JsString :=
  [['G', 'E', 'T'], ['H', 'E', 'A', 'D'], ['O', 'P', 'T', 'I', 'O', 'N', 'S'],
    ['T', 'R', 'A', 'C', 'E']]

/-- `toUpperCase` of the characters that may become a letter of a safe method; no other character
has an upper case that occurs in one. -/
def upperCase (char : Char) : Char :=
  if char = 'ı' then 'I' else if char = 'ſ' then 'S' else char.toUpper

def isSafeMethod (method : JsString) : Bool := safeMethods.contains (method.map upperCase)

/-- The text that a token signs. -/
def signedText (sessionId nonce : JsString) (expEpochMs : ℚ) : JsString :=
  sessionId ++ '.' :: (nonce ++ '.' :: numberText expEpochMs)

def sign (hmac : Hmac) (sessionId nonce : JsString) (expEpochMs : ℚ) (secret : JsString) :
    JsString :=
  Base64Url.encode (hmac (utf8 secret) (utf8 (signedText sessionId nonce expEpochMs)))

/-- `Buffer.from(a)` and `Buffer.from(b)` have the same bytes. -/
def constantTimeEqual (a b : JsString) : Bool :=
  if (utf8 a).length ≠ (utf8 b).length then false else utf8 a == utf8 b

/-- `now() + ttl * 1000` in double precision, for safe integers. -/
def expiry (now ttl : ℤ) : ℤ := Double.roundInt (now + Double.roundInt (ttl * 1000))

def nonceText (randomBytes : Bytes) : JsString := Base64Url.encode randomBytes

def createCsrfToken (hmac : Hmac) (sessionId secret : JsString) (ttlSeconds : Option ℤ) (now : ℤ)
    (randomBytes : Bytes) : Except String JsString :=
  if sessionId = [] then .error "sessionId must be a non-empty string"
  else if jsLength secret < 16 then .error "secret must be at least 16 characters"
  else
    let exp : ℚ := expiry now (ttlSeconds.getD 43200)
    let nonce := nonceText randomBytes
    .ok (nonce ++ '.' :: (numberText exp ++ '.' :: sign hmac sessionId nonce exp secret))

/-- `verifyCsrfToken` after the comparison with the cookie. -/
def verifyFields (hmac : Hmac) (submittedToken sessionId secret : JsString) (now : ℤ) :
    CsrfResult :=
  match splitDots submittedToken with
  | [nonce, expRaw, mac] =>
      match toNumber expRaw with
      | none => .fail "malformed CSRF token"
      | some exp =>
          if exp < now then .fail "CSRF token expired"
          else if ¬ constantTimeEqual mac (sign hmac sessionId nonce exp secret) then
            .fail "CSRF token signature is invalid"
          else .ok
  | _ => .fail "malformed CSRF token"

def verifyCsrfToken (hmac : Hmac) (submittedToken cookieToken : Option JsString)
    (sessionId secret : JsString) (method : Option JsString) (now : ℤ) : CsrfResult :=
  if method.any (fun name => name ≠ [] && isSafeMethod name) then .ok
  else if sessionId = [] ∨ secret = [] then .fail "missing session or secret"
  else
    match submittedToken, cookieToken with
    | none, _ | some [], _ => .fail "missing CSRF token in request"
    | some _, none | some _, some [] => .fail "missing CSRF cookie"
    | some submitted, some cookie =>
        if ¬ constantTimeEqual submitted cookie then .fail "CSRF token and cookie do not match"
        else verifyFields hmac submitted sessionId secret now

/-- The method is not one that is exempt from the check. -/
def UnsafeMethod (method : Option JsString) : Prop :=
  ∀ name ∈ method, isSafeMethod name = false

instance (method : Option JsString) : Decidable (UnsafeMethod method) :=
  inferInstanceAs (Decidable (∀ name ∈ method, _))

/-! ## Expiries -/

/-- An integer that a double and its neighbours hold exactly. -/
def SafeInteger (value : ℤ) : Prop := |value| ≤ 2 ^ 53 - 1

instance (value : ℤ) : Decidable (SafeInteger value) := inferInstanceAs (Decidable (_ ≤ _))

theorem roundInt_expiry (now ttl : ℤ) : Double.roundInt (expiry now ttl) = expiry now ttl :=
  Double.roundInt_roundInt _

theorem abs_expiry_lt {now ttl : ℤ} (safeNow : SafeInteger now) (safeTtl : SafeInteger ttl) :
    |expiry now ttl| < 10 ^ 21 := by
  have lifetime : |Double.roundInt (ttl * 1000)| ≤ 2 * (|ttl| * 1000) := by
    have bound := Double.abs_roundInt_le (ttl * 1000)
    rwa [abs_mul, show |(1000 : ℤ)| = 1000 from rfl] at bound
  have sum := abs_add_le now (Double.roundInt (ttl * 1000))
  have rounded := Double.abs_roundInt_le (now + Double.roundInt (ttl * 1000))
  unfold SafeInteger at safeNow safeTtl
  unfold expiry
  omega

theorem constantTimeEqual_iff {a b : JsString} : constantTimeEqual a b = true ↔ a = b := by
  unfold constantTimeEqual
  constructor
  · intro equal
    split_ifs at equal
    exact utf8_injective (eq_of_beq equal)
  · rintro rfl
    simp

end Security

end LumenFlow

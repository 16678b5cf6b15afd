import LumenFlow.Security.Csrf

/-!
# Tokens and sessions

A token is accepted for the session for which it was minted, until it expires, and for no other
one.  The signed text can be read from its end: the expiry and the nonce have no dots, whatever
the session identifier is.
-/

namespace LumenFlow

open Kit

namespace Security

/-- A successful call of `createCsrfToken`. -/
structure Mint where
  sessionId : JsString
  randomBytes : Bytes
  ttl : ℤ
  now : ℤ
  named : sessionId ≠ []
  safeNow : SafeInteger now
  safeTtl : SafeInteger ttl

namespace Mint

variable (mint : Mint)

def nonce : JsString := nonceText mint.randomBytes

def exp : ℤ := expiry mint.now mint.ttl

def mac (hmac : Hmac) (secret : JsString) : JsString :=
  sign hmac mint.sessionId mint.nonce mint.exp secret

def token (hmac : Hmac) (secret : JsString) : JsString :=
  mint.nonce ++ '.' :: (numberText mint.exp ++ '.' :: mint.mac hmac secret)

end Mint

/-- A MAC that is valid for some text was issued with a token. -/
def Unforged (hmac : Hmac) (secret : JsString) (minted : List Mint) (mac : JsString) : Prop :=
  (∃ message, mac = Base64Url.encode (hmac (utf8 secret) message)) →
    ∃ mint ∈ minted, mint.mac hmac secret = mac

section Tokens

variable {hmac : Hmac} {secret session other nonce expRaw mac token : JsString} {mint : Mint}
  {now : ℤ} {exp : ℚ} {method : Option JsString}

theorem createCsrfToken_mint (long : 16 ≤ jsLength secret) (mint : Mint) {ttl : Option ℤ}
    (lifetime : ttl.getD 43200 = mint.ttl) :
    createCsrfToken hmac mint.sessionId secret ttl mint.now mint.randomBytes =
      .ok (mint.token hmac secret) := by
  rw [createCsrfToken, if_neg mint.named, if_neg (not_lt.mpr long), lifetime]
  rfl

theorem dot_notMem_nonce (mint : Mint) : '.' ∉ mint.nonce := Base64Url.dot_notMem_encode _

theorem dot_notMem_sign : '.' ∉ sign hmac session nonce exp secret :=
  Base64Url.dot_notMem_encode _

theorem numberText_exp (mint : Mint) : numberText (mint.exp : ℚ) = integerText mint.exp :=
  numberText_integer (abs_expiry_lt mint.safeNow mint.safeTtl)

theorem toNumber_exp (mint : Mint) : toNumber (numberText mint.exp) = some (mint.exp : ℚ) := by
  rw [numberText_exp]
  exact toNumber_integerText (roundInt_expiry _ _) (abs_expiry_lt mint.safeNow mint.safeTtl)

theorem splitDots_token (mint : Mint) : splitDots (mint.token hmac secret) =
    [mint.nonce, numberText mint.exp, mint.mac hmac secret] := by
  have plain : '.' ∉ numberText (mint.exp : ℚ) := by
    rw [numberText_exp]
    exact dot_notMem_integerText _
  rw [splitDots, Mint.token, List.splitOn_append_cons_self_of_not_mem (dot_notMem_nonce mint),
    List.splitOn_append_cons_self_of_not_mem plain, Mint.mac,
    List.splitOn_eq_singleton dot_notMem_sign]

theorem verifyFields_valid_iff :
    (verifyFields hmac token session secret now).valid = true ↔
      ∃ nonce expRaw mac exp, splitDots token = [nonce, expRaw, mac] ∧
        toNumber expRaw = some exp ∧ now ≤ exp ∧ mac = sign hmac session nonce exp secret := by
  constructor
  · intro valid
    unfold verifyFields at valid
    split at valid
    · next nonce expRaw mac fields =>
        split at valid
        · exact nomatch valid
        · next exp number =>
            split_ifs at valid with expired signed
            · exact nomatch valid
            · exact ⟨nonce, expRaw, mac, exp, fields, number, not_lt.mp expired,
                constantTimeEqual_iff.mp signed⟩
            · exact nomatch valid
    · exact nomatch valid
  · rintro ⟨nonce, expRaw, mac, exp, fields, number, current, rfl⟩
    have equal : constantTimeEqual (sign hmac session nonce exp secret)
        (sign hmac session nonce exp secret) = true := constantTimeEqual_iff.mpr rfl
    simp [verifyFields, fields, number, not_lt.mpr current, equal, CsrfResult.ok]

/-- On an unsafe method a token is accepted that both places carry. -/
theorem verify_valid_iff (unsafeMethod : UnsafeMethod method) (named : session ≠ [])
    (keyed : secret ≠ []) (submitted cookie : Option JsString) :
    (verifyCsrfToken hmac submitted cookie session secret method now).valid = true ↔
      ∃ token, token ≠ [] ∧ submitted = some token ∧ cookie = some token ∧
        (verifyFields hmac token session secret now).valid = true := by
  have checked : method.any (fun name => name ≠ [] && isSafeMethod name) = false := by
    rw [Option.any_eq_false]
    intro name called
    simp [unsafeMethod name called]
  unfold verifyCsrfToken
  rw [checked, if_neg Bool.false_ne_true, if_neg (not_or.mpr ⟨named, keyed⟩)]
  rcases submitted with _ | _ | ⟨first, rest⟩
  · simp [CsrfResult.fail]
  · simp [CsrfResult.fail]
  · rcases cookie with _ | _ | ⟨first', rest'⟩
    · simp [CsrfResult.fail]
    · simp [CsrfResult.fail]
    · change (if ¬ constantTimeEqual (first :: rest) (first' :: rest') = true then CsrfResult.fail _
        else verifyFields hmac (first :: rest) session secret now).valid = true ↔ _
      by_cases same : first :: rest = first' :: rest'
      · rw [same, if_neg (not_not.mpr (constantTimeEqual_iff.mpr rfl))]
        constructor
        · intro valid
          exact ⟨first' :: rest', List.cons_ne_nil _ _, rfl, rfl, valid⟩
        · rintro ⟨token, _, ⟨⟩, _, valid⟩
          exact valid
      · have different : ¬ constantTimeEqual (first :: rest) (first' :: rest') = true :=
          fun equal => same (constantTimeEqual_iff.mp equal)
        rw [if_pos different]
        refine iff_of_false Bool.false_ne_true ?_
        rintro ⟨token, _, submitted, cookie, _⟩
        exact same (Option.some.inj (submitted.trans cookie.symm))

theorem signedText_eq_of_sign (injective : Function.Injective (hmac (utf8 secret)))
    {nonce' : JsString} {exp' : ℚ}
    (same : sign hmac session nonce exp secret = sign hmac other nonce' exp' secret) :
    signedText session nonce exp = signedText other nonce' exp' := by
  have decoded := congrArg Base64Url.decode same
  simp only [sign, Base64Url.decode_encode] at decoded
  exact utf8_injective (injective decoded)

theorem signedText_eq (session nonce : JsString) (exp : ℚ) :
    signedText session nonce exp = (session ++ '.' :: nonce) ++ '.' :: numberText exp := by
  simp [signedText]

/-- A signed text determines its session, its nonce and its expiry. -/
theorem signedText_cancel {value : ℤ} (double : Double.roundInt value = value)
    (plain : '.' ∉ nonce)
    (same : signedText mint.sessionId mint.nonce mint.exp = signedText session nonce value) :
    mint.sessionId = session ∧ mint.nonce = nonce ∧ mint.exp = value := by
  rw [signedText_eq, signedText_eq, numberText_exp] at same
  by_cases small : |value| < 10 ^ 21
  · rw [numberText_integer small] at same
    obtain ⟨front, text⟩ :=
      append_field_cancel (dot_notMem_integerText _) (dot_notMem_integerText _) same
    obtain ⟨session_same, nonce_same⟩ := append_field_cancel (dot_notMem_nonce mint) plain front
    refine ⟨session_same, nonce_same, ?_⟩
    have read := toNumber_exp mint
    rw [numberText_exp, text, toNumber_integerText double small] at read
    exact_mod_cast (Option.some.inj read).symm
  · -- the text of a large number has an exponent, which no minted expiry has
    obtain ⟨before, after, text, tail⟩ := numberText_large (not_lt.mp small)
    have unmarked : 'e' ∉ integerText mint.exp := by
      intro mark
      rcases mem_integerText mark with sign | digit
      · exact absurd sign (by decide)
      · exact absurd digit (by decide)
    have regrouped : (session ++ '.' :: nonce) ++ '.' :: (before ++ 'e' :: after) =
        ((session ++ '.' :: nonce) ++ '.' :: before) ++ 'e' :: after := by simp
    rw [text, regrouped] at same
    exact absurd same (append_field_ne (by decide) unmarked tail)

theorem token_ne_nil (mint : Mint) : mint.token hmac secret ≠ [] := by
  intro empty
  have dot : '.' ∈ mint.token hmac secret := by simp [Mint.token]
  rw [empty] at dot
  exact nomatch dot

theorem verify_token_iff (injective : Function.Injective (hmac (utf8 secret)))
    (unsafeMethod : UnsafeMethod method) (named : session ≠ []) (keyed : secret ≠ [])
    (mint : Mint) :
    (verifyCsrfToken hmac (some (mint.token hmac secret)) (some (mint.token hmac secret)) session
      secret method now).valid = true ↔ session = mint.sessionId ∧ now ≤ mint.exp := by
  rw [verify_valid_iff unsafeMethod named keyed]
  constructor
  · rintro ⟨token, _, ⟨⟩, _, valid⟩
    obtain ⟨nonce, expRaw, mac, exp, fields, number, current, signed⟩ :=
      verifyFields_valid_iff.mp valid
    obtain ⟨rfl, rfl, rfl⟩ : mint.nonce = nonce ∧ numberText mint.exp = expRaw ∧
        mint.mac hmac secret = mac := by
      simpa using (splitDots_token mint).symm.trans fields
    rw [toNumber_exp] at number
    obtain rfl := Option.some.inj number
    refine ⟨?_, by exact_mod_cast current⟩
    exact (List.append_cancel_right (signedText_eq_of_sign injective signed)).symm
  · rintro ⟨rfl, current⟩
    refine ⟨_, token_ne_nil mint, rfl, rfl, ?_⟩
    exact verifyFields_valid_iff.mpr ⟨_, _, _, _, splitDots_token mint, toNumber_exp mint,
      by exact_mod_cast current, rfl⟩

/-- A token whose expiry is written as a decimal integer is accepted for the session for which its
nonce, its expiry and its MAC were minted. -/
theorem verify_minted (injective : Function.Injective (hmac (utf8 secret)))
    (unsafeMethod : UnsafeMethod method) (named : session ≠ []) (keyed : secret ≠ [])
    {minted : List Mint} {cookie : Option JsString}
    (fields : splitDots token = [nonce, expRaw, mac]) {written : ℤ}
    (decimal : decimalInteger expRaw = some written)
    (unforged : Unforged hmac secret minted mac)
    (valid : (verifyCsrfToken hmac (some token) cookie session secret method now).valid = true) :
    ∃ mint ∈ minted, mint.sessionId = session ∧ mint.nonce = nonce ∧
      toNumber expRaw = some (mint.exp : ℚ) ∧ mint.mac hmac secret = mac := by
  obtain ⟨_, _, ⟨⟩, _, valid⟩ := (verify_valid_iff unsafeMethod named keyed _ _).mp valid
  obtain ⟨nonce', expRaw', mac', exp, fields', number, _, signed⟩ :=
    verifyFields_valid_iff.mp valid
  obtain ⟨rfl, rfl, rfl⟩ : nonce = nonce' ∧ expRaw = expRaw' ∧ mac = mac' := by
    simpa using fields.symm.trans fields'
  have plain : '.' ∉ nonce := notMem_of_mem_splitOn (by rw [← splitDots, fields]; simp)
  obtain ⟨mint, member, same⟩ := unforged ⟨_, signed⟩
  have value : exp = (Double.roundInt written : ℤ) := by
    rw [toNumber, decimal] at number
    simp only [Double.finite] at number
    split_ifs at number
    exact (Option.some.inj number).symm
  rw [value] at signed number
  obtain ⟨own, nonces, expiries⟩ := signedText_cancel (Double.roundInt_roundInt written) plain
    (signedText_eq_of_sign injective (same.trans signed))
  exact ⟨mint, member, own, nonces, by rw [number, expiries], same⟩

end Tokens

/-- Tokens are bound to their session: a minted token is accepted for a session exactly if it was
minted for it and has not expired, and an accepted token with a decimal expiry was minted for the
session. -/
theorem tokens_bound_to_session (hmac : Hmac) (secret : JsString) (long : 16 ≤ jsLength secret)
    (injective : Function.Injective (hmac (utf8 secret))) :
    (∀ session other : JsString, session ≠ [] → other ≠ [] →
      ∀ (minted check : ℤ) (ttl : Option ℤ), SafeInteger minted → SafeInteger (ttl.getD 43200) →
        SafeInteger check → ∀ (randomBytes : Bytes) (method : Option JsString),
          UnsafeMethod method →
            ∃ token, createCsrfToken hmac session secret ttl minted randomBytes = .ok token ∧
              ((verifyCsrfToken hmac (some token) (some token) other secret method check).valid =
                true ↔ other = session ∧ check ≤ expiry minted (ttl.getD 43200))) ∧
      ∀ (minted : List Mint) (token nonce expRaw mac session : JsString)
        (cookie method : Option JsString) (check written : ℤ), session ≠ [] →
          UnsafeMethod method → splitDots token = [nonce, expRaw, mac] →
            decimalInteger expRaw = some written → Unforged hmac secret minted mac →
              (verifyCsrfToken hmac (some token) cookie session secret method check).valid = true →
                ∃ mint ∈ minted, mint.sessionId = session ∧ mint.nonce = nonce ∧
                  toNumber expRaw = some (mint.exp : ℚ) ∧ mint.mac hmac secret = mac := by
  have keyed : secret ≠ [] := by
    rintro rfl
    exact absurd long (by decide)
  constructor
  · intro session other named otherNamed minted check ttl safeMint safeTtl _ randomBytes method
      unsafeMethod
    let mint : Mint := ⟨session, randomBytes, ttl.getD 43200, minted, named, safeMint, safeTtl⟩
    exact ⟨mint.token hmac secret, createCsrfToken_mint long mint rfl,
      verify_token_iff injective unsafeMethod otherNamed keyed mint⟩
  · intro minted token nonce expRaw mac session cookie method check written named unsafeMethod
      fields decimal unforged valid
    exact verify_minted injective unsafeMethod named keyed fields decimal unforged valid

namespace SessionSample

def secret : JsString := "0123456789abcdef".toList

def session : JsString := "user.1".toList

def randomBytes : Bytes := (List.range 16).map UInt8.ofNat

/-- The text that the sample token signs, and its HMAC-SHA256 under the secret. -/
def message : Bytes := utf8 "user.1.AAECAwQFBgcICQoLDA0ODw.1700000060000".toList

def digest : Bytes :=
  [188, 232, 67, 227, 45, 178, 90, 93, 35, 216, 176, 75, 140, 51, 60, 114, 51,
    153, 84, 190, 185, 253, 100, 191, 104, 78, 250, 200, 212, 113, 207, 211]

/-- The digest of the message, and bytes that are too long for a digest elsewhere. -/
def hmac : Hmac := fun key message =>
  if key = utf8 secret ∧ message = SessionSample.message then digest
  else List.replicate 33 0 ++ message

theorem hmac_injective : Function.Injective (hmac (utf8 secret)) := by
  have long : ∀ message : Bytes, digest ≠ List.replicate 33 0 ++ message := by
    intro message same
    have lengths := congrArg List.length same
    simp only [List.length_append, List.length_replicate] at lengths
    exact absurd lengths (by simp [digest]; omega)
  intro first second same
  simp only [hmac, true_and] at same
  split_ifs at same with one two two
  · exact one.trans two.symm
  · exact absurd same (long second)
  · exact absurd same.symm (long first)
  · exact List.append_cancel_left same

theorem long : 16 ≤ jsLength secret := by decide

theorem named : session ≠ [] := by decide

theorem safe : SafeInteger 1700000000000 := by decide

theorem safeTtl : SafeInteger 60 := by decide

def mint : Mint := ⟨session, randomBytes, 60, 1700000000000, named, safe, safeTtl⟩

end SessionSample

/-- A token is accepted in the last millisecond of its life, and is found among the minted ones. -/
theorem sample_token_bound :
    ∃ token, createCsrfToken SessionSample.hmac SessionSample.session SessionSample.secret
        (some 60) 1700000000000 SessionSample.randomBytes = .ok token ∧
      (verifyCsrfToken SessionSample.hmac (some token) (some token) SessionSample.session
        SessionSample.secret (some "POST".toList) 1700000060000).valid = true ∧
      ∃ mint ∈ [SessionSample.mint], mint.sessionId = SessionSample.session := by
  obtain ⟨bound, found⟩ := tokens_bound_to_session SessionSample.hmac SessionSample.secret
    SessionSample.long SessionSample.hmac_injective
  obtain ⟨token, created, accepted⟩ := bound SessionSample.session SessionSample.session
    SessionSample.named SessionSample.named 1700000000000 1700000060000 (some 60)
    SessionSample.safe SessionSample.safeTtl (by decide) SessionSample.randomBytes
    (some "POST".toList) (by decide)
  have current : (1700000060000 : ℤ) ≤ expiry 1700000000000 60 := by
    rw [expiry, Double.roundInt_small (by decide), Double.roundInt_small (by decide)]
    decide
  have valid := accepted.mpr ⟨rfl, current⟩
  have minted : SessionSample.mint.token SessionSample.hmac SessionSample.secret = token :=
    Except.ok.inj
      ((createCsrfToken_mint SessionSample.long SessionSample.mint rfl).symm.trans created)
  subst minted
  have decimal := decimalInteger_integerText SessionSample.mint.exp
  rw [← numberText_exp] at decimal
  obtain ⟨mint, member, own, _⟩ := found [SessionSample.mint] _ _ _ _ SessionSample.session _
    (some "POST".toList) _ _ SessionSample.named (by decide) (splitDots_token SessionSample.mint)
    decimal (fun _ => ⟨SessionSample.mint, List.mem_singleton_self _, rfl⟩) valid
  exact ⟨_, created, valid, mint, member, own⟩

end Security

end LumenFlow

import CrmPortal.Orders
import CrmPortal.Library.Splitting

/-!
# The signed cookie of the single sign-on flow

`sso_login` stores state, code verifier and nonce in one signed cookie,
`sso_callback` recovers them from what the browser sends back. Both comparisons
are made by `hmac.compare_digest`, which refuses text outside ASCII with an
exception: this decides where the callback keeps its contract.

Text is a sequence of Unicode scalar values, so `encode()` never fails.
-/

namespace SsoCookie

open PyValue Splitting Orders

def hexDigits : List Char := "0123456789abcdef".toList

/-- `hexdigest()[:16]`. -/
structure Digest where
  text : String
  length_eq : text.length = 16
  hexadecimal : ∀ c ∈ text.toList, c ∈ hexDigits

/-- The digest is an arbitrary function of key and value. -/
structure SsoEnv where
  appSecretKey : String
  hmac : String → String → Digest
  idcsConfigured : Bool
  idcsDomainUrl : String
  idcsClientId : String
  idcsRedirectUri : String
  /-- The url-safe base64 of the SHA-256 of a code verifier. -/
  codeChallenge : String → String

def signature (env : SsoEnv) (value : String) : String :=
  (env.hmac env.appSecretKey value).text

def signValue (env : SsoEnv) (value : String) : String :=
  value ++ "." ++ signature env value

def verifySigned (env : SsoEnv) (signed : String) : Except PyExc (Option String) :=
  match cutLast '.' signed.toList with
  | none => return none
  | some (value, sig) => do
    let value := String.ofList value
    if ← compareDigest (String.ofList sig) (signature env value) then return some value
    else return none

/-- What `secrets.token_urlsafe` gives: url-safe base64 without padding. -/
structure UrlSafeToken where
  text : String
  safe : ∀ c ∈ text.toList, c.isAlphanum = true ∨ c = '-' ∨ c = '_'

inductive LoginStep where
  | notConfigured
  | authorize (url : String) (params : List (String × String)) (cookie : String)

def ssoLogin (env : SsoEnv) (state codeVerifier nonce : UrlSafeToken) : LoginStep :=
  if env.idcsConfigured then
    .authorize (env.idcsDomainUrl ++ "/oauth2/v1/authorize")
      [("response_type", "code"), ("client_id", env.idcsClientId),
        ("redirect_uri", env.idcsRedirectUri), ("scope", "openid profile email"),
        ("state", state.text), ("nonce", nonce.text),
        ("code_challenge", env.codeChallenge codeVerifier.text),
        ("code_challenge_method", "S256")]
      (signValue env (state.text ++ ":" ++ codeVerifier.text ++ ":" ++ nonce.text))
  else .notConfigured

structure CallbackRequest where
  /-- The cookie `_sso_pkce`, if the browser sent one. -/
  pkceCookie : Option String
  code : String
  state : String
  error : String

/-- How the callback starts: it answers, or asks for the tokens of the code. -/
inductive CallbackStep where
  | redirect (url : String)
  | exchange (code codeVerifier storedNonce : String)
  deriving DecidableEq

def CallbackStep.invalidState : CallbackStep := .redirect "/login?error=invalid_state"

/-- `text.split(":", 2)`, where it gives three parts. -/
def splitThree (text : String) : Option (String × String × String) := do
  let (first, rest) ← cut ':' text.toList
  let (second, third) ← cut ':' rest
  return (String.ofList first, String.ofList second, String.ofList third)

def ssoCallback (env : SsoEnv) (request : CallbackRequest) : Except PyExc CallbackStep := do
  if request.error ≠ "" then return .redirect ("/login?error=" ++ request.error)
  let pkceCookie := request.pkceCookie.getD ""
  let pkceData ← if pkceCookie = "" then pure none else verifySigned env pkceCookie
  -- The empty value counts as a missing cookie.
  match pkceData.filter (· ≠ "") with
  | none => return .invalidState
  | some pkceData =>
    -- A cookie of the time before the nonce has two parts only.
    match splitThree pkceData with
    | none => return .invalidState
    | some (storedState, codeVerifier, storedNonce) =>
      if ← compareDigest storedState request.state then
        return .exchange request.code codeVerifier storedNonce
      else return .invalidState

def Ascii (text : String) : Prop := ∀ c ∈ text.toList, c.toNat < 128

theorem compareDigest_ascii {a b : String} (ha : Ascii a) (hb : Ascii b) :
    compareDigest a b = .ok (decide (a = b)) := by
  unfold compareDigest
  apply if_pos
  rw [Bool.and_eq_true, List.all_eq_true, List.all_eq_true]
  constructor
  · intro c hc
    exact decide_eq_true (ha c hc)
  · intro c hc
    exact decide_eq_true (hb c hc)

theorem compareDigest_not_ascii {a b : String} (h : ¬ (Ascii a ∧ Ascii b)) :
    compareDigest a b = .error .typeError := by
  unfold compareDigest
  apply if_neg
  intro hall
  rw [Bool.and_eq_true, List.all_eq_true, List.all_eq_true] at hall
  apply h
  constructor
  · intro c hc
    exact of_decide_eq_true (hall.1 c hc)
  · intro c hc
    exact of_decide_eq_true (hall.2 c hc)

theorem ascii_of_compareDigest {a b : String} {answer : Bool} (h : compareDigest a b = .ok answer) :
    Ascii a ∧ Ascii b := by
  by_contra hnot
  rw [compareDigest_not_ascii hnot] at h
  cases h

section Signed

variable (env : SsoEnv) {value sig : String}

theorem signature_ascii : Ascii (signature env value) := by
  intro c hc
  have hhex := (env.hmac env.appSecretKey value).hexadecimal c hc
  have hall : hexDigits.all (fun d => decide (d.toNat < 128)) = true := rfl
  exact of_decide_eq_true (List.all_eq_true.mp hall c hhex)

theorem signature_no_dot : '.' ∉ (signature env value).toList := by
  intro h
  have hhex := (env.hmac env.appSecretKey value).hexadecimal '.' h
  have hnot : '.' ∉ hexDigits := by decide
  exact hnot hhex

/-- What is verified is the text after the last dot. -/
theorem verifySigned_append (h : '.' ∉ sig.toList) :
    verifySigned env (value ++ "." ++ sig) = (do
      if ← compareDigest sig (signature env value) then return some value else return none) := by
  have hcut : cutLast '.' (value ++ "." ++ sig).toList = some (value.toList, sig.toList) := by
    apply cutLast_eq_some_iff.mpr
    exact ⟨by simp, h⟩
  unfold verifySigned
  rw [hcut]
  simp only [String.ofList_toList]

theorem verifySigned_signValue (value : String) :
    verifySigned env (signValue env value) = .ok (some value) := by
  unfold signValue
  rw [verifySigned_append env (signature_no_dot env),
    compareDigest_ascii (signature_ascii env) (signature_ascii env), decide_eq_true rfl]
  rfl

theorem signValue_injective : Function.Injective (signValue env) := by
  intro a b h
  have hverified := verifySigned_signValue env a
  rw [h, verifySigned_signValue env b] at hverified
  exact (Option.some.inj (Except.ok.inj hverified)).symm

theorem signValue_ne_empty (value : String) : signValue env value ≠ "" := by
  intro h
  have hlength := congrArg (fun text => '.' ∈ text.toList) h
  simp [signValue] at hlength

/-- Everything a verification can end in. -/
theorem verifySigned_cases (signed : String) :
    (∃ value, signed = signValue env value) ∨
    (∃ value sig, signed = value ++ "." ++ sig ∧ '.' ∉ sig.toList ∧ ¬ Ascii sig ∧
      verifySigned env signed = .error .typeError) ∨
    ((∀ value, signed ≠ signValue env value) ∧ verifySigned env signed = .ok none) := by
  cases hcut : cutLast '.' signed.toList with
  | none =>
    refine .inr (.inr ⟨?_, ?_⟩)
    · rintro value rfl
      exact cutLast_eq_none_iff.mp hcut (by simp [signValue])
    · unfold verifySigned
      rw [hcut]
      rfl
  | some parts =>
    obtain ⟨value, sig⟩ := parts
    obtain ⟨hsigned, hdot⟩ := cutLast_eq_some_iff.mp hcut
    have htext : signed = String.ofList value ++ "." ++ String.ofList sig := by
      apply String.toList_inj.mp
      simp [hsigned]
    have hsig : '.' ∉ (String.ofList sig).toList := by simpa using hdot
    by_cases hascii : Ascii (String.ofList sig)
    · by_cases heq : String.ofList sig = signature env (String.ofList value)
      · exact .inl ⟨String.ofList value, by rw [htext, heq]; rfl⟩
      · refine .inr (.inr ⟨?_, ?_⟩)
        · intro other hother
          have hverified := verifySigned_signValue env other
          rw [← hother, htext, verifySigned_append env hsig,
            compareDigest_ascii hascii (signature_ascii env), decide_eq_false heq] at hverified
          cases hverified
        · rw [htext, verifySigned_append env hsig,
            compareDigest_ascii hascii (signature_ascii env), decide_eq_false heq]
          rfl
    · refine .inr (.inl ⟨_, _, htext, hsig, hascii, ?_⟩)
      rw [htext, verifySigned_append env hsig,
        compareDigest_not_ascii fun h => hascii h.1]
      rfl

end Signed

section Parts

variable {first second third text : String}

theorem splitThree_eq_some_iff : splitThree text = some (first, second, third) ↔
    text = first ++ ":" ++ second ++ ":" ++ third ∧
      ':' ∉ first.toList ∧ ':' ∉ second.toList := by
  unfold splitThree
  constructor
  · intro h
    obtain ⟨⟨a, rest⟩, hfirst, h⟩ := Option.bind_eq_some_iff.mp h
    obtain ⟨⟨b, c⟩, hsecond, h⟩ := Option.bind_eq_some_iff.mp h
    obtain ⟨rfl, hparts⟩ := Prod.mk.inj (Option.some.inj h)
    obtain ⟨rfl, rfl⟩ := Prod.mk.inj hparts
    obtain ⟨htext, ha⟩ := cut_eq_some_iff.mp hfirst
    obtain ⟨hrest, hb⟩ := cut_eq_some_iff.mp hsecond
    refine ⟨?_, by simpa using ha, by simpa using hb⟩
    apply String.toList_inj.mp
    simp [htext, hrest]
  · rintro ⟨rfl, hfirst, hsecond⟩
    have hcut : cut ':' (first ++ ":" ++ second ++ ":" ++ third).toList =
        some (first.toList, (second ++ ":" ++ third).toList) := by
      apply cut_eq_some_iff.mpr
      exact ⟨by simp, hfirst⟩
    have hrest : cut ':' (second ++ ":" ++ third).toList = some (second.toList, third.toList) := by
      apply cut_eq_some_iff.mpr
      exact ⟨by simp, hsecond⟩
    simp only [hcut, hrest, Option.bind_eq_bind, Option.bind_some, String.ofList_toList,
      Option.pure_def]

end Parts

section Callback

variable (env : SsoEnv) {cookie : Option String} {code state stored verifier nonce : String}

/-- The cookie is the one `sso_login` makes of these three. -/
structure Issued (cookie : Option String) (state verifier nonce : String) : Prop where
  signed : cookie.getD "" = signValue env (state ++ ":" ++ verifier ++ ":" ++ nonce)
  state_no_colon : ':' ∉ state.toList
  verifier_no_colon : ':' ∉ verifier.toList

variable {env}

theorem Issued.splitThree (h : Issued env cookie stored verifier nonce) :
    splitThree (stored ++ ":" ++ verifier ++ ":" ++ nonce) = some (stored, verifier, nonce) :=
  splitThree_eq_some_iff.mpr ⟨rfl, h.state_no_colon, h.verifier_no_colon⟩

theorem Issued.unique {stored' verifier' nonce' : String}
    (h : Issued env cookie stored verifier nonce)
    (h' : Issued env cookie stored' verifier' nonce') :
    stored = stored' ∧ verifier = verifier' ∧ nonce = nonce' := by
  have htext := signValue_injective env (h.signed.symm.trans h'.signed)
  have hparts := h.splitThree
  rw [htext, h'.splitThree] at hparts
  simpa [eq_comm] using hparts

/-- An issued cookie leaves the comparison of the states to decide. -/
theorem ssoCallback_issued (h : Issued env cookie stored verifier nonce) :
    ssoCallback env ⟨cookie, code, state, ""⟩ = (do
      if ← compareDigest stored state then return .exchange code verifier nonce
      else return .invalidState) := by
  have hne : cookie.getD "" ≠ "" := by
    rw [h.signed]
    exact signValue_ne_empty env _
  have hverified : verifySigned env (cookie.getD "") =
      .ok (some (stored ++ ":" ++ verifier ++ ":" ++ nonce)) := by
    rw [h.signed]
    exact verifySigned_signValue env _
  have htext : stored ++ ":" ++ verifier ++ ":" ++ nonce ≠ "" := by
    intro hempty
    have hsplit := h.splitThree
    rw [hempty] at hsplit
    cases hsplit
  simp only [ssoCallback, ne_eq, not_true_eq_false, if_false, if_neg hne, hverified]
  simp [Option.filter, htext, h.splitThree, bind, Except.bind, pure, Except.pure]

/-- A cookie with a foreign signature in plain characters, or of fewer parts, is refused. -/
theorem ssoCallback_refused
    (hsig : ∀ value sig, cookie.getD "" = value ++ "." ++ sig → '.' ∉ sig.toList → Ascii sig)
    (h : ¬ ∃ stored verifier nonce, Issued env cookie stored verifier nonce) :
    ssoCallback env ⟨cookie, code, state, ""⟩ = .ok .invalidState := by
  by_cases hempty : cookie.getD "" = ""
  · simp [ssoCallback, hempty, pure, Except.pure, bind, Except.bind]
  · rcases verifySigned_cases env (cookie.getD "") with
      ⟨value, hvalue⟩ | ⟨value, sig, hsigned, hdot, hascii, -⟩ | ⟨-, hverified⟩
    · have hverified := verifySigned_signValue env value
      rw [← hvalue] at hverified
      have hsplit : splitThree value = none := by
        cases hparts : splitThree value with
        | none => rfl
        | some parts =>
          obtain ⟨stored, verifier, nonce⟩ := parts
          obtain ⟨rfl, hfirst, hsecond⟩ := splitThree_eq_some_iff.mp hparts
          exact absurd ⟨stored, verifier, nonce, hvalue, hfirst, hsecond⟩ h
      by_cases hv : value = ""
      · simp [ssoCallback, hempty, hverified, hv, Option.filter, pure, Except.pure, bind,
          Except.bind]
      · simp [ssoCallback, hempty, hverified, hv, hsplit, Option.filter, pure, Except.pure, bind,
          Except.bind]
    · exact absurd (hsig value sig hsigned hdot) hascii
    · simp [ssoCallback, hempty, hverified, pure, Except.pure, bind, Except.bind]

/-- A signature outside ASCII ends the callback in an exception. -/
theorem ssoCallback_raises {value sig : String} (hsigned : cookie.getD "" = value ++ "." ++ sig)
    (hdot : '.' ∉ sig.toList) (hascii : ¬ Ascii sig) :
    ssoCallback env ⟨cookie, code, state, ""⟩ = .error .typeError := by
  have hne : cookie.getD "" ≠ "" := by
    rw [hsigned]
    intro h
    have hdots := congrArg (fun text => '.' ∈ text.toList) h
    simp at hdots
  have hverified : verifySigned env (cookie.getD "") = .error .typeError := by
    rw [hsigned, verifySigned_append env hdot, compareDigest_not_ascii fun h => hascii h.1]
    rfl
  simp [ssoCallback, hne, hverified, bind, Except.bind]

end Callback

/-- What is asked of the callback for one cookie, code and state. -/
structure Contract (env : SsoEnv) (cookie : Option String) (code state : String) : Prop where
  exchange_iff : ∀ verifier nonce,
    ssoCallback env ⟨cookie, code, state, ""⟩ = .ok (.exchange code verifier nonce) ↔
      Issued env cookie state verifier nonce
  otherwise : (¬ ∃ verifier nonce, Issued env cookie state verifier nonce) →
    ssoCallback env ⟨cookie, code, state, ""⟩ = .ok .invalidState

/-- The text after the last dot is ASCII, and so are both states where the cookie
is an issued one. -/
structure Comparable (env : SsoEnv) (cookie : Option String) (state : String) : Prop where
  signature : ∀ value sig, cookie.getD "" = value ++ "." ++ sig → '.' ∉ sig.toList → Ascii sig
  states : ∀ stored verifier nonce, Issued env cookie stored verifier nonce →
    Ascii stored ∧ Ascii state

section Contract

variable {env : SsoEnv} {cookie : Option String} {code state : String}

/-- Where nothing goes with the state, the redirect is all that is asked. -/
theorem contract_of_invalidState (hno : ¬ ∃ verifier nonce, Issued env cookie state verifier nonce)
    (hrun : ssoCallback env ⟨cookie, code, state, ""⟩ = .ok .invalidState) :
    Contract env cookie code state := by
  constructor
  · intro verifier nonce
    constructor
    · intro hexchange
      cases hrun.symm.trans hexchange
    · intro hissued
      exact absurd ⟨verifier, nonce, hissued⟩ hno
  · intro _
    exact hrun

theorem contract_of_comparable (h : Comparable env cookie state) :
    Contract env cookie code state := by
  by_cases hissued : ∃ stored verifier nonce, Issued env cookie stored verifier nonce
  · obtain ⟨stored, verifier, nonce, hissued⟩ := hissued
    have hascii := h.states stored verifier nonce hissued
    have hrun : ssoCallback env ⟨cookie, code, state, ""⟩ = (do
        if ← compareDigest stored state then return .exchange code verifier nonce
        else return .invalidState) := ssoCallback_issued hissued
    rw [compareDigest_ascii hascii.1 hascii.2] at hrun
    by_cases hstate : stored = state
    · subst hstate
      rw [decide_eq_true rfl] at hrun
      constructor
      · intro verifier' nonce'
        constructor
        · intro hexchange
          have hsame := Except.ok.inj (hrun.symm.trans hexchange)
          obtain ⟨-, rfl, rfl⟩ := CallbackStep.exchange.inj hsame
          exact hissued
        · intro hissued'
          obtain ⟨-, rfl, rfl⟩ := hissued.unique hissued'
          exact hrun
      · intro hnone
        exact absurd ⟨verifier, nonce, hissued⟩ hnone
    · rw [decide_eq_false hstate] at hrun
      refine contract_of_invalidState ?_ hrun
      rintro ⟨verifier', nonce', hissued'⟩
      exact absurd (hissued.unique hissued').1 hstate
  · refine contract_of_invalidState ?_ (ssoCallback_refused h.signature hissued)
    rintro ⟨verifier, nonce, hissued'⟩
    exact hissued ⟨state, verifier, nonce, hissued'⟩

/-- A callback that ends in an answer has compared ASCII texts only. -/
theorem comparable_of_contract (h : Contract env cookie code state) :
    Comparable env cookie state := by
  have hanswers : ∃ answer, ssoCallback env ⟨cookie, code, state, ""⟩ = .ok answer := by
    by_cases hissued : ∃ verifier nonce, Issued env cookie state verifier nonce
    · obtain ⟨verifier, nonce, hissued⟩ := hissued
      exact ⟨_, (h.exchange_iff verifier nonce).mpr hissued⟩
    · exact ⟨_, h.otherwise hissued⟩
  obtain ⟨answer, hanswer⟩ := hanswers
  constructor
  · intro value sig hsigned hdot
    by_contra hascii
    have hraises : ssoCallback env ⟨cookie, code, state, ""⟩ = .error .typeError :=
      ssoCallback_raises hsigned hdot hascii
    cases hraises.symm.trans hanswer
  · intro stored verifier nonce hissued
    have hcompare : ssoCallback env ⟨cookie, code, state, ""⟩ = _ := ssoCallback_issued hissued
    cases hdigest : compareDigest stored state with
    | error exc =>
      rw [hdigest] at hcompare
      cases hcompare.symm.trans hanswer
    | ok same => exact ascii_of_compareDigest hdigest

end Contract

/-- A signed value verifies to itself; and the callback goes on exactly with the cookie
of its own state, and refuses every other one, where what it compares is ASCII. -/
theorem cookie_contract_iff (env : SsoEnv) :
    (∀ value, verifySigned env (signValue env value) = .ok (some value)) ∧
    ∀ cookie code state, Contract env cookie code state ↔ Comparable env cookie state :=
  ⟨verifySigned_signValue env,
    fun _ _ _ => ⟨comparable_of_contract, contract_of_comparable⟩⟩

def plainDigest : Digest where
  text := "0123456789abcdef"
  length_eq := by decide
  hexadecimal _ h := h

def sampleSso : SsoEnv where
  appSecretKey := "secret"
  hmac _ _ := plainDigest
  idcsConfigured := true
  idcsDomainUrl := "https://idcs.example.com"
  idcsClientId := "crm"
  idcsRedirectUri := "https://crm.example.com/api/auth/sso/callback"
  codeChallenge := id

/-- A cookie that nobody signed, with one character outside ASCII after the dot, ends in
an exception instead of the redirect. -/
theorem forged_cookie_raises :
    ssoCallback sampleSso ⟨some "x.é", "code", "state", ""⟩ = .error .typeError ∧
    ¬ Contract sampleSso (some "x.é") "code" "state" := by
  have hraises : ssoCallback sampleSso ⟨some "x.é", "code", "state", ""⟩ = .error .typeError := by
    decide +kernel
  refine ⟨hraises, fun h => ?_⟩
  have hnone : ¬ ∃ verifier nonce, Issued sampleSso (some "x.é") "state" verifier nonce := by
    rintro ⟨verifier, nonce, hissued⟩
    have hexchange := (h.exchange_iff verifier nonce).mpr hissued
    cases hraises.symm.trans hexchange
  cases hraises.symm.trans (h.otherwise hnone)

theorem UrlSafeToken.no_colon (token : UrlSafeToken) : ':' ∉ token.text.toList := by
  intro h
  rcases token.safe ':' h with hal | hdash | hunder
  · exact absurd hal (by decide)
  · exact absurd hdash (by decide)
  · exact absurd hunder (by decide)

theorem UrlSafeToken.ascii (token : UrlSafeToken) : Ascii token.text := by
  intro c hc
  rcases token.safe c hc with hal | rfl | rfl
  · delta Char.isAlphanum Char.isAlpha Char.isUpper Char.isLower Char.isDigit at hal
    simp only [Bool.or_eq_true, Bool.and_eq_true, decide_eq_true_eq, UInt32.le_iff_toNat_le] at hal
    have hval : c.toNat = c.val.toNat := rfl
    have hZ : 'Z'.val.toNat = 90 := rfl
    have hz : 'z'.val.toNat = 122 := rfl
    have h9 : '9'.val.toNat = 57 := rfl
    omega
  · decide
  · decide

/-- The login's own cookie and state take the callback on to the exchange. -/
theorem ssoCallback_ssoLogin (env : SsoEnv) (code : String) (state verifier nonce : UrlSafeToken)
    {url : String} {params : List (String × String)} {cookie : String}
    (h : ssoLogin env state verifier nonce = .authorize url params cookie) :
    ssoCallback env ⟨some cookie, code, state.text, ""⟩ =
      .ok (.exchange code verifier.text nonce.text) := by
  have hcookie : cookie =
    signValue env (state.text ++ ":" ++ verifier.text ++ ":" ++ nonce.text) := by
    unfold ssoLogin at h
    split at h
    · exact (LoginStep.authorize.inj h).2.2.symm
    · cases h
  have hissued : Issued env (some cookie) state.text verifier.text nonce.text :=
    ⟨hcookie, state.no_colon, verifier.no_colon⟩
  rw [ssoCallback_issued hissued, compareDigest_ascii state.ascii state.ascii, decide_eq_true rfl]
  rfl

end SsoCookie

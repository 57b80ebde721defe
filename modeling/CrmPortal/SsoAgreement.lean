import CrmPortal.IdToken
import CrmPortal.LoginResolution
import CrmPortal.PortalSpec
import CrmPortal.SsoCookie

/-!
# Single sign-on as a protocol

The portal with its replicas, the browsers and the identity provider take steps in
any order. A browser presents any cookie, state and code, except a signature that
the portal has not made. The provider keeps what its protocol promises: a code is
redeemed once, against the challenge of its request if that had one, and the token
carries the nonce and the subject of the grant. Every session that single sign-on
opens then belongs to one flow of the portal and to one grant of the provider.
-/

namespace SsoAgreement

open PyValue Accounts Transaction IdToken SsoCookie

/-- What `sso_login` draws. -/
structure Flow where
  state : UrlSafeToken
  codeVerifier : UrlSafeToken
  nonce : UrlSafeToken

/-- The text that the cookie of the flow signs. -/
def Flow.text (flow : Flow) : String :=
  flow.state.text ++ ":" ++ flow.codeVerifier.text ++ ":" ++ flow.nonce.text

/-- The callback has the cookie and the state of the flow. -/
structure Presents (env : SsoEnv) (request : CallbackRequest) (flow : Flow) : Prop where
  cookie : request.pkceCookie.getD "" = signValue env flow.text
  state : request.state = flow.state.text

section Callback
variable {env : SsoEnv} {request : CallbackRequest} {code verifier nonce : String} {flow : Flow}

theorem Flow.issued {cookie : Option String} (h : cookie.getD "" = signValue env flow.text) :
    Issued env cookie flow.state.text flow.codeVerifier.text flow.nonce.text :=
  ⟨h, flow.state.no_colon, flow.codeVerifier.no_colon⟩

/-- The cookie of a callback is that of one flow. -/
theorem Presents.unique {other : Flow} (h : Presents env request flow)
    (h' : Presents env request other) : flow = other := by
  obtain ⟨⟨state, _⟩, ⟨verifier, _⟩, ⟨nonce, _⟩⟩ := flow
  obtain ⟨⟨state', _⟩, ⟨verifier', _⟩, ⟨nonce', _⟩⟩ := other
  obtain ⟨hstate, hverifier, hnonce⟩ := (Flow.issued h.cookie).unique (Flow.issued h'.cookie)
  obtain rfl : state = state' := hstate
  obtain rfl : verifier = verifier' := hverifier
  obtain rfl : nonce = nonce' := hnonce
  rfl

/-- A callback asks for tokens only with an issued cookie of its own state. -/
theorem exchange_issued
    (h : SsoCookie.ssoCallback env request = .ok (.exchange code verifier nonce)) :
    code = request.code ∧ Issued env request.pkceCookie request.state verifier nonce := by
  obtain ⟨cookie, code', state, error⟩ := request
  by_cases herror : error = ""
  · subst herror
    by_cases hissued : ∃ stored verifier nonce, Issued env cookie stored verifier nonce
    · obtain ⟨stored, verifier', nonce', hissued⟩ := hissued
      have hcompare : SsoCookie.ssoCallback env ⟨cookie, code', state, ""⟩ = _ :=
        ssoCallback_issued hissued
      obtain ⟨same, hsame, hstep⟩ := bind_ok_iff.mp (hcompare.symm.trans h)
      cases same with
      | false => cases hstep
      | true =>
        obtain ⟨rfl, rfl, rfl⟩ := CallbackStep.exchange.inj (Except.ok.inj hstep)
        have hascii := ascii_of_compareDigest hsame
        rw [compareDigest_ascii hascii.1 hascii.2] at hsame
        obtain rfl : stored = state := of_decide_eq_true (Except.ok.inj hsame)
        exact ⟨rfl, hissued⟩
    · by_cases hsig : ∀ value sig,
          cookie.getD "" = value ++ "." ++ sig → '.' ∉ sig.toList → Ascii sig
      · have hrefused : SsoCookie.ssoCallback env ⟨cookie, code', state, ""⟩ = _ :=
          ssoCallback_refused hsig hissued
        cases hrefused.symm.trans h
      · push Not at hsig
        obtain ⟨value, sig, hsigned, hdot, hascii⟩ := hsig
        have hraises : SsoCookie.ssoCallback env ⟨cookie, code', state, ""⟩ = _ :=
          ssoCallback_raises hsigned hdot hascii
        cases hraises.symm.trans h
  · have hredirect : SsoCookie.ssoCallback env ⟨cookie, code', state, error⟩ =
        .ok (.redirect ("/login?error=" ++ error)) := if_pos herror
    cases hredirect.symm.trans h

/-- And its verifier and nonce are those of the flow that the cookie names. -/
theorem exchange_presents
    (h : SsoCookie.ssoCallback env request = .ok (.exchange code verifier nonce))
    (hcookie : request.pkceCookie.getD "" = signValue env flow.text) :
    Presents env request flow ∧ code = request.code ∧ verifier = flow.codeVerifier.text ∧
      nonce = flow.nonce.text := by
  obtain ⟨hcode, hissued⟩ := exchange_issued h
  obtain ⟨hstate, hverifier, hnonce⟩ := hissued.unique (Flow.issued hcookie)
  exact ⟨⟨hcookie, hstate⟩, hcode, hverifier, hnonce⟩

end Callback

/-- Where the key set of the provider is, and the keys that it publishes. -/
structure Provider where
  jwksUri : String
  Publishes : Obj → Prop

namespace Provider

variable (provider : Provider) (cfg : IdcsConfig)

def IsDiscovery (doc : Json) : Prop :=
  ∀ fields : Obj, doc = .obj fields → fields.get "jwks_uri" = .str provider.jwksUri

def IsKeySet (jwks : Json) : Prop :=
  ∀ keys key, keysOf jwks = .ok keys → .obj key ∈ keys → provider.Publishes key

/-- The answers to a fetch come from the provider. -/
structure Serves (fetch : Fetch) : Prop where
  discovery : ∀ doc, fetch.reply (cfg.idcsDomainUrl ++ "/.well-known/openid-configuration") =
    some doc → provider.IsDiscovery doc
  keys : ∀ jwks, fetch.reply provider.jwksUri = some jwks → provider.IsKeySet jwks

/-- What a process has stored came from the provider. -/
structure Filled (caches : Caches) : Prop where
  discovery : ∀ storedAt doc, caches.oidcDiscovery cfg.idcsDomainUrl = some (storedAt, doc) →
    provider.IsDiscovery doc
  keys : ∀ storedAt jwks, caches.jwks provider.jwksUri = some (storedAt, jwks) →
    provider.IsKeySet jwks

/-- All documents of a call come from the provider. -/
structure ServesCall (call : Call) : Prop where
  discovery : provider.Serves cfg call.discovery
  keys : provider.Serves cfg call.keys
  refreshed : provider.Serves cfg call.refreshed

end Provider

section Caches
variable {provider : Provider} {cfg : IdcsConfig}

theorem filled_started : provider.Filled cfg Caches.started := by
  constructor
  · intro storedAt doc h
    cases h
  · intro storedAt jwks h
    cases h

/-- A computation that fills the caches with nothing else. -/
abbrev KeepsFilled {α : Type} (provider : Provider) (cfg : IdcsConfig) (x : Verification α) :
    Prop :=
  Tx.Moves (fun s t => provider.Filled cfg s → provider.Filled cfg t) x

theorem keepsFilled_bind {α β : Type} {x : Verification α} {f : α → Verification β}
    (hx : KeepsFilled provider cfg x) (hf : ∀ a, KeepsFilled provider cfg (f a)) :
    KeepsFilled provider cfg (x >>= f) :=
  Tx.moves_bind (fun _ _ _ h k filled => k (h filled)) hx hf

theorem keepsFilled_pure {α : Type} (a : α) :
    KeepsFilled provider cfg (pure a : Verification α) := Tx.moves_pure (fun _ h => h) a

theorem keepsFilled_ofExcept {α : Type} (r : Except PyExc α) :
    KeepsFilled provider cfg (Tx.ofExcept r : Verification α) := by
  intro s h
  rw [Tx.ofExcept_state]
  exact h

theorem keepsFilled_unlessNone {α β : Type} {x : Verification (Option α)}
    {f : α → Verification (Option β)} (hx : KeepsFilled provider cfg x)
    (hf : ∀ a, KeepsFilled provider cfg (f a)) : KeepsFilled provider cfg (unlessNone x f) := by
  refine keepsFilled_bind hx fun found => ?_
  cases found with
  | none => exact keepsFilled_pure none
  | some a => exact hf a

theorem keepsFilled_fetchOidcDiscovery {fetch : Fetch} (serves : provider.Serves cfg fetch) :
    KeepsFilled provider cfg (fetchOidcDiscovery cfg.idcsDomainUrl fetch) := by
  intro s filled
  refine ⟨fun storedAt doc h => ?_, filled.keys⟩
  rcases Cache.fetch_entry h with hbefore | ⟨-, -, hreply⟩
  · exact filled.discovery storedAt doc hbefore
  · exact serves.discovery doc hreply

theorem keepsFilled_fetchJwks {fetch : Fetch} (serves : provider.Serves cfg fetch) (jwksUri : Json)
    (forceRefresh : Bool) : KeepsFilled provider cfg (fetchJwks jwksUri fetch forceRefresh) := by
  cases jwksUri with
  | str uri =>
    intro s filled
    refine ⟨filled.discovery, fun storedAt jwks h => ?_⟩
    rcases Cache.fetch_entry h with hbefore | ⟨huri, -, hreply⟩
    · exact filled.keys storedAt jwks hbefore
    · exact serves.keys jwks (huri ▸ hreply)
  | _ => exact keepsFilled_pure none

theorem keepsFilled_findKey {call : Call} (serves : provider.ServesCall cfg call)
    (jwksUri kid : Json) : KeepsFilled provider cfg (findKey jwksUri kid call) := by
  refine keepsFilled_unlessNone (keepsFilled_fetchJwks serves.keys _ _) fun jwks => ?_
  refine keepsFilled_bind (keepsFilled_ofExcept _) fun found => ?_
  cases found with
  | some key => exact keepsFilled_pure _
  | none =>
    exact keepsFilled_unlessNone (keepsFilled_fetchJwks serves.refreshed _ _) fun _ =>
      keepsFilled_ofExcept _

theorem keepsFilled_decodeWith (jose : Jose) (call : Call) (key : Obj) (alg : String)
    (issuer : Json) : KeepsFilled provider cfg (decodeWith jose call key alg issuer) := by
  unfold decodeWith
  split
  · exact keepsFilled_pure _
  · exact Tx.moves_raise (fun _ h => h) _
  · exact keepsFilled_pure _

theorem verifyIdToken_filled (jose : Jose) {call : Call} (serves : provider.ServesCall cfg call) :
    KeepsFilled provider cfg (verifyIdToken jose cfg call) := by
  refine keepsFilled_unlessNone (keepsFilled_fetchOidcDiscovery serves.discovery) fun doc => ?_
  refine keepsFilled_bind (keepsFilled_ofExcept _) fun discovery => ?_
  dsimp only
  split
  · exact keepsFilled_pure _
  refine keepsFilled_unlessNone (keepsFilled_pure _) fun header => ?_
  refine keepsFilled_unlessNone (keepsFilled_pure _) fun alg => ?_
  refine keepsFilled_unlessNone (keepsFilled_findKey serves _ _) fun keyData => ?_
  split
  · exact keepsFilled_pure _
  refine keepsFilled_bind (keepsFilled_ofExcept _) fun key => ?_
  exact keepsFilled_unlessNone (keepsFilled_decodeWith _ _ _ _ _) fun _ => keepsFilled_pure _

/-- Accepted claims are the content of the token under a key of the provider, and
have the nonce that was stored. -/
theorem verified_origin {jose : Jose} {call : Call} {caches : Caches} {claims : Obj}
    (serves : provider.ServesCall cfg call) (filled : provider.Filled cfg caches)
    (h : (verifyIdToken jose cfg call caches).1 = .ok (some claims)) :
    (∃ keyData key alg, provider.Publishes keyData ∧ jose.construct keyData = .ok key ∧
      jose.payload call.idToken key alg = some claims) ∧
    claims.get "nonce" = .str call.expectedNonce := by
  obtain ⟨discovery, header, alg, keyData, key, checked⟩ := checked_of_verified h
  refine ⟨⟨keyData, key, alg, ?_, checked.key_built, jose.decode_payload checked.decoded⟩,
    checked.nonce_equal⟩
  have hdiscovery : provider.IsDiscovery (.obj discovery) := by
    rcases Cache.fetch_some checked.discovery_used with ⟨-, hhit⟩ | hreply
    · obtain ⟨storedAt, hentry, -⟩ := Cache.hit_some hhit
      exact filled.discovery storedAt _ hentry
    · exact serves.discovery.discovery _ hreply
  obtain ⟨t, hfound⟩ := checked.key_found
  obtain ⟨uri, jwks, keys, huri, hset, hkeys, hmem, -⟩ := findKey_some hfound
  obtain rfl : provider.jwksUri = uri :=
    Json.str.inj ((hdiscovery discovery rfl).symm.trans huri)
  have hkeySet : provider.IsKeySet jwks := by
    rcases hset with hhit | hreply | hreply
    · obtain ⟨storedAt, hentry, -⟩ := Cache.hit_some hhit
      exact filled.keys storedAt jwks hentry
    · exact serves.keys.keys jwks hreply
    · exact serves.refreshed.keys jwks hreply
  exact hkeySet keys keyData hkeys hmem

end Caches

/-- What the provider keeps of one authorization: the code, what the request asked
for, and whom it was granted by. -/
structure Grant where
  code : String
  codeChallenge : Option String
  nonce : Option String
  subject : String

/-- A redeemed grant and the token that went out for it. -/
structure Token where
  grant : Grant
  idToken : String
  claims : Obj

/-- The provider puts the nonce of the request and the subject into the token. -/
structure Token.Faithful (token : Token) : Prop where
  nonce : ∀ nonce, token.claims.get "nonce" = .str nonce → token.grant.nonce = some nonce
  subject : token.claims.get "sub" = .str token.grant.subject

/-- A callback whose code the provider has redeemed. -/
structure Exchange where
  request : CallbackRequest
  storedNonce : String
  token : Token

/-- A callback that has gone on to its account, with verified claims. -/
structure Acceptance where
  exchange : Exchange
  claims : Obj
  sid : String

structure Setting where
  env : SsoEnv
  jose : Jose
  server : Server
  provider : Provider

def Setting.cfg (setting : Setting) : IdcsConfig := ⟨setting.env.idcsDomainUrl⟩

/-- `flows`, `grants`, `tokens` and `accepted` only grow: they are the history. -/
structure World (ι : Type) where
  flows : List Flow
  grants : List Grant
  tokens : List Token
  pending : List Exchange
  accepted : List Acceptance
  caches : ι → Caches
  portal : Portal.State ι

section Steps
variable {ι : Type} [DecidableEq ι] (setting : Setting)

/-- The signature of a token holds under a published key only for what it was minted with. -/
def Unforgeable (tokens : List Token) (idToken : String) : Prop :=
  ∀ keyData key alg claims, setting.provider.Publishes keyData →
    setting.jose.construct keyData = .ok key → setting.jose.payload idToken key alg = some claims →
      ∃ token ∈ tokens, token.idToken = idToken ∧ token.claims = claims

/-- The provider redeems the code of a grant, with the verifier of its challenge. -/
structure Redeems (tokens : List Token) (code codeVerifier : String) (token : Token) : Prop where
  grant_code : token.grant.code = code
  unredeemed : ∀ other ∈ tokens, other.grant.code ≠ code
  challenge : ∀ challenge, token.grant.codeChallenge = some challenge →
    challenge = setting.env.codeChallenge codeVerifier
  fresh : ∀ other ∈ tokens, other.idToken ≠ token.idToken
  faithful : token.Faithful

/-- The verification that the callback makes of the token of its exchange. -/
structure Verifies (e : Exchange) (call : Call) : Prop where
  idToken : call.idToken = e.token.idToken
  nonce : call.expectedNonce = e.storedNonce
  audience : call.expectedAudience = setting.env.idcsClientId
  serves : setting.provider.ServesCall setting.cfg call

/-- An operation other than the last part of `sso_callback`. -/
def NotSso (op : Portal.Op ι) : Prop :=
  match op with
  | .ssoCallback _ _ _ _ => False
  | _ => True

inductive Step (w : World ι) : World ι → Prop where
  | ssoLogin (flow : Flow) {url : String} {params : List (String × String)} {cookie : String}
      (issued : SsoCookie.ssoLogin setting.env flow.state flow.codeVerifier flow.nonce =
        .authorize url params cookie)
      (fresh : ∀ other ∈ w.flows, other.nonce.text ≠ flow.nonce.text) :
      Step w { w with flows := w.flows ++ [flow] }
  -- Whoever asks, with whatever challenge and nonce.
  | authorize (grant : Grant) : Step w { w with grants := w.grants ++ [grant] }
  | exchange (request : CallbackRequest) (codeVerifier storedNonce : String) (token : Token)
      (signed : ∀ value, request.pkceCookie.getD "" = signValue setting.env value →
        ∃ flow ∈ w.flows, value = flow.text)
      (exchanges : SsoCookie.ssoCallback setting.env request =
        .ok (.exchange request.code codeVerifier storedNonce))
      (granted : token.grant ∈ w.grants)
      (redeems : Redeems setting w.tokens request.code codeVerifier token) :
      Step w { w with
        tokens := w.tokens ++ [token]
        pending := ⟨request, storedNonce, token⟩ :: w.pending }
  -- The answer is lost, or has no token.
  | abandon (e : Exchange) (rest : List Exchange) (pending : w.pending.Perm (e :: rest)) :
      Step w { w with pending := rest }
  | refuse (e : Exchange) (rest : List Exchange) (pending : w.pending.Perm (e :: rest))
      (replica : ι) (call : Call) (verifies : Verifies setting e call)
      (refused : ∀ claims, (verifyIdToken setting.jose setting.cfg call (w.caches replica)).1 ≠
        .ok (some claims)) :
      Step w { w with
        pending := rest
        caches := Function.update w.caches replica
          (verifyIdToken setting.jose setting.cfg call (w.caches replica)).2 }
  | accept (e : Exchange) (rest : List Exchange) (pending : w.pending.Perm (e :: rest))
      (replica : ι) (call : Call) (verifies : Verifies setting e call)
      (unforgeable : Unforgeable setting w.tokens call.idToken) (claims : Obj)
      (verified : (verifyIdToken setting.jose setting.cfg call (w.caches replica)).1 =
        .ok (some claims))
      (sid : String) (userFaults sessionFaults : UnitOfWork.Faults PyExc) (time : ℚ)
      (portal : Portal.State ι)
      (signsIn : Portal.step setting.server w.portal
        ⟨.ssoCallback claims sid userFaults sessionFaults, time⟩ = some portal) :
      Step w { w with
        pending := rest
        accepted := w.accepted ++ [⟨e, claims, sid⟩]
        caches := Function.update w.caches replica
          (verifyIdToken setting.jose setting.cfg call (w.caches replica)).2
        portal := portal }
  | portal (action : Portal.Action ι) (portal : Portal.State ι) (other : NotSso action.op)
      (performs : Portal.step setting.server w.portal action = some portal) :
      Step w { w with portal := portal }

/-- Started processes over tables without a session of single sign-on. -/
structure Starts (w : World ι) : Prop where
  flows : w.flows = []
  grants : w.grants = []
  tokens : w.tokens = []
  pending : w.pending = []
  accepted : w.accepted = []
  caches : w.caches = fun _ => Caches.started
  sessions : ∀ sid row, w.portal.db.session sid = some row → row.authMethod ≠ "sso"

inductive Reaches : World ι → Prop where
  | start {w : World ι} : Starts w → Reaches w
  | step {w w' : World ι} : Reaches w → Step setting w w' → Reaches w'

end Steps

/-- The row belongs to a user with the address of these claims. -/
def Owned (server : Server) (db : Tables) (claims : Obj) (row : UserSession) : Prop :=
  ∃ identity u, ssoIdentity server.py claims = .ok identity ∧ u ∈ db.users.rows ∧
    u.id = row.userId ∧ server.lowerSql u.email = identity.email

section Sessions
variable {ι : Type} [DecidableEq ι] {server : Server}

/-- No operation takes a user away or gives it another address. -/
theorem perform_users (op : Portal.Op ι) (now : ℚ) (s : Portal.State ι) {u : User}
    (hu : u ∈ s.db.users.rows) :
    ∃ v ∈ (Portal.perform server op now s).db.users.rows, v.id = u.id ∧ v.email = u.email := by
  cases Portal.perform_effect server op now s with
  | grew grew => exact ⟨u, grew.kept u hu, rfl, rfl⟩
  | opened middle user sid authMethod signsIn first known opened =>
    exact ⟨u, opened.users.symm ▸ first.kept u hu, rfl, rfl⟩
  | closed sid users session => exact ⟨u, users.symm ▸ hu, rfl, rfl⟩
  | granted selects passwordHash role grants assigned =>
    refine ⟨_, assigned.users.symm ▸ List.mem_map_of_mem hu, ?_, ?_⟩
    · exact UserTable.assign_id selects passwordHash (some role) u
    · exact UserTable.assign_email selects passwordHash (some role) u
  | administrator grants grew => exact ⟨u, grew.kept u hu, rfl, rfl⟩

theorem Owned.perform {s : Portal.State ι} {claims : Obj} {row : UserSession}
    (h : Owned server s.db claims row) (op : Portal.Op ι) (now : ℚ) :
    Owned server (Portal.perform server op now s).db claims row := by
  obtain ⟨identity, u, hidentity, hu, hid, hemail⟩ := h
  obtain ⟨v, hv, hvid, hvemail⟩ := @perform_users ι _ server op now s u hu
  exact ⟨identity, v, hidentity, hv, hvid.trans hid, hvemail ▸ hemail⟩

theorem session_of_opened {user : User} {sid authMethod k : String} {t t' : Tables}
    {row : UserSession} (h : Opened user sid authMethod t t') (hrow : t'.session k = some row) :
    t.session k = some row ∨ k = sid ∧ row.authMethod = authMethod ∧ row.userId = user.id := by
  obtain ⟨role, -, hsession⟩ := h.session
  rw [hsession] at hrow
  by_cases hk : k = sid
  · rw [if_pos hk] at hrow
    obtain rfl := Option.some.inj hrow
    exact Or.inr ⟨hk, rfl, rfl⟩
  · rw [if_neg hk] at hrow
    exact Or.inl hrow

/-- Every other operation opens sessions with a password only. -/
theorem perform_sso_session {op : Portal.Op ι} {now : ℚ} {s : Portal.State ι} (other : NotSso op)
    {sid : String} {row : UserSession}
    (hrow : (Portal.perform server op now s).db.session sid = some row)
    (hsso : row.authMethod = "sso") : s.db.session sid = some row := by
  cases op with
  | ssoCallback claims newSid userFaults sessionFaults => exact other.elim
  | login replica req newSid faults =>
    have hsigned : SignedIn newSid "password" s.db
        (Portal.perform server (.login replica req newSid faults) now s).db := by
      change SignedIn newSid "password" s.db
        (Portal.login server faults req newSid now s.db (s.replica replica)).2.1
      cases hlimited : Portal.limited server (Portal.pruneAttempts now
          (((s.replica replica).loginAttempts req.clientIp).getD [])) with
      | true =>
        rw [Portal.login_limited hlimited]
        exact Or.inl (Same.refl s.db)
      | false =>
        rw [Portal.login_admitted hlimited]
        exact UnitOfWork.run_moves (R := SignedIn newSid "password")
          (fun t later => Or.inl (rollback_same t later)) (loginBlock_signedIn _ _ _) s.db
    rcases hsigned with same | ⟨user, -, opened⟩
    · exact (same.session sid).symm.trans hrow
    · rcases session_of_opened opened hrow with hold | ⟨-, hmethod, -⟩
      · exact hold
      · exact absurd (hmethod.symm.trans hsso) (by decide)
  | _ =>
    rcases Portal.session_origin hrow with hold | ⟨hsigns, -⟩
    · exact hold
    · exact hsigns.elim

/-- The user that the second block signs in has the address of the claims. -/
theorem ssoUserBlock_email {faults : UnitOfWork.Faults PyExc} {identity : SsoIdentity}
    {w t : UnitOfWork.Work Tables} {user : User}
    (h : ssoUserBlock server faults identity w = (.ok (some user), t)) :
    server.lowerSql user.email = identity.email := by
  have selected : ∀ {users : UserTable},
      selectByLowerEmail server users identity.email = some user →
        server.lowerSql user.email = identity.email := fun hselect =>
    of_decide_eq_true (List.mem_filter.mp (server.anyRow_mem _ user hselect)).2
  unfold ssoUserBlock at h
  obtain ⟨found, m, hquery, h⟩ := Tx.bind_ok_iff.mp h
  obtain ⟨-, hfound, -⟩ := UnitOfWork.query_ok_iff.mp hquery
  rcases found with _ | u
  · obtain ⟨_, n, -, h⟩ := Tx.bind_ok_iff.mp h
    obtain ⟨-, hselect, -⟩ := UnitOfWork.query_ok_iff.mp h
    exact selected hselect.symm
  · obtain ⟨hu, -⟩ := Tx.pure_ok_iff.mp h
    obtain rfl := Option.some.inj hu
    exact selected hfound.symm

theorem ssoSession_opened (faults : UnitOfWork.Faults PyExc) (user : User) (sid : String)
    (t : Tables) :
    Same t (UnitOfWork.run faults Tables.rollback (ssoSessionBlock faults user sid) t).state ∨
      Opened user sid "sso" t
        (UnitOfWork.run faults Tables.rollback (ssoSessionBlock faults user sid) t).state := by
  rcases UnitOfWork.run_state faults Tables.rollback (ssoSessionBlock faults user sid) t with
    hrun | hrun
  · rw [hrun]
    rcases insertSession_opened faults Empty user sid "sso" ⟨t, 0⟩ with same | opened
    · exact Or.inl (same.symm ▸ Same.refl t)
    · exact Or.inr opened
  · rw [hrun]
    exact Or.inl (rollback_same t _)

/-- A callback opens at most the session of the address in its claims. -/
theorem ssoCallback_session {claims : Obj} {newSid sid : String}
    {userFaults sessionFaults : UnitOfWork.Faults PyExc} {db : Tables} {row : UserSession}
    (hrow : (Portal.ssoCallback server userFaults sessionFaults claims newSid db).session sid =
      some row) :
    db.session sid = some row ∨ sid = newSid ∧
      Owned server (Portal.ssoCallback server userFaults sessionFaults claims newSid db) claims
        row := by
  unfold Portal.ssoCallback at hrow ⊢
  rcases hidentity : ssoIdentity server.py claims with e | identity
  · simp only [hidentity] at hrow
    exact Or.inl hrow
  simp only [hidentity] at hrow ⊢
  have first : Grew "user" db (UnitOfWork.run userFaults Tables.rollback
      (ssoUserBlock server userFaults identity) db).state :=
    UnitOfWork.run_moves (fun t later => (rollback_same t later).grew "user")
      (ssoUserBlock_grew identity) db
  split at hrow
  · next user middle hrun =>
    rw [hrun] at first
    obtain ⟨w, hblock, hstate⟩ := UnitOfWork.run_committed hrun
    have huser : user ∈ middle.users.rows := hstate ▸ ssoUserBlock_user hblock
    rcases ssoSession_opened sessionFaults user newSid middle with same | opened
    · exact Or.inl ((first.session sid).symm.trans ((same.session sid).symm.trans hrow))
    · rcases session_of_opened opened hrow with hold | ⟨hsid, -, hid⟩
      · exact Or.inl ((first.session sid).symm.trans hold)
      · refine Or.inr ⟨hsid, identity, user, hidentity, ?_, hid.symm, ssoUserBlock_email hblock⟩
        exact opened.users.symm ▸ huser
  · exact Or.inl ((first.session sid).symm.trans hrow)

end Sessions

section Agreement
variable {ι : Type} [DecidableEq ι] {setting : Setting} {w w' : World ι}

/-- The exchange goes back to a flow, and the code to a grant with its challenge. -/
structure Exchange.Sound (env : SsoEnv) (w : World ι) (e : Exchange) : Prop where
  minted : e.token ∈ w.tokens
  code : e.token.grant.code = e.request.code
  flow : ∃ flow ∈ w.flows, Presents env e.request flow ∧ e.storedNonce = flow.nonce.text ∧
    ∀ challenge, e.token.grant.codeChallenge = some challenge →
      challenge = env.codeChallenge flow.codeVerifier.text

/-- The exchanges whose code has been redeemed and used, or is about to be. -/
def World.exchanges (w : World ι) : List Exchange := w.accepted.map Acceptance.exchange ++ w.pending

structure Inv (setting : Setting) (w : World ι) : Prop where
  filled : ∀ replica, setting.provider.Filled setting.cfg (w.caches replica)
  nonces : (w.flows.map fun flow => flow.nonce.text).Nodup
  granted : ∀ token ∈ w.tokens, token.grant ∈ w.grants ∧ token.Faithful
  texts : (w.tokens.map Token.idToken).Nodup
  sound : ∀ e ∈ w.exchanges, e.Sound setting.env w
  once : (w.exchanges.map fun e => e.request.code).Nodup
  claims : ∀ a ∈ w.accepted, a.claims = a.exchange.token.claims ∧
    a.claims.get "nonce" = .str a.exchange.storedNonce
  sessions : ∀ sid row, w.portal.db.session sid = some row → row.authMethod = "sso" →
    ∃ a ∈ w.accepted, a.sid = sid ∧ Owned setting.server w.portal.db a.claims row

omit [DecidableEq ι] in
theorem Exchange.Sound.mono {env : SsoEnv} {e : Exchange} (h : e.Sound env w)
    (flows : w.flows ⊆ w'.flows) (tokens : w.tokens ⊆ w'.tokens) : e.Sound env w' := by
  obtain ⟨flow, hflow, hpresents⟩ := h.flow
  exact ⟨tokens h.minted, h.code, flow, flows hflow, hpresents⟩

omit [DecidableEq ι] in
theorem Starts.inv (h : Starts w) : Inv setting w := by
  have hexchanges : w.exchanges = [] := by simp [World.exchanges, h.accepted, h.pending]
  exact {
    filled := fun replica => by rw [h.caches]; exact filled_started
    nonces := by simp [h.flows]
    granted := by simp [h.tokens]
    texts := by simp [h.tokens]
    sound := by simp [hexchanges]
    once := by simp [hexchanges]
    claims := by simp [h.accepted]
    sessions := fun sid row hrow hsso => absurd hsso (h.sessions sid row hrow) }

omit [DecidableEq ι] in
/-- An exchange that leaves the pending ones leaves the rest of the invariant. -/
theorem Inv.settle (inv : Inv setting w) {e : Exchange} {rest : List Exchange}
    (pending : w.pending.Perm (e :: rest)) :
    (∀ e' ∈ w.accepted.map Acceptance.exchange ++ rest, e'.Sound setting.env w) ∧
      ((w.accepted.map Acceptance.exchange ++ rest).map fun e => e.request.code).Nodup := by
  have hperm : w.exchanges.Perm (w.accepted.map Acceptance.exchange ++ e :: rest) :=
    List.Perm.append_left _ pending
  have hsub : (w.accepted.map Acceptance.exchange ++ rest).Sublist
      (w.accepted.map Acceptance.exchange ++ e :: rest) :=
    (List.Sublist.refl _).append (List.sublist_cons_self e rest)
  refine ⟨fun e' he' => inv.sound e' (hperm.mem_iff.mpr (hsub.subset he')), ?_⟩
  exact ((hperm.map _).nodup_iff.mp inv.once).sublist (hsub.map _)

/-- The accepted exchange changes its place. -/
theorem exchanges_accept {accepted : List Acceptance} {pending rest : List Exchange}
    {a : Acceptance} (h : pending.Perm (a.exchange :: rest)) :
    ((accepted ++ [a]).map Acceptance.exchange ++ rest).Perm
      (accepted.map Acceptance.exchange ++ pending) := by
  rw [List.map_append, List.append_assoc]
  exact List.Perm.append_left _ h.symm

omit [DecidableEq ι] in
theorem filled_update (filled : ∀ replica, setting.provider.Filled setting.cfg (w.caches replica))
    [DecidableEq ι] (replica : ι) {call : Call}
    (serves : setting.provider.ServesCall setting.cfg call) (i : ι) :
    setting.provider.Filled setting.cfg (Function.update w.caches replica
      (verifyIdToken setting.jose setting.cfg call (w.caches replica)).2 i) := by
  by_cases hi : i = replica
  · subst hi
    rw [Function.update_self]
    exact verifyIdToken_filled setting.jose serves _ (filled i)
  · rw [Function.update_of_ne hi]
    exact filled i

omit [DecidableEq ι] in
/-- What an accepted callback has is what its own token was minted with. -/
theorem Inv.accepted_claims (inv : Inv setting w) {e : Exchange} (he : e ∈ w.exchanges)
    {replica : ι} {call : Call} (verifies : Verifies setting e call)
    (unforgeable : Unforgeable setting w.tokens call.idToken) {claims : Obj}
    (verified : (verifyIdToken setting.jose setting.cfg call (w.caches replica)).1 =
      .ok (some claims)) :
    claims = e.token.claims ∧ claims.get "nonce" = .str e.storedNonce := by
  obtain ⟨⟨keyData, key, alg, hpublished, hbuilt, hpayload⟩, hnonce⟩ :=
    verified_origin verifies.serves (inv.filled replica) verified
  obtain ⟨token, htoken, htext, rfl⟩ := unforgeable keyData key alg claims hpublished hbuilt
    hpayload
  have hsame : token = e.token := by
    refine List.inj_on_of_nodup_map inv.texts htoken (inv.sound e he).minted ?_
    rw [htext, verifies.idToken]
  exact ⟨by rw [hsame], verifies.nonce ▸ hnonce⟩

omit [DecidableEq ι] in
theorem Inv.ssoLogin (inv : Inv setting w) {flow : Flow}
    (fresh : ∀ other ∈ w.flows, other.nonce.text ≠ flow.nonce.text) :
    Inv setting { w with flows := w.flows ++ [flow] } := by
  refine { inv with
    nonces := ?_
    sound := fun e he =>
      (inv.sound e he).mono (List.subset_append_left _ _) (List.Subset.refl _) }
  rw [List.map_append, List.map_singleton]
  refine inv.nonces.append (List.nodup_singleton _) ?_
  intro nonce hold hnew
  obtain ⟨other, hother, rfl⟩ := List.mem_map.mp hold
  exact fresh other hother (List.mem_singleton.mp hnew)

omit [DecidableEq ι] in
theorem Inv.authorize (inv : Inv setting w) (grant : Grant) :
    Inv setting { w with grants := w.grants ++ [grant] } := by
  refine { inv with
    granted := fun token htoken => ?_
    sound := fun e he => (inv.sound e he).mono (List.Subset.refl _) (List.Subset.refl _) }
  obtain ⟨hgrant, hfaithful⟩ := inv.granted token htoken
  exact ⟨List.mem_append_left _ hgrant, hfaithful⟩

omit [DecidableEq ι] in
/-- An exchange whose cookie the portal has signed goes back to the flow of the cookie. -/
theorem exchange_sound {request : CallbackRequest} {codeVerifier storedNonce : String}
    {token : Token} {flows : List Flow} {tokens : List Token} (minted : token ∈ tokens)
    (signed : ∀ value, request.pkceCookie.getD "" = signValue setting.env value →
      ∃ flow ∈ flows, value = flow.text)
    (exchanges : SsoCookie.ssoCallback setting.env request =
      .ok (.exchange request.code codeVerifier storedNonce))
    (code : token.grant.code = request.code)
    (challenge : ∀ challenge, token.grant.codeChallenge = some challenge →
      challenge = setting.env.codeChallenge codeVerifier)
    (hflows : w.flows = flows) (htokens : w.tokens = tokens) :
    Exchange.Sound setting.env w ⟨request, storedNonce, token⟩ := by
  subst hflows htokens
  obtain ⟨-, hissued⟩ := exchange_issued exchanges
  obtain ⟨flow, hflow, htext⟩ := signed _ hissued.signed
  have hcookie : request.pkceCookie.getD "" = signValue setting.env flow.text :=
    htext ▸ hissued.signed
  obtain ⟨hpresents, -, hverifier, hnonce⟩ := exchange_presents exchanges hcookie
  exact ⟨minted, code, flow, hflow, hpresents, hnonce, hverifier ▸ challenge⟩

omit [DecidableEq ι] in
/-- A code that is redeemed now belongs to no exchange so far. -/
theorem Inv.unredeemed (inv : Inv setting w) {code codeVerifier : String} {token : Token}
    (redeems : Redeems setting w.tokens code codeVerifier token) :
    code ∉ w.exchanges.map fun e => e.request.code := by
  intro hmem
  obtain ⟨e, he, hcode⟩ := List.mem_map.mp hmem
  have hsound := inv.sound e he
  exact redeems.unredeemed e.token hsound.minted (hsound.code.trans hcode)

omit [DecidableEq ι] in
theorem Inv.exchange (inv : Inv setting w) {request : CallbackRequest}
    {codeVerifier storedNonce : String} {token : Token}
    (signed : ∀ value, request.pkceCookie.getD "" = signValue setting.env value →
      ∃ flow ∈ w.flows, value = flow.text)
    (exchanges : SsoCookie.ssoCallback setting.env request =
      .ok (.exchange request.code codeVerifier storedNonce))
    (granted : token.grant ∈ w.grants)
    (redeems : Redeems setting w.tokens request.code codeVerifier token) :
    Inv setting { w with
      tokens := w.tokens ++ [token]
      pending := ⟨request, storedNonce, token⟩ :: w.pending } := by
  have hexchanges : (World.exchanges { w with
      tokens := w.tokens ++ [token]
      pending := ⟨request, storedNonce, token⟩ :: w.pending }).Perm
        (⟨request, storedNonce, token⟩ :: w.exchanges) := List.perm_middle
  refine { inv with granted := ?_, texts := ?_, sound := ?_, once := ?_ }
  · intro other hother
    rcases List.mem_append.mp hother with hold | hnew
    · exact inv.granted other hold
    · obtain rfl := List.mem_singleton.mp hnew
      exact ⟨granted, redeems.faithful⟩
  · rw [List.map_append, List.map_singleton]
    refine inv.texts.append (List.nodup_singleton _) ?_
    intro text hold hnew
    obtain ⟨other, hother, rfl⟩ := List.mem_map.mp hold
    exact redeems.fresh other hother (List.mem_singleton.mp hnew)
  · intro e he
    rcases List.mem_cons.mp (hexchanges.mem_iff.mp he) with rfl | hold
    · have hminted : token ∈ w.tokens ++ [token] :=
        List.mem_append_right _ (List.mem_singleton.mpr rfl)
      exact exchange_sound hminted signed exchanges redeems.grant_code redeems.challenge rfl rfl
    · exact (inv.sound e hold).mono (List.Subset.refl _) (List.subset_append_left _ _)
  · rw [(hexchanges.map _).nodup_iff, List.map_cons, List.nodup_cons]
    exact ⟨inv.unredeemed redeems, inv.once⟩

omit [DecidableEq ι] in
theorem Inv.abandon (inv : Inv setting w) {e : Exchange} {rest : List Exchange}
    (pending : w.pending.Perm (e :: rest)) : Inv setting { w with pending := rest } := by
  obtain ⟨hsound, honce⟩ := inv.settle pending
  exact { inv with
    sound := fun e' he' => (hsound e' he').mono (List.Subset.refl _) (List.Subset.refl _)
    once := honce }

theorem Inv.refuse (inv : Inv setting w) {e : Exchange} {rest : List Exchange}
    (pending : w.pending.Perm (e :: rest)) (replica : ι) {call : Call}
    (verifies : Verifies setting e call) :
    Inv setting { w with
      pending := rest
      caches := Function.update w.caches replica
        (verifyIdToken setting.jose setting.cfg call (w.caches replica)).2 } := by
  obtain ⟨hsound, honce⟩ := inv.settle pending
  exact { inv with
    filled := filled_update inv.filled replica verifies.serves
    sound := fun e' he' => (hsound e' he').mono (List.Subset.refl _) (List.Subset.refl _)
    once := honce }

theorem Inv.accept (inv : Inv setting w) {e : Exchange} {rest : List Exchange}
    (pending : w.pending.Perm (e :: rest)) (replica : ι) {call : Call}
    (verifies : Verifies setting e call) (unforgeable : Unforgeable setting w.tokens call.idToken)
    {claims : Obj} (verified : (verifyIdToken setting.jose setting.cfg call
      (w.caches replica)).1 = .ok (some claims))
    {sid : String} {userFaults sessionFaults : UnitOfWork.Faults PyExc} {time : ℚ}
    {portal : Portal.State ι} (signsIn : Portal.step setting.server w.portal
      ⟨.ssoCallback claims sid userFaults sessionFaults, time⟩ = some portal) :
    Inv setting { w with
      pending := rest
      accepted := w.accepted ++ [⟨e, claims, sid⟩]
      caches := Function.update w.caches replica
        (verifyIdToken setting.jose setting.cfg call (w.caches replica)).2
      portal := portal } := by
  have he : e ∈ w.exchanges :=
    List.mem_append_right _ (pending.mem_iff.mpr List.mem_cons_self)
  have hperm : (World.exchanges { w with
      pending := rest
      accepted := w.accepted ++ [⟨e, claims, sid⟩]
      caches := Function.update w.caches replica
        (verifyIdToken setting.jose setting.cfg call (w.caches replica)).2
      portal := portal }).Perm w.exchanges := exchanges_accept (a := ⟨e, claims, sid⟩) pending
  refine { inv with filled := ?_, sound := ?_, once := ?_, claims := ?_, sessions := ?_ }
  · exact filled_update inv.filled replica verifies.serves
  · intro e' he'
    exact (inv.sound e' (hperm.mem_iff.mp he')).mono (List.Subset.refl _) (List.Subset.refl _)
  · exact (hperm.map _).nodup_iff.mpr inv.once
  · intro a ha
    rcases List.mem_append.mp ha with hold | hnew
    · exact inv.claims a hold
    · obtain rfl := List.mem_singleton.mp hnew
      exact inv.accepted_claims he verifies unforgeable verified
  · intro sid' row hrow hsso
    obtain ⟨-, rfl⟩ := Portal.step_eq_some_iff.mp signsIn
    rcases ssoCallback_session hrow with hold | ⟨rfl, howned⟩
    · obtain ⟨a, ha, hsid, howned⟩ := inv.sessions sid' row hold hsso
      exact ⟨a, List.mem_append_left _ ha, hsid, howned.perform _ time⟩
    · have hnew : (⟨e, claims, sid'⟩ : Acceptance) ∈ w.accepted ++ [⟨e, claims, sid'⟩] :=
        List.mem_append_right _ (List.mem_singleton.mpr rfl)
      exact ⟨⟨e, claims, sid'⟩, hnew, rfl, howned⟩

theorem Inv.portal (inv : Inv setting w) {action : Portal.Action ι} {portal : Portal.State ι}
    (other : NotSso action.op)
    (performs : Portal.step setting.server w.portal action = some portal) :
    Inv setting { w with portal := portal } := by
  refine { inv with
    sound := fun e he => (inv.sound e he).mono (List.Subset.refl _) (List.Subset.refl _)
    sessions := ?_ }
  intro sid row hrow hsso
  obtain ⟨-, rfl⟩ := Portal.step_eq_some_iff.mp performs
  obtain ⟨a, ha, hsid, howned⟩ :=
    inv.sessions sid row (perform_sso_session other hrow hsso) hsso
  exact ⟨a, ha, hsid, howned.perform action.op action.time⟩

theorem Inv.step (inv : Inv setting w) (h : Step setting w w') : Inv setting w' := by
  cases h with
  | ssoLogin flow issued fresh => exact inv.ssoLogin fresh
  | authorize grant => exact inv.authorize grant
  | exchange request codeVerifier storedNonce token signed exchanges granted redeems =>
    exact inv.exchange signed exchanges granted redeems
  | abandon e rest pending => exact inv.abandon pending
  | refuse e rest pending replica call verifies refused =>
    exact inv.refuse pending replica verifies
  | accept e rest pending replica call verifies unforgeable claims verified sid userFaults
      sessionFaults time portal signsIn =>
    exact inv.accept pending replica verifies unforgeable verified signsIn
  | portal action portal other performs => exact inv.portal other performs

theorem Reaches.inv (h : Reaches setting w) : Inv setting w := by
  induction h with
  | start starts => exact starts.inv
  | step _ hstep ih => exact ih.step hstep

/-- The portal, the browser and the provider agree on the acceptance. -/
structure Agrees (env : SsoEnv) (w : World ι) (a : Acceptance) (flow : Flow) (token : Token) :
    Prop where
  issued : flow ∈ w.flows
  presents : Presents env a.exchange.request flow
  minted : token ∈ w.tokens
  granted : token.grant ∈ w.grants
  code : token.grant.code = a.exchange.request.code
  challenge : ∀ challenge, token.grant.codeChallenge = some challenge →
    challenge = env.codeChallenge flow.codeVerifier.text
  nonce : token.grant.nonce = some flow.nonce.text
  claims : a.claims = token.claims
  subject : a.claims.get "sub" = .str token.grant.subject

omit [DecidableEq ι] in
theorem Inv.agrees (inv : Inv setting w) {a : Acceptance} (ha : a ∈ w.accepted) :
    ∃ flow, Agrees setting.env w a flow a.exchange.token := by
  have he : a.exchange ∈ w.exchanges := List.mem_append_left _ (List.mem_map_of_mem ha)
  obtain ⟨hminted, hcode, flow, hflow, hpresents, hstored, hchallenge⟩ := inv.sound a.exchange he
  obtain ⟨hclaims, hnonce⟩ := inv.claims a ha
  obtain ⟨hgrant, hfaithful⟩ := inv.granted a.exchange.token hminted
  rw [hclaims, hstored] at hnonce
  exact ⟨flow, {
    issued := hflow
    presents := hpresents
    minted := hminted
    granted := hgrant
    code := hcode
    challenge := hchallenge
    nonce := hfaithful.nonce _ hnonce
    claims := hclaims
    subject := hclaims ▸ hfaithful.subject }⟩

/-- Every session of single sign-on belongs to the user of verified claims, and these to
one flow of the portal and one redeemed grant, which agree on state, code, challenge,
nonce and subject. -/
theorem sessions_agree (h : Reaches setting w) {sid : String} {row : UserSession}
    (hrow : w.portal.db.session sid = some row) (hsso : row.authMethod = "sso") :
    ∃ a ∈ w.accepted, a.sid = sid ∧ Owned setting.server w.portal.db a.claims row ∧
      ∃ flow token, Agrees setting.env w a flow token := by
  obtain ⟨a, ha, hsid, howned⟩ := h.inv.sessions sid row hrow hsso
  obtain ⟨flow, hagrees⟩ := h.inv.agrees ha
  exact ⟨a, ha, hsid, howned, flow, a.exchange.token, hagrees⟩

end Agreement

theorem letter_safe {letter : Char} (h : letter.isAlphanum = true) :
    ∀ c ∈ (String.singleton letter).toList, c.isAlphanum = true ∨ c = '-' ∨ c = '_' := by
  intro c hc
  rw [String.toList_singleton, List.mem_singleton] at hc
  exact Or.inl (hc ▸ h)

def letterToken (letter : Char) (h : letter.isAlphanum = true) : UrlSafeToken :=
  ⟨String.singleton letter, letter_safe h⟩

def sampleFlow : Flow := ⟨letterToken 's' rfl, letterToken 'v' rfl, letterToken 'n' rfl⟩

def bobFlow : Flow := ⟨letterToken 't' rfl, letterToken 'w' rfl, letterToken 'm' rfl⟩

def subjectClaims : Obj :=
  [("sub", .str "u1"), ("email", .str "ann@example.com")] ++ sampleClaims

def bobClaims : Obj :=
  [("sub", .str "u2"), ("email", .str "bob@example.com"), ("nonce", .str "m"),
    ("iss", .str "https://idcs.example.com")]

/-- One token is that of Bob, and every other that of Ann. -/
def claimsOf (idToken : String) : Obj := if idToken = "bobs" then bobClaims else subjectClaims

def subjectPayload (idToken alg : String) : Option Obj :=
  if alg = "RS256" then some (claimsOf idToken) else none

theorem subjectPayload_some {idToken alg : String} {claims : Obj}
    (h : subjectPayload idToken alg = some claims) : alg = "RS256" ∧ claimsOf idToken = claims := by
  unfold subjectPayload at h
  split at h
  · next halg => exact ⟨halg, Option.some.inj h⟩
  · cases h

theorem subjectPayload_alg {idToken alg : String} {claims : Obj}
    (h : subjectPayload idToken alg = some claims) :
    ∃ fields : Obj, some sampleHeader = some fields ∧ fields.get "alg" = .str alg :=
  ⟨sampleHeader, rfl, congrArg Json.str (subjectPayload_some h).1.symm⟩

def annJose : Jose :=
  .signed (asciiBuiltins id) (fun _ => some sampleHeader) (fun idToken _ => subjectPayload idToken)
    subjectPayload_alg

def sampleProvider : Provider := ⟨"https://idcs.example.com/keys", (· = sampleKey)⟩

def sampleSetting : Setting := ⟨sampleSso, annJose, asciiServer, sampleProvider⟩

def provided : Fetch where
  askedAt := 0
  reply url :=
    if url = "https://idcs.example.com/keys" then some (.obj [("keys", .arr [.obj sampleKey])])
    else if url = "https://idcs.example.com/.well-known/openid-configuration" then
      some (.obj sampleDiscovery)
    else none
  answeredAt := 0

theorem provided_serves : sampleProvider.Serves sampleSetting.cfg provided where
  discovery doc h := by
    have hreply : provided.reply
        (sampleSetting.cfg.idcsDomainUrl ++ "/.well-known/openid-configuration") =
          some (.obj sampleDiscovery) := by rfl
    obtain rfl := Option.some.inj (hreply.symm.trans h)
    intro fields hfields
    obtain rfl := Json.obj.inj hfields
    rfl
  keys jwks h := by
    obtain rfl := Option.some.inj ((show provided.reply _ =
      some (.obj [("keys", .arr [.obj sampleKey])]) from rfl).symm.trans h)
    intro keys key hkeys hkey
    obtain rfl := Except.ok.inj hkeys
    exact Json.obj.inj (List.mem_singleton.mp hkey)

def sampleGrant : Grant := ⟨"c", some "v", some "n", "u1"⟩

def sampleToken : Token := ⟨sampleGrant, "token", subjectClaims⟩

def sampleRequest : CallbackRequest :=
  ⟨some (signValue sampleSso sampleFlow.text), "c", "s", ""⟩

def sampleExchange : Exchange := ⟨sampleRequest, "n", sampleToken⟩

def agreedCall : Call := ⟨"token", "n", "crm", provided, provided, provided, 0⟩

def bobGrant : Grant := ⟨"d", some "w", some "m", "u2"⟩

def bobToken : Token := ⟨bobGrant, "bobs", bobClaims⟩

def bobRequest : CallbackRequest := ⟨some (signValue sampleSso bobFlow.text), "d", "t", ""⟩

def bobExchange : Exchange := ⟨bobRequest, "m", bobToken⟩

def bobCall : Call := ⟨"bobs", "m", "crm", provided, provided, provided, 0⟩

/-- Two replicas. -/
def startWorld : World Bool :=
  ⟨[], [], [], [], [], fun _ => Caches.started, Portal.start Portal.annTables 0⟩

def signIn (claims : Obj) (sid : String) : Portal.Action Bool :=
  ⟨.ssoCallback claims sid Portal.noFaults Portal.noFaults, 0⟩

def signedInPortal : Portal.State Bool :=
  { Portal.perform asciiServer (signIn subjectClaims "s1").op 0 startWorld.portal with now := 0 }

def signedInWorld : World Bool where
  flows := [sampleFlow]
  grants := [sampleGrant]
  tokens := [sampleToken]
  pending := []
  accepted := [⟨sampleExchange, subjectClaims, "s1"⟩]
  caches := Function.update (fun _ => Caches.started) false
    (verifyIdToken annJose sampleSetting.cfg agreedCall Caches.started).2
  portal := signedInPortal

/-- Bob has signed in on the other replica. -/
def bobPortal : Portal.State Bool :=
  { Portal.perform asciiServer (signIn bobClaims "s2").op 0 signedInPortal with now := 0 }

def bothWorld : World Bool where
  flows := [sampleFlow, bobFlow]
  grants := [sampleGrant, bobGrant]
  tokens := [sampleToken, bobToken]
  pending := []
  accepted := [⟨sampleExchange, subjectClaims, "s1"⟩, ⟨bobExchange, bobClaims, "s2"⟩]
  caches := Function.update signedInWorld.caches true
    (verifyIdToken annJose sampleSetting.cfg bobCall Caches.started).2
  portal := bobPortal

theorem sampleRequest_exchanges :
    SsoCookie.ssoCallback sampleSso sampleRequest = .ok (.exchange "c" "v" "n") := by
  have hissued : Issued sampleSso (some (signValue sampleSso sampleFlow.text)) "s" "v" "n" :=
    @Flow.issued sampleSso sampleFlow _ rfl
  have hsame : Orders.compareDigest "s" "s" = .ok true := by decide
  rw [sampleRequest, ssoCallback_issued hissued, hsame]
  rfl

theorem bobRequest_exchanges :
    SsoCookie.ssoCallback sampleSso bobRequest = .ok (.exchange "d" "w" "m") := by
  have hissued : Issued sampleSso (some (signValue sampleSso bobFlow.text)) "t" "w" "m" :=
    @Flow.issued sampleSso bobFlow _ rfl
  have hsame : Orders.compareDigest "t" "t" = .ok true := by decide
  rw [bobRequest, ssoCallback_issued hissued, hsame]
  rfl

theorem sampleUnforgeable {idToken : String} {tokens : List Token} {token : Token}
    (minted : token ∈ tokens) (htext : token.idToken = idToken)
    (hclaims : claimsOf idToken = token.claims) : Unforgeable sampleSetting tokens idToken := by
  intro keyData key alg claims _ _ hpayload
  exact ⟨token, minted, htext, hclaims.symm.trans (subjectPayload_some hpayload).2⟩

theorem signedInWorld_reached : Reaches sampleSetting signedInWorld := by
  have hstart : Reaches sampleSetting startWorld :=
    .start ⟨rfl, rfl, rfl, rfl, rfl, rfl, fun sid row h => by cases h⟩
  have hlogin := hstart.step (.ssoLogin sampleFlow rfl fun other hother => by cases hother)
  have hgrant := hlogin.step (.authorize sampleGrant)
  have hexchange := hgrant.step (.exchange sampleRequest "v" "n" sampleToken
    (fun value hvalue => ⟨sampleFlow, List.mem_singleton.mpr rfl,
      (signValue_injective sampleSso hvalue).symm⟩)
    sampleRequest_exchanges (List.mem_singleton.mpr rfl)
    { grant_code := rfl
      unredeemed := fun other hother => by cases hother
      challenge := fun challenge h => (Option.some.inj h).symm
      fresh := fun other hother => by cases hother
      faithful := ⟨fun nonce h => congrArg some (Json.str.inj h), rfl⟩ })
  exact hexchange.step (.accept sampleExchange [] (List.Perm.refl _) false agreedCall
    ⟨rfl, rfl, rfl, provided_serves, provided_serves, provided_serves⟩
    (sampleUnforgeable (List.mem_singleton.mpr rfl) rfl rfl) subjectClaims rfl "s1"
    Portal.noFaults Portal.noFaults 0 signedInPortal rfl)

theorem sessions_agree_sample :
    ∃ a ∈ signedInWorld.accepted, a.sid = "s1" ∧
      Owned asciiServer signedInWorld.portal.db a.claims ⟨"s1", 1, "ann", "user", "sso"⟩ ∧
      ∃ flow token, Agrees sampleSso signedInWorld a flow token :=
  sessions_agree signedInWorld_reached (by decide +kernel) rfl

theorem bothWorld_reached : Reaches sampleSetting bothWorld := by
  have hlogin := signedInWorld_reached.step (.ssoLogin bobFlow rfl fun other hother => by
    rw [List.mem_singleton.mp hother]
    decide)
  have hgrant := hlogin.step (.authorize bobGrant)
  have hexchange := hgrant.step (.exchange bobRequest "w" "m" bobToken
    (fun value hvalue => ⟨bobFlow, List.mem_append_right _ (List.mem_singleton.mpr rfl),
      (signValue_injective sampleSso hvalue).symm⟩)
    bobRequest_exchanges (List.mem_append_right _ (List.mem_singleton.mpr rfl))
    { grant_code := rfl
      unredeemed := fun other hother => by
        rw [List.mem_singleton.mp hother]
        decide
      challenge := fun challenge h => (Option.some.inj h).symm
      fresh := fun other hother => by
        rw [List.mem_singleton.mp hother]
        decide
      faithful := ⟨fun nonce h => congrArg some (Json.str.inj h), rfl⟩ })
  exact hexchange.step (.accept bobExchange [] (List.Perm.refl _) true bobCall
    ⟨rfl, rfl, rfl, provided_serves, provided_serves, provided_serves⟩
    (sampleUnforgeable (List.mem_append_right _ (List.mem_singleton.mpr rfl)) rfl rfl)
    bobClaims rfl "s2" Portal.noFaults Portal.noFaults 0 bobPortal rfl)

/-- A code opens at most one session, and a token is only accepted from the flow whose
nonce it carries: it cannot be replayed into another. -/
theorem codes_and_nonces_once {ι : Type} [DecidableEq ι] {setting : Setting} {w : World ι}
    (h : Reaches setting w) :
    (w.accepted.map fun a => a.exchange.request.code).Nodup ∧
    ∀ a ∈ w.accepted, ∀ flow ∈ w.flows, a.claims.get "nonce" = .str flow.nonce.text →
      Presents setting.env a.exchange.request flow := by
  have inv := h.inv
  constructor
  · have honce := inv.once
    rw [World.exchanges, List.map_append, List.map_map] at honce
    exact honce.of_append_left
  · intro a ha flow hflow hnonce
    obtain ⟨flow', hagrees⟩ := inv.agrees ha
    have htoken := hagrees.claims ▸ hnonce
    obtain ⟨-, hfaithful⟩ := inv.granted _ hagrees.minted
    have hsame : flow.nonce.text = flow'.nonce.text :=
      Option.some.inj ((hfaithful.nonce _ htoken).symm.trans hagrees.nonce)
    obtain rfl := List.inj_on_of_nodup_map inv.nonces hflow hagrees.issued hsame
    exact hagrees.presents

/-- Two flows, and the callback of each has the cookie and the state of its own. -/
theorem codes_and_nonces_once_sample :
    (bothWorld.accepted.map fun a => a.exchange.request.code).Nodup ∧
      Presents sampleSso sampleRequest sampleFlow ∧ Presents sampleSso bobRequest bobFlow := by
  obtain ⟨honce, hnonces⟩ := codes_and_nonces_once bothWorld_reached
  refine ⟨honce, ?_, ?_⟩
  · exact hnonces _ List.mem_cons_self sampleFlow List.mem_cons_self rfl
  · exact hnonces _ (List.mem_cons_of_mem _ List.mem_cons_self) bobFlow
      (List.mem_cons_of_mem _ List.mem_cons_self) rfl

end SsoAgreement

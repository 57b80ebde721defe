import CrmPortal.PyValue
import CrmPortal.Library.Transaction
import Mathlib.Logic.Function.Basic
import Mathlib.Data.List.Induction

/-!
# `_verify_id_token`

The discovery document and the key set are fetched through caches of the process,
the key is searched in the cached set and then in a refreshed one, and the library
decodes the token under it. Six checks are documented. Those on `kid`, `aud` and
`exp` are only made where the token has the field, and the one on `iss` is an
equation only where the issuer is a string.
-/

namespace IdToken

open PyValue Transaction

/-- One use of `_fetch_oidc_discovery` or `_fetch_jwks`: the clock where the cache is
checked, what the network gives for a URL (`none` where `get`, `raise_for_status` or
`json` raises), and the clock where the answer is stored. -/
structure Fetch where
  askedAt : ℚ
  reply : String → Option Json
  answeredAt : ℚ

abbrev Cache := String → Option (ℚ × Json)

structure Caches where
  oidcDiscovery : Cache
  jwks : Cache

def Caches.started : Caches := ⟨fun _ => none, fun _ => none⟩

def oidcCacheTtl : ℚ := 3600

/-- The entry that is young enough to be used. -/
def Cache.hit (cache : Cache) (key : String) (now : ℚ) : Option Json :=
  match cache key with
  | some (storedAt, doc) => if now - storedAt < oidcCacheTtl then some doc else none
  | none => none

/-- The entry is used, or the document fetched and stored. -/
def Cache.fetch (cache : Cache) (key url : String) (fetch : Fetch) (forceRefresh : Bool) :
    Option Json × Cache :=
  match if forceRefresh then none else cache.hit key fetch.askedAt with
  | some doc => (some doc, cache)
  | none => match fetch.reply url with
    | some doc => (some doc, Function.update cache key (some (fetch.answeredAt, doc)))
    | none => (none, cache)

abbrev Verification := Tx Caches PyExc

def fetchOidcDiscovery (issuerBase : String) (fetch : Fetch) : Verification (Option Json) :=
  fun caches =>
    let (doc, cache) := caches.oidcDiscovery.fetch issuerBase
      (issuerBase ++ "/.well-known/openid-configuration") fetch false
    (.ok doc, { caches with oidcDiscovery := cache })

/-- A `jwks_uri` that is no string is no URL: the request raises, and `None` comes back. -/
def fetchJwks (jwksUri : Json) (fetch : Fetch) (forceRefresh : Bool) :
    Verification (Option Json) :=
  match jwksUri with
  | .str uri => fun caches =>
    let (doc, cache) := caches.jwks.fetch uri uri fetch forceRefresh
    (.ok doc, { caches with jwks := cache })
  | _ => return none

inductive JoseExc where
  | expiredSignature
  | jwtClaims
  | jwt
  | other (exc : PyExc)

/-- One audience or a list of them. -/
def audiences : Json → Option (List String)
  | .str name => some [name]
  | .arr names => names.mapM fun name => match name with
    | .str name => some name
    | _ => none
  | _ => none

/-- `iss in issuer`, where a string stands for the one issuer that it names. -/
def isAmong (iss : Json) : Json → Except PyExc Bool
  | .str issuer => .ok (iss.pyEq (.str issuer))
  | .arr issuers => .ok (issuers.any iss.pyEq)
  | .obj fields => match iss with
    | .arr _ => .error .typeError
    | .obj _ => .error .typeError
    | iss => .ok (fields.any fun field => iss.pyEq (.str field.1))
  | _ => .error .typeError

/-- What an `exp` that is there has to be: a number of seconds after the clock. -/
def Unexpired (py : Builtins) (now : ℚ) (claims : Obj) : Prop :=
  ∀ v, List.lookup "exp" claims = some v → ∃ exp : Int, v.toInt py = .ok exp ∧ now < exp

/-- And an `aud` that is there: the audience, or a list that has it. -/
def NamesAudience (audience : String) (claims : Obj) : Prop :=
  ∀ aud, List.lookup "aud" claims = some aud →
    ∃ names, audiences aud = some names ∧ audience ∈ names

/-- What is used of the library. `payload` is the content of a token whose signature holds
under the key, by the algorithm of the header. `jwt.decode` requires no claim to be there;
it checks what there is of `exp` and `aud`, and the issuer. The library counts in whole
seconds and takes an `exp` of the running second too, which `decode_exp` leaves out. -/
structure Jose where
  py : Builtins
  header : String → Option Obj
  construct : Obj → Except PyExc Obj
  payload : String → Obj → String → Option Obj
  decode (now : ℚ) (token : String) (key : Obj) (alg audience : String) (issuer : Json) :
    Except JoseExc Obj
  payload_alg : ∀ {token key alg claims}, payload token key alg = some claims →
    ∃ fields, header token = some fields ∧ fields.get "alg" = .str alg
  decode_payload : ∀ {now token key alg audience issuer claims},
    decode now token key alg audience issuer = .ok claims → payload token key alg = some claims
  decode_exp : ∀ {now token key alg audience issuer claims},
    decode now token key alg audience issuer = .ok claims → Unexpired py now claims
  decode_aud : ∀ {now token key alg audience issuer claims},
    decode now token key alg audience issuer = .ok claims → NamesAudience audience claims
  decode_iss : ∀ {now token key alg audience issuer claims},
    decode now token key alg audience issuer = .ok claims →
      isAmong (claims.get "iss") issuer = .ok true

structure IdcsConfig where
  idcsDomainUrl : String

/-- One call, with its uses of the network and the clock where the token is decoded. -/
structure Call where
  idToken : String
  expectedNonce : String
  expectedAudience : String
  discovery : Fetch
  keys : Fetch
  refreshed : Fetch
  decodedAt : ℚ

/-- `None` ends the verification. -/
def unlessNone {α β : Type} (x : Verification (Option α)) (f : α → Verification (Option β)) :
    Verification (Option β) := do
  match ← x with
  | none => return none
  | some a => f a

def supportedAlgorithms : List String := ["RS256", "RS384", "RS512"]

def supportedAlg : Json → Option String
  | .str alg => if alg ∈ supportedAlgorithms then some alg else none
  | _ => none

/-- `jwks.get("keys", [])`. -/
def keysOf (jwks : Json) : Except PyExc (List Json) := do
  let fields ← jwks.asDict
  (fields.getD "keys" (.arr [])).iterate

/-- The first key with this `kid`; one without a `kid` has the value `None`. -/
def keyNamed (kid : Json) : List Json → Except PyExc (Option Obj)
  | [] => return none
  | keyData :: rest => do
    let fields ← keyData.asDict
    if (fields.get "kid").pyEq kid then return some fields
    else keyNamed kid rest

def searchKey (kid jwks : Json) : Except PyExc (Option Obj) := do
  keyNamed kid (← keysOf jwks)

/-- The cached set first, then a refreshed one. -/
def findKey (jwksUri kid : Json) (call : Call) : Verification (Option Obj) :=
  unlessNone (fetchJwks jwksUri call.keys false) fun jwks => do
    match ← Tx.ofExcept (searchKey kid jwks) with
    | some keyData => return some keyData
    | none => unlessNone (fetchJwks jwksUri call.refreshed true) fun jwks =>
        Tx.ofExcept (searchKey kid jwks)

def decodeWith (jose : Jose) (call : Call) (key : Obj) (alg : String) (issuer : Json) :
    Verification (Option Obj) :=
  match jose.decode call.decodedAt call.idToken key alg call.expectedAudience issuer with
  | .ok claims => return some claims
  | .error (.other exc) => Tx.raise exc
  | .error _ => return none

def checkNonce (expectedNonce : String) (claims : Obj) : Option Obj :=
  if expectedNonce = "" ∨ (claims.get "nonce").pyEq (.str expectedNonce) = false then none
  else some claims

def verifyIdToken (jose : Jose) (cfg : IdcsConfig) (call : Call) : Verification (Option Obj) :=
  unlessNone (fetchOidcDiscovery cfg.idcsDomainUrl call.discovery) fun doc => do
    let discovery ← Tx.ofExcept doc.asDict
    let jwksUri := discovery.get "jwks_uri"
    let expectedIssuer := discovery.get "issuer"
    if !jwksUri.truthy || !expectedIssuer.truthy then return none
    else unlessNone (pure (jose.header call.idToken)) fun unverifiedHeader =>
      let kid := unverifiedHeader.get "kid"
      unlessNone (pure (supportedAlg (unverifiedHeader.getD "alg" (.str "RS256")))) fun alg =>
        unlessNone (findKey jwksUri kid call) fun keyData =>
          if keyData.isEmpty then return none
          else do
            let key ← Tx.ofExcept (jose.construct keyData)
            unlessNone (decodeWith jose call key alg expectedIssuer) fun claims =>
              return checkNonce call.expectedNonce claims

theorem unlessNone_some_iff {α β : Type} {x : Verification (Option α)}
    {f : α → Verification (Option β)} {b : β} {s t : Caches} :
    unlessNone x f s = (.ok (some b), t) ↔
      ∃ a m, x s = (.ok (some a), m) ∧ f a m = (.ok (some b), t) := by
  unfold unlessNone
  rw [Tx.bind_ok_iff]
  constructor
  · rintro ⟨_ | a, m, hx, hf⟩
    · cases hf
    · exact ⟨a, m, hx, hf⟩
  · rintro ⟨a, m, hx, hf⟩
    exact ⟨some a, m, hx, hf⟩

theorem supportedAlg_eq_some_iff {v : Json} {alg : String} :
    supportedAlg v = some alg ↔ v = .str alg ∧ alg ∈ supportedAlgorithms := by
  cases v with
  | str name =>
    by_cases hname : name ∈ supportedAlgorithms
    · simp only [supportedAlg, if_pos hname, Option.some.injEq, Json.str.injEq]
      exact ⟨fun h => ⟨h, h ▸ hname⟩, fun h => h.1⟩
    · simp only [supportedAlg, if_neg hname, Json.str.injEq]
      constructor
      · intro h
        cases h
      · rintro ⟨rfl, halg⟩
        exact absurd halg hname
  | _ => simp [supportedAlg]

theorem checkNonce_eq_some_iff {expectedNonce : String} {claims claims' : Obj} :
    checkNonce expectedNonce claims = some claims' ↔
      claims = claims' ∧ expectedNonce ≠ "" ∧ claims.get "nonce" = .str expectedNonce := by
  unfold checkNonce
  split
  · rename_i h
    constructor
    · intro hnone
      cases hnone
    · rintro ⟨-, hne, hnonce⟩
      rcases h with h | h
      · exact absurd h hne
      · rw [Json.pyEq_str_iff.mpr hnonce] at h
        cases h
  · rename_i h
    obtain ⟨hne, hnonce⟩ := not_or.mp h
    have hequal := Json.pyEq_str_iff.mp (Bool.eq_true_of_not_eq_false hnonce)
    exact ⟨fun hsome => ⟨Option.some.inj hsome, hne, hequal⟩, fun hsome => congrArg some hsome.1⟩

theorem decodeWith_some_iff {jose : Jose} {call : Call} {key claims : Obj} {alg : String}
    {issuer : Json} {s t : Caches} :
    decodeWith jose call key alg issuer s = (.ok (some claims), t) ↔
      jose.decode call.decodedAt call.idToken key alg call.expectedAudience issuer = .ok claims ∧
        t = s := by
  unfold decodeWith
  cases hdecoded : jose.decode call.decodedAt call.idToken key alg call.expectedAudience issuer with
  | ok claims' => simp [Prod.ext_iff, eq_comm]
  | error exc => cases exc <;> simp [Prod.ext_iff]

theorem keyNamed_some {kid : Json} {key : Obj} {keys : List Json}
    (h : keyNamed kid keys = .ok (some key)) :
    .obj key ∈ keys ∧ (key.get "kid").pyEq kid = true := by
  induction keys with
  | nil => cases h
  | cons keyData rest ih =>
    obtain ⟨fields, hfields, hnamed⟩ := bind_ok_iff.mp h
    rw [Json.asDict_ok_iff] at hfields
    split at hnamed
    · rename_i hkid
      obtain rfl := Option.some.inj (Except.ok.inj hnamed)
      exact ⟨hfields ▸ List.mem_cons_self, hkid⟩
    · obtain ⟨hmem, hkid⟩ := ih hnamed
      exact ⟨List.mem_cons_of_mem keyData hmem, hkid⟩

/-- The cached set of the issuer, or one that it serves during the call. -/
def KeySet (caches : Caches) (call : Call) (uri : String) (jwks : Json) : Prop :=
  caches.jwks.hit uri call.keys.askedAt = some jwks ∨ call.keys.reply uri = some jwks ∨
    call.refreshed.reply uri = some jwks

theorem Cache.fetch_some {cache : Cache} {key url : String} {fetch : Fetch} {force : Bool}
    {doc : Json} (h : (cache.fetch key url fetch force).1 = some doc) :
    force = false ∧ cache.hit key fetch.askedAt = some doc ∨ fetch.reply url = some doc := by
  unfold Cache.fetch at h
  split at h
  · rename_i young hyoung
    split at hyoung
    · cases hyoung
    · rename_i hforce
      obtain rfl := Option.some.inj h
      exact .inl ⟨Bool.eq_false_of_not_eq_true hforce, hyoung⟩
  · split at h
    · rename_i hreply
      obtain rfl := Option.some.inj h
      exact .inr hreply
    · cases h

theorem fetchJwks_some {jwksUri jwks : Json} {fetch : Fetch} {force : Bool} {s t : Caches}
    (h : fetchJwks jwksUri fetch force s = (.ok (some jwks), t)) :
    ∃ uri, jwksUri = .str uri ∧
      (force = false ∧ s.jwks.hit uri fetch.askedAt = some jwks ∨ fetch.reply uri = some jwks) := by
  cases jwksUri with
  | str uri =>
    refine ⟨uri, rfl, ?_⟩
    have hdoc : (s.jwks.fetch uri uri fetch force).1 = some jwks :=
      Except.ok.inj (congrArg Prod.fst h)
    exact Cache.fetch_some hdoc
  | _ => cases h

theorem searchKey_some {kid jwks : Json} {key : Obj} (h : searchKey kid jwks = .ok (some key)) :
    ∃ keys, keysOf jwks = .ok keys ∧ .obj key ∈ keys ∧ (key.get "kid").pyEq kid = true := by
  obtain ⟨keys, hkeys, hnamed⟩ := bind_ok_iff.mp h
  obtain ⟨hmem, hkid⟩ := keyNamed_some hnamed
  exact ⟨keys, hkeys, hmem, hkid⟩

theorem findKey_some {jwksUri kid : Json} {call : Call} {key : Obj} {s t : Caches}
    (h : findKey jwksUri kid call s = (.ok (some key), t)) :
    ∃ uri jwks keys, jwksUri = .str uri ∧ KeySet s call uri jwks ∧ keysOf jwks = .ok keys ∧
      .obj key ∈ keys ∧ (key.get "kid").pyEq kid = true := by
  obtain ⟨jwks, m, hjwks, hrest⟩ := unlessNone_some_iff.mp h
  obtain ⟨uri, huri, hset⟩ := fetchJwks_some hjwks
  obtain ⟨found, m', hsearch, hfound⟩ := Tx.bind_ok_iff.mp hrest
  obtain ⟨hsearched, rfl⟩ := Tx.ofExcept_ok_iff.mp hsearch
  cases found with
  | some key' =>
    obtain ⟨hkey, -⟩ := Tx.pure_ok_iff.mp hfound
    obtain rfl := Option.some.inj hkey
    obtain ⟨keys, hkeys, hmem, hkid⟩ := searchKey_some hsearched
    have hkeySet : KeySet s call uri jwks := by
      rcases hset with ⟨-, hhit⟩ | hreply
      · exact .inl hhit
      · exact .inr (.inl hreply)
    exact ⟨uri, jwks, keys, huri, hkeySet, hkeys, hmem, hkid⟩
  | none =>
    obtain ⟨again, m'', hagain, hsearch'⟩ := unlessNone_some_iff.mp hfound
    obtain ⟨uri', huri', hset'⟩ := fetchJwks_some hagain
    obtain ⟨hrefreshed, -⟩ := Tx.ofExcept_ok_iff.mp hsearch'
    obtain ⟨keys, hkeys, hmem, hkid⟩ := searchKey_some hrefreshed
    rcases hset' with ⟨hforce, -⟩ | hreply
    · cases hforce
    · exact ⟨uri', again, keys, huri', .inr (.inr hreply), hkeys, hmem, hkid⟩

/-- The discovery document of the call, from the cache or the network. -/
def discoveryUsed (cfg : IdcsConfig) (caches : Caches) (call : Call) : Option Json :=
  (caches.oidcDiscovery.fetch cfg.idcsDomainUrl
    (cfg.idcsDomainUrl ++ "/.well-known/openid-configuration") call.discovery false).1

/-- The checks that the code makes of every token, `kid`, `aud` and `exp` being
compared as far as they are there. -/
structure Checked (jose : Jose) (cfg : IdcsConfig) (caches : Caches) (call : Call)
    (discovery header : Obj) (alg : String) (keyData key claims : Obj) : Prop where
  discovery_used : discoveryUsed cfg caches call = some (.obj discovery)
  jwksUri_truthy : (discovery.get "jwks_uri").truthy = true
  issuer_truthy : (discovery.get "issuer").truthy = true
  header_read : jose.header call.idToken = some header
  alg_supported : supportedAlg (header.getD "alg" (.str "RS256")) = some alg
  key_found : ∃ t, findKey (discovery.get "jwks_uri") (header.get "kid") call
    (fetchOidcDiscovery cfg.idcsDomainUrl call.discovery caches).2 = (.ok (some keyData), t)
  key_nonempty : keyData.isEmpty = false
  key_built : jose.construct keyData = .ok key
  decoded : jose.decode call.decodedAt call.idToken key alg call.expectedAudience
    (discovery.get "issuer") = .ok claims
  nonce_expected : call.expectedNonce ≠ ""
  nonce_equal : claims.get "nonce" = .str call.expectedNonce

section Accepted

variable {jose : Jose} {cfg : IdcsConfig} {caches : Caches} {call : Call}
  {discovery header keyData key claims : Obj} {alg : String}

/-- Each stage of a call that returns claims has gone well. -/
theorem checked_of_verified (h : (verifyIdToken jose cfg call caches).1 = .ok (some claims)) :
    ∃ discovery header alg keyData key,
      Checked jose cfg caches call discovery header alg keyData key claims := by
  have hrun : verifyIdToken jose cfg call caches =
      (.ok (some claims), (verifyIdToken jose cfg call caches).2) := Prod.ext h rfl
  obtain ⟨doc, m, hdoc, hread⟩ := unlessNone_some_iff.mp hrun
  obtain ⟨discovery, m', hobj, hends⟩ := Tx.bind_ok_iff.mp hread
  obtain ⟨hdict, rfl⟩ := Tx.ofExcept_ok_iff.mp hobj
  obtain rfl := Json.asDict_ok_iff.mp hdict
  split at hends
  · cases hends
  · rename_i hendpoints
    obtain ⟨huri, hissuer⟩ : (discovery.get "jwks_uri").truthy = true ∧
        (discovery.get "issuer").truthy = true := by simpa using hendpoints
    obtain ⟨header, m₁, hheader', hafterHeader⟩ := unlessNone_some_iff.mp hends
    obtain ⟨hheader, rfl⟩ := Tx.pure_ok_iff.mp hheader'
    obtain ⟨alg, m₂, halg', hafterAlg⟩ := unlessNone_some_iff.mp hafterHeader
    obtain ⟨halg, rfl⟩ := Tx.pure_ok_iff.mp halg'
    obtain ⟨keyData, m₃, hfound, hafterKey⟩ := unlessNone_some_iff.mp hafterAlg
    split at hafterKey
    · cases hafterKey
    · rename_i hnonempty
      obtain ⟨key, m₄, hbuilt', hafterBuild⟩ := Tx.bind_ok_iff.mp hafterKey
      obtain ⟨hbuilt, rfl⟩ := Tx.ofExcept_ok_iff.mp hbuilt'
      obtain ⟨claims', m₅, hdecoded', hlast⟩ := unlessNone_some_iff.mp hafterBuild
      obtain ⟨hdecoded, rfl⟩ := decodeWith_some_iff.mp hdecoded'
      obtain ⟨hnonce', -⟩ := Tx.pure_ok_iff.mp hlast
      obtain ⟨rfl, hexpected, hequal⟩ := checkNonce_eq_some_iff.mp hnonce'
      have hm : (fetchOidcDiscovery cfg.idcsDomainUrl call.discovery caches).2 = m₂ := by
        rw [hdoc]
      exact ⟨discovery, header, alg, keyData, key,
        { discovery_used := Except.ok.inj (congrArg Prod.fst hdoc)
          jwksUri_truthy := huri
          issuer_truthy := hissuer
          header_read := hheader
          alg_supported := halg
          key_found := ⟨_, hm ▸ hfound⟩
          key_nonempty := Bool.eq_false_of_not_eq_true hnonempty
          key_built := hbuilt
          decoded := hdecoded
          nonce_expected := hexpected
          nonce_equal := hequal }⟩

theorem Checked.returned
    (h : Checked jose cfg caches call discovery header alg keyData key claims) :
    (verifyIdToken jose cfg call caches).1 = .ok (some claims) := by
  obtain ⟨t, hfound⟩ := h.key_found
  have hdoc : fetchOidcDiscovery cfg.idcsDomainUrl call.discovery caches =
      (.ok (some (.obj discovery)),
        (fetchOidcDiscovery cfg.idcsDomainUrl call.discovery caches).2) :=
    Prod.ext (congrArg Except.ok h.discovery_used) rfl
  have hrun : verifyIdToken jose cfg call caches = (.ok (some claims), t) := by
    refine unlessNone_some_iff.mpr ⟨_, _, hdoc, ?_⟩
    refine Tx.bind_ok_iff.mpr ⟨discovery, _, Tx.ofExcept_ok_iff.mpr ⟨rfl, rfl⟩, ?_⟩
    simp only [h.jwksUri_truthy, h.issuer_truthy, Bool.not_true, Bool.or_self,
      Bool.false_eq_true, if_false]
    refine unlessNone_some_iff.mpr ⟨header, _, Tx.pure_ok_iff.mpr ⟨h.header_read, rfl⟩, ?_⟩
    refine unlessNone_some_iff.mpr ⟨alg, _, Tx.pure_ok_iff.mpr ⟨h.alg_supported, rfl⟩, ?_⟩
    refine unlessNone_some_iff.mpr ⟨keyData, t, hfound, ?_⟩
    simp only [h.key_nonempty, Bool.false_eq_true, if_false]
    refine Tx.bind_ok_iff.mpr ⟨key, t, Tx.ofExcept_ok_iff.mpr ⟨h.key_built, rfl⟩, ?_⟩
    refine unlessNone_some_iff.mpr ⟨claims, t, decodeWith_some_iff.mpr ⟨h.decoded, rfl⟩, ?_⟩
    have hnonce : checkNonce call.expectedNonce claims = some claims :=
      checkNonce_eq_some_iff.mpr ⟨rfl, h.nonce_expected, h.nonce_equal⟩
    exact Tx.pure_ok_iff.mpr ⟨hnonce, rfl⟩
  rw [hrun]

theorem verifyIdToken_some_iff :
    (verifyIdToken jose cfg call caches).1 = .ok (some claims) ↔
      ∃ discovery header alg keyData key,
        Checked jose cfg caches call discovery header alg keyData key claims := by
  constructor
  · exact checked_of_verified
  · rintro ⟨discovery, header, alg, keyData, key, h⟩
    exact h.returned

mutual

def arrDepth : Json → Nat
  | .arr xs => arrDepths xs + 1
  | _ => 0

def arrDepths : List Json → Nat
  | [] => 0
  | x :: xs => max (arrDepth x) (arrDepths xs)

end

theorem arrDepth_le {x : Json} {xs : List Json} (h : x ∈ xs) : arrDepth x ≤ arrDepths xs := by
  induction xs with
  | nil => cases h
  | cons y ys ih =>
    rw [arrDepths]
    rcases List.mem_cons.mp h with rfl | hrest
    · exact le_max_left _ _
    · exact (ih hrest).trans (le_max_right _ _)

mutual

theorem arrDepth_eq : ∀ {a b : Json}, a.pyEq b = true → arrDepth a = arrDepth b
  | .arr xs, b, h => by
    cases b with
    | arr ys =>
      have hdepths : arrDepths xs = arrDepths ys := arrDepths_eq h
      rw [arrDepth, arrDepth, hdepths]
    | _ => cases h
  | .null, b, h => by
    cases b <;> first | rfl | cases h
  | .bool x, b, h => by
    cases b <;> first | rfl | cases h
  | .int x, b, h => by
    cases b <;> first | rfl | cases h
  | .float x, b, h => by
    cases b <;> first | rfl | cases h
  | .str x, b, h => by
    cases b <;> first | rfl | cases h
  | .obj x, b, h => by
    cases b <;> first | rfl | cases h

theorem arrDepths_eq :
    ∀ {xs ys : List Json}, Json.pyEqList xs ys = true → arrDepths xs = arrDepths ys
  | [], ys, h => by
    cases ys with
    | nil => rfl
    | cons y ys => cases h
  | x :: xs, ys, h => by
    cases ys with
    | nil => cases h
    | cons y ys =>
      obtain ⟨hhead, htail⟩ := Bool.and_eq_true_iff.mp h
      rw [arrDepths, arrDepths, arrDepth_eq hhead, arrDepths_eq htail]

end

/-- A value is among the issuers of a string alone when it equals it. -/
theorem isAmong_issuer_iff {iss issuer : Json} (h : isAmong iss issuer = .ok true) :
    iss = issuer ↔ ∃ name, issuer = .str name := by
  cases issuer with
  | str name =>
    have hequal : iss.pyEq (.str name) = true := Except.ok.inj h
    exact ⟨fun _ => ⟨name, rfl⟩, fun _ => Json.pyEq_str_iff.mp hequal⟩
  | arr issuers =>
    have hany : issuers.any iss.pyEq = true := Except.ok.inj h
    obtain ⟨x, hx, hequal⟩ := List.any_eq_true.mp hany
    constructor
    · rintro rfl
      have hdepth := arrDepth_eq hequal
      have hle := arrDepth_le hx
      rw [arrDepth] at hdepth
      omega
    · rintro ⟨name, hname⟩
      cases hname
  | obj fields =>
    constructor
    · rintro rfl
      cases h
    · rintro ⟨name, hname⟩
      cases hname
  | _ => cases h

end Accepted

/-- One use of a fetch function, by whatever call of the process. -/
inductive FetchStep where
  | discovery (issuerBase : String) (fetch : Fetch)
  | jwks (uri : String) (fetch : Fetch) (forceRefresh : Bool)

def FetchStep.run (caches : Caches) : FetchStep → Caches
  | .discovery issuerBase fetch => (fetchOidcDiscovery issuerBase fetch caches).2
  | .jwks uri fetch forceRefresh => (fetchJwks (.str uri) fetch forceRefresh caches).2

/-- The caches after any sequence of fetches. -/
def after (history : List FetchStep) : Caches := history.foldl FetchStep.run Caches.started

/-- The document was fetched under this key at this time. -/
inductive FetchStep.Stores : FetchStep → String → ℚ → Json → Prop where
  | jwks {uri : String} {fetch : Fetch} {forceRefresh : Bool} {doc : Json} :
      fetch.reply uri = some doc → Stores (.jwks uri fetch forceRefresh) uri fetch.answeredAt doc

inductive FetchStep.StoresDiscovery : FetchStep → String → ℚ → Json → Prop where
  | discovery {issuerBase : String} {fetch : Fetch} {doc : Json} :
      fetch.reply (issuerBase ++ "/.well-known/openid-configuration") = some doc →
      StoresDiscovery (.discovery issuerBase fetch) issuerBase fetch.answeredAt doc

/-- An entry after a fetch was there before, or is what was fetched. -/
theorem Cache.fetch_entry {cache : Cache} {key url key' : String} {fetch : Fetch} {force : Bool}
    {storedAt : ℚ} {doc : Json}
    (h : (cache.fetch key url fetch force).2 key' = some (storedAt, doc)) :
    cache key' = some (storedAt, doc) ∨
      key' = key ∧ storedAt = fetch.answeredAt ∧ fetch.reply url = some doc := by
  unfold Cache.fetch at h
  split at h
  · exact .inl h
  · split at h
    · rename_i doc' hreply
      by_cases hkey : key' = key
      · subst hkey
        simp only [Function.update_self] at h
        obtain ⟨rfl, rfl⟩ := Prod.mk.inj (Option.some.inj h)
        exact .inr ⟨rfl, rfl, hreply⟩
      · simp only [Function.update_of_ne hkey] at h
        exact .inl h
    · exact .inl h

theorem after_concat (history : List FetchStep) (step : FetchStep) :
    after (history ++ [step]) = step.run (after history) := by
  simp [after, List.foldl_append]

/-- What each step stores is all that a cache holds. -/
theorem stored_by_steps {cache : Caches → Cache} {stores : FetchStep → String → ℚ → Json → Prop}
    (start : ∀ key, cache Caches.started key = none)
    (step : ∀ {caches : Caches} {step : FetchStep} {key : String} {storedAt : ℚ} {doc : Json},
      cache (step.run caches) key = some (storedAt, doc) →
        cache caches key = some (storedAt, doc) ∨ stores step key storedAt doc)
    {history : List FetchStep} {key : String} {storedAt : ℚ} {doc : Json}
    (h : cache (after history) key = some (storedAt, doc)) :
    ∃ step ∈ history, stores step key storedAt doc := by
  induction history using List.reverseRecOn with
  | nil =>
    rw [after, List.foldl_nil, start] at h
    cases h
  | append_singleton history last ih =>
    rw [after_concat] at h
    rcases step h with hbefore | hstores
    · obtain ⟨earlier, hearlier, hstores⟩ := ih hbefore
      exact ⟨earlier, List.mem_append_left _ hearlier, hstores⟩
    · exact ⟨last, List.mem_append_right _ List.mem_cons_self, hstores⟩

theorem step_jwks {caches : Caches} {step : FetchStep} {uri : String} {storedAt : ℚ} {doc : Json}
    (h : (step.run caches).jwks uri = some (storedAt, doc)) :
    caches.jwks uri = some (storedAt, doc) ∨ step.Stores uri storedAt doc := by
  cases step with
  | discovery issuerBase fetch => exact .inl h
  | jwks uri' fetch force =>
    rcases Cache.fetch_entry h with hbefore | ⟨rfl, rfl, hreply⟩
    · exact .inl hbefore
    · exact .inr (.jwks hreply)

theorem step_discovery {caches : Caches} {step : FetchStep} {issuerBase : String} {storedAt : ℚ}
    {doc : Json} (h : (step.run caches).oidcDiscovery issuerBase = some (storedAt, doc)) :
    caches.oidcDiscovery issuerBase = some (storedAt, doc) ∨
      step.StoresDiscovery issuerBase storedAt doc := by
  cases step with
  | discovery issuerBase' fetch =>
    rcases Cache.fetch_entry h with hbefore | ⟨rfl, rfl, hreply⟩
    · exact .inl hbefore
    · exact .inr (.discovery hreply)
  | jwks uri fetch force => exact .inl h

/-- Every key set in the cache was served by its URL. -/
theorem jwks_stored {history : List FetchStep} {uri : String} {storedAt : ℚ} {jwks : Json}
    (h : (after history).jwks uri = some (storedAt, jwks)) :
    ∃ step ∈ history, step.Stores uri storedAt jwks :=
  stored_by_steps (fun _ => rfl) step_jwks h

theorem discovery_stored {history : List FetchStep} {issuerBase : String} {storedAt : ℚ}
    {doc : Json} (h : (after history).oidcDiscovery issuerBase = some (storedAt, doc)) :
    ∃ step ∈ history, step.StoresDiscovery issuerBase storedAt doc :=
  stored_by_steps (fun _ => rfl) step_discovery h

theorem Cache.hit_some {cache : Cache} {key : String} {now : ℚ} {doc : Json}
    (h : cache.hit key now = some doc) :
    ∃ storedAt, cache key = some (storedAt, doc) ∧ now - storedAt < oidcCacheTtl := by
  unfold Cache.hit at h
  split at h
  · rename_i storedAt doc' hentry
    split at h
    · rename_i hyoung
      obtain rfl := Option.some.inj h
      exact ⟨storedAt, hentry, hyoung⟩
    · cases h
  · cases h

/-- A key set of the issuer: served during the call, or at most an hour before. -/
def IssuerKeys (history : List FetchStep) (call : Call) (uri : String) (jwks : Json) : Prop :=
  (∃ step ∈ history, ∃ storedAt, step.Stores uri storedAt jwks ∧
      call.keys.askedAt - storedAt < oidcCacheTtl) ∨
    call.keys.reply uri = some jwks ∨ call.refreshed.reply uri = some jwks

/-- The discovery document: served during the call, or at most an hour before. -/
def IssuerDiscovery (history : List FetchStep) (cfg : IdcsConfig) (call : Call) (doc : Json) :
    Prop :=
  (∃ step ∈ history, ∃ storedAt, step.StoresDiscovery cfg.idcsDomainUrl storedAt doc ∧
      call.discovery.askedAt - storedAt < oidcCacheTtl) ∨
    call.discovery.reply (cfg.idcsDomainUrl ++ "/.well-known/openid-configuration") = some doc

theorem issuerKeys_of_keySet {history : List FetchStep} {call : Call} {uri : String} {jwks : Json}
    (h : KeySet (after history) call uri jwks) : IssuerKeys history call uri jwks := by
  rcases h with hhit | hreply
  · obtain ⟨storedAt, hentry, hyoung⟩ := Cache.hit_some hhit
    obtain ⟨step, hstep, hstores⟩ := jwks_stored hentry
    exact .inl ⟨step, hstep, storedAt, hstores, hyoung⟩
  · exact .inr hreply

theorem issuerDiscovery_of_used {history : List FetchStep} {cfg : IdcsConfig} {call : Call}
    {doc : Json} (h : discoveryUsed cfg (after history) call = some doc) :
    IssuerDiscovery history cfg call doc := by
  rcases Cache.fetch_some h with ⟨-, hhit⟩ | hreply
  · obtain ⟨storedAt, hentry, hyoung⟩ := Cache.hit_some hhit
    obtain ⟨step, hstep, hstores⟩ := discovery_stored hentry
    exact .inl ⟨step, hstep, storedAt, hstores, hyoung⟩
  · exact .inr hreply

/-- Everything that the documentation of the function promises of claims that it
returns. -/
structure Verified (jose : Jose) (cfg : IdcsConfig) (history : List FetchStep) (call : Call)
    (discovery header : Obj) (alg : String) (keyData key claims : Obj) : Prop where
  discovery_used : discoveryUsed cfg (after history) call = some (.obj discovery)
  discovery_served : IssuerDiscovery history cfg call (.obj discovery)
  header_read : jose.header call.idToken = some header
  kid_present : header.get "kid" ≠ .null
  kid_names : (keyData.get "kid").pyEq (header.get "kid") = true
  key_of_issuer : ∃ uri jwks keys, discovery.get "jwks_uri" = .str uri ∧
    IssuerKeys history call uri jwks ∧ keysOf jwks = .ok keys ∧ .obj keyData ∈ keys
  alg_read : header.get "alg" = .str alg
  alg_supported : alg ∈ supportedAlgorithms
  key_built : jose.construct keyData = .ok key
  signature : jose.payload call.idToken key alg = some claims
  iss_equal : claims.get "iss" = discovery.get "issuer"
  aud_contains : ∃ aud names, List.lookup "aud" claims = some aud ∧ audiences aud = some names ∧
    call.expectedAudience ∈ names
  exp_future : ∃ v, ∃ exp : Int, List.lookup "exp" claims = some v ∧
    v.toInt jose.py = .ok exp ∧ call.decodedAt < exp
  nonce_expected : call.expectedNonce ≠ ""
  nonce_equal : claims.get "nonce" = .str call.expectedNonce

/-- What the token and the discovery document have to carry for the checks to be made. -/
structure Carries (discovery header claims : Obj) : Prop where
  kid : header.get "kid" ≠ .null
  aud : (List.lookup "aud" claims).isSome = true
  exp : (List.lookup "exp" claims).isSome = true
  issuer : ∃ name, discovery.get "issuer" = .str name

section Complete

variable {jose : Jose} {cfg : IdcsConfig} {history : List FetchStep} {call : Call}
  {discovery header keyData key claims : Obj} {alg : String}

theorem Checked.verified
    (h : Checked jose cfg (after history) call discovery header alg keyData key claims)
    (carries : Carries discovery header claims) :
    Verified jose cfg history call discovery header alg keyData key claims := by
  have hpayload := jose.decode_payload h.decoded
  have hamong := jose.decode_iss h.decoded
  obtain ⟨t, hfound⟩ := h.key_found
  obtain ⟨uri, jwks, keys, huri, hset, hkeys, hmem, hkid⟩ := findKey_some hfound
  obtain ⟨aud, hhasAud⟩ := Option.isSome_iff_exists.mp carries.aud
  obtain ⟨names, hnames, hclient⟩ := jose.decode_aud h.decoded aud hhasAud
  obtain ⟨v, hhasExp⟩ := Option.isSome_iff_exists.mp carries.exp
  obtain ⟨exp, hint, hfuture⟩ := jose.decode_exp h.decoded v hhasExp
  obtain ⟨fields, hfields, halg⟩ := jose.payload_alg hpayload
  obtain rfl : header = fields := Option.some.inj (h.header_read.symm.trans hfields)
  exact {
    discovery_used := h.discovery_used
    discovery_served := issuerDiscovery_of_used h.discovery_used
    header_read := h.header_read
    kid_present := carries.kid
    kid_names := hkid
    key_of_issuer := ⟨uri, jwks, keys, huri, issuerKeys_of_keySet hset, hkeys, hmem⟩
    alg_read := halg
    alg_supported := (supportedAlg_eq_some_iff.mp h.alg_supported).2
    key_built := h.key_built
    signature := hpayload
    iss_equal := (isAmong_issuer_iff hamong).mpr carries.issuer
    aud_contains := ⟨aud, names, hhasAud, hnames, hclient⟩
    exp_future := ⟨v, exp, hhasExp, hint, hfuture⟩
    nonce_expected := h.nonce_expected
    nonce_equal := h.nonce_equal }

/-- Verified claims stand in a token that carries them. -/
theorem Checked.carries
    (h : Checked jose cfg (after history) call discovery header alg keyData key claims)
    {discovery' header' keyData' key' : Obj} {alg' : String}
    (verified : Verified jose cfg history call discovery' header' alg' keyData' key' claims) :
    Carries discovery header claims := by
  obtain rfl : header = header' :=
    Option.some.inj (h.header_read.symm.trans verified.header_read)
  obtain rfl : discovery = discovery' :=
    Json.obj.inj (Option.some.inj (h.discovery_used.symm.trans verified.discovery_used))
  obtain ⟨aud, -, haud, -⟩ := verified.aud_contains
  obtain ⟨v, -, hexp, -⟩ := verified.exp_future
  exact {
    kid := verified.kid_present
    aud := Option.isSome_iff_exists.mpr ⟨aud, haud⟩
    exp := Option.isSome_iff_exists.mpr ⟨v, hexp⟩
    issuer := (isAmong_issuer_iff (jose.decode_iss h.decoded)).mp verified.iss_equal }

end Complete

/-- Returned claims have passed all documented checks exactly where every token that
passes the checks that are made carries `kid`, `aud` and `exp`, for an issuer that is
a string. -/
theorem acceptance_complete_iff (jose : Jose) (cfg : IdcsConfig) (history : List FetchStep)
    (call : Call) :
    (∀ claims, (verifyIdToken jose cfg call (after history)).1 = .ok (some claims) →
      ∃ discovery header alg keyData key,
        Verified jose cfg history call discovery header alg keyData key claims) ↔
    ∀ discovery header alg keyData key claims,
      Checked jose cfg (after history) call discovery header alg keyData key claims →
        Carries discovery header claims := by
  constructor
  · intro complete discovery header alg keyData key claims checked
    have haccepted := verifyIdToken_some_iff.mpr ⟨discovery, header, alg, keyData, key, checked⟩
    obtain ⟨discovery', header', alg', keyData', key', verified⟩ := complete claims haccepted
    exact checked.carries verified
  · intro carries claims haccepted
    obtain ⟨discovery, header, alg, keyData, key, checked⟩ := verifyIdToken_some_iff.mp haccepted
    exact ⟨discovery, header, alg, keyData, key,
      checked.verified (carries discovery header alg keyData key claims checked)⟩

def sampleHeader : Obj := [("alg", .str "RS256"), ("kid", .str "k1")]

def sampleClaims : Obj := [("iss", .str "https://idcs.example.com"), ("nonce", .str "n")]

section Decoding
variable (py : Builtins) (now : ℚ) (audience : String) (issuer : Json) (claims : Obj)

/-- The checks of `jwt.decode` that the assumptions are about. -/
def verifyExp : Except JoseExc Unit :=
  match List.lookup "exp" claims with
  | none => .ok ⟨⟩
  | some exp => match exp.toInt py with
    | .error .valueError => .error .jwtClaims
    | .error exc => .error (.other exc)
    | .ok exp => if now < exp then .ok ⟨⟩ else .error .expiredSignature

def verifyAud : Except JoseExc Unit :=
  match List.lookup "aud" claims with
  | none => .ok ⟨⟩
  | some aud => match audiences aud with
    | none => .error .jwtClaims
    | some names => if audience ∈ names then .ok ⟨⟩ else .error .jwtClaims

def verifyIss : Except JoseExc Unit :=
  match isAmong (claims.get "iss") issuer with
  | .error exc => .error (.other exc)
  | .ok true => .ok ⟨⟩
  | .ok false => .error .jwtClaims

def verifyClaims : Except JoseExc Obj := do
  verifyExp py now claims
  verifyAud audience claims
  verifyIss issuer claims
  return claims

variable {py now audience issuer claims}

theorem verifyExp_ok (h : verifyExp py now claims = .ok ⟨⟩) : Unexpired py now claims := by
  intro v hexp
  simp only [verifyExp, hexp] at h
  cases hint : v.toInt py with
  | error exc =>
    rw [hint] at h
    cases exc <;> cases h
  | ok exp =>
    simp only [hint] at h
    split at h
    · rename_i hunexpired
      exact ⟨exp, rfl, hunexpired⟩
    · cases h

theorem verifyAud_ok (h : verifyAud audience claims = .ok ⟨⟩) : NamesAudience audience claims := by
  intro aud haud
  simp only [verifyAud, haud] at h
  cases hnames : audiences aud with
  | none =>
    rw [hnames] at h
    cases h
  | some names =>
    simp only [hnames] at h
    split at h
    · rename_i hmem
      exact ⟨names, rfl, hmem⟩
    · cases h

theorem verifyIss_ok (h : verifyIss issuer claims = .ok ⟨⟩) :
    isAmong (claims.get "iss") issuer = .ok true := by
  unfold verifyIss at h
  cases hamong : isAmong (claims.get "iss") issuer with
  | error exc =>
    rw [hamong] at h
    cases h
  | ok among =>
    rw [hamong] at h
    cases among
    · cases h
    · rfl

theorem verifyClaims_ok {claims' : Obj}
    (h : verifyClaims py now audience issuer claims = .ok claims') :
    claims' = claims ∧ Unexpired py now claims ∧ NamesAudience audience claims ∧
      isAmong (claims.get "iss") issuer = .ok true := by
  obtain ⟨_, hexp, h₁⟩ := bind_ok_iff.mp h
  obtain ⟨_, haud, h₂⟩ := bind_ok_iff.mp h₁
  obtain ⟨_, hiss, h₃⟩ := bind_ok_iff.mp h₂
  exact ⟨(Except.ok.inj h₃).symm, verifyExp_ok hexp, verifyAud_ok haud, verifyIss_ok hiss⟩

end Decoding

section Signed
variable (py : Builtins) (header : String → Option Obj)
  (payload : String → Obj → String → Option Obj)

def signedClaims (now : ℚ) (token : String) (key : Obj) (alg audience : String) (issuer : Json) :
    Except JoseExc Obj :=
  match payload token key alg with
  | none => .error .jwt
  | some claims => verifyClaims py now audience issuer claims

variable {py header payload}

theorem signedClaims_ok {now : ℚ} {token : String} {key claims : Obj} {alg audience : String}
    {issuer : Json} (h : signedClaims py payload now token key alg audience issuer = .ok claims) :
    payload token key alg = some claims ∧ Unexpired py now claims ∧
      NamesAudience audience claims ∧ isAmong (claims.get "iss") issuer = .ok true := by
  unfold signedClaims at h
  split at h
  · cases h
  · next claims' hpayload =>
    obtain ⟨rfl, hchecks⟩ := verifyClaims_ok h
    exact ⟨hpayload, hchecks⟩

/-- A library with these headers and signatures. -/
def Jose.signed (py : Builtins) (header : String → Option Obj)
    (payload : String → Obj → String → Option Obj)
    (payload_alg : ∀ {token key alg claims}, payload token key alg = some claims →
      ∃ fields, header token = some fields ∧ fields.get "alg" = .str alg) : Jose where
  py := py
  header := header
  construct key := .ok key
  payload := payload
  decode := signedClaims py payload
  payload_alg := payload_alg
  decode_payload h := (signedClaims_ok h).1
  decode_exp h := (signedClaims_ok h).2.1
  decode_aud h := (signedClaims_ok h).2.2.1
  decode_iss h := (signedClaims_ok h).2.2.2

end Signed

def samplePayload (alg : String) : Option Obj := if alg = "RS256" then some sampleClaims else none

theorem samplePayload_alg {alg : String} {claims : Obj} (h : samplePayload alg = some claims) :
    ∃ fields : Obj, some sampleHeader = some fields ∧ fields.get "alg" = .str alg := by
  unfold samplePayload at h
  split at h
  · next halg => exact ⟨sampleHeader, rfl, congrArg Json.str halg.symm⟩
  · cases h

/-- Every token has the sample header and claims, and every signature holds. -/
def sampleJose : Jose :=
  .signed (asciiBuiltins id) (fun _ => some sampleHeader) (fun _ _ => samplePayload)
    samplePayload_alg

def sampleKey : Obj := [("kid", .str "k1"), ("kty", .str "RSA")]

def sampleDiscovery : Obj :=
  [("issuer", .str "https://idcs.example.com"), ("jwks_uri", .str "https://idcs.example.com/keys")]

def sampleFetch (doc : Json) : Fetch := ⟨0, fun _ => some doc, 0⟩

def sampleCall : Call where
  idToken := "token"
  expectedNonce := "n"
  expectedAudience := "crm"
  discovery := sampleFetch (.obj sampleDiscovery)
  keys := sampleFetch (.obj [("keys", .arr [.obj sampleKey])])
  refreshed := sampleFetch .null
  decodedAt := 0

def sampleConfig : IdcsConfig := ⟨"https://idcs.example.com"⟩

/-- A signed token that never expires and names no audience is accepted. -/
theorem unlimited_token_accepted :
    (verifyIdToken sampleJose sampleConfig sampleCall (after [])).1 = .ok (some sampleClaims) ∧
    ¬ ∀ claims, (verifyIdToken sampleJose sampleConfig sampleCall (after [])).1 =
      .ok (some claims) →
      ∃ discovery header alg keyData key,
        Verified sampleJose sampleConfig [] sampleCall discovery header alg keyData key claims := by
  have haccepted : (verifyIdToken sampleJose sampleConfig sampleCall (after [])).1 =
      .ok (some sampleClaims) := rfl
  refine ⟨haccepted, fun complete => ?_⟩
  obtain ⟨_, _, _, _, _, verified⟩ := complete sampleClaims haccepted
  obtain ⟨v, exp, hexp, -⟩ := verified.exp_future
  cases hexp

end IdToken

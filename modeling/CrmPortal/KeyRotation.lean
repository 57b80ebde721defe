import CrmPortal.IdToken

/-!
# Rotation of the signing keys

The identity domain replaces its keys now and then. The portal keeps a key set for an
hour, and fetches it anew when a token names a key that is not in it. So a key is known
from the moment it is published, and for less than an hour after it has been withdrawn.
-/

namespace KeyRotation

open PyValue Transaction
open IdToken hiding sampleFetch

/-- The keys that an identity domain publishes over time, in the document that serves them. -/
structure Issuer where
  published : ℚ → List Obj
  document : ℚ → Json
  keys_read : ∀ t, keysOf (document t) = .ok ((published t).map .obj)

def Named (kid : Json) (key : Obj) : Prop := (key.get "kid").pyEq kid = true

/-- The first key of this name among those published at a time. -/
def Issuer.find (issuer : Issuer) (kid : Json) (t : ℚ) : Option Obj :=
  (issuer.published t).find? fun key => (key.get "kid").pyEq kid

/-- A fetch gets what is published when its answer comes, or nothing. -/
def Issuer.Serves (issuer : Issuer) (uri : String) (fetch : Fetch) : Prop :=
  ∀ doc, fetch.reply uri = some doc → doc = issuer.document fetch.answeredAt

def Issuer.ServesStep (issuer : Issuer) (uri : String) : FetchStep → Prop
  | .discovery _ _ => True
  | .jwks uri' fetch _ => uri' = uri → issuer.Serves uri fetch

section Search
variable {issuer : Issuer} {uri : String} {kid : Json} {call : Call} {history : List FetchStep}

theorem keyNamed_objects (kid : Json) (keys : List Obj) :
    keyNamed kid (keys.map .obj) = .ok (keys.find? fun key => (key.get "kid").pyEq kid) := by
  induction keys with
  | nil => rfl
  | cons key rest ih =>
    rw [List.map_cons, keyNamed, List.find?_cons]
    change (if (key.get "kid").pyEq kid = true then Except.ok (some key)
      else keyNamed kid (rest.map .obj)) = _
    rw [ih]
    rcases (key.get "kid").pyEq kid with _ | _ <;> rfl

theorem searchKey_document (issuer : Issuer) (kid : Json) (t : ℚ) :
    searchKey kid (issuer.document t) = .ok (issuer.find kid t) := by
  unfold searchKey
  rw [issuer.keys_read t]
  exact keyNamed_objects kid (issuer.published t)

theorem find_some {t : ℚ} {key : Obj} (h : issuer.find kid t = some key) :
    key ∈ issuer.published t ∧ Named kid key := by
  unfold Issuer.find at h
  have hnamed := List.find?_some h
  exact ⟨List.mem_of_find?_eq_some h, hnamed⟩

theorem find_none_iff {t : ℚ} :
    issuer.find kid t = none ↔ ∀ key ∈ issuer.published t, ¬ Named kid key := by
  unfold Issuer.find Named
  rw [List.find?_eq_none]

/-- A set that is in the cache was published less than an hour before its use. -/
theorem hit_published (hserved : ∀ step ∈ history, issuer.ServesStep uri step) {now : ℚ}
    {doc : Json} (h : (after history).jwks.hit uri now = some doc) :
    ∃ t, doc = issuer.document t ∧ now - t < oidcCacheTtl := by
  obtain ⟨storedAt, hentry, hyoung⟩ := Cache.hit_some h
  obtain ⟨step, hstep, hstores⟩ := jwks_stored hentry
  have hserves := hserved step hstep
  cases hstores with
  | jwks hreply => exact ⟨_, hserves rfl doc hreply, hyoung⟩

/-- The first set that a call looks at. -/
theorem first_set (hserved : ∀ step ∈ history, issuer.ServesStep uri step)
    (hkeys : issuer.Serves uri call.keys) {doc : Json} {caches : Caches}
    (h : fetchJwks (.str uri) call.keys false (after history) = (.ok (some doc), caches)) :
    ∃ t, doc = issuer.document t ∧
      (call.keys.askedAt - t < oidcCacheTtl ∨ t = call.keys.answeredAt) := by
  obtain ⟨uri', huri, hset⟩ := fetchJwks_some h
  obtain rfl := Json.str.inj huri
  rcases hset with ⟨-, hhit⟩ | hreply
  · obtain ⟨t, hdoc, hyoung⟩ := hit_published hserved hhit
    exact ⟨t, hdoc, Or.inl hyoung⟩
  · exact ⟨call.keys.answeredAt, hkeys doc hreply, Or.inr rfl⟩

/-- The set that a call looks at, once the cache or the network gives one. -/
theorem first_fetch (h : ((after history).jwks.hit uri call.keys.askedAt).isSome ∨
    (call.keys.reply uri).isSome) :
    ∃ doc caches, fetchJwks (.str uri) call.keys false (after history) =
      (.ok (some doc), caches) := by
  have hfetch : ∃ doc cache, (after history).jwks.fetch uri uri call.keys false =
      (some doc, cache) := by
    unfold Cache.fetch
    rw [if_neg Bool.false_ne_true]
    rcases hhit : (after history).jwks.hit uri call.keys.askedAt with _ | doc
    · rw [hhit] at h
      obtain ⟨doc, hreply⟩ := Option.isSome_iff_exists.mp (h.resolve_left Bool.false_ne_true)
      exact ⟨doc, _, by rw [hreply]⟩
    · exact ⟨doc, _, rfl⟩
  obtain ⟨doc, cache, hrun⟩ := hfetch
  refine ⟨doc, { after history with jwks := cache }, ?_⟩
  unfold fetchJwks
  dsimp only
  rw [hrun]

/-- A forced fetch takes what the network gives. -/
theorem forced_fetch {doc : Json} (caches : Caches) (h : call.refreshed.reply uri = some doc) :
    ∃ refreshed, fetchJwks (.str uri) call.refreshed true caches = (.ok (some doc), refreshed) := by
  obtain ⟨cache, hfetch⟩ : ∃ cache, caches.jwks.fetch uri uri call.refreshed true =
      (some doc, cache) := by
    unfold Cache.fetch
    rw [if_pos rfl]
    exact ⟨_, by rw [h]⟩
  refine ⟨{ caches with jwks := cache }, ?_⟩
  unfold fetchJwks
  dsimp only
  rw [hfetch]

/-- Whatever the cache holds, a key that is published when the call is made is found, as
long as its name is not used for another. -/
theorem published_key_found {key : Obj} (hserved : ∀ step ∈ history, issuer.ServesStep uri step)
    (hkeys : issuer.Serves uri call.keys)
    (hfirst : ((after history).jwks.hit uri call.keys.askedAt).isSome ∨
      (call.keys.reply uri).isSome)
    (hrefresh : call.refreshed.reply uri = some (issuer.document call.refreshed.answeredAt))
    (hkey : key ∈ issuer.published call.refreshed.answeredAt) (hnamed : Named kid key)
    (hunique : ∀ t, ∀ other ∈ issuer.published t, Named kid other → other = key) :
    (findKey (.str uri) kid call (after history)).1 = .ok (some key) := by
  have hfound : ∀ t other, issuer.find kid t = some other → other = key := by
    intro t other h
    obtain ⟨hmem, hother⟩ := find_some h
    exact hunique t other hmem hother
  obtain ⟨doc, caches, hfetch⟩ := first_fetch hfirst
  obtain ⟨t, rfl, -⟩ := first_set hserved hkeys hfetch
  have hrun : ∃ caches',
      findKey (.str uri) kid call (after history) = (.ok (some key), caches') := by
    rcases hsearch : issuer.find kid t with _ | other
    · -- the set is an old one, and the search goes on in a fresh one
      obtain ⟨refreshed, hforced⟩ := forced_fetch caches hrefresh
      have hnow : issuer.find kid call.refreshed.answeredAt ≠ none := by
        rw [Ne, find_none_iff]
        exact fun h => h key hkey hnamed
      obtain ⟨other, hother⟩ := Option.ne_none_iff_exists'.mp hnow
      obtain rfl := hfound _ _ hother
      refine ⟨refreshed, unlessNone_some_iff.mpr ⟨_, _, hfetch, ?_⟩⟩
      refine Tx.bind_ok_iff.mpr ⟨none, caches, ?_, ?_⟩
      · exact Tx.ofExcept_ok_iff.mpr ⟨by rw [searchKey_document, hsearch], rfl⟩
      · refine unlessNone_some_iff.mpr ⟨_, _, hforced, ?_⟩
        exact Tx.ofExcept_ok_iff.mpr ⟨by rw [searchKey_document, hother], rfl⟩
    · obtain rfl := hfound _ _ hsearch
      refine ⟨caches, unlessNone_some_iff.mpr ⟨_, _, hfetch, ?_⟩⟩
      refine Tx.bind_ok_iff.mpr ⟨some other, caches, ?_, Tx.pure_ok_iff.mpr ⟨rfl, rfl⟩⟩
      exact Tx.ofExcept_ok_iff.mpr ⟨by rw [searchKey_document, hsearch], rfl⟩
  obtain ⟨caches', hrun⟩ := hrun
  rw [hrun]

/-- A key that has been withdrawn for an hour is found no more. -/
theorem withdrawn_key_lost {since : ℚ} (hserved : ∀ step ∈ history, issuer.ServesStep uri step)
    (hkeys : issuer.Serves uri call.keys) (hrefresh : issuer.Serves uri call.refreshed)
    (hclock : call.keys.askedAt ≤ call.keys.answeredAt)
    (hclock' : call.keys.askedAt ≤ call.refreshed.answeredAt)
    (hgone : ∀ t, since ≤ t → ∀ key ∈ issuer.published t, ¬ Named kid key)
    (hlate : since + oidcCacheTtl ≤ call.keys.askedAt) (key : Obj) (caches : Caches) :
    findKey (.str uri) kid call (after history) ≠ (.ok (some key), caches) := by
  intro hrun
  have hpositive : (0 : ℚ) < oidcCacheTtl := by norm_num [oidcCacheTtl]
  have hnot : ∀ t, since ≤ t → issuer.find kid t = none := fun t ht =>
    find_none_iff.mpr (hgone t ht)
  obtain ⟨doc, m, hfetch, hrest⟩ := unlessNone_some_iff.mp hrun
  obtain ⟨t, rfl, hyoung⟩ := first_set hserved hkeys hfetch
  have ht : since ≤ t := by
    rcases hyoung with hyoung | rfl
    · linarith
    · linarith
  obtain ⟨found, m', hsearch, hfound⟩ := Tx.bind_ok_iff.mp hrest
  obtain ⟨hsearched, rfl⟩ := Tx.ofExcept_ok_iff.mp hsearch
  rw [searchKey_document, hnot t ht] at hsearched
  obtain rfl := Except.ok.inj hsearched
  obtain ⟨again, m'', hagain, hlast⟩ := unlessNone_some_iff.mp hfound
  obtain ⟨uri', huri, hset⟩ := fetchJwks_some hagain
  obtain rfl := Json.str.inj huri
  obtain ⟨hforce, -⟩ | hreply := hset
  · cases hforce
  · obtain rfl := hrefresh again hreply
    obtain ⟨hlost, -⟩ := Tx.ofExcept_ok_iff.mp hlast
    rw [searchKey_document, hnot _ (by linarith)] at hlost
    cases hlost

end Search

/-- A token that names a key which has been withdrawn for an hour is not accepted, from
any state of the caches that the process can reach. -/
theorem withdrawn_key_refused {issuer : Issuer} {uri : String} {jose : Jose} {cfg : IdcsConfig}
    {call : Call} {history : List FetchStep} {discovery header : Obj} {since : ℚ}
    (hserved : ∀ step ∈ history, issuer.ServesStep uri step)
    (hkeys : issuer.Serves uri call.keys) (hrefresh : issuer.Serves uri call.refreshed)
    (hclock : call.keys.askedAt ≤ call.keys.answeredAt)
    (hclock' : call.keys.askedAt ≤ call.refreshed.answeredAt)
    (hdiscovery : discoveryUsed cfg (after history) call = some (.obj discovery))
    (huri : discovery.get "jwks_uri" = .str uri) (hheader : jose.header call.idToken = some header)
    (hgone : ∀ t, since ≤ t → ∀ key ∈ issuer.published t, ¬ Named (header.get "kid") key)
    (hlate : since + oidcCacheTtl ≤ call.keys.askedAt) (claims : Obj) :
    (verifyIdToken jose cfg call (after history)).1 ≠ .ok (some claims) := by
  intro haccepted
  obtain ⟨discovery', header', alg, keyData, key, hchecked⟩ := checked_of_verified haccepted
  obtain rfl : discovery' = discovery :=
    Json.obj.inj (Option.some.inj (hchecked.discovery_used.symm.trans hdiscovery))
  obtain rfl : header' = header := Option.some.inj (hchecked.header_read.symm.trans hheader)
  obtain ⟨t, hfound⟩ := hchecked.key_found
  rw [huri, ← show after (history ++ [.discovery cfg.idcsDomainUrl call.discovery]) =
    (fetchOidcDiscovery cfg.idcsDomainUrl call.discovery (after history)).2
    from after_concat history _] at hfound
  refine withdrawn_key_lost ?_ hkeys hrefresh hclock hclock' hgone hlate keyData t hfound
  intro step hstep
  rcases List.mem_append.mp hstep with hold | hnew
  · exact hserved step hold
  · obtain rfl := List.mem_singleton.mp hnew
    trivial

def oldKey : Obj := [("kid", .str "k1"), ("kty", .str "RSA")]

def newKey : Obj := [("kid", .str "k2"), ("kty", .str "RSA")]

/-- The key is replaced at 100. -/
def sampleIssuer : Issuer where
  published t := if t < 100 then [oldKey] else [newKey]
  document t := .obj [("keys", .arr ((if t < 100 then [oldKey] else [newKey]).map .obj))]
  keys_read _ := rfl

/-- A fetch of the key set that is answered at once. -/
def sampleFetch (now : ℚ) : Fetch := ⟨now, fun _ => some (sampleIssuer.document now), now⟩

theorem sampleFetch_serves (uri : String) (now : ℚ) :
    sampleIssuer.Serves uri (sampleFetch now) := by
  intro doc h
  exact (Option.some.inj h).symm

/-- The set was fetched before the rotation. -/
def sampleHistory : List FetchStep := [.jwks "https://idcs.example.com/keys" (sampleFetch 0) false]

theorem sampleHistory_served :
    ∀ step ∈ sampleHistory, sampleIssuer.ServesStep "https://idcs.example.com/keys" step := by
  intro step hstep
  obtain rfl := List.mem_singleton.mp hstep
  intro _
  exact sampleFetch_serves _ 0

def callAt (now : ℚ) : Call :=
  { sampleCall with keys := sampleFetch now, refreshed := sampleFetch now }

theorem newKey_only (t : ℚ) : ∀ other ∈ sampleIssuer.published t, Named (.str "k2") other →
    other = newKey := by
  intro other hother hnamed
  unfold sampleIssuer at hother
  dsimp only at hother
  split at hother
  · obtain rfl := List.mem_singleton.mp hother
    exact absurd hnamed (by unfold Named; decide +kernel)
  · exact List.mem_singleton.mp hother

theorem published_late {t : ℚ} (h : 100 ≤ t) : sampleIssuer.published t = [newKey] :=
  if_neg (not_lt.mpr h)

theorem newKey_late {t : ℚ} (h : 100 ≤ t) : newKey ∈ sampleIssuer.published t := by
  rw [published_late h]
  exact List.mem_cons_self

theorem published_key_found_sample :
    (findKey (.str "https://idcs.example.com/keys") (.str "k2") (callAt 200)
      (after sampleHistory)).1 = .ok (some newKey) :=
  published_key_found sampleHistory_served (sampleFetch_serves _ 200) (Or.inr rfl) rfl
    (newKey_late (by norm_num [callAt, sampleFetch])) (by unfold Named; decide +kernel) newKey_only

theorem oldKey_gone (t : ℚ) (h : 100 ≤ t) :
    ∀ key ∈ sampleIssuer.published t, ¬ Named (.str "k1") key := by
  intro key hkey
  rw [published_late h] at hkey
  obtain rfl := List.mem_singleton.mp hkey
  unfold Named
  decide +kernel

theorem withdrawn_key_refused_sample :
    (verifyIdToken sampleJose sampleConfig (callAt 3700) (after sampleHistory)).1 ≠
      .ok (some sampleClaims) :=
  withdrawn_key_refused sampleHistory_served (sampleFetch_serves _ 3700)
    (sampleFetch_serves _ 3700) le_rfl le_rfl
    (show discoveryUsed sampleConfig (after sampleHistory) (callAt 3700) =
      some (.obj sampleDiscovery) from rfl)
    rfl (show sampleJose.header (callAt 3700).idToken = some sampleHeader from rfl) oldKey_gone
      (by norm_num [callAt, sampleFetch, oidcCacheTtl]) sampleClaims

end KeyRotation

import CrmPortal.SsoCookie
import CrmPortal.Library.Trimming

/-!
# The shared key of the order endpoint

`_env_secret` takes a variable as it stands and the content of a file without the
whitespace around it. The guard of `create_order` takes the whitespace off the header,
not off the key, and compares with `hmac.compare_digest`, which takes ASCII only.
-/

namespace InternalKey

open PyValue Transaction RequestContext ShopCatalogSync Orders SsoCookie

/-- The variables of the process and the files it can read. -/
structure ProcessEnv where
  getenv : String → Option String
  readFile : String → Except PyExc String

section Settings
variable (py : Builtins) (os : ProcessEnv)

def readSecretFile (path : String) : Except PyExc String := do
  let content ← os.readFile path
  return py.strip content

def envSecret (key default : String) : Except PyExc String :=
  let explicit := (os.getenv key).getD ""
  if explicit ≠ "" then .ok explicit
  else
    let filePath := py.strip ((os.getenv (key ++ "_FILE")).getD "")
    if filePath ≠ "" then readSecretFile py os filePath else .ok default

/-- `cfg.drone_shop_internal_key`. -/
def droneShopInternalKey : Except PyExc String := do
  let key ← envSecret py os "DRONE_SHOP_INTERNAL_KEY" ""
  if key ≠ "" then return key
  envSecret py os "INTERNAL_SERVICE_KEY" ""

/-- A key with whitespace around it stands so in a variable. -/
theorem padded_key_explicit (strip_strip : ∀ s, py.strip (py.strip s) = py.strip s)
    (strip_empty : py.strip "" = "") {k : String} (hread : droneShopInternalKey py os = .ok k)
    (hpadded : py.strip k ≠ k) :
    os.getenv "DRONE_SHOP_INTERNAL_KEY" = some k ∨ os.getenv "INTERNAL_SERVICE_KEY" = some k := by
  have hexplicit : ∀ name, envSecret py os name "" = .ok k → os.getenv name = some k := by
    intro name h
    simp only [envSecret, readSecretFile] at h
    split at h
    · cases hvariable : os.getenv name with
      | none => simp_all
      | some value =>
        rw [hvariable] at h
        exact congrArg some (Except.ok.inj h)
    · split at h
      · obtain ⟨content, -, hcontent⟩ := bind_ok_iff.mp h
        obtain rfl := Except.ok.inj hcontent
        exact absurd (strip_strip content) hpadded
      · obtain rfl := Except.ok.inj h
        exact absurd strip_empty hpadded
  unfold droneShopInternalKey at hread
  obtain ⟨first, hfirst, hrest⟩ := bind_ok_iff.mp hread
  split at hrest
  · obtain rfl : first = k := Except.ok.inj hrest
    exact Or.inl (hexplicit _ hfirst)
  · exact Or.inr (hexplicit _ hrest)

end Settings

/-- The header has the key, up to the whitespace around both. -/
def CarriesKey (env : OrdersEnv) (request : OrderRequest) : Prop :=
  ∃ value, request.internalServiceKey = some value ∧
    env.py.strip value = env.py.strip env.internalKey

/-- With the key the request is admitted, and with anything else it is answered 401. -/
structure Decides (env : OrdersEnv) (request : OrderRequest) : Prop where
  admits : CarriesKey env request → requireInternalKeyIfConfigured env request = .ok ⟨⟩
  refuses : ¬ CarriesKey env request →
    requireInternalKeyIfConfigured env request = .error (.httpException 401)

/-- The header without the whitespace around it. -/
def supplied (env : OrdersEnv) (request : OrderRequest) : String :=
  env.py.strip (request.internalServiceKey.getD "")

/-- No variable has the key with whitespace around it. -/
def Unpadded (env : OrdersEnv) (os : ProcessEnv) : Prop :=
  ∀ name ∈ ["DRONE_SHOP_INTERNAL_KEY", "INTERNAL_SERVICE_KEY"],
    os.getenv name = some env.internalKey → env.py.strip env.internalKey = env.internalKey

/-- A blank header is not the key; any other is of ASCII characters like the key, and is
not what is left of a key with whitespace around it. -/
def Comparable (env : OrdersEnv) (os : ProcessEnv) (request : OrderRequest) : Prop :=
  if supplied env request = "" then ¬ CarriesKey env request
  else Ascii (supplied env request) ∧ Ascii env.internalKey ∧
    (CarriesKey env request → Unpadded env os)

section Guard
variable {env : OrdersEnv} {request : OrderRequest}

theorem guard_blank (hkey : env.internalKey ≠ "") (h : supplied env request = "") :
    requireInternalKeyIfConfigured env request = .error (.httpException 401) := by
  unfold supplied at h
  unfold requireInternalKeyIfConfigured
  rw [if_neg hkey]
  exact if_pos h

theorem guard_ascii (hkey : env.internalKey ≠ "") (h : supplied env request ≠ "")
    (hsupplied : Ascii (supplied env request)) (hascii : Ascii env.internalKey) :
    requireInternalKeyIfConfigured env request =
      if supplied env request = env.internalKey then .ok ⟨⟩ else .error (.httpException 401) := by
  have hdigest := compareDigest_ascii hsupplied hascii
  by_cases heq : supplied env request = env.internalKey
  · rw [decide_eq_true heq] at hdigest
    rw [if_pos heq]
    unfold supplied at h hdigest
    unfold requireInternalKeyIfConfigured
    simp only [if_neg hkey, if_neg h, hdigest]
    rfl
  · rw [decide_eq_false heq] at hdigest
    rw [if_neg heq]
    unfold supplied at h hdigest
    unfold requireInternalKeyIfConfigured
    simp only [if_neg hkey, if_neg h, hdigest]
    rfl

theorem guard_not_ascii (hkey : env.internalKey ≠ "") (h : supplied env request ≠ "")
    (hascii : ¬ (Ascii (supplied env request) ∧ Ascii env.internalKey)) :
    requireInternalKeyIfConfigured env request = .error .typeError := by
  have hdigest := compareDigest_not_ascii hascii
  unfold supplied at h hdigest
  unfold requireInternalKeyIfConfigured
  simp only [if_neg hkey, if_neg h, hdigest]
  rfl

/-- A header that is there carries the key when it spells it without whitespace. -/
theorem carriesKey_iff (h : supplied env request ≠ "") (hblank : env.py.strip "" = "") :
    CarriesKey env request ↔ supplied env request = env.py.strip env.internalKey := by
  unfold CarriesKey supplied at *
  cases hheader : request.internalServiceKey with
  | none =>
    rw [hheader] at h
    exact absurd hblank h
  | some value => simp

theorem decides_blank_iff (hkey : env.internalKey ≠ "") (h : supplied env request = "") :
    Decides env request ↔ ¬ CarriesKey env request := by
  have hguard := guard_blank hkey h
  constructor
  · intro hdecides hcarries
    cases hguard.symm.trans (hdecides.admits hcarries)
  · intro hnot
    exact ⟨fun hcarries => absurd hcarries hnot, fun _ => hguard⟩

/-- With ASCII on both sides the whitespace of the key is all that can go wrong. -/
theorem decides_ascii_iff {os : ProcessEnv}
    (hread : droneShopInternalKey env.py os = .ok env.internalKey) (hkey : env.internalKey ≠ "")
    (strip_strip : ∀ s, env.py.strip (env.py.strip s) = env.py.strip s)
    (strip_empty : env.py.strip "" = "") (h : supplied env request ≠ "")
    (hascii : Ascii (supplied env request) ∧ Ascii env.internalKey) :
    Decides env request ↔ (CarriesKey env request → Unpadded env os) := by
  have hguard := guard_ascii hkey h hascii.1 hascii.2
  have hcarries := carriesKey_iff h strip_empty
  constructor
  · intro hdecides hsame _ _ _
    have hadmitted := hguard.symm.trans (hdecides.admits hsame)
    split at hadmitted
    · next heq => exact (hcarries.mp hsame).symm.trans heq
    · cases hadmitted
  · intro hunpadded
    constructor
    · intro hsame
      rw [hguard, if_pos]
      rw [hcarries.mp hsame]
      by_contra hpadded
      rcases padded_key_explicit env.py os strip_strip strip_empty hread hpadded with hset | hset
      · exact hpadded (hunpadded hsame _ (by simp) hset)
      · exact hpadded (hunpadded hsame _ (by simp) hset)
    · intro hother
      rw [hguard, if_neg]
      intro heq
      apply hother
      apply hcarries.mpr
      rw [← heq]
      exact (strip_strip _).symm

theorem not_decides (hkey : env.internalKey ≠ "") (h : supplied env request ≠ "")
    (hascii : ¬ (Ascii (supplied env request) ∧ Ascii env.internalKey)) :
    ¬ Decides env request := by
  have hguard := guard_not_ascii hkey h hascii
  intro hdecides
  by_cases hc : CarriesKey env request
  · cases hguard.symm.trans (hdecides.admits hc)
  · cases hguard.symm.trans (hdecides.refuses hc)

/-- The guard decides as it should exactly on the comparable requests. -/
theorem decides_iff {os : ProcessEnv} (hread : droneShopInternalKey env.py os = .ok env.internalKey)
    (hkey : env.internalKey ≠ "")
    (strip_strip : ∀ s, env.py.strip (env.py.strip s) = env.py.strip s)
    (strip_empty : env.py.strip "" = "") : Decides env request ↔ Comparable env os request := by
  unfold Comparable
  by_cases hblank : supplied env request = ""
  · rw [if_pos hblank]
    exact decides_blank_iff hkey hblank
  rw [if_neg hblank]
  by_cases hascii : Ascii (supplied env request) ∧ Ascii env.internalKey
  · rw [decides_ascii_iff hread hkey strip_strip strip_empty hblank hascii]
    exact ⟨fun h => ⟨hascii.1, hascii.2, h⟩, fun h => h.2.2⟩
  · constructor
    · intro h
      exact absurd h (not_decides hkey hblank hascii)
    · rintro ⟨hsupplied, hown, -⟩
      exact absurd ⟨hsupplied, hown⟩ hascii

/-- What the guard raises is all that comes of the request. -/
theorem createOrder_refused {e : PyExc} (h : requireInternalKeyIfConfigured env request = .error e)
    (w : World Push) : createOrder env request w = (.error e, w) := by
  unfold createOrder
  rw [h]
  rfl

theorem Decides.answered (h : Decides env request) (hc : ¬ CarriesKey env request)
    (w : World Push) : createOrder env request w = (.error (.httpException 401), w) :=
  createOrder_refused (h.refuses hc) w

end Guard

theorem ascii_strip_strip (s : String) : Ascii.strip (Ascii.strip s) = Ascii.strip s := by
  have htrim : ∀ s, Ascii.strip s = String.ofList (Trimming.trim Char.isWhitespace s.toList) :=
    fun s => rfl
  simp [htrim]

def keyVariables (key : String) : ProcessEnv where
  getenv name := if name = "INTERNAL_SERVICE_KEY" then some key else none
  readFile _ := .error .valueError

theorem keyVariables_read {py : Builtins} (strip_empty : py.strip "" = "") {key : String}
    (hkey : key ≠ "") : droneShopInternalKey py (keyVariables key) = .ok key := by
  have hunset : envSecret py (keyVariables key) "DRONE_SHOP_INTERNAL_KEY" "" = .ok "" := by
    simp [envSecret, keyVariables, strip_empty]
  have hset : envSecret py (keyVariables key) "INTERNAL_SERVICE_KEY" "" = .ok key := by
    simp [envSecret, keyVariables, hkey]
  unfold droneShopInternalKey
  rw [hunset, hset]
  rfl

def keyedEnv (key : String) : OrdersEnv := { sampleOrdersEnv with internalKey := key }

def keyedRequest (value : String) : OrderRequest :=
  { sampleOrderRequest with internalServiceKey := some value }

/-- A header outside ASCII raises. -/
theorem accented_header_raises : ¬ ∀ (env : OrdersEnv) (os : ProcessEnv) (request : OrderRequest),
    droneShopInternalKey env.py os = .ok env.internalKey → env.internalKey ≠ "" →
    Decides env request := by
  intro hall
  have h := hall (keyedEnv "k3y") (keyVariables "k3y") (keyedRequest "clé")
    (keyVariables_read rfl (by decide)) (by decide)
  have hraises : requireInternalKeyIfConfigured (keyedEnv "k3y") (keyedRequest "clé") =
      .error .typeError := by rfl
  by_cases hc : CarriesKey (keyedEnv "k3y") (keyedRequest "clé")
  · cases hraises.symm.trans (h.admits hc)
  · cases hraises.symm.trans (h.refuses hc)

theorem spaced_header_admitted : Decides (keyedEnv "k3y") (keyedRequest " k3y ") := by
  have hread : droneShopInternalKey (keyedEnv "k3y").py (keyVariables "k3y") =
      .ok (keyedEnv "k3y").internalKey := keyVariables_read rfl (by decide)
  refine (decides_iff hread (by decide) ascii_strip_strip rfl).mpr ?_
  have hsupplied : supplied (keyedEnv "k3y") (keyedRequest " k3y ") = "k3y" := by rfl
  have hascii : Ascii "k3y" := by
    have hall : "k3y".toList.all (fun c => decide (c.toNat < 128)) = true := by decide
    exact fun c hc => of_decide_eq_true (List.all_eq_true.mp hall c hc)
  unfold Comparable
  rw [hsupplied, if_neg (by decide)]
  exact ⟨hascii, hascii, fun _ _ _ _ => rfl⟩

end InternalKey

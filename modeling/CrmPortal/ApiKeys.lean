import CrmPortal.Library.InsertionDict
import CrmPortal.ProductLookup

/-!
# API keys

A key is the digest of a user name and the second of the request, so that it says who asked
and when but not who asked first. The store of a process is a dictionary under the keys: a
request in the same second, by anyone who gives the same name, finds the key of the first one
and replaces what it is good for.
-/

namespace ApiKeys

open PyValue FirstOccurrence InsertionDict

/-- `hexdigest` is `hashlib.md5(text.encode()).hexdigest()`. -/
structure ApiKeysEnv where
  py : Builtins
  hexdigest : String → String

/-- `now` is the clock in whole seconds, `createdAt` its reading a moment later. -/
structure GenerateRequest where
  body : Json
  now : Nat
  createdAt : PyFloat

structure KeyRecord where
  username : Json
  createdAt : PyFloat
  permissions : Json

abbrev KeyStore := Dict String KeyRecord

structure Generated where
  apiKey : String
  username : Json

def username (fields : Obj) : Json := fields.getD "username" (.str "anonymous")

def permissions (fields : Obj) : Json := fields.getD "permissions" (.arr [.str "read"])

/-- A user name as it is printed, and a second. -/
abbrev Asked := String × Nat

def keySeed (asked : Asked) : String := asked.1 ++ toString asked.2

def apiKey (env : ApiKeysEnv) (asked : Asked) : String := env.hexdigest (keySeed asked)

def askedBy (env : ApiKeysEnv) (fields : Obj) (now : Nat) : Asked :=
  (Json.toStr env.py (username fields), now)

def record (fields : Obj) (createdAt : PyFloat) : KeyRecord :=
  ⟨username fields, createdAt, permissions fields⟩

def generateApiKey (env : ApiKeysEnv) (request : GenerateRequest) (store : KeyStore) :
    Except PyExc Generated × KeyStore :=
  match request.body with
  | .obj fields =>
    let key := apiKey env (askedBy env fields request.now)
    (.ok ⟨key, username fields⟩, store.set key (record fields request.createdAt))
  | _ => (.error .attributeError, store)

inductive Validation where
  | valid (user : KeyRecord)
  | invalid

/-- `header` is `X-API-Key`. -/
def validateApiKey (header : Option String) (store : KeyStore) : Validation :=
  match store.get (header.getD "") with
  | some user => .valid user
  | none => .invalid

def listApiKeys (store : KeyStore) : List (String × KeyRecord) := store.items

/-- The store of a process that has answered these requests. -/
def storeAfter (env : ApiKeysEnv) (requests : List GenerateRequest) : KeyStore :=
  requests.foldl (fun store request => (generateApiKey env request store).2) Dict.empty

def asked (env : ApiKeysEnv) (request : GenerateRequest) : Option Asked :=
  match request.body with
  | .obj fields => some (askedBy env fields request.now)
  | _ => none

def entry (env : ApiKeysEnv) (request : GenerateRequest) : Option (String × KeyRecord) :=
  match request.body with
  | .obj fields =>
    some (apiKey env (askedBy env fields request.now), record fields request.createdAt)
  | _ => none

theorem generateApiKey_store (env : ApiKeysEnv) (request : GenerateRequest) (store : KeyStore) :
    (generateApiKey env request store).2 =
      (entry env request).elim store fun pair => store.set pair.1 pair.2 := by
  cases hbody : request.body <;> simp [generateApiKey, entry, hbody]

theorem storeAfter_eq (env : ApiKeysEnv) (requests : List GenerateRequest) :
    storeAfter env requests = Dict.assignments (requests.filterMap (entry env)) := by
  induction requests using List.reverseRecOn with
  | nil => rfl
  | append_singleton requests request ih =>
    have hlast : storeAfter env (requests ++ [request]) =
        (generateApiKey env request (storeAfter env requests)).2 := by
      simp only [storeAfter, List.foldl_append, List.foldl_cons, List.foldl_nil]
    rw [hlast, generateApiKey_store, ih, List.filterMap_append]
    cases hentry : entry env request with
    | none => simp [hentry]
    | some pair =>
      rw [List.filterMap_cons_some hentry, List.filterMap_nil, Dict.assignments_concat]
      rfl

theorem entry_key (env : ApiKeysEnv) (request : GenerateRequest) :
    (entry env request).map Prod.fst = (asked env request).map (apiKey env) := by
  cases hbody : request.body <;> simp [entry, asked, hbody]

/-- The clock has ten digits from 2001 until 2286. -/
def TenDigits (second : Nat) : Prop := 10 ^ 9 ≤ second ∧ second < 10 ^ 10

theorem TenDigits.length {second : Nat} (h : TenDigits second) :
    (toString second).toList.length = 10 := by
  have hdecimal : (toString second).toList = Nat.toDigits 10 second := String.toList_ofList
  have hupper :=
    (Nat.length_toDigits_le_iff (n := second) (k := 10) (by decide) (by decide)).mpr h.2
  have hlower : ¬ (Nat.toDigits 10 second).length ≤ 9 := by
    rw [Nat.length_toDigits_le_iff (by decide) (by decide)]
    exact Nat.not_lt.mpr h.1
  rw [hdecimal]
  omega

/-- With a clock of ten digits the seed tells the name and the second. -/
theorem keySeed_injective {a b : Asked} (ha : TenDigits a.2) (hb : TenDigits b.2)
    (h : keySeed a = keySeed b) : a = b := by
  have hlist := congrArg String.toList h
  simp only [keySeed, String.toList_append] at hlist
  obtain ⟨hname, hsecond⟩ := List.append_inj' hlist (ha.length.trans hb.length.symm)
  exact Prod.ext (String.toList_injective hname)
    (ProductLookup.decimal_injective (String.toList_injective hsecond))

/-- What holds of the requests that a process has answered: the clock has ten digits, and
the digest tells their seeds apart. -/
structure ToldApart (env : ApiKeysEnv) (requests : List GenerateRequest) : Prop where
  clock : ∀ request ∈ requests, TenDigits request.now
  digest : ∀ a ∈ requests.filterMap (asked env), ∀ b ∈ requests.filterMap (asked env),
    apiKey env a = apiKey env b → keySeed a = keySeed b

theorem asked_second {env : ApiKeysEnv} {request : GenerateRequest} {a : Asked}
    (h : asked env request = some a) : a.2 = request.now := by
  cases hbody : request.body <;> simp [asked, hbody] at h
  rw [← h]
  rfl

theorem ToldApart.asked {env : ApiKeysEnv} {requests : List GenerateRequest}
    (h : ToldApart env requests) {a b : Asked} (ha : a ∈ requests.filterMap (asked env))
    (hb : b ∈ requests.filterMap (asked env)) (hkey : apiKey env a = apiKey env b) : a = b := by
  have hclock : ∀ c ∈ requests.filterMap (ApiKeys.asked env), TenDigits c.2 := by
    intro c hc
    obtain ⟨request, hrequest, hasked⟩ := List.mem_filterMap.mp hc
    rw [asked_second hasked]
    exact h.clock request hrequest
  exact keySeed_injective (hclock a ha) (hclock b hb) (h.digest a ha b hb hkey)

/-- A key that was handed out belongs to one name and one second, and is good for what the
last request for them asked; it stands in the list once, in the order of the first ones. -/
theorem key_names_user_and_second (env : ApiKeysEnv) (requests : List GenerateRequest)
    (h : ToldApart env requests) :
    (∀ request ∈ requests, ∀ a, asked env request = some a →
      ∃ before last after fields, requests = before ++ last :: after ∧ last.body = .obj fields ∧
        asked env last = some a ∧ (∀ later ∈ after, asked env later ≠ some a) ∧
        validateApiKey (some (apiKey env a)) (storeAfter env requests) =
          .valid (record fields last.createdAt)) ∧
      (listApiKeys (storeAfter env requests)).map Prod.fst =
        (firsts (requests.filterMap (asked env))).map (apiKey env) := by
  constructor
  · intro request hrequest a hasked
    have hmem : a ∈ requests.filterMap (asked env) :=
      List.mem_filterMap.mpr ⟨request, hrequest, hasked⟩
    have hkeys : ∀ r, ((entry env r).map Prod.fst).toList =
        ((asked env r).map (apiKey env)).toList := fun r => by rw [entry_key]
    have hset : (LastWins.build (fun r => ((entry env r).map Prod.fst).toList) requests
        (apiKey env a)).isSome := by
      refine LastWins.build_isSome hrequest ?_
      rw [hkeys, hasked]
      exact List.mem_singleton_self _
    obtain ⟨last, hlast⟩ := Option.isSome_iff_exists.mp hset
    obtain ⟨before, after, hsplit, hkey, hafter⟩ := LastWins.build_eq_some_iff.mp hlast
    have hlastMem : last ∈ requests := by rw [hsplit]; simp
    have hlastAsked : asked env last = some a := by
      rw [hkeys, Option.mem_toList, Option.map_eq_some_iff] at hkey
      obtain ⟨b, hb, hsame⟩ := hkey
      have hbMem : b ∈ requests.filterMap (asked env) := List.mem_filterMap.mpr ⟨last, hlastMem, hb⟩
      rw [hb, h.asked hbMem hmem hsame]
    cases hbody : last.body with
    | obj fields =>
      refine ⟨before, last, after, fields, hsplit, hbody, hlastAsked, ?_, ?_⟩
      · intro later hlater hsame
        refine hafter later hlater ?_
        rw [hkeys, hsame]
        exact List.mem_singleton_self _
      · have hentry : (entry env last).map Prod.snd = some (record fields last.createdAt) := by
          simp [entry, hbody]
        rw [validateApiKey, Option.getD_some, storeAfter_eq, get_assignments, hlast,
          Option.bind_some, hentry]
    | _ => simp [asked, hbody] at hlastAsked
  · have hkeys : (requests.filterMap (entry env)).map Prod.fst =
        (requests.filterMap (asked env)).map (apiKey env) := by
      rw [List.map_filterMap, List.map_filterMap]
      exact List.filterMap_congr fun r _ => entry_key env r
    rw [listApiKeys, storeAfter_eq, keys_assignments, hkeys]
    exact firsts_map fun a ha b hb => h.asked ha hb

/-- The digest of the one seed below. -/
def sampleEnv : ApiKeysEnv where
  py := asciiBuiltins fun _ => ""
  hexdigest seed := if seed = "ana1700000000" then "f3df1456a7194d7f522461b8f80cb6af" else ""

def sampleRequest (permission : String) (createdAt : ℚ) : GenerateRequest where
  body := .obj [("username", .str "ana"), ("permissions", .arr [.str permission])]
  now := 1700000000
  createdAt := .fin createdAt

/-- Whoever asks second decides what the key of the first is good for. -/
def sampleRequests : List GenerateRequest :=
  [sampleRequest "read" (1700000000 + 1 / 4), sampleRequest "admin" (1700000000 + 3 / 4)]

def sampleAsked : Asked := ("ana", 1700000000)

theorem sampleRequests_asked : sampleRequests.filterMap (asked sampleEnv) =
    [sampleAsked, sampleAsked] := rfl

theorem sampleRequests_toldApart : ToldApart sampleEnv sampleRequests where
  clock := by
    intro request hrequest
    have hnow : request.now = 1700000000 := by
      rcases List.mem_cons.mp hrequest with rfl | hlast
      · rfl
      · rw [List.mem_singleton.mp hlast]
        rfl
    rw [hnow]
    exact ⟨by decide, by decide⟩
  digest := by
    rw [sampleRequests_asked]
    intro a ha b hb _
    simp only [List.mem_cons, List.not_mem_nil, or_false, or_self] at ha hb
    rw [ha, hb]

theorem key_names_user_and_second_sample :
    (listApiKeys (storeAfter sampleEnv sampleRequests)).map Prod.fst =
      ["f3df1456a7194d7f522461b8f80cb6af"] := by
  have hlist := (key_names_user_and_second sampleEnv sampleRequests sampleRequests_toldApart).2
  rw [sampleRequests_asked] at hlist
  rw [hlist]
  decide +kernel

end ApiKeys

import CrmPortal.Accounts

/-!
# `get_current_user`

A session is looked up in the cache of the process, then in the table. A failed
read raises `SessionLookupUnavailable`, which is neither a session nor the answer
that there is none, and leaves the cache alone.
-/

namespace SessionLookup

open PyValue Accounts

structure SessionData where
  userId : Nat
  username : String
  role : String
  deriving DecidableEq

def SessionData.ofRow (row : UserSession) : SessionData := ⟨row.userId, row.username, row.role⟩

/-- What one process remembers. -/
structure Replica where
  sessionCache : String → Option (ℚ × SessionData)
  lookupLogState : String → Option ℚ
  loginAttempts : String → Option (List ℚ)

def Replica.started : Replica := ⟨fun _ => none, fun _ => none, fun _ => none⟩

def sessionCacheTtl : ℚ := 30

def sessionLookupLogWindow : ℚ := 60

/-- The attributes of an exception that are read: `code` and `full_code` where
they are truthy, and the first argument, each as `str` gives it. -/
structure ErrorObject where
  code : Option String
  fullCode : Option String
  firstArg : Option String

structure DbError where
  className : String
  orig : Option ErrorObject
  self : ErrorObject

/-- The token before the colon of a message that starts with `ORA-`. -/
def oraToken (first : String) : Option String :=
  if "ORA-".toList.isPrefixOf first.toList ∧ ':' ∈ first.toList
  then some (String.ofList (first.toList.takeWhile (· ≠ ':')))
  else none

def candidateCode (candidate : ErrorObject) : Option String :=
  match candidate.code.or candidate.fullCode with
  | some code => some code
  | none => candidate.firstArg.bind oraToken

def errCode (e : DbError) : String :=
  ((e.orig.toList ++ [e.self]).findSome? candidateCode).getD ""

structure SessionLookupUnavailable where
  message : String
  deriving DecidableEq

/-- The cookie and the header of the request. -/
structure Credentials where
  sessionCookie : Option String
  sessionHeader : Option String

def Credentials.sessionId (c : Credentials) : String :=
  let cookie := c.sessionCookie.getD ""
  if cookie ≠ "" then cookie else c.sessionHeader.getD ""

/-- The clock where the cache is checked, and after the read. -/
structure Clock where
  checked : ℚ
  afterRead : ℚ

/-- The entry of the cache that is young enough to answer. -/
def cacheHit (rep : Replica) (sid : String) (now : ℚ) : Option SessionData :=
  match rep.sessionCache sid with
  | some (ts, data) => if now - ts < sessionCacheTtl then some data else none
  | none => none

def Replica.cache (rep : Replica) (sid : String) (entry : Option (ℚ × SessionData)) : Replica :=
  { rep with sessionCache := Function.update rep.sessionCache sid entry }

/-- One message for a class of exceptions and window. -/
def Replica.logFailure (rep : Replica) (className : String) (now : ℚ) : Replica :=
  if now - (rep.lookupLogState className).getD 0 > sessionLookupLogWindow
  then { rep with lookupLogState := Function.update rep.lookupLogState className (some now) }
  else rep

abbrev LookupResult := Except SessionLookupUnavailable (Option SessionData)

def getCurrentUser (sid : String) (clock : Clock) (read : Except DbError (Option UserSession))
    (rep : Replica) : LookupResult × Replica :=
  if sid = "" then (.ok none, rep)
  else match cacheHit rep sid clock.checked with
    | some data => (.ok (some data), rep)
    | none => match read with
      | .ok (some row) =>
        let data := SessionData.ofRow row
        (.ok (some data), rep.cache sid (some (clock.afterRead, data)))
      | .ok none => (.ok none, rep.cache sid none)
      | .error e =>
        (.error ⟨e.className ++ ":" ++ errCode e⟩, rep.logFailure e.className clock.afterRead)

/-- The read decides, and it failed. -/
def ReadFails (sid : String) (clock : Clock) (read : Except DbError (Option UserSession))
    (rep : Replica) : Prop :=
  sid ≠ "" ∧ cacheHit rep sid clock.checked = none ∧ ∃ e, read = .error e

@[simp] theorem logFailure_sessionCache (rep : Replica) (className : String) (now : ℚ) :
    (rep.logFailure className now).sessionCache = rep.sessionCache := by
  unfold Replica.logFailure
  split <;> rfl

section Lookup
variable {sid : String} {clock : Clock} {read : Except DbError (Option UserSession)} {rep : Replica}

theorem getCurrentUser_of_miss (hsid : sid ≠ "") (miss : cacheHit rep sid clock.checked = none) :
    getCurrentUser sid clock read rep = match read with
      | .ok (some row) => (.ok (some (SessionData.ofRow row)),
          rep.cache sid (some (clock.afterRead, SessionData.ofRow row)))
      | .ok none => (.ok none, rep.cache sid none)
      | .error e => (.error ⟨e.className ++ ":" ++ errCode e⟩,
          rep.logFailure e.className clock.afterRead) := by
  unfold getCurrentUser
  rw [if_neg hsid, miss]

/-- The ways in which a lookup ends. -/
theorem getCurrentUser_cases (sid : String) (clock : Clock)
    (read : Except DbError (Option UserSession)) (rep : Replica) :
    (sid = "" ∧ getCurrentUser sid clock read rep = (.ok none, rep)) ∨
    (∃ data, sid ≠ "" ∧ cacheHit rep sid clock.checked = some data ∧
      getCurrentUser sid clock read rep = (.ok (some data), rep)) ∨
    (∃ row, sid ≠ "" ∧ cacheHit rep sid clock.checked = none ∧ read = .ok (some row) ∧
      getCurrentUser sid clock read rep = (.ok (some (SessionData.ofRow row)),
        rep.cache sid (some (clock.afterRead, SessionData.ofRow row)))) ∨
    (sid ≠ "" ∧ cacheHit rep sid clock.checked = none ∧ read = .ok none ∧
      getCurrentUser sid clock read rep = (.ok none, rep.cache sid none)) ∨
    (∃ e, sid ≠ "" ∧ cacheHit rep sid clock.checked = none ∧ read = .error e ∧
      getCurrentUser sid clock read rep = (.error ⟨e.className ++ ":" ++ errCode e⟩,
        rep.logFailure e.className clock.afterRead)) := by
  by_cases hsid : sid = ""
  · exact Or.inl ⟨hsid, by simp [getCurrentUser, hsid]⟩
  cases hit : cacheHit rep sid clock.checked with
  | some data => exact Or.inr (Or.inl ⟨data, hsid, rfl, by simp [getCurrentUser, hsid, hit]⟩)
  | none =>
    have hget : getCurrentUser sid clock read rep = _ := getCurrentUser_of_miss hsid hit
    rcases read with e | _ | row
    · exact Or.inr (Or.inr (Or.inr (Or.inr ⟨e, hsid, rfl, rfl, hget⟩)))
    · exact Or.inr (Or.inr (Or.inr (Or.inl ⟨hsid, rfl, rfl, hget⟩)))
    · exact Or.inr (Or.inr (Or.inl ⟨row, hsid, rfl, rfl, hget⟩))

/-- There is no session only where none was named or a read found no row. -/
theorem none_of_getCurrentUser (h : (getCurrentUser sid clock read rep).1 = .ok none) :
    sid = "" ∨ (cacheHit rep sid clock.checked = none ∧ read = .ok none) := by
  rcases getCurrentUser_cases sid clock read rep with ⟨hsid, -⟩ | ⟨data, -, -, heq⟩ |
    ⟨row, -, -, -, heq⟩ | ⟨-, hit, hread, -⟩ | ⟨e, -, -, -, heq⟩
  · exact Or.inl hsid
  · rw [heq] at h; cases h
  · rw [heq] at h; cases h
  · exact Or.inr ⟨hit, hread⟩
  · rw [heq] at h; cases h

theorem unavailable_iff :
    (∃ e, (getCurrentUser sid clock read rep).1 = .error e) ↔ ReadFails sid clock read rep := by
  rcases getCurrentUser_cases sid clock read rep with ⟨hsid, heq⟩ | ⟨data, -, hit, heq⟩ |
    ⟨row, -, -, hread, heq⟩ | ⟨-, -, hread, heq⟩ | ⟨e, hsid, hit, hread, heq⟩
  · rw [heq]
    simp [ReadFails, hsid]
  · rw [heq]
    simp [ReadFails, hit]
  · rw [heq]
    simp [ReadFails, hread]
  · rw [heq]
    simp [ReadFails, hread]
  · rw [heq]
    simp [ReadFails, hsid, hit, hread]

/-- A failed lookup evicts nothing. -/
theorem sessionCache_of_unavailable {e : SessionLookupUnavailable}
    (h : (getCurrentUser sid clock read rep).1 = .error e) :
    (getCurrentUser sid clock read rep).2.sessionCache = rep.sessionCache := by
  rcases getCurrentUser_cases sid clock read rep with ⟨-, heq⟩ | ⟨data, -, -, heq⟩ |
    ⟨row, -, -, -, heq⟩ | ⟨-, -, -, heq⟩ | ⟨e, -, -, -, heq⟩
  · rw [heq]
  · rw [heq]
  · rw [heq] at h; cases h
  · rw [heq] at h; cases h
  · rw [heq]
    exact logFailure_sessionCache rep e.className clock.afterRead

end Lookup
end SessionLookup

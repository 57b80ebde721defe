import CrmPortal.Library.UnitOfWork
import CrmPortal.Database

/-!
# What a request handler runs in

The caller of a request, the guards of `_authz`, and `get_db`: the block under
it commits when it ends or returns, also on an error return, and rolls back when
anything in it raises.
-/

namespace RequestContext

open PyValue Transaction UnitOfWork CrmDatabase

/-- What the handlers read of the user dict. -/
structure User where
  userId : Option Int
  role : Option String

structure Request where
  currentUser : Option User
  clientHost : Option String
  userAgent : String
  correlationId : String

def catalogManagerRoles : List String := ["admin", "manager"]

def requireAuthenticatedUser (request : Request) : Except PyExc User :=
  match request.currentUser with
  | none => .error (.httpException 401)
  | some user => .ok user

/-- `(role or "").strip().lower() in CATALOG_MANAGER_ROLES`. -/
def canManageCatalog (py : Builtins) (role : Option String) : Bool :=
  decide (py.lower (py.strip (role.getD "")) ∈ catalogManagerRoles)

def requireManagementUser (py : Builtins) (request : Request) : Except PyExc User := do
  let user ← requireAuthenticatedUser request
  if canManageCatalog py user.role then return user else .error (.httpException 403)

def adminRoles : List String := ["admin"]

/-- `(role or "").strip().lower() in ADMIN_ROLES`. -/
def isAdmin (py : Builtins) (role : Option String) : Bool :=
  decide (py.lower (py.strip (role.getD "")) ∈ adminRoles)

def requireAdminUser (py : Builtins) (request : Request) : Except PyExc User := do
  let user ← requireAuthenticatedUser request
  if isAdmin py user.role then return user else .error (.httpException 403)

/-- A dict with the key `error`, or the answer of the handler. -/
inductive Response (Answer : Type) where
  | error (message : String)
  | answer (body : Answer)

def Response.IsError {Answer : Type} : Response Answer → Prop
  | .error _ => True
  | .answer _ => False

theorem isError_error {Answer : Type} (message : String) :
    (Response.error message : Response Answer).IsError := trivial

/-- What happens outside the transaction, in order. -/
inductive Event (Sent : Type) where
  | committed
  | sent (message : Sent)

/-- The committed database and what was done since the start. -/
structure World (Sent : Type) where
  db : Db
  trace : List (Event Sent)

structure DbConfig where
  simulateDbDisconnect : Bool
  hasSessionFactory : Bool

section GetDb
variable {Sent Answer Value : Type}

/-- `async with get_db() as db`, with the block under it. -/
def getDb (cfg : DbConfig) (faults : Faults PyExc)
    (block : Block Db PyExc (Response Answer) Value) :
    Tx (World Sent) PyExc (Response Answer ⊕ Value) :=
  fun w =>
    if cfg.simulateDbDisconnect then (.error .connectionError, w)
    else if !cfg.hasSessionFactory then (.error .runtimeError, w)
    else match run faults Db.rollback block w.db with
      | .committed result db => (.ok result, { db := db, trace := w.trace ++ [.committed] })
      | .rolledBack exc db => (.error exc, { w with db := db })

/-- Nothing of the committed rows changed, and nothing was sent. -/
structure Untouched (w w' : World Sent) : Prop where
  rows : Db.SameRows w'.db w.db
  silent : w'.trace = w.trace ∨ w'.trace = w.trace ++ [.committed]

theorem Untouched.refl (w : World Sent) : Untouched w w :=
  ⟨⟨fun _ => rfl, fun _ => rfl, fun _ => rfl, fun _ => rfl, rfl, rfl, rfl⟩, Or.inl rfl⟩

/-- The block was left with an error answer, or an exception came out of it. -/
def Refused (result : Except PyExc (Response Answer ⊕ Value)) : Prop :=
  (∃ message, result = .ok (.inl (.error message))) ∨ ∃ e, result = .error e

/-- A block whose early returns are errors and come before its first write
commits its effect, or leaves the database as it was. -/
theorem getDb_atomic (cfg : DbConfig) (faults : Faults PyExc)
    {block : Block Db PyExc (Response Answer) Value} (h : Leaves Response.IsError block)
    (w : World Sent) :
    (∃ a t, block ⟨w.db, 0⟩ = (.ok a, t) ∧ getDb cfg faults block w =
      (.ok (.inr a), { db := t.state, trace := w.trace ++ [.committed] })) ∨
    (Refused (getDb cfg faults block w).1 ∧ Untouched w (getDb cfg faults block w).2) := by
  unfold getDb
  by_cases hchaos : cfg.simulateDbDisconnect = true
  · rw [if_pos hchaos]
    exact Or.inr ⟨Or.inr ⟨_, rfl⟩, Untouched.refl w⟩
  rw [if_neg hchaos]
  by_cases hsession : (!cfg.hasSessionFactory) = true
  · rw [if_pos hsession]
    exact Or.inr ⟨Or.inr ⟨_, rfl⟩, Untouched.refl w⟩
  rw [if_neg hsession]
  rcases run_atomic faults Db.rollback h w.db with
    ⟨a, t, hblock, hrun⟩ | ⟨r, hr, hrun⟩ | ⟨e, t, hrun⟩
  · rw [hrun]
    exact Or.inl ⟨a, t, hblock, rfl⟩
  · rw [hrun]
    rcases r with message | body
    · exact Or.inr ⟨Or.inl ⟨message, rfl⟩, (Untouched.refl w).rows, Or.inr rfl⟩
    · exact False.elim hr
  · rw [hrun]
    exact Or.inr ⟨Or.inr ⟨e, rfl⟩, Db.rollback_sameRows _ _, Or.inl rfl⟩

end GetDb

end RequestContext

import CrmPortal.Library.ReadCommitted
import CrmPortal.ShopMirror

/-!
# Catalogue requests that run at the same time

Updates and deletions of one product, each a transaction followed by a push. A
request loads the row, sends what its session has changed, commits, and only then
calls the shop; nothing orders the calls of different requests. The shop keeps
the record that arrives last.
-/

namespace CatalogRace

open PyValue CrmDatabase ShopCatalogSync Products CatalogAtomicity ShopMirror ReadCommitted

inductive Change where
  | update (payload : ProductMutation)
  | delete

/-- How far a request has got; `seen` counts the commits before its SELECT. -/
inductive Stage where
  | waiting
  | loaded (row : Product) (seen : Nat)
  | flushed (record : ShopRecord) (seen : Nat)
  | pushing (record : ShopRecord)
  | finished

/-- `current` tells that no other request committed since the SELECT. -/
structure Commit (Req : Type) where
  request : Req
  current : Bool

/-- `locked` is the row of the transaction that has written and not committed. -/
structure State (Req : Type) where
  committed : Option Product
  locked : Option (Req × Option Product)
  stage : Req → Stage
  commits : List (Commit Req)
  arrivals : List (Req × ShopRecord)
  shop : RemoteShop

inductive Action (Req : Type) where
  | load (r : Req)
  | abort (r : Req)
  | flush (r : Req) (linked : Bool)
  | commit (r : Req)
  | arrive (r : Req)

/-- The ORM's UPDATE of a product, column by column. -/
def overwriteProduct (loaded found new : Product) : Product where
  shopId := pick loaded.shopId found.shopId new.shopId
  name := pick loaded.name found.name new.name
  sku := pick loaded.sku found.sku new.sku
  description := pick loaded.description found.description new.description
  price := pick loaded.price found.price new.price
  stock := pick loaded.stock found.stock new.stock
  category := pick loaded.category found.category new.category
  imageUrl := pick loaded.imageUrl found.imageUrl new.imageUrl
  isActive := pick loaded.isActive found.isActive new.isActive

theorem overwriteProduct_current (loaded new : Product) :
    overwriteProduct loaded loaded new = new := by
  simp only [overwriteProduct, pick_current]

/-- The row that the session has after its assignments; `none` when it deletes it. -/
def Change.row (change : Change) (linked : Bool) (loaded : Product) : Option Product :=
  match change with
  | .update payload => some payload.row
  | .delete => if linked then some (deactivated loaded) else none

/-- What the request will tell the shop. -/
def Change.record (py : Builtins) (change : Change) (loaded : Product) : ShopRecord :=
  match change with
  | .update payload => payloadOf py payload.row
  | .delete => { payloadOf py loaded with isActive := 0 }

section Steps
variable {Req : Type} [DecidableEq Req]

namespace State

def setStage (s : State Req) (r : Req) (stage : Stage) : State Req :=
  { s with stage := Function.update s.stage r stage }

/-- A request for a product that is not there answers an error. -/
def load (s : State Req) (r : Req) : Option (State Req) :=
  match s.stage r, s.committed with
  | .waiting, some row => some (s.setStage r (.loaded row s.commits.length))
  | .waiting, none => some (s.setStage r .finished)
  | _, _ => none

def release (s : State Req) (r : Req) : Option (Req × Option Product) :=
  match s.locked with
  | some (owner, row) => if owner = r then none else some (owner, row)
  | none => none

/-- An error answer, an exception or a lost connection before the commit. -/
def abort (s : State Req) (r : Req) : Option (State Req) :=
  match s.stage r with
  | .pushing _ => none
  | .finished => none
  | _ => some { s.setStage r .finished with locked := s.release r }

/-- Nothing is sent for an unchanged row. A statement waits for the lock; an
UPDATE that then finds no row raises, a DELETE does not. -/
def flush (py : Builtins) (change : Change) (s : State Req) (r : Req) (linked : Bool) :
    Option (State Req) :=
  match s.stage r with
  | .loaded row seen =>
    let sent := s.setStage r (.flushed (change.record py row) seen)
    if change.row linked row = some row then some sent
    else if s.locked.isSome then none
    else match change.row linked row, s.committed with
      | some new, some found =>
        some { sent with locked := some (r, some (overwriteProduct row found new)) }
      | some _, none => some (s.setStage r .finished)
      | none, some _ => some { sent with locked := some (r, none) }
      | none, none => some sent
  | _ => none

/-- The row as a commit of `r` leaves it. -/
def rowAfter (s : State Req) (r : Req) : Option Product :=
  match s.locked with
  | some (owner, row) => if owner = r then row else s.committed
  | none => s.committed

def commit (s : State Req) (r : Req) : Option (State Req) :=
  match s.stage r with
  | .flushed record seen => some
    { s.setStage r (.pushing record) with
      committed := s.rowAfter r
      locked := s.release r
      commits := s.commits ++ [⟨r, decide (seen = s.commits.length)⟩] }
  | _ => none

def arrive (s : State Req) (r : Req) : Option (State Req) :=
  match s.stage r with
  | .pushing record => some
    { s.setStage r .finished with
      arrivals := s.arrivals ++ [(r, record)]
      shop := putRecord s.shop record }
  | _ => none

end State

def step (py : Builtins) (change : Req → Change) (s : State Req) : Action Req → Option (State Req)
  | .load r => s.load r
  | .abort r => s.abort r
  | .flush r linked => s.flush py (change r) r linked
  | .commit r => s.commit r
  | .arrive r => s.arrive r

/-- The product is in the CRM, and no request has begun. -/
def start (row : Product) (shop : RemoteShop) : State Req where
  committed := some row
  locked := none
  stage := fun _ => .waiting
  commits := []
  arrivals := []
  shop := shop

end Steps

/-- One request by itself: the row that the handler stores and the record that it
pushes are those of `Change`. -/
theorem updateProductBlock_change {env : HandlerEnv} {request : RequestContext.Request}
    {actor : RequestContext.User} {w t : UnitOfWork.Work Db} {id : Nat}
    {payload : ProductMutation} {serialized : SerializedProduct}
    (h : updateProductBlock env request actor id payload w = (.ok serialized, t)) :
    ∃ old, w.state.products.row id = some old ∧
      t.state.products.row id = some (overwriteProduct old old payload.row) ∧
      buildShopSyncPayload env.py serialized = (Change.update payload).record env.py old := by
  obtain ⟨old, products, shopName, hold, hreplace, rfl, hstate⟩ := updateProductBlock_ok h
  refine ⟨old, hold, ?_, rfl⟩
  rw [hstate, overwriteProduct_current]
  exact ((IdentityTable.Table.replace_eq_some hreplace).2 id).trans (if_pos rfl)

theorem deleteProductBlock_change {env : HandlerEnv} {request : RequestContext.Request}
    {actor : RequestContext.User} {w t : UnitOfWork.Work Db} {id : Nat}
    {result : Bool × SerializedProduct}
    (h : deleteProductBlock env request actor id w = (.ok result, t)) :
    ∃ old linked, w.state.products.row id = some old ∧
      t.state.products.row id =
        (Change.delete.row linked old).map (overwriteProduct old old) ∧
      buildShopSyncPayload env.py result.2 = Change.delete.record env.py old := by
  obtain ⟨old, products, row, hold, hrows, -, -, hpushed, hstate, -⟩ := deleteProductBlock_ok h
  refine ⟨old, decide (linkedOrders w.state id ≠ 0), hold, ?_, hpushed env.py⟩
  have hleft : t.state.products.row id = leftOf w.state id old := by
    rw [hstate]
    exact (hrows id).trans (if_pos rfl)
  rw [hleft, leftOf]
  by_cases hlinked : linkedOrders w.state id = 0
  · simp [hlinked, Change.row]
  · simp [hlinked, Change.row, overwriteProduct_current]

/-- The record that the shop keeps for a committed row; a product that is gone
has an inactive one. -/
def Agrees (py : Builtins) (committed : Option Product) (record : ShopRecord) : Prop :=
  match committed with
  | some row => record = payloadOf py row
  | none => record.isActive = 0

/-- What a request may tell the shop, whatever it has loaded. -/
def Told (py : Builtins) (change : Change) (record : ShopRecord) : Prop :=
  match change with
  | .update payload => record = payloadOf py payload.row
  | .delete => record.isActive = 0

/-- The request leaves the product under its SKU. -/
def Change.Keeps (sku : String) : Change → Prop
  | .update payload => payload.sku = sku
  | .delete => True

/-- `request` committed last, with nobody in between. -/
def CommittedLast {Req : Type} (s : State Req) (r : Req) : Prop :=
  s.commits.getLast? = some ⟨r, true⟩

section Invariant
variable {Req : Type} [DecidableEq Req] {py : Builtins} {sku : String} {change : Req → Change}
  {s t : State Req} {q r : Req} {linked : Bool}

/-- What is known of a request at its stage. -/
def StageInv (py : Builtins) (sku : String) (change : Change) (s : State Req) (r : Req) :
    Stage → Prop
  | .waiting => True
  | .loaded row seen => row.sku = sku ∧ seen ≤ s.commits.length ∧
      (seen = s.commits.length → s.committed = some row)
  | .flushed record seen => record.sku = py.upper (py.strip sku) ∧ Told py change record ∧
      seen ≤ s.commits.length ∧ (seen = s.commits.length → Agrees py (s.rowAfter r) record)
  | .pushing record => record.sku = py.upper (py.strip sku) ∧ Told py change record ∧
      (CommittedLast s r → Agrees py s.committed record)
  | .finished => True

structure Inv (py : Builtins) (sku : String) (change : Req → Change) (s : State Req) : Prop where
  stages : ∀ r, StageInv py sku (change r) s r (s.stage r)
  owner : ∀ r row, s.locked = some (r, row) → ∃ record seen, s.stage r = .flushed record seen
  committedSku : ∀ row, s.committed = some row → row.sku = sku
  lockedSku : ∀ r row, s.locked = some (r, some row) → row.sku = sku
  committers : ∀ c ∈ s.commits, s.stage c.request = .finished ∨
    ∃ record, s.stage c.request = .pushing record
  arrived : ∀ arrival ∈ s.arrivals, s.stage arrival.1 = .finished
  shop : ∀ r record, s.arrivals.getLast? = some (r, record) →
    s.shop (py.upper (py.strip sku)) = some record ∧ Told py (change r) record ∧
      (CommittedLast s r → Agrees py s.committed record)

theorem inv_start {row : Product} (hrow : row.sku = sku) (shop : RemoteShop) :
    Inv py sku change (start row shop) where
  stages := fun _ => trivial
  owner := by
    intro r row h
    cases h
  committedSku := by
    intro other h
    obtain rfl := Option.some.inj h
    exact hrow
  lockedSku := by
    intro r row h
    cases h
  committers := by
    intro c h
    cases h
  arrived := by
    intro arrival h
    cases h
  shop := by
    intro r record h
    cases h

theorem Change.record_told (py : Builtins) (change : Change) (row : Product) :
    Told py change (change.record py row) := by
  cases change with
  | update payload => rfl
  | delete => rfl

theorem Change.record_sku (py : Builtins) {change : Change} (h : change.Keeps sku) {row : Product}
    (hrow : row.sku = sku) : (change.record py row).sku = py.upper (py.strip sku) := by
  cases change with
  | update payload =>
    change py.upper (py.strip payload.sku) = _
    rw [show payload.sku = sku from h]
  | delete =>
    change py.upper (py.strip row.sku) = _
    rw [hrow]

/-- The record fits the row that the session has. -/
theorem Change.record_agrees (py : Builtins) (change : Change) (row : Product) (linked : Bool) :
    Agrees py (change.row linked row) (change.record py row) := by
  cases change with
  | update payload => rfl
  | delete =>
    cases linked with
    | true => exact (payloadOf_deactivated py row).symm
    | false => rfl

theorem Change.row_sku {change : Change} (h : change.Keeps sku) {row new : Product}
    (hrow : row.sku = sku) (hnew : change.row linked row = some new) : new.sku = sku := by
  cases change with
  | update payload =>
    obtain rfl := Option.some.inj hnew
    exact h
  | delete =>
    cases linked with
    | true =>
      obtain rfl := Option.some.inj hnew
      exact hrow
    | false => cases hnew

theorem overwriteProduct_sku {loaded found new : Product} (hfound : found.sku = sku)
    (hnew : new.sku = sku) : (overwriteProduct loaded found new).sku = sku := by
  rcases pick_cases loaded.sku found.sku new.sku with h | ⟨_, h⟩
  · exact h.trans hnew
  · exact h.trans hfound

@[simp] theorem State.setStage_self (s : State Req) (r : Req) (stage : Stage) :
    (s.setStage r stage).stage r = stage := by
  simp [State.setStage]

theorem State.setStage_of_ne (s : State Req) (stage : Stage) (h : q ≠ r) :
    (s.setStage r stage).stage q = s.stage q := by
  simp [State.setStage, h]

theorem rowAfter_self {row : Option Product} (h : s.locked = some (r, row)) :
    s.rowAfter r = row := by
  simp [State.rowAfter, h]

theorem rowAfter_other (h : ∀ row, s.locked ≠ some (r, row)) : s.rowAfter r = s.committed := by
  unfold State.rowAfter
  split
  · next owner row hlock =>
    split
    · next howner => exact absurd (howner ▸ hlock) (h row)
    · rfl
  · rfl

theorem release_eq_some {row : Option Product} (h : s.release r = some (q, row)) :
    q ≠ r ∧ s.locked = some (q, row) := by
  unfold State.release at h
  split at h
  · next owner other hlock =>
    split at h
    · cases h
    · next howner =>
      obtain ⟨rfl, rfl⟩ := Prod.ext_iff.mp (Option.some.inj h)
      exact ⟨howner, hlock⟩
  · cases h

/-- A step of `r` before its commit, as the others see it. -/
structure Quiet (r : Req) (s t : State Req) : Prop where
  committed : t.committed = s.committed
  commits : t.commits = s.commits
  arrivals : t.arrivals = s.arrivals
  shop : t.shop = s.shop
  stage : ∀ q, q ≠ r → t.stage q = s.stage q
  locked : ∀ q row, q ≠ r → (t.locked = some (q, row) ↔ s.locked = some (q, row))
  running : s.stage r ≠ .finished ∧ ∀ record, s.stage r ≠ .pushing record

theorem Quiet.rowAfter (hquiet : Quiet r s t) (hq : q ≠ r) : t.rowAfter q = s.rowAfter q := by
  by_cases hlock : ∃ row, s.locked = some (q, row)
  · obtain ⟨row, hrow⟩ := hlock
    rw [rowAfter_self hrow, rowAfter_self ((hquiet.locked q row hq).mpr hrow)]
  · have hfree : ∀ row, s.locked ≠ some (q, row) := fun row hrow => hlock ⟨row, hrow⟩
    rw [rowAfter_other hfree, rowAfter_other fun row hrow =>
      hfree row ((hquiet.locked q row hq).mp hrow), hquiet.committed]

/-- What is known of a request rests on the commits and on the row that it finds. -/
theorem StageInv.congr {stage : Stage} (h : StageInv py sku (change q) s q stage)
    (hcommits : t.commits = s.commits) (hcommitted : t.committed = s.committed)
    (hrow : t.rowAfter q = s.rowAfter q) : StageInv py sku (change q) t q stage := by
  cases stage with
  | waiting => trivial
  | loaded row seen =>
    obtain ⟨hsku, hseen, hcurrent⟩ := h
    exact ⟨hsku, by rw [hcommits]; exact hseen, by rw [hcommits, hcommitted]; exact hcurrent⟩
  | flushed record seen =>
    obtain ⟨hsku, htold, hseen, hcurrent⟩ := h
    exact ⟨hsku, htold, by rw [hcommits]; exact hseen, by rw [hcommits, hrow]; exact hcurrent⟩
  | pushing record =>
    obtain ⟨hsku, htold, hlast⟩ := h
    exact ⟨hsku, htold, by rw [CommittedLast, hcommits, hcommitted]; exact hlast⟩
  | finished => trivial

omit [DecidableEq Req] in
theorem not_committedLast_concat {c : Commit Req} (hcommits : t.commits = s.commits ++ [c])
    (hc : c.request ≠ q) : ¬ CommittedLast t q := by
  intro hlast
  rw [CommittedLast, hcommits, List.getLast?_concat] at hlast
  rw [Option.some.inj hlast] at hc
  exact hc rfl

/-- Once another request has committed, what a request has loaded is not the last word. -/
theorem StageInv.overtaken {c : Commit Req} {stage : Stage}
    (h : StageInv py sku (change q) s q stage) (hcommits : t.commits = s.commits ++ [c])
    (hc : c.request ≠ q) : StageInv py sku (change q) t q stage := by
  have hlength : t.commits.length = s.commits.length + 1 := by
    rw [hcommits]
    simp
  cases stage with
  | waiting => trivial
  | loaded row seen =>
    obtain ⟨hsku, hseen, _⟩ := h
    exact ⟨hsku, by omega, fun hlast => by omega⟩
  | flushed record seen =>
    obtain ⟨hsku, htold, hseen, _⟩ := h
    exact ⟨hsku, htold, by omega, fun hlast => by omega⟩
  | pushing record =>
    obtain ⟨hsku, htold, _⟩ := h
    exact ⟨hsku, htold, fun hlast => absurd hlast (not_committedLast_concat hcommits hc)⟩
  | finished => trivial

theorem Quiet.inv (hquiet : Quiet r s t) (h : Inv py sku change s)
    (hstage : StageInv py sku (change r) t r (t.stage r))
    (howner : ∀ row, t.locked = some (r, row) → (∃ record seen, t.stage r = .flushed record seen) ∧
      ∀ product, row = some product → product.sku = sku) : Inv py sku change t where
  stages := by
    intro q
    obtain rfl | hq := eq_or_ne q r
    · exact hstage
    · rw [hquiet.stage q hq]
      exact (h.stages q).congr hquiet.commits hquiet.committed (hquiet.rowAfter hq)
  owner := by
    intro q row hlock
    obtain rfl | hq := eq_or_ne q r
    · exact (howner row hlock).1
    · rw [hquiet.stage q hq]
      exact h.owner q row ((hquiet.locked q row hq).mp hlock)
  committedSku := by
    rw [hquiet.committed]
    exact h.committedSku
  lockedSku := by
    intro q row hlock
    obtain rfl | hq := eq_or_ne q r
    · exact (howner _ hlock).2 row rfl
    · exact h.lockedSku q row ((hquiet.locked q _ hq).mp hlock)
  committers := by
    intro c hc
    rw [hquiet.commits] at hc
    have hdone := h.committers c hc
    have hc' : c.request ≠ r := by
      intro hcr
      rw [hcr] at hdone
      rcases hdone with hfinished | ⟨record, hpushing⟩
      · exact hquiet.running.1 hfinished
      · exact hquiet.running.2 record hpushing
    rw [hquiet.stage _ hc']
    exact hdone
  arrived := by
    intro arrival harrival
    rw [hquiet.arrivals] at harrival
    have hdone := h.arrived arrival harrival
    have hr : arrival.1 ≠ r := by
      intro hr
      rw [hr] at hdone
      exact hquiet.running.1 hdone
    rw [hquiet.stage _ hr]
    exact hdone
  shop := by
    intro q record hlast
    rw [hquiet.arrivals] at hlast
    rw [hquiet.shop, CommittedLast, hquiet.commits, hquiet.committed]
    exact h.shop q record hlast

/-- A step that moves `r` on and leaves the lock alone. -/
theorem quiet_setStage (s : State Req) (stage : Stage)
    (hrunning : s.stage r ≠ .finished ∧ ∀ record, s.stage r ≠ .pushing record) :
    Quiet r s (s.setStage r stage) where
  committed := rfl
  commits := rfl
  arrivals := rfl
  shop := rfl
  stage := fun _ hq => s.setStage_of_ne stage hq
  locked := fun _ _ _ => Iff.rfl
  running := hrunning

/-- Only a request that has flushed holds the row. -/
theorem Inv.unlocked (h : Inv py sku change s) (hstage : ∀ record seen,
    s.stage r ≠ .flushed record seen) (row : Option Product) : s.locked ≠ some (r, row) := by
  intro hlock
  obtain ⟨record, seen, hflushed⟩ := h.owner r row hlock
  exact hstage record seen hflushed

theorem inv_load (h : Inv py sku change s) (hstep : s.load r = some t) : Inv py sku change t := by
  unfold State.load at hstep
  split at hstep
  · next row hwaiting hcommitted =>
    obtain rfl := Option.some.inj hstep
    refine (quiet_setStage s _ (by rw [hwaiting]; simp)).inv h ?_ ?_
    · rw [State.setStage_self]
      exact ⟨h.committedSku row hcommitted, le_refl _, fun _ => hcommitted⟩
    · intro locked hlock
      exact absurd hlock (h.unlocked (by rw [hwaiting]; simp) locked)
  · next hwaiting hcommitted =>
    obtain rfl := Option.some.inj hstep
    refine (quiet_setStage s _ (by rw [hwaiting]; simp)).inv h ?_ ?_
    · rw [State.setStage_self]
      trivial
    · intro locked hlock
      exact absurd hlock (h.unlocked (by rw [hwaiting]; simp) locked)
  · cases hstep

theorem inv_abort (h : Inv py sku change s) (hstep : s.abort r = some t) :
    Inv py sku change t := by
  unfold State.abort at hstep
  split at hstep
  · cases hstep
  · cases hstep
  · next hpushing hfinished =>
    obtain rfl := Option.some.inj hstep
    have hquiet := quiet_setStage s .finished ⟨hfinished, hpushing⟩
    refine Quiet.inv (s := s) (r := r)
      ⟨rfl, rfl, rfl, rfl, hquiet.stage, ?_, hquiet.running⟩ h ?_ ?_
    · intro q row hq
      constructor
      · intro hlock
        exact (release_eq_some hlock).2
      · intro hlock
        change s.release r = some (q, row)
        unfold State.release
        rw [hlock]
        exact if_neg hq
    · rw [show ({ s.setStage r .finished with locked := s.release r } : State Req).stage r =
        .finished from State.setStage_self s r .finished]
      trivial
    · intro row hlock
      exact absurd rfl (release_eq_some hlock).1

/-- What a flush can do: send nothing, take the lock with the new row, or raise. -/
theorem flush_cases {change : Change} (h : s.flush py change r linked = some t) :
    ∃ row seen, s.stage r = .loaded row seen ∧
      ((t = s.setStage r (.flushed (change.record py row) seen) ∧
          (change.row linked row = some row ∨
            change.row linked row = none ∧ s.committed = none)) ∨
        (∃ found, s.locked = none ∧ s.committed = some found ∧
          t = { s.setStage r (.flushed (change.record py row) seen) with
            locked := some (r, (change.row linked row).map (overwriteProduct row found)) }) ∨
        t = s.setStage r .finished) := by
  unfold State.flush at h
  split at h
  · next row seen hstage =>
    refine ⟨row, seen, hstage, ?_⟩
    dsimp only at h
    split at h
    · next hsame => exact Or.inl ⟨(Option.some.inj h).symm, Or.inl hsame⟩
    · split at h
      · cases h
      · next hfree =>
        have hlocked : s.locked = none := by simpa using hfree
        split at h
        · next new found hnew hfound =>
          exact Or.inr (Or.inl ⟨found, hlocked, hfound, by
            rw [hnew]; exact (Option.some.inj h).symm⟩)
        · exact Or.inr (Or.inr (Option.some.inj h).symm)
        · next found hnew hfound =>
          exact Or.inr (Or.inl ⟨found, hlocked, hfound, by
            rw [hnew]; exact (Option.some.inj h).symm⟩)
        · next hnew hfound =>
          exact Or.inl ⟨(Option.some.inj h).symm, Or.inr ⟨hnew, hfound⟩⟩
  · cases h

/-- If the loaded row is still the committed one, the flush leaves what the
session has. -/
theorem inv_flush (h : Inv py sku change s) (hkeeps : (change r).Keeps sku)
    (hstep : s.flush py (change r) r linked = some t) : Inv py sku change t := by
  obtain ⟨row, seen, hstage, hcases⟩ := flush_cases hstep
  have hrunning : s.stage r ≠ .finished ∧ ∀ record, s.stage r ≠ .pushing record := by
    rw [hstage]
    simp
  have hunlocked : ∀ locked, s.locked ≠ some (r, locked) := h.unlocked (by rw [hstage]; simp)
  have hinv := h.stages r
  rw [hstage] at hinv
  obtain ⟨hsku, hseen, hcurrent⟩ := hinv
  have hrecord := Change.record_sku py hkeeps hsku
  have htold := (change r).record_told py row
  have hagrees := (change r).record_agrees py row linked
  rcases hcases with ⟨rfl, hsent⟩ | ⟨found, hfree, hfound, rfl⟩ | rfl
  · refine (quiet_setStage s _ hrunning).inv h ?_ fun locked hlock =>
      absurd hlock (hunlocked locked)
    rw [State.setStage_self]
    refine ⟨hrecord, htold, hseen, ?_⟩
    intro hlast
    rw [rowAfter_other (s := s.setStage r _) hunlocked]
    have hcommitted : s.committed = some row := hcurrent hlast
    rcases hsent with hsame | ⟨_, hgone⟩
    · change Agrees py s.committed _
      rw [hcommitted, ← hsame]
      exact hagrees
    · rw [hgone] at hcommitted
      cases hcommitted
  · have hquiet := quiet_setStage s (.flushed ((change r).record py row) seen) hrunning
    refine Quiet.inv (s := s) (r := r) ⟨rfl, rfl, rfl, rfl, hquiet.stage, ?_, hrunning⟩ h ?_ ?_
    · intro q locked hq
      rw [hfree]
      constructor
      · intro hlock
        exact absurd (Prod.ext_iff.mp (Option.some.inj hlock)).1.symm hq
      · intro hlock
        cases hlock
    · have hself := s.setStage_self r (.flushed ((change r).record py row) seen)
      change StageInv py sku (change r) _ r ((s.setStage r _).stage r)
      rw [hself]
      refine ⟨hrecord, htold, hseen, ?_⟩
      intro hlast
      rw [rowAfter_self rfl]
      obtain rfl : found = row := Option.some.inj (hfound.symm.trans (hcurrent hlast))
      have hmap : ((change r).row linked found).map (overwriteProduct found found) =
          (change r).row linked found := by
        rcases (change r).row linked found with _ | new
        · rfl
        · rw [Option.map_some, overwriteProduct_current]
      rw [hmap]
      exact hagrees
    · intro locked hlock
      obtain ⟨_, rfl⟩ := Prod.ext_iff.mp (Option.some.inj hlock)
      refine ⟨⟨_, _, s.setStage_self r _⟩, ?_⟩
      intro product hproduct
      obtain ⟨new, hnew, rfl⟩ := Option.map_eq_some_iff.mp hproduct
      exact overwriteProduct_sku (h.committedSku found hfound) (Change.row_sku hkeeps hsku hnew)
  · refine (quiet_setStage s _ hrunning).inv h ?_ fun locked hlock =>
      absurd hlock (hunlocked locked)
    rw [State.setStage_self]
    trivial

theorem Inv.rowAfterSku (h : Inv py sku change s) (row : Product)
    (hrow : s.rowAfter r = some row) : row.sku = sku := by
  by_cases hlock : ∃ mine, s.locked = some (r, mine)
  · obtain ⟨mine, hmine⟩ := hlock
    rw [rowAfter_self hmine] at hrow
    exact h.lockedSku r row (hrow ▸ hmine)
  · rw [rowAfter_other fun mine hmine => hlock ⟨mine, hmine⟩] at hrow
    exact h.committedSku row hrow

/-- A commit of `r`, field by field. -/
structure Committed (s t : State Req) (r : Req) (record : ShopRecord) (seen : Nat) : Prop where
  flushed : s.stage r = .flushed record seen
  committed : t.committed = s.rowAfter r
  locked : t.locked = s.release r
  commits : t.commits = s.commits ++ [⟨r, decide (seen = s.commits.length)⟩]
  arrivals : t.arrivals = s.arrivals
  shop : t.shop = s.shop
  stage : t.stage r = .pushing record
  stages : ∀ q, q ≠ r → t.stage q = s.stage q

theorem commit_cases (h : s.commit r = some t) : ∃ record seen, Committed s t r record seen := by
  unfold State.commit at h
  split at h
  · next record seen hstage =>
    obtain rfl := Option.some.inj h
    exact ⟨record, seen, {
      flushed := hstage
      committed := rfl
      locked := rfl
      commits := rfl
      arrivals := rfl
      shop := rfl
      stage := s.setStage_self r _
      stages := fun q hq => s.setStage_of_ne _ hq }⟩
  · cases h

section Commit
variable {record : ShopRecord} {seen : Nat}

/-- The request that commits has told the truth if nobody committed since its SELECT. -/
theorem Committed.stageInv (hc : Committed s t r record seen) (h : Inv py sku change s) (q : Req) :
    StageInv py sku (change q) t q (t.stage q) := by
  obtain rfl | hq := eq_or_ne q r
  · have hinv := h.stages q
    rw [hc.flushed] at hinv
    obtain ⟨hrecord, htold, -, hcurrent⟩ := hinv
    rw [hc.stage]
    refine ⟨hrecord, htold, fun hlast => ?_⟩
    rw [CommittedLast, hc.commits, List.getLast?_concat] at hlast
    injection Option.some.inj hlast with _ hdecide
    rw [hc.committed]
    exact hcurrent (of_decide_eq_true hdecide)
  · rw [hc.stages q hq]
    exact (h.stages q).overtaken hc.commits hq.symm

theorem Committed.committer (hc : Committed s t r record seen) (h : Inv py sku change s)
    {c : Commit Req} (hmem : c ∈ t.commits) :
    t.stage c.request = .finished ∨ ∃ record, t.stage c.request = .pushing record := by
  by_cases hreq : c.request = r
  · rw [hreq, hc.stage]
    exact Or.inr ⟨record, rfl⟩
  · rw [hc.stages _ hreq]
    rw [hc.commits] at hmem
    rcases List.mem_append.mp hmem with hold | hlast
    · exact h.committers c hold
    · rw [List.mem_singleton.mp hlast] at hreq
      exact absurd rfl hreq

/-- A push that has arrived is not that of the request that commits. -/
theorem Committed.arrived_ne (hc : Committed s t r record seen) (h : Inv py sku change s)
    {arrival : Req × ShopRecord} (hmem : arrival ∈ s.arrivals) : arrival.1 ≠ r := by
  intro hr
  have hdone := h.arrived arrival hmem
  rw [hr, hc.flushed] at hdone
  cases hdone

theorem Committed.arrived (hc : Committed s t r record seen) (h : Inv py sku change s)
    {arrival : Req × ShopRecord} (hmem : arrival ∈ t.arrivals) :
    t.stage arrival.1 = .finished := by
  rw [hc.arrivals] at hmem
  rw [hc.stages _ (hc.arrived_ne h hmem)]
  exact h.arrived arrival hmem

theorem Committed.shopInv (hc : Committed s t r record seen) (h : Inv py sku change s)
    {other : ShopRecord} (hlast : t.arrivals.getLast? = some (q, other)) :
    t.shop (py.upper (py.strip sku)) = some other ∧ Told py (change q) other ∧
      (CommittedLast t q → Agrees py t.committed other) := by
  rw [hc.arrivals] at hlast
  rw [hc.shop]
  obtain ⟨hkept, htold, -⟩ := h.shop q other hlast
  have hne : q ≠ r := hc.arrived_ne h (List.mem_of_getLast? hlast)
  exact ⟨hkept, htold, fun hcommit =>
    absurd hcommit (not_committedLast_concat hc.commits hne.symm)⟩

end Commit

theorem inv_commit (h : Inv py sku change s) (hstep : s.commit r = some t) :
    Inv py sku change t := by
  obtain ⟨record, seen, hc⟩ := commit_cases hstep
  refine ⟨hc.stageInv h, ?_, ?_, ?_, fun c => hc.committer h, fun arrival => hc.arrived h,
    fun q other => hc.shopInv h⟩
  · intro q row hlock
    rw [hc.locked] at hlock
    obtain ⟨hq, hbefore⟩ := release_eq_some hlock
    rw [hc.stages q hq]
    exact h.owner q row hbefore
  · intro row hrow
    rw [hc.committed] at hrow
    exact h.rowAfterSku row hrow
  · intro q row hlock
    rw [hc.locked] at hlock
    exact h.lockedSku q row (release_eq_some hlock).2

/-- The shop's record is the one that has just arrived. -/
theorem inv_arrive (h : Inv py sku change s) (hstep : s.arrive r = some t) :
    Inv py sku change t := by
  unfold State.arrive at hstep
  split at hstep
  · next record hstage =>
    obtain rfl := Option.some.inj hstep
    have hinv := h.stages r
    rw [hstage] at hinv
    obtain ⟨hrecord, htold, hlast⟩ := hinv
    have hself := s.setStage_self r .finished
    have hother : ∀ q, q ≠ r → (s.setStage r .finished).stage q = s.stage q :=
      fun q hq => s.setStage_of_ne .finished hq
    refine ⟨?_, ?_, h.committedSku, h.lockedSku, ?_, ?_, ?_⟩
    · intro q
      change StageInv py sku (change q) _ q ((s.setStage r .finished).stage q)
      obtain rfl | hq := eq_or_ne q r
      · rw [hself]
        trivial
      · rw [hother q hq]
        exact (h.stages q).congr rfl rfl rfl
    · intro q row hlock
      obtain ⟨recordq, seen, hflushed⟩ := h.owner q row hlock
      have hq : q ≠ r := by
        rintro rfl
        rw [hstage] at hflushed
        cases hflushed
      exact ⟨recordq, seen, (hother q hq).trans hflushed⟩
    · intro c hc
      change (s.setStage r .finished).stage c.request = _ ∨
        ∃ recordc, (s.setStage r .finished).stage c.request = _
      by_cases hreq : c.request = r
      · rw [hreq, hself]
        exact Or.inl rfl
      · rw [hother _ hreq]
        exact h.committers c hc
    · intro arrival harrival
      change (s.setStage r .finished).stage arrival.1 = _
      by_cases hreq : arrival.1 = r
      · rw [hreq, hself]
      · rw [hother _ hreq]
        rcases List.mem_append.mp harrival with hold | hnew
        · exact h.arrived arrival hold
        · rw [List.mem_singleton.mp hnew] at hreq
          exact absurd rfl hreq
    · intro q other hlastArrival
      change (s.arrivals ++ [(r, record)]).getLast? = _ at hlastArrival
      rw [List.getLast?_concat] at hlastArrival
      obtain ⟨rfl, rfl⟩ := Prod.ext_iff.mp (Option.some.inj hlastArrival)
      refine ⟨?_, htold, hlast⟩
      change putRecord s.shop record _ = some record
      unfold putRecord
      rw [if_pos hrecord.symm]
  · cases hstep

theorem inv_step (hkeeps : ∀ r, (change r).Keeps sku) {a : Action Req} (h : Inv py sku change s)
    (hstep : step py change s a = some t) : Inv py sku change t := by
  cases a with
  | load r => exact inv_load h hstep
  | abort r => exact inv_abort h hstep
  | flush r linked => exact inv_flush h (hkeeps r) hstep
  | commit r => exact inv_commit h hstep
  | arrive r => exact inv_arrive h hstep

/-- The shop has the record of the request whose push arrived last. It is the
payload of the committed row if that request also committed last, with no other
commit after its SELECT. -/
theorem last_push_decides (hkeeps : ∀ r, (change r).Keeps sku) {row : Product}
    (hrow : row.sku = sku) (shop : RemoteShop) {schedule : List (Action Req)}
    (h : Schedule.exec (step py change) (start row shop) schedule = some s)
    {record : ShopRecord} (hlast : s.arrivals.getLast? = some (r, record)) :
    s.shop (py.upper (py.strip sku)) = some record ∧ Told py (change r) record ∧
      (CommittedLast s r → Agrees py s.committed record) := by
  have hinv : Inv py sku change s :=
    Schedule.exec_invariant (fun _ _ _ hs hstep => inv_step hkeeps hs hstep) h
      (inv_start hrow shop)
  exact hinv.shop r record hlast

end Invariant

theorem sampleSku_chars : ['C', 'A', 'M', '1'].all isSkuChar = true := rfl

/-- An update of CAM1 that sets its stock. -/
def stockUpdate (stock : Nat) (h : stock ≤ 1000000) : Change :=
  .update { sampleMutation 'C' 'A' 'M' '1' sampleSku_chars with
    stock := stock
    stockRange := ⟨Int.natCast_nonneg stock, Int.ofNat_le.mpr h⟩ }

def sampleChange : Bool → Change
  | false => stockUpdate 4 (by decide)
  | true => stockUpdate 3 (by decide)

def sampleProduct : Product := (sampleMutation 'C' 'A' 'M' '1' sampleSku_chars).row

def samplePy : Builtins := asciiBuiltins fun _ => ""

/-- The first request has committed before the second begins, and its push
arrives after the second one's. -/
def sampleSchedule : List (Action Bool) :=
  [.load false, .flush false false, .commit false, .load true, .flush true false, .commit true,
    .arrive true, .arrive false]

def Stage.isFinished : Stage → Bool
  | .finished => true
  | _ => false

theorem sampleChange_keeps (r : Bool) : (sampleChange r).Keeps "CAM1" := by
  cases r with
  | false => rfl
  | true => rfl

/-- All requests are through, the product has 3 in stock and the shop shows 4. -/
theorem pushes_arrive_out_of_order :
    ∃ s, Schedule.exec (step samplePy sampleChange) (start sampleProduct fun _ => none)
        sampleSchedule = some s ∧
      (∀ r, (s.stage r).isFinished = true) ∧
      ∃ record, s.shop "CAM1" = some record ∧ ¬ Agrees samplePy s.committed record := by
  have hrun : (Schedule.exec (step samplePy sampleChange) (start sampleProduct fun _ => none)
      sampleSchedule).any (fun s => decide ((s.stage false).isFinished = true ∧
        (s.stage true).isFinished = true ∧ (s.committed.map (payloadOf samplePy)).isSome = true ∧
        (s.shop "CAM1").isSome = true ∧
        s.shop "CAM1" ≠ s.committed.map (payloadOf samplePy))) = true := by
    decide +kernel
  obtain ⟨s, hs, hfacts⟩ := (Option.any_eq_true _ _).mp hrun
  obtain ⟨hfirst, hsecond, hsome, hshop, hdiffer⟩ := of_decide_eq_true hfacts
  refine ⟨s, hs, ?_, ?_⟩
  · intro r
    cases r with
    | false => exact hfirst
    | true => exact hsecond
  · obtain ⟨record, hrecord⟩ := Option.isSome_iff_exists.mp hshop
    refine ⟨record, hrecord, ?_⟩
    rcases hcommitted : s.committed with _ | row
    · rw [hcommitted] at hsome
      cases hsome
    · rintro rfl
      rw [hrecord, hcommitted] at hdiffer
      exact hdiffer rfl

/-- Without the late push the shop shows what is in stock. -/
theorem last_push_decides_sample :
    ∃ s record, Schedule.exec (step samplePy sampleChange) (start sampleProduct fun _ => none)
        (sampleSchedule.take 7) = some s ∧
      s.shop "CAM1" = some record ∧ Agrees samplePy s.committed record := by
  have hrun : (Schedule.exec (step samplePy sampleChange) (start sampleProduct fun _ => none)
      (sampleSchedule.take 7)).any (fun s => decide
        (s.arrivals.getLast?.map Prod.fst = some true ∧
          s.commits.getLast?.map (fun c => (c.request, c.current)) =
            some (true, true))) = true := by
    decide +kernel
  obtain ⟨s, hs, hfacts⟩ := (Option.any_eq_true _ _).mp hrun
  obtain ⟨harrived, hcommitted⟩ := of_decide_eq_true hfacts
  obtain ⟨⟨r, record⟩, harrival, rfl⟩ := Option.map_eq_some_iff.mp harrived
  obtain ⟨⟨request, current⟩, hcommit, heq⟩ := Option.map_eq_some_iff.mp hcommitted
  obtain ⟨rfl, rfl⟩ := Prod.mk.inj heq
  obtain ⟨hshop, _, hagrees⟩ :=
    last_push_decides sampleChange_keeps (by decide +kernel) (fun _ => none) hs harrival
  exact ⟨s, record, hs, hshop, hagrees hcommit⟩

end CatalogRace

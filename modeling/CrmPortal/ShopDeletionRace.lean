import Mathlib.Data.Fintype.Basic
import CrmPortal.Library.ForeignKey
import CrmPortal.Library.Schedule

/-!
# Deleting a shop beside the product handlers

`delete_shop` counts the products of the shop, and answers 409 if there are any. The flush
of the deletion then loads the products of the shop again and clears their `shop_id`
before the DELETE. `create_product` and `update_product` look the shop up before they
write. Each request is a transaction of its own under READ COMMITTED.
-/

namespace ShopDeletionRace

open ForeignKey Schedule

/-- What a request is to do; shops and products by their identities. -/
inductive Job where
  | deleteShop (shopId : Nat)
  | createProduct (shopId : Option Nat)
  | updateProduct (productId : Nat) (shopId : Option Nat)
  deriving DecidableEq

/-- How far a request has got. `loaded` and `checked` carry the `shop_id` of the product
that `update_product` has loaded; `checked` comes after the count or the lookup of the
shop, `found` after the ORM has loaded the products of the shop, with those it has not
cleared yet. -/
inductive Stage where
  | waiting
  | loaded (shopId : Option Nat)
  | checked (shopId : Option Nat)
  | found (children : List Nat)
  | flushed
  | finished
  deriving DecidableEq

inductive Action (Req : Type) where
  | load (r : Req)
  | check (r : Req)
  | loadChildren (r : Req)
  | clearChild (r : Req)
  | dropShop (r : Req)
  | write (r : Req)
  | commit (r : Req)
  | abort (r : Req)

def Action.request {Req : Type} : Action Req → Req
  | .load r | .check r | .loadChildren r | .clearChild r | .dropShop r | .write r | .commit r
  | .abort r => r

/-- `next` is the sequence of the product identities. -/
structure State (Req : Type) where
  tables : Tables Req Nat Nat
  next : Nat
  stage : Req → Stage

section Steps
variable {Req : Type} [DecidableEq Req] (job : Req → Job)

namespace State

def setStage (s : State Req) (r : Req) (stage : Stage) : State Req :=
  { s with stage := Function.update s.stage r stage }

/-- A statement waits, raises an IntegrityError that ends the request, or is done. -/
def after (s : State Req) (r : Req) (stage : Stage) : Outcome Req Nat Nat → Option (State Req)
  | .waits => none
  | .refused => some { s.setStage r .finished with tables := s.tables.forget r }
  | .done tables => some { s.setStage r stage with tables := tables }

/-- `db.get` of the shop or the product; a missing one is answered with an error. -/
def load (s : State Req) (r : Req) : Option (State Req) :=
  match s.stage r, job r with
  | .waiting, .deleteShop shopId =>
    some (s.setStage r (if shopId ∈ s.tables.parents then .loaded none else .finished))
  | .waiting, .createProduct _ => some (s.setStage r (.loaded none))
  | .waiting, .updateProduct productId _ =>
    match s.tables.current productId with
    | some shopId => some (s.setStage r (.loaded shopId))
    | none => some (s.setStage r .finished)
  | _, _ => none

/-- The count of the products, or the lookup of the shop that the payload names. -/
def check (s : State Req) (r : Req) : Option (State Req) :=
  match s.stage r, job r with
  | .loaded shopId, .deleteShop deleted =>
    some (s.setStage r (if s.tables.children deleted = [] then .checked shopId else .finished))
  | .loaded shopId, .createProduct assigned | .loaded shopId, .updateProduct _ assigned =>
    some (s.setStage r (if assigned.all fun id => decide (id ∈ s.tables.parents) then
      .checked shopId else .finished))
  | _, _ => none

/-- The flush of the deletion loads `shop.products`. -/
def loadChildren (s : State Req) (r : Req) : Option (State Req) :=
  match s.stage r, job r with
  | .checked _, .deleteShop shopId => some (s.setStage r (.found (s.tables.children shopId)))
  | _, _ => none

/-- UPDATE products SET shop_id = NULL for one of them. -/
def clearChild (s : State Req) (r : Req) : Option (State Req) :=
  match s.stage r with
  | .found (child :: rest) => s.after r (.found rest) (s.tables.write r child none)
  | _ => none

def dropShop (s : State Req) (r : Req) : Option (State Req) :=
  match s.stage r, job r with
  | .found [], .deleteShop shopId => s.after r .flushed (s.tables.drop r shopId)
  | _, _ => none

/-- INSERT, or UPDATE of the row; a `shop_id` that is the loaded one is not sent. -/
def write (s : State Req) (r : Req) : Option (State Req) :=
  match s.stage r, job r with
  | .checked _, .createProduct assigned =>
    { s with next := s.next + 1 }.after r .flushed (s.tables.write r s.next assigned)
  | .checked shopId, .updateProduct productId assigned =>
    if assigned = shopId then some (s.setStage r .flushed)
    else s.after r .flushed (s.tables.write r productId assigned)
  | _, _ => none

def commit (s : State Req) (r : Req) : Option (State Req) :=
  match s.stage r with
  | .flushed => some { s.setStage r .finished with tables := s.tables.commit r }
  | _ => none

/-- An error answer, an exception or a lost connection before the commit. -/
def abort (s : State Req) (r : Req) : Option (State Req) :=
  match s.stage r with
  | .finished => none
  | _ => some { s.setStage r .finished with tables := s.tables.forget r }

end State

def step (s : State Req) : Action Req → Option (State Req)
  | .load r => s.load job r
  | .check r => s.check job r
  | .loadChildren r => s.loadChildren job r
  | .clearChild r => s.clearChild r
  | .dropShop r => s.dropShop job r
  | .write r => s.write job r
  | .commit r => s.commit r
  | .abort r => s.abort r

/-- Shops and products as they are committed, every assignment to a shop that is there. -/
structure Catalogue where
  shops : List Nat
  products : List (Nat × Option Nat)
  next : Nat
  assigned : ∀ product shopId, List.lookup product products = some (some shopId) → shopId ∈ shops
  fresh : ∀ row ∈ products, row.1 < next

/-- Nothing is under way. -/
def start (Req : Type) (catalogue : Catalogue) : State Req where
  tables := ⟨catalogue.shops, catalogue.products, [], []⟩
  next := catalogue.next
  stage := fun _ => .waiting

/-- A step of `delete_shop` clears no committed assignment, and no step deletes a shop that a
committed product is assigned to. -/
structure Keeps (s t : State Req) (a : Action Req) : Prop where
  assignments : ∀ deleted, job a.request = .deleteShop deleted → ∀ product shopId,
    s.tables.current product = some (some shopId) → t.tables.current product = some (some shopId)
  shops : ∀ shopId ∈ s.tables.parents, shopId ∉ t.tables.parents →
    ∀ product, s.tables.current product ≠ some (some shopId)

/-- Every step that is taken keeps the assignments. -/
def KeepsAssignments (s : State Req) (a : Action Req) : Prop :=
  ∀ t, step job s a = some t → Keeps job s t a

/-- The request is a deletion of this shop that has counted its products and not yet loaded
them. -/
def BetweenCountAndLoad (s : State Req) (shopId : Option Nat) (r : Req) : Prop :=
  ∃ deleted, shopId = some deleted ∧ job r = .deleteShop deleted ∧
    ∃ loaded, s.stage r = .checked loaded

/-- No assignment to a shop is committed while a deletion of the shop is at this point. -/
def Undisturbed (s : State Req) : Action Req → Prop
  | .commit w => ∀ version ∈ s.tables.own w, ∀ r, ¬ BetweenCountAndLoad job s version.2 r
  | _ => True

omit [DecidableEq Req] in
theorem betweenCountAndLoad_iff {s : State Req} {shopId : Option Nat} {r : Req} :
    BetweenCountAndLoad job s shopId r ↔
      (match shopId, job r, s.stage r with
        | some assigned, .deleteShop deleted, .checked _ => decide (assigned = deleted)
        | _, _, _ => false) = true := by
  unfold BetweenCountAndLoad
  rcases shopId with _ | assigned
  · simp
  · rcases job r with deleted | created | ⟨product, updated⟩
    · rcases s.stage r with _ | loaded | loaded | children | _ | _ <;> simp [eq_comm]
    · simp
    · simp

instance (s : State Req) (shopId : Option Nat) (r : Req) :
    Decidable (BetweenCountAndLoad job s shopId r) :=
  decidable_of_iff' _ (betweenCountAndLoad_iff job)

instance [Fintype Req] (s : State Req) (a : Action Req) : Decidable (Undisturbed job s a) :=
  match a with
  | .commit w =>
    inferInstanceAs (Decidable (∀ version ∈ s.tables.own w, ∀ r,
      ¬ BetweenCountAndLoad job s version.2 r))
  | .load _ | .check _ | .loadChildren _ | .clearChild _ | .dropShop _ | .write _ | .abort _ =>
    isTrue trivial

/-- The new stage of the request and the tables behind its step. -/
inductive Effect (s : State Req) (r : Req) (stage : Stage) : Tables Req Nat Nat → Prop where
  | read (counted : ∀ shopId loaded, job r = .deleteShop shopId → stage = .checked loaded →
        s.tables.children shopId = [])
      (found : ∀ children, stage = .found children → ∃ shopId loaded,
        job r = .deleteShop shopId ∧ s.stage r = .checked loaded ∧
          children = s.tables.children shopId) : Effect s r stage s.tables
  | wrote (product : Nat) (ref : Option Nat) (tables : Tables Req Nat Nat)
      (done : s.tables.write r product ref = .done tables)
      (writer : ((∀ shopId, job r ≠ .deleteShop shopId) ∧ stage = .flushed) ∨
        ∃ rest, s.stage r = .found (product :: rest) ∧ stage = .found rest) :
      Effect s r stage tables
  | dropped (shopId : Nat) (tables : Tables Req Nat Nat) (deletes : job r = .deleteShop shopId)
      (done : s.tables.drop r shopId = .done tables) (flushed : stage = .flushed) :
      Effect s r stage tables
  | forgot (finished : stage = .finished) : Effect s r stage (s.tables.forget r)

variable {job} {s t : State Req} {a : Action Req}

theorem effect_of_after {s s' t : State Req} {r : Req} {stage : Stage}
    {outcome : Outcome Req Nat Nat} (h : s'.after r stage outcome = some t)
    (sameStage : s'.stage = s.stage) (sameTables : s'.tables = s.tables)
    (done : ∀ tables, outcome = .done tables → Effect job s r stage tables) :
    ∃ reached, t.stage = Function.update s.stage r reached ∧ Effect job s r reached t.tables := by
  cases outcome with
  | waits => cases h
  | refused =>
    cases h
    refine ⟨.finished, by rw [← sameStage]; rfl, ?_⟩
    rw [sameTables]
    exact .forgot rfl
  | done tables =>
    cases h
    exact ⟨stage, by rw [← sameStage]; rfl, done tables rfl⟩

theorem effect_read {r : Req} {stage : Stage} (unchecked : ∀ loaded, stage ≠ .checked loaded)
    (unfound : ∀ children, stage ≠ .found children) : Effect job s r stage s.tables :=
  .read (fun _ loaded _ h => absurd h (unchecked loaded)) fun children h =>
    absurd h (unfound children)

theorem load_effect {r : Req} (h : s.load job r = some t) :
    ∃ stage, t.stage = Function.update s.stage r stage ∧ Effect job s r stage t.tables := by
  unfold State.load at h
  split at h
  · cases h
    refine ⟨_, rfl, effect_read (fun loaded => ?_) fun children => ?_⟩ <;> split <;> simp
  · cases h
    exact ⟨_, rfl, effect_read (by simp) (by simp)⟩
  · split at h <;> cases h <;> exact ⟨_, rfl, effect_read (by simp) (by simp)⟩
  · cases h

theorem check_effect {r : Req} (h : s.check job r = some t) :
    ∃ stage, t.stage = Function.update s.stage r stage ∧ Effect job s r stage t.tables := by
  have hunfound : ∀ (children : List Nat) (passed : Prop) [Decidable passed] (shopId : Option Nat),
      (if passed then Stage.checked shopId else .finished) ≠ .found children := by
    intro children passed _ shopId
    split <;> simp
  unfold State.check at h
  split at h
  · next shopId deleted hstage hjob =>
    cases h
    refine ⟨_, rfl, .read (fun counted loaded hdeletes hchecked => ?_) fun children hfound =>
      absurd hfound (hunfound children _ _)⟩
    cases hjob.symm.trans hdeletes
    by_contra hsome
    rw [if_neg hsome] at hchecked
    cases hchecked
  · next shopId assigned hstage hjob =>
    cases h
    refine ⟨_, rfl, .read (fun counted loaded hdeletes _ => ?_) fun children hfound =>
      absurd hfound (hunfound children _ _)⟩
    cases hjob.symm.trans hdeletes
  · next shopId productId assigned hstage hjob =>
    cases h
    refine ⟨_, rfl, .read (fun counted loaded hdeletes _ => ?_) fun children hfound =>
      absurd hfound (hunfound children _ _)⟩
    cases hjob.symm.trans hdeletes
  · cases h

theorem loadChildren_effect {r : Req} (h : s.loadChildren job r = some t) :
    ∃ stage, t.stage = Function.update s.stage r stage ∧ Effect job s r stage t.tables := by
  unfold State.loadChildren at h
  split at h
  · next loaded shopId hstage hjob =>
    cases h
    refine ⟨_, rfl, .read (fun _ _ _ hchecked => by cases hchecked) fun children hfound => ?_⟩
    exact ⟨shopId, loaded, hjob, hstage, (Stage.found.inj hfound).symm⟩
  · cases h

theorem clearChild_effect {r : Req} (h : s.clearChild r = some t) :
    ∃ stage, t.stage = Function.update s.stage r stage ∧ Effect job s r stage t.tables := by
  unfold State.clearChild at h
  split at h
  · next child rest hstage =>
    exact effect_of_after h rfl rfl fun tables hdone =>
      .wrote child none tables hdone (Or.inr ⟨rest, hstage, rfl⟩)
  · cases h

theorem dropShop_effect {r : Req} (h : s.dropShop job r = some t) :
    ∃ stage, t.stage = Function.update s.stage r stage ∧ Effect job s r stage t.tables := by
  unfold State.dropShop at h
  split at h
  · next shopId hstage hjob =>
    exact effect_of_after h rfl rfl fun tables hdone => .dropped shopId tables hjob hdone rfl
  · cases h

theorem write_effect {r : Req} (h : s.write job r = some t) :
    ∃ stage, t.stage = Function.update s.stage r stage ∧ Effect job s r stage t.tables := by
  unfold State.write at h
  split at h
  · next loaded assigned hstage hjob =>
    refine effect_of_after h rfl rfl fun tables hdone =>
      .wrote s.next assigned tables hdone (Or.inl ⟨fun shopId hdeletes => ?_, rfl⟩)
    cases hjob.symm.trans hdeletes
  · next loaded productId assigned hstage hjob =>
    split at h
    · cases h
      exact ⟨_, rfl, effect_read (by simp) (by simp)⟩
    · refine effect_of_after h rfl rfl fun tables hdone =>
        .wrote productId assigned tables hdone (Or.inl ⟨fun shopId hdeletes => ?_, rfl⟩)
      cases hjob.symm.trans hdeletes
  · cases h

theorem abort_effect {r : Req} (h : s.abort r = some t) :
    ∃ stage, t.stage = Function.update s.stage r stage ∧ Effect job s r stage t.tables := by
  unfold State.abort at h
  split at h
  · cases h
  · cases h
    exact ⟨_, rfl, .forgot rfl⟩

/-- A step moves one request, and either commits it or has one of the effects. -/
theorem step_cases (h : step job s a = some t) :
    (∃ r, a = .commit r ∧ t.stage = Function.update s.stage r .finished ∧
      t.tables = s.tables.commit r) ∨
    ∃ stage, t.stage = Function.update s.stage a.request stage ∧
      Effect job s a.request stage t.tables := by
  cases a with
  | load r => exact Or.inr (load_effect h)
  | check r => exact Or.inr (check_effect h)
  | loadChildren r => exact Or.inr (loadChildren_effect h)
  | clearChild r => exact Or.inr (clearChild_effect h)
  | dropShop r => exact Or.inr (dropShop_effect h)
  | write r => exact Or.inr (write_effect h)
  | abort r => exact Or.inr (abort_effect h)
  | commit r =>
    have hcommit : s.commit r = some t := h
    unfold State.commit at hcommit
    split at hcommit
    · cases hcommit
      exact Or.inl ⟨r, rfl, rfl, rfl⟩
    · cases hcommit

/-- The tables are sound, and no deletion has found a product since it counted none. -/
structure Calm (job : Req → Job) (s : State Req) : Prop where
  sound : s.tables.Sound
  counted : ∀ r shopId loaded, job r = .deleteShop shopId → s.stage r = .checked loaded →
    ∀ product, s.tables.current product ≠ some (some shopId)
  nothingFound : ∀ r shopId children, job r = .deleteShop shopId →
    s.stage r = .found children → children = []
  readOnly : ∀ r shopId, job r = .deleteShop shopId →
    ∀ product ref, (r, product, ref) ∉ s.tables.written
  deletes : ∀ r shopId, (r, shopId) ∈ s.tables.dropped → job r = .deleteShop shopId

omit [DecidableEq Req] in
theorem Calm.start (job : Req → Job) (catalogue : Catalogue) : Calm job (start Req catalogue) where
  sound := by
    refine ⟨?_, ?_, ?_, catalogue.assigned⟩
    · intro _ _ _ _ _ h
      cases h
    · intro _ _ _ h
      cases h
    · intro _ _ _ h
      cases h
  counted := by
    intro _ _ _ _ h
    cases h
  nothingFound := by
    intro _ _ _ _ h
    cases h
  readOnly := by
    intro _ _ _ _ _ h
    cases h
  deletes := by
    intro _ _ h
    cases h

/-- The stages of a step, for the request itself and for the others. -/
theorem stage_cases {r moved : Req} {stage reached : Stage} {stages : Req → Stage}
    (h : Function.update stages moved reached r = stage) :
    (r = moved ∧ reached = stage) ∨ (r ≠ moved ∧ stages r = stage) := by
  by_cases hr : r = moved
  · subst hr
    rw [Function.update_self] at h
    exact Or.inl ⟨rfl, h⟩
  · rw [Function.update_of_ne hr] at h
    exact Or.inr ⟨hr, h⟩

section Preserved
variable {r : Req} {reached : Stage}

/-- What the request does with rows that stay as they are: it may have counted or found. -/
theorem Calm.move (calm : Calm job s) (stage : t.stage = Function.update s.stage r reached)
    (rows : t.tables.rows = s.tables.rows) (sound : t.tables.Sound)
    (counted : ∀ shopId loaded, job r = .deleteShop shopId → reached = .checked loaded →
      s.tables.children shopId = [])
    (found : ∀ shopId children, job r = .deleteShop shopId → reached = .found children →
      children = [])
    (readOnly : ∀ r shopId, job r = .deleteShop shopId →
      ∀ product ref, (r, product, ref) ∉ t.tables.written)
    (deletes : ∀ r shopId, (r, shopId) ∈ t.tables.dropped → job r = .deleteShop shopId) :
    Calm job t := by
  have hcurrent : ∀ product, t.tables.current product = s.tables.current product := by
    intro product
    rw [Tables.current, rows]
    rfl
  refine ⟨sound, ?_, ?_, readOnly, deletes⟩
  · intro r' shopId loaded hjob hstage product
    rw [hcurrent]
    rw [stage] at hstage
    rcases stage_cases hstage with ⟨rfl, hreached⟩ | ⟨-, hold⟩
    · intro hassigned
      have hnone := counted shopId loaded hjob hreached
      have hmem := Tables.mem_children_iff.mpr hassigned
      rw [hnone] at hmem
      cases hmem
    · exact calm.counted r' shopId loaded hjob hold product
  · intro r' shopId children hjob hstage
    rw [stage] at hstage
    rcases stage_cases hstage with ⟨rfl, hreached⟩ | ⟨-, hold⟩
    · exact found shopId children hjob hreached
    · exact calm.nothingFound r' shopId children hjob hold

omit [DecidableEq Req] in
theorem Calm.children_eq_nil (calm : Calm job s) {shopId : Nat} {loaded : Option Nat}
    (hjob : job r = .deleteShop shopId) (hstage : s.stage r = .checked loaded) :
    s.tables.children shopId = [] := by
  refine List.eq_nil_iff_forall_not_mem.mpr fun product hmem => ?_
  exact calm.counted r shopId loaded hjob hstage product (Tables.mem_children_iff.mp hmem)

theorem Calm.effect (calm : Calm job s) (stage : t.stage = Function.update s.stage r reached)
    (h : Effect job s r reached t.tables) :
    Calm job t ∧ t.tables.rows = s.tables.rows ∧ t.tables.parents = s.tables.parents := by
  obtain ⟨tables, next, stages⟩ := t
  cases h with
  | read counted found =>
    refine ⟨calm.move stage rfl calm.sound counted ?_ calm.readOnly calm.deletes, rfl, rfl⟩
    intro shopId children hjob hreached
    obtain ⟨shopId, loaded, hjob, hstage, rfl⟩ := found children hreached
    exact calm.children_eq_nil hjob hstage
  | wrote product ref tables done writer =>
    obtain ⟨hsound, rfl⟩ := calm.sound.write done
    have hnotDelete : ∀ shopId, job r ≠ .deleteShop shopId := by
      rcases writer with ⟨hwriter, -⟩ | ⟨rest, hstage, -⟩
      · exact hwriter
      · intro shopId hjob
        cases calm.nothingFound r shopId _ hjob hstage
    refine ⟨calm.move stage rfl hsound (fun shopId _ hjob => absurd hjob (hnotDelete shopId))
      (fun shopId _ hjob => absurd hjob (hnotDelete shopId)) ?_ calm.deletes, rfl, rfl⟩
    intro r' shopId hjob product' ref' hmem
    rcases Tables.mem_addVersion_iff.mp hmem with heq | ⟨hold, -⟩
    · cases heq
      exact hnotDelete shopId hjob
    · exact calm.readOnly r' shopId hjob product' ref' hold
  | dropped shopId tables deletes done flushed =>
    obtain ⟨hsound, rfl⟩ := calm.sound.drop done
    refine ⟨calm.move stage rfl hsound (fun _ _ _ h => ?_) (fun _ _ _ h => ?_) calm.readOnly ?_,
      rfl, rfl⟩
    · cases flushed.symm.trans h
    · cases flushed.symm.trans h
    · intro r' shopId' hmem
      rcases List.mem_cons.mp hmem with heq | hold
      · cases heq
        exact deletes
      · exact calm.deletes r' shopId' hold
  | forgot finished =>
    refine ⟨calm.move stage rfl calm.sound.forget (fun _ _ _ h => ?_) (fun _ _ _ h => ?_) ?_ ?_,
      rfl, rfl⟩
    · cases finished.symm.trans h
    · cases finished.symm.trans h
    · intro r' shopId hjob product ref hmem
      exact calm.readOnly r' shopId hjob product ref (Tables.mem_written_forget_iff.mp hmem).1
    · intro r' shopId hmem
      exact calm.deletes r' shopId (Tables.mem_dropped_forget_iff.mp hmem).1

theorem Calm.commit (calm : Calm job s) (stage : t.stage = Function.update s.stage r .finished)
    (tables : t.tables = s.tables.commit r) (undisturbed : Undisturbed job s (.commit r)) :
    Calm job t := by
  refine ⟨tables ▸ calm.sound.commit, ?_, ?_, ?_, ?_⟩
  · intro r' shopId loaded hjob hstage product hassigned
    rw [stage] at hstage
    rcases stage_cases hstage with ⟨-, hreached⟩ | ⟨-, hold⟩
    · cases hreached
    · rw [tables] at hassigned
      rcases Tables.current_commit_cases hassigned with hwritten | ⟨-, hbefore⟩
      · exact undisturbed _ (Tables.mem_own_iff.mpr hwritten) r' ⟨shopId, rfl, hjob, loaded, hold⟩
      · exact calm.counted r' shopId loaded hjob hold product hbefore
  · intro r' shopId children hjob hstage
    rw [stage] at hstage
    rcases stage_cases hstage with ⟨-, hreached⟩ | ⟨-, hold⟩
    · cases hreached
    · exact calm.nothingFound r' shopId children hjob hold
  · intro r' shopId hjob product ref hmem
    rw [tables] at hmem
    exact calm.readOnly r' shopId hjob product ref (Tables.mem_written_forget_iff.mp hmem).1
  · intro r' shopId hmem
    rw [tables] at hmem
    exact calm.deletes r' shopId (Tables.mem_dropped_forget_iff.mp hmem).1

theorem Calm.step (calm : Calm job s) (undisturbed : Undisturbed job s a)
    (h : step job s a = some t) : Calm job t ∧ Keeps job s t a := by
  rcases step_cases h with ⟨r, rfl, stage, tables⟩ | ⟨reached, stage, effect⟩
  · refine ⟨calm.commit stage tables undisturbed, ⟨?_, ?_⟩⟩
    · intro deleted hjob product shopId hassigned
      rw [tables, Tables.current_commit_of_readOnly (calm.readOnly r deleted hjob)]
      exact hassigned
    · intro shopId hbefore hafter
      rw [tables] at hafter
      have hjob := calm.deletes r shopId (Tables.mem_dropped_of_commit hbefore hafter)
      exact calm.sound.unnamed_of_readOnly (calm.readOnly r shopId hjob) hbefore hafter
  · obtain ⟨hcalm, hrows, hparents⟩ := calm.effect stage effect
    refine ⟨hcalm, ⟨fun _ _ product shopId hassigned => ?_, fun shopId hbefore hafter => ?_⟩⟩
    · rw [Tables.current, hrows]
      exact hassigned
    · rw [hparents] at hafter
      exact absurd hbefore hafter

end Preserved

/-- In a run without such a commit every step keeps the assignments. -/
theorem assignments_kept (job : Req → Job) (catalogue : Catalogue) (schedule : List (Action Req))
    (undisturbed : Along (Undisturbed job) (step job) (start Req catalogue) schedule) :
    Along (KeepsAssignments job) (step job) (start Req catalogue) schedule := by
  have hlisted := along_iff_prefix.mp undisturbed
  refine along_iff_prefix.mpr fun done a hdone s hs t ht => ?_
  have hcalm : done <+: schedule → Calm job s := by
    refine exec_history (P := fun done s => done <+: schedule → Calm job s)
      (fun _ => Calm.start job catalogue) ?_ hs
    intro done s a t hrun ih hstep hlonger
    have hshorter := (List.prefix_append done [a]).trans hlonger
    exact ((ih hshorter).step (hlisted done a hlonger s hrun) hstep).1
  exact ((hcalm ((List.prefix_append done [a]).trans hdone)).step (hlisted done a hdone s hs) ht).2

end Steps

/-- `true` deletes shop 1, `false` creates a product in the shop. -/
def raceJob (shopId : Nat) : Bool → Job
  | true => .deleteShop 1
  | false => .createProduct (some shopId)

/-- Two shops without products. -/
def emptyShops : Catalogue where
  shops := [1, 2]
  products := []
  next := 1
  assigned := by
    intro _ _ h
    cases h
  fresh := by
    intro _ h
    cases h

/-- The product is committed after the count and before the products are loaded. -/
def lateProduct : List (Action Bool) :=
  [.load true, .check true, .load false, .check false, .write false, .commit false,
    .loadChildren true, .clearChild true, .dropShop true]

/-- The deletion then clears the assignment that was committed. -/
theorem late_product_cleared :
    ¬ ∀ (job : Bool → Job) (catalogue : Catalogue) (schedule : List (Action Bool)),
      Along (KeepsAssignments job) (step job) (start Bool catalogue) schedule := by
  intro h
  have hkeeps := along_iff_prefix.mp (h (raceJob 1) emptyShops (lateProduct ++ [.commit true]))
    lateProduct (.commit true) (List.prefix_refl _)
  have hrun : (exec (step (raceJob 1)) (start Bool emptyShops) lateProduct).any (fun s =>
      decide (s.tables.current 1 = some (some 1)) && (step (raceJob 1) s (.commit true)).any
        fun t => decide (t.tables.current 1 = some none)) = true := by decide
  obtain ⟨s, hs, hboth⟩ := (Option.any_eq_true _ _).mp hrun
  obtain ⟨hassigned, hcommit⟩ := Bool.and_eq_true_iff.mp hboth
  obtain ⟨t, ht, hcleared⟩ := (Option.any_eq_true _ _).mp hcommit
  have hkept := (hkeeps s hs t ht).assignments 1 rfl 1 1 (of_decide_eq_true hassigned)
  cases hkept.symm.trans (of_decide_eq_true hcleared)

/-- A product of another shop disturbs nothing. -/
theorem other_shop_kept :
    Along (KeepsAssignments (raceJob 2)) (step (raceJob 2)) (start Bool emptyShops)
      [.load true, .check true, .load false, .check false, .write false, .commit false,
        .loadChildren true, .dropShop true, .commit true] :=
  assignments_kept (raceJob 2) emptyShops _ (by decide)

end ShopDeletionRace

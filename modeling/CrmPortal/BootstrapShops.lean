import CrmPortal.BootstrapAdmin
import CrmPortal.CatalogAtomicity
import CrmPortal.Library.Schedule

/-!
# Shops and products across restarts

Every start of the portal sets two demo shops to the values it carries, or inserts them,
and assigns the products without a shop to the first one. In between the catalogue
handlers edit the same two tables.
-/

namespace BootstrapShops

open PyValue IdentityTable Transaction UnitOfWork CrmDatabase RequestContext Products Shops
  CatalogAtomicity BootstrapAdmin Schedule
open Portal (noFaults)

/-- The columns of a shop that the handlers leave to their defaults. -/
structure ShopContact where
  address : Option String
  coordinates : Option String
  contactEmail : Option String
  contactPhone : Option String
  isActive : Option Int
  deriving DecidableEq

def ShopContact.default : ShopContact := ⟨some "", some "", some "", some "", some 1⟩

/-- The database: the users, the tables of the CRM, and the other columns of the shops. -/
structure Store where
  accounts : Accounts.Tables
  db : Db
  contact : Nat → ShopContact

namespace Store

def rollback (s later : Store) : Store where
  accounts := s.accounts.rollback later.accounts
  db := s.db.rollback later.db
  contact := s.contact

/-- The shop as a row of all its columns. -/
def shop (s : Store) (id : Nat) : Option (Shop × ShopContact) :=
  (s.db.shops.row id).map fun row => (row, s.contact id)

end Store

/-- The shops and products tables are equal. -/
structure SameCatalog (s t : Store) : Prop where
  shops : ∀ id, s.shop id = t.shop id
  products : ∀ id, s.db.products.row id = t.db.products.row id

theorem SameCatalog.symm {a b : Store} (h : SameCatalog a b) : SameCatalog b a :=
  ⟨fun id => (h.shops id).symm, fun id => (h.products id).symm⟩

theorem SameCatalog.trans {a b c : Store} (h : SameCatalog a b) (k : SameCatalog b c) :
    SameCatalog a c :=
  ⟨fun id => (h.shops id).trans (k.shops id), fun id => (h.products id).trans (k.products id)⟩

structure DemoShop where
  shop : Shop
  contact : ShopContact

def primaryStore : DemoShop where
  shop := {
    name := "Primary Storefront"
    slug := "primary-store"
    storefrontUrl := "https://shop.example.cloud"
    crmBaseUrl := "https://crm.example.cloud"
    region := "eu-central"
    currency := some "USD"
    status := some "active"
    notes := some "Primary public storefront managed from the CRM portal." }
  contact := {
    address := some "1 Platform Plaza, Example City"
    coordinates := some "50.1109,8.6821"
    contactEmail := some "ops@example.invalid"
    contactPhone := some "+49-69-555-0101"
    isActive := some 1 }

def labStore : DemoShop where
  shop := {
    name := "Lab Storefront"
    slug := "lab-store"
    storefrontUrl := "https://shop-lab.example.cloud"
    crmBaseUrl := "https://crm.example.cloud"
    region := "us-east"
    currency := some "USD"
    status := some "maintenance"
    notes := some "Sandbox shop used for launch rehearsals and catalog QA." }
  contact := {
    address := some "77 Flight Lab Avenue, Example East"
    coordinates := some "39.0438,-77.4874"
    contactEmail := some "lab@example.invalid"
    contactPhone := some "+1-703-555-0102"
    isActive := some 0 }

def demoSlugs : List String := [primaryStore.shop.slug, labStore.shop.slug]

abbrev StartBlock := Block Store PyExc Empty

/-- The row and the other columns of shop `id`. -/
def Store.putShop (s : Store) (shops : ShopTable) (id : Nat) (contact : ShopContact) : Store :=
  { s with db := { s.db with shops := shops }, contact := Function.update s.contact id contact }

def insertDemoShop (demo : DemoShop) (s : Store) : Except PyExc Store :=
  match s.db.shops.insert demo.shop with
  | none => .error .integrityError
  | some (id, shops) => .ok (s.putShop shops id demo.contact)

/-- `setattr` for each field, which the session sends as one UPDATE. -/
def assignDemoShop (id : Nat) (demo : DemoShop) (s : Store) : Except PyExc Store :=
  match s.db.shops.replace id demo.shop with
  | none => .error .integrityError
  | some shops => .ok (s.putShop shops id demo.contact)

/-- Nothing is sent for a shop whose fields have the values already. -/
def ensureDemoShop (faults : Faults PyExc) (demo : DemoShop) : StartBlock Nat := do
  let found ← query faults fun s => s.db.shops.find demo.shop.slug
  match found with
  | none =>
    let before ← Tx.read
    execute faults (insertDemoShop demo)
    return before.state.db.shops.next
  | some id =>
    let now ← Tx.read
    if now.state.shop id = some (demo.shop, demo.contact) then return id
    else
      execute faults (assignDemoShop id demo)
      return id

def adopt (shopId : Nat) (p : Product) : Product :=
  if p.shopId = none then { p with shopId := some shopId } else p

theorem adopt_skuKey (shopId : Nat) (p : Product) : (adopt shopId p).skuKey = p.skuKey := by
  unfold adopt
  split <;> rfl

/-- UPDATE products SET shop_id = ... WHERE shop_id IS NULL. -/
def adoptProducts (shopId : Nat) (s : Store) : Store :=
  { s with db := { s.db with
    products := s.db.products.mapRows (adopt shopId) (adopt_skuKey shopId) } }

def ensureDemoShops (faults : Faults PyExc) : StartBlock PUnit := do
  let primaryId ← ensureDemoShop faults primaryStore
  let _ ← ensureDemoShop faults labStore
  execute faults fun s => .ok (adoptProducts primaryId s)

def onAccounts {Value : Type} (x : Block Accounts.Tables PyExc Empty Value) : StartBlock Value :=
  Tx.focus (fun w => ⟨w.state.accounts, w.statements⟩)
    (fun w p => ⟨{ w.state with accounts := p.state }, p.statements⟩) x

def bootstrapBlock (env : BootstrapEnv) (faults : Faults PyExc) (password : String) :
    StartBlock PUnit := do
  onAccounts (Accounts.bootstrapBlock env.server faults (env.bcryptHash password))
  ensureDemoShops faults

/-- A start: without a password it ends before the session is opened. -/
def bootstrapDatabase (env : BootstrapEnv) (faults : Faults PyExc) (s : Store) :
    Ended Store PyExc Empty PUnit :=
  match adminPassword env with
  | .error e => .rolledBack e s
  | .ok password => run faults Store.rollback (bootstrapBlock env faults password) s

inductive Occurrence where
  | call (env : HandlerEnv) (request : Request) (call : CatalogCall)
  | start (env : BootstrapEnv) (faults : Faults PyExc)

def succeeded : CatalogResult → Bool
  | .ok (.answer _) => true
  | _ => false

/-- A new shop has the defaults in its other columns. -/
def contactAfter (s : Store) : CatalogCall → Nat → ShopContact
  | .createShop _ => Function.update s.contact s.db.shops.next ShopContact.default
  | _ => s.contact

/-- What a call answers, and what it leaves. -/
def performCall (env : HandlerEnv) (request : Request) (call : CatalogCall) (s : Store) :
    CatalogResult × Store :=
  let (result, world) := call.perform env request ⟨s.db, []⟩
  (result, { s with
    db := world.db
    contact := if succeeded result then contactAfter s call else s.contact })

/-- Calls that succeed, and starts that end in any way. -/
def step (s : Store) : Occurrence → Option Store
  | .call env request call =>
    let (result, t) := performCall env request call s
    if succeeded result then some t else none
  | .start env faults => some (bootstrapDatabase env faults s).state

/-- The same calls with no start between them. -/
def callsOnly (s : Store) (occurrences : List Occurrence) : Store :=
  occurrences.foldl (fun s occurrence => match occurrence with
    | .call env request call => (performCall env request call s).2
    | .start _ _ => s) s

/-- Both demo shops are there with the values that a start carries, and every product has a
shop. -/
structure FindsSeed (s : Store) : Prop where
  shops : ∀ demo ∈ [primaryStore, labStore], ∃ id, s.shop id = some (demo.shop, demo.contact)
  products : ∀ id p, s.db.products.row id = some p → p.shopId ≠ none

theorem FindsSeed.congr {s t : Store} (same : SameCatalog s t) (h : FindsSeed s) : FindsSeed t := by
  refine ⟨fun demo hdemo => ?_, fun id p hp => ?_⟩
  · obtain ⟨id, hid⟩ := h.shops demo hdemo
    exact ⟨id, (same.shops id).symm.trans hid⟩
  · exact h.products id p ((same.products id).trans hp)

/-- A start changes the rows with the slugs of the demo shops, and the shop of a product
that has none. -/
structure KeepsOthers (s t : Store) : Prop where
  shops : ∀ id view, view.1.slug ∉ demoSlugs → (t.shop id = some view ↔ s.shop id = some view)
  assigned : ∀ id p, p.shopId ≠ none → s.db.products.row id = some p →
    t.db.products.row id = some p
  columns : ∀ id, (t.db.products.row id).map (fun p => { p with shopId := none }) =
    (s.db.products.row id).map fun p => { p with shopId := none }

theorem KeepsOthers.refl (s : Store) : KeepsOthers s s :=
  ⟨fun _ _ _ => Iff.rfl, fun _ _ _ h => h, fun _ => rfl⟩

theorem KeepsOthers.trans {a b c : Store} (h : KeepsOthers a b) (k : KeepsOthers b c) :
    KeepsOthers a c :=
  ⟨fun id view hslug => (k.shops id view hslug).trans (h.shops id view hslug),
    fun id p hp hrow => k.assigned id p hp (h.assigned id p hp hrow),
    fun id => (k.columns id).trans (h.columns id)⟩

theorem SameCatalog.keepsOthers {s t : Store} (h : SameCatalog t s) : KeepsOthers s t :=
  ⟨fun id view _ => by rw [h.shops id], fun id p _ hp => (h.products id).trans hp,
    fun id => by rw [h.products id]⟩

theorem sameCatalog_of_eq {s t : Store} (hdb : s.db = t.db) (hcontact : s.contact = t.contact) :
    SameCatalog s t :=
  ⟨fun id => by rw [Store.shop, Store.shop, hdb, hcontact], fun id => by rw [hdb]⟩

theorem rollback_same (s t : Store) : SameCatalog (s.rollback t) s :=
  ⟨fun _ => rfl, fun _ => rfl⟩

section EnsureShop
variable {faults : Faults PyExc} {demo : DemoShop} {w : Work Store}

/-- Shop `id` has the values of the demo shop; no other slug had this identity before. -/
structure Placed (demo : DemoShop) (s t : Store) (id : Nat) : Prop where
  shop : t.shop id = some (demo.shop, demo.contact)
  others : ∀ j, j ≠ id → t.shop j = s.shop j
  slug : ∀ view, s.shop id = some view → view.1.slug = demo.shop.slug
  products : t.db.products = s.db.products

theorem putShop_placed {s : Store} {shops : ShopTable} {id : Nat}
    (rows : ∀ j, shops.row j = if j = id then some demo.shop else s.db.shops.row j)
    (slug : ∀ row, s.db.shops.row id = some row → row.slug = demo.shop.slug) :
    Placed demo s (s.putShop shops id demo.contact) id := by
  refine ⟨?_, fun j hj => ?_, fun view hview => ?_, rfl⟩
  · simp [Store.shop, Store.putShop, rows]
  · simp [Store.shop, Store.putShop, rows, hj]
  · obtain ⟨row, hrow, rfl⟩ := Option.map_eq_some_iff.mp hview
    exact slug row hrow

theorem insertDemoShop_placed {s t : Store} (h : insertDemoShop demo s = .ok t) :
    Placed demo s t s.db.shops.next := by
  unfold insertDemoShop at h
  split at h
  · cases h
  · next id shops hinsert =>
    cases h
    obtain ⟨rfl, hfresh, -, hrow⟩ := Table.insert_eq_some hinsert
    refine putShop_placed hrow fun row hid => ?_
    rw [hfresh] at hid
    cases hid

theorem assignDemoShop_placed {s t : Store} {id : Nat} (h : assignDemoShop id demo s = .ok t)
    (found : s.db.shops.find demo.shop.slug = some id) : Placed demo s t id := by
  unfold assignDemoShop at h
  split at h
  · cases h
  · next shops hreplace =>
    cases h
    obtain ⟨-, hrow⟩ := Table.replace_eq_some hreplace
    refine putShop_placed hrow fun row hid => ?_
    obtain ⟨old, hold, hslug⟩ := (Table.find_eq_some_iff _ _ _).mp found
    cases hid.symm.trans hold
    exact Option.some.inj hslug

/-- Either the shop is placed, or a statement failed and nothing was written. -/
theorem ensureDemoShop_cases (faults : Faults PyExc) (demo : DemoShop) (w : Work Store) :
    (∃ id t, ensureDemoShop faults demo w = (.ok id, t) ∧ Placed demo w.state t.state id) ∨
      ∃ e t, ensureDemoShop faults demo w = (.error e, t) ∧ t.state = w.state := by
  unfold ensureDemoShop
  rcases query_cases faults (fun s => s.db.shops.find demo.shop.slug) w with hquery | ⟨e, hquery⟩
  · rw [Tx.bind_of_ok _ hquery]
    rcases hfind : w.state.db.shops.find demo.shop.slug with _ | id
    · dsimp only
      rw [Tx.bind_of_ok _ (Tx.read_apply _)]
      rcases execute_cases faults (insertDemoShop demo) w.next with
        ⟨_, t, hinsert, rfl, hrun⟩ | ⟨e, t, hsame, hrun⟩
      · rw [Tx.bind_of_ok _ hrun]
        exact Or.inl ⟨_, t, rfl, insertDemoShop_placed hinsert⟩
      · rw [Tx.bind_of_error _ hrun]
        exact Or.inr ⟨_, t, rfl, hsame⟩
    · dsimp only
      rw [Tx.bind_of_ok _ (Tx.read_apply _)]
      by_cases hset : w.next.state.shop id = some (demo.shop, demo.contact)
      · rw [if_pos hset]
        refine Or.inl ⟨id, w.next, rfl, hset, fun _ _ => rfl, fun view hview => ?_, rfl⟩
        cases hset.symm.trans hview
        rfl
      · rw [if_neg hset]
        rcases execute_cases faults (assignDemoShop id demo) w.next with
          ⟨_, t, hassign, rfl, hrun⟩ | ⟨e, t, hsame, hrun⟩
        · rw [Tx.bind_of_ok _ hrun]
          exact Or.inl ⟨id, t, rfl, assignDemoShop_placed hassign hfind⟩
        · rw [Tx.bind_of_error _ hrun]
          exact Or.inr ⟨_, t, rfl, hsame⟩
  · rw [Tx.bind_of_error _ hquery]
    exact Or.inr ⟨_, w.next, rfl, rfl⟩

/-- A shop that has its values already is not written. -/
theorem ensureDemoShop_seeded (faults : Faults PyExc) (demo : DemoShop) (w : Work Store)
    (h : ∃ id, w.state.shop id = some (demo.shop, demo.contact)) :
    (ensureDemoShop faults demo w).2.state = w.state := by
  obtain ⟨id, hid⟩ := h
  obtain ⟨row, hrow, hview⟩ := Option.map_eq_some_iff.mp hid
  obtain ⟨rfl, -⟩ := Prod.mk.inj hview
  have hfind : w.state.db.shops.find demo.shop.slug = some id :=
    (Table.find_eq_some_iff _ _ _).mpr ⟨demo.shop, hrow, rfl⟩
  unfold ensureDemoShop
  rcases query_cases faults (fun s => s.db.shops.find demo.shop.slug) w with hquery | ⟨e, hquery⟩
  · rw [Tx.bind_of_ok _ hquery, hfind]
    have hset : w.next.state.shop id = some (demo.shop, demo.contact) := hid
    dsimp only
    rw [Tx.bind_of_ok _ (Tx.read_apply _), if_pos hset]
    rfl
  · rw [Tx.bind_of_error _ hquery]
    rfl

theorem Placed.keepsOthers {s t : Store} {id : Nat} (h : Placed demo s t id)
    (hdemo : demo.shop.slug ∈ demoSlugs) : KeepsOthers s t := by
  refine ⟨fun j view hslug => ?_, fun _ _ _ hp => by rw [h.products]; exact hp,
    fun _ => by rw [h.products]⟩
  by_cases hj : j = id
  · subst hj
    constructor
    · intro hview
      cases h.shop.symm.trans hview
      exact absurd hdemo hslug
    · intro hview
      rw [h.slug view hview] at hslug
      exact absurd hdemo hslug
  · rw [h.others j hj]

end EnsureShop

theorem adopt_of_assigned {p : Product} (h : p.shopId ≠ none) (id : Nat) : adopt id p = p :=
  if_neg h

theorem adoptProducts_keepsOthers (id : Nat) (s : Store) : KeepsOthers s (adoptProducts id s) := by
  refine ⟨fun _ _ _ => Iff.rfl, fun i p hassigned hp => ?_, fun i => ?_⟩
  · simp [adoptProducts, hp, adopt_of_assigned hassigned]
  · cases hp : s.db.products.row i with
    | none => simp [adoptProducts, hp]
    | some p =>
      by_cases hnone : p.shopId = none <;> simp [adoptProducts, hp, adopt, hnone]

theorem adoptProducts_seeded {s : Store}
    (h : ∀ i p, s.db.products.row i = some p → p.shopId ≠ none) (id : Nat) :
    adoptProducts id s = s := by
  have hsame : s.db.products.mapRows (adopt id) (adopt_skuKey id) = s.db.products :=
    Table.mapRows_same _ fun i p hp => adopt_of_assigned (h i p hp) id
  rw [adoptProducts, hsame]

section Start
variable {env : BootstrapEnv} {faults : Faults PyExc} {password : String}

theorem ensureDemoShops_keepsOthers (w : Work Store) :
    KeepsOthers w.state (ensureDemoShops faults w).2.state := by
  unfold ensureDemoShops
  rcases ensureDemoShop_cases faults primaryStore w with ⟨first, m, hfirst, hprimary⟩ |
    ⟨e, m, hfirst, hsame⟩
  · rw [Tx.bind_of_ok _ hfirst]
    have hkept := hprimary.keepsOthers (by decide)
    rcases ensureDemoShop_cases faults labStore m with ⟨second, n, hsecond, hlab⟩ |
      ⟨e, n, hsecond, hsame⟩
    · rw [Tx.bind_of_ok _ hsecond]
      have hboth := hkept.trans (hlab.keepsOthers (by decide))
      rcases execute_cases faults (fun s => .ok (adoptProducts first s)) n with
        ⟨_, t, hadopt, rfl, hrun⟩ | ⟨e, t, hsame, hrun⟩
      · rw [hrun, ← Except.ok.inj hadopt]
        exact hboth.trans (adoptProducts_keepsOthers first n.state)
      · rw [hrun]
        exact hsame ▸ hboth
    · rw [Tx.bind_of_error _ hsecond]
      exact hsame ▸ hkept
  · rw [Tx.bind_of_error _ hfirst]
    exact hsame ▸ KeepsOthers.refl _

/-- A completed `_ensure_demo_shops` leaves both shops seeded and no product without one. -/
theorem ensureDemoShops_seeds {w t : Work Store} (h : ensureDemoShops faults w = (.ok ⟨⟩, t)) :
    FindsSeed t.state := by
  unfold ensureDemoShops at h
  obtain ⟨first, m, hfirst, h⟩ := Tx.bind_ok_iff.mp h
  obtain ⟨second, n, hsecond, hadopt⟩ := Tx.bind_ok_iff.mp h
  obtain ⟨-, s, hs, rfl⟩ := execute_ok_iff.mp hadopt
  rcases ensureDemoShop_cases faults primaryStore w with ⟨_, _, hrun, hprimary⟩ | ⟨_, _, hrun, -⟩
  · cases hrun.symm.trans hfirst
    rcases ensureDemoShop_cases faults labStore m with ⟨_, _, hrun, hlab⟩ | ⟨_, _, hrun, -⟩
    · cases hrun.symm.trans hsecond
      cases hs
      have hne : first ≠ second := by
        intro heq
        have hslug := hlab.slug _ (heq ▸ hprimary.shop)
        exact absurd hslug (by decide)
      refine ⟨fun demo hdemo => ?_, fun id p hp => ?_⟩
      · rcases List.mem_pair.mp hdemo with rfl | rfl
        · exact ⟨first, (hlab.others first hne).trans hprimary.shop⟩
        · exact ⟨second, hlab.shop⟩
      · obtain ⟨old, -, rfl⟩ := Option.map_eq_some_iff.mp hp
        by_cases hnone : old.shopId = none
        · simp [adopt, hnone]
        · rw [adopt_of_assigned hnone]
          exact hnone
    · cases hrun.symm.trans hsecond
  · cases hrun.symm.trans hfirst

theorem ensureDemoShops_seeded {w : Work Store} (h : FindsSeed w.state) :
    (ensureDemoShops faults w).2.state = w.state := by
  unfold ensureDemoShops
  have hprimary := ensureDemoShop_seeded faults primaryStore w (h.shops _ List.mem_cons_self)
  rcases hfirst : ensureDemoShop faults primaryStore w with ⟨e | first, m⟩
  · rw [Tx.bind_of_error _ hfirst]
    rw [hfirst] at hprimary
    exact hprimary
  · rw [Tx.bind_of_ok _ hfirst]
    rw [hfirst] at hprimary
    have hm : m.state = w.state := hprimary
    have hlab := ensureDemoShop_seeded faults labStore m
      (hm ▸ h.shops _ (List.mem_cons_of_mem _ List.mem_cons_self))
    rcases hsecond : ensureDemoShop faults labStore m with ⟨e | second, n⟩
    · rw [Tx.bind_of_error _ hsecond]
      rw [hsecond] at hlab
      exact hlab.trans hm
    · rw [Tx.bind_of_ok _ hsecond]
      rw [hsecond] at hlab
      have hn : n.state = w.state := hlab.trans hm
      rcases execute_cases faults (fun s => .ok (adoptProducts first s)) n with
        ⟨_, t, hadopt, rfl, hrun⟩ | ⟨e, t, hsame, hrun⟩
      · rw [hrun, ← Except.ok.inj hadopt, hn]
        exact adoptProducts_seeded h.products first
      · rw [hrun]
        exact hsame.trans hn

/-- The reconciliation of the users, whatever comes of it, leaves the catalogue alone. -/
theorem onAccounts_same {Value : Type} (x : Block Accounts.Tables PyExc Empty Value)
    (w : Work Store) :
    (onAccounts x w).2.state.db = w.state.db ∧ (onAccounts x w).2.state.contact = w.state.contact :=
  ⟨rfl, rfl⟩

theorem FindsSeed.of_eq {s t : Store} (h : FindsSeed s) (hdb : t.db = s.db)
    (hcontact : t.contact = s.contact) : FindsSeed t :=
  h.congr (sameCatalog_of_eq hdb.symm hcontact.symm)

/-- The block ends with the accounts, or with the shops after them, and the accounts leave the
catalogue alone. -/
theorem bootstrapBlock_cases (env : BootstrapEnv) (faults : Faults PyExc) (password : String)
    (w : Work Store) : ∃ m : Work Store,
      (m.state.db = w.state.db ∧ m.state.contact = w.state.contact) ∧
      ((bootstrapBlock env faults password w).2 = m ∨
        (bootstrapBlock env faults password w).2 = (ensureDemoShops faults m).2) := by
  unfold bootstrapBlock
  have haccounts := onAccounts_same
    (Accounts.bootstrapBlock env.server faults (env.bcryptHash password)) w
  rcases hrun : onAccounts (Accounts.bootstrapBlock env.server faults (env.bcryptHash password)) w
    with ⟨e | u, m⟩
  · rw [Tx.bind_of_error _ hrun]
    rw [hrun] at haccounts
    exact ⟨m, haccounts, .inl rfl⟩
  · rw [Tx.bind_of_ok _ hrun]
    rw [hrun] at haccounts
    exact ⟨m, haccounts, .inr rfl⟩

theorem bootstrapBlock_keepsOthers (w : Work Store) :
    KeepsOthers w.state (bootstrapBlock env faults password w).2.state := by
  obtain ⟨m, ⟨hdb, hcontact⟩, hend | hend⟩ := bootstrapBlock_cases env faults password w
  · rw [hend]
    exact (sameCatalog_of_eq hdb hcontact).keepsOthers
  · rw [hend]
    exact (sameCatalog_of_eq hdb hcontact).keepsOthers.trans (ensureDemoShops_keepsOthers m)

theorem bootstrapBlock_seeded {w : Work Store} (h : FindsSeed w.state) :
    (bootstrapBlock env faults password w).2.state.db = w.state.db ∧
      (bootstrapBlock env faults password w).2.state.contact = w.state.contact := by
  obtain ⟨m, hsame, hend | hend⟩ := bootstrapBlock_cases env faults password w
  · rw [hend]
    exact hsame
  · rw [hend, ensureDemoShops_seeded (h.of_eq hsame.1 hsame.2)]
    exact hsame

/-- A start, however it ends, changes no other shop, and of a product only a missing shop. -/
theorem start_keepsOthers (env : BootstrapEnv) (faults : Faults PyExc) (s : Store) :
    KeepsOthers s (bootstrapDatabase env faults s).state := by
  unfold bootstrapDatabase
  split
  · exact KeepsOthers.refl s
  · next password hpassword =>
    rcases run_state faults Store.rollback (bootstrapBlock env faults password) s with h | h
    · rw [h]
      exact bootstrapBlock_keepsOthers ⟨s, 0⟩
    · rw [h]
      exact (rollback_same s _).keepsOthers

theorem rollback_self (db : Db) : db.rollback db = db := by
  simp [Db.rollback, Table.rollback_self]

/-- A start that finds its seed leaves the catalogue as it is, however it ends. -/
theorem start_seeded {s : Store} (h : FindsSeed s) :
    (bootstrapDatabase env faults s).state.db = s.db ∧
      (bootstrapDatabase env faults s).state.contact = s.contact := by
  unfold bootstrapDatabase
  split
  · exact ⟨rfl, rfl⟩
  · next password hpassword =>
    have hblock : (bootstrapBlock env faults password ⟨s, 0⟩).2.state.db = s.db ∧
        (bootstrapBlock env faults password ⟨s, 0⟩).2.state.contact = s.contact :=
      bootstrapBlock_seeded h
    rcases run_state faults Store.rollback (bootstrapBlock env faults password) s with hrun | hrun
    · rw [hrun]
      exact hblock
    · rw [hrun]
      refine ⟨?_, rfl⟩
      rw [Store.rollback, hblock.1]
      exact rollback_self s.db

/-- The start runs to its commit. -/
def Commits (env : BootstrapEnv) (faults : Faults PyExc) (s : Store) : Prop :=
  ∃ t, bootstrapDatabase env faults s = .committed (.inr ⟨⟩) t

theorem start_seeds {s : Store} (h : Commits env faults s) :
    FindsSeed (bootstrapDatabase env faults s).state := by
  obtain ⟨t, h⟩ := h
  rw [h]
  unfold bootstrapDatabase at h
  split at h
  · cases h
  · obtain ⟨w, hblock, rfl⟩ := run_committed h
    unfold bootstrapBlock at hblock
    obtain ⟨_, m, -, hshops⟩ := Tx.bind_ok_iff.mp hblock
    exact ensureDemoShops_seeds hshops

theorem insertDemoShop_proceeds {demo : DemoShop} {s : Store}
    (h : s.db.shops.find demo.shop.slug = none) :
    ∃ t, insertDemoShop demo s = .ok t ∧ t.accounts = s.accounts := by
  have hfree : (s.db.shops.insert demo.shop).isSome := by
    rw [Table.insert_isSome_iff]
    rintro slug ⟨⟩
    exact h
  obtain ⟨⟨id, shops⟩, hinsert⟩ := Option.isSome_iff_exists.mp hfree
  refine ⟨s.putShop shops id demo.contact, ?_, rfl⟩
  unfold insertDemoShop
  rw [hinsert]

theorem assignDemoShop_proceeds {demo : DemoShop} {s : Store} {id : Nat}
    (h : s.db.shops.find demo.shop.slug = some id) :
    ∃ t, assignDemoShop id demo s = .ok t ∧ t.accounts = s.accounts := by
  have hfree : s.db.shops.FreeBut id demo.shop := by
    rintro slug ⟨⟩ j hj
    exact Option.some.inj (hj.symm.trans h)
  refine ⟨s.putShop (s.db.shops.put id demo.shop hfree) id demo.contact, ?_, rfl⟩
  unfold assignDemoShop Table.replace
  rw [dif_pos hfree]

/-- A slug is inserted where no row has it, and assigned to the row that has it: no
constraint refuses either. -/
theorem ensureDemoShop_proceeds (demo : DemoShop) (w : Work Store) :
    ∃ id t, ensureDemoShop noFaults demo w = (.ok id, t) ∧
      t.state.accounts = w.state.accounts := by
  have hquery : (query noFaults fun s => s.db.shops.find demo.shop.slug : StartBlock _) w =
      (.ok (w.state.db.shops.find demo.shop.slug), w.next) := query_ok_iff.mpr ⟨rfl, rfl, rfl⟩
  unfold ensureDemoShop
  rw [Tx.bind_of_ok _ hquery]
  rcases hfind : w.state.db.shops.find demo.shop.slug with _ | id
  · obtain ⟨s, hs, hsame⟩ := insertDemoShop_proceeds hfind
    have hrun : (execute noFaults (insertDemoShop demo) : StartBlock _) w.next =
        (.ok ⟨⟩, ⟨s, w.next.statements + 1⟩) := execute_ok_iff.mpr ⟨rfl, s, hs, rfl⟩
    dsimp only
    rw [Tx.bind_of_ok _ (Tx.read_apply _), Tx.bind_of_ok _ hrun]
    exact ⟨_, _, rfl, hsame⟩
  · obtain ⟨s, hs, hsame⟩ := assignDemoShop_proceeds hfind
    have hrun : (execute noFaults (assignDemoShop id demo) : StartBlock _) w.next =
        (.ok ⟨⟩, ⟨s, w.next.statements + 1⟩) := execute_ok_iff.mpr ⟨rfl, s, hs, rfl⟩
    dsimp only
    rw [Tx.bind_of_ok _ (Tx.read_apply _)]
    split
    · exact ⟨id, _, rfl, rfl⟩
    · rw [Tx.bind_of_ok _ hrun]
      exact ⟨id, _, rfl, hsame⟩

theorem ensureDemoShops_proceeds (w : Work Store) :
    ∃ t, ensureDemoShops noFaults w = (.ok ⟨⟩, t) ∧ t.state.accounts = w.state.accounts := by
  obtain ⟨first, m, hfirst, hm⟩ := ensureDemoShop_proceeds primaryStore w
  obtain ⟨second, n, hsecond, hn⟩ := ensureDemoShop_proceeds labStore m
  unfold ensureDemoShops
  rw [Tx.bind_of_ok _ hfirst, Tx.bind_of_ok _ hsecond]
  exact ⟨⟨adoptProducts first n.state, n.statements + 1⟩, execute_ok_iff.mpr ⟨rfl, _, rfl, rfl⟩,
    hn.trans hm⟩

/-- The users after a start are those of its first part: with the shops behind it, it leaves
a usable administrator exactly if the part about the users does. -/
theorem start_bootstraps_iff (configured : adminPassword env = .ok password) (s : Store) :
    (∃ t, bootstrapDatabase env noFaults s = .committed (.inr ⟨⟩) t ∧
      UsableAdmin env password s.accounts.users t.accounts.users) ↔
    Bootstraps env password s.accounts := by
  have hstart : bootstrapDatabase env noFaults s =
      run noFaults Store.rollback (bootstrapBlock env noFaults password) s := by
    unfold bootstrapDatabase
    rw [configured]
  have hcommits : ∀ {w : Work Accounts.Tables},
      Accounts.bootstrapBlock env.server noFaults (env.bcryptHash password) ⟨s.accounts, 0⟩ =
        (.ok ⟨⟩, w) →
      ∃ t, bootstrapDatabase env noFaults s = .committed (.inr ⟨⟩) t ∧
        t.accounts = w.state := by
    intro w hblock
    have hfocus : onAccounts (Accounts.bootstrapBlock env.server noFaults (env.bcryptHash password))
        ⟨s, 0⟩ = (.ok ⟨⟩, ⟨{ s with accounts := w.state }, w.statements⟩) :=
      Tx.focus_ok_iff.mpr ⟨w, hblock, rfl⟩
    obtain ⟨t, hshops, hsame⟩ :=
      ensureDemoShops_proceeds ⟨{ s with accounts := w.state }, w.statements⟩
    refine ⟨t.state, ?_, hsame⟩
    rw [hstart]
    unfold run bootstrapBlock
    rw [Tx.bind_of_ok _ hfocus, hshops]
    rfl
  constructor
  · rintro ⟨t, hrun, husable⟩
    rw [hstart] at hrun
    obtain ⟨w, hblock, rfl⟩ := run_committed hrun
    unfold bootstrapBlock at hblock
    obtain ⟨_, m, hfocus, -⟩ := Tx.bind_ok_iff.mp hblock
    obtain ⟨p, hp, -⟩ := Tx.focus_ok_iff.mp hfocus
    obtain ⟨t, hagain, hsame⟩ := hcommits hp
    rw [hstart, hrun] at hagain
    cases hagain
    refine ⟨p.state, ?_, hsame ▸ husable⟩
    change Accounts.bootstrapBlock env.server noFaults (env.bcryptHash password) ⟨s.accounts, 0⟩ =
      (.ok ⟨⟩, p) at hp
    unfold run
    rw [hp]
    rfl
  · rintro ⟨after, hrun, husable⟩
    obtain ⟨w, hblock, rfl⟩ := run_committed hrun
    obtain ⟨t, hcommit, hsame⟩ := hcommits hblock
    exact ⟨t, hcommit, hsame ▸ husable⟩

end Start

section Runs
variable {s t : Store} {occurrences : List Occurrence}

/-- The calls of a run and the same calls alone make the same tables at every moment. -/
def EditsSurvive (s : Store) (occurrences : List Occurrence) : Prop :=
  ∀ done, done <+: occurrences → ∀ t, exec step s done = some t → SameCatalog t (callsOnly s done)

/-- Every start finds its seed, in the state in which it is made. -/
def StartsFindSeed : Store → Occurrence → Prop
  | s, .start _ _ => FindsSeed s
  | _, .call _ _ _ => True

/-- Every start that commits does. -/
def CommittedStartsFindSeed : Store → Occurrence → Prop
  | s, .start env faults => Commits env faults s → FindsSeed s
  | _, .call _ _ _ => True

theorem callsOnly_append (done : List Occurrence) (last : Occurrence) :
    callsOnly s (done ++ [last]) = match last with
      | .call env request call => (performCall env request call (callsOnly s done)).2
      | .start _ _ => callsOnly s done := by
  unfold callsOnly
  rw [List.foldl_append]
  cases last <;> rfl

/-- A call reads nothing but the tables of the CRM and the other columns of the shops. -/
theorem performCall_congr {u : Store} (hdb : t.db = u.db) (hcontact : t.contact = u.contact)
    (env : HandlerEnv) (request : Request) (call : CatalogCall) :
    (performCall env request call t).2.db = (performCall env request call u).2.db ∧
      (performCall env request call t).2.contact = (performCall env request call u).2.contact := by
  have hnext : contactAfter t call = contactAfter u call := by
    cases call <;> simp [contactAfter, hdb, hcontact]
  unfold performCall
  rw [hdb, hcontact, hnext]
  exact ⟨rfl, rfl⟩

theorem step_call_eq_some {env : HandlerEnv} {request : Request} {call : CatalogCall} {u : Store}
    (h : step t (.call env request call) = some u) : u = (performCall env request call t).2 := by
  unfold step at h
  dsimp only at h
  split at h
  · exact (Option.some.inj h).symm
  · cases h

/-- If every start finds its seed, no edit is lost. -/
theorem editsSurvive_of_seeded (h : Along StartsFindSeed step s occurrences) :
    EditsSurvive s occurrences := by
  intro done hdone t ht
  have hseeded := along_iff_prefix.mp h
  have hsame : done <+: occurrences →
      t.db = (callsOnly s done).db ∧ t.contact = (callsOnly s done).contact := by
    refine exec_history (P := fun done t => done <+: occurrences →
      t.db = (callsOnly s done).db ∧ t.contact = (callsOnly s done).contact)
      (fun _ => ⟨rfl, rfl⟩) ?_ ht
    intro done t last u hrun ih hstep hlisted
    obtain ⟨hdb, hcontact⟩ := ih ((List.prefix_append done [last]).trans hlisted)
    rw [callsOnly_append]
    cases last with
    | call env request call =>
      rw [step_call_eq_some hstep]
      exact performCall_congr hdb hcontact env request call
    | start env faults =>
      obtain rfl := Option.some.inj hstep
      have hfinds : FindsSeed t := hseeded done _ hlisted t hrun
      obtain ⟨hkeptDb, hkeptContact⟩ : (bootstrapDatabase env faults t).state.db = t.db ∧
          (bootstrapDatabase env faults t).state.contact = t.contact := start_seeded hfinds
      exact ⟨hkeptDb.trans hdb, hkeptContact.trans hcontact⟩
  exact sameCatalog_of_eq (hsame hdone).1 (hsame hdone).2

/-- If no edit is lost, every start that commits finds its seed. -/
theorem seeded_of_editsSurvive (h : EditsSurvive s occurrences) :
    Along CommittedStartsFindSeed step s occurrences := by
  refine along_iff_prefix.mpr fun done last hlisted t ht => ?_
  cases last with
  | call env request call => exact trivial
  | start env faults =>
    intro hcommits
    have hbefore := h done ((List.prefix_append done _).trans hlisted) t ht
    have hafter := h (done ++ [.start env faults]) hlisted
      (bootstrapDatabase env faults t).state (exec_append_iff.mpr ⟨t, ht, rfl⟩)
    rw [callsOnly_append] at hafter
    exact (start_seeds hcommits).congr (hafter.trans hbefore.symm)

/-- Starts keep every shop but the demo shops, and of every product all but a missing shop. The
edits of the calls are there at every moment if each start finds its seed, and only if each
that commits does. -/
theorem edits_across_starts (s : Store) (occurrences : List Occurrence) :
    (∀ t env faults, KeepsOthers t (bootstrapDatabase env faults t).state) ∧
      (Along StartsFindSeed step s occurrences → EditsSurvive s occurrences) ∧
      (EditsSurvive s occurrences → Along CommittedStartsFindSeed step s occurrences) :=
  ⟨fun t env faults => start_keepsOthers env faults t, editsSurvive_of_seeded,
    seeded_of_editsSurvive⟩

end Runs

/-- The primary storefront under another name. -/
def renamed : ShopMutation where
  name := "Corner Store"
  slug := "primary-store"
  storefrontUrl := "https://shop.example.cloud"
  crmBaseUrl := "https://crm.example.cloud"
  region := "eu-central"
  currency := "USD"
  status := "active"
  notes := "Renamed by the operator."
  nameLength := by decide
  slugLength := by decide
  slugPattern := by decide
  urlLengths := by decide
  regionLength := by decide
  statusAllowed := by decide
  notesLength := by decide

def plainStart : BootstrapEnv where
  server := Accounts.asciiServer
  bootstrapAdminPassword := "secret"
  isProduction := true
  generatedPassword := ""
  bcryptHash := fun password => "bcrypt:" ++ password

/-- What a first start makes of a database with a user. -/
def seededStore : Store :=
  (bootstrapDatabase plainStart (fun _ => none)
    ⟨Portal.annTables, Db.empty, fun _ => ShopContact.default⟩).state

def renameAndRestart : List Occurrence :=
  [.call sampleHandlerEnv sampleManager (.updateShop 1 renamed), .start plainStart fun _ => none]

/-- The restart takes the new name of a demo shop back. -/
theorem renamed_shop_reset :
    ¬ ∀ (s : Store) (occurrences : List Occurrence), s.accounts.users.rows ≠ [] →
      EditsSurvive s occurrences := by
  intro h
  have hreset : ((exec step seededStore renameAndRestart).bind fun t => t.shop 1).map
      (fun view => view.1.name) = some "Primary Storefront" := by decide +kernel
  have hrenamed : ((callsOnly seededStore renameAndRestart).shop 1).map
      (fun view => view.1.name) = some "Corner Store" := by decide +kernel
  obtain ⟨view, hview, hname⟩ := Option.map_eq_some_iff.mp hreset
  obtain ⟨t, ht, hshop⟩ := Option.bind_eq_some_iff.mp hview
  have hsame := h seededStore renameAndRestart (by decide +kernel) renameAndRestart
    (List.prefix_refl _) t ht
  rw [← hsame.shops 1, hshop] at hrenamed
  exact absurd (hname.symm.trans (Option.some.inj hrenamed)) (by decide)

end BootstrapShops

import CrmPortal.Analytics
import CrmPortal.ColumnValues
import CrmPortal.ListPaging
import CrmPortal.Library.Grouping
import CrmPortal.Library.Schedule

/-!
# Campaigns and their leads

The path of a lead names a campaign and a lead, and the update asks for the lead only: a
status can be set under any campaign. What the endpoints say about a campaign goes by the
campaign that the lead was captured under, so the counts of a campaign agree with each other
and with what was answered. The conversions are counted by request and not by lead.
-/

namespace Campaigns

open PyValue IdentityTable UnitOfWork CrmDatabase Customers ColumnValues ListPaging Grouping
  Potential

structure Campaign where
  name : String
  campaignType : Option String
  status : Option String
  budget : Option PyFloat
  spent : Option PyFloat
  targetAudience : Option String
  startDate : Option DateTime
  endDate : Option DateTime
  createdBy : Option Nat
  createdAt : Option DateTime

structure Lead where
  campaignId : Option Nat
  customerId : Option Nat
  email : String
  name : Option String
  source : Option String
  status : Option String
  score : Option Int
  notes : Option String
  convertedAt : Option DateTime
  createdAt : Option DateTime

abbrev CampaignTable := Table Campaign noKey
abbrev LeadTable := Table Lead noKey

structure Marketing where
  campaigns : CampaignTable
  leads : LeadTable

def Marketing.rollback (db later : Marketing) : Marketing :=
  ⟨db.campaigns.rollback later.campaigns, db.leads.rollback later.leads⟩

/-- The three counters: an addition of one each, with the label that it was made under. -/
structure Metrics where
  campaignsCreated : List Json
  leadsCaptured : List Json
  leadsConverted : List String

structure World where
  db : Marketing
  metrics : Metrics

/-- The users and the customers are those of the time of the request. -/
structure CampaignsEnv extends BodyEnv where
  userExists : Nat → Bool
  customerExists : Nat → Bool

/-- The row that is inserted; a null takes the default of a column that has one. -/
def campaignRow (env : CampaignsEnv) (body : Obj) : Except PyExc Campaign := do
  let name ← env.bindRequired (.varchar 200) (body.getD "name" (.str "Untitled Campaign"))
  let campaignType ← env.bindNullableText (.varchar 50) (body.getD "campaign_type" (.str "email"))
  let status ← env.bindNullableText (.varchar 50) (body.getD "status" (.str "draft"))
  let budget ← orDataError (env.bindNullableFloat (body.getD "budget" (.float .zero)))
  let spent ← orDataError (env.bindNullableFloat (body.getD "spent" (.float .zero)))
  let targetAudience ← env.bindNullableText .text (body.getD "target_audience" (.str ""))
  let startDate ← env.bindNullableDateTime (body.get "start_date")
  let endDate ← env.bindNullableDateTime (body.get "end_date")
  let createdBy ← bindReference env.backend env.userExists (body.get "created_by")
  return {
    name, targetAudience, startDate, endDate, createdBy
    campaignType := some (campaignType.getD "email")
    status := some (status.getD "draft")
    budget := some (budget.getD .zero)
    spent := some (spent.getD .zero)
    createdAt := some env.now }

def leadRow (env : CampaignsEnv) (campaigns : CampaignTable) (campaignId : Int) (body : Obj)
    (notes : Json) : Except PyExc Lead := do
  let campaignId ← bindReference env.backend (fun id => (campaigns.row id).isSome) (.int campaignId)
  let customerId ← bindReference env.backend env.customerExists (body.get "customer_id")
  let email ← env.bindRequired (.varchar 200) (body.getD "email" (.str ""))
  let name ← env.bindNullableText (.varchar 200) (body.getD "name" (.str ""))
  let source ← env.bindNullableText (.varchar 100) (body.getD "source" (.str "web"))
  let score ← bindNullableInt env.backend (body.getD "score" (.int 0))
  let notes ← env.bindNullableText .text notes
  return {
    campaignId, customerId, email, name, source, notes
    status := some "new"
    score := some (score.getD 0)
    convertedAt := none
    createdAt := some env.now }

inductive Answer where
  | campaignCreated (campaignId : Nat)
  | leadCreated (leadId : Nat) (campaignId : Int)
  | updated (leadId : Int) (newStatus : Json)

def insertCampaign (env : CampaignsEnv) (body : Obj) (db : Marketing) :
    Except PyExc Marketing := do
  let row ← campaignRow env body
  match db.campaigns.insert row with
  | none => .error .integrityError
  | some (_, campaigns) => .ok { db with campaigns := campaigns }

/-- The id that the flush has filled in is the last one of the sequence. -/
def createCampaign (env : CampaignsEnv) (body : Json) (w : World) :
    Except PyExc Answer × World :=
  match body.asDict with
  | .error e => (.error e, w)
  | .ok fields =>
    let block : Block Marketing PyExc Empty PUnit := execute env.faults (insertCampaign env fields)
    match run env.faults Marketing.rollback block w.db with
    | .rolledBack e db => (.error e, { w with db := db })
    | .committed _ db =>
      (.ok (.campaignCreated (db.campaigns.next - 1)),
        { db := db
          metrics := { w.metrics with
            campaignsCreated :=
              w.metrics.campaignsCreated ++ [fields.getD "campaign_type" (.str "email")] } })

def insertLead (env : CampaignsEnv) (campaignId : Int) (body : Obj) (notes : Json)
    (db : Marketing) : Except PyExc Marketing := do
  let row ← leadRow env db.campaigns campaignId body notes
  match db.leads.insert row with
  | none => .error .integrityError
  | some (_, leads) => .ok { db with leads := leads }

/-- `notes and ("<script" in notes.lower() or ..)`: what is reported is left out. -/
def searchNotes (notes : Json) : Except PyExc Unit :=
  if notes.truthy then notes.asStr.map fun _ => () else .ok ()

def createLead (env : CampaignsEnv) (campaignId : Int) (body : Json) (w : World) :
    Except PyExc Answer × World :=
  match body.asDict with
  | .error e => (.error e, w)
  | .ok fields =>
    let notes := fields.getD "notes" (.str "")
    match searchNotes notes with
    | .error e => (.error e, w)
    | .ok _ =>
      let block : Block Marketing PyExc Empty PUnit :=
        execute env.faults (insertLead env campaignId fields notes)
      match run env.faults Marketing.rollback block w.db with
      | .rolledBack e db => (.error e, { w with db := db })
      | .committed _ db =>
        (.ok (.leadCreated (db.leads.next - 1) campaignId),
          { db := db
            metrics := { w.metrics with
              leadsCaptured := w.metrics.leadsCaptured ++ [fields.getD "source" (.str "web")] } })

/-- The parameters of the statement, in the order of its columns. -/
def parameters (body : Obj) : List Json :=
  newStatus body ::
    (["score", "notes"].filter (inBody body)).map body.get

def updatedLead (env : CampaignsEnv) (body : Obj) (lead : Lead) : Except PyExc Lead := do
  let status ← env.bindNullableText (.varchar 50) (newStatus body)
  let score ← replaced body "score" (bindNullableInt env.backend) lead.score
  let notes ← replaced body "notes" (env.bindNullableText .text) lead.notes
  return { lead with
    status, score, notes
    convertedAt := if isText "converted" (newStatus body) then some env.now else lead.convertedAt }

/-- UPDATE leads ... WHERE id = :lid, without the campaign of the path. -/
def updateLead (env : CampaignsEnv) (leadId : Int) (body : Obj) (db : Marketing) :
    Except PyExc Marketing :=
  if !(env.backend.takesInt leadId && (parameters body).all env.takesParameter) then
    .error .dataError
  else match Orders.rowAt db.leads leadId with
    | none => .ok db
    | some (id, lead) => do
      let updated ← updatedLead env body lead
      return { db with leads := db.leads.modify id (fun _ => updated) (noKey_keeps _) }

/-- The statuses that are counted. -/
def stages : List String := ["qualified", "converted"]

def counted (body : Obj) : List String := stages.filter fun stage => isText stage (newStatus body)

def updateLeadStatus (env : CampaignsEnv) (_campaignId leadId : Int) (body : Json) (w : World) :
    Except PyExc Answer × World :=
  match body.asDict with
  | .error e => (.error e, w)
  | .ok fields =>
    let block : Block Marketing PyExc Empty PUnit :=
      execute env.faults (updateLead env leadId fields)
    match run env.faults Marketing.rollback block w.db with
    | .rolledBack e db => (.error e, { w with db := db })
    | .committed _ db =>
      (.ok (.updated leadId (newStatus fields)),
        { db := db
          metrics := { w.metrics with
            leadsConverted := w.metrics.leadsConverted ++ counted fields } })

def ofCampaign (campaignId : Int) (lead : Lead) : Bool :=
  decide (lead.campaignId.map Int.ofNat = some campaignId)

structure CampaignDetail where
  campaign : Campaign
  leadStats : List (Option String × Nat)
  totalLeads : Nat

/-- The leads of one campaign. -/
def leadsOf (db : Marketing) (campaignId : Int) : List Lead :=
  (db.leads.listing.rows.map Prod.snd).filter (ofCampaign campaignId)

/-- GROUP BY status; the NULLs are a group of their own. -/
def leadStats (db : Marketing) (campaignId : Int) : List (Option String × Nat) :=
  let rows := leadsOf db campaignId
  (groupKeys Lead.status rows).map fun status => (status, (group Lead.status rows status).length)

/-- None is the answer that the campaign is not found. -/
def getCampaign (campaignId : Int) (db : Marketing) : Option CampaignDetail :=
  (Orders.rowAt db.campaigns campaignId).map fun row =>
    ⟨row.2, leadStats db campaignId, db.leads.countWhere (ofCampaign campaignId)⟩

structure CampaignsFilter where
  status : String
  campaignType : String

def CampaignsFilter.takes (filter : CampaignsFilter) (c : Campaign) : Bool :=
  (decide (filter.status = "") || decide (c.status = some filter.status)) &&
  (decide (filter.campaignType = "") || decide (c.campaignType = some filter.campaignType))

/-- `created_at DESC`. -/
def newestFirst (a b : Nat × Campaign) : Prop := notOlder a.2.createdAt b.2.createdAt = true

structure CampaignRow where
  id : Nat
  campaign : Campaign
  leadCount : Nat

/-- One query for the leads of each campaign on the page. -/
def listCampaigns (db : Marketing) (size : PageSize) (offset : Nat)
    (answer : List (Nat × Campaign)) : List CampaignRow :=
  (Paging.page size.limit offset answer).map fun row =>
    ⟨row.1, row.2, db.leads.countWhere (ofCampaign row.1)⟩

def takesLead (campaignId : Int) (status : String) (lead : Lead) : Bool :=
  ofCampaign campaignId lead && (decide (status = "") || decide (lead.status = some status))

/-- The rows of `list_campaign_leads`, before a page of them is cut. -/
def leadRows (customers : CustomerTable) (campaignId : Int) (status : String) (db : Marketing) :
    List ((Nat × Lead) × Option (Nat × Customer)) :=
  outerJoin (fun lead customer => decide (lead.2.customerId = some customer.1))
    (selected db.leads (takesLead campaignId status)) customers.listing.rows

inductive Request where
  | createCampaign (env : CampaignsEnv) (body : Json)
  | createLead (env : CampaignsEnv) (campaignId : Int) (body : Json)
  | updateLead (env : CampaignsEnv) (campaignId leadId : Int) (body : Json)

def handle (w : World) : Request → Except PyExc Answer × World
  | .createCampaign env body => createCampaign env body w
  | .createLead env campaignId body => createLead env campaignId body w
  | .updateLead env campaignId leadId body => updateLeadStatus env campaignId leadId body w

def serve (w : World) (r : Request) : World := (handle w r).2

def answers : World → List Request → List (Except PyExc Answer)
  | _, [] => []
  | w, r :: rest => (handle w r).1 :: answers (serve w r) rest

/-- Only unused identities may differ. -/
structure SameRows (a b : Marketing) : Prop where
  campaigns : ∀ i, b.campaigns.row i = a.campaigns.row i
  leads : ∀ i, b.leads.row i = a.leads.row i

theorem rollback_sameRows (db later : Marketing) : SameRows db (db.rollback later) :=
  ⟨fun _ => rfl, fun _ => rfl⟩

inductive Outcome (w : World) : Request → Except PyExc Answer → World → Prop where
  | refused {r : Request} {e : PyExc} {w' : World} (rows : SameRows w.db w'.db)
      (metrics : w'.metrics = w.metrics) : Outcome w r (.error e) w'
  | campaignCreated {env : CampaignsEnv} {body : Json} {id newId : Nat} {campaign : Campaign}
      {w' : World} (inserted : w.db.campaigns.insert campaign = some (id, w'.db.campaigns))
      (leads : w'.db.leads = w.db.leads)
      (converted : w'.metrics.leadsConverted = w.metrics.leadsConverted) :
      Outcome w (.createCampaign env body) (.ok (.campaignCreated newId)) w'
  | leadCreated {env : CampaignsEnv} {campaign id newId : Nat} {body : Json} {lead : Lead}
      {w' : World} (there : (w.db.campaigns.row campaign).isSome = true)
      (named : lead.campaignId = some campaign) (new : lead.status = some "new")
      (inserted : w.db.leads.insert lead = some (id, w'.db.leads))
      (campaigns : w'.db.campaigns = w.db.campaigns)
      (converted : w'.metrics.leadsConverted = w.metrics.leadsConverted) :
      Outcome w (.createLead env campaign body) (.ok (.leadCreated newId campaign)) w'
  | missing {env : CampaignsEnv} {campaignId leadId : Int} {fields : Obj} {w' : World}
      (gone : Orders.rowAt w.db.leads leadId = none) (db : w'.db = w.db)
      (converted : w'.metrics.leadsConverted = w.metrics.leadsConverted ++ counted fields) :
      Outcome w (.updateLead env campaignId leadId (.obj fields))
        (.ok (.updated leadId (newStatus fields))) w'
  | updated {env : CampaignsEnv} {campaignId leadId : Int} {fields : Obj} {id : Nat}
      {lead lead' : Lead} {w' : World} (found : Orders.rowAt w.db.leads leadId = some (id, lead))
      (written : updatedLead env fields lead = .ok lead')
      (leads : ∀ i, w'.db.leads.row i = if i = id then some lead' else w.db.leads.row i)
      (campaigns : w'.db.campaigns = w.db.campaigns)
      (converted : w'.metrics.leadsConverted = w.metrics.leadsConverted ++ counted fields) :
      Outcome w (.updateLead env campaignId leadId (.obj fields))
        (.ok (.updated leadId (newStatus fields))) w'

theorem leadRow_ok {env : CampaignsEnv} {campaigns : CampaignTable} {campaignId : Int}
    {body : Obj} {notes : Json} {lead : Lead}
    (h : leadRow env campaigns campaignId body notes = .ok lead) :
    ∃ campaign : Nat, campaignId = campaign ∧ (campaigns.row campaign).isSome = true ∧
      lead.campaignId = some campaign ∧ lead.status = some "new" := by
  simp only [leadRow, bind_ok_iff] at h
  obtain ⟨ref, href, _, -, _, -, _, -, _, -, _, -, _, -, hlead⟩ := h
  obtain ⟨campaign, hid, rfl, hthere⟩ := bindReference_int href
  obtain rfl := Except.ok.inj hlead
  exact ⟨campaign, hid, hthere, rfl, rfl⟩

theorem createCampaign_outcome (env : CampaignsEnv) (body : Json) (w : World) :
    Outcome w (.createCampaign env body) (createCampaign env body w).1
      (createCampaign env body w).2 := by
  rcases hbody : body.asDict with e | fields
  · simp only [createCampaign, hbody]
    exact .refused ⟨fun _ => rfl, fun _ => rfl⟩ rfl
  · simp only [createCampaign, hbody]
    rcases run_execute env.faults Marketing.rollback (insertCampaign env fields) w.db with
      ⟨db, -, -, hinsert, hrun⟩ | ⟨-, e, reached, -, hrun⟩
    · rw [hrun]
      obtain ⟨campaign, -, hdb⟩ := bind_ok_iff.mp hinsert
      split at hdb
      · cases hdb
      · next id campaigns hid =>
        obtain rfl := Except.ok.inj hdb
        exact .campaignCreated hid rfl rfl
    · rw [hrun]
      exact .refused (rollback_sameRows _ _) rfl

theorem createLead_outcome (env : CampaignsEnv) (campaignId : Int) (body : Json) (w : World) :
    Outcome w (.createLead env campaignId body) (createLead env campaignId body w).1
      (createLead env campaignId body w).2 := by
  rcases hbody : body.asDict with e | fields
  · simp only [createLead, hbody]
    exact .refused ⟨fun _ => rfl, fun _ => rfl⟩ rfl
  · rcases hsearch : searchNotes (fields.getD "notes" (.str "")) with e | _
    · simp only [createLead, hbody, hsearch]
      exact .refused ⟨fun _ => rfl, fun _ => rfl⟩ rfl
    · simp only [createLead, hbody, hsearch]
      rcases run_execute env.faults Marketing.rollback
          (insertLead env campaignId fields (fields.getD "notes" (.str ""))) w.db with
        ⟨db, -, -, hinsert, hrun⟩ | ⟨-, e, reached, -, hrun⟩
      · rw [hrun]
        obtain ⟨lead, hlead, hdb⟩ := bind_ok_iff.mp hinsert
        obtain ⟨campaign, rfl, hthere, hnamed, hnew⟩ := leadRow_ok hlead
        split at hdb
        · cases hdb
        · next id leads hid =>
          obtain rfl := Except.ok.inj hdb
          exact .leadCreated hthere hnamed hnew hid rfl rfl
      · rw [hrun]
        exact .refused (rollback_sameRows _ _) rfl

theorem updateLead_ok {env : CampaignsEnv} {leadId : Int} {body : Obj} {db db' : Marketing}
    (h : updateLead env leadId body db = .ok db') :
    (Orders.rowAt db.leads leadId = none ∧ db' = db) ∨
    ∃ id lead lead', Orders.rowAt db.leads leadId = some (id, lead) ∧
      updatedLead env body lead = .ok lead' ∧ db'.campaigns = db.campaigns ∧
      ∀ i, db'.leads.row i = if i = id then some lead' else db.leads.row i := by
  simp only [updateLead] at h
  split at h
  · cases h
  · split at h
    · next hgone => exact Or.inl ⟨hgone, (Except.ok.inj h).symm⟩
    · next id lead hfound =>
      obtain ⟨lead', hwritten, hdb⟩ := bind_ok_iff.mp h
      obtain rfl := Except.ok.inj hdb
      refine Or.inr ⟨id, lead, lead', hfound, hwritten, rfl, fun i => ?_⟩
      simp only [Table.modify_row]
      by_cases heq : i = id
      · rw [if_pos heq, if_pos heq, heq, (rowAt_eq_some hfound).2]
        rfl
      · rw [if_neg heq, if_neg heq]

theorem updateLeadStatus_outcome (env : CampaignsEnv) (campaignId leadId : Int) (body : Json)
    (w : World) :
    Outcome w (.updateLead env campaignId leadId body)
      (updateLeadStatus env campaignId leadId body w).1
      (updateLeadStatus env campaignId leadId body w).2 := by
  rcases hbody : body.asDict with e | fields
  · simp only [updateLeadStatus, hbody]
    exact .refused ⟨fun _ => rfl, fun _ => rfl⟩ rfl
  · simp only [updateLeadStatus, hbody]
    obtain rfl := Json.asDict_ok_iff.mp hbody
    rcases run_execute env.faults Marketing.rollback (updateLead env leadId fields) w.db with
      ⟨db, -, -, hupdate, hrun⟩ | ⟨-, e, reached, -, hrun⟩
    · rw [hrun]
      rcases updateLead_ok hupdate with
        ⟨hgone, rfl⟩ | ⟨id, lead, lead', hfound, hwritten, hsame, hrows⟩
      · exact .missing hgone rfl rfl
      · exact .updated hfound hwritten hrows hsame rfl
    · rw [hrun]
      exact .refused (rollback_sameRows _ _) rfl

theorem handle_outcome (w : World) (r : Request) : Outcome w r (handle w r).1 (serve w r) := by
  cases r with
  | createCampaign env body => exact createCampaign_outcome env body w
  | createLead env campaignId body => exact createLead_outcome env campaignId body w
  | updateLead env campaignId leadId body =>
    exact updateLeadStatus_outcome env campaignId leadId body w

/-- The columns that no update sets, and the date of a conversion once it is there. -/
structure Stays (old new : Lead) : Prop where
  campaign : new.campaignId = old.campaignId
  customer : new.customerId = old.customerId
  email : new.email = old.email
  name : new.name = old.name
  source : new.source = old.source
  created : new.createdAt = old.createdAt
  converted : old.convertedAt.isSome = true → new.convertedAt.isSome = true

theorem Stays.refl (lead : Lead) : Stays lead lead := ⟨rfl, rfl, rfl, rfl, rfl, rfl, id⟩

theorem Stays.trans {a b c : Lead} (h : Stays a b) (k : Stays b c) : Stays a c where
  campaign := k.campaign.trans h.campaign
  customer := k.customer.trans h.customer
  email := k.email.trans h.email
  name := k.name.trans h.name
  source := k.source.trans h.source
  created := k.created.trans h.created
  converted := fun ha => k.converted (h.converted ha)

section Update
variable {env : CampaignsEnv} {body : Obj} {lead lead' : Lead}

theorem updatedLead_ok (h : updatedLead env body lead = .ok lead') :
    env.bindNullableText (.varchar 50) (newStatus body) = .ok lead'.status ∧
      lead'.convertedAt = (if isText "converted" (newStatus body) then some env.now
        else lead.convertedAt) ∧ Stays lead lead' := by
  simp only [updatedLead, bind_ok_iff] at h
  obtain ⟨status, hstatus, score, -, notes, -, hlead⟩ := h
  obtain rfl := Except.ok.inj hlead
  refine ⟨hstatus, rfl, rfl, rfl, rfl, rfl, rfl, rfl, fun hdated => ?_⟩
  show Option.isSome (if isText "converted" (newStatus body) then some env.now
    else lead.convertedAt) = true
  split
  · rfl
  · exact hdated

/-- The statuses that the funnel takes for qualified. -/
def reached (lead : Lead) : Bool :=
  decide (lead.status = some "qualified") || decide (lead.status = some "converted")

/-- An update is counted once exactly if it leaves the lead at a stage. -/
theorem counted_length (h : updatedLead env body lead = .ok lead') :
    (counted body).length = (reached lead').toNat := by
  have hstored := (updatedLead_ok h).1
  have hqualified : lead'.status = some "qualified" ↔ newStatus body = .str "qualified" :=
    stored_iff hstored (by decide)
  have hconverted : lead'.status = some "converted" ↔ newStatus body = .str "converted" :=
    stored_iff hstored (by decide)
  have hreached : reached lead' =
      (isText "qualified" (newStatus body) || isText "converted" (newStatus body)) := by
    rw [Bool.eq_iff_iff, Bool.or_eq_true, isText_iff, isText_iff, ← hqualified, ← hconverted]
    simp [reached]
  have hone : ¬ (isText "qualified" (newStatus body) = true ∧
      isText "converted" (newStatus body) = true) := by
    rintro ⟨hq, hc⟩
    have hsame := (isText_iff.mp hq).symm.trans (isText_iff.mp hc)
    exact absurd (Json.str.inj hsame) (by decide)
  rw [hreached]
  simp only [counted, stages, List.filter_cons, List.filter_nil]
  revert hone
  cases isText "qualified" (newStatus body) <;> cases isText "converted" (newStatus body) <;> simp

end Update

theorem counted_eq_nil {body : Obj} :
    counted body = [] ↔ ∀ stage ∈ stages, isText stage (newStatus body) = false := by
  simp only [counted, List.filter_eq_nil_iff, Bool.not_eq_true]

def funnelLeads (db : Marketing) : List Analytics.Lead :=
  db.leads.listing.rows.map fun row => ⟨row.2.status, row.2.customerId⟩

theorem qualified_eq (db : Marketing) (orders : OrderTable) :
    (Analytics.conversionFunnel (funnelLeads db) orders).qualified =
      db.leads.countWhere reached := List.countP_map

/-- What was answered is no update of a lead that has reached a stage before, and none that
is counted for a lead that is not there. -/
def Lossless (w : World) : Except PyExc Answer → Prop
  | .ok (.updated leadId status) => match Orders.rowAt w.db.leads leadId with
    | some (_, lead) => reached lead = false
    | none => ∀ stage ∈ stages, isText stage status = false
  | _ => True

/-- The conversions that were counted, less the leads that are at a stage. -/
def slack (w : World) : ℤ := w.metrics.leadsConverted.length - w.db.leads.countWhere reached

theorem Outcome.slack {w w' : World} {r : Request} {a : Except PyExc Answer}
    (h : Outcome w r a w') :
    slack w ≤ slack w' ∧ (Campaigns.slack w = Campaigns.slack w' ↔ Lossless w a) := by
  simp only [Campaigns.slack]
  cases h with
  | refused rows metrics =>
    rw [metrics, Table.countWhere_congr rows.leads]
    exact ⟨le_rfl, fun _ => trivial, fun _ => rfl⟩
  | campaignCreated inserted leads converted =>
    rw [converted, leads]
    exact ⟨le_rfl, fun _ => trivial, fun _ => rfl⟩
  | leadCreated there named new inserted campaigns converted =>
    rw [converted, Table.countWhere_insert inserted]
    simp only [reached, new]
    exact ⟨le_rfl, fun _ => trivial, fun _ => rfl⟩
  | missing gone db converted =>
    simp only [Lossless, gone, ← counted_eq_nil, db, converted, List.length_append]
    rw [← List.length_eq_zero_iff]
    omega
  | updated found written leads campaigns converted =>
    have hcount := Table.countWhere_update (rowAt_eq_some found).2 leads reached
    have hcounted := counted_length written
    simp only [Lossless, found, converted, List.length_append, hcounted, ← Bool.toNat_eq_zero]
    omega

/-- In every run the counter of the conversions covers the leads that the funnel takes for
qualified, and it goes astray exactly by an update of a lead that has reached a stage before
or one that is counted for a lead that is not there. -/
theorem conversions_cover_qualified (requests : List Request) (w : World) (orders : OrderTable) :
    let w' := requests.foldl serve w
    let qualified := fun w : World =>
      (Analytics.conversionFunnel (funnelLeads w.db) orders).qualified
    qualified w' + w.metrics.leadsConverted.length ≤
        qualified w + w'.metrics.leadsConverted.length ∧
      (qualified w' + w.metrics.leadsConverted.length =
          qualified w + w'.metrics.leadsConverted.length ↔
        ∀ before r after, requests = before ++ r :: after →
          Lossless (before.foldl serve w) (handle (before.foldl serve w) r).1) := by
  have hrises := fun w r => (handle_outcome w r).slack.1
  have hstart := start_le hrises requests w
  have hiff := (start_eq_iff hrises requests w).trans each_iff
  simp only [fun w r => (handle_outcome w r).slack.2] at hiff
  simp only [qualified_eq, ← hiff]
  simp only [Campaigns.slack] at hstart ⊢
  omega

/-- A lead was captured for the campaign. -/
def capturedFor (campaignId : Int) : Except PyExc Answer → Bool
  | .ok (.leadCreated _ campaign) => decide (campaign = campaignId)
  | _ => false

theorem Outcome.captured {w w' : World} {r : Request} {a : Except PyExc Answer}
    (h : Outcome w r a w') (c : Int) :
    w'.db.leads.countWhere (ofCampaign c) =
      w.db.leads.countWhere (ofCampaign c) + (capturedFor c a).toNat := by
  cases h with
  | refused rows metrics => exact Table.countWhere_congr rows.leads _
  | campaignCreated inserted leads converted =>
    rw [leads]
    rfl
  | leadCreated there named new inserted campaigns converted =>
    rw [Table.countWhere_insert inserted]
    simp only [ofCampaign, named, capturedFor, Option.map_some, Option.some.injEq]
    split <;> simp_all
  | missing gone db converted =>
    rw [db]
    rfl
  | updated found written leads campaigns converted =>
    have hcount := Table.countWhere_update (rowAt_eq_some found).2 leads (ofCampaign c)
    simp only [ofCampaign, (updatedLead_ok written).2.2.campaign] at hcount
    exact Nat.add_right_cancel hcount

theorem captured_run (c : Int) (requests : List Request) (w : World) :
    (requests.foldl serve w).db.leads.countWhere (ofCampaign c) =
      w.db.leads.countWhere (ofCampaign c) + (answers w requests).countP (capturedFor c) := by
  induction requests generalizing w with
  | nil => rfl
  | cons r rest ih =>
    rw [List.foldl_cons, ih, (handle_outcome w r).captured, answers, List.countP_cons]
    rw [add_assoc, add_comm (List.countP _ _)]
    cases capturedFor c (handle w r).1 <;> rfl

section Reads
variable {db : Marketing} {c : Int}

theorem leadsOf_length : (leadsOf db c).length = db.leads.countWhere (ofCampaign c) := by
  rw [leadsOf, ← List.countP_eq_length_filter, List.countP_map]
  rfl

theorem sum_leadStats :
    ((leadStats db c).map Prod.snd).sum = db.leads.countWhere (ofCampaign c) := by
  have hgroups := sum_all_groups Lead.status (leadsOf db c) fun _ => 1
  simp only [← length_eq_sum] at hgroups
  rw [← leadsOf_length, ← hgroups, leadStats, List.map_map]
  rfl

/-- A status that no lead has is not listed. -/
theorem lookup_leadStats (status : Option String) :
    ((leadStats db c).lookup status).getD 0 = (group Lead.status (leadsOf db c) status).length := by
  rw [leadStats]
  by_cases hmem : status ∈ groupKeys Lead.status (leadsOf db c)
  · rw [List.lookup_graph _ hmem]
    rfl
  · have hnone : group Lead.status (leadsOf db c) status = [] := by
      rw [group, List.filter_eq_nil_iff]
      intro lead hlead hstatus
      refine hmem (List.mem_dedup.mpr ?_)
      exact of_decide_eq_true hstatus ▸ List.mem_map_of_mem hlead
    have hlookup : List.lookup status ((groupKeys Lead.status (leadsOf db c)).map fun status =>
        (status, (group Lead.status (leadsOf db c) status).length)) = none := by
      rw [List.lookup_eq_none_iff]
      intro row hrow
      obtain ⟨other, hother, rfl⟩ := List.mem_map.mp hrow
      exact bne_iff_ne.mpr fun heq => hmem (heq ▸ hother)
    rw [hlookup, hnone]
    rfl

/-- Every lead is listed once, with its customer or without one. -/
theorem length_leadRows (customers : CustomerTable) (status : String) :
    (leadRows customers c status db).length = db.leads.countWhere (takesLead c status) := by
  rw [leadRows, outerJoin_find _ fun lead _ =>
    customers.listing_countP_le_one lead.2.customerId, List.length_map, selected,
    ← List.countP_eq_length_filter]
  rfl

theorem takesLead_all : takesLead c "" = ofCampaign c := by
  funext lead
  simp [takesLead]

theorem count_takesLead {status : String} (h : status ≠ "") :
    db.leads.countWhere (takesLead c status) =
      (group Lead.status (leadsOf db c) (some status)).length := by
  rw [group, leadsOf, List.filter_filter, ← List.countP_eq_length_filter, List.countP_map]
  refine List.countP_congr fun row _ => ?_
  simp [takesLead, h, and_comm]

end Reads

/-- After every run the total of a campaign is what it was with the leads that were captured
for it, whatever campaign the updates named, and the total, the groups by status and the
lists of campaigns and of leads agree. -/
theorem campaign_accounts (requests : List Request) (w : World) (customers : CustomerTable)
    {c : Nat} {campaign : Campaign}
    (there : (requests.foldl serve w).db.campaigns.row c = some campaign) :
    let db := (requests.foldl serve w).db
    ∃ detail, getCampaign c db = some detail ∧ detail.campaign = campaign ∧
      detail.totalLeads = w.db.leads.countWhere (ofCampaign c) +
        (answers w requests).countP (capturedFor c) ∧
      (detail.leadStats.map Prod.snd).sum = detail.totalLeads ∧
      (leadRows customers c "" db).length = detail.totalLeads ∧
      (∀ status, status ≠ "" → (leadRows customers c status db).length =
        (detail.leadStats.lookup (some status)).getD 0) ∧
      ∀ size offset answer, ∀ row ∈ listCampaigns db size offset answer, row.id = c →
        row.leadCount = detail.totalLeads := by
  intro db
  have hfound : Orders.rowAt db.campaigns c = some (c, campaign) := by
    show (db.campaigns.row c).map (Prod.mk c) = _
    rw [there]
    rfl
  refine ⟨_, congrArg (Option.map _) hfound, rfl, captured_run c requests w, sum_leadStats,
    ?_, ?_, ?_⟩
  · rw [length_leadRows, takesLead_all]
  · intro status hstatus
    rw [length_leadRows, count_takesLead hstatus, lookup_leadStats]
  · intro size offset answer row hrow hid
    obtain ⟨found, -, rfl⟩ := List.mem_map.mp hrow
    obtain rfl : found.1 = c := hid
    rfl

def sampleCampaignsEnv : CampaignsEnv where
  toBodyEnv := sampleBodyEnv
  userExists := fun _ => false
  customerExists := fun _ => false

def emptyWorld : World := ⟨⟨Table.empty, Table.empty⟩, ⟨[], [], []⟩⟩

def sampleRequests : List Request := [
  .createCampaign sampleCampaignsEnv (.obj []),
  .createLead sampleCampaignsEnv 1 (.obj [("email", .str "ann@example.com")]),
  .updateLead sampleCampaignsEnv 7 1 (.obj [("status", .str "converted")])]

theorem campaign_accounts_sample :
    ∃ detail, getCampaign 1 (sampleRequests.foldl serve emptyWorld).db = some detail ∧
      detail.totalLeads = 1 ∧ (detail.leadStats.map Prod.snd).sum = 1 := by
  have hthere : ((sampleRequests.foldl serve emptyWorld).db.campaigns.row 1).isSome = true := by
    decide +kernel
  obtain ⟨campaign, hcampaign⟩ := Option.isSome_iff_exists.mp hthere
  obtain ⟨detail, hdetail, -, htotal, hsum, -⟩ :=
    campaign_accounts sampleRequests emptyWorld Table.empty hcampaign
  have hcount : emptyWorld.db.leads.countWhere (ofCampaign (1 : Nat)) +
      (answers emptyWorld sampleRequests).countP (capturedFor (1 : Nat)) = 1 := by
    decide +kernel
  exact ⟨detail, hdetail, htotal.trans hcount, hsum.trans (htotal.trans hcount)⟩

/-- The lead names a campaign that is not there. -/
def Dangling (db : Marketing) (i : Nat) : Prop :=
  ∃ lead c, db.leads.row i = some lead ∧ lead.campaignId = some c ∧ db.campaigns.row c = none

/-- The lead is converted, and has no date of it. -/
def Undated (db : Marketing) (i : Nat) : Prop :=
  ∃ lead, db.leads.row i = some lead ∧ lead.status = some "converted" ∧ lead.convertedAt = none

/-- The campaigns are there as they were, and the leads under the same campaign. -/
structure Keeps (a b : Marketing) : Prop where
  dangling : ∀ i, Dangling b i → Dangling a i
  undated : ∀ i, Undated b i → Undated a i
  campaigns : Table.Extends a.campaigns b.campaigns
  leads : ∀ i lead, a.leads.row i = some lead → ∃ lead', b.leads.row i = some lead' ∧
    Stays lead lead'

theorem Keeps.refl (db : Marketing) : Keeps db db :=
  ⟨fun _ => id, fun _ => id, Table.Extends.refl _, fun _ lead h => ⟨lead, h, Stays.refl lead⟩⟩

theorem Keeps.trans {a b c : Marketing} (h : Keeps a b) (k : Keeps b c) : Keeps a c where
  dangling i hc := h.dangling i (k.dangling i hc)
  undated i hc := h.undated i (k.undated i hc)
  campaigns := h.campaigns.trans k.campaigns
  leads := by
    intro i lead hrow
    obtain ⟨mid, hmid, hstays⟩ := h.leads i lead hrow
    obtain ⟨last, hlast, hstays'⟩ := k.leads i mid hmid
    exact ⟨last, hlast, hstays.trans hstays'⟩

/-- A campaign that is missing was missing before. -/
theorem missing_before {a b : Marketing} (h : Table.Extends a.campaigns b.campaigns) {c : Nat}
    (hnone : b.campaigns.row c = none) : a.campaigns.row c = none := by
  cases ha : a.campaigns.row c with
  | none => rfl
  | some campaign =>
    rw [h c campaign ha] at hnone
    cases hnone

theorem Keeps.ofLeads {a b : Marketing} (campaigns : Table.Extends a.campaigns b.campaigns)
    (leads : ∀ i, b.leads.row i = a.leads.row i) : Keeps a b := by
  refine ⟨fun i => ?_, fun i => ?_, campaigns, fun i lead hrow => ?_⟩
  · rintro ⟨lead, c, hrow, hc, hnone⟩
    exact ⟨lead, c, (leads i).symm.trans hrow, hc, missing_before campaigns hnone⟩
  · rintro ⟨lead, hrow, hconverted, hdate⟩
    exact ⟨lead, (leads i).symm.trans hrow, hconverted, hdate⟩
  · exact ⟨lead, (leads i).trans hrow, Stays.refl lead⟩

theorem Outcome.keeps {w w' : World} {r : Request} {a : Except PyExc Answer}
    (h : Outcome w r a w') : Keeps w.db w'.db := by
  cases h with
  | refused rows metrics =>
    exact .ofLeads (fun i c hrow => (rows.campaigns i).trans hrow) rows.leads
  | campaignCreated inserted leads converted =>
    exact .ofLeads (Table.insert_extends inserted) fun i => by rw [leads]
  | leadCreated there named new inserted campaigns converted =>
    obtain ⟨-, -, -, hrows⟩ := Table.insert_eq_some inserted
    refine ⟨fun i => ?_, fun i => ?_, campaigns ▸ Table.Extends.refl _, ?_⟩
    · rintro ⟨lead, c, hrow, hc, hnone⟩
      rw [campaigns] at hnone
      rw [hrows] at hrow
      split at hrow
      · obtain rfl := Option.some.inj hrow
        obtain rfl := Option.some.inj (named.symm.trans hc)
        rw [hnone] at there
        cases there
      · exact ⟨lead, c, hrow, hc, hnone⟩
    · rintro ⟨lead, hrow, hconverted, hdate⟩
      rw [hrows] at hrow
      split at hrow
      · obtain rfl := Option.some.inj hrow
        exact absurd (Option.some.inj (new.symm.trans hconverted)) (by decide)
      · exact ⟨lead, hrow, hconverted, hdate⟩
    · intro i lead hrow
      exact ⟨lead, Table.insert_extends inserted i lead hrow, Stays.refl lead⟩
  | missing gone db converted => exact db ▸ Keeps.refl _
  | @updated env _ _ fields id lead lead' w' found written leads campaigns converted =>
    obtain ⟨-, hrow⟩ := rowAt_eq_some found
    obtain ⟨hstored, hdate, hstays⟩ := updatedLead_ok written
    refine ⟨fun i => ?_, fun i => ?_, campaigns ▸ Table.Extends.refl _, ?_⟩
    · rintro ⟨other, c, hother, hc, hnone⟩
      rw [campaigns] at hnone
      rw [leads] at hother
      split at hother
      · next hi =>
        obtain rfl := Option.some.inj hother
        exact ⟨lead, c, hi ▸ hrow, hstays.campaign.symm.trans hc, hnone⟩
      · exact ⟨other, c, hother, hc, hnone⟩
    · rintro ⟨other, hother, hconverted, hnone⟩
      rw [leads] at hother
      split at hother
      · obtain rfl := Option.some.inj hother
        have hnamed := (stored_iff hstored (by decide)).mp hconverted
        rw [hdate, if_pos (isText_iff.mpr hnamed)] at hnone
        cases hnone
      · exact ⟨other, hother, hconverted, hnone⟩
    · intro i old hold
      by_cases hi : i = id
      · obtain rfl : lead = old := Option.some.inj (hrow.symm.trans (hi ▸ hold))
        exact ⟨lead', (leads i).trans (if_pos hi), hstays⟩
      · exact ⟨old, (leads i).trans ((if_neg hi).trans hold), Stays.refl old⟩

theorem keeps_run (requests : List Request) (w : World) :
    Keeps w.db (requests.foldl serve w).db := by
  induction requests generalizing w with
  | nil => exact Keeps.refl w.db
  | cons r rest ih => exact (handle_outcome w r).keeps.trans (ih (serve w r))

/-- Whatever ids the requests of a run name: campaigns stay as they are, leads stay under their
campaign and with their customer and contact. A lead that names a campaign which is not there
did so at the start, and so was a converted lead without a date, which no status takes away. -/
theorem leads_stay (requests : List Request) (w : World) :
    let db := (requests.foldl serve w).db
    (∀ i, Dangling db i → Dangling w.db i) ∧ (∀ i, Undated db i → Undated w.db i) ∧
      Table.Extends w.db.campaigns db.campaigns ∧
      ∀ i lead, w.db.leads.row i = some lead →
        ∃ lead', db.leads.row i = some lead' ∧ Stays lead lead' :=
  ⟨(keeps_run requests w).dangling, (keeps_run requests w).undated,
    (keeps_run requests w).campaigns, (keeps_run requests w).leads⟩

end Campaigns

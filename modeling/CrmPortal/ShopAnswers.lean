import CrmPortal.CatalogAtomicity

/-!
# What the shop may answer to a push

A call that fails and a body that is no JSON are caught where they are read. The body of a
success is looked into after that, and only an object can be.
-/

namespace ShopAnswers

open PyValue Transaction CrmDatabase RequestContext ShopCatalogSync Products CatalogAtomicity

/-- No response, or one with a body; what is no JSON has only the text of its error. -/
inductive Wire where
  | lost (reason : String)
  | response (statusCode : Int) (body : Except String Json)

/-- `response.json()` is called in the `try` block. -/
def Wire.outcome : Wire → HttpOutcome
  | .lost reason => .raised reason
  | .response _ (.error reason) => .raised reason
  | .response statusCode (.ok body) => .answered statusCode body

/-- The shop, by what comes back for each push. -/
structure ShopService where
  url : String
  internalKey : String
  wire : Push → Wire

def ShopService.config (shop : ShopService) : ShopConfig :=
  ⟨shop.url, shop.internalKey, fun push => (shop.wire push).outcome⟩

def ShopService.Configured (shop : ShopService) : Prop :=
  shop.config.noUrl = false ∧ shop.internalKey ≠ ""

def pushOf (py : Builtins) (action : PushAction) (products : List SerializedProduct) : Push :=
  ⟨action, products.map (buildShopSyncPayload py)⟩

/-- What the push returns for an outcome of the call. -/
def answerOf (action : PushAction) (count : Nat) : HttpOutcome → Except PyExc ShopSync
  | .raised reason => .ok (.failed action count reason)
  | .answered statusCode body => (accepted statusCode body).map fun synced =>
      .answered synced action count statusCode body

/-- A success with a body that says no error. -/
def Accepts (wire : Wire) : Prop :=
  ∃ statusCode, ∃ fields : Obj, wire = .response statusCode (.ok (.obj fields)) ∧
    (statusCode = 200 ∨ statusCode = 201) ∧ (fields.get "error").truthy = false

/-- A success whose body is JSON has an object for it. -/
def Readable (wire : Wire) : Prop :=
  ∀ statusCode body, wire = .response statusCode (.ok body) →
    statusCode = 200 ∨ statusCode = 201 → ∃ fields, body = .obj fields

/-- The push returns, and says `synced` of a list only if the shop accepts it. -/
def Absorbs (py : Builtins) (shop : ShopService) (action : PushAction)
    (products : List SerializedProduct) (w : World Push) : Prop :=
  ∃ sync w', syncProductsToShop py shop.config action products w = (.ok sync, w') ∧
    (products ≠ [] → ShopSync.synced sync = true → Accepts (shop.wire (pushOf py action products)))

section Push
variable {py : Builtins} {shop : ShopService} {action : PushAction}
  {products : List SerializedProduct}
  {w : World Push}

theorem sync_unconfigured (h : ¬ shop.Configured) :
    ∃ reason, syncProductsToShop py shop.config action products w =
      (.ok (.notConfigured reason), w) := by
  unfold syncProductsToShop
  by_cases hurl : shop.config.noUrl = true
  · rw [if_pos hurl]
    exact ⟨_, rfl⟩
  · have hkey : shop.config.internalKey = "" := by
      by_contra hkey
      exact h ⟨Bool.eq_false_iff.mpr hurl, hkey⟩
    rw [if_neg hurl, if_pos hkey]
    exact ⟨_, rfl⟩

theorem sync_empty (h : shop.Configured) :
    syncProductsToShop py shop.config action [] w = (.ok (.skipped action), w) := by
  unfold syncProductsToShop
  rw [if_neg (Bool.eq_false_iff.mp h.1), if_neg (show shop.config.internalKey ≠ "" from h.2)]
  rfl

/-- A configured shop is sent a list that is not empty, and what comes of it decides. -/
theorem sync_sent (h : shop.Configured) (hsome : products ≠ []) :
    syncProductsToShop py shop.config action products w =
      (answerOf action products.length (shop.wire (pushOf py action products)).outcome,
        { w with trace := w.trace ++ [.sent (pushOf py action products)] }) := by
  have hprepared : (products.map (buildShopSyncPayload py)).isEmpty = false := by
    simpa using hsome
  have hkey : ¬ shop.config.internalKey = "" := h.2
  have hpost : shop.config.post ⟨action, products.map (buildShopSyncPayload py)⟩ =
      (shop.wire (pushOf py action products)).outcome := rfl
  unfold syncProductsToShop answerOf
  rw [if_neg (Bool.eq_false_iff.mp h.1), if_neg hkey, if_neg (Bool.eq_false_iff.mp hprepared),
    List.length_map, Tx.bind_of_ok _ (Tx.write_apply _ _), hpost]
  rcases (shop.wire (pushOf py action products)).outcome with reason | ⟨statusCode, body⟩
  · rfl
  · rcases haccepted : accepted statusCode body with e | synced
    · simp [haccepted, Tx.ofExcept, Tx.bind_apply, pushOf, Except.map]
    · simp [haccepted, Tx.ofExcept, Tx.bind_apply, pushOf, Except.map]

theorem accepted_object {statusCode : Int} {fields : Obj}
    (h : statusCode = 200 ∨ statusCode = 201) :
    accepted statusCode (.obj fields) = .ok !(fields.get "error").truthy := by
  unfold accepted
  rw [if_pos h]
  rfl

theorem accepted_other {statusCode : Int} {body : Json} (h : statusCode = 200 ∨ statusCode = 201)
    (hbody : ∀ fields, body ≠ .obj fields) : accepted statusCode body = .error .attributeError := by
  unfold accepted
  rw [if_pos h]
  cases body with
  | obj fields => exact absurd rfl (hbody fields)
  | null => rfl
  | bool b => rfl
  | int n => rfl
  | float x => rfl
  | str s => rfl
  | arr xs => rfl

theorem accepted_failure {statusCode : Int} {body : Json}
    (h : ¬ (statusCode = 200 ∨ statusCode = 201)) : accepted statusCode body = .ok false := by
  unfold accepted
  rw [if_neg h]
  rfl

/-- What a response makes of the answer. -/
theorem answerOf_cases (action : PushAction) (count : Nat) (wire : Wire) :
    (Readable wire ∧ ∃ sync, answerOf action count wire.outcome = .ok sync ∧
      (ShopSync.synced sync = true ↔ Accepts wire)) ∨
    (¬ Readable wire ∧ answerOf action count wire.outcome = .error .attributeError) := by
  have hlost : ∀ reason, (∀ statusCode body, wire ≠ .response statusCode (.ok body)) →
      wire.outcome = .raised reason →
      Readable wire ∧ ∃ sync, answerOf action count wire.outcome = .ok sync ∧
        (ShopSync.synced sync = true ↔ Accepts wire) := by
    intro reason hnone houtcome
    refine ⟨fun statusCode body heq => absurd heq (hnone statusCode body),
      .failed action count reason, by rw [houtcome]; rfl, fun h => ?_, ?_⟩
    · cases h
    · rintro ⟨statusCode, fields, heq, -⟩
      exact absurd heq (hnone statusCode _)
  rcases wire with reason | ⟨statusCode, reason | body⟩
  · exact Or.inl (hlost reason (fun _ _ h => by cases h) rfl)
  · exact Or.inl (hlost reason (fun _ _ h => by cases h) rfl)
  change (_ ∧ ∃ sync, (accepted statusCode body).map _ = .ok sync ∧ _) ∨
    (_ ∧ (accepted statusCode body).map _ = _)
  by_cases hsuccess : statusCode = 200 ∨ statusCode = 201
  · by_cases hobject : ∃ fields, body = .obj fields
    · obtain ⟨fields, rfl⟩ := hobject
      refine Or.inl ⟨?_, _, by rw [accepted_object hsuccess]; rfl, fun h => ?_, ?_⟩
      · rintro _ _ heq -
        cases heq
        exact ⟨fields, rfl⟩
      · exact ⟨statusCode, fields, rfl, hsuccess, by simpa [ShopSync.synced] using h⟩
      · rintro ⟨_, _, heq, -, hnone⟩
        cases heq
        simpa [ShopSync.synced] using hnone
    · refine Or.inr ⟨fun h => hobject (h statusCode body rfl hsuccess), ?_⟩
      rw [accepted_other hsuccess fun fields h => hobject ⟨fields, h⟩]
      rfl
  · refine Or.inl ⟨?_, _, by rw [accepted_failure hsuccess]; rfl, fun h => ?_, ?_⟩
    · rintro _ _ heq h
      cases heq
      exact absurd h hsuccess
    · cases h
    · rintro ⟨_, _, heq, h, -⟩
      cases heq
      exact absurd h hsuccess

/-- A push raises exactly when a list is sent and comes back with an unreadable success. -/
theorem absorbs_iff : Absorbs py shop action products w ↔
    (shop.Configured → products ≠ [] → Readable (shop.wire (pushOf py action products))) := by
  by_cases hcfg : shop.Configured
  · by_cases hsome : products = []
    · subst hsome
      refine ⟨fun _ _ h => absurd rfl h, fun _ => ?_⟩
      exact ⟨_, w, sync_empty hcfg, fun h => absurd rfl h⟩
    · unfold Absorbs
      rw [sync_sent hcfg hsome]
      rcases answerOf_cases action products.length (shop.wire (pushOf py action products)) with
        ⟨hreadable, sync, hsync, hsynced⟩ | ⟨hunreadable, hraises⟩
      · rw [hsync]
        exact ⟨fun _ _ _ => hreadable, fun _ => ⟨sync, _, rfl, fun _ h => hsynced.mp h⟩⟩
      · rw [hraises]
        refine ⟨?_, fun h => absurd (h hcfg hsome) hunreadable⟩
        rintro ⟨sync, w', heq, -⟩
        cases heq
  · refine ⟨fun _ h => absurd h hcfg, fun _ => ?_⟩
    obtain ⟨reason, hsync⟩ : ∃ reason, syncProductsToShop py shop.config action products w =
        (.ok (.notConfigured reason), w) := sync_unconfigured hcfg
    exact ⟨_, w, hsync, fun _ h => by cases h⟩

/-- After a committed change the handler answers exactly when the push is absorbed. -/
theorem committed_answers_iff {Value : Type} {env : HandlerEnv} (hshop : env.shop = shop.config)
    {listed : Value → List SerializedProduct} {answer : Value → ShopSync → ProductAnswer}
    {a : Value} :
    (∃ result w', pushThenAnswer env action listed answer a w = (.ok result, w')) ↔
      Absorbs env.py shop action (listed a) w := by
  constructor
  · rintro ⟨result, w', h⟩
    obtain ⟨sync, m, hsync, -⟩ := Tx.bind_ok_iff.mp h
    rw [hshop] at hsync
    refine absorbs_iff.mpr fun hcfg hsome => ?_
    rw [sync_sent hcfg hsome] at hsync
    rcases answerOf_cases action (listed a).length
        (shop.wire (pushOf env.py action (listed a))) with ⟨hreadable, -⟩ | ⟨-, hraises⟩
    · exact hreadable
    · rw [hraises] at hsync
      cases hsync
  · rintro ⟨sync, w', hsync, -⟩
    rw [← hshop] at hsync
    refine ⟨.answer (answer a sync), w', ?_⟩
    unfold pushThenAnswer
    rw [Tx.bind_of_ok _ hsync]
    rfl

end Push

/-- A shop that answers every push with an empty JSON list. -/
def listShop : ShopService :=
  ⟨"https://shop.example", "key", fun _ => .response 200 (.ok (.arr []))⟩

/-- A list has no `get`. -/
theorem list_answer_raises : ¬ ∀ (py : Builtins) (shop : ShopService) (action : PushAction)
    (products : List SerializedProduct) (w : World Push), Absorbs py shop action products w := by
  intro hall
  obtain ⟨sync, w', hsync, -⟩ := hall (asciiBuiltins fun _ => "") listShop .upsert
    [serializeProduct 1 none (sampleMutation 'C' 'A' 'M' '1' rfl).row] ⟨Db.empty, []⟩
  have hraises : (syncProductsToShop (asciiBuiltins fun _ => "") listShop.config .upsert
      [serializeProduct 1 none (sampleMutation 'C' 'A' 'M' '1' rfl).row] ⟨Db.empty, []⟩).1 =
        .error .attributeError := rfl
  rw [hsync] at hraises
  cases hraises

end ShopAnswers

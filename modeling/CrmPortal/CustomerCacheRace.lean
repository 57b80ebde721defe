import CrmPortal.CustomerCache
import CrmPortal.Library.ReadThrough

/-!
# Lookups beside updates and invalidations

The steps of `find_customer_by_email` (get, read, set) of any number of callers, and
updates of customers, each followed at some time by `invalidate_customer_cache` for its
e-mail. An entry that expires vanishes. An empty e-mail is never looked up.
-/

namespace CustomerCacheRace

open PyValue JsonText IdentityTable CrmDatabase CustomerCache Schedule

abbrev Email := { email : String // email ≠ "" }

/-- What the query finds for an e-mail. -/
abbrev Found := Option (Nat × Customer)

def Found.dict (found : Found) : Option Obj := found.map fun row => customerDict row.1 row.2

def query (db : CustomerTable) (email : Email) : Found :=
  (db.find email.1).bind fun id => (db.row id).map fun customer => (id, customer)

theorem query_dict (db : CustomerTable) (email : Email) :
    (query db email).dict = findByEmailInDb db email.1 := by
  unfold query Found.dict findByEmailInDb
  rw [if_neg email.2]
  cases db.find email.1 with
  | none => rfl
  | some id => cases hrow : db.row id <;> simp [hrow]

variable {Caller : Type} [DecidableEq Caller]

abbrev State (Caller : Type) := ReadThrough.State Caller Email (String × String) Found Json

abbrev Action (Caller : Type) := ReadThrough.Action Caller Email (String × String) Found

/-- `json.loads` of the cached text. -/
def decode (floats : FloatText) (found : Found) : Option Json :=
  loads floats (body floats found.dict)

def present (found : Found) : Json := resultJson found.dict

def step (py : Builtins) (floats : FloatText) : State Caller → Action Caller →
    Option (State Caller) :=
  ReadThrough.step (fun email => cacheKey py email.1) (decode floats) present

def start (db : CustomerTable) : State Caller := ReadThrough.start (query db)

/-- A lookup that started while no invalidation of its e-mail was pending returns the
customer as of its start, or as of an update that came while it was in flight. -/
def Fresh (s : State Caller) : Prop := ReadThrough.Fresh present s

/-- A get finds an entry that was filled under the same spelling and for a customer; a
set stores a row that was current at some time since the updates of its e-mail were last
all invalidated. -/
def Careful (py : Builtins) (s : State Caller) : Action Caller → Prop
  | .hit r => ∀ email promise, s.session r = .started email promise →
    ∀ filler found, s.cache (cacheKey py email.1) = some (filler, found) →
      filler = email ∧ found.isSome
  | .store r => ∀ email promise found, s.session r = .holding email promise found →
    found ∈ s.recent email
  | _ => True

theorem decode_customer (floats : FloatText) {found : Found} (h : found.isSome) :
    decode floats found = some (present found) := by
  obtain ⟨⟨id, customer⟩, rfl⟩ := Option.isSome_iff_exists.mp h
  exact loads_compactDumps floats _ (uniqueKeys_customerDict id customer)

omit [DecidableEq Caller] in
theorem careful_readThrough {py : Builtins} (floats : FloatText) (s : State Caller)
    (a : Action Caller) (h : Careful py s a) :
    ReadThrough.Careful (fun email => cacheKey py email.1) (decode floats) present s a := by
  cases a with
  | hit r =>
    intro email promise hsession filler found hentry
    obtain ⟨hfiller, hsome⟩ := h email promise hsession filler found hentry
    exact ⟨hfiller, decode_customer floats hsome⟩
  | store r => exact h
  | _ => trivial

theorem lookups_fresh (py : Builtins) (floats : FloatText) (db : CustomerTable)
    {schedule : List (Action Caller)} {s : State Caller}
    (h : exec (step py floats) (start db) schedule = some s)
    (careful : Along (Careful py) (step py floats) (start db) schedule) : Fresh s :=
  ReadThrough.fresh_exec h (along_mono (careful_readThrough floats) careful)

def ada (company : String) : Customer :=
  ⟨"Ada", "ada@x", none, some company, none, none, none⟩

def adaEmail : Email := ⟨"ada@x", by decide⟩

def sampleDb : CustomerTable :=
  ((Table.insert Table.empty (ada "old")).map Prod.snd).getD Table.empty

/-- The fill of the first lookup has been read when the update comes. -/
def overtaken : List (Action Bool) :=
  [.start false adaEmail, .miss false, .read false, .write adaEmail (some (1, ada "new")),
    .invalidate adaEmail, .store false, .start true adaEmail]

/-- It is stored after the invalidation, and the next lookup returns it. -/
theorem late_fill_undoes_invalidation : ∃ s,
    exec (step (asciiBuiltins id) plainFloats) (start sampleDb) (overtaken ++ [.hit true]) =
      some s ∧ ¬ Fresh s := by
  obtain ⟨m, hm, hsession, hcache⟩ : ∃ m : State Bool,
      exec (step (asciiBuiltins id) plainFloats) (start sampleDb) overtaken = some m ∧
      m.session true = .started adaEmail (some [some (1, ada "new")]) ∧
      m.cache (cacheKey (asciiBuiltins id) adaEmail.1) =
        some (adaEmail, some (1, ada "old")) := ⟨_, rfl, rfl, rfl⟩
  have hdecode : decode plainFloats (some (1, ada "old")) = some (present (some (1, ada "old"))) :=
    decode_customer plainFloats rfl
  have hhit : step (asciiBuiltins id) plainFloats m (.hit true) = some (m.setSession true
      (.done adaEmail (some [some (1, ada "new")]) (present (some (1, ada "old"))))) := by
    simp only [step, ReadThrough.step, hsession, hcache, hdecode, Option.map_some]
  refine ⟨_, exec_append_iff.mpr ⟨m, hm, exec_cons_iff.mpr ⟨_, hhit, rfl⟩⟩, ?_⟩
  intro hfresh
  have hdone : (m.setSession true (.done adaEmail (some [some (1, ada "new")])
      (present (some (1, ada "old"))))).session true =
        .done adaEmail (some [some (1, ada "new")]) (present (some (1, ada "old"))) := rfl
  obtain ⟨found, hmem, hresult⟩ := hfresh true adaEmail _ _ hdone
  obtain rfl := List.mem_singleton.mp hmem
  have hdict : customerDict 1 (ada "old") = customerDict 1 (ada "new") := Json.obj.inj hresult
  have hcompany : Json.str "old" = .str "new" :=
    Option.some.inj (congrArg (List.lookup "company") hdict)
  exact absurd (Json.str.inj hcompany) (by decide)

/-- The fill is stored before the update. -/
def inTime : List (Action Bool) :=
  [.start false adaEmail, .miss false, .read false, .store false,
    .write adaEmail (some (1, ada "new")), .invalidate adaEmail, .start true adaEmail, .miss true,
    .read true, .skip true]

theorem lookups_fresh_sample : ∃ s,
    exec (step (asciiBuiltins id) plainFloats) (start sampleDb) inTime = some s ∧ Fresh s := by
  have hrun : ∃ s, exec (step (asciiBuiltins id) plainFloats) (start sampleDb) inTime = some s :=
    ⟨_, rfl⟩
  obtain ⟨s, hrun⟩ := hrun
  refine ⟨s, hrun, lookups_fresh (asciiBuiltins id) plainFloats sampleDb hrun ?_⟩
  refine ⟨trivial, fun s₁ h₁ =>
    ⟨trivial, fun s₂ h₂ => ⟨trivial, fun s₃ h₃ => ⟨?_, fun s₄ h₄ => ?_⟩⟩⟩⟩
  · obtain rfl := Option.some.inj h₁
    obtain rfl := Option.some.inj h₂
    obtain rfl := Option.some.inj h₃
    intro email promise found hsession
    cases hsession
    exact List.mem_singleton.mpr rfl
  · exact ⟨trivial, fun _ _ => ⟨trivial, fun _ _ => ⟨trivial, fun _ _ => ⟨trivial, fun _ _ =>
      ⟨trivial, fun _ _ => ⟨trivial, fun _ _ => trivial⟩⟩⟩⟩⟩⟩

end CustomerCacheRace

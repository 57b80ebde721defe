import CrmPortal.Library.Splitting
import Mathlib.Data.List.Infix

/-!
# The masked database URL

`masked_database_url` looks for the end of the password at the first `@` and for its start
at the last `:` before. A password may have both, and then a part of it is taken for the
host or for the user. A text is the list of its characters.
-/

namespace MaskedUrl

open Splitting

abbrev Text := List Char

/-- The settings of the database; `setting` is the field `_database_url`. -/
structure DatabaseConfig where
  setting : Text
  oracleDsn : Text
  oracleUser : Text
  oraclePassword : Text

def usePostgres (cfg : DatabaseConfig) : Bool :=
  decide (cfg.setting ≠ []) && decide (cfg.oracleDsn = [])

def postgresql : Text := "postgresql".toList

def asyncpg : Text := "postgresql+asyncpg".toList

def oracledbAsync : Text := "oracle+oracledb_async".toList

/-- `://`. -/
def separator : Text := [':', '/', '/']

def databaseUrl (cfg : DatabaseConfig) : Text :=
  if usePostgres cfg then
    if postgresql ++ separator <+: cfg.setting then
      asyncpg ++ separator ++ cfg.setting.drop (postgresql ++ separator).length
    else cfg.setting
  else oracledbAsync ++ separator ++ cfg.oracleUser ++ ':' :: cfg.oraclePassword ++ ['@']

def maskedDatabaseUrl (cfg : DatabaseConfig) : Text :=
  let url := databaseUrl cfg
  if '@' ∉ url ∨ ¬ separator <:+: url then url
  else match cut '@' url with
    | none => url
    | some (start, rest) =>
      match cutLast ':' start with
      | none => url
      | some (head, _) => head ++ [':', '*', '*', '*', '@'] ++ rest

/-- Where the password is put: `ORACLE_PASSWORD`, or a URL in `DATABASE_URL` whose scheme is
a plain name. -/
inductive Backend where
  | oracle (setting dsn : Text) (chosen : setting = [] ∨ dsn ≠ [])
  | postgres (scheme location : Text) (plain : '@' ∉ scheme ∧ ':' ∉ scheme)

structure Account where
  user : Text
  plain : '@' ∉ user ∧ ':' ∉ user

def config (backend : Backend) (account : Account) (password : Text) : DatabaseConfig :=
  match backend with
  | .oracle setting dsn _ => ⟨setting, dsn, account.user, password⟩
  | .postgres scheme location _ =>
    ⟨scheme ++ separator ++ account.user ++ ':' :: password ++ '@' :: location, [], [], []⟩

def masked (backend : Backend) (account : Account) (password : Text) : Text :=
  maskedDatabaseUrl (config backend account password)

def schemeOf : Backend → Text
  | .oracle _ _ _ => oracledbAsync
  | .postgres scheme _ _ => if scheme = postgresql then asyncpg else scheme

/-- What stands before the password in the URL, less the colon. -/
def front (backend : Backend) (account : Account) : Text :=
  schemeOf backend ++ separator ++ account.user

/-- What stands after it and its `@`. -/
def back : Backend → Text
  | .oracle _ _ _ => []
  | .postgres _ location _ => location

/-- The password up to its first `@`. -/
def upToAt (password : Text) : Text :=
  match cut '@' password with
  | none => password
  | some (start, _) => start

/-- What is taken for the user: up to the last colon before the first `@`. -/
def shownBefore (password : Text) : Option Text := (cutLast ':' (upToAt password)).map Prod.fst

/-- What is taken for the host: what follows the first `@`. -/
def shownAfter (password : Text) : Option Text := (cut '@' password).map Prod.snd

def before (shown : Option Text) : Text :=
  match shown with
  | none => []
  | some text => ':' :: text

def after (shown : Option Text) : Text :=
  match shown with
  | none => []
  | some text => text ++ ['@']

section Url
variable {backend : Backend} {account : Account} {password : Text}

/-- A plain scheme is `postgresql` if the URL begins so. -/
theorem prefix_iff {scheme rest : Text} (plain : ':' ∉ scheme) :
    postgresql ++ separator <+: scheme ++ separator ++ rest ↔ scheme = postgresql := by
  constructor
  · rintro ⟨tail, htail⟩
    have hname : ':' ∉ postgresql := by decide
    have hcut := cut_append (b := '/' :: '/' :: tail) hname
    have hscheme := cut_append (b := '/' :: '/' :: rest) plain
    have hsame : postgresql ++ ':' :: '/' :: '/' :: tail = scheme ++ ':' :: '/' :: '/' :: rest := by
      rw [List.append_assoc, List.append_assoc] at htail
      exact htail
    rw [hsame, hscheme] at hcut
    exact (Prod.mk.inj (Option.some.inj hcut)).1
  · rintro rfl
    exact List.prefix_append _ _

theorem databaseUrl_config :
    databaseUrl (config backend account password) =
      front backend account ++ ':' :: (password ++ '@' :: back backend) := by
  cases backend with
  | oracle setting dsn chosen =>
    have hother : usePostgres (config (.oracle setting dsn chosen) account password) = false := by
      rcases chosen with h | h
      · simp [usePostgres, config, h]
      · simp [usePostgres, config, h]
    unfold databaseUrl
    rw [if_neg (by simp [hother])]
    simp [config, front, back, schemeOf]
  | postgres scheme location plain =>
    have hpostgres : usePostgres (config (.postgres scheme location plain) account password) =
        true := by
      simp [usePostgres, config]
    have hsetting : (config (.postgres scheme location plain) account password).setting =
        scheme ++ separator ++ (account.user ++ ':' :: (password ++ '@' :: location)) := by
      simp [config]
    unfold databaseUrl front schemeOf back
    dsimp only
    rw [if_pos hpostgres, hsetting]
    by_cases hscheme : scheme = postgresql
    · rw [if_pos ((prefix_iff plain.2).mpr hscheme), if_pos hscheme, hscheme, List.drop_left]
      simp
    · rw [if_neg fun h => hscheme ((prefix_iff plain.2).mp h), if_neg hscheme]
      simp

theorem front_plain : '@' ∉ front backend account := by
  have hscheme : '@' ∉ schemeOf backend := by
    cases backend with
    | oracle setting dsn chosen =>
      change '@' ∉ oracledbAsync
      decide
    | postgres scheme location plain =>
      change '@' ∉ if scheme = postgresql then asyncpg else scheme
      split
      · decide
      · exact plain.1
  simp [front, separator, hscheme, account.plain.1]

theorem front_contains : separator <:+: front backend account := ⟨_, account.user, rfl⟩

theorem upToAt_plain : '@' ∉ upToAt password := by
  unfold upToAt
  cases hcut : cut '@' password with
  | none => exact cut_eq_none_iff.mp hcut
  | some parts => exact (cut_eq_some_iff.mp hcut).2

/-- The URL, cut at its first `@`. -/
theorem databaseUrl_cut : databaseUrl (config backend account password) =
    (front backend account ++ ':' :: upToAt password) ++
      '@' :: (after (shownAfter password) ++ back backend) := by
  rw [databaseUrl_config]
  unfold upToAt shownAfter after
  cases hcut : cut '@' password with
  | none => simp
  | some parts =>
    obtain ⟨start, rest⟩ := parts
    obtain ⟨rfl, -⟩ := cut_eq_some_iff.mp hcut
    simp

theorem databaseUrl_contains : separator <:+: databaseUrl (config backend account password) := by
  have hprefix : front backend account <+: front backend account ++ ':' :: upToAt password ++
      '@' :: (after (shownAfter password) ++ back backend) := by
    rw [List.append_assoc]
    exact List.prefix_append _ _
  rw [databaseUrl_cut]
  exact front_contains.trans hprefix.isInfix

/-- What is in front of the last colon before that. -/
theorem cutLast_front : ∃ hidden,
    cutLast ':' (front backend account ++ ':' :: upToAt password) =
      some (front backend account ++ before (shownBefore password), hidden) := by
  unfold shownBefore before
  cases hlast : cutLast ':' (upToAt password) with
  | none =>
    refine ⟨upToAt password, cutLast_eq_some_iff.mpr ⟨?_, cutLast_eq_none_iff.mp hlast⟩⟩
    simp
  | some parts =>
    obtain ⟨start, rest⟩ := parts
    obtain ⟨hparts, hrest⟩ := cutLast_eq_some_iff.mp hlast
    refine ⟨rest, cutLast_eq_some_iff.mpr ⟨?_, hrest⟩⟩
    rw [hparts]
    simp

/-- The masked URL: what surrounds the password, and the parts that are not taken for it. -/
theorem masked_eq : masked backend account password =
    front backend account ++ before (shownBefore password) ++ [':', '*', '*', '*'] ++
      '@' :: (after (shownAfter password) ++ back backend) := by
  have hfront : '@' ∉ front backend account ++ ':' :: upToAt password := by
    simp [front_plain, upToAt_plain]
  have hguard : ¬ ('@' ∉ databaseUrl (config backend account password) ∨
      ¬ separator <:+: databaseUrl (config backend account password)) := by
    rintro (hat | hseparator)
    · rw [databaseUrl_cut] at hat
      exact hat (List.mem_append_right _ List.mem_cons_self)
    · exact hseparator databaseUrl_contains
  obtain ⟨hidden, hlast⟩ : ∃ hidden,
      cutLast ':' (front backend account ++ ':' :: upToAt password) =
        some (front backend account ++ before (shownBefore password), hidden) := cutLast_front
  unfold masked maskedDatabaseUrl
  dsimp only
  rw [if_neg hguard, databaseUrl_cut, cut_append hfront]
  dsimp only
  rw [hlast]
  simp

theorem before_plain : '@' ∉ before (shownBefore password) := by
  unfold shownBefore before
  cases hlast : cutLast ':' (upToAt password) with
  | none => simp
  | some parts =>
    obtain ⟨start, rest⟩ := parts
    obtain ⟨hparts, -⟩ := cutLast_eq_some_iff.mp hlast
    have hplain : '@' ∉ upToAt password := upToAt_plain
    rw [hparts, List.mem_append, not_or] at hplain
    simp [hplain.1]

end Url

theorem before_inj {a b : Option Text} (h : before a = before b) : a = b := by
  cases a <;> cases b <;> simp_all [before]

theorem after_inj {a b : Option Text} (h : after a = after b) : a = b := by
  cases a <;> cases b <;> simp_all [after]

/-- Nothing of the password is taken for something else. -/
theorem shown_none_iff (password : Text) :
    (shownBefore password = none ∧ shownAfter password = none) ↔
      '@' ∉ password ∧ ':' ∉ password := by
  unfold shownBefore shownAfter upToAt
  cases hcut : cut '@' password with
  | none => simp [cutLast_eq_none_iff, cut_eq_none_iff.mp hcut]
  | some parts =>
    have hat : '@' ∈ password := by
      by_contra hno
      rw [cut_eq_none_iff.mpr hno] at hcut
      cases hcut
    simp [hat]

theorem masked_same_iff (backend : Backend) (account : Account) (p q : Text) :
    masked backend account p = masked backend account q ↔
      shownBefore p = shownBefore q ∧ shownAfter p = shownAfter q := by
  constructor
  · intro h
    rw [masked_eq, masked_eq] at h
    have hplain : ∀ r, '@' ∉ front backend account ++ before (shownBefore r) ++
        [':', '*', '*', '*'] := by
      intro r
      simp [front_plain, before_plain]
    have hcut := congrArg (cut '@') h
    rw [cut_append (hplain p), cut_append (hplain q)] at hcut
    obtain ⟨hbefore, hafter⟩ := Prod.mk.inj (Option.some.inj hcut)
    exact ⟨before_inj (List.append_cancel_left (List.append_cancel_right hbefore)),
      after_inj (List.append_cancel_right hafter)⟩
  · rintro ⟨hbefore, hafter⟩
    rw [masked_eq, masked_eq, hbefore, hafter]

/-- The masked URL, with nothing of a password in it. -/
def hidden (backend : Backend) (account : Account) : Text :=
  front backend account ++ [':', '*', '*', '*'] ++ '@' :: back backend

/-- Two passwords give one masked URL exactly when the same parts of them are shown, and
nothing of a password is shown exactly when it has no `@` and no colon. -/
theorem masked_iff (backend : Backend) (account : Account) :
    (∀ p q, masked backend account p = masked backend account q ↔
      shownBefore p = shownBefore q ∧ shownAfter p = shownAfter q) ∧
    ∀ p, masked backend account p = hidden backend account ↔ '@' ∉ p ∧ ':' ∉ p := by
  refine ⟨masked_same_iff backend account, fun p => ?_⟩
  have hempty : masked backend account [] = hidden backend account := by
    rw [masked_eq]
    simp [hidden, shownBefore, shownAfter, upToAt, cut, cutLast, before, after]
  rw [← hempty, masked_same_iff, ← shown_none_iff]
  rfl

/-- A password with a colon for Oracle shows what is before the colon. -/
theorem colon_shows_password : ¬ ∀ (backend : Backend) (account : Account) (p q : Text),
    p ≠ [] → q ≠ [] → masked backend account p = masked backend account q := by
  intro hall
  have h := hall (.oracle [] [] (Or.inl rfl)) ⟨['A'], by decide⟩ ['s', ':', 't'] ['u']
    (by decide) (by decide)
  rw [masked_same_iff] at h
  exact absurd h.1 (by decide)

end MaskedUrl

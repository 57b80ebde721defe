import CrmPortal.Library.Trimming
import CrmPortal.Library.FirstOccurrence

/-!
# The allowed origins of the configuration

`cors_allowed_origins` drops blank entries and `*` before it takes the slashes off, so that
what the slashes hid stays in the list; the origins that it derives are not trimmed at all.
A text is the list of its characters.
-/

namespace CorsOrigins

open Trimming FirstOccurrence

abbrev Text := List Char

/-- `str.isspace` of one character. -/
def isSpace (c : Char) : Bool :=
  let n := c.toNat
  (9 ≤ n && n ≤ 13) || (28 ≤ n && n ≤ 32) || n == 0x85 || n == 0xA0 || n == 0x1680 ||
    (0x2000 ≤ n && n ≤ 0x200A) || n == 0x2028 || n == 0x2029 || n == 0x202F || n == 0x205F ||
    n == 0x3000

def isSlash (c : Char) : Bool := c == '/'

/-- `text.strip()`. -/
def strip (text : Text) : Text := trim isSpace text

/-- `text.rstrip("/")`. -/
def stripSlashes (text : Text) : Text := text.rdropWhile isSlash

structure Config where
  corsAllowedOriginsRaw : Text
  crmBaseUrl : Text
  dnsDomain : Text

def entries (cfg : Config) : List Text := cfg.corsAllowedOriginsRaw.splitOn ','

/-- `origin.strip() and origin.strip() != "*"`. -/
def listed (entry : Text) : Bool := decide (strip entry ≠ []) && decide (strip entry ≠ ['*'])

/-- What an entry stands for. -/
def originOf (entry : Text) : Text := stripSlashes (strip entry)

def configured (cfg : Config) : List Text := ((entries cfg).filter listed).map originOf

def derived (cfg : Config) : List Text :=
  (if cfg.crmBaseUrl = [] then [] else [stripSlashes cfg.crmBaseUrl]) ++
    if cfg.dnsDomain = [] then [] else
      ["https://crm.".toList ++ cfg.dnsDomain, "https://shop.".toList ++ cfg.dnsDomain,
        "https://ops.".toList ++ cfg.dnsDomain]

def corsAllowedOrigins (cfg : Config) : List Text :=
  if configured cfg ≠ [] then firsts (configured cfg)
  else firsts ((derived cfg).filter fun origin => decide (origin ≠ []))

structure CleanOrigin (origin : Text) : Prop where
  nonempty : origin ≠ []
  wildcard : origin ≠ ['*']
  slash : ∀ c ∈ origin.getLast?, isSlash c = false
  trimmed : strip origin = origin

/-- Clean origins only, each once, and every entry that is one, in the order in which the
entries give them first. -/
structure CleanList (given result : List Text) : Prop where
  clean : ∀ origin ∈ result, CleanOrigin origin
  nodup : result.Nodup
  kept : ∀ origin ∈ given, CleanOrigin origin → origin ∈ result
  ordered : ∀ a ∈ given, ∀ b ∈ given, CleanOrigin a → CleanOrigin b →
    (result.idxOf a < result.idxOf b ↔
      (given.map originOf).idxOf a < (given.map originOf).idxOf b)

/-- Before its slashes there is more than `*`, and no white space next to them or in front. -/
structure Tidy (text : Text) : Prop where
  head : ∀ c ∈ text.head?, isSpace c = false
  body : ∃ a c slashes, text = a ++ c :: slashes ∧ (∀ s ∈ slashes, isSlash s = true) ∧
    isSlash c = false ∧ isSpace c = false ∧ a ++ [c] ≠ ['*']

/-- What the settings have to be. -/
def Orderly (cfg : Config) : Prop :=
  if ∃ entry ∈ entries cfg, listed entry = true then
    ∀ entry ∈ entries cfg, listed entry = true → Tidy (strip entry)
  else ((∃ c ∈ cfg.crmBaseUrl, isSlash c = false) → Tidy cfg.crmBaseUrl) ∧
    ∀ c ∈ cfg.dnsDomain.getLast?, isSlash c = false ∧ isSpace c = false

theorem cleanOrigin_stripSlashes_iff (text : Text) :
    CleanOrigin (stripSlashes text) ↔ Tidy text := by
  constructor
  · intro h
    obtain ⟨slashes, htext, hslashes, -⟩ := rdropWhile_eq_iff.mp (Eq.refl (stripSlashes text))
    obtain ⟨hhead, hlast⟩ := trim_eq_self_iff.mp h.trimmed
    obtain ⟨a, c, ha⟩ : ∃ a c, stripSlashes text = a ++ [c] :=
      ⟨_, _, (List.dropLast_concat_getLast h.nonempty).symm⟩
    have hc : c ∈ (stripSlashes text).getLast? := by
      rw [ha, List.getLast?_concat]
      rfl
    refine ⟨fun d hd => hhead d ?_, a, c, slashes, ?_, hslashes, h.slash c hc, hlast c hc, ?_⟩
    · rw [htext, ha, List.append_assoc] at hd
      rw [ha]
      cases a <;> exact hd
    · rw [htext, ha, List.append_assoc, List.singleton_append]
    · rw [← ha]
      exact h.wildcard
  · rintro ⟨hhead, a, c, slashes, htext, hslashes, hslash, hspace, hstar⟩
    have horigin : stripSlashes text = a ++ [c] := by
      refine rdropWhile_eq_iff.mpr ⟨slashes, ?_, hslashes, ?_⟩
      · rw [htext, List.append_assoc, List.singleton_append]
      · intro d hd
        rw [List.getLast?_concat] at hd
        obtain rfl := Option.some.inj hd
        exact hslash
    have hlast : ∀ d ∈ (a ++ [c]).getLast?, c = d := by
      intro d hd
      rw [List.getLast?_concat] at hd
      exact Option.some.inj hd
    rw [horigin]
    refine ⟨by simp, hstar, fun d hd => hlast d hd ▸ hslash, ?_⟩
    refine trim_eq_self_iff.mpr ⟨fun d hd => hhead d ?_, fun d hd => hlast d hd ▸ hspace⟩
    rw [htext, ← List.singleton_append, ← List.append_assoc]
    cases a <;> exact hd

theorem CleanOrigin.originOf_eq {origin : Text} (h : CleanOrigin origin) :
    originOf origin = origin := by
  unfold originOf
  rw [h.trimmed]
  exact rdropWhile_eq_self_iff_last.mpr h.slash

theorem CleanOrigin.listed {origin : Text} (h : CleanOrigin origin) : listed origin = true := by
  unfold CorsOrigins.listed
  rw [h.trimmed, decide_eq_true h.nonempty, decide_eq_true h.wildcard]
  rfl

/-- An entry that stands for a clean origin is listed. -/
theorem listed_of_originOf {entry : Text} (h : CleanOrigin (originOf entry)) :
    listed entry = true := by
  unfold listed
  rw [Bool.and_eq_true]
  refine ⟨decide_eq_true fun hnil => h.nonempty ?_, decide_eq_true fun hstar => h.wildcard ?_⟩
  · unfold originOf
    rw [hnil]
    rfl
  · unfold originOf
    rw [hstar]
    rfl

/-- A scheme and a host name in front leave only the end to look at. -/
theorem cleanOrigin_append_iff {a b : Text} {first : Char} (hfirst : a.head? = some first)
    (hspace : isSpace first = false) (hb : b ≠ []) :
    CleanOrigin (a ++ b) ↔ ∀ c ∈ b.getLast?, isSlash c = false ∧ isSpace c = false := by
  have hlast : (a ++ b).getLast? = b.getLast? := List.getLast?_append_of_ne_nil a hb
  have hhead : ∀ c ∈ (a ++ b).head?, isSpace c = false := by
    intro c hc
    rw [List.head?_append, hfirst] at hc
    obtain rfl : first = c := Option.some.inj hc
    exact hspace
  constructor
  · intro h c hc
    rw [← hlast] at hc
    exact ⟨h.slash c hc, (trim_eq_self_iff.mp h.trimmed).2 c hc⟩
  · intro h
    rw [← hlast] at h
    refine ⟨List.append_ne_nil_of_right_ne_nil a hb, fun hstar => ?_, fun c hc => (h c hc).1,
      trim_eq_self_iff.mpr ⟨hhead, fun c hc => (h c hc).2⟩⟩
    have hlength := congrArg List.length hstar
    rw [List.length_append, List.length_singleton] at hlength
    have ha : 0 < a.length := List.length_pos_iff.mpr fun hnil => by
      rw [hnil] at hfirst
      cases hfirst
    have hb' := List.length_pos_iff.mpr hb
    omega

theorem configured_clean_iff (cfg : Config) : CleanList (entries cfg) (firsts (configured cfg)) ↔
    ∀ entry ∈ entries cfg, listed entry = true → Tidy (strip entry) := by
  have hmem : ∀ entry ∈ entries cfg, listed entry = true → originOf entry ∈ configured cfg :=
    fun entry hentry hlisted => List.mem_map_of_mem (List.mem_filter.mpr ⟨hentry, hlisted⟩)
  constructor
  · intro h entry hentry hlisted
    exact (cleanOrigin_stripSlashes_iff _).mp
      (h.clean _ (mem_firsts.mpr (hmem entry hentry hlisted)))
  · intro h
    refine ⟨fun origin horigin => ?_, firsts_nodup _, fun origin horigin hclean => ?_, ?_⟩
    · obtain ⟨entry, hentry, rfl⟩ := List.mem_map.mp (mem_firsts.mp horigin)
      obtain ⟨hgiven, hlisted⟩ := List.mem_filter.mp hentry
      exact (cleanOrigin_stripSlashes_iff _).mpr (h entry hgiven hlisted)
    · have hkept := hmem origin horigin hclean.listed
      rw [hclean.originOf_eq] at hkept
      exact mem_firsts.mpr hkept
    · intro a _ b _ ha hb
      rw [idxOf_firsts_lt_iff]
      refine idxOf_map_filter_lt_iff ?_ ?_ _
      · rintro entry rfl
        exact listed_of_originOf ha
      · rintro entry rfl
        exact listed_of_originOf hb

theorem derived_clean_iff (cfg : Config)
    (hnone : ∀ entry ∈ entries cfg, ¬ listed entry = true) :
    CleanList (entries cfg)
        (firsts ((derived cfg).filter fun origin => decide (origin ≠ []))) ↔
      ∀ origin ∈ derived cfg, origin ≠ [] → CleanOrigin origin := by
  constructor
  · intro h origin horigin hne
    exact h.clean origin (mem_firsts.mpr (List.mem_filter.mpr ⟨horigin, decide_eq_true hne⟩))
  · intro h
    refine ⟨fun origin horigin => ?_, firsts_nodup _,
      fun origin horigin hclean => absurd hclean.listed (hnone origin horigin),
      fun a ha _ _ hclean _ => absurd hclean.listed (hnone a ha)⟩
    obtain ⟨hderived, hne⟩ := List.mem_filter.mp (mem_firsts.mp horigin)
    exact h origin hderived (of_decide_eq_true hne)

theorem derived_iff (cfg : Config) :
    (∀ origin ∈ derived cfg, origin ≠ [] → CleanOrigin origin) ↔
      ((∃ c ∈ cfg.crmBaseUrl, isSlash c = false) → Tidy cfg.crmBaseUrl) ∧
        ∀ c ∈ cfg.dnsDomain.getLast?, isSlash c = false ∧ isSpace c = false := by
  unfold derived
  rw [List.forall_mem_append]
  refine and_congr ?_ ?_
  · have hempty : stripSlashes cfg.crmBaseUrl ≠ [] ↔ ∃ c ∈ cfg.crmBaseUrl, isSlash c = false := by
      unfold stripSlashes
      rw [Ne, List.rdropWhile_eq_nil_iff]
      simp
    by_cases hbase : cfg.crmBaseUrl = []
    · rw [if_pos hbase, hbase]
      simp
    · rw [if_neg hbase, List.forall_mem_singleton, cleanOrigin_stripSlashes_iff, hempty]
  · by_cases hdomain : cfg.dnsDomain = []
    · rw [if_pos hdomain, hdomain]
      simp
    · have hclean : ∀ sub ∈ ["https://crm.".toList, "https://shop.".toList, "https://ops.".toList],
          sub ++ cfg.dnsDomain ≠ [] ∧ (CleanOrigin (sub ++ cfg.dnsDomain) ↔
            ∀ c ∈ cfg.dnsDomain.getLast?, isSlash c = false ∧ isSpace c = false) := by
        intro sub hsub
        refine ⟨List.append_ne_nil_of_right_ne_nil sub hdomain, ?_⟩
        have hfirst : sub.head? = some 'h' := by
          simp only [List.mem_cons, List.not_mem_nil, or_false] at hsub
          rcases hsub with rfl | rfl | rfl <;> rfl
        exact cleanOrigin_append_iff hfirst rfl hdomain
      rw [if_neg hdomain]
      simp only [List.forall_mem_cons] at hclean ⊢
      obtain ⟨⟨hcrm, hcrmclean⟩, ⟨hshop, hshopclean⟩, ⟨hops, hopsclean⟩, -⟩ := hclean
      constructor
      · intro h
        exact hcrmclean.mp (h.1 hcrm)
      · intro h
        exact ⟨fun _ => hcrmclean.mpr h, fun _ => hshopclean.mpr h, fun _ => hopsclean.mpr h,
          List.forall_mem_nil _⟩

/-- The list is clean exactly when the settings are orderly. -/
theorem cors_clean_iff (cfg : Config) :
    CleanList (entries cfg) (corsAllowedOrigins cfg) ↔ Orderly cfg := by
  unfold corsAllowedOrigins Orderly
  by_cases hsome : ∃ entry ∈ entries cfg, listed entry = true
  · have hconfigured : configured cfg ≠ [] := by
      obtain ⟨entry, hentry, hlisted⟩ := hsome
      exact List.ne_nil_of_mem (List.mem_map_of_mem (List.mem_filter.mpr ⟨hentry, hlisted⟩))
    rw [if_pos hsome, if_pos hconfigured]
    exact configured_clean_iff cfg
  · have hnone : ∀ entry ∈ entries cfg, ¬ listed entry = true :=
      fun entry hentry hlisted => hsome ⟨entry, hentry, hlisted⟩
    have hconfigured : configured cfg = [] := by
      unfold configured
      rw [List.filter_eq_nil_iff.mpr hnone]
      rfl
    rw [if_neg hsome, if_neg (not_not_intro hconfigured), derived_clean_iff cfg hnone]
    exact derived_iff cfg

/-- An origin with a slash beside the wildcard. -/
def starSlash : Config := ⟨"https://a,*/".toList, [], []⟩

theorem star_survives : ¬ ∀ cfg : Config, CleanList (entries cfg) (corsAllowedOrigins cfg) := by
  intro hall
  have hstar : ['*'] ∈ corsAllowedOrigins starSlash := by decide +kernel
  exact ((hall starSlash).clean _ hstar).wildcard rfl

end CorsOrigins

import Mathlib.Data.List.Infix

/-!
# Trees of loggers

A record that is handed to a logger passes the filters of that logger, each of which
refuses it or hands it on, and then goes to the handlers of the logger and of its
ancestors, up to the first one that does not propagate. The filters of the ancestors
are not asked.
-/

namespace LoggerTree

universe u v w
variable {F : Type u} {H : Type v} {R : Type w}

structure Logger (F : Type u) (H : Type v) where
  filters : List F
  handlers : List H
  propagate : Bool
  disabled : Bool

/-- The root, and the loggers below it by the parts of their dotted names. -/
structure Hierarchy (F : Type u) (H : Type v) where
  root : Logger F H
  below : List String → Option (Logger F H)

namespace Hierarchy

def get (tree : Hierarchy F H) : List String → Option (Logger F H)
  | [] => some tree.root
  | part :: parts => tree.below (part :: parts)

/-- The logger of a name and its ancestors, the root last. -/
def ancestry (tree : Hierarchy F H) (name : List String) : List (List String × Logger F H) :=
  name.inits.reverse.filterMap fun above => (tree.get above).map fun logger => (above, logger)

@[simp] theorem get_root (tree : Hierarchy F H) : tree.get [] = some tree.root := rfl

theorem get_setRoot_of_ne (tree : Hierarchy F H) (root : Logger F H) {name : List String}
    (h : name ≠ []) : { tree with root := root }.get name = tree.get name := by
  cases name with
  | nil => exact absurd rfl h
  | cons part parts => rfl

end Hierarchy

section Handling
variable (run : F → R → Option R) (accepts : H → R → Bool)

def passFilters : List F → R → Option R
  | [], r => some r
  | f :: fs, r => (run f r).bind (passFilters fs)

/-- Every handler on the way up that accepts the record, with the name of its logger. -/
def callHandlers : List (List String × Logger F H) → R → List (List String × R)
  | [], _ => []
  | (name, logger) :: above, r =>
    (logger.handlers.filter fun h => accepts h r).map (fun _ => (name, r)) ++
      if logger.propagate then callHandlers above r else []

def handle (tree : Hierarchy F H) (name : List String) (r : R) : List (List String × R) :=
  match tree.get name with
  | none => []
  | some logger =>
    if logger.disabled then [] else
    match passFilters run logger.filters r with
    | none => []
    | some passed => callHandlers accepts (tree.ancestry name) passed

/-- What the handlers of the root get. -/
def reachRoot (tree : Hierarchy F H) (name : List String) (r : R) : List R :=
  ((handle run accepts tree name r).filter fun d => decide (d.1 = [])).map Prod.snd

end Handling

section Delivery
variable {run : F → R → Option R} {accepts : H → R → Bool} {tree : Hierarchy F H}
  {name : List String} {r : R}

/-- What each filter keeps of the record, the whole list keeps. -/
theorem passFilters_rule {P : R → Prop} {fs : List F} (start : P r)
    (step : ∀ f ∈ fs, ∀ a b, P a → run f a = some b → P b) {passed : R}
    (h : passFilters run fs r = some passed) : P passed := by
  induction fs generalizing r with
  | nil =>
    cases h
    exact start
  | cons f fs ih =>
    obtain ⟨next, hf, hrest⟩ := Option.bind_eq_some_iff.mp h
    exact ih (step f List.mem_cons_self r next start hf)
      (fun g hg => step g (List.mem_cons_of_mem _ hg)) hrest

/-- Handlers deliver the record as it comes. -/
theorem callHandlers_snd {chain : List (List String × Logger F H)} {d : List String × R}
    (h : d ∈ callHandlers accepts chain r) : d.2 = r := by
  induction chain with
  | nil => cases h
  | cons entry chain ih =>
    rw [callHandlers, List.mem_append] at h
    rcases h with h | h
    · obtain ⟨_, -, rfl⟩ := List.mem_map.mp h
      rfl
    · split at h
      · exact ih h
      · cases h

/-- A delivered record has passed the filters of the logger that it was handed to, and
no others. -/
theorem mem_handle {d : List String × R} (h : d ∈ handle run accepts tree name r) :
    ∃ logger, tree.get name = some logger ∧ passFilters run logger.filters r = some d.2 := by
  unfold handle at h
  split at h
  · cases h
  · next logger hget =>
    split at h
    · cases h
    · split at h
      · cases h
      · next passed hpass =>
        rw [callHandlers_snd h]
        exact ⟨logger, hget, hpass⟩

theorem mem_reachRoot {delivered : R} (h : delivered ∈ reachRoot run accepts tree name r) :
    ∃ logger, tree.get name = some logger ∧
      passFilters run logger.filters r = some delivered := by
  obtain ⟨d, hd, rfl⟩ := List.mem_map.mp h
  exact mem_handle (List.mem_filter.mp hd).1

end Delivery
end LoggerTree

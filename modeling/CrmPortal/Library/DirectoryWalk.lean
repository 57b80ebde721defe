import Mathlib.Data.List.Basic

/-!
# Walking through directories

A tree of directories holds files. A path is walked one component after another, and
each component is looked up in what has to be a directory. Writing a file changes no
directory, so that a path leads to the same place before and after.
-/

namespace DirectoryWalk

universe u v

/-- The names from the root down. -/
abbrev Place (Name : Type u) := List Name

inductive Component (Name : Type u) where
  | stay
  | up
  | down (name : Name)

structure Tree (Name : Type u) (Content : Type v) where
  isDirectory : Place Name → Bool
  file : Place Name → Option Content
  apart : ∀ place, isDirectory place = true → file place = none

variable {Name : Type u} {Content : Type v} [DecidableEq Name]

/-- The root is its own parent. -/
def move (at_ : Place Name) : Component Name → Place Name
  | .stay => at_
  | .up => at_.dropLast
  | .down name => at_ ++ [name]

def walk (isDirectory : Place Name → Bool) : Place Name → List (Component Name) →
    Option (Place Name)
  | at_, [] => some at_
  | at_, c :: rest => if isDirectory at_ then walk isDirectory (move at_ c) rest else none

namespace Tree

/-- A directory cannot be written as a file. -/
def write (tree : Tree Name Content) (place : Place Name) (content : Content) :
    Option (Tree Name Content) :=
  if h : tree.isDirectory place = true then none
  else some {
    isDirectory := tree.isDirectory
    file := fun other => if other = place then some content else tree.file other
    apart := by
      intro other hother
      have hne : other ≠ place := by
        rintro rfl
        exact h hother
      rw [if_neg hne]
      exact tree.apart other hother }

theorem write_eq_some {tree after : Tree Name Content} {place : Place Name} {content : Content}
    (h : tree.write place content = some after) :
    tree.isDirectory place = false ∧ after.isDirectory = tree.isDirectory ∧
      ∀ other, after.file other = if other = place then some content else tree.file other := by
  unfold write at h
  split at h
  · cases h
  · next hplace =>
    obtain rfl := Option.some.inj h
    exact ⟨Bool.eq_false_iff.mpr hplace, rfl, fun _ => rfl⟩

theorem write_isSome {tree : Tree Name Content} {place : Place Name} {content : Content}
    (h : tree.isDirectory place = false) : ∃ after, tree.write place content = some after := by
  unfold write
  rw [dif_neg (by rw [h]; exact Bool.false_ne_true)]
  exact ⟨_, rfl⟩

end Tree

section Walk
omit [DecidableEq Name]
variable {isDirectory : Place Name → Bool} {at_ place : Place Name}

theorem walk_append (first second : List (Component Name)) :
    walk isDirectory at_ (first ++ second) =
      (walk isDirectory at_ first).bind fun reached => walk isDirectory reached second := by
  induction first generalizing at_ with
  | nil => rfl
  | cons c rest ih =>
    rw [List.cons_append, walk, walk]
    split
    · exact ih
    · rfl

/-- The names that are walked down, from a directory to a place under it. -/
theorem walk_down {names : List Name}
    (h : ∀ front, front <+: names → front ≠ names → isDirectory (at_ ++ front) = true) :
    walk isDirectory at_ (names.map .down) = some (at_ ++ names) := by
  induction names generalizing at_ with
  | nil => simp [walk]
  | cons name rest ih =>
    have hhere : isDirectory at_ = true := by
      have h' := h [] List.nil_prefix (List.cons_ne_nil name rest).symm
      rwa [List.append_nil] at h'
    rw [List.map_cons, walk, if_pos hhere, move, ih]
    · rw [List.append_assoc]
      rfl
    · intro front hfront hne
      rw [List.append_assoc]
      refine h (name :: front) ?_ fun heq => hne (List.cons.inj heq).2
      exact List.cons_prefix_cons.mpr ⟨rfl, hfront⟩

/-- The names of a path, without what leads nowhere. -/
def names : List (Component Name) → List Name
  | [] => []
  | .down name :: rest => name :: names rest
  | .stay :: rest => names rest
  | .up :: rest => names rest

/-- A path that never goes up leads down from where it starts. -/
theorem walk_of_no_up {path : List (Component Name)} (hup : ∀ c ∈ path, c ≠ .up)
    (h : walk isDirectory at_ path = some place) : place = at_ ++ names path := by
  induction path generalizing at_ with
  | nil =>
    obtain rfl := Option.some.inj h
    exact (List.append_nil at_).symm
  | cons c rest ih =>
    obtain ⟨hc, hrest⟩ := List.forall_mem_cons.mp hup
    unfold walk at h
    split at h
    · cases c with
      | stay => exact ih hrest h
      | up => exact absurd rfl hc
      | down name =>
        have hplace := ih hrest h
        rw [hplace, move, names, List.append_assoc]
        rfl
    · cases h

end Walk

end DirectoryWalk

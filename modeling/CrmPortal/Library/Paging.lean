import Mathlib.Data.List.Perm.Basic
import Mathlib.Data.List.Sort
import Mathlib.Data.List.Nodup

/-!
# Pages of a query with ties

A query with an ordering may answer with any arrangement of its rows that respects the
ordering. When the pages come from queries of their own, each may be cut from another
arrangement. The pages have every row once exactly if no two rows tie where one page ends
and the next begins.
-/

namespace Paging

universe u
variable {α : Type u}

/-- One answer to a query for `rows` in the order `le`. -/
structure Answer (le : α → α → Prop) (rows l : List α) : Prop where
  perm : l.Perm rows
  sorted : l.Pairwise le

def page (limit offset : Nat) (l : List α) : List α := (l.drop offset).take limit

/-- The first `n` pages one after the other, the one of number `k` from the answer `k`. -/
def pages (limit : Nat) (answer : Nat → List α) (n : Nat) : List α :=
  (List.range n).flatMap fun k => page limit (limit * k) (answer k)

/-- Whatever the answers are, the pages up to the last one have the wanted rows. -/
def Complete (limit : Nat) (le : α → α → Prop) (rows wanted : List α) : Prop :=
  ∀ answer : Nat → List α, (∀ k, Answer le rows (answer k)) →
    ∀ n, rows.length ≤ limit * n → (pages limit answer n).Perm wanted

/-- The rows on the two sides of the end of a page are in order one way only. -/
def NoTieAtEnd (limit : Nat) (le : α → α → Prop) (rows : List α) : Prop :=
  ∀ before a b after, Answer le rows (before ++ a :: b :: after) →
    limit ∣ before.length + 1 → ¬ le b a

variable {le : α → α → Prop} {rows wanted l l' : List α} {limit : Nat} {answer : Nat → List α}

theorem page_append_take (n : Nat) (l : List α) :
    l.take (limit * n) ++ page limit (limit * n) l = l.take (limit * (n + 1)) := by
  rw [page, ← List.take_add, Nat.mul_succ]

theorem pages_succ (n : Nat) :
    pages limit answer (n + 1) = pages limit answer n ++ page limit (limit * n) (answer n) := by
  rw [pages, List.range_succ, List.flatMap_append, List.flatMap_singleton]
  rfl

/-- The pages of one answer give the answer back. -/
theorem pages_const (l : List α) (n : Nat) : pages limit (fun _ => l) n = l.take (limit * n) := by
  induction n with
  | zero => simp [pages]
  | succ n ih => rw [pages_succ, ih, page_append_take]

theorem pages_congr {answer' : Nat → List α} {n : Nat} (h : ∀ k < n, answer k = answer' k) :
    pages limit answer n = pages limit answer' n := by
  induction n with
  | zero => rfl
  | succ n ih =>
    rw [pages_succ, pages_succ, ih fun k hk => h k (Nat.lt_succ_of_lt hk), h n (Nat.lt_succ_self n)]

theorem exists_split {m : Nat} (hpos : 0 < m) (hm : m < l.length) :
    ∃ before a b after, l = before ++ a :: b :: after ∧ before.length + 1 = m := by
  refine ⟨l.take (m - 1), l[m - 1], l[m], l.drop (m + 1), ?_, ?_⟩
  · have hsecond := List.drop_eq_getElem_cons hm
    have hfirst := List.drop_eq_getElem_cons (i := m - 1) (l := l) (by omega)
    rw [Nat.sub_add_cancel hpos, hsecond] at hfirst
    rw [← hfirst, List.take_append_drop]
  · rw [List.length_take]
    omega

/-- A predicate that holds from some place on no longer picks a part in front. -/
theorem filter_eq_take {p : α → Bool} (h : l.Pairwise fun x y => p y = true → p x = true) :
    l.filter p = l.take (l.countP p) := by
  induction l with
  | nil => rfl
  | cons x l ih =>
    obtain ⟨hhead, htail⟩ := List.pairwise_cons.mp h
    by_cases hx : p x = true
    · rw [List.filter_cons_of_pos hx, List.countP_cons_of_pos hx, List.take_succ_cons, ih htail]
    · have hnone : ∀ y ∈ l, ¬ p y = true := fun y hy hpy => hx (hhead y hy hpy)
      rw [List.filter_cons_of_neg hx, List.countP_cons_of_neg hx,
        List.countP_eq_zero.mpr hnone, List.take_zero]
      exact List.filter_eq_nil_iff.mpr hnone

variable [Std.Total le] [IsTrans α le]

/-- Answers agree in front of a place where the rows do not tie. -/
theorem take_perm {before after : List α} {a b : α} (hl : Answer le rows l)
    (hcut : Answer le rows (before ++ a :: b :: after)) (apart : ¬ le b a) :
    (l.take (before.length + 1)).Perm ((before ++ a :: b :: after).take (before.length + 1)) := by
  classical
  have hclosed : ∀ {m : List α}, m.Pairwise le →
      m.Pairwise fun x y => decide (le y a) = true → decide (le x a) = true := by
    intro m hm
    refine hm.imp fun {x y} hxy hy => ?_
    exact decide_eq_true (trans_of le hxy (of_decide_eq_true hy))
  obtain ⟨-, hlast, hfirst⟩ := List.pairwise_append.mp hcut.sorted
  have hbelow : ∀ x ∈ before ++ [a], decide (le x a) = true := by
    intro x hx
    rcases List.mem_append.mp hx with hx | hx
    · exact decide_eq_true (hfirst x hx a List.mem_cons_self)
    · rw [List.mem_singleton.mp hx]
      exact decide_eq_true (refl_of le a)
  have habove : ∀ y ∈ b :: after, ¬ decide (le y a) = true := by
    intro y hy hya
    have hby : le b y := by
      rcases List.mem_cons.mp hy with rfl | hy
      · exact refl_of le y
      · exact (List.pairwise_cons.mp (List.pairwise_cons.mp hlast).2).1 y hy
    exact apart (trans_of le hby (of_decide_eq_true hya))
  have hfilter : (before ++ a :: b :: after).filter (fun x => decide (le x a)) = before ++ [a] := by
    rw [List.append_cons, List.filter_append, List.filter_eq_self.mpr hbelow,
      List.filter_eq_nil_iff.mpr habove, List.append_nil]
  have hboth : l.Perm (before ++ a :: b :: after) := hl.perm.trans hcut.perm.symm
  have hcount : l.countP (fun x => decide (le x a)) = before.length + 1 := by
    rw [hboth.countP_eq, List.countP_eq_length_filter, hfilter, List.length_append]
    rfl
  rw [← hcount, ← filter_eq_take (hclosed hl.sorted), hboth.countP_eq,
    ← filter_eq_take (hclosed hcut.sorted)]
  exact hboth.filter _

/-- Answers agree in front of the end of every page. -/
theorem take_page_perm {r : List α} (hl : Answer le rows l) (hr : Answer le rows r)
    (apart : NoTieAtEnd limit le rows) (k : Nat) :
    (l.take (limit * k)).Perm (r.take (limit * k)) := by
  have hboth : l.Perm r := hl.perm.trans hr.perm.symm
  rcases Nat.lt_or_ge (limit * k) r.length with hinside | hbeyond
  · rcases Nat.eq_zero_or_pos (limit * k) with hzero | hpos
    · rw [hzero, List.take_zero, List.take_zero]
    · obtain ⟨before, a, b, after, rfl, hlen⟩ := exists_split hpos hinside
      rw [← hlen]
      exact take_perm hl hr (apart before a b after hr (hlen ▸ Nat.dvd_mul_right ..))
  · rw [List.take_of_length_le hbeyond, List.take_of_length_le (hboth.length_eq ▸ hbeyond)]
    exact hboth

theorem pages_perm {r : List α} (hr : Answer le rows r) (hanswer : ∀ k, Answer le rows (answer k))
    (apart : NoTieAtEnd limit le rows) (n : Nat) :
    (pages limit answer n).Perm (r.take (limit * n)) := by
  induction n with
  | zero => simp [pages]
  | succ n ih =>
    -- The rows in front are the same, so this page adds what it adds to its own answer.
    have hfront := take_page_perm (hanswer n) hr apart n
    have hnext := take_page_perm (hanswer n) hr apart (n + 1)
    rw [← page_append_take n (answer n)] at hnext
    rw [pages_succ]
    exact ((ih.trans hfront.symm).append_right _).trans hnext

omit [Std.Total le] [IsTrans α le] in
/-- The pages of one answer up to a place, then those of another. -/
theorem pages_switch {k n : Nat} (hk : k ≤ n) (hlen : limit * k ≤ l'.length) :
    pages limit (fun j => if j < k then l else l') n =
      l.take (limit * k) ++ (l'.take (limit * n)).drop (limit * k) := by
  induction n, hk using Nat.le_induction with
  | base =>
    have hfirst : pages limit (fun j => if j < k then l else l') k = pages limit (fun _ => l) k :=
      pages_congr fun j hj => if_pos hj
    rw [hfirst, pages_const, List.drop_of_length_le (List.length_take_le ..), List.append_nil]
  | succ n hk ih =>
    have hinside : limit * k ≤ (l'.take (limit * n)).length := by
      rw [List.length_take]
      exact le_min (Nat.mul_le_mul_left limit hk) hlen
    rw [pages_succ, ih, if_neg (Nat.not_lt.mpr hk), ← page_append_take n l',
      List.drop_append_of_le_length hinside, List.append_assoc]

omit [Std.Total le] [IsTrans α le] in
/-- Two neighbours that tie may change places. -/
theorem Answer.swap {before after : List α} {a b : α}
    (h : Answer le rows (before ++ a :: b :: after)) (tie : le b a) :
    Answer le rows (before ++ b :: a :: after) := by
  have hswap : (before ++ b :: a :: after).Perm (before ++ a :: b :: after) :=
    (List.Perm.swap a b after).append_left before
  refine ⟨hswap.trans h.perm, ?_⟩
  obtain ⟨hbefore, hlast, hcross⟩ := List.pairwise_append.mp h.sorted
  obtain ⟨ha, hrest⟩ := List.pairwise_cons.mp hlast
  obtain ⟨hb, hafter⟩ := List.pairwise_cons.mp hrest
  refine List.pairwise_append.mpr ⟨hbefore, ?_, ?_⟩
  · refine List.pairwise_cons.mpr ⟨fun x hx => ?_, List.pairwise_cons.mpr ⟨fun x hx => ?_, hafter⟩⟩
    · rcases List.mem_cons.mp hx with rfl | hx
      · exact tie
      · exact hb x hx
    · exact ha x (List.mem_cons_of_mem b hx)
  · intro x hx y hy
    have hold : y ∈ a :: b :: after := (List.Perm.swap a b after).mem_iff.mp hy
    exact hcross x hx y hold

omit [Std.Total le] [IsTrans α le] in
/-- A row at the end of a page that ties with the next one can come on both pages. -/
theorem noTieAtEnd_of_complete (positive : 0 < limit) (nodup : wanted.Nodup)
    (complete : Complete limit le rows wanted) : NoTieAtEnd limit le rows := by
  rintro before a b after hanswer ⟨k, hk⟩ tie
  have hswapped := hanswer.swap tie
  have hlength : (before ++ b :: a :: after).length = rows.length := hswapped.perm.length_eq
  have hinside : limit * k ≤ (before ++ b :: a :: after).length := by
    rw [← hk, List.length_append, List.length_cons]
    omega
  have hmany : rows.length ≤ limit * (k + rows.length) :=
    (Nat.le_add_left ..).trans (Nat.le_mul_of_pos_left _ positive)
  have hpages := complete (fun j => if j < k then before ++ a :: b :: after
    else before ++ b :: a :: after) (fun j => by split <;> assumption) (k + rows.length) hmany
  rw [pages_switch (Nat.le_add_right ..) hinside, ← hk,
    List.take_of_length_le (hlength.le.trans hmany)] at hpages
  have htaken : (before ++ a :: b :: after).take (before.length + 1) = before ++ [a] := by
    rw [List.append_cons, List.take_left']
    simp
  have hdropped : (before ++ b :: a :: after).drop (before.length + 1) = a :: after := by
    rw [List.append_cons, List.drop_left']
    simp
  rw [htaken, hdropped] at hpages
  have htwice := hpages.nodup_iff.mpr nodup
  obtain ⟨-, -, hdisjoint⟩ := List.nodup_append.mp htwice
  exact hdisjoint a (by simp) a List.mem_cons_self rfl

theorem exists_answer (rows : List α) : ∃ l, Answer le rows l := by
  classical
  exact ⟨rows.insertionSort le, List.perm_insertionSort le rows,
    List.pairwise_insertionSort le rows⟩

/-- The pages have the wanted rows, each once, exactly if these are the rows of the query and
no page ends between rows that tie. -/
theorem complete_iff (positive : 0 < limit) (nodup : wanted.Nodup) :
    Complete limit le rows wanted ↔ rows.Perm wanted ∧ NoTieAtEnd limit le rows := by
  constructor
  · intro complete
    obtain ⟨l, hl⟩ : ∃ l, Answer le rows l := exists_answer rows
    have hone := complete (fun _ => l) (fun _ => hl) rows.length (Nat.le_mul_of_pos_left _ positive)
    rw [pages_const, List.take_of_length_le
      (hl.perm.length_eq.le.trans (Nat.le_mul_of_pos_left _ positive))] at hone
    exact ⟨hl.perm.symm.trans hone, noTieAtEnd_of_complete positive nodup complete⟩
  · rintro ⟨hwanted, apart⟩ answer hanswer n hn
    have hpages := pages_perm (hanswer 0) hanswer apart n
    rw [List.take_of_length_le ((hanswer 0).perm.length_eq.le.trans hn)] at hpages
    exact hpages.trans ((hanswer 0).perm.trans hwanted)

/-- No page ends inside of a group of rows that tie. -/
def WholeGroups (limit : Nat) (le : α → α → Prop) [DecidableRel le] (rows : List α) : Prop :=
  ∀ c ∈ rows, ∀ k, limit * k ≤ rows.countP (fun x => !decide (le c x)) ∨
    rows.countP (fun x => decide (le x c)) ≤ limit * k

omit [Std.Total le] [IsTrans α le] in
theorem lt_countP_iff {p : α → Bool} {before after : List α} {a : α}
    (h : (before ++ a :: after).Pairwise fun x y => p y = true → p x = true) :
    before.length < (before ++ a :: after).countP p ↔ p a = true := by
  obtain ⟨-, hlast, hcross⟩ := List.pairwise_append.mp h
  rw [List.countP_append]
  constructor
  · intro hlt
    by_contra ha
    have hafter : ∀ y ∈ a :: after, ¬ p y = true := by
      intro y hy hpy
      rcases List.mem_cons.mp hy with rfl | hy
      · exact ha hpy
      · exact ha ((List.pairwise_cons.mp hlast).1 y hy hpy)
    have hle := List.countP_le_length (p := p) (l := before)
    rw [List.countP_eq_zero.mpr hafter] at hlt
    omega
  · intro ha
    have hbefore : ∀ x ∈ before, p x = true := fun x hx => hcross x hx a List.mem_cons_self ha
    rw [List.countP_eq_length.mpr hbefore, List.countP_cons_of_pos ha]
    omega

/-- In terms of the answers and in terms of the rows. -/
theorem noTieAtEnd_iff [DecidableRel le] :
    NoTieAtEnd limit le rows ↔ WholeGroups limit le rows := by
  have hbelow : ∀ (c : α) {l : List α}, l.Pairwise le →
      l.Pairwise fun x y => decide (le y c) = true → decide (le x c) = true := fun c l hl =>
    hl.imp fun hxy hy => decide_eq_true (trans_of le hxy (of_decide_eq_true hy))
  have hstrict : ∀ (c : α) {l : List α}, l.Pairwise le →
      l.Pairwise fun x y => (!decide (le c y)) = true → (!decide (le c x)) = true := by
    intro c l hl
    refine hl.imp fun {x y} hxy hy => ?_
    simp only [Bool.not_eq_true', decide_eq_false_iff_not] at hy ⊢
    exact fun hcx => hy (trans_of le hcx hxy)
  constructor
  · intro apart c _ k
    by_contra hinside
    obtain ⟨hlow, hhigh⟩ := not_or.mp hinside
    obtain ⟨l, hl⟩ : ∃ l, Answer le rows l := exists_answer rows
    rw [← hl.perm.countP_eq] at hlow hhigh
    obtain ⟨before, a, b, after, rfl, hlen⟩ := exists_split (l := l) (m := limit * k) (by omega)
      ((Nat.lt_of_not_le hhigh).trans_le List.countP_le_length)
    have ha : le c a := by
      by_contra ha
      have hcount := (lt_countP_iff (hstrict c hl.sorted)).mpr (by simpa using ha)
      omega
    have hb : le b c := by
      have hsorted := hbelow c hl.sorted
      rw [List.append_cons] at hsorted hhigh
      refine of_decide_eq_true ((lt_countP_iff hsorted).mp ?_)
      rw [List.length_append, List.length_singleton]
      omega
    exact apart before a b after hl (hlen ▸ Nat.dvd_mul_right ..) (trans_of le hb ha)
  · rintro groups before a b after hanswer ⟨k, hk⟩ tie
    have hmem : a ∈ rows := hanswer.perm.mem_iff.mp (by simp)
    have hlow :
        ¬ before.length < (before ++ a :: b :: after).countP (fun x => !decide (le a x)) := by
      rw [lt_countP_iff (hstrict a hanswer.sorted)]
      simpa using refl_of le a
    have hhigh : before.length + 1 <
        (before ++ a :: b :: after).countP (fun x => decide (le x a)) := by
      have hsorted := hbelow a hanswer.sorted
      rw [List.append_cons] at hsorted ⊢
      have hcount := (lt_countP_iff hsorted).mpr (decide_eq_true tie)
      rwa [List.length_append, List.length_singleton] at hcount
    rw [hanswer.perm.countP_eq] at hlow hhigh
    rcases groups a hmem k with hle | hle <;> omega

end Paging

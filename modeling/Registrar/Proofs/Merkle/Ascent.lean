import Mathlib.Tactic.Tauto
import Registrar.Proofs.Merkle.Preimage
import Registrar.Merkle.Position

/-!
# The way up from many places

`ascend` takes a queue of places to the root. The queue is always a front: its places descend, and all of
them come after the parent of the first one, so that none is above another and the root is left alone
at the end. From this follows which siblings are asked for, and that a verifier who is given them
forms the same pairs.

## Contents

- `Above` and `Covered`, the places on the ways from a queue to the root;
- `Front`, with `Front.pair` and `Front.single`: what one step of the way keeps;
- `length_ascend`, `mem_given_ascend` and `pairwise_given_ascend`: the siblings that are asked for;
- `foldFlags_ascend`: the flags and the siblings lead a verifier to the root.
-/

namespace Registrar.Merkle

/-- The order of the two nodes does not matter. -/
theorem pair_comm (a b : Hash) : pair a b = pair b a := by
  unfold pair
  by_cases hab : a ≤ b <;> by_cases hba : b ≤ a
  · have heq : a = b := Octets.ext (List.le_antisymm hab hba)
    rw [heq]
  · rw [if_pos hab, if_neg hba]
  · rw [if_neg hab, if_pos hba]
  · exact absurd ((List.le_total a.toList b.toList).resolve_left hab) hba

namespace Position

/-! ## Siblings -/

/-- A place beside its sibling: of the two the left one is odd. -/
theorem sibling_cases (i : Nat) :
    (i % 2 = 1 ∧ sibling i = i + 1) ∨ (i % 2 = 0 ∧ sibling i = i - 1) := by
  unfold sibling
  split <;> omega

theorem sibling_ne_zero {i : Nat} (hi : i ≠ 0) : sibling i ≠ 0 := by
  have hpos := Nat.pos_of_ne_zero hi
  have hsibling := sibling_cases i
  omega

theorem sibling_sibling {i : Nat} (hi : i ≠ 0) : sibling (sibling i) = i := by
  have hpos := Nat.pos_of_ne_zero hi
  have hsibling := sibling_cases i
  have hback := sibling_cases (sibling i)
  omega

theorem parent_sibling {i : Nat} (hi : i ≠ 0) : parent (sibling i) = parent i := by
  have hpos := Nat.pos_of_ne_zero hi
  have hsibling := sibling_cases i
  unfold parent
  omega

/-! ## Ways to the root -/

/-- A place is another one or lies on its way to the root. -/
inductive Above : Nat → Nat → Prop where
  | refl (i : Nat) : Above i i
  | parent {i j : Nat} (hj : j ≠ 0) (h : Above i (parent j)) : Above i j

/-- A place is in a queue or lies on the way of a place in it. -/
def Covered (queue : List Nat) (i : Nat) : Prop := ∃ j ∈ queue, Above i j

variable {queue : List Nat} {i j : Nat}

theorem Above.le (h : Above i j) : i ≤ j := by
  induction h with
  | refl => exact Nat.le_refl _
  | parent hj _ ih => exact Nat.le_of_lt (Nat.lt_of_le_of_lt ih (parent_lt hj))

theorem above_iff (hj : j ≠ 0) : Above i j ↔ i = j ∨ Above i (parent j) := by
  constructor
  · intro h
    cases h with
    | refl => exact .inl rfl
    | parent _ h => exact .inr h
  · rintro (rfl | h)
    · exact .refl _
    · exact .parent hj h

theorem covered_append {p q : List Nat} : Covered (p ++ q) i ↔ Covered p i ∨ Covered q i := by
  unfold Covered
  simp only [List.mem_append, or_and_right, exists_or]

theorem covered_singleton : Covered [j] i ↔ Above i j := by
  simp [Covered]

/-- What the place that leaves a queue covers is itself and what its parent covers. -/
theorem covered_cons (hj : j ≠ 0) :
    Covered (j :: queue) i ↔ i = j ∨ Covered (queue ++ [parent j]) i := by
  rw [← List.singleton_append, covered_append, covered_append, covered_singleton, covered_singleton,
    above_iff hj]
  tauto

/-- What a pair that leaves a queue covers is itself and what its parent covers. -/
theorem covered_pair (hi : i ≠ 0) {x : Nat} :
    Covered (i :: sibling i :: queue) x ↔
      x = i ∨ x = sibling i ∨ Covered (queue ++ [parent i]) x := by
  rw [covered_cons hi, List.cons_append, covered_cons (sibling_ne_zero hi), parent_sibling hi,
    covered_append (p := queue ++ [parent i]), covered_append]
  tauto

theorem Covered.exists_le (h : Covered queue i) : ∃ j ∈ queue, i ≤ j := by
  obtain ⟨j, hj, habove⟩ := h
  exact ⟨j, hj, habove.le⟩

/-! ## Fronts -/

/-- Descending places, at least one, that all come after the parent of the first one. -/
structure Front (queue : List Nat) : Prop where
  ne_nil : queue ≠ []
  descending : queue.Pairwise (· > ·)
  parent_lt : ∀ i ∈ queue.head?, i ≠ 0 → ∀ j ∈ queue, parent i < j

/-- Places in the last row of a tree, and some of those of the row before it, are a front. -/
theorem Front.of_row {inner : Nat} (hne : queue ≠ []) (hdescending : queue.Pairwise (· > ·))
    (hge : ∀ i ∈ queue, inner ≤ i) (hle : ∀ i ∈ queue, i ≤ 2 * inner) : Front queue where
  ne_nil := hne
  descending := hdescending
  parent_lt := by
    intro i hi hpos j hj
    have hi' := hle i (List.mem_of_mem_head? hi)
    have hj' := hge j hj
    unfold parent
    omega

/-- The root is in a front by itself only. -/
theorem Front.eq_nil_of_zero (h : Front (0 :: queue)) : queue = [] := by
  cases queue with
  | nil => rfl
  | cons j queue =>
    have hlt := (List.pairwise_cons.mp h.descending).1 j List.mem_cons_self
    exact absurd hlt (Nat.not_lt_zero j)

/-- What is left of a front goes on with the parent of the first place, if that parent comes after the
    one of the place that is first then. -/
theorem Front.concat (hdescending : queue.Pairwise (· > ·))
    (hafter : ∀ j ∈ queue, parent i < j)
    (hhead : ∀ j ∈ queue.head?, j < i ∧ j ≠ sibling i) : Front (queue ++ [parent i]) where
  ne_nil := List.append_ne_nil_of_right_ne_nil _ (List.cons_ne_nil _ _)
  descending := by
    refine List.pairwise_append.mpr ⟨hdescending, List.pairwise_singleton .., ?_⟩
    intro j hj k hk
    rw [List.mem_singleton.mp hk]
    exact hafter j hj
  parent_lt := by
    intro j hj hpos k hk
    have hless : parent j < parent i := by
      -- The place that is first now comes before `i` and is not beside it, so its parent comes before
      -- that of `i`.
      cases queue with
      | nil =>
        cases hj
        exact Position.parent_lt hpos
      | cons first rest =>
        cases hj
        obtain ⟨hlt, hne⟩ := hhead j rfl
        have hafter' := hafter j List.mem_cons_self
        have hsibling := sibling_cases i
        unfold parent at hafter' ⊢
        omega
    rcases List.mem_append.mp hk with hk | hk
    · exact Nat.lt_trans hless (hafter k hk)
    · rw [List.mem_singleton.mp hk]
      exact hless

/-- **A front stays a front when its first place leaves for its parent alone.** -/
theorem Front.single (h : Front (i :: queue)) (hi : i ≠ 0) (hhead : queue.head? ≠ some (sibling i)) :
    Front (queue ++ [parent i]) := by
  obtain ⟨hlt, hdescending⟩ := List.pairwise_cons.mp h.descending
  refine .concat hdescending ?_ ?_
  · exact fun j hj => h.parent_lt i rfl hi j (List.mem_cons_of_mem _ hj)
  · intro j hj
    refine ⟨hlt j (List.mem_of_mem_head? hj), ?_⟩
    rintro rfl
    exact hhead hj

/-- **A front stays a front when its first two places leave for their parent.** -/
theorem Front.pair (h : Front (i :: sibling i :: queue)) (hi : i ≠ 0) :
    Front (queue ++ [parent i]) := by
  obtain ⟨hlt, hrest⟩ := List.pairwise_cons.mp h.descending
  obtain ⟨hlt', hdescending⟩ := List.pairwise_cons.mp hrest
  refine .concat hdescending ?_ ?_
  · exact fun j hj =>
      h.parent_lt i rfl hi j (List.mem_cons_of_mem _ (List.mem_cons_of_mem _ hj))
  · intro j hj
    have hj' := hlt' j (List.mem_of_mem_head? hj)
    have hi' := hlt (sibling i) List.mem_cons_self
    exact ⟨Nat.lt_trans hj' hi', Nat.ne_of_lt hj'⟩

/-! ## Steps of the way -/

theorem ascend_zero : ascend (0 :: queue) = [] := by
  rw [ascend, if_pos rfl]

theorem ascend_pair (hi : i ≠ 0) :
    ascend (i :: sibling i :: queue) = (true, sibling i) :: ascend (queue ++ [parent i]) := by
  rw [ascend, if_neg hi, if_pos (List.head?_cons ..), List.tail_cons]

theorem ascend_single (hi : i ≠ 0) (hhead : queue.head? ≠ some (sibling i)) :
    ascend (i :: queue) = (false, sibling i) :: ascend (queue ++ [parent i]) := by
  rw [ascend, if_neg hi, if_neg hhead]

/-- **Induction along the way of a front**: the root alone, a pair that leaves, and a single place that
    leaves. -/
theorem Front.induction {motive : (queue : List Nat) → Front queue → Prop}
    (root : ∀ h, motive [0] h)
    (pair : ∀ i queue (hi : i ≠ 0) (h : Front (i :: sibling i :: queue)),
      motive (queue ++ [parent i]) (h.pair hi) → motive (i :: sibling i :: queue) h)
    (single : ∀ i queue (hi : i ≠ 0) (h : Front (i :: queue))
      (hhead : queue.head? ≠ some (sibling i)),
      motive (queue ++ [parent i]) (h.single hi hhead) → motive (i :: queue) h)
    (h : Front queue) : motive queue h := by
  fun_induction ascend queue with
  | case1 => exact absurd rfl h.ne_nil
  | case2 queue =>
    cases h.eq_nil_of_zero
    exact root h
  | case3 i queue hi hhead ih =>
    obtain ⟨rest, rfl⟩ := List.head?_eq_some_iff.mp hhead
    exact pair i rest hi h (ih (h.pair hi))
  | case4 i queue hi hhead ih => exact single i queue hi h hhead (ih (h.single hi hhead))

/-! ## What is asked for -/

theorem given_cons_true (walk : List (Bool × Nat)) : given ((true, i) :: walk) = given walk := rfl

theorem given_cons_false (walk : List (Bool × Nat)) :
    given ((false, i) :: walk) = i :: given walk := rfl

/-- There is one pair for each place of the queue but the last and each sibling that is asked for. -/
theorem length_ascend (h : Front queue) :
    (ascend queue).length + 1 = queue.length + (given (ascend queue)).length := by
  induction h using Front.induction with
  | root h =>
    rw [ascend_zero]
    rfl
  | pair i queue hi h ih =>
    rw [List.length_append, List.length_singleton] at ih
    rw [ascend_pair hi, given_cons_true, List.length_cons, List.length_cons, List.length_cons]
    omega
  | single i queue hi h hhead ih =>
    rw [List.length_append, List.length_singleton] at ih
    rw [ascend_single hi hhead, given_cons_false, List.length_cons, List.length_cons,
      List.length_cons]
    omega

/-- A front does not cover the sibling of its first place, unless that is its second one. -/
theorem Front.not_covered_sibling (h : Front (i :: queue)) (hi : i ≠ 0)
    (hhead : queue.head? ≠ some (sibling i)) : ¬ Covered (queue ++ [parent i]) (sibling i) := by
  intro hcovered
  obtain ⟨j, hj, hle⟩ := hcovered.exists_le
  obtain ⟨hlt, hdescending⟩ := List.pairwise_cons.mp h.descending
  have hsibling := sibling_cases i
  rcases List.mem_append.mp hj with hj | hj
  · -- A place of the queue that far up is the sibling itself, and then the first one.
    have hj' := hlt j hj
    have heq : j = sibling i := by omega
    subst heq
    cases queue with
    | nil => exact List.not_mem_nil hj
    | cons first rest =>
      have hfirst := hlt first List.mem_cons_self
      rcases List.mem_cons.mp hj with hj | hj
      · exact hhead (by rw [List.head?_cons, hj])
      · have hrest := (List.pairwise_cons.mp hdescending).1 _ hj
        omega
  · rw [List.mem_singleton.mp hj] at hle
    unfold parent at hle
    omega

/-- What a front covers after a pair has left comes before that pair. -/
theorem Front.lt_of_covered_pair (h : Front (i :: sibling i :: queue)) (hi : i ≠ 0) {x : Nat}
    (hx : Covered (queue ++ [parent i]) x) : x < i ∧ x < sibling i := by
  obtain ⟨j, hj, hle⟩ := hx.exists_le
  obtain ⟨hlt, hrest⟩ := List.pairwise_cons.mp h.descending
  have hsibling := hlt (sibling i) List.mem_cons_self
  rcases List.mem_append.mp hj with hj | hj
  · have hj' := (List.pairwise_cons.mp hrest).1 j hj
    omega
  · have hparent := h.parent_lt i rfl hi (sibling i) (List.mem_cons_of_mem _ List.mem_cons_self)
    rw [List.mem_singleton.mp hj] at hle
    omega

/-- **The siblings that are asked for** are those of covered places that are not covered themselves. -/
theorem mem_given_ascend (h : Front queue) (g : Nat) :
    g ∈ given (ascend queue) ↔ Covered queue (sibling g) ∧ ¬ Covered queue g := by
  have hsibling := sibling_cases g
  induction h using Front.induction with
  | root h =>
    rw [ascend_zero]
    constructor
    · intro hg
      exact absurd hg List.not_mem_nil
    · rintro ⟨hcovered, hg⟩
      -- Only the root would have the root as its sibling.
      obtain ⟨j, hj, hle⟩ := hcovered.exists_le
      have hroot : g = 0 := by
        rw [List.mem_singleton.mp hj] at hle
        omega
      subst hroot
      exact absurd ⟨0, List.mem_cons_self, .refl 0⟩ hg
  | pair i queue hi h ih =>
    have hsibling' := sibling_cases i
    have hrest : g ∈ given (ascend (queue ++ [parent i])) ↔
        Covered (queue ++ [parent i]) (sibling g) ∧ ¬ Covered (queue ++ [parent i]) g := ih
    rw [ascend_pair hi, given_cons_true, hrest, covered_pair hi, covered_pair hi]
    -- The two of the pair are each other's siblings and covered both, so neither is asked for.
    constructor
    · rintro ⟨hcovered, hg⟩
      have hlt := h.lt_of_covered_pair hi hcovered
      refine ⟨.inr (.inr hcovered), ?_⟩
      rintro (rfl | rfl | hg')
      · omega
      · omega
      · exact hg hg'
    · rintro ⟨hcovered, hg⟩
      refine ⟨?_, fun hg' => hg (.inr (.inr hg'))⟩
      rcases hcovered with hi' | hi' | hcovered
      · exact absurd (.inr (.inl (by omega))) hg
      · exact absurd (.inl (by omega)) hg
      · exact hcovered
  | single i queue hi h hhead ih =>
    have hsibling' := sibling_cases i
    have hnot := h.not_covered_sibling hi hhead
    have hrest : g ∈ given (ascend (queue ++ [parent i])) ↔
        Covered (queue ++ [parent i]) (sibling g) ∧ ¬ Covered (queue ++ [parent i]) g := ih
    rw [ascend_single hi hhead, given_cons_false, List.mem_cons, hrest, covered_cons hi,
      covered_cons hi]
    -- The place that leaves has its sibling asked for now, and nothing later covers that.
    constructor
    · rintro (rfl | ⟨hcovered, hg⟩)
      · refine ⟨.inl (sibling_sibling hi), ?_⟩
        rintro (hi' | hg)
        · omega
        · exact hnot hg
      · refine ⟨.inr hcovered, ?_⟩
        rintro (rfl | hg')
        · exact hnot hcovered
        · exact hg hg'
    · rintro ⟨hcovered, hg⟩
      rcases hcovered with hi' | hcovered
      · exact .inl (by omega)
      · exact .inr ⟨hcovered, fun hg' => hg (.inr hg')⟩

/-- **The siblings are asked for in descending order.** -/
theorem pairwise_given_ascend (h : Front queue) : (given (ascend queue)).Pairwise (· > ·) := by
  induction h using Front.induction with
  | root h =>
    rw [ascend_zero]
    exact .nil
  | pair i queue hi h ih =>
    rw [ascend_pair hi, given_cons_true]
    exact ih
  | single i queue hi h hhead ih =>
    rw [ascend_single hi hhead, given_cons_false]
    refine List.pairwise_cons.mpr ⟨fun g hg => ?_, ih⟩
    -- A later sibling is beside a place that comes before `i`, and is not beside `i` itself.
    obtain ⟨hcovered, hg'⟩ := (mem_given_ascend (h.single hi hhead) g).mp hg
    obtain ⟨j, hj, hle⟩ := hcovered.exists_le
    have hlt : j < i := by
      rcases List.mem_append.mp hj with hj | hj
      · exact (List.pairwise_cons.mp h.descending).1 j hj
      · rw [List.mem_singleton.mp hj]
        exact Position.parent_lt hi
    have hne : j ≠ sibling i := by
      rintro rfl
      exact h.not_covered_sibling hi hhead ⟨_, hj, .refl _⟩
    have hsibling := sibling_cases i
    have hsibling' := sibling_cases g
    omega

/-! ## The same way with hashes -/

theorem count_false_flags (walk : List (Bool × Nat)) :
    (flags walk).count false = (given walk).length := by
  induction walk with
  | nil => rfl
  | cons step walk ih =>
    obtain ⟨flag, i⟩ := step
    cases flag with
    | true =>
      rw [given_cons_true, ← ih]
      show (true :: flags walk).count false = (flags walk).count false
      exact List.count_cons_of_ne (by decide)
    | false =>
      rw [given_cons_false, List.length_cons, ← ih]
      show (false :: flags walk).count false = (flags walk).count false + 1
      exact List.count_cons_self

section Hashes

variable {inner : Nat} {node : Nat → Hash}

/-- A node and its sibling make their parent, in either order. -/
theorem pair_node_sibling (hpair : ∀ i < inner, node i = pair (node (2 * i + 1)) (node (2 * i + 2)))
    (hi : i ≠ 0) (hle : i ≤ 2 * inner) : pair (node i) (node (sibling i)) = node (parent i) := by
  have hparent : parent i < inner := by
    unfold parent
    omega
  rw [hpair (parent i) hparent]
  rcases sibling_cases i with ⟨hodd, hsibling⟩ | ⟨heven, hsibling⟩
  · have hleft : 2 * parent i + 1 = i := by unfold parent; omega
    have hright : 2 * parent i + 2 = sibling i := by unfold parent; omega
    rw [hleft, hright]
  · have hleft : 2 * parent i + 1 = sibling i := by unfold parent; omega
    have hright : 2 * parent i + 2 = i := by unfold parent; omega
    rw [hleft, hright, pair_comm]

/-- A bound on the places of a queue holds on the way up. -/
theorem le_of_mem_concat {bound : Nat} (hi : i ≠ 0) (hfirst : i ≤ bound)
    (hle : ∀ j ∈ queue, j ≤ bound) : ∀ j ∈ queue ++ [parent i], j ≤ bound := by
  intro j hj
  rcases List.mem_append.mp hj with hj | hj
  · exact hle j hj
  · rw [List.mem_singleton.mp hj]
    exact Nat.le_trans (Nat.le_of_lt (parent_lt hi)) hfirst

/-- **Flags and siblings lead from the hashes of a front to the root**: the queue of hashes is that of
    the places, step by step. -/
theorem foldFlags_ascend (hpair : ∀ i < inner, node i = pair (node (2 * i + 1)) (node (2 * i + 2)))
    (h : Front queue) (hle : ∀ i ∈ queue, i ≤ 2 * inner) :
    foldFlags (flags (ascend queue)) (queue.map node) ((given (ascend queue)).map node)
      = .ok (node 0) := by
  induction h using Front.induction with
  | root h =>
    rw [ascend_zero]
    rfl
  | pair i queue hi h ih =>
    have hfirst := hle i List.mem_cons_self
    have hqueue := le_of_mem_concat hi hfirst fun j hj =>
      hle j (List.mem_cons_of_mem _ (List.mem_cons_of_mem _ hj))
    rw [ascend_pair hi, given_cons_true, ← ih hqueue, List.map_append, List.map_singleton,
      ← pair_node_sibling hpair hi hfirst]
    rfl
  | single i queue hi h hhead ih =>
    have hfirst := hle i List.mem_cons_self
    have hqueue := le_of_mem_concat hi hfirst fun j hj => hle j (List.mem_cons_of_mem _ hj)
    rw [ascend_single hi hhead, given_cons_false, ← ih hqueue, List.map_append, List.map_singleton,
      ← pair_node_sibling hpair hi hfirst]
    rfl

end Hashes

end Position

end Registrar.Merkle

import Mathlib.Data.List.Chain
import Registrar.Text.Normal

/-!
# The order of marks

A normal form puts the marks after a letter in the order of their classes. This is done mark by mark: a
mark goes in front of those of greater class at the end of what was collected, and stops at a mark of
lower or equal class and at anything that is no mark. So marks move across the point at which two texts
are joined just if the last point of one and the first point of the other, each in its own order, are out
of order.

## Contents

- `exists_insertMark` and `insertMark_of_split`: where a mark goes;
- `collect`, the points of a text in order, the last one first, with `isChain_collect` and
  `map_starter?_collect`;
- `Joins`, with `foldl_append_of_joins` and `eq_collect_of_foldl_append`: when the order of a text goes on
  with the order of the next one;
- `eq_of_filter_append`: points that are left out do not hide an order;
- `Settled`: the order of marks stays as it is where two texts are joined.
-/

namespace Registrar.Text

/-! ## Where a mark goes -/

section Insertion

variable {n : Nat} {front back l : List Nat}

/-- **A mark goes in front of the marks of greater class**, in a reversed text. -/
theorem exists_insertMark (n : Nat) (l : List Nat) :
    ∃ front back, l = front ++ back ∧ insertMark n l = front ++ n :: back ∧
      (∀ m ∈ front, combiningClass n < combiningClass m) ∧
      ∀ m ∈ back.head?, combiningClass m ≤ combiningClass n := by
  induction l with
  | nil => exact ⟨[], [], rfl, rfl, by simp, by simp⟩
  | cons m l ih =>
    rw [insertMark]
    by_cases hlt : combiningClass n < combiningClass m
    · obtain ⟨front, back, rfl, hinsert, hfront, hback⟩ := ih
      rw [if_pos hlt, hinsert]
      exact ⟨m :: front, back, rfl, rfl, List.forall_mem_cons.mpr ⟨hlt, hfront⟩, hback⟩
    · rw [if_neg hlt]
      refine ⟨[], m :: l, rfl, rfl, by simp, ?_⟩
      intro k hk
      cases hk
      exact Nat.not_lt.mp hlt

/-- There is only one such place. -/
theorem insertMark_of_split (hfront : ∀ m ∈ front, combiningClass n < combiningClass m)
    (hback : ∀ m ∈ back.head?, combiningClass m ≤ combiningClass n) :
    insertMark n (front ++ back) = front ++ n :: back := by
  induction front with
  | nil =>
    cases back with
    | nil => rfl
    | cons m back =>
      have hle : ¬ combiningClass n < combiningClass m := Nat.not_lt.mpr (hback m rfl)
      rw [List.nil_append, insertMark, if_neg hle, List.nil_append]
  | cons m front ih =>
    obtain ⟨hm, hfront⟩ := List.forall_mem_cons.mp hfront
    rw [List.cons_append, insertMark, if_pos hm, ih hfront, List.cons_append]

theorem append_of_starter (h : combiningClass n = 0) (l : List Nat) : append l n = n :: l := by
  rw [append, if_pos h]

theorem append_of_mark (h : combiningClass n ≠ 0) (l : List Nat) : append l n = insertMark n l := by
  rw [append, if_neg h]

/-- Nothing is lost, and nothing comes in. -/
theorem append_perm (l : List Nat) (n : Nat) : (append l n).Perm (n :: l) := by
  by_cases hn : combiningClass n = 0
  · rw [append_of_starter hn]
  · obtain ⟨front, back, rfl, hinsert, -⟩ := exists_insertMark n l
    rw [append_of_mark hn, hinsert]
    exact List.perm_middle

theorem foldl_append_perm (ns l : List Nat) : (ns.foldl append l).Perm (ns ++ l) := by
  induction ns generalizing l with
  | nil => rfl
  | cons n ns ih =>
    rw [List.foldl_cons]
    exact (ih (append l n)).trans ((append_perm l n).append_left ns |>.trans List.perm_middle)

end Insertion

/-! ## Points in order -/

/-- The points of a text in order, the last one first. -/
def collect (ns : List Nat) : List Nat := ns.foldl append []

/-- The second point may follow the first one. -/
def InOrder (m n : Nat) : Prop := combiningClass n = 0 ∨ combiningClass m ≤ combiningClass n

theorem collect_concat (ns : List Nat) (n : Nat) : collect (ns ++ [n]) = append (collect ns) n :=
  List.foldl_concat ..

theorem collect_append (ns ms : List Nat) : collect (ns ++ ms) = ms.foldl append (collect ns) :=
  List.foldl_append ..

/-- A point that is put in follows what comes before it. -/
theorem isChain_append {l : List Nat} (h : l.IsChain fun n m => InOrder m n) (n : Nat) :
    (append l n).IsChain fun n m => InOrder m n := by
  by_cases hn : combiningClass n = 0
  · rw [append_of_starter hn]
    refine List.isChain_cons.mpr ⟨?_, h⟩
    intro m _
    exact .inl hn
  · obtain ⟨front, back, rfl, hinsert, hfront, hback⟩ := exists_insertMark n l
    rw [append_of_mark hn, hinsert]
    obtain ⟨hchain, hchain', -⟩ := List.isChain_append.mp h
    refine List.isChain_append.mpr ⟨hchain, List.isChain_cons.mpr ⟨?_, hchain'⟩, ?_⟩
    · intro m hm
      exact .inr (hback m hm)
    · intro m hm k hk
      cases hk
      exact .inr (Nat.le_of_lt (hfront m (List.mem_of_getLast? hm)))

/-- **Collected points are in order.** -/
theorem isChain_collect (ns : List Nat) : (collect ns).IsChain fun n m => InOrder m n := by
  induction ns using List.reverseRecOn with
  | nil => exact .nil
  | append_singleton ns n ih =>
    rw [collect_concat]
    exact isChain_append ih n

/-- A point that is no mark. -/
def starter? (n : Nat) : Option Nat := if combiningClass n = 0 then some n else none

theorem starter?_of_mark {n : Nat} (h : combiningClass n ≠ 0) : starter? n = none := if_neg h

theorem eq_of_starter? {m n : Nat} (hm : combiningClass m = 0) (h : starter? n = starter? m) :
    n = m := by
  unfold starter? at h
  rw [if_pos hm] at h
  split at h
  · exact Option.some.inj h
  · cases h

/-- **Points that are no marks stay where they are.** -/
theorem map_starter?_append (l : List Nat) (n : Nat) :
    (append l n).map starter? = starter? n :: l.map starter? := by
  by_cases hn : combiningClass n = 0
  · rw [append_of_starter hn, List.map_cons]
  · obtain ⟨front, back, rfl, hinsert, hfront, -⟩ := exists_insertMark n l
    -- The mark went past marks only, so that the places of the others are the same.
    have hmarks : front.map starter? = List.replicate front.length none := by
      refine List.map_eq_replicate_iff.mpr ?_
      intro m hm
      have hlt := hfront m hm
      exact starter?_of_mark (by omega)
    rw [append_of_mark hn, hinsert, starter?_of_mark hn, List.map_append, List.map_append,
      List.map_cons, hmarks, starter?_of_mark hn, ← List.cons_append, ← List.replicate_succ,
      List.replicate_succ', List.append_assoc, List.singleton_append]

theorem map_starter?_collect (ns : List Nat) :
    (collect ns).map starter? = (ns.map starter?).reverse := by
  induction ns using List.reverseRecOn with
  | nil => rfl
  | append_singleton ns n ih =>
    rw [collect_concat, map_starter?_append, ih, List.map_append, List.reverse_append]
    rfl

/-! ## Where two texts are joined -/

/-- The first point of a later text may follow the last point of an earlier one, both reversed. -/
def Joins (later earlier : List Nat) : Prop :=
  ∀ m ∈ earlier.head?, ∀ n ∈ later.getLast?, InOrder m n

section Joining

variable {later earlier l : List Nat} {n : Nat}

/-- If the next point stays in the later text, so did those before it. -/
theorem Joins.of_append (h : Joins (append later n) earlier) :
    Joins later earlier ∧ append (later ++ earlier) n = append later n ++ earlier := by
  by_cases hn : combiningClass n = 0
  · rw [append_of_starter hn] at h
    refine ⟨?_, by rw [append_of_starter hn, append_of_starter hn, List.cons_append]⟩
    intro m hm k hk
    refine h m hm k ?_
    cases later with
    | nil => cases hk
    | cons j later => exact hk
  · obtain ⟨front, back, rfl, hinsert, hfront, hback⟩ := exists_insertMark n later
    rw [append_of_mark hn, hinsert] at h
    rw [append_of_mark hn, append_of_mark hn, hinsert, List.append_assoc, List.append_assoc]
    -- Either there is a point at which the mark stops, or it is the first one of the later text.
    cases back with
    | nil =>
      have hhead : ∀ m ∈ earlier.head?, combiningClass m ≤ combiningClass n := by
        intro m hm
        exact (h m hm n (by simp)).resolve_left hn
      refine ⟨?_, insertMark_of_split hfront hhead⟩
      intro m hm k hk
      have hlt := hfront k (by simpa using List.mem_of_getLast? hk)
      exact .inr ((hhead m hm).trans hlt.le)
    | cons j back =>
      refine ⟨?_, insertMark_of_split hfront hback⟩
      intro m hm k hk
      refine h m hm k ?_
      rw [List.getLast?_append] at hk ⊢
      exact hk

/-- **A text goes on with the order of the next one** if they may be joined. -/
theorem foldl_append_of_joins {ns : List Nat} (h : Joins (collect ns) earlier) :
    ns.foldl append earlier = collect ns ++ earlier := by
  induction ns using List.reverseRecOn with
  | nil => rfl
  | append_singleton ns n ih =>
    rw [collect_concat] at h ⊢
    obtain ⟨hjoins, happend⟩ := h.of_append
    rw [List.foldl_concat, ih hjoins, happend]

/-- What ends with the earlier text did so before a point was put in front of it. -/
theorem exists_of_append_eq (h : append l n = later ++ earlier) (hn : n ∈ later) :
    ∃ before, l = before ++ earlier ∧ later = append before n := by
  by_cases hclass : combiningClass n = 0
  · rw [append_of_starter hclass] at h
    cases later with
    | nil => cases hn
    | cons k later =>
      cases h
      exact ⟨later, rfl, (append_of_starter hclass later).symm⟩
  · obtain ⟨front, back, rfl, hinsert, hfront, hback⟩ := exists_insertMark n l
    rw [append_of_mark hclass, hinsert] at h
    rcases List.append_eq_append_iff.mp h with ⟨rest, rfl, hrest⟩ | ⟨rest, rfl, -⟩
    · cases rest with
      | nil =>
        rw [List.append_nil] at hn
        exact absurd (hfront n hn) (Nat.lt_irrefl _)
      | cons k rest =>
        rw [List.cons_append] at hrest
        cases hrest
        refine ⟨front ++ rest, (List.append_assoc ..).symm, ?_⟩
        rw [append_of_mark hclass, insertMark_of_split hfront]
        intro m hm
        refine hback m ?_
        cases rest with
        | nil => cases hm
        | cons j rest => exact hm
    · -- The mark would be among those of greater class.
      exact absurd (hfront n (List.mem_append_left _ hn)) (Nat.lt_irrefl _)

/-- **There is no other way to go on.** -/
theorem eq_collect_of_foldl_append {ns : List Nat} (h : ns.foldl append earlier = later ++ earlier) :
    later = collect ns := by
  induction ns using List.reverseRecOn generalizing later with
  | nil => exact List.append_left_eq_self.mp h.symm
  | append_singleton ns n ih =>
    -- The later text has all points that came in, the last one of them too, which can be taken back.
    have hperm : later.Perm (ns ++ [n]) := by
      have hall := foldl_append_perm (ns ++ [n]) earlier
      rw [h] at hall
      exact (List.perm_append_right_iff earlier).mp hall
    have hn : n ∈ later := hperm.mem_iff.mpr (by simp)
    rw [List.foldl_concat] at h
    obtain ⟨before, hbefore, rfl⟩ := exists_of_append_eq h hn
    rw [ih hbefore, collect_concat]

/-- **Two texts in order are the text in order just if they may be joined.** -/
theorem collect_append_iff {ns ms : List Nat} :
    collect (ns ++ ms) = later ++ collect ns ↔
      Joins (collect ms) (collect ns) ∧ later = collect ms := by
  rw [collect_append]
  constructor
  · intro h
    obtain rfl := eq_collect_of_foldl_append h
    refine ⟨?_, rfl⟩
    have hchain := isChain_collect (ns ++ ms)
    rw [collect_append, h] at hchain
    intro m hm n hn
    exact (List.isChain_append.mp hchain).2.2 n hn m hm
  · rintro ⟨hjoins, rfl⟩
    exact foldl_append_of_joins hjoins

end Joining

/-! ## Points that are left out -/

/-- **Where points that are no marks are the same, leaving some of them out hides nothing.** -/
theorem eq_of_filter_append {keep : Nat → Bool} (hkeep : ∀ n, keep n = false → combiningClass n = 0)
    {l l' rest rest' : List Nat} (hstarters : l.map starter? = l'.map starter?)
    (h : l.filter keep ++ rest = l'.filter keep ++ rest') : l = l' ∧ rest = rest' := by
  induction l generalizing l' with
  | nil =>
    obtain rfl := List.map_eq_nil_iff.mp hstarters.symm
    exact ⟨rfl, h⟩
  | cons n l ih =>
    cases l' with
    | nil => cases hstarters
    | cons m l' =>
      obtain ⟨hhead, htail⟩ := List.cons.inj hstarters
      -- A point that is left out is no mark, and then the other one is the same point.
      have hsame : n = m := by
        by_cases hn : keep n = true
        · by_cases hm : keep m = true
          · rw [List.filter_cons_of_pos hn, List.filter_cons_of_pos hm] at h
            exact (List.cons.inj h).1
          · exact eq_of_starter? (hkeep m (by simpa using hm)) hhead
        · exact (eq_of_starter? (hkeep n (by simpa using hn)) hhead.symm).symm
      subst hsame
      by_cases hn : keep n = true
      · rw [List.filter_cons_of_pos hn, List.filter_cons_of_pos hn] at h
        obtain ⟨rfl, hrest⟩ := ih htail (List.cons.inj h).2
        exact ⟨rfl, hrest⟩
      · rw [List.filter_cons_of_neg hn, List.filter_cons_of_neg hn] at h
        obtain ⟨rfl, hrest⟩ := ih htail h
        exact ⟨rfl, hrest⟩

/-! ## Normal forms of two texts -/

/-- The code points that a text stands for, not yet in order. -/
def points (cs : List Char) : List Nat := (cs.map Char.toNat).flatMap decompose

theorem normal_eq (cs : List Char) : normal cs = (collect (points cs)).reverse.map Char.ofNat := rfl

theorem points_append (a b : List Char) : points (a ++ b) = points a ++ points b := by
  rw [points, List.map_append, List.flatMap_append]
  rfl

/-- **The order of marks is settled where two texts are joined**: the first character of one normal form
    may follow the last one of the other. -/
def Settled (a b : List Char) : Prop :=
  ∀ x ∈ (normal a).getLast?, ∀ y ∈ (normal b).head?, InOrder x.toNat y.toNat

/-- Marks are characters. -/
theorem isValidChar_of_mark {n : Nat} (h : combiningClass n ≠ 0) : n.isValidChar := by
  have hranges : ∀ r ∈ combiningClasses, r.2.1 < 0xD800 ∨ 0xDFFF < r.1 ∧ r.2.1 < 0x110000 := by
    decide +kernel
  unfold combiningClass at h
  split at h
  · exact absurd rfl h
  · split at h
    next r hfound =>
      have hr := hranges r (List.mem_of_find?_eq_some hfound)
      have hn := List.find?_some hfound
      simp only [Bool.and_eq_true, decide_eq_true_eq] at hn
      rcases hr with hlow | ⟨hhigh, hlast⟩
      · exact .inl (by omega)
      · exact .inr ⟨by omega, by omega⟩
    · exact absurd rfl h

theorem toNat_ofNat_of_isValidChar {n : Nat} (h : n.isValidChar) : (Char.ofNat n).toNat = n := by
  rw [Char.ofNat, dif_pos h]
  rfl

theorem combiningClass_ofNat (n : Nat) : combiningClass (Char.ofNat n).toNat = combiningClass n := by
  by_cases hvalid : n.isValidChar
  · rw [toNat_ofNat_of_isValidChar hvalid]
  · have hnone : combiningClass n = 0 := by
      by_contra hmark
      exact hvalid (isValidChar_of_mark hmark)
    rw [hnone, Char.ofNat, dif_neg hvalid]
    rfl

theorem settled_iff {a b : List Char} :
    Settled a b ↔ Joins (collect (points b)) (collect (points a)) := by
  have hlast : (normal a).getLast? = (collect (points a)).head?.map Char.ofNat := by
    rw [normal_eq, List.getLast?_map, List.getLast?_reverse]
  have hhead : (normal b).head? = (collect (points b)).getLast?.map Char.ofNat := by
    rw [normal_eq, List.head?_map, List.head?_reverse]
  have horder : ∀ m n, InOrder (Char.ofNat m).toNat (Char.ofNat n).toNat ↔ InOrder m n := by
    intro m n
    rw [InOrder, combiningClass_ofNat, combiningClass_ofNat, InOrder]
  rw [Settled, hlast, hhead]
  constructor
  · intro h m hm n hn
    exact (horder m n).mp (h _ (Option.mem_map_of_mem _ hm) _ (Option.mem_map_of_mem _ hn))
  · intro h x hx y hy
    obtain ⟨m, hm, rfl⟩ := Option.map_eq_some_iff.mp hx
    obtain ⟨n, hn, rfl⟩ := Option.map_eq_some_iff.mp hy
    exact (horder m n).mpr (h m hm n hn)

end Registrar.Text

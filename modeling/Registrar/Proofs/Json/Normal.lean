import Registrar.Proofs.Json.Formats
import Registrar.Proofs.Json.Values

/-!
# Data in normal form stays as it is

Sorting members that are sorted changes nothing, so the normal form of data in normal form is the data
itself. A dictionary is left in normal form when it is read; therefore it is read back as it was written,
unless an object in it has the reserved key in front: that one is read as what its text holds, which is
not the object again.

## Contents

- `Value.sorted_of_pairwise` and `Value.mem_of_mem_sorted`;
- `Value.normal_normal`;
- `Value.Stands.plain_of_normal` and `Value.exists_standMembers_iff`: what comes back as it was;
- `Format.dictionary_restores`.
-/

namespace Registrar

namespace Json

namespace Value

/-! ## Sorted members -/

variable {members : List (String × Value)} {member : String × Value}

theorem foldl_insert_of_pairwise {sofar : List (String × Value)}
    (h : (sofar ++ members).Pairwise fun a b => a.1 < b.1) :
    members.foldl (fun sofar (key, v) => Keyed.insert key v sofar) sofar = sofar ++ members := by
  induction members generalizing sofar with
  | nil => rw [List.foldl_nil, List.append_nil]
  | cons member members ih =>
    obtain ⟨key, v⟩ := member
    -- Every key so far is smaller than the next one.
    have hlt : ∀ entry ∈ sofar, entry.1 < key := by
      intro entry hentry
      exact (List.pairwise_append.mp h).2.2 entry hentry (key, v) List.mem_cons_self
    have hrest : (sofar ++ [(key, v)] ++ members).Pairwise fun a b => a.1 < b.1 := by
      rw [List.append_assoc]
      exact h
    rw [List.foldl_cons]
    show members.foldl _ (Keyed.insert key v sofar) = _
    rw [Keyed.insert_of_lt hlt, ih hrest, List.append_assoc]
    rfl

/-- **Members that are sorted stay as they are.** -/
theorem sorted_of_pairwise (h : members.Pairwise fun a b => a.1 < b.1) : sorted members = members :=
  foldl_insert_of_pairwise h

theorem mem_of_mem_sorted (h : member ∈ sorted members) : member ∈ members := by
  have hfold : ∀ sofar, member ∈ members.foldl (fun sofar (key, v) => Keyed.insert key v sofar) sofar →
      member ∈ members ∨ member ∈ sofar := by
    clear h
    induction members with
    | nil => exact fun sofar h => .inr h
    | cons first members ih =>
      intro sofar h
      rcases ih _ h with hmem | hmem
      · exact .inl (List.mem_cons_of_mem first hmem)
      · rcases Keyed.mem_insert hmem with rfl | hmem
        · exact .inl List.mem_cons_self
        · exact .inr hmem
  exact (hfold [] h).resolve_right List.not_mem_nil

/-! ## Normal forms -/

/-- Members with values in normal form are in normal form where they stand. -/
theorem normalMembers_of_normal (h : ∀ member ∈ members, member.2.normal = member.2) :
    normalMembers members = members := by
  induction members with
  | nil => rfl
  | cons member members ih =>
    obtain ⟨hmember, hmembers⟩ := List.forall_mem_cons.mp h
    rw [normalMembers, hmember, ih hmembers]

mutual
/-- **The normal form is in normal form.** -/
theorem normal_normal (v : Value) : v.normal.normal = v.normal := by
  match v with
  | .array items => exact congrArg Value.array (normalItems_normalItems items)
  | .object members =>
    have hvalues : ∀ member ∈ sorted (normalMembers members), member.2.normal = member.2 := by
      intro member hmember
      exact normal_of_mem_normalMembers members member (mem_of_mem_sorted hmember)
    rw [normal, normal, normalMembers_of_normal hvalues, sorted_of_pairwise (pairwise_sorted _)]
  | .null | .bool _ | .number _ | .text _ => rfl

theorem normalItems_normalItems (items : List Value) :
    normalItems (normalItems items) = normalItems items := by
  match items with
  | [] => rfl
  | v :: rest => rw [normalItems, normalItems, normal_normal v, normalItems_normalItems rest]

theorem normal_of_mem_normalMembers (members : List (String × Value)) :
    ∀ member ∈ normalMembers members, member.2.normal = member.2 := by
  match members with
  | [] => exact fun member hmember => absurd hmember List.not_mem_nil
  | (key, v) :: rest =>
    intro member hmember
    rcases List.mem_cons.mp hmember with rfl | hmember
    · exact normal_normal v
    · exact normal_of_mem_normalMembers rest member hmember
end

/-! ## Data that is read back -/

/-- Every key stays. -/
theorem exists_mem_sorted (h : member ∈ members) : ∃ kept ∈ sorted members, kept.1 = member.1 := by
  have hlast := find?_sorted member.1 members
  cases hfind : (sorted members).find? (·.1 = member.1) with
  | some kept => exact ⟨kept, List.mem_of_find?_eq_some hfind, by simpa using List.find?_some hfind⟩
  | none =>
    rw [hfind] at hlast
    have hnone : (members.reverse.find? (·.1 = member.1)).map (·.2) = none := hlast.symm
    have hother := List.find?_eq_none.mp (Option.map_eq_none_iff.mp hnone) member (List.mem_reverse.mpr h)
    simp at hother

/-- No data stands for an object with nothing but the reserved key. -/
theorem Stands.normal_ne_raw {v w : Value} (h : v.Stands w) (a : Value) :
    w.normal ≠ .object [(rawKey, a)] := by
  match h with
  | .null | .bool _ | .number _ | .text _ | .array _ => nofun
  | .raw _ _ h => exact h.normal_ne_raw a
  | .object hfirst h =>
    cases h with
    | nil => nofun
    | @cons key v w given standing h hrest =>
      intro heq
      -- The first key is not the reserved one, and it stays.
      have hmem : (key, w.normal) ∈ normalMembers ((key, w) :: standing) := List.mem_cons_self
      obtain ⟨kept, hkept, hkey⟩ := exists_mem_sorted hmem
      rw [Value.object.inj heq, List.mem_singleton] at hkept
      rw [hkept] at hkey
      exact hfirst (congrArg some hkey.symm)

theorem StandMembers.map_fst {given standing : List (String × Value)} (h : StandMembers given standing) :
    given.map (·.1) = (normalMembers standing).map (·.1) := by
  match h with
  | .nil => rfl
  | .cons key _ hrest => exact congrArg (key :: ·) hrest.map_fst

/-- Members that are sorted stand for sorted members. -/
theorem StandMembers.normalMembers_of_sorted {given standing : List (String × Value)}
    (h : StandMembers given standing) (hsorted : sorted (normalMembers standing) = given) :
    normalMembers standing = given := by
  have hpairwise : ((normalMembers standing).map (·.1)).Pairwise (· < ·) := by
    rw [← h.map_fst, ← hsorted]
    exact List.pairwise_map.mpr (pairwise_sorted _)
  rw [← hsorted, sorted_of_pairwise (List.pairwise_map.mp hpairwise)]

mutual
/-- Data that comes back as it was has no reserved key in front. -/
theorem Stands.plain_of_normal {v w : Value} (h : v.Stands w) (hback : w.normal = v) : v.Plain := by
  match h with
  | .null | .bool _ | .number _ | .text _ => trivial
  | .array h => exact h.plain_of_normal (Value.array.inj hback)
  | .object hfirst h =>
    exact ⟨hfirst, h.plain_of_normal (h.normalMembers_of_sorted (Value.object.inj hback))⟩
  | .raw _ _ h => exact absurd hback (h.normal_ne_raw _)

theorem StandItems.plain_of_normal {given standing : List Value} (h : StandItems given standing)
    (hback : normalItems standing = given) : PlainItems given := by
  match h with
  | .nil => trivial
  | .cons h hrest =>
    obtain ⟨hv, hothers⟩ := List.cons.inj hback
    exact ⟨h.plain_of_normal hv, hrest.plain_of_normal hothers⟩

theorem StandMembers.plain_of_normal {given standing : List (String × Value)}
    (h : StandMembers given standing) (hback : normalMembers standing = given) : PlainMembers given := by
  match h with
  | .nil => trivial
  | .cons key h hrest =>
    obtain ⟨hv, hothers⟩ := List.cons.inj hback
    exact ⟨h.plain_of_normal (Prod.mk.inj hv).2, hrest.plain_of_normal hothers⟩
end

/-- **Members in normal form come back as they were** exactly if no object in their values has the reserved
    key in front. -/
theorem exists_standMembers_iff (hnormal : (Value.object members).normal = .object members) :
    (∃ standing, StandMembers members standing ∧ sorted (normalMembers standing) = members) ↔
      PlainMembers members := by
  constructor
  · rintro ⟨standing, hstand, hback⟩
    exact hstand.plain_of_normal (hstand.normalMembers_of_sorted hback)
  · intro hplain
    exact ⟨members, standMembers_self members hplain, Value.object.inj hnormal⟩

end Value

/-! ## Dictionaries -/

namespace Format

/-- **A dictionary in normal form is read back**, if none of its numbers is a floating-point number and no
    object in it has the reserved key in front. -/
theorem dictionary_restores {members : List (String × Value)}
    (hnormal : (Value.object members).normal = .object members) (hplain : Value.PlainMembers members)
    (hexact : Value.ExactMembers members) :
    dictionary.Restores (Value.object members).levels members := by
  refine ⟨hexact, ?_⟩
  intro room hroom
  rw [Value.levels] at hroom
  have hread := (Value.standMembers_self members hplain).ofMembers_nodesOfMembers
    (show _ < room - 1 by omega)
  show dictionary.read room (.object (Value.nodesOfMembers members) true) = .ok members
  simp only [dictionary, if_neg (show ¬ room ≤ 1 by omega), hread, if_true, Value.object.inj hnormal]

end Format

end Json

end Registrar

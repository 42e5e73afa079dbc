import Registrar.Keyed

/-!
# Laws of values by key

A value that is put in is found under its key, and what stands under the other keys stays. Keys that are in
ascending order stay so.

## Contents

- `find?_insert`, what is found after a value is put in;
- `mem_insert`, `insert_of_lt` and `pairwise_insert`: a value is put in its place.
-/

namespace Registrar.Keyed

variable {α : Type} {key : String} {a : α} {entries : List (String × α)} {entry : String × α}

/-- **A value is found under its key, and the others are as before.** -/
theorem find?_insert (key k : String) (a : α) (entries : List (String × α)) :
    (insert key a entries).find? (·.1 = k)
      = if key = k then some (key, a) else entries.find? (·.1 = k) := by
  induction entries with
  | nil => by_cases hk : key = k <;> simp [insert, hk]
  | cons first rest ih =>
    obtain ⟨name, old⟩ := first
    rw [insert]
    split
    · by_cases hk : key = k <;> simp [hk]
    split
    · next heq =>
      subst heq
      by_cases hk : key = k <;> simp [hk]
    · next hne =>
      by_cases hname : name = k
      · have hk : key ≠ k := fun h => hne (h.trans hname.symm)
        simp [hname, hk]
      · simp [hname, ih]

/-- What is there after a value is put in is the value, or was there before. -/
theorem mem_insert (h : entry ∈ insert key a entries) : entry = (key, a) ∨ entry ∈ entries := by
  induction entries with
  | nil => exact .inl (List.mem_singleton.mp h)
  | cons first rest ih =>
    obtain ⟨name, old⟩ := first
    rw [insert] at h
    split at h
    · exact List.mem_cons.mp h
    split at h
    · exact (List.mem_cons.mp h).imp_right (List.mem_cons_of_mem _)
    · rcases List.mem_cons.mp h with rfl | h
      · exact .inr List.mem_cons_self
      · exact (ih h).imp_right (List.mem_cons_of_mem _)

/-- A value of the last key is put at the end. -/
theorem insert_of_lt (h : ∀ entry ∈ entries, entry.1 < key) :
    insert key a entries = entries ++ [(key, a)] := by
  induction entries with
  | nil => rfl
  | cons first rest ih =>
    obtain ⟨name, old⟩ := first
    obtain ⟨hlt, hrest⟩ := List.forall_mem_cons.mp h
    have hne : key ≠ name := by
      rintro rfl
      exact String.lt_irrefl key hlt
    rw [insert, if_neg (String.lt_asymm hlt), if_neg hne, ih hrest]
    rfl

/-- **A value is put in its place.** -/
theorem pairwise_insert (key : String) (a : α) (h : entries.Pairwise fun x y => x.1 < y.1) :
    (insert key a entries).Pairwise fun x y => x.1 < y.1 := by
  induction entries with
  | nil => exact List.pairwise_singleton _ _
  | cons first rest ih =>
    obtain ⟨name, old⟩ := first
    obtain ⟨hfirst, hrest⟩ := List.pairwise_cons.mp h
    rw [insert]
    split
    · next hlt =>
      refine List.pairwise_cons.mpr ⟨fun other hother => ?_, h⟩
      rcases List.mem_cons.mp hother with rfl | hother
      · exact hlt
      · exact String.lt_trans hlt (hfirst other hother)
    next hnlt =>
    split
    · next heq =>
      subst heq
      exact List.pairwise_cons.mpr ⟨hfirst, hrest⟩
    next hne =>
    refine List.pairwise_cons.mpr ⟨fun other hother => ?_, ih hrest⟩
    rcases mem_insert hother with rfl | hother
    · exact String.not_le.mp fun hge => hne (String.le_antisymm hge (String.not_lt.mp hnlt))
    · exact hfirst other hother

end Registrar.Keyed

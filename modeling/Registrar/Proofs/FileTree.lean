import Mathlib.Data.List.Nodup
import Registrar.FileTree

/-!
# Snapshots that are alike

Two snapshots are alike if they have the same directories and the same files at the same places, whatever
the order in which a directory lists its entries. What the files say may differ: a relation tells, for
each place, which texts go together. A path then leads to the same place in both of them, or to neither
for the same reason.

## Contents

- `FileTree.Alike` with `FileTree.Alike.refl` and `FileTree.Alike.of_perm`, and `Workspace.Alike`;
- `FileTree.follow_alike` and `Workspace.Alike.locate`: where a path leads;
- `Workspace.Alike.isFile_eq`, `Workspace.Alike.list_cases` and `Workspace.Alike.readText_eq`: what is
  found there.
-/

namespace Registrar

namespace FileTree

/-! ## Directories in any order -/

/-- The trees have the same entries at all places below `here`, and files at one place are as `same`
    demands. -/
inductive Alike (same : List String → Bytes → Bytes → Prop) :
    List String → FileTree → FileTree → Prop
  | file {here : List String} {content content' : Bytes} (h : same here content content') :
      Alike same here (.file content) (.file content')
  | directory {here : List String} {entries entries' : List (String × FileTree)}
      (names : (entries.map (·.1)).Perm (entries'.map (·.1)))
      (below : ∀ name t t', entry? name entries = some t → entry? name entries' = some t' →
        Alike same (here ++ [name]) t t') :
      Alike same here (.directory entries) (.directory entries')

/-- So are the directories passed through on the way to a place, the last one first. -/
inductive AlikeAbove (same : List String → Bytes → Bytes → Prop) :
    List String → List FileTree → List FileTree → Prop
  | root : AlikeAbove same [] [] []
  | parent {here : List String} {t t' : FileTree} {above above' : List FileTree} (name : String)
      (h : Alike same here t t') (habove : AlikeAbove same here above above') :
      AlikeAbove same (here ++ [name]) (t :: above) (t' :: above')

/-- Two ways lead to the same place, with trees that are alike there, or end for the same reason. -/
inductive Leads (same : List String → Bytes → Bytes → Prop) :
    Except FileFault (List String × FileTree) → Except FileFault (List String × FileTree) → Prop
  | fault (fault : FileFault) : Leads same (.error fault) (.error fault)
  | place {place : List String} {t t' : FileTree} (h : Alike same place t t') :
      Leads same (.ok (place, t)) (.ok (place, t'))

section Following

variable {same : List String → Bytes → Bytes → Prop} {here : List String} {t t' : FileTree}
  {above above' : List FileTree} {entries entries' : List (String × FileTree)} {name : String}

theorem mem_of_entry (h : entry? name entries = some t) : (name, t) ∈ entries := by
  obtain ⟨e, he, rfl⟩ := Option.map_eq_some_iff.mp h
  have hname : e.1 = name := by simpa using List.find?_some he
  rw [← hname]
  exact List.mem_of_find?_eq_some he

/-- A tree is like itself. -/
theorem Alike.refl (hsame : ∀ place content, same place content content) (here : List String) :
    ∀ t : FileTree, Alike same here t t
  | .file content => .file (hsame here content)
  | .directory entries => by
    refine .directory (List.Perm.refl _) ?_
    intro name t t' h h'
    cases h.symm.trans h'
    have hmem := List.sizeOf_lt_of_mem (mem_of_entry h)
    have hsmaller : sizeOf t < 1 + sizeOf entries := by
      simp only [Prod.mk.sizeOf_spec] at hmem
      omega
    exact Alike.refl hsame (here ++ [name]) t
termination_by t => sizeOf t

/-- **A directory that lists its entries in another order is like itself.** -/
theorem Alike.of_perm (hsame : ∀ place content, same place content content)
    (hnodup : (entries.map (·.1)).Nodup) (h : entries.Perm entries') :
    Alike same here (.directory entries) (.directory entries') := by
  refine .directory (h.map _) ?_
  intro name t t' ht ht'
  have hmem := h.mem_iff.mpr (mem_of_entry ht')
  have heq := List.inj_on_of_nodup_map hnodup (mem_of_entry ht) hmem rfl
  cases heq
  exact Alike.refl hsame _ t

/-- There is no entry of a name exactly if the name is none of theirs. -/
theorem entry?_eq_none_iff :
    entry? name entries = none ↔ name ∉ entries.map (·.1) := by
  unfold entry?
  rw [Option.map_eq_none_iff, List.find?_eq_none]
  constructor
  · intro hnone hin
    obtain ⟨entry, hentry, rfl⟩ := List.mem_map.mp hin
    exact hnone entry hentry (decide_eq_true rfl)
  · intro hout entry hentry hname
    exact hout (List.mem_map.mpr ⟨entry, hentry, of_decide_eq_true hname⟩)

/-- Directories with the same names have an entry for the same ones. -/
theorem entry?_cases (h : (entries.map (·.1)).Perm (entries'.map (·.1))) (name : String) :
    entry? name entries = none ∧ entry? name entries' = none ∨
    ∃ t t', entry? name entries = some t ∧ entry? name entries' = some t' := by
  have hnone : entry? name entries = none ↔ entry? name entries' = none := by
    rw [entry?_eq_none_iff, entry?_eq_none_iff, h.mem_iff]
  cases hentry : entry? name entries with
  | none => exact .inl ⟨rfl, hnone.mp hentry⟩
  | some t =>
    cases hentry' : entry? name entries' with
    | none =>
      rw [hnone.mpr hentry'] at hentry
      cases hentry
    | some t' => exact .inr ⟨t, t', rfl, rfl⟩

/-- **The same parts lead to the same place.** -/
theorem follow_alike (h : Alike same here t t') (habove : AlikeAbove same here above above')
    (parts : List String) :
    Leads same (follow above here t parts) (follow above' here t' parts) := by
  induction parts generalizing here t t' above above' with
  | nil => exact .place h
  | cons part rest ih =>
    cases h with
    | file _ => exact .fault .notDirectory
    | @directory _ entries entries' names below =>
      have hdirectory : Alike same here (.directory entries) (.directory entries') :=
        .directory names below
      unfold follow
      dsimp only
      by_cases hstay : part = "" ∨ part = "."
      · rw [if_pos hstay, if_pos hstay]
        exact ih hdirectory habove
      rw [if_neg hstay, if_neg hstay]
      by_cases hup : part = ".."
      · rw [if_pos hup, if_pos hup]
        cases habove with
        | root => exact ih hdirectory .root
        | parent name hparent habove =>
          -- The way back leads to the directory passed through last, which is alike as well.
          show Leads same (follow _ (List.dropLast _) _ rest) (follow _ (List.dropLast _) _ rest)
          rw [List.dropLast_concat]
          exact ih hparent habove
      rw [if_neg hup, if_neg hup]
      rcases entry?_cases names part with ⟨hnone, hnone'⟩ | ⟨u, u', hentry, hentry'⟩
      · rw [hnone, hnone']
        exact .fault .notFound
      · rw [hentry, hentry']
        exact ih (below part u u' hentry hentry') (.parent part hdirectory habove)

end Following

end FileTree

namespace Workspace

open FileTree (Leads)

/-! ## Paths -/

/-- Two snapshots that are alike, seen from the same directory. -/
def Alike (same : List String → Bytes → Bytes → Prop) (w w' : Workspace) : Prop :=
  w'.current = w.current ∧ FileTree.Alike same [] w.root w'.root

namespace Alike

variable {same : List String → Bytes → Bytes → Prop} {w w' : Workspace}

/-- **A path leads to the same place in both snapshots.** -/
theorem locate (h : w.Alike same w') (path : String) :
    Leads same (w.locate path) (w'.locate path) := by
  obtain ⟨hcurrent, hroot⟩ := h
  have hfollow := FileTree.follow_alike hroot .root
  unfold Workspace.locate
  rw [hcurrent]
  by_cases hempty : path.toList = []
  · simp only [hempty, if_true]
    exact .fault .notFound
  by_cases hnull : path.toList.contains '\x00' = true
  · simp only [hempty, hnull, if_true, if_false]
    exact .fault .badPath
  by_cases habsolute : path.toList.head? = some '/'
  · simp only [hempty, hnull, habsolute, if_true, if_false]
    exact hfollow _
  · simp only [hempty, hnull, habsolute, if_false]
    exact hfollow _

/-- There is a file in both or in neither. -/
theorem isFile_eq (h : w.Alike same w') (path : String) : w'.isFile path = w.isFile path := by
  have hleads := h.locate path
  unfold isFile
  generalize w.locate path = found at hleads ⊢
  generalize w'.locate path = found' at hleads ⊢
  cases hleads with
  | fault fault => rfl
  | place halike => cases halike <;> rfl

/-- **Both directories have the same names**, or cannot be listed for the same reason. -/
theorem list_cases (h : w.Alike same w') (path : String) :
    (∃ fault, w.list path = .error fault ∧ w'.list path = .error fault) ∨
    ∃ entries entries', w.list path = .ok entries ∧ w'.list path = .ok entries' ∧
      entries.Perm entries' := by
  have hleads := h.locate path
  unfold list
  generalize w.locate path = found at hleads ⊢
  generalize w'.locate path = found' at hleads ⊢
  cases hleads with
  | fault fault => exact .inl ⟨fault, rfl, rfl⟩
  | place halike =>
    cases halike with
    | file _ => exact .inl ⟨.notDirectory, rfl, rfl⟩
    | directory names _ => exact .inr ⟨_, _, rfl, rfl, names⟩

/-- **Where files may only say the same, the same text is read.** -/
theorem readText_eq (h : w.Alike same w') {path : String}
    (hsame : ∀ place content content', w.locate path = .ok (place, .file content) →
      same place content content' → content = content') :
    w'.readText path = w.readText path := by
  have hleads := h.locate path
  unfold readText read
  generalize w.locate path = found at hleads hsame ⊢
  generalize w'.locate path = found' at hleads ⊢
  cases hleads with
  | fault fault => rfl
  | place halike =>
    cases halike with
    | file hcontent => rw [hsame _ _ _ rfl hcontent]
    | directory _ _ => rfl

end Alike

end Workspace

end Registrar

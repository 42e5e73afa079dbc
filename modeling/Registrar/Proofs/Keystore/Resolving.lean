import Registrar.Keystore.Directory

/-!
# Passwords one after the other

Containers get their passwords in the order of their names, and the common password is read for the first
one that needs it and kept for the others. As files stay as they are meanwhile, what is kept is what would
be read: each container gets the password that it gets alone, and the first one that gets none ends the
walk.

## Contents

- `passwordOf` and `resolve`: passwords without anything kept;
- `Known` with `Known.nextPassword` and `resolveFrom_eq`: what is kept has no say, and `lockedFiles_eq`;
- `resolve_eq_ok_iff` and `resolve_eq_error_iff`: what a walk ends with, and `resolve_congr`;
- `pairwise_containerNames` and `containerNames_of_perm`: the order of the names.
-/

namespace Registrar.Keystore

/-! ## Passwords without anything kept -/

/-- The password of a container. -/
def passwordOf (files : Workspace) (s : Source) (name : String) : Except KeyFault String :=
  let sidecar := Path.join s.sidecarDirectory (sidecarName name)
  if files.isFile sidecar then readPassword files sidecar
  else match s.passwordFile with
    | some path => readPassword files path
    | none => .error (.noPassword name)

/-- The containers of the given names in a directory, each with the password of its name, up to the
first without one. -/
def resolve (directory : String) (password : String → Except KeyFault String) :
    List String → Except KeyFault (List LockedFile)
  | [] => .ok []
  | name :: rest =>
    match password name with
    | .error fault => .error fault
    | .ok found =>
      match resolve directory password rest with
      | .error fault => .error fault
      | .ok others => .ok (⟨name, Path.join directory name, found⟩ :: others)

/-! ## The common password -/

/-- What is known is what the common password file says. -/
def Known (files : Workspace) (s : Source) (known : Option String) : Prop :=
  ∀ password ∈ known, ∃ path, s.passwordFile = some path ∧ readPassword files path = .ok password

section Walk

variable {files : Workspace} {s : Source} {known : Option String}

/-- **A container gets the password that it gets alone**, and what is known then is true again. -/
theorem Known.nextPassword (h : Known files s known) (name : String) :
    (∃ fault, nextPassword files s known name = .error fault ∧
      passwordOf files s name = .error fault) ∨
    ∃ password known', nextPassword files s known name = .ok (password, known') ∧
      passwordOf files s name = .ok password ∧ Known files s known' := by
  unfold Keystore.nextPassword passwordOf
  by_cases hsidecar : files.isFile (Path.join s.sidecarDirectory (sidecarName name)) = true
  · simp only [if_pos hsidecar]
    cases hread : readPassword files (Path.join s.sidecarDirectory (sidecarName name)) with
    | error fault => exact .inl ⟨fault, rfl, rfl⟩
    | ok password => exact .inr ⟨password, known, rfl, rfl, h⟩
  · simp only [if_neg hsidecar]
    cases hcommon : s.passwordFile with
    | none => exact .inl ⟨.noPassword name, rfl, rfl⟩
    | some path =>
      cases known with
      | some password =>
        -- It was read before, from the same file.
        obtain ⟨path', hpath, hread⟩ := h password rfl
        obtain rfl : path = path' := Option.some.inj (hcommon.symm.trans hpath)
        exact .inr ⟨password, some password, rfl, hread, h⟩
      | none =>
        cases hread : readPassword files path with
        | error fault => exact .inl ⟨fault, by simp only [hread], hread⟩
        | ok password =>
          refine .inr ⟨password, some password, by simp only [hread], hread, ?_⟩
          intro kept hkept
          cases hkept
          exact ⟨path, hcommon, hread⟩

/-- **What is kept has no say in the walk.** -/
theorem resolveFrom_eq (h : Known files s known) (names : List String) :
    resolveFrom s.directory (nextPassword files s) known names =
      resolve s.directory (passwordOf files s) names := by
  induction names generalizing known with
  | nil => rfl
  | cons name rest ih =>
    rw [resolveFrom, resolve]
    rcases h.nextPassword name with ⟨fault, hnext, halone⟩ | ⟨password, known', hnext, halone, h'⟩
    · simp only [hnext, halone]
    · cases hrest : resolve s.directory (passwordOf files s) rest with
      | error fault => simp only [hnext, halone, ih h', hrest]
      | ok others => simp only [hnext, halone, ih h', hrest]

/-- The containers of a directory, each with its password alone. -/
theorem lockedFiles_eq (files : Workspace) (s : Source) :
    lockedFiles files s =
      match files.list s.directory with
      | .error fault => .error (.unreadable s.directory fault)
      | .ok entries =>
        resolve s.directory (passwordOf files s) (containerNames files s.directory entries) := by
  have hnothing : Known files s none := by
    intro password hpassword
    cases hpassword
  unfold lockedFiles
  cases files.list s.directory with
  | error fault => rfl
  | ok entries => exact resolveFrom_eq hnothing _

end Walk

/-! ## What a walk ends with -/

section Ends

variable {directory : String} {password : String → Except KeyFault String} {names : List String}
  {fs : List LockedFile} {fault : KeyFault}

/-- **A walk that ends well has a file for each name**, with its path and its password. -/
theorem resolve_eq_ok_iff :
    resolve directory password names = .ok fs ↔ fs.map (·.name) = names ∧
      ∀ f ∈ fs, f.path = Path.join directory f.name ∧ password f.name = .ok f.password := by
  constructor
  · intro h
    induction names generalizing fs with
    | nil =>
      cases h
      exact ⟨rfl, by simp⟩
    | cons name rest ih =>
      rw [resolve] at h
      split at h
      · cases h
      next found hfound =>
      split at h
      · cases h
      next others hothers =>
      cases h
      obtain ⟨hnames, hfiles⟩ := ih hothers
      exact ⟨by rw [List.map_cons, hnames], List.forall_mem_cons.mpr ⟨⟨rfl, hfound⟩, hfiles⟩⟩
  · rintro ⟨rfl, hfiles⟩
    induction fs with
    | nil => rfl
    | cons f fs ih =>
      obtain ⟨⟨hpath, hpassword⟩, hrest⟩ := List.forall_mem_cons.mp hfiles
      rw [List.map_cons, resolve, hpassword, ih hrest, ← hpath]

/-- **A walk fails with the fault of the first name without a password.** -/
theorem resolve_eq_error_iff :
    resolve directory password names = .error fault ↔
      ∃ before name after, names = before ++ name :: after ∧ password name = .error fault ∧
        ∀ earlier ∈ before, ∃ found, password earlier = .ok found := by
  induction names with
  | nil => simp [resolve]
  | cons name rest ih =>
    rw [resolve]
    cases hname : password name with
    | error first =>
      simp only [Except.error.injEq]
      constructor
      · rintro rfl
        exact ⟨[], name, rest, rfl, hname, by simp⟩
      · rintro ⟨before, later, after, hsplit, hlater, hbefore⟩
        cases before with
        | nil =>
          cases hsplit
          exact Except.error.inj (hname.symm.trans hlater)
        | cons earlier before =>
          cases hsplit
          obtain ⟨found, hfound⟩ := hbefore name List.mem_cons_self
          cases hname.symm.trans hfound
    | ok found =>
      have hrest : (match resolve directory password rest with
          | .error fault => .error fault
          | .ok others => .ok (⟨name, Path.join directory name, found⟩ :: others))
            = (.error fault : Except KeyFault (List LockedFile)) ↔
          resolve directory password rest = .error fault := by
        cases resolve directory password rest <;> simp
      rw [hrest, ih]
      constructor
      · rintro ⟨before, later, after, rfl, hlater, hbefore⟩
        exact ⟨name :: before, later, after, rfl, hlater,
          List.forall_mem_cons.mpr ⟨⟨found, hname⟩, hbefore⟩⟩
      · rintro ⟨before, later, after, hsplit, hlater, hbefore⟩
        cases before with
        | nil =>
          cases hsplit
          cases hname.symm.trans hlater
        | cons earlier before =>
          cases hsplit
          exact ⟨before, later, after, rfl, hlater, (List.forall_mem_cons.mp hbefore).2⟩

/-- Only the passwords of the names are used. -/
theorem resolve_congr {password' : String → Except KeyFault String}
    (h : ∀ name ∈ names, password' name = password name) :
    resolve directory password' names = resolve directory password names := by
  induction names with
  | nil => rfl
  | cons name rest ih =>
    obtain ⟨hname, hrest⟩ := List.forall_mem_cons.mp h
    rw [resolve, resolve, hname, ih hrest]

end Ends

/-! ## The order of the names -/

section Names

variable {files files' : Workspace} {directory : String} {entries entries' : List String}

theorem mem_containerNames {name : String} :
    name ∈ containerNames files directory entries ↔
      name ∈ entries ∧ isContainerName name = true ∧
        files.isFile (Path.join directory name) = true := by
  rw [containerNames, List.mem_mergeSort, List.mem_filter, Bool.and_eq_true]

/-- **The names are in ascending order.** -/
theorem pairwise_containerNames (files : Workspace) (directory : String) (entries : List String) :
    (containerNames files directory entries).Pairwise (· ≤ ·) := by
  refine (List.pairwise_mergeSort ?_ ?_ _).imp of_decide_eq_true
  · intro a b c hab hbc
    exact decide_eq_true (String.le_trans (of_decide_eq_true hab) (of_decide_eq_true hbc))
  · intro a b
    rw [Bool.or_eq_true, decide_eq_true_eq, decide_eq_true_eq]
    exact String.le_total a b

/-- **The order in which a directory is listed has no say in them.** -/
theorem containerNames_of_perm (h : entries.Perm entries')
    (hfile : ∀ path, files'.isFile path = files.isFile path) :
    containerNames files' directory entries' = containerNames files directory entries := by
  refine List.Perm.eq_of_pairwise ?_ (pairwise_containerNames ..) (pairwise_containerNames ..) ?_
  · intro a b _ _ hab hba
    exact String.le_antisymm hab hba
  · unfold containerNames
    simp only [hfile]
    exact (List.mergeSort_perm _ _).trans ((h.symm.filter _).trans (List.mergeSort_perm _ _).symm)

end Names

end Registrar.Keystore

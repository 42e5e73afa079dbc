import Registrar.Proofs.FileTree
import Registrar.Proofs.Keystore.Resolving

/-!
# Which containers are found

A directory is searched for containers by their names. Each one that is found gets the password in the
text file of its name, or the common password where there is no such file, and the first one in the order
of the names that gets none ends the search. What is found depends on what files there are and on the
texts of passwords, and not on the order in which the directory is listed.

## Contents

- `containerName` and `Source.sidecar`, with `isContainerName_iff` and `sidecarName_containerName`;
- `Listed` and `Resolves`: the containers and their passwords, with `mem_containerNames_iff` and
  `resolves_iff`;
- `lockedFiles_congr`: what the search depends on;
- `Discovery` and `lockedFiles_discovery`.
-/

namespace Registrar.Keystore

/-! ## Names of containers -/

/-- The name of a container. -/
def containerName (middle : String) : String := "keystore" ++ middle ++ ".json"

/-- The path of the text file with the password of a container. -/
def Source.sidecar (s : Source) (middle : String) : String :=
  Path.join (s.passwordDirectory.getD s.directory) ("keystore" ++ middle ++ ".txt")

theorem containerName_injective {middle middle' : String}
    (h : containerName middle = containerName middle') : middle = middle' :=
  (String.append_right_inj _).mp ((String.append_left_inj _).mp h)

/-- **A name that starts and ends as that of a container has something in between.** -/
theorem isContainerName_iff {name : String} :
    isContainerName name = true ↔ ∃ middle, name = containerName middle := by
  have hstart : "keystore".toList = ['k', 'e', 'y', 's', 't', 'o', 'r', 'e'] := by decide
  have hend : ".json".toList = ['.', 'j', 's', 'o', 'n'] := by decide
  rw [isContainerName, nameEnd, Bool.and_eq_true, List.isPrefixOf_iff_prefix,
    List.isSuffixOf_iff_suffix]
  constructor
  · rintro ⟨⟨after, hafter⟩, ⟨before, hbefore⟩⟩
    -- The start has no full stop, so that the end lies behind it.
    rcases List.append_eq_append_iff.mp (hafter.trans hbefore.symm) with
      ⟨middle, rfl, hmiddle⟩ | ⟨rest, hrest, hlast⟩
    · refine ⟨String.ofList middle, String.toList_inj.mp ?_⟩
      rw [containerName, String.toList_append, String.toList_append, @String.toList_ofList middle]
      exact hbefore.symm
    · cases rest with
      | nil =>
        rw [List.append_nil] at hrest
        rw [List.nil_append] at hlast
        refine ⟨"", String.toList_inj.mp ?_⟩
        rw [containerName, String.append_empty, String.toList_append, hrest, hbefore]
      | cons c rest =>
        have hdot : '.' ∈ "keystore".toList := by
          have hhead : c = '.' := by
            rw [hend, List.cons_append] at hlast
            exact (List.cons.inj hlast).1.symm
          rw [hrest, hhead]
          simp
        rw [hstart] at hdot
        exact absurd hdot (by decide)
  · rintro ⟨middle, rfl⟩
    rw [containerName, String.toList_append]
    constructor
    · rw [String.toList_append, List.append_assoc]
      exact List.prefix_append _ _
    · exact List.suffix_append _ _

/-- The text file has another end in the place of that of the container. -/
theorem sidecarName_containerName (middle : String) :
    sidecarName (containerName middle) = "keystore" ++ middle ++ ".txt" := by
  rw [sidecarName, containerName, String.toList_append]
  have hstem : (("keystore" ++ middle).toList ++ ".json".toList).take
      ((("keystore" ++ middle).toList ++ ".json".toList).length - nameEnd.length)
      = ("keystore" ++ middle).toList := by
    refine List.take_left' ?_
    rw [List.length_append, nameEnd, Nat.add_sub_cancel]
  rw [hstem, String.ofList_toList]

/-! ## Containers and their passwords -/

/-- There is a container of this name in the directory. -/
structure Listed (w : Workspace) (s : Source) (middle : String) : Prop where
  entry : ∃ entries, w.list s.directory = .ok entries ∧ containerName middle ∈ entries
  file : w.isFile (Path.join s.directory (containerName middle)) = true

/-- What a container gets: the password in the text file of its name, if there is one, and the common
    one else. -/
inductive Resolves (w : Workspace) (s : Source) (middle : String) : Except KeyFault String → Prop
  | own {text : String} (hfile : w.isFile (s.sidecar middle) = true)
      (htext : w.readText (s.sidecar middle) = .ok text) : Resolves w s middle (.ok (Text.trim text))
  | ownFault {fault : FileFault} (hfile : w.isFile (s.sidecar middle) = true)
      (hfault : w.readText (s.sidecar middle) = .error fault) :
      Resolves w s middle (.error (.unreadable (s.sidecar middle) fault))
  | common {path text : String} (hfile : w.isFile (s.sidecar middle) = false)
      (hpath : s.passwordFile = some path) (htext : w.readText path = .ok text) :
      Resolves w s middle (.ok (Text.trim text))
  | commonFault {path : String} {fault : FileFault} (hfile : w.isFile (s.sidecar middle) = false)
      (hpath : s.passwordFile = some path) (hfault : w.readText path = .error fault) :
      Resolves w s middle (.error (.unreadable path fault))
  | missing (hfile : w.isFile (s.sidecar middle) = false) (hpath : s.passwordFile = none) :
      Resolves w s middle (.error (.noPassword (containerName middle)))

section Search

variable {w w' : Workspace} {s s' : Source} {middle : String} {entries : List String}
  {fs : List LockedFile} {fault : KeyFault}

theorem exists_resolves (w : Workspace) (s : Source) (middle : String) :
    ∃ result, Resolves w s middle result := by
  cases hfile : w.isFile (s.sidecar middle) with
  | true =>
    cases htext : w.readText (s.sidecar middle) with
    | ok text => exact ⟨_, .own hfile htext⟩
    | error fault => exact ⟨_, .ownFault hfile htext⟩
  | false =>
    cases hpath : s.passwordFile with
    | none => exact ⟨_, .missing hfile hpath⟩
    | some path =>
      cases htext : w.readText path with
      | ok text => exact ⟨_, .common hfile hpath htext⟩
      | error fault => exact ⟨_, .commonFault hfile hpath htext⟩

theorem Resolves.eq {result : Except KeyFault String} (h : Resolves w s middle result) :
    passwordOf w s (containerName middle) = result := by
  have hsidecar :
      Path.join s.sidecarDirectory (sidecarName (containerName middle)) = s.sidecar middle := by
    rw [sidecarName_containerName]
    rfl
  unfold passwordOf readPassword
  rw [hsidecar]
  cases h with
  | own hfile htext => simp only [hfile, htext, if_true]
  | ownFault hfile hfault => simp only [hfile, hfault, if_true]
  | common hfile hpath htext => simp only [hfile, hpath, htext, Bool.false_eq_true, if_false]
  | commonFault hfile hpath hfault => simp only [hfile, hpath, hfault, Bool.false_eq_true, if_false]
  | missing hfile hpath => simp only [hfile, hpath, Bool.false_eq_true, if_false]

/-- **The search looks passwords up as described.** -/
theorem resolves_iff {result : Except KeyFault String} :
    Resolves w s middle result ↔ passwordOf w s (containerName middle) = result := by
  constructor
  · exact Resolves.eq
  · rintro rfl
    obtain ⟨result, h⟩ := exists_resolves w s middle
    rw [h.eq]
    exact h

theorem mem_containerNames_iff (hlist : w.list s.directory = .ok entries) {name : String} :
    name ∈ containerNames w s.directory entries ↔
      ∃ middle, name = containerName middle ∧ Listed w s middle := by
  rw [mem_containerNames, isContainerName_iff]
  constructor
  · rintro ⟨hentry, ⟨middle, rfl⟩, hfile⟩
    exact ⟨middle, rfl, ⟨entries, hlist, hentry⟩, hfile⟩
  · rintro ⟨middle, rfl, ⟨entries', hlist', hentry⟩, hfile⟩
    cases hlist.symm.trans hlist'
    exact ⟨hentry, ⟨middle, rfl⟩, hfile⟩

/-- **What the search depends on**: the files that there are, and the passwords of the containers. -/
theorem lockedFiles_congr {same : List String → Bytes → Bytes → Prop} (h : w.Alike same w')
    (hdirectory : s'.directory = s.directory)
    (hpassword : ∀ middle, Listed w s middle →
      passwordOf w' s' (containerName middle) = passwordOf w s (containerName middle)) :
    lockedFiles w' s' = lockedFiles w s := by
  rw [lockedFiles_eq, lockedFiles_eq, hdirectory]
  rcases h.list_cases s.directory with ⟨fault, hlist, hlist'⟩ |
    ⟨entries, entries', hlist, hlist', hperm⟩
  · rw [hlist, hlist']
  · rw [hlist, hlist']
    show resolve _ _ _ = resolve _ _ _
    rw [containerNames_of_perm hperm h.isFile_eq]
    refine resolve_congr ?_
    intro name hname
    obtain ⟨middle, rfl, hlisted⟩ := (mem_containerNames_iff hlist).mp hname
    exact hpassword middle hlisted

/-- The names of the containers of a directory are strictly in ascending order. -/
theorem strict_containerNames (hnodup : entries.Nodup) (directory : String) :
    (containerNames w directory entries).Pairwise (· < ·) := by
  have hdistinct : (containerNames w directory entries).Nodup :=
    (List.mergeSort_perm _ _).nodup_iff.mpr (hnodup.filter _)
  refine ((pairwise_containerNames w directory entries).and hdistinct).imp ?_
  rintro a b ⟨hle, hne⟩
  exact String.not_le.mp fun hge => hne (String.le_antisymm hle hge)

end Search

/-! ## What is found -/

/-- The text files with passwords of containers say the same. -/
def SameSidecars (w : Workspace) (s : Source) (place : List String) (content content' : Bytes) :
    Prop :=
  (∃ middle t, Listed w s middle ∧ w.locate (s.sidecar middle) = .ok (place, t)) →
    content = content'

/-- What a search ends with, and what has no say in it. -/
structure Discovery (w : Workspace) (s : Source) : Prop where
  /-- Neither this directory nor any other need be listed in the same order. -/
  order : ∀ w', w.Alike (fun _ content content' => content = content') w' →
    lockedFiles w' s = lockedFiles w s
  /-- A search ends well with all containers, each once and in ascending order of the names, if each of
      them has a password. -/
  accepted : ∀ fs, lockedFiles w s = .ok fs ↔
    fs.Pairwise (fun f g => f.name < g.name) ∧
    (∀ name, name ∈ fs.map (·.name) ↔ ∃ middle, name = containerName middle ∧ Listed w s middle) ∧
    ∀ f ∈ fs, f.path = Path.join s.directory f.name ∧
      ∀ middle, f.name = containerName middle → Resolves w s middle (.ok f.password)
  /-- Else it ends with what the first container without one gets. -/
  refused : ∀ fault, lockedFiles w s = .error fault ↔
    ∃ middle, Listed w s middle ∧ Resolves w s middle (.error fault) ∧
      ∀ earlier, Listed w s earlier → containerName earlier < containerName middle →
        ∃ password, Resolves w s earlier (.ok password)
  /-- If each container has a text file of its own, no other file's text has a say, and neither has the
      name of the common password file. -/
  frame : (∀ middle, Listed w s middle → w.isFile (s.sidecar middle) = true) →
    ∀ w' path, w.Alike (SameSidecars w s) w' →
      lockedFiles w' { s with passwordFile := path } = lockedFiles w s

section Discovering

variable {w w' : Workspace} {s : Source} {entries : List String} {fs : List LockedFile}
  {fault : KeyFault}

theorem lockedFiles_of_reordered
    (h : w.Alike (fun _ content content' => content = content') w') :
    lockedFiles w' s = lockedFiles w s := by
  refine lockedFiles_congr h rfl ?_
  intro middle _
  have hread : ∀ path, w'.readText path = w.readText path := by
    intro path
    refine h.readText_eq ?_
    intro place content content' _ hsame
    exact hsame
  unfold passwordOf readPassword
  simp only [h.isFile_eq, hread]

theorem lockedFiles_of_sidecars
    (hall : ∀ middle, Listed w s middle → w.isFile (s.sidecar middle) = true) (path : Option String)
    (h : w.Alike (SameSidecars w s) w') :
    lockedFiles w' { s with passwordFile := path } = lockedFiles w s := by
  refine lockedFiles_congr h rfl ?_
  intro middle hlisted
  have hfile := hall middle hlisted
  have hfile' : w'.isFile (s.sidecar middle) = true := by rw [h.isFile_eq, hfile]
  have hread : w'.readText (s.sidecar middle) = w.readText (s.sidecar middle) := by
    refine h.readText_eq ?_
    intro place content content' hplace hsame
    exact hsame ⟨middle, _, hlisted, hplace⟩
  have hresolves : Resolves w s middle (passwordOf w s (containerName middle)) :=
    resolves_iff.mpr rfl
  -- The same rule gives the password there, and it is not one that needs the common file.
  refine resolves_iff.mp ?_
  generalize passwordOf w s (containerName middle) = result at hresolves
  cases hresolves with
  | own _ htext => exact .own hfile' (hread.trans htext)
  | ownFault _ hfault =>
    exact .ownFault (s := { s with passwordFile := path }) hfile' (hread.trans hfault)
  | common hnone => cases hfile.symm.trans hnone
  | commonFault hnone => cases hfile.symm.trans hnone
  | missing hnone => cases hfile.symm.trans hnone

theorem lockedFiles_eq_ok_iff (hlist : w.list s.directory = .ok entries) (hnodup : entries.Nodup) :
    lockedFiles w s = .ok fs ↔
      fs.Pairwise (fun f g => f.name < g.name) ∧
      (∀ name, name ∈ fs.map (·.name) ↔ ∃ middle, name = containerName middle ∧ Listed w s middle) ∧
      ∀ f ∈ fs, f.path = Path.join s.directory f.name ∧
        ∀ middle, f.name = containerName middle → Resolves w s middle (.ok f.password) := by
  have hstrict := strict_containerNames (w := w) hnodup s.directory
  have hmem : ∀ name, name ∈ containerNames w s.directory entries ↔ _ :=
    fun name => mem_containerNames_iff hlist
  rw [lockedFiles_eq, hlist]
  show resolve _ _ _ = _ ↔ _
  rw [resolve_eq_ok_iff]
  constructor
  · rintro ⟨hnames, hfiles⟩
    rw [← hnames] at hstrict hmem
    refine ⟨List.pairwise_map.mp hstrict, hmem, ?_⟩
    intro f hf
    obtain ⟨hpath, hpassword⟩ := hfiles f hf
    refine ⟨hpath, ?_⟩
    intro middle hname
    rw [hname] at hpassword
    exact resolves_iff.mpr hpassword
  · rintro ⟨hsorted, hnames, hfiles⟩
    have hascending := List.pairwise_map.mpr hsorted
    have hdistinct : ∀ {names : List String}, names.Pairwise (· < ·) → names.Nodup := by
      intro names h
      refine h.imp ?_
      rintro a b hlt rfl
      exact String.lt_irrefl a hlt
    constructor
    · -- Two strictly ascending lists of the same names are the same.
      refine List.Perm.eq_of_pairwise ?_ hascending hstrict ?_
      · intro a b _ _ hab hba
        exact absurd (String.lt_trans hab hba) (String.lt_irrefl a)
      · refine (List.perm_ext_iff_of_nodup (hdistinct hascending) (hdistinct hstrict)).mpr ?_
        intro name
        rw [hnames name, hmem name]
    · intro f hf
      obtain ⟨hpath, hresolves⟩ := hfiles f hf
      obtain ⟨middle, hname, -⟩ := (hnames f.name).mp (List.mem_map_of_mem hf)
      refine ⟨hpath, ?_⟩
      rw [hname]
      exact (hresolves middle hname).eq

theorem lockedFiles_eq_error_iff (hlist : w.list s.directory = .ok entries) (hnodup : entries.Nodup) :
    lockedFiles w s = .error fault ↔
      ∃ middle, Listed w s middle ∧ Resolves w s middle (.error fault) ∧
        ∀ earlier, Listed w s earlier → containerName earlier < containerName middle →
          ∃ password, Resolves w s earlier (.ok password) := by
  have hstrict := strict_containerNames (w := w) hnodup s.directory
  have hmem : ∀ name, name ∈ containerNames w s.directory entries ↔ _ :=
    fun name => mem_containerNames_iff hlist
  rw [lockedFiles_eq, hlist]
  show resolve _ _ _ = _ ↔ _
  rw [resolve_eq_error_iff]
  constructor
  · rintro ⟨before, name, after, hsplit, hfault, hbefore⟩
    rw [hsplit] at hstrict hmem
    obtain ⟨middle, rfl, hlisted⟩ := (hmem name).mp (by simp)
    refine ⟨middle, hlisted, resolves_iff.mpr hfault, ?_⟩
    intro earlier hearlier hlt
    have hafter := (List.pairwise_cons.mp (List.pairwise_append.mp hstrict).2.1).1
    -- A smaller name comes before this one.
    have hin : containerName earlier ∈ before := by
      rcases List.mem_append.mp ((hmem _).mpr ⟨earlier, rfl, hearlier⟩) with hin | hin
      · exact hin
      · rcases List.mem_cons.mp hin with heq | hin
        · exact absurd (heq ▸ hlt) (String.lt_irrefl _)
        · exact absurd (String.lt_trans hlt (hafter _ hin)) (String.lt_irrefl _)
    obtain ⟨password, hpassword⟩ := hbefore _ hin
    exact ⟨password, resolves_iff.mpr hpassword⟩
  · rintro ⟨middle, hlisted, hfault, hearlier⟩
    obtain ⟨before, after, hsplit⟩ := List.append_of_mem ((hmem _).mpr ⟨middle, rfl, hlisted⟩)
    refine ⟨before, _, after, hsplit, hfault.eq, ?_⟩
    intro name hname
    rw [hsplit] at hstrict hmem
    obtain ⟨earlier, rfl, hlisted'⟩ := (hmem name).mp (List.mem_append_left _ hname)
    have hlt := (List.pairwise_append.mp hstrict).2.2 _ hname _ List.mem_cons_self
    obtain ⟨password, hpassword⟩ := hearlier earlier hlisted' hlt
    exact ⟨password, hpassword.eq⟩

end Discovering

/-- **The containers of a directory and their passwords.** If the directory can be listed, and no name is
    in it twice, the search ends as described in `Discovery`; it fails at once if the directory cannot be
    listed. This is about names that are texts and entries that are files or directories: a name that is
    not UTF-8, which a listing gives with replacement characters in it, and a link have no snapshot. -/
theorem lockedFiles_discovery (w : Workspace) (s : Source) :
    (∀ fault, w.list s.directory = .error fault →
      lockedFiles w s = .error (.unreadable s.directory fault)) ∧
    ∀ entries, w.list s.directory = .ok entries → entries.Nodup → Discovery w s := by
  constructor
  · intro fault hlist
    rw [lockedFiles_eq, hlist]
  · intro entries hlist hnodup
    exact {
      order := fun w' h => lockedFiles_of_reordered h
      accepted := fun fs => lockedFiles_eq_ok_iff hlist hnodup
      refused := fun fault => lockedFiles_eq_error_iff hlist hnodup
      frame := fun hall w' path h => lockedFiles_of_sidecars hall path h }

/-! ### Directories with a common password file -/

/-- Its only container has a text file of its own. -/
def ownDirectory (common : Bytes) : Workspace :=
  ⟨.directory [("keystore-a.json", .file []), ("keystore-a.txt", .file [0x20, 0x70, 0x77, 0x0a]),
    ("password.txt", .file common)], []⟩

/-- The second of its containers has none. The third name is that of a directory. -/
def mixedEntries : List (String × FileTree) :=
  [("keystore-a.json", .file []), ("keystore-a.txt", .file [0x20, 0x70, 0x77, 0x0a]),
    ("keystore-b.json", .file []), ("keystore-c.json", .directory []), ("notes.json", .file []),
    ("password.txt", .file [0x63])]

/-- The common password is that of one file. -/
def commonSource : Source := ⟨".", none, some "password.txt", 1⟩

theorem eq_of_listed_ownDirectory {common : Bytes} {middle : String}
    (h : Listed (ownDirectory common) commonSource middle) : middle = "-a" := by
  obtain ⟨entries, hlist, hentry⟩ := h.entry
  have hall : (ownDirectory common).list commonSource.directory
      = .ok ["keystore-a.json", "keystore-a.txt", "password.txt"] := rfl
  cases hall.symm.trans hlist
  have hname : isContainerName (containerName middle) = true := isContainerName_iff.mpr ⟨middle, rfl⟩
  simp only [List.mem_cons, List.not_mem_nil, or_false] at hentry
  rcases hentry with heq | heq | heq
  · exact containerName_injective (heq.trans (by decide : _ = containerName "-a"))
  · rw [heq] at hname
    exact absurd hname (by decide)
  · rw [heq] at hname
    exact absurd hname (by decide)

/-- The text of the common file is not that of the container. -/
theorem alike_ownDirectory (common common' : Bytes) :
    (ownDirectory common).Alike (SameSidecars (ownDirectory common) commonSource)
      (ownDirectory common') := by
  refine ⟨rfl, .directory (List.Perm.refl _) ?_⟩
  intro name t t' h h'
  have hmem := FileTree.mem_of_entry h
  simp only [List.mem_cons, List.not_mem_nil, or_false, Prod.mk.injEq] at hmem
  rcases hmem with ⟨rfl, rfl⟩ | ⟨rfl, rfl⟩ | ⟨rfl, rfl⟩
  · cases h'
    exact .file fun _ => rfl
  · cases h'
    exact .file fun _ => rfl
  · cases h'
    refine .file ?_
    rintro ⟨middle, t, hlisted, hplace⟩
    have hown : (ownDirectory common).locate (commonSource.sidecar "-a")
        = .ok (["keystore-a.txt"], .file [0x20, 0x70, 0x77, 0x0a]) := rfl
    rw [eq_of_listed_ownDirectory hlisted] at hplace
    have hsame := (Prod.mk.inj (Except.ok.inj (hown.symm.trans hplace))).1
    exact absurd hsame (by decide)

/-- Listed backwards, the directory has the containers of the two files, with their passwords; without a
    common password file the second one gets none. Where no container needs it, the common file may say
    anything. -/
theorem lockedFiles_discovery_mixed :
    let w : Workspace := ⟨.directory mixedEntries, []⟩
    let turned : Workspace := ⟨.directory mixedEntries.reverse, []⟩
    let names := mixedEntries.map (·.1)
    w.list "." = .ok names ∧ names.Nodup ∧ turned.list "." = .ok names.reverse ∧
    lockedFiles turned commonSource = .ok [⟨"keystore-a.json", "./keystore-a.json", "pw"⟩,
      ⟨"keystore-b.json", "./keystore-b.json", "c"⟩] ∧
    lockedFiles turned { commonSource with passwordFile := none }
      = .error (.noPassword "keystore-b.json") ∧
    ∀ common path, lockedFiles (ownDirectory common) { commonSource with passwordFile := path }
      = lockedFiles (ownDirectory [0x63]) commonSource := by
  intro w turned names
  have hlist : w.list "." = .ok names := rfl
  have hnodup : names.Nodup := by decide
  have hturned : turned.list "." = .ok names.reverse := rfl
  have halike : w.Alike (fun _ content content' => content = content') turned :=
    ⟨rfl, .of_perm (fun _ _ => rfl) hnodup (List.reverse_perm _).symm⟩
  have hnames : containerNames w "." names = ["keystore-a.json", "keystore-b.json"] := by
    have hkept : (names.filter fun name =>
        isContainerName name && w.isFile (Path.join "." name))
          = ["keystore-a.json", "keystore-b.json"] := by decide +kernel
    rw [containerNames, hkept]
    exact List.mergeSort_of_pairwise (by decide +kernel)
  have hdirectory : commonSource.directory = "." := rfl
  refine ⟨hlist, hnodup, hturned, ?_, ?_, ?_⟩
  · rw [((lockedFiles_discovery w commonSource).2 names hlist hnodup).order turned halike,
      lockedFiles_eq]
    have hresolve : resolve "." (passwordOf w commonSource) ["keystore-a.json", "keystore-b.json"]
        = .ok [⟨"keystore-a.json", "./keystore-a.json", "pw"⟩,
          ⟨"keystore-b.json", "./keystore-b.json", "c"⟩] := by decide +kernel
    simp only [hdirectory, hlist, hnames, hresolve]
  · let s : Source := { commonSource with passwordFile := none }
    show lockedFiles turned s = _
    rw [((lockedFiles_discovery w s).2 names hlist hnodup).order turned halike, lockedFiles_eq]
    have hresolve : resolve "." (passwordOf w s) ["keystore-a.json", "keystore-b.json"]
        = .error (.noPassword "keystore-b.json") := by decide +kernel
    have hdirectory' : s.directory = "." := rfl
    simp only [hdirectory', hlist, hnames, hresolve]
  · intro common path
    have hown := (lockedFiles_discovery (ownDirectory [0x63]) commonSource).2 _ rfl (by decide)
    refine hown.frame ?_ (ownDirectory common) path (alike_ownDirectory _ _)
    intro middle hlisted
    rw [eq_of_listed_ownDirectory hlisted]
    decide +kernel

end Registrar.Keystore

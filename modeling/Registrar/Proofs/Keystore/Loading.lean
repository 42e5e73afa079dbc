import Mathlib.Data.List.Nodup
import Registrar.Curve.Scheme
import Registrar.Proofs.Keyed
import Registrar.Proofs.Keystore.Board
import Registrar.Proofs.Keystore.Resolving

/-!
# Loading is all or nothing

The keys of a directory are loaded if every container can be opened, and none is otherwise. Neither
the number of workers nor the order in which they finish has a say in it.

## Contents

- `Keyring.secret?_insert`;
- `ringOfFiles`, the ring of the keys out of files one after the other, with `secret?_ringOfFiles`;
- `Board.result_run_of_opened` and `Board.result_run_of_fault`: what a run leads to;
- `pairwise_lockedFiles` and `eq_of_name_eq`: the files of a directory are in order of their names, and
  a name stands for one of them;
- `load_eq_ok`, what a loaded ring is, and `load_all_or_nothing`.
-/

namespace Registrar.Keystore

/-! ## Rings -/

namespace Keyring

/-- **An inserted key is found, and the others are as before.** -/
theorem secret?_insert (r : Keyring) (publicKey k : String) (s : Scalar) :
    (r.insert publicKey s).secret? k = if publicKey = k then some s else r.secret? k := by
  unfold secret? insert
  rw [Keyed.find?_insert]
  split <;> rfl

end Keyring

section Files

variable (work : LockedFile → Except KeyFault (String × Scalar))

/-- The ring of the keys out of files, put in one after the other. -/
def ringOfFiles (fs : List LockedFile) : Keyring :=
  fs.foldl (fun ring f =>
    match work f with
    | .ok (publicKey, secret) => ring.insert publicKey secret
    | .error _ => ring) .empty

/-- The secret of a public key in a file, if it is the one of that file. -/
def secretOf (publicKey : String) (f : LockedFile) : Option Scalar :=
  match work f with
  | .ok (k, secret) => if k = publicKey then some secret else none
  | .error _ => none

variable {work} {fs : List LockedFile}

theorem secretOf_eq_some {publicKey : String} {f : LockedFile} {secret : Scalar} :
    secretOf work publicKey f = some secret ↔ work f = .ok (publicKey, secret) := by
  unfold secretOf
  cases hwork : work f with
  | error fault => simp
  | ok key =>
    obtain ⟨k, s⟩ := key
    by_cases hk : k = publicKey <;> simp [hk]

/-- **Of the files with one public key the last one counts.** -/
theorem secret?_ringOfFiles (publicKey : String) (fs : List LockedFile) :
    (ringOfFiles work fs).secret? publicKey = fs.reverse.findSome? (secretOf work publicKey) := by
  have hfold : ∀ (fs : List LockedFile) (ring : Keyring),
      (fs.foldl (fun ring f =>
        match work f with
        | .ok (publicKey, secret) => ring.insert publicKey secret
        | .error _ => ring) ring).secret? publicKey
      = (fs.reverse.findSome? (secretOf work publicKey)).or (ring.secret? publicKey) := by
    intro fs
    induction fs with
    | nil => exact fun ring => rfl
    | cons f fs ih =>
      intro ring
      rw [List.foldl_cons, ih, List.reverse_cons, List.findSome?_append, Option.or_assoc]
      congr 1
      cases hwork : work f with
      | error fault => simp [secretOf, hwork]
      | ok key =>
        obtain ⟨k, s⟩ := key
        by_cases hk : k = publicKey <;> simp [secretOf, hwork, Keyring.secret?_insert, hk]
  rw [ringOfFiles, hfold fs .empty]
  exact Option.or_none

/-! ## The order in which files come out -/

theorem keyOf_eq_some {f : Nat × LockedFile} {k : OpenedKey} (h : keyOf work f = some k) :
    k.position = f.1 := by
  unfold keyOf at h
  split at h
  · cases h
    rfl
  · cases h

/-- The keys in the order of the files are in the order of their places. -/
theorem pairwise_keys (work : LockedFile → Except KeyFault (String × Scalar))
    (fs : List LockedFile) :
    ((placed fs).filterMap (keyOf work)).Pairwise fun a b => a.position < b.position := by
  refine List.pairwise_filterMap.mpr ?_
  have hplaces : (placed fs).Pairwise fun a b => a.1 < b.1 := by
    refine List.pairwise_iff_getElem.mpr fun i j hi hj hij => ?_
    simpa [placed] using hij
  refine hplaces.imp fun hlt k hk k' hk' => ?_
  rw [keyOf_eq_some hk, keyOf_eq_some hk']
  exact hlt

/-- **The ring does not depend on the order in which the files came out.** -/
theorem ringOf_eq {opened : List OpenedKey}
    (h : opened.Perm ((placed fs).filterMap (keyOf work))) : ringOf opened = ringOfFiles work fs := by
  have hkeys := pairwise_keys work fs
  have hsorted : (opened.mergeSort fun a b => decide (a.position ≤ b.position))
      = (placed fs).filterMap (keyOf work) := by
    refine List.Perm.eq_of_pairwise ?_ (List.pairwise_mergeSort ?_ ?_ opened) ?_
      ((List.mergeSort_perm _ _).trans h)
    · -- No two keys have one place.
      intro a b ha hb hab hba
      have ha' := h.mem_iff.mp ((List.mergeSort_perm _ _).mem_iff.mp ha)
      have hplaces : (((placed fs).filterMap (keyOf work)).map (·.position)).Nodup :=
        List.pairwise_map.mpr (hkeys.imp Nat.ne_of_lt)
      have hsame := Nat.le_antisymm (of_decide_eq_true hab) (of_decide_eq_true hba)
      exact List.inj_on_of_nodup_map hplaces ha' hb hsame
    · intro a b c hab hbc
      exact decide_eq_true (Nat.le_trans (of_decide_eq_true hab) (of_decide_eq_true hbc))
    · intro a b
      rw [Bool.or_eq_true, decide_eq_true_eq, decide_eq_true_eq]
      exact Nat.le_total _ _
    · exact hkeys.imp fun hlt => decide_eq_true (Nat.le_of_lt hlt)
  rw [ringOf, hsorted, List.foldl_filterMap]
  conv_rhs => rw [ringOfFiles, ← map_snd_placed fs, List.foldl_map]
  congr 1
  funext ring f
  unfold keyOf
  cases work f.2 <;> rfl

/-! ## What a run leads to -/

variable {pool : Nat} {schedule : Schedule}

/-- **If every file can be opened, the run leads to the ring of all keys.** -/
theorem Board.result_run_of_opened (h : ∀ f ∈ fs, ∃ key, work f = .ok key) :
    ((start fs).run work pool schedule).result fs.length = .ok (ringOfFiles work fs) := by
  obtain ⟨done, hsound, hend⟩ := exists_sound_run schedule (Sound.start work pool fs)
  have hfaults : ((start fs).run work pool schedule).faults = [] := by
    rw [hsound.faults_eq, List.filterMap_eq_nil_iff]
    intro f hf
    obtain ⟨key, hkey⟩ := h f.2 (hsound.mem_of_mem_done hf)
    simp only [faultOf, hkey]
  have hopened := (hsound.done_perm hend hfaults).filterMap (keyOf work)
  rw [← hsound.opened_eq] at hopened
  rw [Board.result, hfaults, List.isEmpty_nil, if_pos rfl, ringOf_eq hopened]

/-- **If some file cannot be opened, the run leads to faults of files and to no key.** -/
theorem Board.result_run_of_fault (h : ∃ f ∈ fs, ∃ fault, work f = .error fault) :
    ∃ dispatched faults,
      ((start fs).run work pool schedule).result fs.length
        = .error (.failed dispatched fs.length faults) ∧
      faults ≠ [] ∧ ∀ fault ∈ faults, ∃ f ∈ fs, work f = .error fault := by
  obtain ⟨done, hsound, hend⟩ := exists_sound_run schedule (Sound.start work pool fs)
  have hfaults : ((start fs).run work pool schedule).faults ≠ [] := by
    intro hnone
    -- Without a fault all files came out, and with them the fault of this one.
    obtain ⟨f, hf, fault, hfault⟩ := h
    rw [← map_snd_placed fs] at hf
    obtain ⟨g, hg, rfl⟩ := List.mem_map.mp hf
    have hdone : g ∈ done := (hsound.done_perm hend hnone).mem_iff.mpr hg
    rw [hsound.faults_eq] at hnone
    have hg' := List.filterMap_eq_nil_iff.mp hnone g hdone
    simp only [faultOf, hfault] at hg'
    cases hg'
  let b := (start fs).run work pool schedule
  refine ⟨b.dispatched, b.faults, ?_, hfaults, ?_⟩
  · rw [Board.result, List.isEmpty_eq_false_iff.mpr hfaults, if_neg Bool.false_ne_true]
  · intro fault hfault
    rw [hsound.faults_eq] at hfault
    obtain ⟨f, hf, hwork⟩ := List.mem_filterMap.mp hfault
    refine ⟨f.2, hsound.mem_of_mem_done hf, ?_⟩
    unfold faultOf at hwork
    split at hwork
    · cases hwork
    · next found hfound =>
      cases hwork
      exact hfound

end Files

/-! ## The files of a directory -/

variable {files : Workspace} {s : Source} {fs : List LockedFile}

theorem lockedFiles_eq_ok (h : lockedFiles files s = .ok fs) :
    ∃ entries, files.list s.directory = .ok entries ∧
      resolve s.directory (passwordOf files s) (containerNames files s.directory entries)
        = .ok fs := by
  rw [lockedFiles_eq] at h
  split at h
  · cases h
  · next entries hentries => exact ⟨entries, hentries, h⟩

/-- **The files of a directory are in order of their names.** -/
theorem pairwise_lockedFiles (h : lockedFiles files s = .ok fs) :
    fs.Pairwise fun f g => f.name ≤ g.name := by
  obtain ⟨entries, -, hresolve⟩ := lockedFiles_eq_ok h
  obtain ⟨hnames, -⟩ := resolve_eq_ok_iff.mp hresolve
  rw [← List.pairwise_map, hnames]
  exact pairwise_containerNames ..

/-- A name stands for one file. -/
theorem eq_of_name_eq (h : lockedFiles files s = .ok fs) {f g : LockedFile} (hf : f ∈ fs) (hg : g ∈ fs)
    (hname : f.name = g.name) : f = g := by
  obtain ⟨entries, -, hresolve⟩ := lockedFiles_eq_ok h
  obtain ⟨-, hfiles⟩ := resolve_eq_ok_iff.mp hresolve
  obtain ⟨hpath, hpassword⟩ := hfiles f hf
  obtain ⟨hpath', hpassword'⟩ := hfiles g hg
  rw [hname] at hpath hpassword
  have hsame : f.password = g.password := Except.ok.inj (hpassword.symm.trans hpassword')
  cases f
  cases g
  simp_all

theorem lockedFiles_poolSize (files : Workspace) (s : Source) (pool : Nat) :
    lockedFiles files { s with poolSize := pool } = lockedFiles files s := by
  rw [lockedFiles_eq, lockedFiles_eq]
  rfl

section

variable {work : LockedFile → Except KeyFault (String × Scalar)} {publicKey : String} {secret : Scalar}

theorem exists_of_secret?_ringOfFiles (h : lockedFiles files s = .ok fs)
    (hsecret : (ringOfFiles work fs).secret? publicKey = some secret) :
    ∃ f ∈ fs, work f = .ok (publicKey, secret) ∧
      ∀ g ∈ fs, f.name < g.name → ∀ other, work g ≠ .ok (publicKey, other) := by
  rw [secret?_ringOfFiles] at hsecret
  obtain ⟨later, f, earlier, hfs, hf, hlater⟩ := List.findSome?_eq_some_iff.mp hsecret
  have hfs' : fs = earlier.reverse ++ f :: later.reverse := by
    rw [← List.reverse_reverse fs, hfs]
    simp
  refine ⟨f, by simp [hfs'], secretOf_eq_some.mp hf, ?_⟩
  intro g hg hlt other hother
  have hsome := secretOf_eq_some.mpr hother
  have hnames := pairwise_lockedFiles h
  rw [hfs', List.pairwise_append] at hnames
  rw [hfs', List.mem_append, List.mem_cons] at hg
  rcases hg with hg | rfl | hg
  · exact String.not_lt.mpr (hnames.2.2 g hg f List.mem_cons_self) hlt
  · exact String.lt_irrefl _ hlt
  · rw [hlater g (List.mem_reverse.mp hg)] at hsome
    cases hsome

/-- **A key of the ring is that of the file with the last name among those with its public key.** -/
theorem secret?_ringOfFiles_iff (h : lockedFiles files s = .ok fs) :
    (ringOfFiles work fs).secret? publicKey = some secret ↔
      ∃ f ∈ fs, work f = .ok (publicKey, secret) ∧
        ∀ g ∈ fs, f.name < g.name → ∀ other, work g ≠ .ok (publicKey, other) := by
  refine ⟨exists_of_secret?_ringOfFiles h, ?_⟩
  rintro ⟨f, hf, hwork, hlast⟩
  have hfound : ((ringOfFiles work fs).secret? publicKey).isSome := by
    rw [secret?_ringOfFiles, List.findSome?_isSome_iff]
    exact ⟨f, List.mem_reverse.mpr hf, by rw [secretOf_eq_some.mpr hwork]; rfl⟩
  obtain ⟨found, hsecret⟩ := Option.isSome_iff_exists.mp hfound
  obtain ⟨g, hg, hwork', hlast'⟩ := exists_of_secret?_ringOfFiles h hsecret
  have hname : f.name = g.name := by
    apply String.le_antisymm
    · exact String.not_lt.mp fun hlt => hlast' f hf hlt secret hwork
    · exact String.not_lt.mp fun hlt => hlast g hg hlt found hwork'
  cases eq_of_name_eq h hf hg hname
  cases hwork.symm.trans hwork'
  exact hsecret

end

/-! ## Loading -/

variable {G : Type} [SignatureScheme G]

/-- A container that its password opens gives its key. -/
theorem openFile_of_decrypt {f : LockedFile} {text : String} {c : Container} {bytes : Bytes}
    {secret : Scalar} (hread : files.readText f.path = .ok text) (htext : Container.ofText text = .ok c)
    (hopen : c.decrypt f.password = .ok bytes) (hsecret : Scalar.secret? bytes = some secret) :
    openFile G files f = .ok (Exit.publicKeyText G secret, secret) := by
  simp only [openFile, hread, htext, hopen, hsecret]

/-- If every container can be opened, the ring of all keys is loaded. -/
theorem load_of_opened (h : lockedFiles files s = .ok fs)
    (hopen : ∀ f ∈ fs, ∃ key, openFile G files f = .ok key) (pool : Nat) (schedule : Schedule) :
    load G files { s with poolSize := pool } schedule
      = .ok (ringOfFiles (openFile G files) fs) := by
  simp only [load, lockedFiles_poolSize, h]
  exact Board.result_run_of_opened hopen

/-- If some container cannot be opened, there are faults and no ring. -/
theorem load_of_fault (h : lockedFiles files s = .ok fs)
    (hfault : ∃ f ∈ fs, ∃ fault, openFile G files f = .error fault) (pool : Nat)
    (schedule : Schedule) :
    ∃ dispatched faults, load G files { s with poolSize := pool } schedule
        = .error (.failed dispatched fs.length faults) ∧
      faults ≠ [] ∧ ∀ fault ∈ faults, ∃ f ∈ fs, openFile G files f = .error fault := by
  simp only [load, lockedFiles_poolSize, h]
  exact Board.result_run_of_fault hfault

/-- **A ring is loaded from the files of a directory, all of which can be opened.** -/
theorem load_eq_ok {schedule : Schedule} {ring : Keyring} (h : load G files s schedule = .ok ring) :
    ∃ fs, lockedFiles files s = .ok fs ∧ (∀ f ∈ fs, ∃ key, openFile G files f = .ok key) ∧
      ring = ringOfFiles (openFile G files) fs := by
  cases hfs : lockedFiles files s with
  | error fault =>
    rw [load, hfs] at h
    cases h
  | ok fs =>
    by_cases hopen : ∀ f ∈ fs, ∃ key, openFile G files f = .ok key
    · have hload := load_of_opened hfs hopen s.poolSize schedule
      exact ⟨fs, rfl, hopen, Except.ok.inj (h.symm.trans hload)⟩
    · have hclosed : ∃ f ∈ fs, ∃ fault, openFile G files f = .error fault := by
        obtain ⟨f, hf, hnone⟩ : ∃ f ∈ fs, ∀ key, openFile G files f ≠ .ok key := by
          simpa only [not_forall, not_exists, exists_prop] using hopen
        cases hwork : openFile G files f with
        | ok key => exact absurd hwork (hnone key)
        | error fault => exact ⟨f, hf, fault, hwork⟩
      obtain ⟨dispatched, faults, hfault, -⟩ := load_of_fault hfs hclosed s.poolSize schedule
      cases hfault.symm.trans h

/-- **Loading is all or nothing, and does not depend on the schedule.** If every container of a
    directory can be opened, one and the same ring is loaded with any number of workers, none included,
    and in any order in which they finish: the keys of all containers, where of those with one public
    key the container with the last name counts. Otherwise no ring is loaded, and there are faults,
    each of them of a container. -/
theorem load_all_or_nothing (h : lockedFiles files s = .ok fs) :
    ((∀ f ∈ fs, ∃ key, openFile G files f = .ok key) → ∃ ring,
      (∀ pool schedule, load G files { s with poolSize := pool } schedule = .ok ring) ∧
      ∀ publicKey secret, ring.secret? publicKey = some secret ↔
        ∃ f ∈ fs, openFile G files f = .ok (publicKey, secret) ∧
          ∀ g ∈ fs, f.name < g.name → ∀ other, openFile G files g ≠ .ok (publicKey, other)) ∧
    ((¬ ∀ f ∈ fs, ∃ key, openFile G files f = .ok key) →
      ∀ pool schedule, ∃ dispatched faults,
        load G files { s with poolSize := pool } schedule
          = .error (.failed dispatched fs.length faults) ∧
        faults ≠ [] ∧ ∀ fault ∈ faults, ∃ f ∈ fs, openFile G files f = .error fault) := by
  constructor
  · intro hopen
    refine ⟨ringOfFiles (openFile G files) fs, load_of_opened h hopen, ?_⟩
    intro publicKey secret
    exact secret?_ringOfFiles_iff h
  · intro hclosed
    obtain ⟨f, hf, hnone⟩ : ∃ f ∈ fs, ∀ key, openFile G files f ≠ .ok key := by
      simpa only [not_forall, not_exists, exists_prop] using hclosed
    apply load_of_fault h
    cases hwork : openFile G files f with
    | ok key => exact absurd hwork (hnone key)
    | error fault => exact ⟨f, hf, fault, hwork⟩

/-- Of two containers with a common password one is empty, so that no schedule loads a ring. -/
theorem load_all_or_nothing_corrupted :
    let files : Workspace := ⟨.directory [("keystore-a.json", .file [0x7b, 0x7d]),
      ("keystore-b.json", .file []), ("password.txt", .file [0x70, 0x77, 0x0a])], []⟩
    let s : Source := ⟨".", none, some "password.txt", 0⟩
    let corrupted : LockedFile := ⟨"keystore-b.json", "./keystore-b.json", "pw"⟩
    let fs : List LockedFile := [⟨"keystore-a.json", "./keystore-a.json", "pw"⟩, corrupted]
    lockedFiles files s = .ok fs ∧
      (∀ key, openFile Curve.Signatures files corrupted ≠ .ok key) ∧
      ∀ pool schedule, ∃ dispatched faults,
        load Curve.Signatures files { s with poolSize := pool } schedule
          = .error (.failed dispatched fs.length faults) ∧
        faults ≠ [] ∧
        ∀ fault ∈ faults, ∃ f ∈ fs, openFile Curve.Signatures files f = .error fault := by
  intro files s corrupted fs
  have hlist : files.list s.directory
      = .ok ["keystore-a.json", "keystore-b.json", "password.txt"] := by decide +kernel
  have hnames : containerNames files s.directory
      ["keystore-a.json", "keystore-b.json", "password.txt"]
        = ["keystore-a.json", "keystore-b.json"] := by
    have hkept : (["keystore-a.json", "keystore-b.json", "password.txt"].filter fun name =>
        isContainerName name && files.isFile (Path.join s.directory name))
          = ["keystore-a.json", "keystore-b.json"] := by decide +kernel
    rw [containerNames, hkept]
    exact List.mergeSort_of_pairwise (by decide +kernel)
  have hresolve : resolve s.directory (passwordOf files s) ["keystore-a.json", "keystore-b.json"]
      = .ok fs := by decide +kernel
  have hfs : lockedFiles files s = .ok fs := by
    simp only [lockedFiles_eq, hlist, hnames, hresolve]
  have hclosed : ∀ key, openFile Curve.Signatures files corrupted ≠ .ok key := by
    intro key hkey
    have hnone : (openFile Curve.Signatures files corrupted).toOption = none := by decide +kernel
    rw [hkey] at hnone
    cases hnone
  refine ⟨hfs, hclosed, (load_all_or_nothing hfs).2 fun hopen => ?_⟩
  obtain ⟨key, hkey⟩ := hopen corrupted (List.mem_cons_of_mem _ List.mem_cons_self)
  exact hclosed key hkey

end Registrar.Keystore

import Mathlib.Logic.Relation
import Registrar.Proofs.Curve.Scalar
import Registrar.Proofs.Keystore.Container
import Registrar.Proofs.Keystore.Loading

/-!
# The pool of workers

What holds of the board at every moment of the work, whichever of the running workers finishes next: no
more of them run than the pool allows, the files are started in their order, and none is started after a
fault is known. At the end every file that was started has come out, and no fault of one was lost.

## Contents

- `Board.Follows`, one step with any worker finishing, with `follows_iff`, and `Board.Reaches`;
- `Board.Sound.of_reaches`, what every board keeps that can be reached, with `Sound.dispatched_eq`;
- `dispatched_eq_of_reaches`: nothing is started after a fault;
- `Board.InTurn`, what a single worker keeps, with `InTurn.of_reaches`;
- `Board.Sound.faults_perm` and `Board.Sound.single`: how the work ends;
- `load_pool`.
-/

namespace Registrar.Keystore

variable (work : LockedFile → Except KeyFault (String × Scalar))

namespace Board

/-! ## Reaching a board -/

/-- One step, after which the worker finishes that any schedule picks. -/
def Follows (pool : Nat) (b c : Board) : Prop :=
  ∃ schedule, b.next? work pool schedule = some c

/-- Any number of steps. -/
def Reaches (pool : Nat) : Board → Board → Prop := Relation.ReflTransGen (Follows work pool)

variable {work} {pool : Nat} {schedule : Schedule} {fs : List LockedFile}
  {done : List (Nat × LockedFile)} {b c : Board}

/-- **What a step can be**: a file is started if one may be; otherwise any of the running workers
    finishes. -/
theorem follows_iff : b.Follows work pool c ↔
    (b.mayDispatch pool = true ∧ c = b.dispatch) ∨
      (b.mayDispatch pool = false ∧ ∃ i < b.running.length, c = b.join work i) := by
  constructor
  · rintro ⟨schedule, hstep⟩
    unfold next? at hstep
    split at hstep
    · next hmay => exact .inl ⟨hmay, (Option.some.inj hstep).symm⟩
    next hmay =>
    split at hstep
    · cases hstep
    next hbusy =>
    have hpos : 0 < b.running.length := List.length_pos_iff.mpr (by simpa using hbusy)
    refine .inr ⟨by simpa using hmay, _, Nat.mod_lt _ hpos, (Option.some.inj hstep).symm⟩
  · rintro (⟨hmay, rfl⟩ | ⟨hmay, i, hi, rfl⟩)
    · refine ⟨fun _ => 0, ?_⟩
      rw [next?, if_pos hmay]
    · -- The schedule that picks this worker.
      refine ⟨fun _ => i, ?_⟩
      have hbusy : b.running.isEmpty ≠ true := by
        rw [ne_eq, List.isEmpty_iff]
        exact List.ne_nil_of_length_pos (Nat.zero_lt_of_lt hi)
      rw [next?, if_neg (by rw [hmay]; exact Bool.false_ne_true), if_neg hbusy, Nat.mod_eq_of_lt hi]

/-- A run goes through boards that can be reached. -/
theorem reaches_run (b : Board) : b.Reaches work pool (b.run work pool schedule) := by
  fun_induction Board.run work pool schedule b with
  | case1 b hend => exact .refl
  | case2 b c hstep ih => exact ih.head ⟨schedule, hstep⟩

/-- **What every board keeps that can be reached.** -/
theorem Sound.of_reaches (h : Sound work pool fs done b) (hreach : b.Reaches work pool c) :
    ∃ done', Sound work pool fs done' c := by
  induction hreach with
  | refl => exact ⟨done, h⟩
  | tail _ hstep ih =>
    obtain ⟨done', h'⟩ := ih
    obtain ⟨schedule, hstep⟩ := hstep
    exact h'.next? hstep

/-! ## Counting -/

/-- A file that is done gave a key or a fault. -/
theorem length_filterMap_add (done : List (Nat × LockedFile)) :
    (done.filterMap (keyOf work)).length + (done.filterMap (faultOf work)).length = done.length := by
  induction done with
  | nil => rfl
  | cons f done ih =>
    cases hwork : work f.2 with
    | ok key =>
      obtain ⟨publicKey, secret⟩ := key
      simp only [List.filterMap_cons, keyOf, faultOf, hwork, List.length_cons]
      omega
    | error fault =>
      simp only [List.filterMap_cons, keyOf, faultOf, hwork, List.length_cons]
      omega

theorem Sound.length_done (h : Sound work pool fs done b) : done.length = b.finished := by
  rw [finished, h.opened_eq, h.faults_eq, length_filterMap_add]

/-- **Every file that was started runs or has finished.** -/
theorem Sound.dispatched_eq (h : Sound work pool fs done b) :
    b.dispatched = b.running.length + b.finished := by
  have hlength := h.started.length_eq
  have hle := h.dispatched_le
  rw [← length_placed fs] at hle
  rw [List.length_append, List.length_take, h.length_done, Nat.min_eq_left hle] at hlength
  omega

/-! ## After a fault -/

theorem not_mayDispatch_of_faults (hfaults : b.faults ≠ []) : b.mayDispatch pool = false := by
  have hempty : b.faults.isEmpty = false := List.isEmpty_eq_false_iff.mpr hfaults
  simp only [mayDispatch, hempty, Bool.false_and]

theorem dispatched_join (i : Nat) : (b.join work i).dispatched = b.dispatched := by
  unfold join
  split
  · rfl
  · unfold receive
    split <;> rfl

/-- A fault that is known stays known. -/
theorem faults_prefix_join (i : Nat) : b.faults <+: (b.join work i).faults := by
  unfold join
  split
  · exact List.prefix_rfl
  · unfold receive
    split
    · exact List.prefix_rfl
    · exact List.prefix_append _ _

/-- **Nothing is started after a fault is known.** -/
theorem dispatched_eq_of_reaches (hfaults : b.faults ≠ []) (hreach : b.Reaches work pool c) :
    c.dispatched = b.dispatched := by
  suffices hkept : c.faults ≠ [] ∧ c.dispatched = b.dispatched from hkept.2
  induction hreach with
  | refl => exact ⟨hfaults, rfl⟩
  | @tail d c _ hstep ih =>
    obtain ⟨hknown, hsame⟩ := ih
    rcases follows_iff.mp hstep with ⟨hmay, -⟩ | ⟨-, i, -, rfl⟩
    · rw [not_mayDispatch_of_faults hknown] at hmay
      cases hmay
    · refine ⟨fun hnone => hknown ?_, (dispatched_join i).trans hsame⟩
      have hprefix : d.faults <+: (d.join work i).faults := faults_prefix_join i
      rw [hnone] at hprefix
      exact List.prefix_nil.mp hprefix

/-! ## A single worker -/

/-- With one worker each file is opened before the next one is started. -/
def InTurn (work : LockedFile → Except KeyFault (String × Scalar)) (fs : List LockedFile)
    (b : Board) : Prop :=
  ∀ f ∈ (placed fs).take (b.dispatched - 1), ∃ key, work f.2 = .ok key

theorem InTurn.start : InTurn work fs (start fs) := by
  intro f hf
  cases hf

/-- Without a fault every file that is done was opened. -/
theorem Sound.exists_key_of_done (h : Sound work pool fs done b) (hnone : b.faults = [])
    {f : Nat × LockedFile} (hf : f ∈ done) : ∃ key, work f.2 = .ok key := by
  rw [h.faults_eq] at hnone
  have hopened := List.filterMap_eq_nil_iff.mp hnone f hf
  cases hwork : work f.2 with
  | ok key => exact ⟨key, rfl⟩
  | error fault =>
    simp only [faultOf, hwork] at hopened
    cases hopened

/-- **What a step of a single worker keeps.** A file is started when nothing runs and no fault is known,
    so that all the files before it are done. -/
theorem InTurn.follows (hone : pool ≤ 1) (hsound : Sound work pool fs done b)
    (h : InTurn work fs b) (hstep : b.Follows work pool c) : InTurn work fs c := by
  rcases follows_iff.mp hstep with ⟨hmay, rfl⟩ | ⟨-, i, -, rfl⟩
  · have hmay' := hmay
    simp only [mayDispatch, Bool.and_eq_true, decide_eq_true_eq, List.isEmpty_iff] at hmay'
    obtain ⟨⟨hnone, hfree⟩, -⟩ := hmay'
    have hidle : b.running = [] := List.length_eq_zero_iff.mp (by omega)
    have hdone : done.Perm ((placed fs).take b.dispatched) := by
      have hstarted := hsound.started
      rwa [hidle, List.append_nil] at hstarted
    intro f hf
    have hle : b.dispatch.dispatched - 1 ≤ b.dispatched := by
      unfold dispatch
      split
      · exact Nat.sub_le _ _
      · exact Nat.le_refl _
    have hf' : f ∈ (placed fs).take b.dispatched := List.take_subset_take_left _ hle hf
    exact hsound.exists_key_of_done hnone (hdone.mem_iff.mpr hf')
  · intro f hf
    rw [dispatched_join] at hf
    exact h f hf

theorem InTurn.of_reaches (hone : pool ≤ 1) (hreach : (Board.start fs).Reaches work pool b) :
    InTurn work fs b := by
  induction hreach with
  | refl => exact InTurn.start
  | tail hreach hstep ih =>
    obtain ⟨done, hsound⟩ := (Sound.start work pool fs).of_reaches hreach
    exact ih.follows hone hsound hstep

/-! ## The end -/

/-- At the end all files that were started are done. -/
theorem Sound.done_perm_take (h : Sound work pool fs done b)
    (hend : b.next? work pool schedule = none) : done.Perm ((placed fs).take b.dispatched) := by
  have hstarted := h.started
  rwa [(next?_eq_none hend).1, List.append_nil] at hstarted

/-- **At the end every file that was started and cannot be opened gave its fault**, and nothing else gave
    one. -/
theorem Sound.faults_perm (h : Sound work pool fs done b)
    (hend : b.next? work pool schedule = none) :
    b.faults.Perm (((placed fs).take b.dispatched).filterMap (faultOf work)) := by
  rw [h.faults_eq]
  exact (h.done_perm_take hend).filterMap _

/-- At the end all files were started, unless there is a fault. -/
theorem Sound.dispatched_eq_length (h : Sound work pool fs done b)
    (hend : b.next? work pool schedule = none) (hnone : b.faults = []) : b.dispatched = fs.length := by
  have hdone := (h.done_perm hend hnone).length_eq
  have htaken := (h.done_perm_take hend).length_eq
  have hle := h.dispatched_le
  rw [← length_placed fs] at hle ⊢
  rw [List.length_take] at htaken
  omega

/-- A single worker starts no file after one that cannot be opened. -/
theorem InTurn.dispatched_le (hturn : InTurn work fs b) {i : Nat} {f : LockedFile} {fault : KeyFault}
    (hplaced : (placed fs)[i]? = some (i, f)) (hfault : work f = .error fault) :
    b.dispatched ≤ i + 1 := by
  apply Nat.le_of_not_lt
  intro hlt
  have hmem : (i, f) ∈ (placed fs).take (b.dispatched - 1) := by
    refine List.mem_of_getElem? (i := i) ?_
    rw [List.getElem?_take_of_lt (by omega), hplaced]
  obtain ⟨key, hkey⟩ := hturn _ hmem
  rw [hfault] at hkey
  cases hkey

/-- At the end every file was started before which none gave a fault. -/
theorem Sound.lt_dispatched (h : Sound work pool fs done b)
    (hend : b.next? work pool schedule = none) {i : Nat} (hi : i < fs.length)
    (hnone : ((placed fs).take i).filterMap (faultOf work) = []) : i < b.dispatched := by
  apply Nat.lt_of_not_le
  intro hle
  have hsub : ((placed fs).take b.dispatched).filterMap (faultOf work) = [] := by
    refine List.filterMap_eq_nil_iff.mpr fun g hg => ?_
    exact List.filterMap_eq_nil_iff.mp hnone g (List.take_subset_take_left _ hle hg)
  have hperm := h.faults_perm hend
  rw [hsub] at hperm
  have hlength := h.dispatched_eq_length hend (List.perm_nil.mp hperm)
  omega

/-- **A single worker stops at the first file that cannot be opened**, and its fault is the only one. -/
theorem Sound.single (h : Sound work pool fs done b) (hturn : InTurn work fs b)
    (hend : b.next? work pool schedule = none) {i : Nat} {f : LockedFile} {fault : KeyFault}
    (hf : fs[i]? = some f) (hfault : work f = .error fault)
    (hbefore : ∀ g ∈ fs.take i, ∃ key, work g = .ok key) :
    b.dispatched = i + 1 ∧ b.faults = [fault] := by
  have hplaced : (placed fs)[i]? = some (i, f) := by simp [placed, hf]
  -- The files before this one give no fault.
  have hnone : ((placed fs).take i).filterMap (faultOf work) = [] := by
    refine List.filterMap_eq_nil_iff.mpr fun g hg => ?_
    have hg' : g.2 ∈ fs.take i := by
      rw [← map_snd_placed fs, ← List.map_take]
      exact List.mem_map_of_mem hg
    obtain ⟨key, hkey⟩ := hbefore g.2 hg'
    simp only [faultOf, hkey]
  have hupper := hturn.dispatched_le hplaced hfault
  have hlower := h.lt_dispatched hend (List.getElem?_eq_some_iff.mp hf).1 hnone
  have hdispatched : b.dispatched = i + 1 := by omega
  refine ⟨hdispatched, ?_⟩
  have hperm := h.faults_perm hend
  rw [hdispatched, List.take_add_one, hplaced, Option.toList_some, List.filterMap_append, hnone,
    List.nil_append] at hperm
  simp only [List.filterMap_cons, faultOf, hfault, List.filterMap_nil] at hperm
  exact List.perm_singleton.mp hperm

/-! ## Boards that can be reached -/

/-- What is known of a board at any moment of the work. -/
structure Tended (work : LockedFile → Except KeyFault (String × Scalar)) (pool : Nat)
    (fs : List LockedFile) (b : Board) : Prop where
  running_le : b.running.length ≤ max 1 pool
  waiting_eq : b.waiting = (placed fs).drop b.dispatched
  /-- The first files were started; each of them runs or has given its key or its fault. -/
  started : ∃ joined, (joined ++ b.running).Perm ((placed fs).take b.dispatched) ∧
    b.opened = joined.filterMap (keyOf work) ∧ b.faults = joined.filterMap (faultOf work)
  dispatched_eq : b.dispatched = b.running.length + (b.opened.length + b.faults.length)
  stopped : b.faults ≠ [] → ∀ c, b.Reaches work pool c → c.dispatched = b.dispatched

/-- What is known of a board when the work ends. -/
structure Drained (work : LockedFile → Except KeyFault (String × Scalar)) (fs : List LockedFile)
    (b : Board) : Prop where
  running_eq : b.running = []
  dispatched_eq : b.dispatched = b.opened.length + b.faults.length
  /-- Every file that was started and cannot be opened gave one fault. -/
  faults_perm : b.faults.Perm (((placed fs).take b.dispatched).filterMap (faultOf work))
  all_or_fault : b.dispatched = fs.length ∨ b.faults ≠ []

theorem tended_of_reaches (hreach : (Board.start fs).Reaches work pool b) :
    b.Tended work pool fs := by
  obtain ⟨done, hsound⟩ := (Sound.start work pool fs).of_reaches hreach
  exact ⟨hsound.running_le, hsound.waiting_eq, ⟨done, hsound.started, hsound.opened_eq, hsound.faults_eq⟩,
    hsound.dispatched_eq, fun hfaults c => dispatched_eq_of_reaches hfaults⟩

theorem drained_run (work : LockedFile → Except KeyFault (String × Scalar)) (fs : List LockedFile)
    (pool : Nat) (schedule : Schedule) :
    ((Board.start fs).run work pool schedule).Drained work fs := by
  obtain ⟨done, hsound, hend⟩ := exists_sound_run schedule (Sound.start work pool fs)
  have hrunning := (next?_eq_none hend).1
  refine ⟨hrunning, ?_, hsound.faults_perm hend, ?_⟩
  · have hdispatched := hsound.dispatched_eq
    rwa [hrunning, List.length_nil, Nat.zero_add] at hdispatched
  · by_cases hnone : ((Board.start fs).run work pool schedule).faults = []
    · exact .inl (hsound.dispatched_eq_length hend hnone)
    · exact .inr hnone

end Board

/-! ## Loading -/

variable {G : Type} [SignatureScheme G] {files : Workspace} {s : Source} {fs : List LockedFile}

/-- **The pool of workers that loads a ring.** The files of a directory, in order of their names, are
    opened on a board. Every board on the way, in whichever order the workers finish, is tended: the pool
    bounds what runs, the files that were started come first in the list, each of them runs or has come
    out, and none is started after a fault. The last board is drained. With a single worker the work
    stops right after the first file that cannot be opened. -/
theorem load_pool (h : lockedFiles files s = .ok fs) (schedule : Schedule) :
    let work := openFile G files
    let last := (Board.start fs).run work s.poolSize schedule
    fs.Pairwise (fun f g => f.name ≤ g.name) ∧
      load G files s schedule = last.result fs.length ∧
      (Board.start fs).Reaches work s.poolSize last ∧
      (∀ b, (Board.start fs).Reaches work s.poolSize b → b.Tended work s.poolSize fs) ∧
      last.Drained work fs ∧
      ∀ (i : Nat) (f : LockedFile) (fault : KeyFault), s.poolSize ≤ 1 → fs[i]? = some f →
        work f = .error fault → (∀ g ∈ fs.take i, ∃ key, work g = .ok key) →
        last.dispatched = i + 1 ∧ last.faults = [fault] := by
  intro work last
  refine ⟨pairwise_lockedFiles h, ?_, Board.reaches_run _, fun b => Board.tended_of_reaches,
    Board.drained_run work fs s.poolSize schedule, ?_⟩
  · simp only [load, h]
    rfl
  · intro i f fault hone hf hfault hbefore
    obtain ⟨done, hsound, hend⟩ :=
      Board.exists_sound_run schedule (Board.Sound.start work s.poolSize fs)
    have hturn : Board.InTurn work fs last := Board.InTurn.of_reaches hone (Board.reaches_run _)
    exact hsound.single hturn hend hf hfault hbefore

/-- A directory with a container and two files that hold none. -/
def brokenSecond (text : String) : Workspace :=
  ⟨.directory [("keystore-a.json", .file (Text.Utf8.write text)), ("keystore-b.json", .file []),
    ("keystore-c.json", .file []), ("password.txt", .file [0x70, 0x77])], []⟩

/-- Its files are opened one after the other, as by no worker at all. -/
def brokenSource : Source := ⟨".", none, some "password.txt", 0⟩

/-- The files that are found there. -/
def brokenFiles : List LockedFile :=
  [⟨"keystore-a.json", "./keystore-a.json", "pw"⟩, ⟨"keystore-b.json", "./keystore-b.json", "pw"⟩,
    ⟨"keystore-c.json", "./keystore-c.json", "pw"⟩]

theorem lockedFiles_brokenSecond (text : String) :
    lockedFiles (brokenSecond text) brokenSource = .ok brokenFiles := by
  have hlist : (brokenSecond text).list "."
      = .ok ["keystore-a.json", "keystore-b.json", "keystore-c.json", "password.txt"] := rfl
  have hnames : containerNames (brokenSecond text) "."
      ["keystore-a.json", "keystore-b.json", "keystore-c.json", "password.txt"]
        = ["keystore-a.json", "keystore-b.json", "keystore-c.json"] := by
    have hkept : (["keystore-a.json", "keystore-b.json", "keystore-c.json", "password.txt"].filter
        fun name => isContainerName name && (brokenSecond text).isFile (Path.join "." name))
          = ["keystore-a.json", "keystore-b.json", "keystore-c.json"] := rfl
    rw [containerNames, hkept]
    exact List.mergeSort_of_pairwise (by decide +kernel)
  have hdirectory : brokenSource.directory = "." := rfl
  have ha : passwordOf (brokenSecond text) brokenSource "keystore-a.json" = .ok "pw" := rfl
  have hb : passwordOf (brokenSecond text) brokenSource "keystore-b.json" = .ok "pw" := rfl
  have hc : passwordOf (brokenSecond text) brokenSource "keystore-c.json" = .ok "pw" := rfl
  simp only [lockedFiles_eq, hdirectory, hlist, hnames, resolve, ha, hb, hc]
  rfl

theorem openFile_brokenSecond {text : String} {c : Container} {bytes : Bytes} {secret : Scalar}
    (htext : Container.ofText text = .ok c) (hopen : c.decrypt "pw" = .ok bytes)
    (hsecret : Scalar.secret? bytes = some secret) :
    openFile G (brokenSecond text) ⟨"keystore-a.json", "./keystore-a.json", "pw"⟩
      = .ok (Exit.publicKeyText G secret, secret) := by
  have hread : (brokenSecond text).readText "./keystore-a.json" = .ok text :=
    Workspace.readText_of_read rfl
  exact openFile_of_decrypt hread htext hopen hsecret

/-- Of three files the first one can be opened and the second one cannot: with a pool of no worker two
    files are started, and the only fault is that of the second. -/
theorem load_pool_brokenSecond :
    ∃ c, Container.lock Curve.Signatures (Scalar.ofNat 5).toOctets.toList "pw" ⟨2, 1, 1⟩ (.zero 32)
        (.zero 16) (.zero 16) = .ok c ∧
      let files := brokenSecond c.text
      let work := openFile Curve.Signatures files
      let last := (Board.start brokenFiles).run work 0 fun _ => 7
      lockedFiles files brokenSource = .ok brokenFiles ∧
        brokenFiles[1]? = some ⟨"keystore-b.json", "./keystore-b.json", "pw"⟩ ∧
        (∀ g ∈ brokenFiles.take 1, ∃ key, work g = .ok key) ∧
        ∃ fault, work ⟨"keystore-b.json", "./keystore-b.json", "pw"⟩ = .error fault ∧
          (∀ b, (Board.start brokenFiles).Reaches work 0 b → b.Tended work 0 brokenFiles) ∧
          last.Drained work brokenFiles ∧ last.dispatched = 2 ∧ last.faults = [fault] := by
  obtain ⟨c, hc⟩ : ∃ c, Container.lock Curve.Signatures (Scalar.ofNat 5).toOctets.toList "pw"
      ⟨2, 1, 1⟩ (.zero 32) (.zero 16) (.zero 16) = .ok c := Container.exists_lock (by rfl) (by decide)
  refine ⟨c, hc, ?_⟩
  intro files work last
  have hfiles := lockedFiles_brokenSecond c.text
  have hfirst : ∀ g ∈ brokenFiles.take 1, ∃ key, work g = .ok key := by
    intro g hg
    rw [List.mem_singleton.mp hg]
    exact ⟨_, openFile_brokenSecond (Container.ofText_text_lock hc) (Container.decrypt_lock hc)
      (Scalar.secret?_toOctets (by decide))⟩
  have hsecond : brokenFiles[1]? = some ⟨"keystore-b.json", "./keystore-b.json", "pw"⟩ := rfl
  obtain ⟨fault, hfault⟩ : ∃ fault,
      work ⟨"keystore-b.json", "./keystore-b.json", "pw"⟩ = .error fault := by
    have hread : files.readText "./keystore-b.json" = .ok "" := rfl
    have hempty : ∃ fault, Container.ofText "" = .error fault := ⟨_, rfl⟩
    obtain ⟨fault, hempty⟩ := hempty
    refine ⟨.badContainer "keystore-b.json" fault, ?_⟩
    simp only [work, openFile, hread, hempty]
  obtain ⟨-, -, -, htended, hdrained, hsingle⟩ :=
    load_pool (G := Curve.Signatures) (s := brokenSource) hfiles fun _ => 7
  obtain ⟨hdispatched, hfaults⟩ := hsingle 1 _ fault (by decide) hsecond hfault hfirst
  exact ⟨hfiles, hsecond, hfirst, fault, hfault, htended, hdrained, hdispatched, hfaults⟩

end Registrar.Keystore

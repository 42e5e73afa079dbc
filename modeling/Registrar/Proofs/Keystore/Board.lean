import Mathlib.Data.List.Perm.Basic
import Registrar.Keystore.Loading

/-!
# The board

What the board knows after any number of steps, in whichever order the workers finish: the files up to
some place have been started, each of them runs or has come out once, and what came out is what the
work on it gave.

## Contents

- `placed`, the files with their places; `keyOf` and `faultOf`, what the work on a file gives;
- `Board.Sound`, with `Sound.start`, `Sound.next?` and `exists_sound_run`;
- `Board.Sound.done_perm` and `Board.Sound.mem_of_mem_done`: which files have come out at the end.
-/

namespace Registrar.Keystore

/-- Files with their places. -/
def placed (fs : List LockedFile) : List (Nat × LockedFile) := fs.zipIdx.map fun (f, i) => (i, f)

theorem length_placed (fs : List LockedFile) : (placed fs).length = fs.length := by
  simp [placed]

theorem map_snd_placed (fs : List LockedFile) : (placed fs).map (·.2) = fs := by
  simp [placed, Function.comp_def]

variable (work : LockedFile → Except KeyFault (String × Scalar))

/-- The key out of a file, if it can be opened. -/
def keyOf (f : Nat × LockedFile) : Option OpenedKey :=
  match work f.2 with
  | .ok (publicKey, secret) => some ⟨f.1, publicKey, secret⟩
  | .error _ => none

/-- Why a file cannot be opened, if so. -/
def faultOf (f : Nat × LockedFile) : Option KeyFault :=
  match work f.2 with
  | .ok _ => none
  | .error fault => some fault

namespace Board

/-- What holds of a board after some steps. `done` are the files that have finished, in the order in
    which they did. -/
structure Sound (pool : Nat) (fs : List LockedFile) (done : List (Nat × LockedFile)) (b : Board) :
    Prop where
  dispatched_le : b.dispatched ≤ fs.length
  /-- The files that wait are those after the ones that were started. -/
  waiting_eq : b.waiting = (placed fs).drop b.dispatched
  /-- Every file that was started is done or runs. -/
  started : (done ++ b.running).Perm ((placed fs).take b.dispatched)
  opened_eq : b.opened = done.filterMap (keyOf work)
  faults_eq : b.faults = done.filterMap (faultOf work)
  running_le : b.running.length ≤ max 1 pool

theorem Sound.start (pool : Nat) (fs : List LockedFile) : Sound work pool fs [] (start fs) where
  dispatched_le := Nat.zero_le _
  waiting_eq := rfl
  started := .refl _
  opened_eq := rfl
  faults_eq := rfl
  running_le := Nat.zero_le _

variable {work} {pool : Nat} {schedule : Schedule} {fs : List LockedFile}
  {done : List (Nat × LockedFile)} {b c : Board}

/-! ## Steps -/

/-- **A file that is started runs.** -/
theorem Sound.dispatch (h : Sound work pool fs done b) (hmay : b.mayDispatch pool) :
    Sound work pool fs done b.dispatch := by
  simp only [mayDispatch, Bool.and_eq_true, decide_eq_true_eq, Bool.not_eq_true',
    List.isEmpty_eq_false_iff] at hmay
  obtain ⟨⟨-, hfree⟩, hwaits⟩ := hmay
  obtain ⟨f, rest, hfirst⟩ := List.exists_cons_of_ne_nil hwaits
  have hlt : b.dispatched < (placed fs).length := by
    apply Nat.lt_of_not_le
    intro hle
    rw [h.waiting_eq, List.drop_eq_nil_of_le hle] at hwaits
    exact hwaits rfl
  have hdrop : f :: rest = (placed fs)[b.dispatched] :: (placed fs).drop (b.dispatched + 1) := by
    rw [← hfirst, h.waiting_eq, List.drop_eq_getElem_cons hlt]
  obtain ⟨hf, hrest⟩ := List.cons.inj hdrop
  have hdispatch : b.dispatch
      = { b with waiting := rest, running := b.running ++ [f], dispatched := b.dispatched + 1 } := by
    simp only [Board.dispatch, hfirst]
  rw [hdispatch]
  refine ⟨?_, hrest, ?_, h.opened_eq, h.faults_eq, ?_⟩
  · rw [length_placed] at hlt
    exact hlt
  · show (done ++ (b.running ++ [f])).Perm ((placed fs).take (b.dispatched + 1))
    rw [List.take_succ_eq_append_getElem hlt, ← hf, ← List.append_assoc]
    exact h.started.append_right [f]
  · show (b.running ++ [f]).length ≤ max 1 pool
    rw [List.length_append, List.length_singleton]
    exact hfree

/-- **A running file that is waited for is done, and its key or its fault is kept.** -/
theorem Sound.join (h : Sound work pool fs done b) {i : Nat} (hi : i < b.running.length) :
    Sound work pool fs (done ++ [b.running[i]]) (b.join work i) := by
  have hmoved : (done ++ [b.running[i]] ++ b.running.eraseIdx i).Perm (done ++ b.running) := by
    rw [List.append_assoc]
    exact (List.getElem_cons_eraseIdx_perm hi).append_left done
  have hfewer : (b.running.eraseIdx i).length ≤ max 1 pool :=
    Nat.le_trans (List.length_eraseIdx_le _ _) h.running_le
  simp only [Board.join, List.getElem?_eq_getElem hi, receive]
  cases hwork : work b.running[i].2 with
  | ok key =>
    refine ⟨h.dispatched_le, h.waiting_eq, hmoved.trans h.started, ?_, ?_, hfewer⟩
    · simp [h.opened_eq, keyOf, hwork]
    · simp [h.faults_eq, faultOf, hwork]
  | error fault =>
    refine ⟨h.dispatched_le, h.waiting_eq, hmoved.trans h.started, ?_, ?_, hfewer⟩
    · simp [h.opened_eq, keyOf, hwork]
    · simp [h.faults_eq, faultOf, hwork]

/-- **What one step keeps**, whichever running file finishes. -/
theorem Sound.next? (h : Sound work pool fs done b) (hstep : b.next? work pool schedule = some c) :
    ∃ done', Sound work pool fs done' c := by
  unfold Board.next? at hstep
  split at hstep
  · next hmay =>
    cases hstep
    exact ⟨done, h.dispatch hmay⟩
  · split at hstep
    · cases hstep
    · next hbusy =>
      cases hstep
      have hpos : 0 < b.running.length := by
        apply List.length_pos_iff.mpr
        simpa using hbusy
      exact ⟨_, h.join (Nat.mod_lt _ hpos)⟩

/-- Without a next step nothing runs, and what waits does so because of a fault. -/
theorem next?_eq_none (h : b.next? work pool schedule = none) :
    b.running = [] ∧ (b.faults = [] → b.waiting = []) := by
  unfold Board.next? at h
  split at h
  · cases h
  · next hmay =>
    split at h
    · next hidle =>
      have hrunning : b.running = [] := List.isEmpty_iff.mp hidle
      refine ⟨hrunning, fun hfaults => ?_⟩
      have hpool : 0 < max 1 pool := by omega
      simpa [mayDispatch, hrunning, hfaults, hpool] using hmay
    · cases h

/-- **What a whole run keeps**, for every order in which the workers finish. -/
theorem exists_sound_run (schedule : Schedule) (h : Sound work pool fs done b) :
    ∃ done', Sound work pool fs done' (b.run work pool schedule) ∧
      (b.run work pool schedule).next? work pool schedule = none := by
  fun_induction Board.run work pool schedule b generalizing done with
  | case1 b hend => exact ⟨done, h, hend⟩
  | case2 b c hstep ih =>
    obtain ⟨done', h'⟩ := h.next? hstep
    exact ih h'

/-! ## The end -/

/-- If no file failed, all have been opened. -/
theorem Sound.done_perm (h : Sound work pool fs done b)
    (hend : b.next? work pool schedule = none) (hfaults : b.faults = []) : done.Perm (placed fs) := by
  obtain ⟨hrunning, hwaiting⟩ := next?_eq_none hend
  have hall : (placed fs).take b.dispatched = placed fs := by
    apply List.take_of_length_le
    apply List.drop_eq_nil_iff.mp
    rw [← h.waiting_eq]
    exact hwaiting hfaults
  have hstarted := h.started
  rwa [hrunning, List.append_nil, hall] at hstarted

/-- A file that is done is one of the given files. -/
theorem Sound.mem_of_mem_done (h : Sound work pool fs done b) {f : Nat × LockedFile} (hf : f ∈ done) :
    f.2 ∈ fs := by
  have hstarted : f ∈ (placed fs).take b.dispatched :=
    h.started.mem_iff.mp (List.mem_append_left _ hf)
  rw [← map_snd_placed fs]
  exact List.mem_map_of_mem (List.mem_of_mem_take hstarted)

end Board

end Registrar.Keystore

import Registrar.Keystore.Directory
import Registrar.Keystore.Keyring

/-!
# Loading a keyring

All containers of a directory are opened by a bounded number of workers, or none: after the first
failure nothing more is started, and what is still running is waited for. Which of the running
workers finishes next is not known; a `Schedule` tells. A worker's work is a function of its file, and
a worker that is lost without a result does not occur.

## Contents

- `openFile`, the work on one container;
- `Board`, the state of the work, with `Board.dispatch` and `Board.join`, and `Board.next?`, the
  step that is taken;
- `Board.run` and `load`.
-/

namespace Registrar.Keystore

variable (G : Type) [SignatureScheme G]

/-- A key out of a container: its place among the files, its public key and its secret. -/
structure OpenedKey where
  position : Nat
  publicKey : String
  secret : Scalar
deriving DecidableEq

/-- The work on one container: its public and its secret key. -/
def openFile (files : Workspace) (f : LockedFile) : Except KeyFault (String × Scalar) :=
  match files.readText f.path with
  | .error fault => .error (.unreadable f.path fault)
  | .ok text =>
    match Container.ofText text with
    | .error fault => .error (.badContainer f.name fault)
    | .ok c =>
      match c.decrypt f.password with
      | .error (.format fault) => .error (.badContainer f.name fault)
      | .error .wrongPassword => .error (.wrongPassword f.name)
      | .ok bytes =>
        match Scalar.secret? bytes with
        | none => .error (.badSecret f.name)
        | some s => .ok (Exit.publicKeyText G s, s)

/-! ## The board -/

/-- The state of the work: what waits, what runs, and what came out. Files carry their place. -/
structure Board where
  waiting : List (Nat × LockedFile)
  running : List (Nat × LockedFile)
  opened : List OpenedKey
  faults : List KeyFault
  dispatched : Nat

/-- Which of the running workers finishes next, by the number of those that have finished. -/
abbrev Schedule := Nat → Nat

namespace Board

/-- Nothing has been started. -/
def start (fs : List LockedFile) : Board where
  waiting := fs.zipIdx.map fun (f, i) => (i, f)
  running := []
  opened := []
  faults := []
  dispatched := 0

variable (work : LockedFile → Except KeyFault (String × Scalar))

/-- Starts the first file that waits. -/
def dispatch (b : Board) : Board :=
  match b.waiting with
  | [] => b
  | f :: rest =>
    { b with waiting := rest, running := b.running ++ [f], dispatched := b.dispatched + 1 }

/-- Takes the result of a file that is no longer running. -/
def receive (f : Nat × LockedFile) (b : Board) : Board :=
  match work f.2 with
  | .ok (publicKey, secret) => { b with opened := b.opened ++ [⟨f.1, publicKey, secret⟩] }
  | .error fault => { b with faults := b.faults ++ [fault] }

/-- Waits for the running file at a place. -/
def join (i : Nat) (b : Board) : Board :=
  match b.running[i]? with
  | none => b
  | some f => receive work f { b with running := b.running.eraseIdx i }

/-- Whether one more file is started: no failure is known, and a worker is free. -/
def mayDispatch (pool : Nat) (b : Board) : Bool :=
  b.faults.isEmpty && decide (b.running.length < max 1 pool) && !b.waiting.isEmpty

/-- The number of files that have finished. -/
def finished (b : Board) : Nat := b.opened.length + b.faults.length

/-- The next step, unless all is done: a file is started if one may be, else one is waited for. -/
def next? (pool : Nat) (schedule : Schedule) (b : Board) : Option Board :=
  if b.mayDispatch pool then some b.dispatch
  else if b.running.isEmpty then none
  else some (b.join work (schedule b.finished % b.running.length))

/-- The steps that are left at most: two for each file that waits, one for each that runs. -/
def measure (b : Board) : Nat := 2 * b.waiting.length + b.running.length

theorem measure_next? {pool : Nat} {schedule : Schedule} {b c : Board}
    (h : b.next? work pool schedule = some c) : c.measure < b.measure := by
  unfold next? at h
  split at h
  · rename_i may
    cases waits : b.waiting with
    | nil => simp [mayDispatch, waits] at may
    | cons f rest =>
      simp only [Option.some.injEq] at h
      subst h
      simp only [measure, dispatch, waits, List.length_cons, List.length_append, List.length_nil]
      omega
  · split at h
    · cases h
    · rename_i busy
      have some_run : 0 < b.running.length := by
        cases runs : b.running <;> simp [runs] at busy ⊢
      have inside : schedule b.finished % b.running.length < b.running.length :=
        Nat.mod_lt _ some_run
      simp only [Option.some.injEq] at h
      subst h
      simp only [join, List.getElem?_eq_getElem inside, receive]
      split <;> simp only [measure, List.length_eraseIdx, inside, if_true] <;> omega

/-- All steps. -/
def run (pool : Nat) (schedule : Schedule) (b : Board) : Board :=
  match _step : b.next? work pool schedule with
  | none => b
  | some c => run pool schedule c
termination_by b.measure
decreasing_by exact measure_next? work _step

end Board

/-! ## The ring -/

/-- Why there is no ring. -/
inductive LoadFault where
  /-- The files cannot be listed. -/
  | unlisted (fault : KeyFault)
  /-- Some of the files that were started cannot be opened. -/
  | failed (dispatched total : Nat) (faults : List KeyFault)
deriving DecidableEq

/-- The wording of a fault. -/
def LoadFault.message : LoadFault → String
  | .unlisted fault => fault.message
  | .failed dispatched total faults =>
    "Failed to load keystores (" ++ toString dispatched ++ "/" ++ toString total ++ " dispatched): "
      ++ String.intercalate "; " (faults.map (·.message))

/-- The ring of opened keys. Of keys with one public key the last file's counts. -/
def ringOf (opened : List OpenedKey) : Keyring :=
  (opened.mergeSort fun a b => decide (a.position ≤ b.position)).foldl
    (fun ring k => ring.insert k.publicKey k.secret) .empty

/-- What is left when the work is done. -/
def Board.result (total : Nat) (b : Board) : Except LoadFault Keyring :=
  if b.faults.isEmpty then .ok (ringOf b.opened) else .error (.failed b.dispatched total b.faults)

/-- The ring of all containers of a directory. -/
def load (files : Workspace) (s : Source) (schedule : Schedule) : Except LoadFault Keyring :=
  match lockedFiles files s with
  | .error fault => .error (.unlisted fault)
  | .ok fs =>
    ((Board.start fs).run (openFile G files) s.poolSize schedule).result fs.length

end Registrar.Keystore

import Mathlib.Tactic.SplitIfs
import Registrar.Json.Value

/-!
# Texts in texts

A text in a document is shorter than the text of the document. So the reader of data, which reads the data
in a text by the same rules, always gets to the bottom, and the test on lengths that its recursion rests on
is never the reason why a text is refused.

## Contents

- `Token.length_lt_of_mem_ofText`, texts among the tokens of a text;
- `Node.EachText`, a condition on all texts of a node, with `Document.eachText_ofText`;
- `Value.ofNode_congr`, and `Value.ofText_eq`, the reader without the test.
-/

namespace Registrar.Json

/-! ## Tokens -/

namespace Token

/-- The length of the text that is held while a token is read. -/
def Mode.held : Mode → Nat
  | .text (some cs) _ | .escape (some cs) _ | .unit (some cs) _ _ => cs.length
  | .word _ (.text (some s)) => s.length
  | _ => 0

/-- What one character leads to when a text of length `n` is held: no longer text ends, and at most the
    character is held in addition. -/
structure Kept (n : Nat) (next : List Token × Mode) : Prop where
  ended : ∀ s, .text (some s) ∈ next.1 → s.length ≤ n
  held : next.2.held ≤ n + 1

variable {n : Nat} {mode : Mode}

theorem Kept.nothing (h : mode.held ≤ n + 1) : Kept n ([], mode) :=
  ⟨fun _ hs => absurd hs List.not_mem_nil, h⟩

/-- A token that is no text may come first. -/
theorem Kept.cons {t : Token} {ts : List Token} (ht : ∀ s, t ≠ .text (some s)) (h : Kept n (ts, mode)) :
    Kept n (t :: ts, mode) := by
  refine ⟨fun s hs => ?_, h.held⟩
  rcases List.mem_cons.mp hs with heq | hs
  · exact absurd heq.symm (ht s)
  · exact h.ended s hs

theorem Kept.other {t : Token} (ht : ∀ s, t ≠ .text (some s)) (h : mode.held ≤ n + 1) :
    Kept n ([t], mode) := .cons ht (.nothing h)

theorem Kept.bad : Kept n ([.bad], .stopped) := .other nofun (Nat.zero_le _)

theorem kept_start (c : Char) : Kept n (start c) := by
  unfold start
  refine iteInduction (fun _ => .nothing (Nat.zero_le _)) fun _ => ?_
  iterate 6 refine iteInduction (fun _ => .other nofun (Nat.zero_le _)) fun _ => ?_
  iterate 5 refine iteInduction (fun _ => .nothing (Nat.zero_le _)) fun _ => ?_
  cases extend .sign ⟨false, [], [], none⟩ c with
  | none => exact .bad
  | some next => exact .nothing (Nat.zero_le _)

theorem held_addChar (reversed : Option (List Char)) (high : Option Nat) (c : Char) :
    (addChar reversed high c).held ≤ (Mode.text reversed high).held + 1 := by
  cases high <;> cases reversed <;> simp [addChar, Mode.held]

theorem held_addUnit (reversed : Option (List Char)) (high : Option Nat) (n : Nat) :
    (addUnit reversed high n).held ≤ (Mode.text reversed high).held + 1 := by
  unfold addUnit
  cases high <;> cases reversed <;> dsimp only [Option.map] <;> split_ifs <;> simp [Mode.held]

/-- **One character.** -/
theorem kept_step (mode : Mode) (c : Char) : Kept mode.held (step mode c) := by
  cases mode with
  | between => exact kept_start c
  | number stage n =>
    rw [step]
    split
    · exact .nothing (Nat.zero_le _)
    · exact iteInduction (fun _ => .cons nofun (kept_start c)) fun _ => .bad
  | word rest token =>
    have hend : ∀ {next : Mode}, next.held = 0 → Kept (Mode.word rest token).held ([token], next) := by
      intro next hnext
      refine ⟨fun s hs => ?_, by simp only [hnext, Nat.zero_le]⟩
      rw [← List.mem_singleton.mp hs]
      exact Nat.le_refl _
    match rest with
    | [] => exact hend rfl
    | [d] => exact iteInduction (fun _ => hend rfl) fun _ => .bad
    | d :: e :: rest =>
      refine iteInduction (fun _ => .nothing ?_) fun _ => .bad
      cases token with
      | text s => cases s <;> exact Nat.le_succ _
      | _ => exact Nat.zero_le _
  | text reversed high =>
    rw [step]
    refine iteInduction (fun _ => ?_) fun _ => iteInduction (fun _ => .nothing ?_) fun _ =>
      iteInduction (fun _ => .bad) fun _ => .nothing (held_addChar reversed high c)
    · cases high with
      | some high => exact .other nofun (Nat.zero_le _)
      | none =>
        cases reversed with
        | none => exact .other nofun (Nat.zero_le _)
        | some cs =>
          refine ⟨fun s hs => ?_, Nat.zero_le _⟩
          cases List.mem_singleton.mp hs
          simp [Mode.held]
    · cases reversed <;> exact Nat.le_succ _
  | escape reversed high =>
    rw [step]
    refine iteInduction (fun _ => .nothing ?_) fun _ => ?_
    · cases reversed <;> exact Nat.le_succ _
    · split
      · next d _ =>
        refine .nothing ?_
        have hchar := held_addChar reversed high d
        cases reversed <;> exact hchar
      · exact .bad
  | unit reversed high digits =>
    rw [step]
    split
    · exact .bad
    · split
      · refine .nothing ?_
        have hunit := held_addUnit reversed high
        cases reversed <;> exact hunit _
      · refine .nothing ?_
        cases reversed <;> exact Nat.le_succ _
  | stopped => exact .nothing (Nat.zero_le _)

theorem length_lt_of_mem_ofChars {s : String} {cs : List Char}
    (h : Token.text (some s) ∈ ofChars mode cs) : s.length < mode.held + cs.length := by
  induction cs generalizing mode with
  | nil =>
    -- The end of the text ends no text.
    have hfinish : Token.text (some s) ∉ finish mode := by
      cases mode with
      | number stage n =>
        rw [finish]
        split <;> simp
      | _ => simp [finish]
    exact absurd h hfinish
  | cons c cs ih =>
    obtain ⟨hended, hheld⟩ := kept_step mode c
    rw [List.length_cons]
    rcases List.mem_append.mp h with hnow | hlater
    · have hle := hended s hnow
      omega
    · have hlt : s.length < (step mode c).2.held + cs.length := ih hlater
      omega

/-- **A text among the tokens of a text is shorter.** -/
theorem length_lt_of_mem_ofText {s text : String} (h : Token.text (some s) ∈ ofText text) :
    s.length < text.length := by
  have hlt : s.length < Mode.between.held + text.toList.length := length_lt_of_mem_ofChars h
  have hnone : Mode.between.held = 0 := rfl
  rwa [hnone, Nat.zero_add, String.length_toList] at hlt

end Token

/-! ## Documents -/

namespace Node

mutual
/-- The condition holds for every text. Keys do not count. -/
def EachText (p : String → Prop) : Node → Prop
  | .text (some s) => p s
  | .array items _ => EachTextOfItems p items
  | .object members _ => EachTextOfMembers p members
  | _ => True

/-- The condition holds for every text in items. -/
def EachTextOfItems (p : String → Prop) : List Node → Prop
  | [] => True
  | v :: rest => v.EachText p ∧ EachTextOfItems p rest

/-- The condition holds for every text in the values of members. -/
def EachTextOfMembers (p : String → Prop) : List (Option String × Node) → Prop
  | [] => True
  | (_, v) :: rest => v.EachText p ∧ EachTextOfMembers p rest
end

variable {p : String → Prop}

theorem eachTextOfItems_iff {items : List Node} :
    EachTextOfItems p items ↔ ∀ v ∈ items, v.EachText p := by
  induction items with
  | nil => simp [EachTextOfItems]
  | cons v items ih => rw [EachTextOfItems, ih, List.forall_mem_cons]

theorem eachTextOfMembers_iff {members : List (Option String × Node)} :
    EachTextOfMembers p members ↔ ∀ member ∈ members, member.2.EachText p := by
  induction members with
  | nil => simp [EachTextOfMembers]
  | cons member members ih => rw [EachTextOfMembers, ih, List.forall_mem_cons]

theorem eachText_array_reverse {before : List Node} (h : ∀ v ∈ before, v.EachText p) (closed : Bool) :
    (Node.array before.reverse closed).EachText p :=
  eachTextOfItems_iff.mpr fun v hv => h v (List.mem_reverse.mp hv)

theorem eachText_object_reverse {before : List (Option String × Node)}
    (h : ∀ member ∈ before, member.2.EachText p) (closed : Bool) :
    (Node.object before.reverse closed).EachText p :=
  eachTextOfMembers_iff.mpr fun member hmember => h member (List.mem_reverse.mp hmember)

end Node

namespace Document

variable {p : String → Prop} {v : Node} {phase : Phase} {frames : List Frame}

/-- The condition holds for every text that stands before the value being read. -/
def FrameText (p : String → Prop) : Frame → Prop
  | .item before => ∀ v ∈ before, v.EachText p
  | .member before _ => ∀ member ∈ before, member.2.EachText p

/-- The condition holds for every text that was read. -/
def PhaseText (p : String → Prop) : Phase → Prop
  | .value | .firstItem => True
  | .afterItem before => ∀ v ∈ before, v.EachText p
  | .key before | .colon before _ | .afterMember before => ∀ member ∈ before, member.2.EachText p
  | .done v => v.EachText p

/-- The condition holds for every text in a state of the reader. -/
def StateText (p : String → Prop) (state : Phase × List Frame) : Prop :=
  PhaseText p state.1 ∧ ∀ frame ∈ state.2, FrameText p frame

theorem stateText_settle (hv : v.EachText p) (hframes : ∀ frame ∈ frames, FrameText p frame) :
    StateText p (settle v frames) := by
  match frames with
  | [] => exact ⟨hv, hframes⟩
  | .item before :: frames =>
    obtain ⟨hbefore, hframes⟩ := List.forall_mem_cons.mp hframes
    exact ⟨List.forall_mem_cons.mpr ⟨hv, hbefore⟩, hframes⟩
  | .member before key :: frames =>
    obtain ⟨hbefore, hframes⟩ := List.forall_mem_cons.mp hframes
    exact ⟨List.forall_mem_cons.mpr ⟨hv, hbefore⟩, hframes⟩

theorem eachText_abandon (hv : v.EachText p) (hframes : ∀ frame ∈ frames, FrameText p frame) :
    (abandon v frames).EachText p := by
  induction frames generalizing v with
  | nil => exact hv
  | cons frame frames ih =>
    obtain ⟨hbefore, hothers⟩ := List.forall_mem_cons.mp hframes
    cases frame with
    | item before =>
      exact ih (Node.eachText_array_reverse (List.forall_mem_cons.mpr ⟨hv, hbefore⟩) false) hothers
    | member before key =>
      exact ih (Node.eachText_object_reverse
        (List.forall_mem_cons (a := (key, v)).mpr ⟨hv, hbefore⟩) false) hothers

theorem stateText_value? {t : Token} {next : Phase × List Frame} (ht : ∀ s, t = .text (some s) → p s)
    (hframes : ∀ frame ∈ frames, FrameText p frame) (h : value? frames t = some next) :
    StateText p next := by
  cases t with
  | text s =>
    cases h
    cases s with
    | none => exact stateText_settle trivial hframes
    | some s => exact stateText_settle (ht s rfl) hframes
  | openArray =>
    cases h
    exact ⟨trivial, hframes⟩
  | openObject =>
    cases h
    exact ⟨List.forall_mem_nil _, hframes⟩
  | null =>
    cases h
    exact stateText_settle trivial hframes
  | bool b =>
    cases h
    exact stateText_settle trivial hframes
  | number n =>
    cases h
    exact stateText_settle trivial hframes
  | _ => cases h

/-- **One token.** -/
theorem stateText_step? {t : Token} {next : Phase × List Frame} (ht : ∀ s, t = .text (some s) → p s)
    (hstate : StateText p (phase, frames)) (h : step? phase frames t = some next) :
    StateText p next := by
  obtain ⟨hphase, hframes⟩ := hstate
  cases phase with
  | value => exact stateText_value? ht hframes h
  | firstItem =>
    rw [step?] at h
    split at h
    · cases h
      exact stateText_settle trivial hframes
    · have hfirst : FrameText p (.item []) := List.forall_mem_nil _
      exact stateText_value? ht (List.forall_mem_cons.mpr ⟨hfirst, hframes⟩) h
  | afterItem before =>
    cases t with
    | comma =>
      cases h
      exact ⟨trivial, List.forall_mem_cons.mpr ⟨hphase, hframes⟩⟩
    | closeArray =>
      cases h
      exact stateText_settle (Node.eachText_array_reverse hphase true) hframes
    | _ => cases h
  | key before =>
    cases t with
    | text key =>
      cases h
      exact ⟨hphase, hframes⟩
    | closeObject =>
      rw [step?] at h
      split at h
      · cases h
        exact stateText_settle trivial hframes
      · cases h
    | _ => cases h
  | colon before key =>
    rw [step?] at h
    split at h
    · cases h
      exact ⟨trivial, List.forall_mem_cons.mpr ⟨hphase, hframes⟩⟩
    · cases h
  | afterMember before =>
    cases t with
    | comma =>
      cases h
      exact ⟨hphase, hframes⟩
    | closeObject =>
      cases h
      exact stateText_settle (Node.eachText_object_reverse hphase true) hframes
    | _ => cases h
  | done v => cases h

theorem eachText_stop (hstate : StateText p (phase, frames)) : (stop phase frames).EachText p := by
  obtain ⟨hphase, hframes⟩ := hstate
  cases phase with
  | value => exact eachText_abandon trivial hframes
  | firstItem => exact eachText_abandon trivial hframes
  | afterItem before => exact eachText_abandon (Node.eachText_array_reverse hphase false) hframes
  | key before => exact eachText_abandon (Node.eachText_object_reverse hphase false) hframes
  | colon before key =>
    exact eachText_abandon (Node.eachText_object_reverse
      (List.forall_mem_cons (a := (key, Node.fault)).mpr ⟨trivial, hphase⟩) false) hframes
  | afterMember before => exact eachText_abandon (Node.eachText_object_reverse hphase false) hframes
  | done v => exact hphase

/-- All tokens, from any state. -/
theorem eachText_ofTokens {ts : List Token} (hts : ∀ s, Token.text (some s) ∈ ts → p s)
    (hstate : StateText p (phase, frames)) : (ofTokens phase frames ts).node.EachText p := by
  induction ts generalizing phase frames with
  | nil => exact eachText_stop hstate
  | cons t ts ih =>
    rw [ofTokens]
    cases hstep : step? phase frames t with
    | none => exact eachText_stop hstate
    | some next =>
      have ht : ∀ s, t = .text (some s) → p s := fun s heq => hts s (heq ▸ List.mem_cons_self)
      exact ih (fun s hs => hts s (List.mem_cons_of_mem _ hs)) (stateText_step? ht hstate hstep)

/-- **Every text in a document is shorter than the text of the document.** -/
theorem eachText_ofText {text : String} (h : ∀ s : String, s.length < text.length → p s) :
    (ofText text).node.EachText p :=
  eachText_ofTokens (fun s hs => h s (Token.length_lt_of_mem_ofText hs)) ⟨trivial, List.forall_mem_nil _⟩

end Document

/-! ## Data -/

namespace Value

variable {inner inner' : String → Except Fault Value}

theorem ofRaw_congr {v : Node} (h : v.EachText fun s => inner s = inner' s) :
    ofRaw inner v = ofRaw inner' v := by
  match v with
  | .text (some s) => exact h
  | .text none | .null | .bool _ | .number _ | .array _ _ | .object _ _ | .fault => rfl

/-- The value behind the reserved key stands among the members. -/
theorem mem_of_raw? {members rest : List (Option String × Node)} {v : Node}
    (h : raw? members = some (v, rest)) : members = (some rawKey, v) :: rest := by
  match members with
  | [] | (none, _) :: _ => cases h
  | (some key, w) :: others =>
    rw [raw?] at h
    split at h
    · next hkey =>
      cases h
      rw [hkey]
    · cases h

mutual
/-- The reader depends only on how the texts of the node are read. -/
theorem ofNode_congr (room : Nat) (v : Node) (h : v.EachText fun s => inner s = inner' s) :
    ofNode inner room v = ofNode inner' room v := by
  match v with
  | .array items closed =>
    rw [ofNode, ofNode, ofItems_congr (room - 1) items h]
  | .object members closed =>
    rw [ofNode, ofNode, ofMembers_congr (room - 1) members h]
    cases hraw : raw? members with
    | none => rfl
    | some first =>
      have hfirst : first.1.EachText fun s => inner s = inner' s := by
        rw [Node.EachText, mem_of_raw? hraw] at h
        exact h.1
      dsimp only
      rw [ofRaw_congr hfirst]
  | .number n => cases n <;> rfl
  | .text s => cases s <;> rfl
  | .null | .bool _ | .fault => rfl

theorem ofItems_congr (room : Nat) (items : List Node)
    (h : Node.EachTextOfItems (fun s => inner s = inner' s) items) :
    ofItems inner room items = ofItems inner' room items := by
  match items with
  | [] => rfl
  | v :: rest => rw [ofItems, ofItems, ofNode_congr room v h.1, ofItems_congr room rest h.2]

theorem ofMembers_congr (room : Nat) (members : List (Option String × Node))
    (h : Node.EachTextOfMembers (fun s => inner s = inner' s) members) :
    ofMembers inner room members = ofMembers inner' room members := by
  match members with
  | [] => rfl
  | (none, _) :: _ => rfl
  | (some key, v) :: rest =>
    rw [ofMembers, ofMembers, ofNode_congr room v h.1, ofMembers_congr room rest h.2]
end

/-- **The reader of data without the test on lengths.** -/
theorem ofText_eq (s : String) :
    ofText s = match ofNode ofText fullRoom (Document.ofText s).node with
      | .error fault => .error fault
      | .ok v => if (Document.ofText s).trailing then .error .malformed else .ok v := by
  have htexts : (Document.ofText s).node.EachText fun t =>
      (if _shorter : t.length < s.length then ofText t else .error .malformed) = ofText t :=
    Document.eachText_ofText fun t ht => dif_pos ht
  have hread := ofText.eq_def s
  dsimp only at hread
  rw [ofNode_congr fullRoom _ htexts] at hread
  exact hread

end Value

end Registrar.Json

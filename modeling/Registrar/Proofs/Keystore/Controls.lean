import Registrar.Proofs.Keystore.Passwords
import Registrar.Proofs.Text.Ordering

/-!
# Control characters in passwords

A password is put into its normal form first and loses its control characters then. A control character
stands for itself and is no mark, so that it ends the marks after a letter: what is left out again has
kept the marks before it from those after it. So control characters that are put into a password change
what it stands for just if one of them holds back a mark.

## Contents

- `typed`, the characters of a password that are used, with `typed_control` and `typed_append_iff`;
- `Padded`: a text with control characters put in;
- `typed_eq_of_padded` and `Padded.settled`: which of these texts are used as the text itself;
- `passwordBytes_padded`.
-/

namespace Registrar.Keystore

open Text (Settled collect points)

/-! ## The characters that are used -/

/-- The characters of a password that are used. -/
def typed (cs : List Char) : List Char := (Text.normal cs).filter fun c => !isControl c

theorem passwordBytes_eq_iff {p q : String} :
    passwordBytes p = passwordBytes q ↔ typed p.toList = typed q.toList := by
  constructor
  · intro h
    have hread := congrArg Text.Utf8.read? h
    simp only [passwordBytes, Text.Utf8.read?_write, Option.some.injEq] at hread
    exact String.ofList_injective hread
  · intro h
    exact congrArg (fun cs => Text.Utf8.write (String.ofList cs)) h

/-- Whether a code point is left by the removal of control characters. -/
def keeps (n : Nat) : Bool := !isControl (Char.ofNat n)

theorem toNat_typed (cs : List Char) :
    (typed cs).map Char.toNat = (collect (points cs)).reverse.filter keeps := by
  rw [typed, Text.normal_eq, List.filter_map, List.map_map]
  refine (List.map_congr_left ?_).trans (List.map_id _)
  intro n hn
  have hkeeps := (List.mem_filter.mp hn).2
  show (Char.ofNat n).toNat = n
  by_cases hvalid : n.isValidChar
  · exact Text.toNat_ofNat_of_isValidChar hvalid
  · -- The character of such a point would be a control character.
    rw [Function.comp_apply, Char.ofNat, dif_neg hvalid] at hkeeps
    exact absurd hkeeps (by decide)

theorem eq_of_map_toNat {cs ds : List Char} (h : cs.map Char.toNat = ds.map Char.toNat) : cs = ds :=
  List.map_injective_iff.mpr (fun _ _ => Char.toNat_inj.mp) h

/-- Control characters are no marks. -/
theorem combiningClass_of_not_keeps {n : Nat} (h : keeps n = false) : Text.combiningClass n = 0 := by
  rw [← Text.combiningClass_ofNat]
  have hsmall : (Char.ofNat n).toNat < 0x300 := by
    simp only [keeps, isControl, Bool.not_eq_false', Bool.or_eq_true, Bool.and_eq_true,
      decide_eq_true_eq] at h
    omega
  rw [Text.combiningClass, if_pos hsmall]

section Parts

variable {a p q w : List Char} {c : Char}

/-- **A control character parts a password**: what comes before it and what comes after it are used as if
    each were alone. -/
theorem typed_control (hc : isControl c) (a q : List Char) :
    typed (a ++ c :: q) = typed a ++ typed q := by
  have hsmall : c.toNat < 0xA0 := by
    simp only [isControl, Bool.or_eq_true, Bool.and_eq_true, decide_eq_true_eq] at hc
    omega
  have hclass : Text.combiningClass c.toNat = 0 := by
    rw [Text.combiningClass, if_pos (by omega)]
  have hpoints : points (a ++ c :: q) = points a ++ (c.toNat :: points q) := by
    rw [Text.points_append]
    simp [points, Text.decompose_of_lt hsmall]
  have hcollect : collect (points (a ++ c :: q)) =
      collect (points q) ++ c.toNat :: collect (points a) := by
    rw [hpoints, Text.collect_append, List.foldl_cons, Text.append_of_starter hclass]
    refine Text.foldl_append_of_joins ?_
    -- Its class is the least one, so that every mark may follow it.
    intro m hm n _
    cases hm
    exact .inr (by omega)
  have hleft : keeps c.toNat = false := by
    rw [keeps, Char.ofNat_toNat, hc]
    rfl
  apply eq_of_map_toNat
  rw [toNat_typed, hcollect, List.map_append, toNat_typed, toNat_typed]
  simp [hleft]

/-- Where the order of marks is settled, a password is used part by part. -/
theorem typed_append_of_settled (h : Settled a p) : typed (a ++ p) = typed a ++ typed p := by
  have hcollect : collect (points a ++ points p) = collect (points p) ++ collect (points a) :=
    Text.collect_append_iff.mpr ⟨Text.settled_iff.mp h, rfl⟩
  apply eq_of_map_toNat
  rw [toNat_typed, Text.points_append, hcollect, List.map_append, toNat_typed, toNat_typed,
    List.reverse_append, List.filter_append]

/-- **And it is used part by part only there.** -/
theorem typed_append_iff : typed (a ++ p) = typed a ++ w ↔ Settled a p ∧ w = typed p := by
  constructor
  · intro h
    let whole := (collect (points a ++ points p)).reverse
    let size := (points a).length
    have hused :
        whole.filter keeps = (collect (points a)).reverse.filter keeps ++ w.map Char.toNat := by
      have hnat := congrArg (List.map Char.toNat) h
      rwa [toNat_typed, Text.points_append, List.map_append, toNat_typed] at hnat
    -- The points that are no marks have their places, whatever comes after them.
    have hstarters : (whole.take size).map Text.starter? =
        (collect (points a)).reverse.map Text.starter? := by
      rw [List.map_take, List.map_reverse, List.map_reverse, Text.map_starter?_collect,
        Text.map_starter?_collect, List.reverse_reverse, List.reverse_reverse, List.map_append]
      exact List.take_left' (List.length_map _)
    rw [← List.take_append_drop size whole, List.filter_append] at hused
    obtain ⟨hfirst, hrest⟩ := Text.eq_of_filter_append (fun _ => combiningClass_of_not_keeps)
      hstarters hused
    have hcollect :
        collect (points a ++ points p) = (whole.drop size).reverse ++ collect (points a) := by
      apply List.reverse_injective
      rw [List.reverse_append, List.reverse_reverse, ← hfirst]
      exact (List.take_append_drop size whole).symm
    obtain ⟨hjoins, hlater⟩ := Text.collect_append_iff.mp hcollect
    refine ⟨Text.settled_iff.mpr hjoins, eq_of_map_toNat ?_⟩
    rw [← hrest, toNat_typed, ← hlater, List.reverse_reverse]
  · rintro ⟨hsettled, rfl⟩
    exact typed_append_of_settled hsettled

end Parts

/-! ## Control characters put in -/

/-- The second text is the first one with control characters put in. Each of them goes between the text
    since the last one and the rest of the first text, and these two are as `gap` demands. -/
inductive Padded (gap : List Char → List Char → Prop) : List Char → List Char → Prop
  | same (p : List Char) : Padded gap p p
  | control {a p q : List Char} {c : Char} (hc : isControl c) (hgap : gap a p) (h : Padded gap p q) :
      Padded gap (a ++ p) (a ++ c :: q)

section Padding

variable {gap : List Char → List Char → Prop} {p q : List Char}

/-- **Control characters that hold back no mark are ignored.** -/
theorem typed_eq_of_padded (h : Padded Settled p q) : typed q = typed p := by
  induction h with
  | same p => rfl
  | control hc hsettled _ ih => rw [typed_control hc, ih, typed_append_of_settled hsettled]

/-- **Those that are ignored hold back no mark.** -/
theorem Padded.settled (h : Padded gap p q) (heq : typed q = typed p) : Padded Settled p q := by
  induction h with
  | same p => exact .same p
  | control hc _ _ ih =>
    rw [typed_control hc] at heq
    obtain ⟨hsettled, hrest⟩ := typed_append_iff.mp heq.symm
    exact .control hc hsettled (ih hrest)

end Padding

/-! ## Containers -/

variable {G : Type} [SignatureScheme G]

theorem Container.decrypt_congr {p q : String} (h : passwordBytes q = passwordBytes p) (c : Container) :
    c.decrypt q = c.decrypt p := by
  rw [Container.decrypt, Container.decrypt, h]

/-- A container opens to its secret with each password that is used as the one it was made for. -/
theorem Container.decrypt_of_encrypt {secret : Bytes} {p q : String} {cost : Cost} {t t' : Tape}
    {c : Container} (hsame : passwordBytes q = passwordBytes p)
    (h : encrypt G secret p cost t = some (.ok c, t')) : c.decrypt q = .ok secret := by
  obtain ⟨-, salt, iv, uuid, hlock⟩ := Container.encrypt_eq_some h
  rw [Container.decrypt_congr hsame, Container.decrypt_lock hlock.symm]

/-- **Control characters in a password are ignored just if they hold back no mark.** A password with
    control characters put in, anywhere and any number of them, stands for the same bytes just if at each
    of them the order of the marks before it and after it is settled. Then every container is opened or
    refused alike with both, and what was made for the one is opened by the other. -/
theorem passwordBytes_padded {p q : String} (h : Padded (fun _ _ => True) p.toList q.toList) :
    (passwordBytes q = passwordBytes p ↔ Padded Settled p.toList q.toList) ∧
    (Padded Settled p.toList q.toList →
      (∀ c : Container, c.decrypt q = c.decrypt p) ∧
      ∀ (secret : Bytes) (cost : Container.Cost) (t t' : Tape) (c : Container),
        (Container.encrypt G secret p cost t = some (.ok c, t') → c.decrypt q = .ok secret) ∧
        (Container.encrypt G secret q cost t = some (.ok c, t') → c.decrypt p = .ok secret)) := by
  have hiff : passwordBytes q = passwordBytes p ↔ Padded Settled p.toList q.toList := by
    rw [passwordBytes_eq_iff]
    exact ⟨h.settled, typed_eq_of_padded⟩
  refine ⟨hiff, ?_⟩
  intro hsettled
  have hsame := hiff.mpr hsettled
  refine ⟨Container.decrypt_congr hsame, ?_⟩
  intro secret cost t t' c
  exact ⟨Container.decrypt_of_encrypt hsame, Container.decrypt_of_encrypt hsame.symm⟩

/-- Between a letter and its mark, and at the end, control characters are ignored. -/
theorem passwordBytes_padded_accent :
    let secret := (Scalar.ofNat 5).toOctets.toList
    let p := "e\u0301x"
    let q := "e\x7f\u0301x\x00"
    Padded Settled p.toList q.toList ∧ passwordBytes q = passwordBytes p ∧
    ∃ c t',
      Container.encrypt Curve.Signatures secret p ⟨2, 1, 1⟩ (Tape.zeros 0 64) = some (.ok c, t') ∧
      c.decrypt q = .ok secret := by
  intro secret p q
  have hpadded : ∀ gap : List Char → List Char → Prop, gap ['e'] ['\u0301', 'x'] →
      gap ['\u0301', 'x'] [] → Padded gap p.toList q.toList := by
    intro gap hfirst hlast
    have hp : p.toList = ['e'] ++ ['\u0301', 'x'] := by decide
    have hq : q.toList = ['e'] ++ '\x7f' :: (['\u0301', 'x'] ++ '\x00' :: []) := by decide
    rw [hp, hq]
    refine .control (by decide) hfirst ?_
    exact .control (p := []) (by decide) hlast (.same [])
  have hsettled : Padded Settled p.toList q.toList := by
    refine hpadded Settled ?_ ?_
    · have hlast : (Text.normal ['e']).getLast? = some 'e' := by decide +kernel
      intro x hx y _
      rw [hlast] at hx
      cases hx
      exact .inr (Nat.zero_le _)
    · intro x _ y hy
      cases hy
  obtain ⟨hiff, hopens⟩ := passwordBytes_padded (G := Curve.Signatures)
    (hpadded (fun _ _ => True) trivial trivial)
  obtain ⟨c, hc⟩ : ∃ c, Container.lock Curve.Signatures secret p ⟨2, 1, 1⟩ (.zero 32) (.zero 16)
      (.zero 16) = .ok c :=
    Container.exists_lock (show Scrypt.log2Exact? (2 : UInt64).toNat = some (0 + 1) by decide)
      (by decide)
  have hmade := Container.encrypt_zeros Curve.Signatures secret p ⟨2, 1, 1⟩
  rw [hc] at hmade
  exact ⟨hsettled, hiff.mpr hsettled, c, _, hmade, ((hopens hsettled).2 _ _ _ _ _).1 hmade⟩

/-- Between marks that change places, a control character is not ignored. -/
theorem passwordBytes_held_back :
    let p := "a\u0301\u0323"
    let q := "a\u0301\x01\u0323"
    Padded (fun _ _ => True) p.toList q.toList ∧ passwordBytes q ≠ passwordBytes p := by
  intro p q
  refine ⟨?_, by decide +kernel⟩
  have hp : p.toList = ['a', '\u0301'] ++ ['\u0323'] := by decide
  have hq : q.toList = ['a', '\u0301'] ++ '\x01' :: ['\u0323'] := by decide
  rw [hp, hq]
  exact .control (by decide) trivial (.same _)

end Registrar.Keystore

import Registrar.Exit.Message
import Registrar.Proofs.Ssz.Chunk

/-!
# What the root of an exit binds

Three pairs are hashed for the root that is signed: the epoch and the validator, the version of the fork
and the network's first root, and the roots of these two. The last of them takes 28 bytes of the fork's
root only, so the fork and the network are bound as far as these bytes go and no further.

## Contents

- `Exit.hashed`, the byte strings hashed for a root;
- `Exit.objectRoot_inj`, `Exit.forkRoot_inj` and `Exit.domain_eq_iff`, what each part holds;
- `Exit.signingRoot_eq_iff`, and `Exit.signingRoot_binding`.
-/

namespace Registrar.Exit

/-- The byte strings that are hashed for the root of an exit. -/
def hashed (e : Exit) : List Bytes :=
  let pairs : List (Hash × Hash) := [
    (Ssz.number e.epoch, Ssz.number e.validatorIndex),
    (Ssz.chunk e.version.toList, e.genesisRoot),
    (e.objectRoot, e.domain)]
  pairs.map fun (a, b) => a.toList ++ b.toList

theorem length_of_mem_hashed {e : Exit} {x : Bytes} (hx : x ∈ e.hashed) : x.length = 64 := by
  obtain ⟨⟨a, b⟩, -, rfl⟩ := List.mem_map.mp hx
  rw [List.length_append, a.length_toList, b.length_toList]

variable {e e' : Exit} {inputs : List Bytes}

/-! ## Parts -/

theorem objectRoot_inj (hno : ¬ Collides sha256 inputs) (hin : e.hashed ⊆ inputs)
    (hin' : e'.hashed ⊆ inputs) (h : e.objectRoot = e'.objectRoot) :
    e.validatorIndex = e'.validatorIndex ∧ e.epoch = e'.epoch := by
  have hpair := Sha256.pair_inj hno (hin (by simp [hashed])) (hin' (by simp [hashed])) h
  exact ⟨Ssz.number_injective hpair.2, Ssz.number_injective hpair.1⟩

theorem forkRoot_inj (hno : ¬ Collides sha256 inputs) (hin : e.hashed ⊆ inputs)
    (hin' : e'.hashed ⊆ inputs) (h : e.forkRoot = e'.forkRoot) :
    e.version = e'.version ∧ e.genesisRoot = e'.genesisRoot := by
  have hpair := Sha256.pair_inj hno (hin (by simp [hashed])) (hin' (by simp [hashed])) h
  have hlength := e.version.length_toList
  have hversion : e.version.toList = e'.version.toList :=
    Ssz.chunk_inj (hlength.trans e'.version.length_toList.symm) (by omega) hpair.1
  exact ⟨Octets.ext hversion, hpair.2⟩

/-- The domain holds the first 28 bytes of the fork's root. -/
theorem domain_eq_iff : e.domain = e'.domain ↔ e.forkRoot.toList.take 28 = e'.forkRoot.toList.take 28 := by
  rw [domain, domain, Octets.mk.injEq, List.append_cancel_left_eq]

/-! ## The root -/

/-- **The root that is signed stands for the validator, the epoch and 28 bytes of the fork's root.** -/
theorem signingRoot_eq_iff (hno : ¬ Collides sha256 inputs) (hin : e.hashed ⊆ inputs)
    (hin' : e'.hashed ⊆ inputs) :
    e.signingRoot = e'.signingRoot ↔ e.validatorIndex = e'.validatorIndex ∧ e.epoch = e'.epoch ∧
      e.forkRoot.toList.take 28 = e'.forkRoot.toList.take 28 := by
  constructor
  · intro h
    have htop := Sha256.pair_inj hno (hin (by simp [hashed])) (hin' (by simp [hashed])) h
    have hobject := objectRoot_inj hno hin hin' htop.1
    exact ⟨hobject.1, hobject.2, domain_eq_iff.mp htop.2⟩
  · rintro ⟨hvalidator, hepoch, hfork⟩
    rw [signingRoot, signingRoot, objectRoot, objectRoot, hvalidator, hepoch, domain_eq_iff.mpr hfork]

/-- **The root of an exit binds validator and epoch, and the network as far as 28 bytes go.** Two exits have
    one root exactly if they agree on the first two and on the first 28 bytes of their forks' roots; these
    roots agree as a whole exactly if the versions and the networks do; unless two of the strings of 64
    bytes collide that were hashed for the two exits. -/
theorem signingRoot_binding (e e' : Exit) :
    (∀ x ∈ e.hashed ++ e'.hashed, x.length = 64) ∧
      (Collides sha256 (e.hashed ++ e'.hashed) ∨
        ((e.signingRoot = e'.signingRoot ↔ e.validatorIndex = e'.validatorIndex ∧ e.epoch = e'.epoch ∧
            e.forkRoot.toList.take 28 = e'.forkRoot.toList.take 28) ∧
          (e.forkRoot = e'.forkRoot ↔ e.version = e'.version ∧ e.genesisRoot = e'.genesisRoot))) := by
  refine ⟨?_, ?_⟩
  · intro x hx
    rcases List.mem_append.mp hx with hx | hx
    · exact length_of_mem_hashed hx
    · exact length_of_mem_hashed hx
  by_cases hno : Collides sha256 (e.hashed ++ e'.hashed)
  · exact .inl hno
  have hin : e.hashed ⊆ e.hashed ++ e'.hashed := List.subset_append_left _ _
  have hin' : e'.hashed ⊆ e.hashed ++ e'.hashed := List.subset_append_right _ _
  refine .inr ⟨signingRoot_eq_iff hno hin hin', forkRoot_inj hno hin hin', ?_⟩
  rintro ⟨hversion, hgenesis⟩
  rw [forkRoot, forkRoot, hversion, hgenesis]

end Registrar.Exit

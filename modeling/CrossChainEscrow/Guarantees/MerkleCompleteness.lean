import CrossChainEscrow.Source.Execution

/-!
# A maker's proofs are accepted

The proof that the tree builder gives out for a position leads the verifier of
the program from the leaf there to the root of the tree, for every number of
leaves and every hash.
-/
namespace CrossChainEscrow.Source
open Library.Words Library.Bytes Library.Accounts Library.SortedMerkle

variable {K : Type} (env : Environment K)

/-- Inside the list no index is out of bounds. -/
theorem proofSibling_eq {data : List Bytes32} {node : Nat} (inside : node < data.length) :
    proofSibling data node = .ok ((pairScheme env).sibling data node) := by
  unfold proofSibling Scheme.sibling
  by_cases odd : node % 2 = 1
  · have before : node - 1 < data.length := by omega
    rw [if_pos odd, if_pos odd, orFault_ok, List.getD_eq_getElem?_getD]
    simp [before]
  · rw [if_neg odd, if_neg odd, List.getD_eq_getElem?_getD]
    by_cases last : node + 1 = data.length
    · rw [if_pos last]
      simp [last, pairScheme]
    · have after : node + 1 < data.length := by omega
      rw [if_neg last, orFault_ok]
      simp [after]

theorem proofLoop_eq (fuel : Nat) {data : List Bytes32} {node : Nat} (inside : node < data.length) :
    proofLoop env fuel data node = .ok ((pairScheme env).siblings fuel data node) := by
  induction fuel generalizing data node with
  | zero => rfl
  | succ fuel ih =>
    rw [proofLoop, Scheme.siblings]
    by_cases many : data.length > 1
    · have above : node / 2 < ((pairScheme env).hashLevel data).length := by
        rw [Scheme.hashLevel_length]
        omega
      rw [if_pos many, if_pos many, proofSibling_eq env inside, hashLevel_eq, ih above]
      rfl
    · rw [if_neg many, if_neg many]

/-- For every list of at least two pairs and every position in it, the builder
gives out a proof, and with the pair of that position it is accepted against the
root the builder computes. -/
theorem getProof_complete (pairs : List IndexedSecret) (enough : 2 ≤ pairs.length) {i : Nat}
    (inside : i < pairs.length) : ∃ proof root,
    getProof env (hashPairs env pairs) i = .ok proof ∧
    getRoot env (hashPairs env pairs) = .ok root ∧
    MerkleProof.processProof env ⟨proof, pairs[i].index, pairs[i].hashedSecret⟩ = root := by
  have length : (hashPairs env pairs).length = pairs.length := by simp [hashPairs]
  have within : i < (hashPairs env pairs).length := by omega
  have single : ((pairScheme env).climb pairs.length (hashPairs env pairs)).length = 1 :=
    Scheme.climb_length _ _ _ (by omega) (by omega)
  obtain ⟨root, top⟩ := List.length_eq_one_iff.mp single
  refine ⟨(pairScheme env).siblings pairs.length (hashPairs env pairs) i, root, ?_, ?_, ?_⟩
  · rw [getProof, length]
    exact proofLoop_eq env _ within
  · rw [getRoot, bind_ok]
    refine ⟨(), requireThat_ok.mpr (by omega), ?_⟩
    rw [rootLoop_eq, length, top]
    rfl
  · have leaf : (hashPairs env pairs)[i]? = some (env.keccak pairs[i].message) := by
      simp [hashPairs, inside]
    rw [processProof_eq]
    exact (pairScheme env).complete top leaf

/-- The last of the three sample pairs, whose sibling is padding. -/
theorem getProof_complete_sample : ∃ proof root,
    getProof Sample.env (hashPairs Sample.env Sample.pairs) 2 = .ok proof ∧
    getRoot Sample.env (hashPairs Sample.env Sample.pairs) = .ok root ∧
    MerkleProof.processProof Sample.env
      ⟨proof, Sample.pairs[2].index, Sample.pairs[2].hashedSecret⟩ = root :=
  getProof_complete Sample.env Sample.pairs (by decide) (by decide)

end CrossChainEscrow.Source

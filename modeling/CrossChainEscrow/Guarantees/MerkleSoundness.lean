import CrossChainEscrow.Effects.PartialFill
import CrossChainEscrow.Effects.SrcFill
import CrossChainEscrow.Source.Execution

/-!
# A fill's secret is one the maker committed to

Whatever proof a taker supplies, a fill that succeeds on an order whose hashlock
carries the root of the maker's tree uses one of the maker's pairs, or the tree
and the proof exhibit what breaks the digest.
-/

namespace CrossChainEscrow.Source
open Library.Words Library.Bytes Library.Accounts Library.SortedMerkle

variable {K : Type} [DecidableEq K] {env : Environment K}

/-- The messages hashed by the builder, up to the level whose only digest is the
root, and those hashed by the verifier contain two that differ and whose digests
agree on bytes 2 to 31, or one that hashes to zeros. -/
def BreaksDigest (env : Environment K) (pairs : List IndexedSecret) (root : Bytes32)
    (proof : MerkleProof) : Prop :=
  ∃ depth, ((pairScheme env).msgsAt (pairs.map IndexedSecret.message) depth).map env.keccak = [root] ∧
    (pairScheme env).Exhibit (fun digest => digest.1.drop 2)
      ((pairScheme env).treeMsgs (pairs.map IndexedSecret.message) depth)
      ((pairScheme env).proofMsgs (IndexedSecret.message ⟨proof.index, proof.hashedSecret⟩)
        proof.proof)

omit [DecidableEq K] in
/-- A proof that reaches the root up to its first two bytes shows a pair of the
maker. -/
theorem MerkleProof.committed {pairs : List IndexedSecret} (enough : 2 ≤ pairs.length)
    {root : Bytes32} (built : getRoot env (hashPairs env pairs) = .ok root) {proof : MerkleProof}
    (reached : (proof.processProof env).1.drop 2 = root.1.drop 2) :
    (⟨proof.index, proof.hashedSecret⟩ : IndexedSecret) ∈ pairs ∨
      BreaksDigest env pairs root proof := by
  obtain ⟨top, depth, computed, level⟩ := getRoot_ok env enough
  obtain rfl : top = root := by
    rw [built] at computed
    exact (Except.ok.inj computed).symm
  have leaves : ∀ x ∈ pairs.map IndexedSecret.message, ∀ a b, x ≠ (pairScheme env).node a b := by
    intro x member a b
    obtain ⟨pair, _, rfl⟩ := List.mem_map.mp member
    exact message_ne_node env pair a b
  have isRoot : top ∈ ((pairScheme env).msgsAt (pairs.map IndexedSecret.message) depth).map
      (pairScheme env).hash := by
    change top ∈ List.map env.keccak _
    rw [level]
    exact List.mem_singleton.mpr rfl
  rw [processProof_eq] at reached
  rcases (pairScheme env).sound (fun digest : Bytes32 => digest.1.drop 2) leaves
    (message_ne_node env _) isRoot reached with member | exhibit
  · obtain ⟨pair, inPairs, same⟩ := List.mem_map.mp member
    left
    rw [← IndexedSecret.message_injective same]
    exact inPairs
  · exact Or.inr ⟨depth, level, exhibit⟩

/-- On an order in parts whose hashlock carries the root of a maker's tree, every
successful fill stores the hashed secret of one of the maker's pairs, that of the
index it used, unless the digest is broken. -/
theorem Src.createEscrow_committed {pairs : List IndexedSecret} (enough : 2 ≤ pairs.length)
    {root : Bytes32} (built : getRoot env (hashPairs env pairs) = .ok root) {parts : U16}
    {clock : Clock} {ix : Src.CreateEscrow K} {l l' : Chain K} {order : Order K}
    (live : l.programAt ix.order = some (.order order))
    (multi : order.allowMultipleFills = true)
    (hashlock : order.hashlock = prepareHashlockForRoot root parts)
    (ran : Src.createEscrow env clock ix l = .ok l') :
    ∃ proof escrow, ix.merkleProof = some proof ∧
      l'.programAt ix.escrow = some (.escrowSrc escrow) ∧
      (((⟨proof.index, proof.hashedSecret⟩ : IndexedSecret) ∈ pairs ∧
        escrow.hashlock = proof.hashedSecret) ∨ BreaksDigest env pairs root proof) := by
  obtain ⟨v, steps⟩ := Src.createEscrow_steps ran
  have same := steps.order_eq live
  have given := steps.proofGiven
  rw [same, multi] at given
  obtain ⟨proof, provided⟩ := Option.isSome_iff_exists.mp given.symm
  have accepted := steps.accepted
  rw [provided] at accepted
  obtain ⟨reaches, _, stored⟩ := acceptedHashlock_some accepted
  rw [same, hashlock, prepareHashlockForRoot_drop] at reaches
  refine ⟨proof, ix.newEscrow env v.order v.hashlock v.dstAmount clock.unixTimestamp, provided,
    steps.escrow_programAt, ?_⟩
  exact (MerkleProof.committed enough built reaches).imp (fun member => ⟨member, stored⟩) id

def Sample.oddFill : Sample.Scenario
    (fun r => ((r.state.ledger.programAt (Sample.orderAt Sample.multiple)).bind
        Data.toOrder).any (fun order => order.allowMultipleFills &&
          decide (order.hashlock = prepareHashlockForRoot Sample.root 2)) = true ∧
      (Src.createEscrow Sample.env ⟨150⟩ (Sample.createEscrow Sample.multiple 400
        Sample.proofs[1]?) r.state.ledger).toOption.isSome = true) where
  commands := Sample.multipleFills (([300] : List U64).zip Sample.proofs)

/-- The second fill of the sample order, whose tree has an odd level. -/
theorem Src.createEscrow_committed_sample : ∃ (l l' : Chain Term) (proof : MerkleProof)
    (escrow : EscrowSrc Term),
    Src.createEscrow Sample.env ⟨150⟩ (Sample.createEscrow Sample.multiple 400
      Sample.proofs[1]?) l = .ok l' ∧
    (((⟨proof.index, proof.hashedSecret⟩ : IndexedSecret) ∈ Sample.pairs ∧
      escrow.hashlock = proof.hashedSecret) ∨
      BreaksDigest Sample.env Sample.pairs Sample.root proof) := by
  obtain ⟨r, _, created, filled⟩ := Sample.oddFill.reached
  obtain ⟨order, held, checks⟩ := (Option.any_eq_true _ _).mp created
  simp only [Bool.and_eq_true, decide_eq_true_eq] at checks
  obtain ⟨data, live, isOrder⟩ := Option.bind_eq_some_iff.mp held
  obtain rfl := (Data.toOrder_eq_some _ _).mp isOrder
  obtain ⟨l', ran⟩ := isSome_toOption filled
  have built : getRoot Sample.env (hashPairs Sample.env Sample.pairs) = .ok Sample.root := by
    decide +kernel
  obtain ⟨proof, escrow, _, _, committed⟩ := Src.createEscrow_committed (by decide) built
    live checks.1 checks.2 ran
  exact ⟨_, l', proof, escrow, ran, committed⟩

end CrossChainEscrow.Source

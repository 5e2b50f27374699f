import CrossChainEscrow.Library.SortedMerkle
import CrossChainEscrow.Source.Common

/-!
# Merkle proofs of partial fills

`cross-chain-escrow-src/src/merkle_tree.rs`, and the tree builder of
`tests/helpers_src.rs` that makers use. Both are the sorted-pair scheme of the
library over the 40-byte leaf and 64-byte pair messages.
-/
namespace CrossChainEscrow.Source
open Library.Words Library.Bytes Library.Accounts Library.SortedMerkle

variable {K : Type} (env : Environment K)

structure MerkleProof where
  proof : List Bytes32
  index : U64
  hashedSecret : Bytes32
  deriving DecidableEq

def MerkleProof.hashLeaf (p : MerkleProof) : Bytes32 :=
  hashv env [u64ToBeBytes p.index, p.hashedSecret.1]

def MerkleProof.processProof (p : MerkleProof) : Bytes32 :=
  p.proof.foldl (fun computedHash proofElement =>
    hashv env [(min proofElement computedHash).1, (max proofElement computedHash).1])
    (p.hashLeaf env)

/-! ## The tree builder -/

def hashNodes (left right : Bytes32) : Bytes32 :=
  if left < right then hashv env [left.1, right.1] else hashv env [right.1, left.1]

def hashLevel : List Bytes32 → List Bytes32
  | [] => []
  | [last] => [hashNodes env last zero32]
  | left :: right :: rest => hashNodes env left right :: hashLevel rest

/-- The `while` loop of `get_root`; every level at least loses one node. -/
def rootLoop : Nat → List Bytes32 → List Bytes32
  | 0, data => data
  | fuel + 1, data => if data.length > 1 then rootLoop fuel (hashLevel env data) else data

def getRoot (data : List Bytes32) : Result Bytes32 := do
  requireThat (data.length > 1) (.panic "won't generate root for single leaf")
  orFault (rootLoop env data.length data).head? (.panic "index out of bounds")

/-- The `sibling` of a step of `get_proof`; indexing may panic. -/
def proofSibling (data : List Bytes32) (node : Nat) : Result Bytes32 :=
  if node % 2 = 1 then orFault data[node - 1]? (.panic "index out of bounds")
  else if node + 1 = data.length then .ok zero32
  else orFault data[node + 1]? (.panic "index out of bounds")

/-- The `while` loop of `get_proof`: the sibling of a node, then those above it. -/
def proofLoop : Nat → List Bytes32 → Nat → Result (List Bytes32)
  | 0, _, _ => .ok []
  | fuel + 1, data, node =>
    if data.length > 1 then do
      let sibling ← proofSibling data node
      let above ← proofLoop fuel (hashLevel env data) (node / 2)
      .ok (sibling :: above)
    else .ok []

def getProof (data : List Bytes32) (node : Nat) : Result (List Bytes32) :=
  proofLoop env data.length data node

/-- The root with its first two bytes replaced by the number of parts. -/
def prepareHashlockForRoot (root : Bytes32) (parts : U16) : Bytes32 :=
  ⟨beBytes 2 parts.toNat ++ root.1.drop 2, by simp [root.2]⟩

theorem prepareHashlockForRoot_drop (root : Bytes32) (parts : U16) :
    (prepareHashlockForRoot root parts).1.drop 2 = root.1.drop 2 := by
  rw [prepareHashlockForRoot, List.drop_append_of_le_length (by simp)]
  rw [List.drop_of_length_le (by simp), List.nil_append]

/-- A maker's pair: the index and the hash of the secret it unlocks. -/
structure IndexedSecret where
  index : U64
  hashedSecret : Bytes32
  deriving DecidableEq

/-- The 40 bytes of a leaf. -/
def IndexedSecret.message (pair : IndexedSecret) : List Byte :=
  u64ToBeBytes pair.index ++ pair.hashedSecret.1

def hashPairs (pairs : List IndexedSecret) : List Bytes32 :=
  pairs.map (fun pair => env.keccak pair.message)

/-! ## The scheme -/

def pairScheme : Scheme (List Byte) Bytes32 where
  hash := env.keccak
  node a b := a.1 ++ b.1
  node_inj := by
    intro a b c d same
    obtain ⟨left, right⟩ := List.append_inj same (a.2.trans c.2.symm)
    exact ⟨Subtype.ext left, Subtype.ext right⟩
  padding := zero32

theorem IndexedSecret.message_injective : Function.Injective IndexedSecret.message := by
  rintro ⟨index, secret⟩ ⟨index', secret'⟩ same
  obtain ⟨left, right⟩ := List.append_inj same (by simp)
  have indices : index = index' := u64ToBeBytes_injective left
  have secrets : secret = secret' := Subtype.ext right
  rw [indices, secrets]

/-- Leaves are 8 bytes shorter than 64-byte pairs, whatever they hold. -/
theorem message_ne_node (pair : IndexedSecret) (a b : Bytes32) :
    pair.message ≠ (pairScheme env).node a b := by
  intro same
  have lengths := congrArg List.length same
  simp [IndexedSecret.message, pairScheme, pair.hashedSecret.2, a.2, b.2] at lengths

theorem hashNodes_eq (left right : Bytes32) :
    hashNodes env left right = (pairScheme env).hashNodes left right := by
  unfold hashNodes Scheme.hashNodes Scheme.pair
  split
  · next ordered =>
    rw [min_eq_left ordered.le, max_eq_right ordered.le]
    simp [hashv, pairScheme]
  · next ordered =>
    rw [min_eq_right (not_lt.mp ordered), max_eq_left (not_lt.mp ordered)]
    simp [hashv, pairScheme]

theorem hashLevel_eq (data : List Bytes32) : hashLevel env data = (pairScheme env).hashLevel data := by
  induction data using List.twoStepInduction with
  | nil => simp [hashLevel, Scheme.hashLevel, Scheme.levelMsgs]
  | singleton last =>
    simp [hashLevel, hashNodes_eq, Scheme.hashLevel, Scheme.levelMsgs, Scheme.hashNodes, pairScheme]
  | cons_cons left right rest ih _ =>
    rw [hashLevel, ih, hashNodes_eq, Scheme.hashLevel, Scheme.hashLevel, Scheme.levelMsgs,
      List.map_cons]
    rfl

theorem rootLoop_eq (fuel : Nat) (data : List Bytes32) :
    rootLoop env fuel data = (pairScheme env).climb fuel data := by
  induction fuel generalizing data with
  | zero => rfl
  | succ fuel ih =>
    rw [rootLoop, Scheme.climb, hashLevel_eq, ih]

/-- The builder returns a root for every list it accepts, and the root is the
only node of some level. -/
theorem getRoot_ok {pairs : List IndexedSecret} (enough : 2 ≤ pairs.length) :
    ∃ root depth, getRoot env (hashPairs env pairs) = .ok root ∧
      ((pairScheme env).msgsAt (pairs.map IndexedSecret.message) depth).map env.keccak = [root] := by
  have leaves : hashPairs env pairs =
      ((pairScheme env).msgsAt (pairs.map IndexedSecret.message) 0).map (pairScheme env).hash := by
    simp [hashPairs, Scheme.msgsAt, pairScheme]
  have length : (hashPairs env pairs).length = pairs.length := by simp [hashPairs]
  have single : ((pairScheme env).climb pairs.length (hashPairs env pairs)).length = 1 :=
    Scheme.climb_length _ _ _ (by omega) (by omega)
  obtain ⟨depth, _, stops⟩ := (pairScheme env).climb_level
    (pairs.map IndexedSecret.message) pairs.length 0
  rw [← leaves] at stops
  obtain ⟨root, only⟩ := List.length_eq_one_iff.mp single
  refine ⟨root, depth, ?_, ?_⟩
  · have many : (hashPairs env pairs).length > 1 := by omega
    rw [getRoot, bind_ok]
    refine ⟨(), requireThat_ok.mpr many, ?_⟩
    rw [rootLoop_eq, length, only]
    rfl
  · rw [← only, stops]
    rfl

theorem processProof_eq (p : MerkleProof) :
    p.processProof env = (pairScheme env).processProof
      ((pairScheme env).hash (IndexedSecret.message ⟨p.index, p.hashedSecret⟩)) p.proof := by
  simp [MerkleProof.processProof, MerkleProof.hashLeaf, Scheme.processProof, Scheme.hashNodes,
    Scheme.pair, IndexedSecret.message, pairScheme, hashv]

end CrossChainEscrow.Source

import Mathlib.Order.MinMax
import Mathlib.Data.List.Induction

/-!
# Merkle trees over sorted pairs

Leaf messages and pair messages share one hash, a pair is hashed in sorted
order, and the odd node of a level is paired with a padding digest. The
verifier folds a list of siblings that the prover chooses freely, its length
included.

`descend` is the soundness of that fold: a prover whose last hashed message is
a message of the tree either proves one of the tree's leaves, or the messages of
the tree and of the proof contain a collision or a preimage of the padding. The
induction peels the top level of the tree and the last sibling of the proof
together, so nothing is assumed about the siblings.
-/
namespace CrossChainEscrow.Library.SortedMerkle

/-- A hash over messages, some of which are ordered pairs of digests. -/
structure Scheme (M α : Type) where
  hash : M → α
  node : α → α → M
  node_inj : ∀ {a b c d}, node a b = node c d → a = c ∧ b = d
  padding : α

variable {M α : Type} [LinearOrder α]

/-- The message of a pair: the two digests in sorted order. -/
def Scheme.pair (s : Scheme M α) (a b : α) : M := s.node (min a b) (max a b)

def Scheme.hashNodes (s : Scheme M α) (a b : α) : α := s.hash (s.pair a b)

/-- The messages hashed to form the level above. -/
def Scheme.levelMsgs (s : Scheme M α) : List α → List M
  | [] => []
  | [a] => [s.pair a s.padding]
  | a :: b :: rest => s.pair a b :: s.levelMsgs rest

def Scheme.hashLevel (s : Scheme M α) (level : List α) : List α := (s.levelMsgs level).map s.hash

/-- Levels until one node is left, or `fuel` levels. -/
def Scheme.climb (s : Scheme M α) : Nat → List α → List α
  | 0, level => level
  | fuel + 1, level => if 1 < level.length then s.climb fuel (s.hashLevel level) else level

/-- The fold of the verifier. -/
def Scheme.processProof (s : Scheme M α) (leaf : α) (proof : List α) : α :=
  proof.foldl (fun computed sibling => s.hashNodes sibling computed) leaf

/-! ## Levels shrink to a root -/

variable (s : Scheme M α)

theorem Scheme.levelMsgs_length (level : List α) :
    (s.levelMsgs level).length = (level.length + 1) / 2 := by
  induction level using List.twoStepInduction with
  | nil => simp [Scheme.levelMsgs]
  | singleton a => simp [Scheme.levelMsgs]
  | cons_cons a b rest ih _ =>
    rw [Scheme.levelMsgs, List.length_cons, ih, List.length_cons, List.length_cons]
    omega

theorem Scheme.hashLevel_length (level : List α) :
    (s.hashLevel level).length = (level.length + 1) / 2 := by
  rw [Scheme.hashLevel, List.length_map, Scheme.levelMsgs_length]

/-- With as much fuel as nodes the climb ends in exactly one node. -/
theorem Scheme.climb_length (fuel : Nat) (level : List α) (nonempty : 0 < level.length)
    (enough : level.length ≤ fuel + 1) : (s.climb fuel level).length = 1 := by
  induction fuel generalizing level with
  | zero =>
    rw [Scheme.climb]
    omega
  | succ fuel ih =>
    rw [Scheme.climb]
    split
    · apply ih
      · rw [Scheme.hashLevel_length]
        omega
      · rw [Scheme.hashLevel_length]
        omega
    · omega

/-! ## The messages of a tree and of a proof -/

/-- The messages hashed `depth` levels above the leaves. -/
def Scheme.msgsAt (s : Scheme M α) (leaves : List M) : Nat → List M
  | 0 => leaves
  | depth + 1 => s.levelMsgs ((s.msgsAt leaves depth).map s.hash)

/-- All messages hashed up to a depth. -/
def Scheme.treeMsgs (s : Scheme M α) (leaves : List M) (depth : Nat) : List M :=
  (List.range (depth + 1)).flatMap (s.msgsAt leaves)

/-- All messages a verifier hashes. -/
def Scheme.proofMsgs (s : Scheme M α) (m : M) : List α → List M
  | [] => [m]
  | sibling :: rest => m :: s.proofMsgs (s.pair sibling (s.hash m)) rest

/-- The last message a verifier hashes. -/
def Scheme.lastMsg (s : Scheme M α) (m : M) : List α → M
  | [] => m
  | sibling :: rest => s.lastMsg (s.pair sibling (s.hash m)) rest

theorem Scheme.mem_treeMsgs {leaves : List M} {depth : Nat} {m : M} :
    m ∈ s.treeMsgs leaves depth ↔ ∃ i ≤ depth, m ∈ s.msgsAt leaves i := by
  simp only [Scheme.treeMsgs, List.mem_flatMap, List.mem_range, Nat.lt_add_one_iff]

theorem Scheme.processProof_eq (m : M) (proof : List α) :
    s.processProof (s.hash m) proof = s.hash (s.lastMsg m proof) := by
  induction proof generalizing m with
  | nil => rfl
  | cons sibling rest ih => exact ih (s.pair sibling (s.hash m))

theorem Scheme.lastMsg_mem (m : M) (proof : List α) : s.lastMsg m proof ∈ s.proofMsgs m proof := by
  induction proof generalizing m with
  | nil => exact List.mem_singleton.mpr rfl
  | cons sibling rest ih => exact List.mem_cons_of_mem _ (ih _)

theorem Scheme.lastMsg_concat (m : M) (proof : List α) (sibling : α) :
    s.lastMsg m (proof ++ [sibling]) = s.pair sibling (s.hash (s.lastMsg m proof)) := by
  induction proof generalizing m with
  | nil => rfl
  | cons first rest ih => exact ih _

theorem Scheme.proofMsgs_concat (m : M) (proof : List α) (sibling : α) :
    s.proofMsgs m (proof ++ [sibling]) =
      s.proofMsgs m proof ++ [s.lastMsg m (proof ++ [sibling])] := by
  induction proof generalizing m with
  | nil => rfl
  | cons first rest ih =>
    rw [List.cons_append, Scheme.proofMsgs, Scheme.proofMsgs, ih, List.cons_append]
    rfl

/-- The climb stops at some level of the tree. -/
theorem Scheme.climb_level (leaves : List M) (fuel depth : Nat) :
    ∃ d, depth ≤ d ∧ s.climb fuel ((s.msgsAt leaves depth).map s.hash) =
      (s.msgsAt leaves d).map s.hash := by
  induction fuel generalizing depth with
  | zero => exact ⟨depth, Nat.le_refl _, rfl⟩
  | succ fuel ih =>
    rw [Scheme.climb]
    split
    · obtain ⟨d, later, stops⟩ := ih (depth + 1)
      exact ⟨d, by omega, stops⟩
    · exact ⟨depth, Nat.le_refl _, rfl⟩

/-! ## Soundness -/

/-- Both entries of a pair message come from the level below or are padding. -/
theorem Scheme.mem_levelMsgs {level : List α} {m : M} (member : m ∈ s.levelMsgs level) :
    ∃ a b, m = s.pair a b ∧ a ∈ level ∧ (b ∈ level ∨ b = s.padding) := by
  induction level using List.twoStepInduction with
  | nil => cases member
  | singleton a =>
    rw [Scheme.levelMsgs, List.mem_singleton] at member
    exact ⟨a, s.padding, member, List.mem_singleton.mpr rfl, Or.inr rfl⟩
  | cons_cons a b rest ih _ =>
    rw [Scheme.levelMsgs, List.mem_cons] at member
    rcases member with here | below
    · exact ⟨a, b, here, by simp, Or.inl (by simp)⟩
    · obtain ⟨c, d, equal, first, second⟩ := ih below
      refine ⟨c, d, equal, by simp [first], second.imp (fun inRest => by simp [inRest]) id⟩

/-- Sorting loses the order of a pair but none of its entries. -/
theorem Scheme.pair_mem {a b c d : α} (same : s.pair a b = s.pair c d) : d = a ∨ d = b := by
  obtain ⟨least, greatest⟩ := s.node_inj same
  rcases le_total c d with ordered | ordered
  · rw [max_eq_right ordered] at greatest
    exact (max_choice a b).imp (greatest.symm.trans ·) (greatest.symm.trans ·)
  · rw [min_eq_right ordered] at least
    exact (min_choice a b).imp (least.symm.trans ·) (least.symm.trans ·)

/-- What a forged proof gives away: a tree message and a proof message that
differ and collide, up to a projection of the digest, or a proof message that
hashes to the padding. -/
def Scheme.Exhibit (s : Scheme M α) {β : Type} (project : α → β) (tree proof : List M) : Prop :=
  (∃ x ∈ tree, ∃ y ∈ proof, x ≠ y ∧ project (s.hash x) = project (s.hash y)) ∨
    ∃ y ∈ proof, s.hash y = s.padding

omit [LinearOrder α] in
theorem Scheme.Exhibit.mono {β : Type} {project : α → β} {tree tree' proof proof' : List M}
    (h : s.Exhibit project tree proof) (trees : tree ⊆ tree') (proofs : proof ⊆ proof') :
    s.Exhibit project tree' proof' := by
  rcases h with ⟨x, hx, y, hy, differ, collide⟩ | ⟨y, hy, padded⟩
  · exact Or.inl ⟨x, trees hx, y, proofs hy, differ, collide⟩
  · exact Or.inr ⟨y, proofs hy, padded⟩

theorem Scheme.treeMsgs_mono (leaves : List M) {d d' : Nat} (h : d ≤ d') :
    s.treeMsgs leaves d ⊆ s.treeMsgs leaves d' := by
  intro m member
  obtain ⟨i, below, here⟩ := s.mem_treeMsgs.mp member
  exact s.mem_treeMsgs.mpr ⟨i, by omega, here⟩

/-- A verifier whose last message belongs to the tree started at a leaf of the
tree, or exhibits a collision or a preimage of the padding. Leaf messages must
be told apart from pair messages, by their length for instance. -/
theorem Scheme.descend {β : Type} (project : α → β) {leaves : List M} {m : M}
    (leafNotNode : ∀ x ∈ leaves, ∀ a b, x ≠ s.node a b) (notNode : ∀ a b, m ≠ s.node a b)
    (depth : Nat) (proof : List α) (top : s.lastMsg m proof ∈ s.msgsAt leaves depth) :
    m ∈ leaves ∨ s.Exhibit project (s.treeMsgs leaves depth) (s.proofMsgs m proof) := by
  induction depth generalizing proof with
  | zero =>
    induction proof using List.reverseRecOn with
    | nil => exact Or.inl top
    | append_singleton proof sibling _ =>
      rw [Scheme.lastMsg_concat] at top
      exact absurd rfl (leafNotNode _ top _ _)
  | succ depth ih =>
    obtain ⟨a, b, equal, first, second⟩ := s.mem_levelMsgs top
    induction proof using List.reverseRecOn with
    | nil => exact absurd equal (notNode _ _)
    | append_singleton proof sibling _ =>
      rw [Scheme.lastMsg_concat] at equal
      rw [Scheme.proofMsgs_concat]
      have acc : s.hash (s.lastMsg m proof) ∈ (s.msgsAt leaves depth).map s.hash ∨
          s.hash (s.lastMsg m proof) = s.padding := by
        rcases s.pair_mem equal.symm with here | here
        · exact Or.inl (here ▸ first)
        · exact second.imp (here ▸ ·) (here.trans ·)
      rcases acc with below | padded
      · obtain ⟨x, member, collide⟩ := List.mem_map.mp below
        by_cases same : x = s.lastMsg m proof
        · rcases ih proof (same ▸ member) with found | exhibit
          · exact Or.inl found
          · exact Or.inr (exhibit.mono s (s.treeMsgs_mono leaves (Nat.le_succ _))
              (List.subset_append_left _ _))
        · refine Or.inr (Or.inl ⟨x, s.mem_treeMsgs.mpr ⟨depth, Nat.le_succ _, member⟩,
            s.lastMsg m proof, ?_, same, congrArg project collide⟩)
          exact List.mem_append_left _ (s.lastMsg_mem m proof)
      · exact Or.inr (Or.inr ⟨s.lastMsg m proof,
          List.mem_append_left _ (s.lastMsg_mem m proof), padded⟩)

/-- Soundness against a root that is only compared up to a projection. -/
theorem Scheme.sound {β : Type} (project : α → β) {leaves : List M} {m : M} {proof : List α}
    (leafNotNode : ∀ x ∈ leaves, ∀ a b, x ≠ s.node a b) (notNode : ∀ a b, m ≠ s.node a b)
    {depth : Nat} {root : α} (isRoot : root ∈ (s.msgsAt leaves depth).map s.hash)
    (accepted : project (s.processProof (s.hash m) proof) = project root) :
    m ∈ leaves ∨ s.Exhibit project (s.treeMsgs leaves depth) (s.proofMsgs m proof) := by
  obtain ⟨x, member, rfl⟩ := List.mem_map.mp isRoot
  by_cases same : x = s.lastMsg m proof
  · exact s.descend project leafNotNode notNode depth proof (same ▸ member)
  · refine Or.inr (Or.inl ⟨x, s.mem_treeMsgs.mpr ⟨depth, Nat.le_refl _, member⟩,
      s.lastMsg m proof, s.lastMsg_mem m proof, same, ?_⟩)
    rw [← accepted, Scheme.processProof_eq]

/-! ## Completeness -/

/-- The other half of the pair of position `i`, padding beside an odd last node. -/
def Scheme.sibling (s : Scheme M α) (level : List α) (i : Nat) : α :=
  if i % 2 = 1 then level.getD (i - 1) s.padding else level.getD (i + 1) s.padding

/-- The siblings on the way up from position `i`, which halves at every level. -/
def Scheme.siblings (s : Scheme M α) : Nat → List α → Nat → List α
  | 0, _, _ => []
  | fuel + 1, level, i =>
    if 1 < level.length then
      s.sibling level i :: s.siblings fuel (s.hashLevel level) (i / 2)
    else []

theorem Scheme.pair_comm (a b : α) : s.pair a b = s.pair b a := by
  rw [Scheme.pair, Scheme.pair, min_comm, max_comm]

omit [LinearOrder α] in
theorem Scheme.sibling_cons_cons (a b : α) (rest : List α) (i : Nat) :
    s.sibling (a :: b :: rest) (i + 2) = s.sibling rest i := by
  unfold Scheme.sibling
  rw [Nat.add_mod_right]
  split
  · next odd =>
    rw [show i + 2 - 1 = i - 1 + 2 by omega, List.getD_cons_succ, List.getD_cons_succ]
  · rw [show i + 2 + 1 = i + 1 + 2 by omega, List.getD_cons_succ, List.getD_cons_succ]

/-- The node above a position is the hash of what is there and its sibling. -/
theorem Scheme.hashLevel_getElem? {level : List α} {i : Nat} {a : α} (here : level[i]? = some a) :
    (s.hashLevel level)[i / 2]? = some (s.hashNodes (s.sibling level i) a) := by
  induction level using List.twoStepInduction generalizing i with
  | nil => cases here
  | singleton b =>
    obtain ⟨first, rfl⟩ := List.getElem?_eq_some_iff.mp here
    obtain rfl : i = 0 := by simpa using first
    simp [Scheme.hashLevel, Scheme.levelMsgs, Scheme.sibling, Scheme.hashNodes,
      s.pair_comm s.padding]
  | cons_cons b c rest ih _ =>
    match i with
    | 0 =>
      obtain rfl : b = a := by simpa using here
      simp [Scheme.hashLevel, Scheme.levelMsgs, Scheme.sibling, Scheme.hashNodes,
        s.pair_comm c]
    | 1 =>
      obtain rfl : c = a := by simpa using here
      simp [Scheme.hashLevel, Scheme.levelMsgs, Scheme.sibling, Scheme.hashNodes]
    | i + 2 =>
      have below : rest[i]? = some a := by simpa using here
      rw [s.sibling_cons_cons, Scheme.hashLevel, Scheme.levelMsgs, List.map_cons,
        show (i + 2) / 2 = i / 2 + 1 by omega, List.getElem?_cons_succ]
      exact ih below

/-- When the climb ends in one node, the siblings collected on the way lead the
verifier from any position to that node. -/
theorem Scheme.complete {fuel : Nat} {level : List α} {root : α} (top : s.climb fuel level = [root])
    {i : Nat} {a : α} (here : level[i]? = some a) :
    s.processProof a (s.siblings fuel level i) = root := by
  have single {level : List α} {i : Nat} {a : α} (only : level = [root])
      (here : level[i]? = some a) : a = root := by
    subst only
    obtain ⟨_, rfl⟩ := List.getElem?_eq_some_iff.mp here
    simp
  induction fuel generalizing level i a with
  | zero => exact single top here
  | succ fuel ih =>
    rw [Scheme.climb] at top
    rw [Scheme.siblings]
    by_cases many : 1 < level.length
    · rw [if_pos many] at top ⊢
      exact ih top (s.hashLevel_getElem? here)
    · rw [if_neg many] at top ⊢
      exact single top here

end CrossChainEscrow.Library.SortedMerkle

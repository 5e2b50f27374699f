import CrossChainEscrow.Invariants.Placement

/-!
# What reaches a live account

An account of the programs that an instruction does not name keeps its data, and
neither it nor any token account it owns loses lamports or tokens. An account
that an instruction does name is one the instruction is made for: the seeds and
discriminators leave four instructions each for a live order, source escrow and
destination escrow, besides the fills of an order.
-/

namespace CrossChainEscrow.Source
open Library.Words Library.Bytes Library.Accounts

variable {K : Type} [DecidableEq K] {env : Environment K} {h : History K} {s : State K}
  {clock : Clock} {l l' : Chain K} {ix : Instruction K} {a : K}

/-! ## Unnamed accounts -/

/-- The account keeps its data, and nothing it holds goes down. -/
structure Untouched (env : Environment K) (a : K) (l l' : Chain K) : Prop where
  data : l'.programAt a = l.programAt a
  lamports : l.lamports a ≤ l'.lamports a
  tokens : ∀ program mint, l.tokens (env.associatedTokenAddress a program mint) ≤
    l'.tokens (env.associatedTokenAddress a program mint)
  ataLamports : ∀ program mint, l.lamports (env.associatedTokenAddress a program mint) ≤
    l'.lamports (env.associatedTokenAddress a program mint)
  owned : ∀ key account, l.data key = .token account → account.owner = a →
    l.tokens key ≤ l'.tokens key ∧ l.lamports key ≤ l'.lamports key

omit [DecidableEq K] in
/-- The tokens of an untouched account in any mint do not decrease, nor the
lamports that hold them. -/
theorem Untouched.balance (kept : Untouched env a l l') (mint : K) :
    env.balance l a mint ≤ env.balance l' a mint ∧
      ∀ ata ∈ env.ataOf a mint, l.lamports ata ≤ l'.lamports ata := by
  unfold Host.balance Host.ataOf
  cases env.mintProgram mint with
  | none => simp
  | some program =>
    refine ⟨kept.tokens program mint, fun ata member => ?_⟩
    obtain rfl := Option.some.inj member
    exact kept.ataLamports program mint

/-- The principal has not moved: the account lives on unchanged, and its token
account has lost neither tokens nor lamports. -/
structure Kept (env : Environment K) (a : K) (data : Data K) (token : K) (l l' : Chain K) :
    Prop where
  live : l'.programAt a = some data
  tokens : env.balance l a token ≤ env.balance l' a token
  lamports : ∀ ata ∈ env.ataOf a token, l.lamports ata ≤ l'.lamports ata

omit [DecidableEq K] in
theorem Untouched.kept {a token : K} {data : Data K}
    (untouched : Untouched env a l l') (live : l.programAt a = some data) :
    Kept env a data token l l' := by
  obtain ⟨tokens, lamports⟩ := untouched.balance token
  exact ⟨untouched.data.trans live, tokens, lamports⟩

omit [DecidableEq K] in
/-- Authorities that are neither the account nor its associated addresses leave
it untouched. -/
theorem untouched_of_confined {A : K → Prop} (free : env.CollisionFree)
    (confined : Confined env.toHost A l l') {data : Data K} (live : l.programAt a = some data)
    (outside : ¬ A a) (underived : ∀ program mint, ¬ A (env.associatedTokenAddress a program mint))
    (sound : AssociatedSound env.toHost a l) : Untouched env a l l' := by
  have loaded := Ledger.programAt_eq_some.mp live
  have kept : ∀ program mint, l.tokens (env.associatedTokenAddress a program mint) ≤
      l'.tokens (env.associatedTokenAddress a program mint) ∧
      l.lamports (env.associatedTokenAddress a program mint) ≤
        l'.lamports (env.associatedTokenAddress a program mint) := by
    intro program mint
    cases held : l.data (env.associatedTokenAddress a program mint) with
    | token account =>
      have owner := (sound program mint account held).1
      exact confined.token_grows held (owner ▸ outside)
    | program value =>
      refine ⟨?_, ?_⟩
      · simp [Ledger.tokens, held, AccountData.tokens]
      · apply confined.lamports
        simpa [Ledger.ControlledBy, held] using underived program mint
    | empty =>
      refine ⟨?_, ?_⟩
      · simp [Ledger.tokens, held, AccountData.tokens]
      · apply confined.lamports
        simp only [Ledger.ControlledBy, held]
        rintro (direct | ⟨wallet, _, _, same, authorised⟩)
        · exact underived program mint direct
        · have wallets := (free.associated_inj same).1
          exact outside (wallets ▸ authorised)
  refine ⟨?_, ?_, fun program mint => (kept program mint).1, fun program mint =>
    (kept program mint).2, fun key account held owner => ?_⟩
  · rw [live]
    exact Ledger.programAt_eq_some.mpr (confined.program a data loaded outside)
  · apply confined.lamports
    simpa [Ledger.ControlledBy, loaded] using outside
  · exact confined.token_grows held (owner ▸ outside)

/-- A live account that an instruction does not name is none of its authorities. -/
theorem Trace.unnamed_outside (trace : Trace env h s) {data : Data K}
    (live : s.ledger.programAt a = some data) (signed : ∀ key ∈ ix.signers, env.Wallet key)
    (other : a ∉ ix.named) : ¬ (a ∈ ix.signers ∨ a ∈ ix.named) := by
  rintro (signer | named)
  · exact (trace.placed live).derived.notWallet (signed a signer)
  · exact other named

section Steps
variable {data : Data K} (free : env.CollisionFree) (trace : Trace env h s)
  (live : s.ledger.programAt a = some data)
include free trace live

/-- An instruction of wallets leaves every live account it does not name
untouched. -/
theorem Trace.untouched_call (signed : ∀ key ∈ ix.signers, env.Wallet key)
    (ran : ix.run env s.clock s.ledger = .ok l) (other : a ∉ ix.named) :
    Untouched env a s.ledger l := by
  have derived := (trace.placed live).derived
  refine untouched_of_confined free (Instruction.confined ran) live
    (trace.unnamed_outside live signed other) ?_ (trace.associatedSound free derived.notWallet)
  rintro program mint (signer | named)
  · exact env.associated_notWallet a mint program (signed _ signer)
  · exact (Instruction.named_derived ran _ named).ne_associated free a mint program rfl

/-- Whatever wallets do besides leaves every live account untouched. -/
theorem Trace.untouched_external (confined : Confined env.toHost env.Wallet s.ledger l) :
    Untouched env a s.ledger l := by
  have derived := (trace.placed live).derived
  exact untouched_of_confined free confined live derived.notWallet
    (fun program mint => env.associated_notWallet a mint program)
    (trace.associatedSound free derived.notWallet)

end Steps

/-! ## Named accounts -/

/-- The calls made for a live order at `a`. -/
inductive OrderCall (a : K) : Instruction K → Prop
  | createEscrow {c : Src.CreateEscrow K} (named : c.order = a) :
      OrderCall a (.src (.createEscrow c))
  | cancelOrder {c : Src.CancelOrder K} (named : c.order = a) :
      OrderCall a (.src (.cancelOrder c))
  | cancelOrderByResolver {c : Src.CancelOrderbyResolver K} (named : c.order = a) :
      OrderCall a (.src (.cancelOrderByResolver c))
  | rescue {c : Src.RescueFundsForOrder K} (named : c.order = a) :
      OrderCall a (.src (.rescueFundsForOrder c))

/-- The calls made for a live source escrow at `a`. -/
inductive EscrowSrcCall (a : K) : Instruction K → Prop
  | withdraw {c : Src.Withdraw K} (named : c.escrow = a) : EscrowSrcCall a (.src (.withdraw c))
  | publicWithdraw {c : Src.PublicWithdraw K} (named : c.escrow = a) :
      EscrowSrcCall a (.src (.publicWithdraw c))
  | cancelEscrow {c : Src.CancelEscrow K} (named : c.escrow = a) :
      EscrowSrcCall a (.src (.cancelEscrow c))
  | publicCancelEscrow {c : Src.PublicCancelEscrow K} (named : c.escrow = a) :
      EscrowSrcCall a (.src (.publicCancelEscrow c))
  | rescue {c : Src.RescueFundsForEscrow K} (named : c.escrow = a) :
      EscrowSrcCall a (.src (.rescueFundsForEscrow c))

/-- The calls made for a live destination escrow at `a`. -/
inductive EscrowDstCall (a : K) : Instruction K → Prop
  | withdraw {c : Dst.Withdraw K} (named : c.escrow = a) : EscrowDstCall a (.dst (.withdraw c))
  | publicWithdraw {c : Dst.PublicWithdraw K} (named : c.escrow = a) :
      EscrowDstCall a (.dst (.publicWithdraw c))
  | cancel {c : Dst.Cancel K} (named : c.escrow = a) : EscrowDstCall a (.dst (.cancel c))
  | rescue {c : Dst.RescueFunds K} (named : c.escrow = a) : EscrowDstCall a (.dst (.rescueFunds c))

/-- The instruction withdraws from the source escrow at `a` with `secret`. -/
inductive WithdrawsSrc (a : K) (secret : Bytes32) : Instruction K → Prop
  | withdraw {ix : Src.Withdraw K} (named : ix.escrow = a) (reveals : ix.secret = secret) :
      WithdrawsSrc a secret (.src (.withdraw ix))
  | publicWithdraw {ix : Src.PublicWithdraw K} (named : ix.escrow = a)
      (reveals : ix.secret = secret) : WithdrawsSrc a secret (.src (.publicWithdraw ix))

/-- The instruction cancels the source escrow at `a`. -/
inductive CancelsSrc (a : K) : Instruction K → Prop
  | cancelEscrow {ix : Src.CancelEscrow K} (named : ix.escrow = a) :
      CancelsSrc a (.src (.cancelEscrow ix))
  | publicCancelEscrow {ix : Src.PublicCancelEscrow K} (named : ix.escrow = a) :
      CancelsSrc a (.src (.publicCancelEscrow ix))

/-- The instruction withdraws from the destination escrow at `d` with `secret`. -/
inductive WithdrawsDst (d : K) (secret : Bytes32) : Instruction K → Prop
  | withdraw {ix : Dst.Withdraw K} (named : ix.escrow = d) (reveals : ix.secret = secret) :
      WithdrawsDst d secret (.dst (.withdraw ix))
  | publicWithdraw {ix : Dst.PublicWithdraw K} (named : ix.escrow = d)
      (reveals : ix.secret = secret) : WithdrawsDst d secret (.dst (.publicWithdraw ix))

/-- What an instruction finds at an account it names: nothing, data of the type
it is made for, or, for a rescue, anything at the address of its arguments. -/
inductive Finds (env : Environment K) (l : Chain K) (a : K) : Instruction K → Prop
  | unused {ix : Instruction K} (empty : l.data a = .empty) : Finds env l a ix
  | whitelist {ix : Whitelist.Instruction K} {data : Data K} (held : l.data a = .program data)
      (other : data.deployedAt = none) : Finds env l a (.whitelist ix)
  | order {ix : Instruction K} {order : Order K} (held : l.data a = .program (.order order))
      (call : OrderCall a ix) : Finds env l a ix
  | escrowSrc {ix : Instruction K} {escrow : EscrowSrc K}
      (held : l.data a = .program (.escrowSrc escrow)) (call : EscrowSrcCall a ix) :
      Finds env l a ix
  | escrowDst {ix : Instruction K} {escrow : EscrowDst K}
      (held : l.data a = .program (.escrowDst escrow)) (call : EscrowDstCall a ix) :
      Finds env l a ix
  | rescueEscrow {c : Src.RescueFundsForEscrow K} (named : c.escrow = a)
      (found : a = (env.findProgramAddress env.srcId
        (escrowSeeds c.orderHash c.hashlock c.taker c.amount)).1) :
      Finds env l a (.src (.rescueFundsForEscrow c))
  | rescueOrder {c : Src.RescueFundsForOrder K} (named : c.order = a)
      (found : a = (env.findProgramAddress env.srcId
        (orderSeeds (getOrderHash env c.params))).1) :
      Finds env l a (.src (.rescueFundsForOrder c))
  | rescueDst {c : Dst.RescueFunds K} (named : c.escrow = a)
      (found : a = (env.findProgramAddress env.dstId
        (escrowSeeds c.orderHash c.hashlock c.creator c.escrowAmount)).1) :
      Finds env l a (.dst (.rescueFunds c))

theorem Whitelist.Instruction.finds {ix : Whitelist.Instruction K} (ran : ix.run env l = .ok l')
    (named : a ∈ ix.named) : Finds env l a (.whitelist ix) := by
  cases ix with
  | initializeWhitelist ix =>
    obtain rfl := List.mem_singleton.mp named
    exact .unused (initializeWhitelist_programAt ran).1
  | register ix =>
    obtain rfl := List.mem_singleton.mp named
    exact .unused (register_programAt ran).1
  | deregister ix =>
    obtain rfl := List.mem_singleton.mp named
    obtain ⟨_, ⟨access, held, _⟩, _⟩ := deregister_ok.mp ran
    exact .whitelist held rfl
  | setAuthority ix =>
    obtain rfl := List.mem_singleton.mp named
    obtain ⟨state, held, _⟩ := requireAuthority_ok.mp (setAuthority_ok.mp ran).1
    exact .whitelist held rfl

theorem Src.Instruction.finds {ix : Src.Instruction K} (ran : ix.run env clock l = .ok l')
    (named : a ∈ ix.named) : Finds env l a (.src ix) := by
  cases ix with
  | create ix =>
    obtain rfl := List.mem_singleton.mp named
    exact .unused (create_programAt ran).1
  | createEscrow ix =>
    obtain ⟨v, steps⟩ := createEscrow_steps ran
    rcases List.mem_pair.mp named with rfl | rfl
    · exact .order steps.loaded (.createEscrow rfl)
    · exact .unused (createAccount_ok.mp steps.allocate).1
  | withdraw ix =>
    obtain rfl := List.mem_singleton.mp named
    obtain ⟨_, _, _, _, _, steps⟩ := withdraw_steps ran
    exact .escrowSrc steps.loaded (.withdraw rfl)
  | publicWithdraw ix =>
    obtain rfl := List.mem_singleton.mp named
    obtain ⟨_, _, _, _, _, _, steps⟩ := publicWithdraw_steps ran
    exact .escrowSrc steps.loaded (.publicWithdraw rfl)
  | cancelEscrow ix =>
    obtain rfl := List.mem_singleton.mp named
    obtain ⟨_, _, _, _, steps⟩ := cancelEscrow_steps ran
    exact .escrowSrc steps.loaded (.cancelEscrow rfl)
  | publicCancelEscrow ix =>
    obtain rfl := List.mem_singleton.mp named
    obtain ⟨_, _, _, _, _, steps⟩ := publicCancelEscrow_steps ran
    exact .escrowSrc steps.loaded (.publicCancelEscrow rfl)
  | cancelOrder ix =>
    obtain rfl := List.mem_singleton.mp named
    obtain ⟨_, _, _, _, checked, _⟩ := cancelOrder_steps ran
    exact .order checked.loaded (.cancelOrder rfl)
  | cancelOrderByResolver ix =>
    obtain rfl := List.mem_singleton.mp named
    obtain ⟨_, _, _, _, _, _, steps⟩ := cancelOrderByResolver_steps ran
    exact .order steps.checked.loaded (.cancelOrderByResolver rfl)
  | rescueFundsForEscrow ix =>
    obtain rfl := List.mem_singleton.mp named
    obtain ⟨_, _, _, steps⟩ := rescueFundsForEscrow_steps ran
    exact .rescueEscrow rfl steps.derived
  | rescueFundsForOrder ix =>
    obtain rfl := List.mem_singleton.mp named
    obtain ⟨_, _, _, _, steps⟩ := rescueFundsForOrder_steps ran
    exact .rescueOrder rfl steps.derived

theorem Dst.Instruction.finds {ix : Dst.Instruction K} (ran : ix.run env clock l = .ok l')
    (named : a ∈ ix.named) : Finds env l a (.dst ix) := by
  cases ix with
  | create ix =>
    obtain rfl := List.mem_singleton.mp named
    exact .unused (create_programAt ran).1
  | withdraw ix =>
    obtain rfl := List.mem_singleton.mp named
    obtain ⟨_, _, _, _, _, steps⟩ := withdraw_steps ran
    exact .escrowDst steps.loaded (.withdraw rfl)
  | publicWithdraw ix =>
    obtain rfl := List.mem_singleton.mp named
    obtain ⟨_, _, _, _, _, _, steps⟩ := publicWithdraw_steps ran
    exact .escrowDst steps.loaded (.publicWithdraw rfl)
  | cancel ix =>
    obtain rfl := List.mem_singleton.mp named
    obtain ⟨_, _, _, steps⟩ := cancel_steps ran
    exact .escrowDst steps.loaded (.cancel rfl)
  | rescueFunds ix =>
    obtain rfl := List.mem_singleton.mp named
    obtain ⟨_, _, _, steps⟩ := rescueFundsDst_steps ran
    exact .rescueDst rfl steps.derived

theorem Instruction.finds (ran : ix.run env clock l = .ok l') (named : a ∈ ix.named) :
    Finds env l a ix := by
  cases ix with
  | whitelist ix => exact ix.finds ran named
  | src ix => exact ix.finds ran named
  | dst ix => exact ix.finds ran named

/-! ## Which calls name a live account -/

omit [DecidableEq K] in
/-- The first byte tells the two kinds of seeds apart. -/
theorem orderSeeds_ne_escrowSeeds (orderHash orderHash' hashlock : Bytes32) (party : K)
    (amount : U64) : orderSeeds orderHash ≠ escrowSeeds orderHash' hashlock party amount := by
  intro same
  have heads := congrArg List.head? same
  simp [orderSeeds, escrowSeeds, Seeds.bytes] at heads

omit [DecidableEq K] in
/-- The seeds of an escrow name its party. -/
theorem escrowSeeds_party {orderHash orderHash' hashlock hashlock' : Bytes32} {party party' : K}
    {amount amount' : U64} (same : (escrowSeeds orderHash hashlock party amount : Seeds K) =
      escrowSeeds orderHash' hashlock' party' amount') : party = party' := by
  obtain ⟨before, _⟩ := List.append_inj' same (by simp [Seeds.bytes])
  obtain ⟨_, keys⟩ := List.append_inj' before (by simp [Seeds.key])
  simpa [Seeds.key] using keys

omit [DecidableEq K] in
theorem Environment.srcId_ne_dstId (env : Environment K) : env.srcId ≠ env.dstId := by
  have distinct := env.programs_nodup
  simp only [List.nodup_cons, List.mem_cons, not_or] at distinct
  exact distinct.1.1

section Live
variable (free : env.CollisionFree)
include free

theorem Placed.orderCall {order : Order K} (placed : Placed env a (.order order))
    (live : l.programAt a = some (.order order)) (ran : ix.run env clock l = .ok l')
    (named : a ∈ ix.named) : OrderCall a ix := by
  have held := Ledger.programAt_eq_some.mp live
  have address : (env.findProgramAddress env.srcId (orderSeeds order.orderHash)).1 = a :=
    congrArg Prod.fst placed
  cases Instruction.finds ran named with
  | unused empty =>
    rw [held] at empty
    cases empty
  | whitelist other none =>
    rw [held] at other
    cases other
    cases none
  | order _ call => exact call
  | escrowSrc other _ =>
    rw [held] at other
    cases other
  | escrowDst other _ =>
    rw [held] at other
    cases other
  | rescueEscrow _ found =>
    exact absurd (free.find_inj (address.trans found)).2 (orderSeeds_ne_escrowSeeds _ _ _ _ _)
  | rescueOrder same _ => exact .rescue same
  | rescueDst _ found =>
    exact absurd (free.find_inj (address.trans found)).1 env.srcId_ne_dstId

theorem Placed.escrowSrcCall {escrow : EscrowSrc K} (placed : Placed env a (.escrowSrc escrow))
    (live : l.programAt a = some (.escrowSrc escrow)) (ran : ix.run env clock l = .ok l')
    (named : a ∈ ix.named) : EscrowSrcCall a ix := by
  have held := Ledger.programAt_eq_some.mp live
  have address : (env.findProgramAddress env.srcId escrow.seeds).1 = a := congrArg Prod.fst placed
  cases Instruction.finds ran named with
  | unused empty =>
    rw [held] at empty
    cases empty
  | whitelist other none =>
    rw [held] at other
    cases other
    cases none
  | order other _ =>
    rw [held] at other
    cases other
  | escrowSrc _ call => exact call
  | escrowDst other _ =>
    rw [held] at other
    cases other
  | rescueEscrow same _ => exact .rescue same
  | rescueOrder _ found =>
    exact absurd (free.find_inj (found.symm.trans address.symm)).2 (orderSeeds_ne_escrowSeeds _ _ _ _ _)
  | rescueDst _ found =>
    exact absurd (free.find_inj (address.trans found)).1 env.srcId_ne_dstId

theorem Placed.escrowDstCall {escrow : EscrowDst K} (placed : Placed env a (.escrowDst escrow))
    (live : l.programAt a = some (.escrowDst escrow)) (ran : ix.run env clock l = .ok l')
    (named : a ∈ ix.named) : EscrowDstCall a ix := by
  have held := Ledger.programAt_eq_some.mp live
  have address : (env.findProgramAddress env.dstId escrow.seeds).1 = a := congrArg Prod.fst placed
  cases Instruction.finds ran named with
  | unused empty =>
    rw [held] at empty
    cases empty
  | whitelist other none =>
    rw [held] at other
    cases other
    cases none
  | order other _ =>
    rw [held] at other
    cases other
  | escrowSrc other _ =>
    rw [held] at other
    cases other
  | escrowDst _ call => exact call
  | rescueEscrow _ found =>
    exact absurd (free.find_inj (address.trans found)).1 (Ne.symm env.srcId_ne_dstId)
  | rescueOrder _ found =>
    exact absurd (free.find_inj (address.trans found)).1 (Ne.symm env.srcId_ne_dstId)
  | rescueDst same _ => exact .rescue same

end Live

end CrossChainEscrow.Source

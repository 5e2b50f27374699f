import CrossChainEscrow.Effects.Step
import CrossChainEscrow.Library.Operations

/-!
# Every instruction is a run of operations

A relation that composes and that every ledger operation is in relates the ledgers
before and after any instruction. The programs edit lamports in pairs, write only
accounts that they derived, close no other token accounts than those of orders and
escrows, and use the operations on accounts that are declared writable.
-/

namespace CrossChainEscrow.Source
open Library.Words Library.Bytes Library.Accounts

variable {K : Type} [DecidableEq K] {env : Environment K} {ctx : Context K} {clock : Clock}
  {W : K → Prop} {R : Chain K → Chain K → Prop}
  (op : Operational ProgramError env.toHost env.Derived W R) {l l' : Chain K}
include op

/-! ## Shared functions -/

section Shared
variable {ata : InterfaceAccount K} {program : TokenProgram} {seeds : SignerSeeds K}

theorem nativeTransfer_related {src dst : K} {amount : Nat} {signer : Option (SignerSeeds K)}
    (pays : W src) (receives : W dst)
    (h : uniTransfer env ctx (.nativeTransfer src dst amount) signer l = .ok l') : R l l' := by
  unfold uniTransfer at h
  simp only at h
  split at h
  · rw [pure_ok.mp h]
    exact op.refl l
  · exact op.systemTransfer pays receives h

theorem tokenTransfer_related {src authority dst mint : K} {amount : Nat}
    {signer : Option (SignerSeeds K)} (pays : W src) (receives : W dst)
    (h : uniTransfer env ctx (.tokenTransfer src authority dst mint amount program) signer l
      = .ok l') : R l l' := by
  unfold uniTransfer at h
  simp only at h
  split at h
  · rw [pure_ok.mp h]
    exact op.refl l
  · exact op.transferChecked pays receives h

theorem withdrawAndCloseTokenAta_related {authority dst mint rent : K} (derived : env.Derived authority)
    (account : W ata.key) (receives : W dst) (closes : W rent)
    (h : withdrawAndCloseTokenAta env ctx ata authority dst mint program rent seeds l = .ok l') :
    R l l' := by
  obtain ⟨moved, transfer, close⟩ := bind_ok.mp h
  exact op.trans (tokenTransfer_related op account receives transfer)
    (op.closeAccount derived account closes close)

theorem processPayout_related {mint escrow recipient rent : K} {native : Bool} {amount : U64}
    {recipientAta : Option K} (derived : env.Derived escrow) (account : W ata.key)
    (own : W escrow) (receives : W recipient) (receivesTokens : ∀ key ∈ recipientAta, W key)
    (closes : W rent)
    (h : processPayout env ctx mint native amount escrow ata recipient recipientAta rent seeds
      program l = .ok l') : R l l' := by
  unfold processPayout at h
  split at h
  · obtain ⟨closed, close, h⟩ := bind_ok.mp h
    obtain ⟨paid, pay, credit⟩ := bind_ok.mp h
    exact op.trans (op.closeAccount derived account own close)
      (op.payLamports own receives pay credit)
  · obtain ⟨key, given, h⟩ := bind_ok.mp h
    have receivesTokens := receivesTokens key (orFault_ok.mp given)
    exact withdrawAndCloseTokenAta_related op derived account receivesTokens closes h

theorem distributeSafetyDeposit_related {escrow rent recipient : K} {deposit : U64}
    (pays : W escrow) (receives : W recipient)
    (h : distributeSafetyDeposit escrow rent recipient deposit l = .ok l') : R l l' := by
  unfold distributeSafetyDeposit at h
  split at h
  · obtain ⟨paid, pay, credit⟩ := bind_ok.mp h
    exact op.payLamports pays receives pay credit
  · rw [pure_ok.mp h]
    exact op.refl l

theorem rescueFunds_related {escrow recipient recipientAta mint : K} {rescueStart : Option U32}
    {amount : U64} (derived : env.Derived escrow) (account : W ata.key)
    (receives : W recipientAta) (closes : W recipient)
    (h : rescueFunds env ctx escrow rescueStart ata recipient recipientAta mint program amount
      seeds l = .ok l') : R l l' := by
  obtain ⟨_, _, h⟩ := bind_ok.mp h
  obtain ⟨moved, transfer, close⟩ := bind_ok.mp h
  apply op.trans (tokenTransfer_related op account receives transfer)
  unfold closeRescued at close
  split at close
  · exact op.closeAccount derived account closes close
  · rw [pure_ok.mp close]
    exact op.refl moved

end Shared

/-! ## Instructions -/

theorem Whitelist.Instruction.related {ix : Whitelist.Instruction K}
    (writes : ∀ k ∈ ix.writable, W k) (h : ix.run env l = .ok l') : R l l' := by
  have derived := ix.named_derived h
  cases ix with
  | initializeWhitelist ix =>
    have authority := writes ix.authority (by simp [writable])
    have state := writes ix.whitelistState (by simp [writable])
    obtain ⟨_, allocated, allocate, write⟩ := initializeWhitelist_ok.mp h
    exact op.trans (op.createAccount authority state allocate)
      (op.writeProgram (derived _ (by simp [named])) state write)
  | register ix =>
    have authority := writes ix.authority (by simp [writable])
    have access := writes ix.resolverAccess (by simp [writable])
    obtain ⟨_, _, allocated, allocate, write⟩ := register_ok.mp h
    exact op.trans (op.createAccount authority access allocate)
      (op.writeProgram (derived _ (by simp [named])) access write)
  | deregister ix =>
    have authority := writes ix.authority (by simp [writable])
    have access := writes ix.resolverAccess (by simp [writable])
    obtain ⟨_, _, close⟩ := deregister_ok.mp h
    exact op.closeProgram (derived _ (by simp [named])) access authority close
  | setAuthority ix =>
    have state := writes ix.whitelistState (by simp [writable])
    obtain ⟨_, write⟩ := setAuthority_ok.mp h
    exact op.writeProgram (derived _ (by simp [named])) state write

namespace Src

theorem fundOrder_related {ix : Create K} (creator : W ix.creator) (orderAta : W ix.orderAta)
    (creatorAta : ∀ key ∈ ix.creatorAta, W key) (h : fundOrder env ctx ix l = .ok l') : R l l' := by
  unfold fundOrder at h
  split at h
  · obtain ⟨paid, transfer, sync⟩ := bind_ok.mp h
    exact op.trans (nativeTransfer_related op creator orderAta transfer) (op.syncNative orderAta sync)
  · obtain ⟨key, given, transfer⟩ := bind_ok.mp h
    exact tokenTransfer_related op (creatorAta key (orFault_ok.mp given)) orderAta transfer

theorem settleOrder_related {ix : CreateEscrow K} {order : Order K} (derived : env.Derived ix.order)
    (own : W ix.order) (orderAta : W ix.orderAta) (maker : W ix.maker)
    (h : settleOrder env ctx ix order l = .ok l') : R l l' := by
  unfold settleOrder at h
  split at h
  · obtain ⟨closed, close, finish⟩ := bind_ok.mp h
    exact op.trans (op.closeAccount derived orderAta maker close)
      (op.closeProgram derived own maker finish)
  · obtain ⟨_, _, write⟩ := bind_ok.mp h
    exact op.writeProgram derived own write

theorem returnTokens_related {order : Order K} {address mint : K} {orderAta : InterfaceAccount K}
    {creatorAta : Option K} {program : TokenProgram} (account : W orderAta.key)
    (receives : ∀ key ∈ creatorAta, W key)
    (h : returnTokens env ctx order address orderAta creatorAta mint program l = .ok l') : R l l' := by
  unfold returnTokens at h
  split at h
  · obtain ⟨key, given, transfer⟩ := bind_ok.mp h
    exact tokenTransfer_related op account (receives key (orFault_ok.mp given)) transfer
  · rw [pure_ok.mp h]
    exact op.refl l

theorem Create.Steps.related {ix : Create K} {allocated initialized funded : Chain K}
    (s : Create.Steps env clock ix l allocated initialized funded l')
    (writes : ∀ k ∈ (Instruction.create ix).writable, W k) : R l l' := by
  have derived := env.derived_src (env.find_created s.derived)
  have creator := writes ix.creator (by simp [Instruction.writable])
  have order := writes ix.order (by simp [Instruction.writable])
  have orderAta := writes ix.orderAta (by simp [Instruction.writable])
  have opened := op.trans (op.createAccount creator order s.allocate)
    (op.initIfNeeded creator orderAta s.init)
  have funded := fundOrder_related op creator orderAta (fun key given => writes key (by
    simp [Instruction.writable, Option.mem_toList.mpr given])) s.fund
  exact op.trans (op.trans opened funded) (op.writeProgram derived order s.write)

theorem CreateEscrow.Steps.related {ix : CreateEscrow K} {v : CreateEscrow.Values K}
    (s : CreateEscrow.Steps env clock ix l v l')
    (writes : ∀ k ∈ (Instruction.createEscrow ix).writable, W k) : R l l' := by
  simp only [Instruction.writable, List.forall_mem_cons] at writes
  obtain ⟨taker, maker, order, orderAta, escrow, escrowAta, _⟩ := writes
  have opened := op.trans (op.createAccount taker escrow s.allocate)
    (op.initIfNeeded taker escrowAta s.init)
  have moved := op.trans opened (tokenTransfer_related op orderAta escrowAta s.transfer)
  have written := op.trans moved
    (op.writeProgram (env.derived_src (env.find_created s.derived)) escrow s.write)
  exact op.trans written
    (settleOrder_related op (env.derived_src s.seeds) order orderAta maker s.settle)

theorem WithdrawCall.Steps.related {c : WithdrawCall K} {escrow : EscrowSrc K}
    {escrowToken takerToken : TokenAccount K} {paid settled : Chain K}
    (s : WithdrawCall.Steps env clock c escrow escrowToken takerToken l paid settled l')
    (writes : ∀ k ∈ [c.taker, c.payer, c.escrow, c.escrowAta, c.takerAta], W k) : R l l' := by
  simp only [List.forall_mem_cons] at writes
  obtain ⟨taker, payer, own, escrowAta, takerAta, _⟩ := writes
  have derived := env.derived_src s.seeds
  have paid := withdrawAndCloseTokenAta_related op derived escrowAta takerAta taker s.payout
  exact op.trans (op.trans paid (distributeSafetyDeposit_related op own payer s.deposit))
    (op.closeProgram derived own taker s.close)

theorem CancelCall.Steps.related {c : CancelCall K} {escrow : EscrowSrc K}
    {escrowToken : TokenAccount K} {paid settled : Chain K}
    (s : CancelCall.Steps env clock c escrow escrowToken l paid settled l')
    (writes : ∀ k ∈ [c.taker, c.maker, c.payer, c.escrow, c.escrowAta] ++ c.makerAta.toList, W k) :
    R l l' := by
  have makerAta : ∀ key ∈ c.makerAta, W key := fun key given => writes key (by
    simp [Option.mem_toList.mpr given])
  simp only [List.cons_append, List.nil_append, List.forall_mem_cons] at writes
  obtain ⟨taker, maker, payer, own, escrowAta, _⟩ := writes
  have derived := env.derived_src s.seeds
  have paid := processPayout_related op derived escrowAta own maker makerAta taker s.payout
  exact op.trans (op.trans paid (distributeSafetyDeposit_related op own payer s.deposit))
    (op.closeProgram derived own taker s.close)

theorem OrderCancelCall.Checked.related {c : OrderCancelCall K} {order : Order K}
    {orderToken : TokenAccount K} {returned : Chain K}
    (s : OrderCancelCall.Checked env clock c order orderToken l returned)
    (writes : ∀ k ∈ [c.orderAta] ++ c.creatorAta.toList, W k) : R l returned := by
  have orderAta := writes c.orderAta (by simp)
  exact returnTokens_related op orderAta (fun key given => writes key (by
    simp [Option.mem_toList.mpr given])) s.returnTokens

theorem Instruction.related {ix : Instruction K} (writes : ∀ k ∈ ix.writable, W k)
    (h : ix.run env clock l = .ok l') : R l l' := by
  cases ix with
  | create ix =>
    obtain ⟨_, _, _, steps⟩ := create_steps h
    exact steps.related op writes
  | createEscrow ix =>
    obtain ⟨v, steps⟩ := createEscrow_steps h
    exact steps.related op writes
  | withdraw ix =>
    obtain ⟨_, _, _, _, _, steps⟩ := withdraw_steps h
    exact steps.related op (by simpa [Withdraw.call, writable] using writes)
  | publicWithdraw ix =>
    obtain ⟨_, _, _, _, _, _, steps⟩ := publicWithdraw_steps h
    exact steps.related op writes
  | cancelEscrow ix =>
    obtain ⟨_, _, _, _, steps⟩ := cancelEscrow_steps h
    refine steps.related op fun k member => writes k ?_
    simp only [CancelEscrow.call, List.mem_append, List.mem_cons] at member
    simp only [writable, List.mem_append, List.mem_cons]
    tauto
  | publicCancelEscrow ix =>
    obtain ⟨_, _, _, _, _, steps⟩ := publicCancelEscrow_steps h
    exact steps.related op writes
  | cancelOrder ix =>
    obtain ⟨_, _, _, _, checked, close, finish⟩ := cancelOrder_steps h
    have derived := env.derived_src checked.seeds
    have creator := writes ix.creator (by simp [writable])
    have order := writes ix.order (by simp [writable])
    have orderAta := writes ix.orderAta (by simp [writable])
    have returned := checked.related op fun k member => writes k (by
      simp only [CancelOrder.call, List.mem_append, List.mem_cons] at member
      simp only [writable, List.mem_append, List.mem_cons]
      tauto)
    exact op.trans (op.trans returned (op.closeAccount derived orderAta creator close))
      (op.closeProgram derived order creator finish)
  | cancelOrderByResolver ix =>
    obtain ⟨_, _, _, _, _, _, steps⟩ := cancelOrderByResolver_steps h
    have derived := env.derived_src steps.checked.seeds
    have resolver := writes ix.resolver (by simp [writable])
    have creator := writes ix.creator (by simp [writable])
    have order := writes ix.order (by simp [writable])
    have orderAta := writes ix.orderAta (by simp [writable])
    have returned := steps.checked.related op fun k member => writes k (by
      simp only [CancelOrderbyResolver.call, List.mem_append, List.mem_cons] at member
      simp only [writable, List.mem_append, List.mem_cons]
      tauto)
    have closed := op.trans returned (op.closeAccount derived orderAta resolver steps.close)
    have paid := op.trans closed (nativeTransfer_related op resolver creator steps.pay)
    exact op.trans paid (op.closeProgram derived order creator steps.finish)
  | rescueFundsForEscrow ix =>
    simp only [writable, List.forall_mem_cons] at writes
    obtain ⟨taker, escrowAta, takerAta, _⟩ := writes
    obtain ⟨_, _, _, steps⟩ := rescueFundsForEscrow_steps h
    exact rescueFunds_related op (env.derived_src (env.find_created steps.derived)) escrowAta
      takerAta taker steps.rescue
  | rescueFundsForOrder ix =>
    simp only [writable, List.forall_mem_cons] at writes
    obtain ⟨resolver, orderAta, resolverAta, _⟩ := writes
    obtain ⟨_, _, _, _, steps⟩ := rescueFundsForOrder_steps h
    exact rescueFunds_related op (env.derived_src (env.find_created steps.derived)) orderAta
      resolverAta resolver steps.rescue

end Src

namespace Dst

theorem fundEscrow_related {ix : Create K} (creator : W ix.creator) (escrowAta : W ix.escrowAta)
    (creatorAta : ∀ key ∈ ix.creatorAta, W key) (h : fundEscrow env ctx ix l = .ok l') :
    R l l' := by
  unfold fundEscrow at h
  split at h
  · exact nativeTransfer_related op creator escrowAta h
  · obtain ⟨key, given, transfer⟩ := bind_ok.mp h
    exact tokenTransfer_related op (creatorAta key (orFault_ok.mp given)) escrowAta transfer

theorem initRecipientAta_related {signers : List K} {payer recipient mint : K}
    {recipientAta : Option K} {program : TokenProgram} (pays : W payer)
    (account : ∀ key ∈ recipientAta, W key)
    (h : initRecipientAta env signers payer recipientAta recipient program mint l = .ok l') :
    R l l' := by
  cases recipientAta with
  | none =>
    rw [pure_ok.mp h]
    exact op.refl l
  | some ata => exact op.initIfNeeded pays (account ata rfl) h

theorem Create.Steps.related {ix : Create K} {allocated initialized funded : Chain K}
    (s : Create.Steps env clock ix l allocated initialized funded l')
    (writes : ∀ k ∈ (Instruction.create ix).writable, W k) : R l l' := by
  have derived := env.derived_dst (env.find_created s.derived)
  have creator := writes ix.creator (by simp [Instruction.writable])
  have escrow := writes ix.escrow (by simp [Instruction.writable])
  have escrowAta := writes ix.escrowAta (by simp [Instruction.writable])
  have opened := op.trans (op.createAccount creator escrow s.allocate)
    (op.initIfNeeded creator escrowAta s.init)
  have funded := fundEscrow_related op creator escrowAta (fun key given => writes key (by
    simp [Instruction.writable, Option.mem_toList.mpr given])) s.fund
  exact op.trans (op.trans opened funded) (op.writeProgram derived escrow s.write)

theorem WithdrawCall.Steps.related {c : WithdrawCall K} {escrow : EscrowDst K}
    {escrowToken : TokenAccount K} {initialized paid settled : Chain K}
    (s : WithdrawCall.Steps env clock c escrow escrowToken l initialized paid settled l')
    (writes : ∀ k ∈ [c.creator, c.recipient, c.payer, c.escrow, c.escrowAta] ++
      c.recipientAta.toList, W k) : R l l' := by
  have recipientAta : ∀ key ∈ c.recipientAta, W key := fun key given => writes key (by
    simp [Option.mem_toList.mpr given])
  simp only [List.cons_append, List.nil_append, List.forall_mem_cons] at writes
  obtain ⟨creator, recipient, payer, own, escrowAta, _⟩ := writes
  have derived := env.derived_dst s.seeds
  have paid := op.trans (initRecipientAta_related op payer recipientAta s.init)
    (processPayout_related op derived escrowAta own recipient recipientAta creator s.payout)
  exact op.trans (op.trans paid (distributeSafetyDeposit_related op own payer s.deposit))
    (op.closeProgram derived own creator s.close)

theorem Instruction.related {ix : Instruction K} (writes : ∀ k ∈ ix.writable, W k)
    (h : ix.run env clock l = .ok l') : R l l' := by
  cases ix with
  | create ix =>
    obtain ⟨_, _, _, steps⟩ := create_steps h
    exact steps.related op writes
  | withdraw ix =>
    obtain ⟨_, _, _, _, _, steps⟩ := withdraw_steps h
    refine steps.related op fun k member => writes k ?_
    simp only [Withdraw.call, List.mem_append, List.mem_cons] at member
    simp only [writable, List.mem_append, List.mem_cons]
    tauto
  | publicWithdraw ix =>
    obtain ⟨_, _, _, _, _, _, steps⟩ := publicWithdraw_steps h
    exact steps.related op writes
  | cancel ix =>
    have creator := writes ix.creator (by simp [writable])
    have own := writes ix.escrow (by simp [writable])
    have escrowAta := writes ix.escrowAta (by simp [writable])
    obtain ⟨_, _, _, steps⟩ := cancel_steps h
    have derived := env.derived_dst steps.seeds
    have paid := processPayout_related op derived escrowAta own creator (fun key given =>
      writes key (by simp [writable, Option.mem_toList.mpr given])) creator steps.payout
    exact op.trans paid (op.closeProgram derived own creator steps.close)
  | rescueFunds ix =>
    simp only [writable, List.forall_mem_cons] at writes
    obtain ⟨creator, escrowAta, creatorAta, _⟩ := writes
    obtain ⟨_, _, _, steps⟩ := rescueFundsDst_steps h
    exact rescueFunds_related op (env.derived_dst (env.find_created steps.derived)) escrowAta
      creatorAta creator steps.rescue

end Dst

/-- What every operation does to the ledger, every instruction does. -/
theorem Instruction.related {ix : Instruction K} (writes : ∀ k ∈ ix.writable, W k)
    (h : ix.run env clock l = .ok l') : R l l' := by
  cases ix with
  | whitelist ix => exact ix.related op writes h
  | src ix => exact ix.related op writes h
  | dst ix => exact ix.related op writes h

omit op in
/-- The token accounts of wallets stay theirs in every instruction. -/
theorem Instruction.standing {ix : Instruction K} (ran : ix.run env clock l = .ok l') :
    Standing env.Wallet l l' :=
  Instruction.related (W := fun k => k ∈ ix.writable)
    (Standing.operational (fun _ derived => derived.notWallet)
      fun wallet program mint => env.associated_notWallet wallet mint program)
    (fun _ member => member) ran

omit op in
/-- An instruction changes only the accounts that it declares writable. -/
theorem Instruction.footprint {ix : Instruction K} (ran : ix.run env clock l = .ok l') :
    Footprint (· ∈ ix.writable) l l' :=
  Instruction.related Footprint.operational (fun _ member => member) ran

end CrossChainEscrow.Source

import CrossChainEscrow.Effects.Operations
import CrossChainEscrow.Library.Locality

/-!
# Every instruction sees only its accounts

What an instruction does depends on no other accounts than those that its caller
supplies, and neither does whether it succeeds: each handler is a chain of checks and
operations on these.
-/

namespace CrossChainEscrow.Source
open Library.Words Library.Bytes Library.Accounts

variable {K : Type} [DecidableEq K] {env : Environment K} {ctx : Context K} {clock : Clock}
  {A : K → Prop}

/-! ## Shared functions -/

section Shared
variable {ata : InterfaceAccount K} {program : TokenProgram} {seeds : SignerSeeds K}

omit [DecidableEq K] in
theorem loadAs_reads {T : Type} {read : Data K → Option T} {address : K} (member : A address) :
    Reads A fun l => loadAs read l address :=
  (Reads.loadProgram member).bind fun _ => .const _

theorem requireResolverAccess_reads {client user access : K} (member : A access) :
    Reads A fun l => Whitelist.requireResolverAccess env client user access l :=
  (loadAs_reads member).bind fun _ => .const _

omit [DecidableEq K] in
theorem rescueStartOf_reads {T : Type} {read : Data K → Option T} {timelocks : T → Limbs}
    {address : K} (member : A address) :
    Reads A fun l => rescueStartOf read timelocks l address := by
  intro l m agree
  simp only [rescueStartOf, agree.data address member, loadAs_reads member l m agree]

theorem nativeTransfer_local {src dst : K} {amount : Nat} {signer : Option (SignerSeeds K)}
    (pays : A src) : Local A fun l => uniTransfer env ctx (.nativeTransfer src dst amount) signer l :=
  .ite (.pure fun _ _ same => same) (.systemTransfer pays)

theorem tokenTransfer_local {src authority dst mint : K} {amount : Nat}
    {signer : Option (SignerSeeds K)} (pays : A src) (receives : A dst) :
    Local A fun l =>
      uniTransfer env ctx (.tokenTransfer src authority dst mint amount program) signer l :=
  .ite (.pure fun _ _ same => same) (.transferChecked pays receives)

theorem withdrawAndCloseTokenAta_local {authority dst mint rent : K} (account : A ata.key)
    (receives : A dst) :
    Local A fun l => withdrawAndCloseTokenAta env ctx ata authority dst mint program rent seeds l :=
  .bind (tokenTransfer_local account receives) (.closeAccount account)

theorem processPayout_local {mint escrow recipient rent : K} {native : Bool} {amount : U64}
    {recipientAta : Option K} (account : A ata.key) (own : A escrow) (receives : A recipient)
    (receivesTokens : ∀ key ∈ recipientAta, A key) :
    Local A fun l => processPayout env ctx mint native amount escrow ata recipient recipientAta rent
      seeds program l := by
  refine .ite (.bind (.closeAccount account) (.bind (.subLamports own) (.addLamports receives))) ?_
  exact .given fun key given => withdrawAndCloseTokenAta_local account (receivesTokens key given)

theorem distributeSafetyDeposit_local {escrow rent recipient : K} {deposit : U64} (pays : A escrow)
    (receives : A recipient) :
    Local A fun l => distributeSafetyDeposit escrow rent recipient deposit l :=
  .ite (.bind (.subLamports pays) (.addLamports receives)) (.pure fun _ _ same => same)

theorem rescueFunds_local {escrow recipient recipientAta mint : K} {rescueStart : Option U32}
    {amount : U64} (account : A ata.key) (receives : A recipientAta) :
    Local A fun l => rescueFunds env ctx escrow rescueStart ata recipient recipientAta mint program
      amount seeds l := by
  refine .after (.const _) fun _ => .bind (tokenTransfer_local account receives) ?_
  exact .ite (.closeAccount account) (.pure fun _ _ same => same)

end Shared

/-! ## Instructions -/

theorem Whitelist.Instruction.isLocal {ix : Whitelist.Instruction K}
    (sees : ∀ k ∈ ix.writable ++ ix.readonly, A k) : Local A fun l => ix.run env l := by
  cases ix with
  | initializeWhitelist ix =>
    have authority := sees ix.authority (by simp [writable])
    have state := sees ix.whitelistState (by simp [writable])
    exact .after (.const _) fun _ => .bind (.createAccount authority state) (.writeProgram state)
  | register ix =>
    have authority := sees ix.authority (by simp [writable])
    have access := sees ix.resolverAccess (by simp [writable])
    have state := sees ix.whitelistState (by simp [readonly])
    refine .after ((loadAs_reads state).bind fun _ => .const _) fun _ => .after (.const _) fun _ => ?_
    exact .bind (.createAccount authority access) (.writeProgram access)
  | deregister ix =>
    have access := sees ix.resolverAccess (by simp [writable])
    have state := sees ix.whitelistState (by simp [readonly])
    refine .after ((loadAs_reads state).bind fun _ => .const _) fun _ => ?_
    exact .after (loadAs_reads access) fun _ => .after (.const _) fun _ => .closeProgram access
  | setAuthority ix =>
    have state := sees ix.whitelistState (by simp [writable])
    exact .after ((loadAs_reads state).bind fun _ => .const _) fun _ => .writeProgram state

namespace Src

theorem fundOrder_local {ix : Create K} (creator : A ix.creator) (orderAta : A ix.orderAta)
    (creatorAta : ∀ key ∈ ix.creatorAta, A key) : Local A fun l => fundOrder env ctx ix l := by
  refine .ite (.bind (nativeTransfer_local creator) (.syncNative orderAta)) ?_
  exact .given fun key given => tokenTransfer_local (creatorAta key given) orderAta

theorem settleOrder_local {ix : CreateEscrow K} {order : Order K} (own : A ix.order)
    (orderAta : A ix.orderAta) : Local A fun l => settleOrder env ctx ix order l :=
  .ite (.bind (.closeAccount orderAta) (.closeProgram own))
    (.after (.const _) fun _ => .writeProgram own)

theorem returnTokens_local {order : Order K} {address mint : K} {orderAta : InterfaceAccount K}
    {creatorAta : Option K} {program : TokenProgram} (account : A orderAta.key)
    (receives : ∀ key ∈ creatorAta, A key) :
    Local A fun l => returnTokens env ctx order address orderAta creatorAta mint program l := by
  refine .ite ?_ (.pure fun _ _ same => same)
  exact .given fun key given => tokenTransfer_local account (receives key given)

theorem create_local {ix : Create K}
    (sees : ∀ k ∈ (Instruction.create ix).writable, A k) : Local A fun l => create env clock ix l := by
  have creator := sees ix.creator (by simp [Instruction.writable])
  have order := sees ix.order (by simp [Instruction.writable])
  have orderAta := sees ix.orderAta (by simp [Instruction.writable])
  have creatorAta : ∀ key ∈ ix.creatorAta, A key := fun key given => sees key (by
    simp [Instruction.writable, Option.mem_toList.mpr given])
  refine .after (.const _) fun _ => .after (.checkOptionalToken creatorAta) fun _ => ?_
  refine .after (.const _) fun _ => .bind (.createAccount creator order) ?_
  refine .bind (.initIfNeeded creator orderAta) (.after (.lamports orderAta) fun _ => ?_)
  refine .after (.const _) fun _ => .after (.const _) fun _ => .after (.const _) fun _ => ?_
  refine .after (.const _) fun _ => .after (.const _) fun _ => ?_
  exact .bind (fundOrder_local creator orderAta creatorAta) (.writeProgram order)

theorem createEscrow_local {ix : CreateEscrow K} (access : A ix.resolverAccess)
    (sees : ∀ k ∈ (Instruction.createEscrow ix).writable, A k) :
    Local A fun l => createEscrow env clock ix l := by
  simp only [Instruction.writable, List.forall_mem_cons] at sees
  obtain ⟨taker, maker, order, orderAta, escrow, escrowAta, _⟩ := sees
  refine .after (requireResolverAccess_reads access) fun _ => .after (loadAs_reads order) fun _ => ?_
  refine .after (.const _) fun _ => .after (.const _) fun _ => .after (.const _) fun _ => ?_
  refine .after (.const _) fun _ => .after (.loadAssociatedToken orderAta) fun _ => ?_
  refine .after (.const _) fun _ => .bind (.createAccount taker escrow) ?_
  refine .bind (.initIfNeeded taker escrowAta) (.after (.const _) fun _ => ?_)
  refine .after (.const _) fun _ => .after (.const _) fun _ => .after (.const _) fun _ => ?_
  refine .after (.const _) fun _ => .after (.const _) fun _ => ?_
  refine .bind (tokenTransfer_local orderAta escrowAta) (.after (.const _) fun _ => ?_)
  exact .after (.const _) fun _ => .bind (.writeProgram escrow) (settleOrder_local order orderAta)

theorem utilsWithdraw_local {escrow : EscrowSrc K} {address takerAta mint rent recipient : K}
    {escrowAta : InterfaceAccount K} {program : TokenProgram} {secret : Bytes32} (own : A address)
    (account : A escrowAta.key) (receives : A takerAta) (collects : A recipient) :
    Local A fun l => utilsWithdraw env ctx escrow address escrowAta takerAta mint program rent
      recipient secret l :=
  .after (.const _) fun _ => .bind (withdrawAndCloseTokenAta_local account receives)
    (distributeSafetyDeposit_local own collects)

theorem utilsCancel_local {escrow : EscrowSrc K} {address mint rent creator recipient : K}
    {escrowAta : InterfaceAccount K} {creatorAta : Option K} {program : TokenProgram}
    (own : A address) (account : A escrowAta.key) (receives : A creator)
    (receivesTokens : ∀ key ∈ creatorAta, A key) (collects : A recipient) :
    Local A fun l => utilsCancel env ctx escrow address escrowAta creatorAta mint program rent
      creator recipient l :=
  .bind (processPayout_local account own receives receivesTokens)
    (distributeSafetyDeposit_local own collects)

theorem withdraw_local {ix : Withdraw K} (sees : ∀ k ∈ (Instruction.withdraw ix).writable, A k) :
    Local A fun l => withdraw env clock ix l := by
  simp only [Instruction.writable, List.forall_mem_cons] at sees
  obtain ⟨taker, escrow, escrowAta, takerAta, _⟩ := sees
  refine .after (loadAs_reads escrow) fun _ => .after (.const _) fun _ => .after (.const _) fun _ => ?_
  refine .after (.const _) fun _ => .after (.const _) fun _ => ?_
  refine .after (.loadAssociatedToken escrowAta) fun _ => .after (.loadAssociatedToken takerAta) fun _ => ?_
  refine .after (.const _) fun _ => .bind ?_ (.closeProgram escrow)
  exact utilsWithdraw_local escrow escrowAta takerAta taker

theorem publicWithdraw_local {ix : PublicWithdraw K} (access : A ix.resolverAccess)
    (sees : ∀ k ∈ (Instruction.publicWithdraw ix).writable, A k) :
    Local A fun l => publicWithdraw env clock ix l := by
  simp only [Instruction.writable, List.forall_mem_cons] at sees
  obtain ⟨taker, payer, escrow, escrowAta, takerAta, _⟩ := sees
  refine .after (loadAs_reads escrow) fun _ => .after (.const _) fun _ => ?_
  refine .after (requireResolverAccess_reads access) fun _ => .after (.const _) fun _ => ?_
  refine .after (.const _) fun _ => .after (.const _) fun _ => ?_
  refine .after (.loadAssociatedToken escrowAta) fun _ => .after (.loadAssociatedToken takerAta) fun _ => ?_
  refine .after (.const _) fun _ => .bind ?_ (.closeProgram escrow)
  exact utilsWithdraw_local escrow escrowAta takerAta payer

theorem cancelEscrow_local {ix : CancelEscrow K}
    (sees : ∀ k ∈ (Instruction.cancelEscrow ix).writable, A k) :
    Local A fun l => cancelEscrow env clock ix l := by
  have makerAta : ∀ key ∈ ix.makerAta, A key := fun key given => sees key (by
    simp [Instruction.writable, Option.mem_toList.mpr given])
  simp only [Instruction.writable, List.cons_append, List.nil_append, List.forall_mem_cons] at sees
  obtain ⟨taker, maker, escrow, escrowAta, _⟩ := sees
  refine .after (loadAs_reads escrow) fun _ => .after (.const _) fun _ => .after (.const _) fun _ => ?_
  refine .after (.const _) fun _ => .after (.const _) fun _ => .after (.const _) fun _ => ?_
  refine .after (.loadAssociatedToken escrowAta) fun _ => .after (.checkOptionalToken makerAta) fun _ => ?_
  refine .after (.const _) fun _ => .bind ?_ (.closeProgram escrow)
  exact utilsCancel_local escrow escrowAta maker makerAta taker

theorem publicCancelEscrow_local {ix : PublicCancelEscrow K} (access : A ix.resolverAccess)
    (sees : ∀ k ∈ (Instruction.publicCancelEscrow ix).writable, A k) :
    Local A fun l => publicCancelEscrow env clock ix l := by
  have makerAta : ∀ key ∈ ix.makerAta, A key := fun key given => sees key (by
    simp [Instruction.writable, Option.mem_toList.mpr given])
  simp only [Instruction.writable, List.cons_append, List.nil_append, List.forall_mem_cons] at sees
  obtain ⟨taker, maker, payer, escrow, escrowAta, _⟩ := sees
  refine .after (loadAs_reads escrow) fun _ => .after (.const _) fun _ => .after (.const _) fun _ => ?_
  refine .after (.const _) fun _ => .after (.const _) fun _ => ?_
  refine .after (requireResolverAccess_reads access) fun _ => .after (.const _) fun _ => ?_
  refine .after (.loadAssociatedToken escrowAta) fun _ => .after (.checkOptionalToken makerAta) fun _ => ?_
  refine .after (.const _) fun _ => .bind ?_ (.closeProgram escrow)
  exact utilsCancel_local escrow escrowAta maker makerAta payer

theorem cancelOrder_local {ix : CancelOrder K}
    (sees : ∀ k ∈ (Instruction.cancelOrder ix).writable, A k) :
    Local A fun l => cancelOrder env clock ix l := by
  have creatorAta : ∀ key ∈ ix.creatorAta, A key := fun key given => sees key (by
    simp [Instruction.writable, Option.mem_toList.mpr given])
  simp only [Instruction.writable, List.cons_append, List.nil_append, List.forall_mem_cons] at sees
  obtain ⟨creator, order, orderAta, _⟩ := sees
  refine .after (loadAs_reads order) fun _ => .after (.const _) fun _ => .after (.const _) fun _ => ?_
  refine .after (.const _) fun _ => .after (.const _) fun _ => ?_
  refine .after (.loadAssociatedToken orderAta) fun _ => .after (.checkOptionalToken creatorAta) fun _ => ?_
  refine .after (.const _) fun _ => .bind (returnTokens_local orderAta creatorAta) ?_
  exact .bind (.closeAccount orderAta) (.closeProgram order)

/-- The resolver's payment is computed from the account before it is closed. -/
theorem cancelOrderByResolver_local {ix : CancelOrderbyResolver K} (access : A ix.resolverAccess)
    (sees : ∀ k ∈ (Instruction.cancelOrderByResolver ix).writable, A k) :
    Local A fun l => cancelOrderByResolver env clock ix l := by
  have creatorAta : ∀ key ∈ ix.creatorAta, A key := fun key given => sees key (by
    simp [Instruction.writable, Option.mem_toList.mpr given])
  simp only [Instruction.writable, List.cons_append, List.nil_append, List.forall_mem_cons] at sees
  obtain ⟨resolver, creator, order, orderAta, _⟩ := sees
  refine .after (requireResolverAccess_reads access) fun _ => .after (loadAs_reads order) fun _ => ?_
  refine .after (.const _) fun _ => .after (.const _) fun _ => .after (.const _) fun _ => ?_
  refine .after (.const _) fun _ => .after (.loadAssociatedToken orderAta) fun _ => ?_
  refine .after (.checkOptionalToken creatorAta) fun _ => .after (.const _) fun _ => ?_
  refine .after (.const _) fun _ => .after (.const _) fun _ => ?_
  refine .bind (returnTokens_local orderAta creatorAta) (.after (.const _) fun premium => ?_)
  refine .after (.lamports orderAta) fun _ l m l' agree => ?_
  simp only [agree.lamports ix.orderAta orderAta]
  exact Local.bind (.closeAccount orderAta)
    (.bind (nativeTransfer_local resolver) (.closeProgram order)) l m l' agree

theorem Instruction.isLocal {ix : Instruction K} (sees : ∀ k ∈ ix.writable ++ ix.readonly, A k) :
    Local A fun l => ix.run env clock l := by
  have written : ∀ k ∈ ix.writable, A k := fun k member => sees k (List.mem_append_left _ member)
  cases ix with
  | create ix => exact create_local written
  | createEscrow ix => exact createEscrow_local (sees _ (by simp [readonly])) written
  | withdraw ix => exact withdraw_local written
  | publicWithdraw ix => exact publicWithdraw_local (sees _ (by simp [readonly])) written
  | cancelEscrow ix => exact cancelEscrow_local written
  | publicCancelEscrow ix => exact publicCancelEscrow_local (sees _ (by simp [readonly])) written
  | cancelOrder ix => exact cancelOrder_local written
  | cancelOrderByResolver ix => exact cancelOrderByResolver_local (sees _ (by simp [readonly])) written
  | rescueFundsForEscrow ix =>
    have escrow := sees ix.escrow (by simp [readonly])
    have escrowAta := sees ix.escrowAta (by simp [writable])
    have takerAta := sees ix.takerAta (by simp [writable])
    refine .after (.const _) fun _ => .after (.const _) fun _ => ?_
    refine .after (.loadAssociatedToken escrowAta) fun _ => ?_
    refine .after (.loadAssociatedToken takerAta) fun _ => .after (rescueStartOf_reads escrow) fun _ => ?_
    exact rescueFunds_local escrowAta takerAta
  | rescueFundsForOrder ix =>
    have access := sees ix.resolverAccess (by simp [readonly])
    have order := sees ix.order (by simp [readonly])
    have orderAta := sees ix.orderAta (by simp [writable])
    have resolverAta := sees ix.resolverAta (by simp [writable])
    refine .after (requireResolverAccess_reads access) fun _ => .after (.const _) fun _ => ?_
    refine .after (.const _) fun _ => .after (.loadAssociatedToken orderAta) fun _ => ?_
    refine .after (.loadAssociatedToken resolverAta) fun _ => .after (rescueStartOf_reads order) fun _ => ?_
    exact rescueFunds_local orderAta resolverAta

end Src

namespace Dst

theorem fundEscrow_local {ix : Create K} (creator : A ix.creator) (escrowAta : A ix.escrowAta)
    (creatorAta : ∀ key ∈ ix.creatorAta, A key) : Local A fun l => fundEscrow env ctx ix l := by
  refine .ite (nativeTransfer_local creator) ?_
  exact .given fun key given => tokenTransfer_local (creatorAta key given) escrowAta

theorem initRecipientAta_local {signers : List K} {payer recipient mint : K}
    {recipientAta : Option K} {program : TokenProgram} (pays : A payer)
    (account : ∀ key ∈ recipientAta, A key) :
    Local A fun l => initRecipientAta env signers payer recipientAta recipient program mint l := by
  cases recipientAta with
  | none => exact .pure fun _ _ same => same
  | some ata => exact .initIfNeeded pays (account ata rfl)

theorem utilsWithdraw_local {escrow : EscrowDst K} {address mint recipient rent collector : K}
    {escrowAta : InterfaceAccount K} {recipientAta : Option K} {program : TokenProgram}
    {secret : Bytes32} (own : A address) (account : A escrowAta.key) (receives : A recipient)
    (receivesTokens : ∀ key ∈ recipientAta, A key) (collects : A collector) :
    Local A fun l => utilsWithdraw env ctx escrow address escrowAta recipient recipientAta mint
      program rent collector secret l :=
  .after (.const _) fun _ => .bind (processPayout_local account own receives receivesTokens)
    (distributeSafetyDeposit_local own collects)

theorem create_local {ix : Create K}
    (sees : ∀ k ∈ (Instruction.create ix).writable, A k) : Local A fun l => create env clock ix l := by
  have creator := sees ix.creator (by simp [Instruction.writable])
  have escrow := sees ix.escrow (by simp [Instruction.writable])
  have escrowAta := sees ix.escrowAta (by simp [Instruction.writable])
  have creatorAta : ∀ key ∈ ix.creatorAta, A key := fun key given => sees key (by
    simp [Instruction.writable, Option.mem_toList.mpr given])
  refine .after (.const _) fun _ => .after (.checkOptionalToken creatorAta) fun _ => ?_
  refine .after (.const _) fun _ => .bind (.createAccount creator escrow) ?_
  refine .bind (.initIfNeeded creator escrowAta) (.after (.const _) fun _ => ?_)
  refine .after (.const _) fun _ => .after (.const _) fun _ => .after (.const _) fun _ => ?_
  refine .after (.const _) fun _ => ?_
  exact .bind (fundEscrow_local creator escrowAta creatorAta) (.writeProgram escrow)

theorem withdraw_local {ix : Withdraw K} (sees : ∀ k ∈ (Instruction.withdraw ix).writable, A k) :
    Local A fun l => withdraw env clock ix l := by
  have recipientAta : ∀ key ∈ ix.recipientAta, A key := fun key given => sees key (by
    simp [Instruction.writable, Option.mem_toList.mpr given])
  simp only [Instruction.writable, List.cons_append, List.nil_append, List.forall_mem_cons] at sees
  obtain ⟨creator, recipient, escrow, escrowAta, _⟩ := sees
  refine .after (loadAs_reads escrow) fun _ => .after (.const _) fun _ => .after (.const _) fun _ => ?_
  refine .after (.const _) fun _ => .after (.const _) fun _ => .after (.const _) fun _ => ?_
  refine .after (.loadAssociatedToken escrowAta) fun _ => ?_
  refine .bind (initRecipientAta_local creator recipientAta) (.after (.const _) fun _ => ?_)
  exact .bind (utilsWithdraw_local escrow escrowAta recipient recipientAta creator)
    (.closeProgram escrow)

theorem publicWithdraw_local {ix : PublicWithdraw K} (access : A ix.resolverAccess)
    (sees : ∀ k ∈ (Instruction.publicWithdraw ix).writable, A k) :
    Local A fun l => publicWithdraw env clock ix l := by
  have recipientAta : ∀ key ∈ ix.recipientAta, A key := fun key given => sees key (by
    simp [Instruction.writable, Option.mem_toList.mpr given])
  simp only [Instruction.writable, List.cons_append, List.nil_append, List.forall_mem_cons] at sees
  obtain ⟨creator, recipient, payer, escrow, escrowAta, _⟩ := sees
  refine .after (loadAs_reads escrow) fun _ => .after (.const _) fun _ => .after (.const _) fun _ => ?_
  refine .after (requireResolverAccess_reads access) fun _ => .after (.const _) fun _ => ?_
  refine .after (.const _) fun _ => .after (.const _) fun _ => ?_
  refine .after (.loadAssociatedToken escrowAta) fun _ => ?_
  refine .bind (initRecipientAta_local payer recipientAta) (.after (.const _) fun _ => ?_)
  exact .bind (utilsWithdraw_local escrow escrowAta recipient recipientAta payer)
    (.closeProgram escrow)

theorem cancel_local {ix : Cancel K} (sees : ∀ k ∈ (Instruction.cancel ix).writable, A k) :
    Local A fun l => cancel env clock ix l := by
  have creatorAta : ∀ key ∈ ix.creatorAta, A key := fun key given => sees key (by
    simp [Instruction.writable, Option.mem_toList.mpr given])
  simp only [Instruction.writable, List.cons_append, List.nil_append, List.forall_mem_cons] at sees
  obtain ⟨creator, escrow, escrowAta, _⟩ := sees
  refine .after (loadAs_reads escrow) fun _ => .after (.const _) fun _ => .after (.const _) fun _ => ?_
  refine .after (.const _) fun _ => .after (.const _) fun _ => ?_
  refine .after (.loadAssociatedToken escrowAta) fun _ => .after (.checkOptionalToken creatorAta) fun _ => ?_
  refine .after (.const _) fun _ => .bind ?_ (.closeProgram escrow)
  exact processPayout_local escrowAta escrow creator creatorAta

theorem Instruction.isLocal {ix : Instruction K} (sees : ∀ k ∈ ix.writable ++ ix.readonly, A k) :
    Local A fun l => ix.run env clock l := by
  have written : ∀ k ∈ ix.writable, A k := fun k member => sees k (List.mem_append_left _ member)
  cases ix with
  | create ix => exact create_local written
  | withdraw ix => exact withdraw_local written
  | publicWithdraw ix => exact publicWithdraw_local (sees _ (by simp [readonly])) written
  | cancel ix => exact cancel_local written
  | rescueFunds ix =>
    have escrow := sees ix.escrow (by simp [readonly])
    have escrowAta := sees ix.escrowAta (by simp [writable])
    have creatorAta := sees ix.creatorAta (by simp [writable])
    refine .after (.const _) fun _ => .after (.const _) fun _ => ?_
    refine .after (.loadAssociatedToken escrowAta) fun _ => ?_
    refine .after (.loadAssociatedToken creatorAta) fun _ => .after (rescueStartOf_reads escrow) fun _ => ?_
    exact rescueFunds_local escrowAta creatorAta

end Dst

/-- An instruction sees only the accounts that its caller supplies. -/
theorem Instruction.isLocal {ix : Instruction K} (sees : ∀ k ∈ ix.accounts, A k) :
    Local A fun l => ix.run env clock l := by
  cases ix with
  | whitelist ix => exact ix.isLocal sees
  | src ix => exact ix.isLocal sees
  | dst ix => exact ix.isLocal sees

end CrossChainEscrow.Source

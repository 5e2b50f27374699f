import CrossChainEscrow.Effects.Dst
import CrossChainEscrow.Effects.OrderCancel
import CrossChainEscrow.Effects.Rescues
import CrossChainEscrow.Effects.SrcCreate
import CrossChainEscrow.Effects.SrcExits
import CrossChainEscrow.Effects.SrcFill
import CrossChainEscrow.Effects.Whitelist
import CrossChainEscrow.Source.Protocol

/-!
# What any instruction does

Three facts about every instruction, each by one case analysis: it acts with no
other authority than its signers and the accounts it names, the accounts it
names are derived addresses of the programs, and program data after it is either
what was there before or one of the six things that instructions write.
-/
namespace CrossChainEscrow.Source
open Library.Words Library.Bytes Library.Accounts

variable {K : Type} [DecidableEq K] {env : Environment K} {clock : Clock} {l l' : Chain K}

/-! ## Authority -/

theorem Whitelist.Instruction.actions {ix : Whitelist.Instruction K} {A : K → Prop}
    (signed : ∀ k ∈ ix.signers, A k) (named : ∀ k ∈ ix.named, A k) (h : ix.run env l = .ok l') :
    Actions env.toHost A l l' := by
  cases ix with
  | initializeWhitelist ix =>
    exact initializeWhitelist_actions (signed _ (by simp [signers])) (named _ (by simp [Instruction.named])) h
  | register ix =>
    exact register_actions (signed _ (by simp [signers])) (named _ (by simp [Instruction.named])) h
  | deregister ix => exact deregister_actions (named _ (by simp [Instruction.named])) h
  | setAuthority ix => exact setAuthority_actions (named _ (by simp [Instruction.named])) h

theorem Src.Instruction.actions {ix : Src.Instruction K} {A : K → Prop}
    (signed : ∀ k ∈ ix.signers, A k) (named : ∀ k ∈ ix.named, A k)
    (h : ix.run env clock l = .ok l') : Actions env.toHost A l l' := by
  cases ix with
  | create ix =>
    exact create_actions (signed _ (by simp [signers])) (named _ (by simp [Instruction.named])) h
  | createEscrow ix =>
    obtain ⟨v, steps⟩ := createEscrow_steps h
    exact steps.actions (signed _ (by simp [signers])) (named _ (by simp [Instruction.named]))
      (named _ (by simp [Instruction.named]))
  | withdraw ix =>
    obtain ⟨_, _, _, _, _, steps⟩ := withdraw_steps h
    exact steps.actions (signed _ (by simp [signers, Withdraw.call]))
      (named _ (by simp [Instruction.named, Withdraw.call]))
  | publicWithdraw ix =>
    obtain ⟨_, _, _, _, _, _, steps⟩ := publicWithdraw_steps h
    exact steps.actions (signed _ (by simp [signers, PublicWithdraw.call]))
      (named _ (by simp [Instruction.named, PublicWithdraw.call]))
  | cancelEscrow ix =>
    obtain ⟨_, _, _, _, steps⟩ := cancelEscrow_steps h
    exact steps.actions (signed _ (by simp [signers, CancelEscrow.call]))
      (named _ (by simp [Instruction.named, CancelEscrow.call]))
  | publicCancelEscrow ix =>
    obtain ⟨_, _, _, _, _, steps⟩ := publicCancelEscrow_steps h
    exact steps.actions (signed _ (by simp [signers, PublicCancelEscrow.call]))
      (named _ (by simp [Instruction.named, PublicCancelEscrow.call]))
  | cancelOrder ix =>
    exact cancelOrder_actions (signed _ (by simp [signers])) (named _ (by simp [Instruction.named])) h
  | cancelOrderByResolver ix =>
    exact cancelOrderByResolver_actions (signed _ (by simp [signers]))
      (named _ (by simp [Instruction.named])) h
  | rescueFundsForEscrow ix =>
    obtain ⟨_, _, _, steps⟩ := rescueFundsForEscrow_steps h
    exact steps.actions (signed _ (by simp [signers, RescueFundsForEscrow.call]))
      (named _ (by simp [Instruction.named, RescueFundsForEscrow.call]))
  | rescueFundsForOrder ix =>
    obtain ⟨_, _, _, _, steps⟩ := rescueFundsForOrder_steps h
    exact steps.actions (signed _ (by simp [signers, RescueFundsForOrder.call]))
      (named _ (by simp [Instruction.named, RescueFundsForOrder.call]))

theorem Dst.Instruction.actions {ix : Dst.Instruction K} {A : K → Prop}
    (signed : ∀ k ∈ ix.signers, A k) (named : ∀ k ∈ ix.named, A k)
    (h : ix.run env clock l = .ok l') : Actions env.toHost A l l' := by
  cases ix with
  | create ix =>
    exact create_actions (signed _ (by simp [signers])) (named _ (by simp [Instruction.named])) h
  | withdraw ix =>
    obtain ⟨_, _, _, _, _, steps⟩ := withdraw_steps h
    exact steps.actions (signed _ (by simp [signers, Withdraw.call]))
      (named _ (by simp [Instruction.named, Withdraw.call]))
  | publicWithdraw ix =>
    obtain ⟨_, _, _, _, _, _, steps⟩ := publicWithdraw_steps h
    exact steps.actions (signed _ (by simp [signers, PublicWithdraw.call]))
      (named _ (by simp [Instruction.named, PublicWithdraw.call]))
  | cancel ix =>
    obtain ⟨_, _, _, steps⟩ := cancel_steps h
    exact steps.actions (signed _ (by simp [signers])) (named _ (by simp [Instruction.named]))
  | rescueFunds ix =>
    obtain ⟨_, _, _, steps⟩ := rescueFundsDst_steps h
    exact steps.actions (signed _ (by simp [signers, RescueFunds.call]))
      (named _ (by simp [Instruction.named, RescueFunds.call]))

/-- Every instruction acts with the authority of its signers and of the accounts
it names, and no other. -/
theorem Instruction.actions {ix : Instruction K} (h : ix.run env clock l = .ok l') :
    Actions env.toHost ix.authority l l' := by
  cases ix with
  | whitelist ix => exact ix.actions (fun _ => Or.inl) (fun _ => Or.inr) h
  | src ix => exact ix.actions (fun _ => Or.inl) (fun _ => Or.inr) h
  | dst ix => exact ix.actions (fun _ => Or.inl) (fun _ => Or.inr) h

theorem Instruction.confined {ix : Instruction K} (h : ix.run env clock l = .ok l') :
    Confined env.toHost ix.authority l l' :=
  Actions.confined (Instruction.actions h)

/-! ## Named accounts -/

theorem Whitelist.Instruction.named_derived {ix : Whitelist.Instruction K}
    (h : ix.run env l = .ok l') : ∀ key ∈ ix.named, env.Derived key := by
  intro key member
  cases ix with
  | initializeWhitelist ix =>
    obtain rfl := List.mem_singleton.mp member
    exact env.derived_whitelist (env.find_created (initializeWhitelist_ok.mp h).1)
  | register ix =>
    obtain rfl := List.mem_singleton.mp member
    exact env.derived_whitelist (env.find_created (register_ok.mp h).2.1)
  | deregister ix =>
    obtain rfl := List.mem_singleton.mp member
    obtain ⟨_, ⟨_, _, created⟩, _⟩ := deregister_ok.mp h
    exact env.derived_whitelist created
  | setAuthority ix =>
    obtain rfl := List.mem_singleton.mp member
    obtain ⟨_, _, found, _⟩ := requireAuthority_ok.mp (setAuthority_ok.mp h).1
    exact env.derived_whitelist (env.find_created found)

theorem Src.Instruction.named_derived {ix : Src.Instruction K}
    (h : ix.run env clock l = .ok l') : ∀ key ∈ ix.named, env.Derived key := by
  intro key member
  cases ix with
  | create ix =>
    obtain rfl := List.mem_singleton.mp member
    obtain ⟨_, _, _, steps⟩ := create_steps h
    exact env.derived_src (env.find_created steps.derived)
  | createEscrow ix =>
    obtain ⟨v, steps⟩ := createEscrow_steps h
    rcases List.mem_pair.mp member with rfl | rfl
    · exact env.derived_src steps.seeds
    · exact env.derived_src (env.find_created steps.derived)
  | withdraw ix =>
    obtain rfl := List.mem_singleton.mp member
    obtain ⟨_, _, _, _, _, steps⟩ := withdraw_steps h
    exact env.derived_src steps.seeds
  | publicWithdraw ix =>
    obtain rfl := List.mem_singleton.mp member
    obtain ⟨_, _, _, _, _, _, steps⟩ := publicWithdraw_steps h
    exact env.derived_src steps.seeds
  | cancelEscrow ix =>
    obtain rfl := List.mem_singleton.mp member
    obtain ⟨_, _, _, _, steps⟩ := cancelEscrow_steps h
    exact env.derived_src steps.seeds
  | publicCancelEscrow ix =>
    obtain rfl := List.mem_singleton.mp member
    obtain ⟨_, _, _, _, _, steps⟩ := publicCancelEscrow_steps h
    exact env.derived_src steps.seeds
  | cancelOrder ix =>
    obtain rfl := List.mem_singleton.mp member
    obtain ⟨_, _, _, _, checked, _⟩ := cancelOrder_steps h
    exact env.derived_src checked.seeds
  | cancelOrderByResolver ix =>
    obtain rfl := List.mem_singleton.mp member
    obtain ⟨_, _, _, _, _, _, steps⟩ := cancelOrderByResolver_steps h
    exact env.derived_src steps.checked.seeds
  | rescueFundsForEscrow ix =>
    obtain rfl := List.mem_singleton.mp member
    obtain ⟨_, _, _, steps⟩ := rescueFundsForEscrow_steps h
    exact env.derived_src (env.find_created steps.derived)
  | rescueFundsForOrder ix =>
    obtain rfl := List.mem_singleton.mp member
    obtain ⟨_, _, _, _, steps⟩ := rescueFundsForOrder_steps h
    exact env.derived_src (env.find_created steps.derived)

theorem Dst.Instruction.named_derived {ix : Dst.Instruction K}
    (h : ix.run env clock l = .ok l') : ∀ key ∈ ix.named, env.Derived key := by
  intro key member
  cases ix with
  | create ix =>
    obtain rfl := List.mem_singleton.mp member
    obtain ⟨_, _, _, steps⟩ := create_steps h
    exact env.derived_dst (env.find_created steps.derived)
  | withdraw ix =>
    obtain rfl := List.mem_singleton.mp member
    obtain ⟨_, _, _, _, _, steps⟩ := withdraw_steps h
    exact env.derived_dst steps.seeds
  | publicWithdraw ix =>
    obtain rfl := List.mem_singleton.mp member
    obtain ⟨_, _, _, _, _, _, steps⟩ := publicWithdraw_steps h
    exact env.derived_dst steps.seeds
  | cancel ix =>
    obtain rfl := List.mem_singleton.mp member
    obtain ⟨_, _, _, steps⟩ := cancel_steps h
    exact env.derived_dst steps.seeds
  | rescueFunds ix =>
    obtain rfl := List.mem_singleton.mp member
    obtain ⟨_, _, _, steps⟩ := rescueFundsDst_steps h
    exact env.derived_dst (env.find_created steps.derived)

theorem Instruction.named_derived {ix : Instruction K} (h : ix.run env clock l = .ok l') :
    ∀ key ∈ ix.named, env.Derived key := by
  cases ix with
  | whitelist ix => exact ix.named_derived h
  | src ix => exact ix.named_derived h
  | dst ix => exact ix.named_derived h

/-! ## Rescues -/

/-- The rescue that an instruction is. -/
def Instruction.rescueCall (env : Environment K) : Instruction K → Option (RescueCall K)
  | .src (.rescueFundsForEscrow ix) => some (ix.call env)
  | .src (.rescueFundsForOrder ix) => some (ix.call env)
  | .dst (.rescueFunds ix) => some (ix.call env)
  | _ => none

theorem Instruction.rescue_steps {ix : Instruction K}
    (ran : ix.run env clock l = .ok l') {c : RescueCall K} (rescue : ix.rescueCall env = some c) :
    c.party ∈ ix.signers ∧ c.address ∈ ix.named ∧ ∃ token partyToken start,
      RescueCall.Steps env clock c token partyToken start l l' := by
  cases ix with
  | whitelist _ => cases rescue
  | src ix =>
    cases ix with
    | rescueFundsForEscrow ix =>
      obtain rfl := Option.some.inj rescue
      exact ⟨List.mem_singleton_self _, List.mem_singleton_self _, rescueFundsForEscrow_steps ran⟩
    | rescueFundsForOrder ix =>
      obtain rfl := Option.some.inj rescue
      exact ⟨List.mem_singleton_self _, List.mem_singleton_self _, (rescueFundsForOrder_steps ran).2⟩
    | _ => cases rescue
  | dst ix =>
    cases ix with
    | rescueFunds ix =>
      obtain rfl := Option.some.inj rescue
      exact ⟨List.mem_singleton_self _, List.mem_singleton_self _, rescueFundsDst_steps ran⟩
    | _ => cases rescue

omit [DecidableEq K] in
/-- The only account that a rescue names is the one it is signed for. -/
theorem Instruction.rescue_named {ix : Instruction K} {c : RescueCall K}
    (rescue : ix.rescueCall env = some c) {a : K} (named : a ∈ ix.named) : c.address = a := by
  cases ix with
  | whitelist _ => cases rescue
  | src ix =>
    cases ix with
    | rescueFundsForEscrow ix =>
      obtain rfl := Option.some.inj rescue
      exact (List.mem_singleton.mp named).symm
    | rescueFundsForOrder ix =>
      obtain rfl := Option.some.inj rescue
      exact (List.mem_singleton.mp named).symm
    | _ => cases rescue
  | dst ix =>
    cases ix with
    | rescueFunds ix =>
      obtain rfl := Option.some.inj rescue
      exact (List.mem_singleton.mp named).symm
    | _ => cases rescue

/-! ## Program data -/

/-- What instructions write into program accounts. -/
inductive Written (env : Environment K) (clock : Clock) (l l' : Chain K) :
    Instruction K → K → Data K → Prop
  | order {c : Src.Create K} (ran : Src.create env clock c l = .ok l') :
      Written env clock l l' (.src (.create c)) c.order (.order (c.newOrder env clock.unixTimestamp))
  | escrowSrc {c : Src.CreateEscrow K} {v : Src.CreateEscrow.Values K}
      (steps : Src.CreateEscrow.Steps env clock c l v l') :
      Written env clock l l' (.src (.createEscrow c)) c.escrow
        (.escrowSrc (c.newEscrow env v.order v.hashlock v.dstAmount clock.unixTimestamp))
  | counted {c : Src.CreateEscrow K} {v : Src.CreateEscrow.Values K} {remainingAmount : U64}
      (steps : Src.CreateEscrow.Steps env clock c l v l') (continues : ¬ c.Ends v.order)
      (sum : remainingAmount.toNat + c.amount.toNat = v.order.remainingAmount.toNat) :
      Written env clock l l' (.src (.createEscrow c)) c.order
        (.order { v.order with remainingAmount })
  | escrowDst {c : Dst.Create K} (ran : Dst.create env clock c l = .ok l') :
      Written env clock l l' (.dst (.create c)) c.escrow
        (.escrowDst (c.newEscrow env clock.unixTimestamp))
  | whitelistState {ix : Whitelist.Instruction K} {address : K} {state : WhitelistState K}
      (ran : ix.run env l = .ok l')
      (derived : address = (env.findProgramAddress env.whitelistId whitelistStateSeeds).1) :
      Written env clock l l' (.whitelist ix) address (.whitelistState state)
  | resolverAccess {c : Whitelist.Register K} (ran : Whitelist.register env c l = .ok l') :
      Written env clock l l' (.whitelist (.register c)) c.resolverAccess
        (.resolverAccess { bump := (env.findProgramAddress env.whitelistId
          (resolverAccessSeeds c.client c.user)).2 })

/-- After an update at one address, data is the old data or the new. -/
theorem update_origin {D : Type} {before after : K → Option D} {address a : K} {value : Option D}
    {data : D} (equal : after = Function.update before address value) (held : after a = some data) :
    before a = some data ∨ (a = address ∧ value = some data) := by
  rw [equal] at held
  by_cases same : a = address
  · subst a
    rw [Function.update_self] at held
    exact Or.inr ⟨rfl, held⟩
  · rw [Function.update_of_ne same] at held
    exact Or.inl held

/-- After a removal, data is the old data. -/
theorem removed_origin {D : Type} {before after : K → Option D} {address a : K} {data : D}
    (equal : after = Function.update before address none) (held : after a = some data) :
    before a = some data := by
  rcases update_origin equal held with kept | ⟨_, none⟩
  · exact kept
  · cases none

variable {a : K} {data : Data K}

theorem Whitelist.Instruction.origin {ix : Whitelist.Instruction K} (h : ix.run env l = .ok l')
    (held : l'.programAt a = some data) :
    l.programAt a = some data ∨ Written env clock l l' (.whitelist ix) a data := by
  cases ix with
  | initializeWhitelist ix =>
    rcases update_origin (initializeWhitelist_programAt h).2 held with kept | ⟨rfl, new⟩
    · exact Or.inl kept
    · obtain rfl := Option.some.inj new
      exact Or.inr (.whitelistState h (initializeWhitelist_ok.mp h).1)
  | register ix =>
    rcases update_origin (register_programAt h).2 held with kept | ⟨rfl, new⟩
    · exact Or.inl kept
    · obtain rfl := Option.some.inj new
      exact Or.inr (.resolverAccess h)
  | deregister ix => exact Or.inl (removed_origin (deregister_programAt h) held)
  | setAuthority ix =>
    rcases update_origin (setAuthority_programAt h) held with kept | ⟨rfl, new⟩
    · exact Or.inl kept
    · obtain rfl := Option.some.inj new
      obtain ⟨_, _, derived, _⟩ := requireAuthority_ok.mp (setAuthority_ok.mp h).1
      exact Or.inr (.whitelistState h derived)

theorem Src.Instruction.origin {ix : Src.Instruction K} (h : ix.run env clock l = .ok l')
    (held : l'.programAt a = some data) :
    l.programAt a = some data ∨ Written env clock l l' (.src ix) a data := by
  cases ix with
  | create ix =>
    rcases update_origin (create_programAt h).2 held with kept | ⟨rfl, new⟩
    · exact Or.inl kept
    · obtain rfl := Option.some.inj new
      exact Or.inr (.order h)
  | createEscrow ix =>
    obtain ⟨v, steps⟩ := createEscrow_steps h
    obtain ⟨left, leaves, programs⟩ := steps.programAt
    rcases update_origin programs held with kept | ⟨rfl, new⟩
    · rcases update_origin rfl kept with kept | ⟨rfl, new⟩
      · exact Or.inl kept
      · obtain rfl := Option.some.inj new
        exact Or.inr (.escrowSrc steps)
    · rcases leaves with ⟨_, rfl⟩ | ⟨continues, remaining, sum, rfl⟩
      · cases new
      · obtain rfl := Option.some.inj new
        exact Or.inr (.counted steps continues sum)
  | withdraw ix =>
    obtain ⟨_, _, _, _, _, steps⟩ := withdraw_steps h
    exact Or.inl (removed_origin steps.programAt held)
  | publicWithdraw ix =>
    obtain ⟨_, _, _, _, _, _, steps⟩ := publicWithdraw_steps h
    exact Or.inl (removed_origin steps.programAt held)
  | cancelEscrow ix =>
    obtain ⟨_, _, _, _, steps⟩ := cancelEscrow_steps h
    exact Or.inl (removed_origin steps.programAt held)
  | publicCancelEscrow ix =>
    obtain ⟨_, _, _, _, _, steps⟩ := publicCancelEscrow_steps h
    exact Or.inl (removed_origin steps.programAt held)
  | cancelOrder ix => exact Or.inl (removed_origin (cancelOrder_programAt h) held)
  | cancelOrderByResolver ix =>
    exact Or.inl (removed_origin (cancelOrderByResolver_programAt h) held)
  | rescueFundsForEscrow ix =>
    obtain ⟨_, _, _, steps⟩ := rescueFundsForEscrow_steps h
    exact Or.inl (steps.programAt ▸ held)
  | rescueFundsForOrder ix =>
    obtain ⟨_, _, _, _, steps⟩ := rescueFundsForOrder_steps h
    exact Or.inl (steps.programAt ▸ held)

theorem Dst.Instruction.origin {ix : Dst.Instruction K} (h : ix.run env clock l = .ok l')
    (held : l'.programAt a = some data) :
    l.programAt a = some data ∨ Written env clock l l' (.dst ix) a data := by
  cases ix with
  | create ix =>
    rcases update_origin (create_programAt h).2 held with kept | ⟨rfl, new⟩
    · exact Or.inl kept
    · obtain rfl := Option.some.inj new
      exact Or.inr (.escrowDst h)
  | withdraw ix =>
    obtain ⟨_, _, _, _, _, steps⟩ := withdraw_steps h
    exact Or.inl (removed_origin steps.programAt held)
  | publicWithdraw ix =>
    obtain ⟨_, _, _, _, _, _, steps⟩ := publicWithdraw_steps h
    exact Or.inl (removed_origin steps.programAt held)
  | cancel ix =>
    obtain ⟨_, _, _, steps⟩ := cancel_steps h
    exact Or.inl (removed_origin steps.programAt held)
  | rescueFunds ix =>
    obtain ⟨_, _, _, steps⟩ := rescueFundsDst_steps h
    exact Or.inl (steps.programAt ▸ held)

/-- Program data after an instruction was there before or is what it writes. -/
theorem Instruction.origin {ix : Instruction K} (h : ix.run env clock l = .ok l')
    (held : l'.programAt a = some data) :
    l.programAt a = some data ∨ Written env clock l l' ix a data := by
  cases ix with
  | whitelist ix => exact ix.origin h held
  | src ix => exact ix.origin h held
  | dst ix => exact ix.origin h held

end CrossChainEscrow.Source

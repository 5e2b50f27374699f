import CrossChainEscrow.Effects.Common
import CrossChainEscrow.Source.DstProgram
import CrossChainEscrow.Source.SrcExits

/-!
# What the three rescues do

`rescue_funds_for_escrow`, `rescue_funds_for_order` and the destination
program's `rescue_funds` re-derive an address from their arguments, read a start
time from whatever is stored there, and move tokens of any mint that this
address holds. They never change program data.
-/

namespace CrossChainEscrow.Source
open Library.Words Library.Bytes Library.Accounts Whitelist

variable {K : Type} [DecidableEq K] {env : Environment K} {clock : Clock} {A : K → Prop}
  {l l' : Chain K}

/-- The deployment time of an order or an escrow. -/
def Data.deployedAt : Data K → Option Nat
  | .order o => some o.timelocks.timelocks.deployedAt
  | .escrowSrc e => some e.timelocks.timelocks.deployedAt
  | .escrowDst e => some e.timelocks.timelocks.deployedAt
  | _ => none

structure RescueCall (K : Type) where
  programId : K
  party : K
  mint : K
  address : K
  ata : K
  partyAta : K
  tokenProgram : TokenProgram
  seeds : Seeds K
  rescueAmount : U64

def Src.RescueFundsForEscrow.call (env : Environment K) (ix : Src.RescueFundsForEscrow K) :
    RescueCall K :=
  ⟨env.srcId, ix.taker, ix.mint, ix.escrow, ix.escrowAta, ix.takerAta, ix.tokenProgram,
    escrowSeeds ix.orderHash ix.hashlock ix.taker ix.amount, ix.rescueAmount⟩

def Src.RescueFundsForOrder.call (env : Environment K) (ix : Src.RescueFundsForOrder K) :
    RescueCall K :=
  ⟨env.srcId, ix.resolver, ix.mint, ix.order, ix.orderAta, ix.resolverAta, ix.tokenProgram,
    orderSeeds (getOrderHash env ix.params), ix.rescueAmount⟩

def Dst.RescueFunds.call (env : Environment K) (ix : Dst.RescueFunds K) : RescueCall K :=
  ⟨env.dstId, ix.creator, ix.mint, ix.escrow, ix.escrowAta, ix.creatorAta, ix.tokenProgram,
    escrowSeeds ix.orderHash ix.hashlock ix.creator ix.escrowAmount, ix.rescueAmount⟩

structure RescueCall.Steps (env : Environment K) (clock : Clock) (c : RescueCall K)
    (token partyToken : TokenAccount K) (start : Option U32) (l l' : Chain K) : Prop where
  mintKnown : (env.mintProgram c.mint).isSome = true
  derived : c.address = (env.findProgramAddress c.programId c.seeds).1
  account : l.data c.ata = .token token
  tokenProgram : token.program = c.tokenProgram
  tokenOwner : token.owner = c.address
  ataDerived : c.ata = env.associatedTokenAddress c.address c.tokenProgram c.mint
  partyAccount : l.data c.partyAta = .token partyToken
  partyOwner : partyToken.owner = c.party
  rescue : rescueFunds env ⟨c.programId, [c.party], clock⟩ c.address start ⟨c.ata, token⟩ c.party
    c.partyAta c.mint c.tokenProgram c.rescueAmount
    ⟨c.seeds, (env.findProgramAddress c.programId c.seeds).2⟩ l = .ok l'
  started : ∀ data, l.data c.address = .program data →
    ∃ time, data.deployedAt = some time ∧ time + rescueDelay.toNat ≤ clock.unixTimestamp.toNat

/-- An address that stores something is only rescued eight days after the
deployment time stored there. -/
theorem started_of_rescueStart {T : Type} {read : Data K → Option T} {timelocks : T → Limbs}
    {make : T → Data K} (inverse : ∀ data v, read data = some v ↔ data = make v)
    (deployed : ∀ v, (make v).deployedAt = some (timelocks v).timelocks.deployedAt)
    {ctx : Context K} {address recipient dst mint : K} {start : Option U32}
    {ata : InterfaceAccount K} {program : TokenProgram} {amount : U64} {seeds : SignerSeeds K}
    (found : rescueStartOf read timelocks l address = .ok start)
    (h : rescueFunds env ctx address start ata recipient dst mint program amount seeds l = .ok l')
    (data : Data K) (loaded : l.data address = .program data) :
    ∃ time, data.deployedAt = some time ∧
      time + rescueDelay.toNat ≤ ctx.clock.unixTimestamp.toNat := by
  rcases rescueStartOf_ok inverse found with ⟨unused, _⟩ | ⟨value, time, stored, rfl, sum⟩
  · rw [unused] at loaded
    cases loaded
  · rw [stored] at loaded
    obtain rfl := AccountData.program.inj loaded
    refine ⟨_, deployed value, ?_⟩
    have reached := rescueFunds_started h
    omega

theorem rescueFundsForEscrow_steps {ix : Src.RescueFundsForEscrow K}
    (h : Src.rescueFundsForEscrow env clock ix l = .ok l') :
    ∃ token partyToken start,
      RescueCall.Steps env clock (ix.call env) token partyToken start l l' := by
  simp only [Src.rescueFundsForEscrow, bind_ok, requireMint_ok, requireFound_ok,
    loadAssociatedToken_ok, exists_const] at h
  obtain ⟨mintKnown, derived, token, ⟨account, tokenProgram, tokenOwner, ataDerived⟩, partyToken,
    ⟨partyAccount, _, partyOwner, _⟩, start, found, rescue⟩ := h
  refine ⟨token, partyToken, start, mintKnown, derived, account, tokenProgram, tokenOwner,
    ataDerived, partyAccount, partyOwner, rescue, ?_⟩
  exact started_of_rescueStart Data.toEscrowSrc_eq_some (fun _ => rfl) found rescue

theorem rescueFundsForOrder_steps {ix : Src.RescueFundsForOrder K}
    (h : Src.rescueFundsForOrder env clock ix l = .ok l') :
    requireResolverAccess env env.srcId ix.resolver ix.resolverAccess l = .ok () ∧
    ∃ token partyToken start,
      RescueCall.Steps env clock (ix.call env) token partyToken start l l' := by
  simp only [Src.rescueFundsForOrder, bind_ok, requireMint_ok, requireFound_ok,
    loadAssociatedToken_ok, exists_const] at h
  obtain ⟨_, resolver, mintKnown, derived, token, ⟨account, tokenProgram, tokenOwner, ataDerived⟩,
    partyToken, ⟨partyAccount, _, partyOwner, _⟩, start, found, rescue⟩ := h
  refine ⟨resolver, token, partyToken, start, mintKnown, derived, account, tokenProgram,
    tokenOwner, ataDerived, partyAccount, partyOwner, rescue, ?_⟩
  exact started_of_rescueStart Data.toOrder_eq_some (fun _ => rfl) found rescue

theorem rescueFundsDst_steps {ix : Dst.RescueFunds K}
    (h : Dst.rescueFunds env clock ix l = .ok l') :
    ∃ token partyToken start,
      RescueCall.Steps env clock (ix.call env) token partyToken start l l' := by
  simp only [Dst.rescueFunds, bind_ok, requireMint_ok, requireFound_ok, loadAssociatedToken_ok,
    exists_const] at h
  obtain ⟨mintKnown, derived, token, ⟨account, tokenProgram, tokenOwner, ataDerived⟩, partyToken,
    ⟨partyAccount, _, partyOwner, _⟩, start, found, rescue⟩ := h
  refine ⟨token, partyToken, start, mintKnown, derived, account, tokenProgram, tokenOwner,
    ataDerived, partyAccount, partyOwner, rescue, ?_⟩
  exact started_of_rescueStart Data.toEscrowDst_eq_some (fun _ => rfl) found rescue

namespace RescueCall.Steps
variable {c : RescueCall K} {token partyToken : TokenAccount K} {start : Option U32}

theorem actions (s : RescueCall.Steps env clock c token partyToken start l l')
    (party : A c.party) (named : A c.address) : Actions env.toHost A l l' := by
  have created : env.createProgramAddress c.programId c.seeds
      (env.findProgramAddress c.programId c.seeds).2 = some c.address := by
    rw [s.derived]
    exact env.find_create c.programId c.seeds
  exact rescueFunds_actions (callSigners_authorised created (by simpa using party) named) s.rescue

theorem programAt (s : RescueCall.Steps env clock c token partyToken start l l') :
    l'.programAt = l.programAt :=
  rescueFunds_programAt s.rescue

theorem accounts (s : RescueCall.Steps env clock c token partyToken start l l')
    (distinct : c.party ≠ c.address) : c.ata ≠ c.partyAta := by
  intro same
  have held := s.account
  rw [same, s.partyAccount] at held
  apply distinct
  rw [← s.partyOwner, AccountData.token.inj held, s.tokenOwner]

theorem rescued (s : RescueCall.Steps env clock c token partyToken start l l')
    (distinct : c.party ≠ c.address) :
    Rescued l l' c.ata c.partyAta token c.rescueAmount.toNat :=
  rescueFunds_rescued (s.accounts distinct) s.account s.rescue

theorem accountAfter (s : RescueCall.Steps env clock c token partyToken start l l')
    (distinct : c.party ≠ c.address) :
    (c.rescueAmount.toNat = token.amount → l'.data c.ata = .empty ∧ l'.lamports c.ata = 0) ∧
    (c.rescueAmount.toNat ≠ token.amount →
      l'.data c.ata = .token { token with amount := token.amount - c.rescueAmount.toNat } ∧
      l'.lamports c.ata + token.wrapped c.rescueAmount.toNat = l.lamports c.ata) :=
  rescueFunds_account (s.accounts distinct) s.account s.rescue

end RescueCall.Steps

end CrossChainEscrow.Source

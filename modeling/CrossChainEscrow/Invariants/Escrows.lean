import CrossChainEscrow.Effects.Payouts
import CrossChainEscrow.Invariants.Backing

/-!
# Live escrows can pay

What an escrow stores passed the checks of a creation, its account keeps the rent
it was allocated with, and its token account covers its amount as long as no
rescue took part of it, either from that account or from the order's before the
fill. A native destination escrow is covered in lamports, any other in tokens.
-/

namespace CrossChainEscrow.Source
open Library.Words Library.Bytes Library.Accounts

variable {K : Type} [DecidableEq K] {env : Environment K} {h : History K} {s : State K}
  {l : Chain K} {a : K}

/-! ## Stored terms -/

def DepositFits (env : Environment K) (space : Nat) (deposit : U64) : Prop :=
  deposit.toNat ≤ env.minimumBalance (discriminatorBytes + space)

def NativeFits (env : Environment K) (native : Bool) (token : K) : Prop :=
  native = true → token = env.NATIVE_MINT

/-- The checks of the two creations, on what the accounts store. -/
def TermsFit (env : Environment K) : Data K → Prop
  | .order o => DepositFits env EscrowSrc.initSpace o.safetyDeposit ∧
      NativeFits env o.assetIsNative o.token
  | .escrowSrc e => DepositFits env EscrowSrc.initSpace e.safetyDeposit ∧
      NativeFits env e.assetIsNative e.token
  | .escrowDst e => DepositFits env EscrowDst.initSpace e.safetyDeposit ∧
      NativeFits env e.assetIsNative e.token ∧ 0 < e.amount.toNat
  | _ => True

omit [DecidableEq K] in
theorem nativeFits_of {mint : K} {native : Bool} (checked : mint = env.NATIVE_MINT ∨ native = false) :
    NativeFits env native mint := by
  intro isNative
  rcases checked with same | plain
  · exact same
  · rw [isNative] at plain
    cases plain

/-- The bounds of the creation survive the order, its fills and the escrow. -/
theorem Trace.termsFit (trace : Trace env h s) {data : Data K}
    (held : s.ledger.programAt a = some data) : TermsFit env data := by
  refine trace.programs_invariant (P := fun _ data => TermsFit env data) ?_ a data held
  intro h s ix l a data trace signed before new
  cases new with
  | order ran =>
    obtain ⟨_, _, _, steps⟩ := Src.create_steps ran
    have deposit := steps.deposit
    rw [Nat.add_comm] at deposit
    exact ⟨deposit, nativeFits_of steps.native⟩
  | @escrowSrc c v steps =>
    exact before _ (.order v.order) (Ledger.programAt_eq_some.mpr steps.loaded)
  | @counted c v _ steps _ _ =>
    exact before _ (.order v.order) (Ledger.programAt_eq_some.mpr steps.loaded)
  | escrowDst ran =>
    obtain ⟨_, _, _, steps⟩ := Dst.create_steps ran
    have deposit := steps.deposit
    rw [Nat.add_comm] at deposit
    refine ⟨deposit, nativeFits_of steps.native, Nat.pos_of_ne_zero fun zero => ?_⟩
    exact steps.positive.1 (BitVec.eq_of_toNat_eq zero)
  | whitelistState _ _ => exact True.intro
  | resolverAccess _ => exact True.intro

/-! ## Rescues of an escrow -/

/-- What a creation of the escrow at `address` finds: whether the order of a fill
has all it did not pay out. -/
def escrowOpened (address : K) (h : History K) : Instruction K → Option Bool
  | .src (.createEscrow ix) =>
    if ix.escrow = address then some (decide (rescuedFrom ix.order ix.mint h = 0)) else none
  | .dst (.create ix) => if ix.escrow = address then some true else none
  | _ => none

/-- No rescue ran on the token account `ata` of the escrow at `address` since the
escrow was created, nor had one taken anything from its order until then. -/
def unrescued (env : Environment K) (address ata : K) : History K → Bool
  | [] => true
  | e :: h => (escrowOpened address h e.ix).getD
      ((e.ix.rescueCall env).all (fun c => decide (c.ata ≠ ata)) && unrescued env address ata h)

theorem escrowOpened_unnamed {ix : Instruction K} (other : a ∉ ix.named) :
    escrowOpened a h ix = none := by
  cases ix with
  | whitelist ix => rfl
  | src ix =>
    cases ix with
    | createEscrow ix =>
      exact if_neg (fun same => other (by simp [Instruction.named, Src.Instruction.named, same]))
    | _ => rfl
  | dst ix =>
    cases ix with
    | create ix =>
      exact if_neg (fun same => other (by simp [Instruction.named, Dst.Instruction.named, same]))
    | _ => rfl

theorem escrowOpened_rescue {ix : Instruction K} {c : RescueCall K}
    (rescue : ix.rescueCall env = some c) : escrowOpened a h ix = none := by
  cases ix with
  | whitelist ix => rfl
  | src ix => cases ix <;> first | rfl | cases rescue
  | dst ix => cases ix <;> first | rfl | cases rescue

/-- While the escrow is there, rescues of its account are what is looked for. -/
theorem unrescued_cons {ata : K} {e : Event K} (there : escrowOpened a h e.ix = none)
    (whole : unrescued env a ata (e :: h) = true) :
    (∀ c, e.ix.rescueCall env = some c → c.ata ≠ ata) ∧ unrescued env a ata h = true := by
  rw [unrescued, there, Option.getD_none] at whole
  obtain ⟨missed, before⟩ := Bool.and_eq_true_iff.mp whole
  refine ⟨fun c rescue => ?_, before⟩
  rw [rescue, Option.all_some] at missed
  exact of_decide_eq_true missed

/-! ## Solvency -/

/-- What an escrow owes: the bytes it pays rent for, and its principal, which is
tokens or, when `unwrapped`, lamports. -/
structure Debt (K : Type) where
  space : Nat
  token : K
  amount : U64
  unwrapped : Bool

def Data.debt : Data K → Option (Debt K)
  | .escrowSrc e => some ⟨EscrowSrc.initSpace, e.token, e.amount, false⟩
  | .escrowDst e => some ⟨EscrowDst.initSpace, e.token, e.amount, e.assetIsNative⟩
  | _ => none

/-- What the account holds of the asset a debt is in. -/
def Debt.heldAt (debt : Debt K) (l : Chain K) (ata : K) : Nat :=
  if debt.unwrapped = true then l.lamports ata else l.tokens ata

structure Solvent (env : Environment K) (h : History K) (s : State K) (a : K) (debt : Debt K) :
    Prop where
  rent : env.minimumBalance (discriminatorBytes + debt.space) ≤ s.ledger.lamports a
  principal : ∀ program, env.mintProgram debt.token = some program →
    unrescued env a (env.associatedTokenAddress a program debt.token) h = true →
    debt.amount.toNat ≤ debt.heldAt s.ledger (env.associatedTokenAddress a program debt.token)

omit [DecidableEq K] in
theorem Debt.heldAt_mono (debt : Debt K) {l l' : Chain K} {ata : K}
    (lamports : l.lamports ata ≤ l'.lamports ata) (tokens : l.tokens ata ≤ l'.tokens ata) :
    debt.heldAt l ata ≤ debt.heldAt l' ata := by
  unfold Debt.heldAt
  split
  · exact lamports
  · exact tokens

theorem Solvent.of_untouched {h' : History K} {s' : State K} {debt : Debt K}
    (solvent : Solvent env h s a debt) (untouched : Untouched env a s.ledger s'.ledger)
    (whole : ∀ ata, unrescued env a ata h' = true → unrescued env a ata h = true) :
    Solvent env h' s' a debt := by
  refine ⟨Nat.le_trans solvent.rent untouched.lamports, fun program owned unrescued => ?_⟩
  exact Nat.le_trans (solvent.principal program owned (whole _ unrescued))
    (debt.heldAt_mono (untouched.ataLamports program debt.token)
      (untouched.tokens program debt.token))

/-- A rescue of another of the escrow's accounts leaves the escrow solvent. -/
theorem Solvent.rescued {ix : Instruction K} {c : RescueCall K} {debt : Debt K} {data : Data K}
    (free : env.CollisionFree) (trace : Trace env h s)
    (signed : ∀ key ∈ ix.signers, env.Wallet key)
    (live : s.ledger.programAt a = some data) (solvent : Solvent env h s a debt)
    (ran : ix.run env s.clock s.ledger = .ok l) (rescue : ix.rescueCall env = some c)
    (named : c.address = a) : Solvent env (⟨s, ix, l⟩ :: h) ⟨l, s.clock⟩ a debt := by
  obtain ⟨party, _, token, partyToken, start, steps⟩ := Instruction.rescue_steps ran rescue
  have derived := (trace.placed live).derived
  have wallet : env.Wallet c.party := signed _ party
  have rescued := steps.rescued (named ▸ trace.wallet_ne live wallet)
  have notAta : a ≠ c.ata := by
    rw [steps.ataDerived]
    exact derived.ne_associated free _ _ _
  refine ⟨Nat.le_trans solvent.rent (rescued.more a notAta), fun program owned whole => ?_⟩
  obtain ⟨missed, before⟩ := unrescued_cons (escrowOpened_rescue rescue) whole
  obtain ⟨kept, more⟩ := steps.spares free trace wallet (named ▸ trace.wallet_ne live wallet)
    derived.notWallet (Ne.symm (missed c rescue))
  exact Nat.le_trans (solvent.principal program owned before)
    (debt.heldAt_mono more (Nat.le_of_eq (Ledger.tokens_congr kept).symm))

/-- The escrow of a fill: what it was allocated with, and the amount if nobody
had taken any of what remained of the order. -/
theorem Trace.fill_solvent {ix : Src.CreateEscrow K} {v : Src.CreateEscrow.Values K}
    (free : env.CollisionFree) (trace : Trace env h s) (signed : env.Wallet ix.taker)
    (steps : Src.CreateEscrow.Steps env s.clock ix s.ledger v l) :
    Solvent env (⟨s, .src (.createEscrow ix), l⟩ :: h) ⟨l, s.clock⟩ ix.escrow
      ⟨EscrowSrc.initSpace, v.order.token, ix.amount, false⟩ := by
  have live : s.ledger.programAt ix.order = some (.order v.order) :=
    Ledger.programAt_eq_some.mpr steps.loaded
  have derived := (trace.placed live).derived.notWallet
  have notTaker : ix.escrow ≠ ix.taker := by
    intro same
    exact (Environment.derived_src (Environment.find_created steps.derived)).notWallet
      (same ▸ signed)
  obtain ⟨program', backed⟩ := trace.backed free live
  refine ⟨steps.escrow_rent notTaker, fun program owned whole => ?_⟩
  dsimp only at owned whole ⊢
  have nothing : rescuedFrom ix.order ix.mint h = 0 := by
    have opened : escrowOpened ix.escrow h (.src (.createEscrow ix)) =
        some (decide (rescuedFrom ix.order ix.mint h = 0)) := if_pos rfl
    rw [unrescued, opened, Option.getD_some] at whole
    exact of_decide_eq_true whole
  rw [steps.mint] at nothing
  have enough : ix.amount.toNat ≤ v.taken ix :=
    taken_enough (backed.unrescued free trace derived steps nothing)
  have programs := backed.program_eq free trace derived steps
  rw [backed.owned] at owned
  have filled := steps.filled
  have gained := filled.gained
  rw [← Option.some.inj owned, ← programs, ← steps.mint, ← filled.derived]
  change ix.amount.toNat ≤ l.tokens ix.escrowAta
  omega

theorem Trace.dst_solvent {ix : Dst.Create K} (free : env.CollisionFree) (trace : Trace env h s)
    (signed : env.Wallet ix.creator) (ran : Dst.create env s.clock ix s.ledger = .ok l) :
    Solvent env (⟨s, .dst (.create ix), l⟩ :: h) ⟨l, s.clock⟩ ix.escrow
      ⟨EscrowDst.initSpace, ix.mint, ix.amount, ix.assetIsNative⟩ := by
  have call : (Instruction.dst (.create ix)).run env s.clock s.ledger = .ok l := ran
  obtain ⟨_, _, _, steps⟩ := Dst.create_steps ran
  obtain ⟨account, init⟩ := initIfNeeded_ok steps.init
  have derived : env.Derived ix.escrow :=
    Environment.derived_dst (Environment.find_created steps.derived)
  have notCreator : ix.escrow ≠ ix.creator := fun same => derived.notWallet (same ▸ signed)
  have ataNotCreator : ix.escrowAta ≠ ix.creator := by
    intro same
    rw [init.derived] at same
    exact env.associated_notWallet _ _ _ (same ▸ signed)
  have distinct : ix.escrow ≠ ix.escrowAta := by
    rw [init.derived]
    exact derived.ne_associated free _ _ _
  have funded := Dst.create_funded notCreator ataNotCreator distinct ran
  obtain ⟨after, held, mint, program⟩ := funded.account
  have soundAfter : TokenSound env.toHost l :=
    Actions.tokenSound (Instruction.actions call) trace.tokenSound
  have owns := soundAfter.mintProgram_eq held program mint
  refine ⟨funded.rent, fun program' owned _ => ?_⟩
  dsimp only at owned ⊢
  rw [owns] at owned
  rw [← Option.some.inj owned, ← funded.derived]
  exact funded.asset

/-- Such a call for a source escrow is a rescue of its account. -/
theorem EscrowSrcCall.rescues {ix : Instruction K} {data : Data K} (call : EscrowSrcCall a ix)
    (ran : ix.run env s.clock s.ledger = .ok l) (held : l.programAt a = some data) :
    ∃ c, ix.rescueCall env = some c ∧ c.address = a := by
  obtain ⟨c, rfl, named⟩ := call.rescue_of_held ran held
  exact ⟨_, rfl, named⟩

/-- A call for a destination escrow that is still there afterwards is a rescue. -/
theorem EscrowDstCall.rescues {ix : Instruction K} {data : Data K} (call : EscrowDstCall a ix)
    (ran : ix.run env s.clock s.ledger = .ok l) (held : l.programAt a = some data) :
    ∃ c, ix.rescueCall env = some c ∧ c.address = a := by
  cases call with
  | @withdraw c named =>
    subst named
    obtain ⟨_, _, _, _, _, steps⟩ := Dst.withdraw_steps ran
    exact (removed_not_held steps.programAt held).elim
  | @publicWithdraw c named =>
    subst named
    obtain ⟨_, _, _, _, _, _, steps⟩ := Dst.publicWithdraw_steps ran
    exact (removed_not_held steps.programAt held).elim
  | @cancel c named =>
    subst named
    obtain ⟨_, _, _, steps⟩ := Dst.cancel_steps ran
    exact (removed_not_held steps.programAt held).elim
  | rescue named => exact ⟨_, rfl, named⟩

/-- In every run, every live escrow can pay. -/
theorem Trace.solvent (free : env.CollisionFree) (trace : Trace env h s) {data : Data K}
    {debt : Debt K} (held : s.ledger.programAt a = some data) (owes : data.debt = some debt) :
    Solvent env h s a debt := by
  induction trace generalizing a data debt with
  | start genesis =>
    rw [genesis.noPrograms] at held
    cases held
  | tick trace later ih =>
    exact (ih held owes).of_untouched (Untouched.refl env a _) (fun _ whole => whole)
  | external trace confined sound owned ih =>
    rw [owned] at held
    exact (ih held owes).of_untouched (trace.untouched_external free held confined)
      (fun _ whole => whole)
  | @step h s ix l trace signed ran ih =>
    rcases Instruction.origin ran held with live | new
    · by_cases named : a ∈ ix.named
      · have placed := trace.placed live
        have solvent := ih live owes
        have rescue : ∃ c, ix.rescueCall env = some c ∧ c.address = a := by
          cases data with
          | escrowSrc escrow => exact (placed.escrowSrcCall free live ran named).rescues ran held
          | escrowDst escrow => exact (placed.escrowDstCall free live ran named).rescues ran held
          | _ => cases owes
        obtain ⟨c, rescue, address⟩ := rescue
        exact solvent.rescued free trace signed live ran rescue address
      · exact (ih live owes).of_untouched (trace.untouched_call free live signed ran named)
          (fun _ whole => (unrescued_cons (escrowOpened_unnamed named) whole).2)
    · cases new with
      | @escrowSrc c v steps =>
        obtain rfl := Option.some.inj owes
        exact trace.fill_solvent free (signed _ (by simp [Instruction.signers,
          Src.Instruction.signers])) steps
      | @escrowDst c ran =>
        obtain rfl := Option.some.inj owes
        exact trace.dst_solvent free (signed _ (by simp [Instruction.signers,
          Dst.Instruction.signers])) ran
      | _ => cases owes

/-! ## Exits of live escrows -/

section Exits
variable {ix : Instruction K} {x : Exit K} {ready : Chain K}

/-- What the guards leave of an account that holds something. -/
theorem Exit.Checked.kept (checked : x.Checked env ix l ready) {k : K}
    (held : l.data k ≠ .empty) (other : k ≠ x.caller) :
    ready.data k = l.data k ∧ ready.lamports k = l.lamports k := by
  rcases checked.prepared with rfl | init
  · exact ⟨rfl, rfl⟩
  · exact initRecipientAta_kept init held other

/-- The escrow that an exit is of, and what it owes. -/
theorem Exit.Checked.owes (checked : x.Checked env ix l ready) :
    ∃ data debt, l.programAt x.escrow = some data ∧ data.debt = some debt ∧
      debt.token = x.mint ∧ debt.amount = x.amount ∧
      (debt.unwrapped = true → x.native = true) := by
  cases checked.stored with
  | src live mint amount _ _ _ =>
    exact ⟨_, _, live, rfl, mint.symm, amount.symm, fun unwrapped => by cases unwrapped⟩
  | dst live mint amount _ _ _ native =>
    exact ⟨_, _, live, rfl, mint.symm, amount.symm, fun unwrapped => native.trans unwrapped⟩

/-- A payee other than the escrow is paid at another account. -/
theorem Exit.Checked.receives (checked : x.Checked env ix l ready) (free : env.CollisionFree)
    (other : x.payee ≠ x.escrow)
    (ofMint : ∀ key ∈ x.payeeAta, ∀ account, ready.data key = .token account →
      account.mint = x.mint) (plain : x.native = false) :
    ∃ key account, x.payeeAta = some key ∧ ready.data key = .token account ∧
      account.program = x.tokenProgram ∧ account.mint = x.mint ∧ x.ata.key ≠ key := by
  obtain ⟨key, given, account, loaded, program, _, derived⟩ := checked.payeeToken plain
  refine ⟨key, account, given, loaded, program, ofMint key given account loaded, fun same => ?_⟩
  rw [checked.derived, derived] at same
  exact other (free.associated_inj same).1.symm

variable (free : env.CollisionFree) (trace : Trace env h s)
  (checked : x.Checked env ix s.ledger ready)

section Parties
include trace checked

theorem Trace.exit_derived : env.Derived x.escrow := by
  obtain ⟨_, _, live, _⟩ := checked.owes
  exact (trace.placed live).derived

theorem Trace.exit_rentPayer : env.Wallet x.rentPayer := by
  cases checked.stored with
  | src live _ _ _ rentPayer _ => exact rentPayer ▸ (trace.parties live).2
  | dst live _ _ _ rentPayer _ _ => exact rentPayer ▸ trace.parties live

/-- A wallet is neither the escrow nor its token account. -/
theorem Trace.exit_wallet {k : K} (wallet : env.Wallet k) : k ≠ x.escrow ∧ k ≠ x.ata.key := by
  refine ⟨fun same => ?_, fun same => ?_⟩
  · exact (trace.exit_derived checked).notWallet (same ▸ wallet)
  · rw [checked.derived] at same
    exact env.associated_notWallet _ _ _ (same ▸ wallet)

/-- The deposit of an exit fits in the rent of its escrow. -/
theorem Trace.exit_deposit (free : env.CollisionFree) :
    x.deposit.toNat ≤ s.ledger.lamports x.escrow := by
  cases checked.stored with
  | src live _ _ deposit _ _ =>
    rw [deposit]
    exact Nat.le_trans (trace.termsFit live).1 (trace.solvent free live rfl).rent
  | dst live _ _ deposit _ _ _ =>
    rw [deposit]
    exact Nat.le_trans (trace.termsFit live).1 (trace.solvent free live rfl).rent

/-- A native payout is of wrapped lamports. -/
theorem Trace.exit_mint (native : x.native = true) : x.mint = env.NATIVE_MINT := by
  cases checked.stored with
  | src live mint _ _ _ payee =>
    rw [mint]
    apply (trace.termsFit live).2
    rcases payee with ⟨_, plain⟩ | ⟨_, same⟩
    · rw [native] at plain
      cases plain
    · exact same.symm.trans native
  | dst live mint _ _ _ _ same =>
    rw [mint]
    exact (trace.termsFit live).2.1 (same.symm.trans native)

end Parties

include free trace checked

/-- The token account of an escrow is of the escrow's mint. -/
theorem Trace.exit_account :
    x.ata.account.mint = x.mint ∧ env.mintProgram x.mint = some x.tokenProgram := by
  have derived := (trace.exit_derived checked).notWallet
  have loaded := checked.token
  rw [checked.derived] at loaded
  exact ⟨(trace.associatedSound free derived _ _ _ loaded).2.2, trace.ata_program free derived loaded⟩

/-- An exit whose guards have passed finds everything in its place. -/
theorem Trace.exit_sound (signed : ∀ key ∈ ix.signers, env.Wallet key)
    (wrapped : env.mintProgram env.NATIVE_MINT = some .token) :
    x.Sound env s.clock ready ∧ ready.lamports x.escrow = s.ledger.lamports x.escrow ∧
      ready.lamports x.ata.key = s.ledger.lamports x.ata.key := by
  obtain ⟨data, debt, live, _⟩ := checked.owes
  have stored := Ledger.programAt_eq_some.mp live
  have caller := trace.exit_wallet checked (signed _ checked.signer)
  have rentPayer := trace.exit_wallet checked (trace.exit_rentPayer checked)
  obtain ⟨mint, owned⟩ := trace.exit_account free checked
  obtain ⟨escrowData, escrowLamports⟩ := checked.kept (by rw [stored]; simp) (Ne.symm caller.1)
  obtain ⟨ataData, ataLamports⟩ := checked.kept (by rw [checked.token]; simp) (Ne.symm caller.2)
  have sound := trace.tokenSound _ _ checked.token
  refine ⟨?_, escrowLamports, ataLamports⟩
  exact {
    stored := ⟨data, escrowData.trans stored⟩
    token := ataData.trans checked.token
    program := checked.program
    owner := checked.owner
    mint := mint
    wrapped := fun native => by
      have isNative := trace.exit_mint checked native
      rw [isNative, wrapped] at owned
      rw [sound.native, mint, checked.program, ← Option.some.inj owned]
      exact isNative
    signs := by
      rw [callSigners_derived checked.seeds]
      simp
    rentPayer := rentPayer
    caller := caller
    covered := by
      rw [ataLamports]
      exact sound.wrapped_le }

/-- Without rescues the token account covers the amount. -/
theorem Trace.exit_covered (whole : unrescued env x.escrow x.ata.key h = true)
    (wrapped : x.native = true → x.ata.account.isNative.isSome = true) :
    (x.native = true → x.amount.toNat ≤ s.ledger.lamports x.ata.key) ∧
      (x.native = false → x.amount.toNat ≤ x.ata.account.amount) := by
  obtain ⟨data, debt, live, owes, token, amount, unwrapped⟩ := checked.owes
  have owned := (trace.exit_account free checked).2
  rw [← token] at owned
  have principal := (trace.solvent free live owes).principal _ owned
  rw [token, ← checked.derived, amount] at principal
  have held := principal whole
  have tokens := Ledger.tokens_of_token checked.token
  unfold Debt.heldAt at held
  split at held
  · next lamports =>
    refine ⟨fun _ => held, fun plain => ?_⟩
    rw [unwrapped lamports] at plain
    cases plain
  · rw [tokens] at held
    refine ⟨fun native => ?_, fun _ => held⟩
    obtain ⟨reserve, found⟩ := Option.isSome_iff_exists.mp (wrapped native)
    have backed := (trace.tokenSound _ _ checked.token).backed reserve found
    omega

end Exits

end CrossChainEscrow.Source

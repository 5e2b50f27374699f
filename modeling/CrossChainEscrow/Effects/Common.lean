import CrossChainEscrow.Library.Bookkeeping
import CrossChainEscrow.Source.Escrow

/-!
# What the shared transfers and payouts do

One group of lemmas for each function of `common/src/escrow.rs`: who authorises
it, that it leaves program data alone, and what the accounts it names hold
afterwards.
-/

namespace CrossChainEscrow.Source
open Library.Words Library.Bytes Library.Accounts Library.Bookkeeping

variable {K : Type} [DecidableEq K] {env : Environment K} {ctx : Context K} {A : K → Prop}
  {l l' : Chain K}

omit [DecidableEq K] in
/-- With seeds that derive `address`, a call carries the signature of `address`
besides those of the instruction. -/
theorem callSigners_derived {seeds : SignerSeeds K} {address : K}
    (derived : env.createProgramAddress ctx.programId seeds.seeds seeds.bump = some address) :
    ctx.callSigners env (some seeds) = ctx.signers ++ [address] := by
  simp [Context.callSigners, Host.seedSigner, derived]

omit [DecidableEq K] in
theorem callSigners_authorised {seeds : SignerSeeds K} {address : K}
    (derived : env.createProgramAddress ctx.programId seeds.seeds seeds.bump = some address)
    (signed : ∀ k ∈ ctx.signers, A k) (named : A address) :
    ∀ k ∈ ctx.callSigners env (some seeds), A k := by
  intro k member
  rw [callSigners_derived derived, List.mem_append, List.mem_singleton] at member
  rcases member with signer | rfl
  · exact signed k signer
  · exact named

/-! ## Authorities -/

theorem uniTransfer_actions {params : UniTransferParams K} {seeds : Option (SignerSeeds K)}
    (signed : ∀ k ∈ ctx.callSigners env seeds, A k)
    (h : uniTransfer env ctx params seeds l = .ok l') : Actions env.toHost A l l' := by
  cases params with
  | nativeTransfer src dst amount =>
    unfold uniTransfer at h
    simp only at h
    split at h
    · rw [pure_ok.mp h]
    · exact systemTransfer_actions signed h
  | tokenTransfer src authority dst mint amount program =>
    unfold uniTransfer at h
    simp only at h
    split at h
    · rw [pure_ok.mp h]
    · exact transferChecked_actions signed h

theorem withdrawAndCloseTokenAta_actions {ata : InterfaceAccount K} {authority dst mint rent : K}
    {program : TokenProgram} {seeds : SignerSeeds K}
    (signed : ∀ k ∈ ctx.callSigners env (some seeds), A k)
    (h : withdrawAndCloseTokenAta env ctx ata authority dst mint program rent seeds l = .ok l') :
    Actions env.toHost A l l' := by
  obtain ⟨moved, transfer, close⟩ := bind_ok.mp h
  exact (uniTransfer_actions signed transfer).trans (closeAccount_actions signed close)

theorem processPayout_actions {mint escrow recipient rent : K} {native : Bool} {amount : U64}
    {ata : InterfaceAccount K} {recipientAta : Option K} {seeds : SignerSeeds K}
    {program : TokenProgram} (signed : ∀ k ∈ ctx.callSigners env (some seeds), A k)
    (named : A escrow)
    (h : processPayout env ctx mint native amount escrow ata recipient recipientAta rent seeds
      program l = .ok l') : Actions env.toHost A l l' := by
  unfold processPayout at h
  split at h
  · obtain ⟨closed, close, h⟩ := bind_ok.mp h
    obtain ⟨paid, pay, credit⟩ := bind_ok.mp h
    exact ((closeAccount_actions signed close).trans (subLamports_actions named pay)).trans
      (addLamports_actions credit)
  · obtain ⟨_, _, h⟩ := bind_ok.mp h
    exact withdrawAndCloseTokenAta_actions signed h

theorem distributeSafetyDeposit_actions {escrow rent recipient : K} {deposit : U64}
    (named : A escrow)
    (h : distributeSafetyDeposit escrow rent recipient deposit l = .ok l') :
    Actions env.toHost A l l' := by
  unfold distributeSafetyDeposit at h
  split at h
  · obtain ⟨paid, pay, credit⟩ := bind_ok.mp h
    exact (subLamports_actions named pay).trans (addLamports_actions credit)
  · rw [pure_ok.mp h]

theorem rescueFunds_actions {escrow recipient recipientAta mint : K} {rescueStart : Option U32}
    {ata : InterfaceAccount K} {program : TokenProgram} {amount : U64} {seeds : SignerSeeds K}
    (signed : ∀ k ∈ ctx.callSigners env (some seeds), A k)
    (h : rescueFunds env ctx escrow rescueStart ata recipient recipientAta mint program amount
      seeds l = .ok l') : Actions env.toHost A l l' := by
  obtain ⟨_, _, h⟩ := bind_ok.mp h
  obtain ⟨moved, transfer, close⟩ := bind_ok.mp h
  refine (uniTransfer_actions signed transfer).trans ?_
  unfold closeRescued at close
  split at close
  · exact closeAccount_actions signed close
  · rw [pure_ok.mp close]

/-! ## Balances -/

theorem uniTransfer_programAt {params : UniTransferParams K} {seeds : Option (SignerSeeds K)}
    (h : uniTransfer env ctx params seeds l = .ok l') : l'.programAt = l.programAt := by
  cases params with
  | nativeTransfer src dst amount =>
    unfold uniTransfer at h
    simp only at h
    split at h
    · rw [pure_ok.mp h]
    · obtain ⟨_, _, _, rfl⟩ := systemTransfer_ok.mp h
      exact Ledger.programAt_congr rfl
  | tokenTransfer src authority dst mint amount program =>
    unfold uniTransfer at h
    simp only at h
    split at h
    · rw [pure_ok.mp h]
    · obtain ⟨_, loaded, _, loadedTo, _, _, _, _, _, _, rfl⟩ := transferChecked_ok.mp h
      exact Ledger.moveTokens_programAt loaded loadedTo

/-- A token transfer out of a loaded account, of any amount, zero included. -/
theorem uniTransfer_moved {src authority dst mint : K} {amount : Nat} {program : TokenProgram}
    {seeds : Option (SignerSeeds K)} {source : TokenAccount K} (distinct : src ≠ dst)
    (loaded : l.data src = .token source)
    (h : uniTransfer env ctx (.tokenTransfer src authority dst mint amount program) seeds l
      = .ok l') : TokensMoved l l' src dst source amount := by
  unfold uniTransfer at h
  simp only at h
  split at h
  · next zero =>
    rw [pure_ok.mp h, zero]
    exact TokensMoved.refl loaded
  · exact transferChecked_moved distinct loaded h

/-- The entries of a transfer: its amount, and the lamports that this wraps. -/
theorem uniTransfer_booked {src authority dst mint : K} {amount : Nat} {program : TokenProgram}
    {seeds : Option (SignerSeeds K)} {source : TokenAccount K} (distinct : src ≠ dst)
    (loaded : l.data src = .token source)
    (h : uniTransfer env ctx (.tokenTransfer src authority dst mint amount program) seeds l
      = .ok l') :
    Booked [(src, amount)] [(dst, amount)] l.tokens l'.tokens ∧
      Booked [(src, source.wrapped amount)] [(dst, source.wrapped amount)] l.lamports
        l'.lamports := by
  unfold uniTransfer at h
  simp only at h
  split at h
  · next zero =>
    obtain rfl := pure_ok.mp h
    have nothing : source.wrapped amount = 0 := by
      rw [zero]
      exact ite_self 0
    rw [nothing, zero]
    exact ⟨⟨fun k => by simp⟩, ⟨fun k => by simp⟩⟩
  · exact transferChecked_booked distinct loaded h

theorem uniTransfer_succeeds {src authority dst mint : K} {n : Nat} {program : TokenProgram}
    {seeds : Option (SignerSeeds K)} {source destination : TokenAccount K}
    (loaded : l.data src = .token source) (loadedTo : l.data dst = .token destination)
    (programs : source.program = program ∧ destination.program = program)
    (mints : source.mint = mint ∧ destination.mint = mint) (owner : source.owner = authority)
    (signs : authority ∈ ctx.callSigners env seeds) (enough : n ≤ source.amount)
    (covered : source.wrapped n ≤ l.lamports src) :
    ∃ moved, uniTransfer env ctx (.tokenTransfer src authority dst mint n program) seeds l
      = .ok moved := by
  unfold uniTransfer
  simp only
  split
  · exact ⟨l, rfl⟩
  · refine ⟨_, transferChecked_ok.mpr ⟨source, loaded, destination, loadedTo, programs, mints,
      owner, signs, enough, fun native => ?_, rfl⟩⟩
    rw [TokenAccount.wrapped, if_pos native] at covered
    exact covered

/-- A transfer of some tokens is between accounts of its mint. -/
theorem uniTransfer_mint {src authority dst mint : K} {amount : Nat} {program : TokenProgram}
    {seeds : Option (SignerSeeds K)} {destination : TokenAccount K} (amount_ne : amount ≠ 0)
    (loadedTo : l.data dst = .token destination)
    (h : uniTransfer env ctx (.tokenTransfer src authority dst mint amount program) seeds l
      = .ok l') : destination.mint = mint := by
  unfold uniTransfer at h
  simp only [if_neg amount_ne] at h
  obtain ⟨_, _, account, loaded, _, mints, _⟩ := transferChecked_ok.mp h
  obtain rfl : account = destination := AccountData.token.inj (loaded.symm.trans loadedTo)
  exact mints.2

/-- The lamports that a native payment takes. -/
def nativeCost (native : Bool) (amount : U64) : Nat := if native = true then amount.toNat else 0

/-- A transfer of lamports, of any amount. -/
theorem uniTransfer_native {src dst : K} {amount : Nat} {seeds : Option (SignerSeeds K)}
    (h : uniTransfer env ctx (.nativeTransfer src dst amount) seeds l = .ok l') :
    amount ≤ l.lamports src ∧ l' = l.move src dst amount := by
  unfold uniTransfer at h
  simp only at h
  split at h
  · next zero =>
    rw [pure_ok.mp h, zero]
    refine ⟨Nat.zero_le _, ?_⟩
    rw [Ledger.move, moveLamports_zero]
  · obtain ⟨_, _, enough, rfl⟩ := systemTransfer_ok.mp h
    exact ⟨enough, rfl⟩

/-- It costs the payer its amount, and nobody else anything. -/
theorem uniTransfer_native_spent {src dst : K} {amount : Nat} {seeds : Option (SignerSeeds K)}
    (h : uniTransfer env ctx (.nativeTransfer src dst amount) seeds l = .ok l') (k : K) :
    l.lamports k ≤ l'.lamports k + amount := by
  obtain ⟨enough, rfl⟩ := uniTransfer_native h
  have booked : Booked [(src, amount)] [(dst, amount)] l.lamports (l.move src dst amount).lamports :=
    moveLamports_booked enough
  have moved := booked.account k
  simp only [posted_cons, posted_nil] at moved
  split at moved <;> omega

/-- An account that carries data cannot be the payer, so it receives. -/
theorem uniTransfer_received {src dst : K} {amount : Nat} {seeds : Option (SignerSeeds K)}
    {account : TokenAccount K} (loaded : l.data dst = .token account)
    (h : uniTransfer env ctx (.nativeTransfer src dst amount) seeds l = .ok l') :
    l'.data = l.data ∧ l'.lamports dst = l.lamports dst + amount := by
  unfold uniTransfer at h
  simp only at h
  split at h
  · next zero =>
    obtain rfl := pure_ok.mp h
    exact ⟨rfl, by rw [zero, Nat.add_zero]⟩
  · obtain ⟨_, plain, _, rfl⟩ := systemTransfer_ok.mp h
    have distinct : src ≠ dst := by
      rintro rfl
      rw [loaded] at plain
      cases plain
    exact ⟨rfl, moveLamports_dst _ _ distinct⟩

/-- The escrow's token account is emptied into another account and closed. -/
structure PaidOut (l l' : Chain K) (ata dst : K) (amount : Nat) : Prop where
  closed : l'.data ata = .empty
  credited : ∀ destination, l.data dst = .token destination →
    l'.data dst = .token { destination with amount := destination.amount + amount }
  received : l'.tokens dst = l.tokens dst + amount
  others : ∀ a, a ≠ ata → a ≠ dst → l'.data a = l.data a
  programs : l'.programAt = l.programAt
  more : ∀ a, a ≠ ata → l.lamports a ≤ l'.lamports a

/-- A transfer of tokens and the closing of the account they came from. -/
theorem paidOut_of_closed {moved : Chain K} {signers : List K} {ata dst rent authority : K}
    {program : TokenProgram} {source : TokenAccount K} {n : Nat} (distinct : ata ≠ dst)
    (transferred : TokensMoved l moved ata dst source n)
    (close : (closeAccount signers program ata rent authority moved : Result _) = .ok l') :
    PaidOut l l' ata dst n := by
  obtain ⟨gone, kept, _⟩ := closeAccount_effect close
  refine ⟨gone, fun destination loadedTo => ?_, ?_, fun a hs hd => ?_, ?_, fun a other => ?_⟩
  · rw [kept dst (Ne.symm distinct), transferred.credited destination loadedTo]
  · rw [Ledger.tokens_congr (kept dst (Ne.symm distinct)), transferred.received]
  · rw [kept a hs, transferred.others a hs hd]
  · rw [closeAccount_programAt close, transferred.programs]
  · exact Nat.le_trans (transferred.more a other) (closeAccount_more close other)

theorem withdrawAndCloseTokenAta_paid {ata : InterfaceAccount K} {authority dst mint rent : K}
    {program : TokenProgram} {seeds : SignerSeeds K} (distinct : ata.key ≠ dst)
    (loaded : l.data ata.key = .token ata.account)
    (h : withdrawAndCloseTokenAta env ctx ata authority dst mint program rent seeds l = .ok l') :
    PaidOut l l' ata.key dst ata.account.amount := by
  obtain ⟨moved, transfer, close⟩ := bind_ok.mp h
  exact paidOut_of_closed distinct (uniTransfer_moved distinct loaded transfer) close

theorem withdrawAndCloseTokenAta_programAt {ata : InterfaceAccount K}
    {authority dst mint rent : K} {program : TokenProgram} {seeds : SignerSeeds K}
    (h : withdrawAndCloseTokenAta env ctx ata authority dst mint program rent seeds l = .ok l') :
    l'.programAt = l.programAt := by
  obtain ⟨moved, transfer, close⟩ := bind_ok.mp h
  rw [closeAccount_programAt close, uniTransfer_programAt transfer]

/-- The wrapped account is closed into the escrow's address, which pays out. -/
structure PaidLamports (l l' : Chain K) (escrow ata recipient : K) (amount : Nat) : Prop where
  closed : l'.data ata = .empty
  others : ∀ a, a ≠ ata → l'.data a = l.data a
  programs : l'.programAt = l.programAt
  received : recipient ≠ escrow →
    (if recipient = ata then 0 else l.lamports recipient) + amount ≤ l'.lamports recipient
  more : ∀ a, a ≠ ata → a ≠ escrow → l.lamports a ≤ l'.lamports a

theorem processPayout_native {mint escrow recipient rent : K} {amount : U64}
    {ata : InterfaceAccount K} {recipientAta : Option K} {seeds : SignerSeeds K}
    {program : TokenProgram}
    (h : processPayout env ctx mint true amount escrow ata recipient recipientAta rent seeds
      program l = .ok l') : PaidLamports l l' escrow ata.key recipient amount.toNat := by
  unfold processPayout at h
  rw [if_pos rfl] at h
  obtain ⟨closed, close, h⟩ := bind_ok.mp h
  obtain ⟨paid, pay, credit⟩ := bind_ok.mp h
  obtain ⟨gone, kept, empty, _, lamports⟩ := closeAccount_effect close
  obtain ⟨_, _, _, rfl⟩ := subLamports_ok.mp pay
  rw [addLamports_ok] at credit
  subst credit
  have programs : closed.programAt = l.programAt := closeAccount_programAt close
  refine ⟨gone, kept, programs, fun distinct => ?_, fun a hs he => ?_⟩
  · rw [Ledger.setLamports_lamports_self, Ledger.setLamports_lamports_other _ _ _ distinct]
    split
    · omega
    · next other =>
      rw [lamports recipient other distinct]
  · have before := lamports a hs he
    by_cases same : a = recipient
    · subst a
      rw [Ledger.setLamports_lamports_self, Ledger.setLamports_lamports_other _ _ _ he]
      omega
    · rw [Ledger.setLamports_lamports_other _ _ _ same,
        Ledger.setLamports_lamports_other _ _ _ he, before]

theorem processPayout_token {mint escrow recipient rent : K} {amount : U64}
    {ata : InterfaceAccount K} {recipientAta : Option K} {seeds : SignerSeeds K}
    {program : TokenProgram}
    (h : processPayout env ctx mint false amount escrow ata recipient recipientAta rent seeds
      program l = .ok l') :
    ∃ dst, recipientAta = some dst ∧
      withdrawAndCloseTokenAta env ctx ata escrow dst mint program rent seeds l = .ok l' := by
  unfold processPayout at h
  rw [if_neg (by decide)] at h
  obtain ⟨dst, given, h⟩ := bind_ok.mp h
  exact ⟨dst, orFault_ok.mp given, h⟩

/-- A payout in tokens puts all the escrow's account held into the recipient's. -/
theorem processPayout_delivered {mint escrow recipient rent : K} {amount : U64}
    {ata : InterfaceAccount K} {recipientAta : Option K} {seeds : SignerSeeds K}
    {program : TokenProgram} {data : Data K} (distinct : recipient ≠ escrow)
    (stored : l.data escrow = .program data) (loaded : l.data ata.key = .token ata.account)
    (owner : ata.account.owner = escrow)
    (recipientToken : ∀ key ∈ recipientAta, ∃ account, l.data key = .token account ∧
      account.owner = recipient ∧ key = env.associatedTokenAddress recipient program mint)
    (h : processPayout env ctx mint false amount escrow ata recipient recipientAta rent seeds
      program l = .ok l') :
    env.associatedTokenAddress recipient program mint ≠ escrow ∧
      l'.tokens (env.associatedTokenAddress recipient program mint) =
        l.tokens (env.associatedTokenAddress recipient program mint) + l.tokens ata.key := by
  obtain ⟨dst, given, paid⟩ := processPayout_token h
  obtain ⟨account, held, owned, derived⟩ := recipientToken dst given
  rw [← derived]
  have accounts : ata.key ≠ dst := by
    intro same
    rw [same, held] at loaded
    apply distinct
    rw [← owned, AccountData.token.inj loaded, owner]
  have moved := withdrawAndCloseTokenAta_paid accounts loaded paid
  refine ⟨ne_of_program stored held, ?_⟩
  rw [moved.received, Ledger.tokens_of_token loaded]

/-- A payout closes the token account. -/
theorem processPayout_closed {mint escrow recipient rent : K} {native : Bool} {amount : U64}
    {ata : InterfaceAccount K} {recipientAta : Option K} {seeds : SignerSeeds K}
    {program : TokenProgram}
    (h : processPayout env ctx mint native amount escrow ata recipient recipientAta rent seeds
      program l = .ok l') : l'.data ata.key = .empty := by
  cases native with
  | true => exact (processPayout_native h).closed
  | false =>
    obtain ⟨_, _, withdrawn⟩ := processPayout_token h
    obtain ⟨_, _, close⟩ := bind_ok.mp withdrawn
    exact (closeAccount_effect close).1

theorem processPayout_programAt {mint escrow recipient rent : K} {native : Bool} {amount : U64}
    {ata : InterfaceAccount K} {recipientAta : Option K} {seeds : SignerSeeds K}
    {program : TokenProgram}
    (h : processPayout env ctx mint native amount escrow ata recipient recipientAta rent seeds
      program l = .ok l') : l'.programAt = l.programAt := by
  cases native with
  | true => exact (processPayout_native h).programs
  | false =>
    obtain ⟨_, _, paid⟩ := processPayout_token h
    exact withdrawAndCloseTokenAta_programAt paid

/-- Distributing the safety deposit only touches lamports, and only those of
the escrow go down. -/
theorem distributeSafetyDeposit_effect {escrow rent recipient : K} {deposit : U64}
    (h : distributeSafetyDeposit escrow rent recipient deposit l = .ok l') :
    l'.data = l.data ∧ ∀ a, a ≠ escrow → l.lamports a ≤ l'.lamports a := by
  unfold distributeSafetyDeposit at h
  split at h
  · obtain ⟨paid, pay, credit⟩ := bind_ok.mp h
    obtain ⟨_, _, _, rfl⟩ := subLamports_ok.mp pay
    rw [addLamports_ok] at credit
    subst credit
    refine ⟨rfl, fun a other => ?_⟩
    by_cases same : a = recipient
    · subst a
      rw [Ledger.setLamports_lamports_self, Ledger.setLamports_lamports_other _ _ _ other]
      omega
    · rw [Ledger.setLamports_lamports_other _ _ _ same,
        Ledger.setLamports_lamports_other _ _ _ other]
  · rw [pure_ok.mp h]
    exact ⟨rfl, fun _ _ => Nat.le_refl _⟩

/-- Whoever is not the one who paid the rent gets the deposit. -/
theorem distributeSafetyDeposit_received {escrow rent recipient : K} {deposit : U64}
    (h : distributeSafetyDeposit escrow rent recipient deposit l = .ok l')
    (distinct : recipient ≠ escrow) :
    l.lamports recipient + (if rent = recipient then 0 else deposit.toNat) ≤
      l'.lamports recipient := by
  unfold distributeSafetyDeposit at h
  split at h
  · next other =>
    obtain ⟨paid, pay, credit⟩ := bind_ok.mp h
    obtain ⟨_, _, _, rfl⟩ := subLamports_ok.mp pay
    rw [addLamports_ok.mp credit, Ledger.setLamports_lamports_self,
      Ledger.setLamports_lamports_other _ _ _ distinct, if_neg other]
  · next same =>
    rw [pure_ok.mp h, if_pos (not_not.mp same), Nat.add_zero]

/-- The end of an exit: the safety deposit is distributed and the program
account closed. -/
theorem finish_effect {settled : Chain K} {escrow rent recipient destination : K}
    {deposit : U64} (distribute : distributeSafetyDeposit escrow rent recipient deposit l
      = .ok settled)
    (close : (closeProgram escrow destination settled : Result (Chain K)) = .ok l') :
    l'.data escrow = .empty ∧ (∀ a, a ≠ escrow → l'.data a = l.data a) ∧
      l'.programAt = Function.update l.programAt escrow none ∧
      ∀ a, a ≠ escrow → l.lamports a ≤ l'.lamports a := by
  obtain ⟨same, more⟩ := distributeSafetyDeposit_effect distribute
  obtain ⟨gone, kept, later⟩ := closeProgram_effect close
  refine ⟨gone, fun a other => ?_, ?_, fun a other => ?_⟩
  · rw [kept a other, same]
  · rw [closeProgram_programAt close, Ledger.programAt_congr same]
  · exact Nat.le_trans (more a other) (later a other)

/-! ## Rescues -/

omit [DecidableEq K] in
theorem rescueStartOf_ok {T : Type} {read : Data K → Option T} {timelocks : T → Limbs}
    {make : T → Data K} (inverse : ∀ data v, read data = some v ↔ data = make v) {address : K}
    {start : Option U32} (h : rescueStartOf read timelocks l address = .ok start) :
    (l.data address = .empty ∧ start = none) ∨
      ∃ value time, l.data address = .program (make value) ∧ start = some time ∧
        time.toNat = (timelocks value).timelocks.deployedAt + rescueDelay.toNat := by
  unfold rescueStartOf at h
  split at h
  · next unused =>
    exact Or.inl ⟨AccountData.isEmpty_iff.mp unused, pure_ok.mp h⟩
  · obtain ⟨value, load, h⟩ := bind_ok.mp h
    obtain ⟨time, reached, h⟩ := bind_ok.mp h
    exact Or.inr ⟨value, time, (loadAs_ok inverse).mp load, pure_ok.mp h,
      Timelocks.rescueStart_ok.mp reached⟩

/-- A rescue moves tokens from the escrow's account to the recipient's and may
close the emptied account. -/
structure Rescued (l l' : Chain K) (ata dst : K) (source : TokenAccount K) (amount : Nat) :
    Prop where
  enough : amount ≤ source.amount
  drained : l'.tokens ata + amount = l.tokens ata
  received : l'.tokens dst = l.tokens dst + amount
  others : ∀ a, a ≠ ata → a ≠ dst → l'.data a = l.data a
  programs : l'.programAt = l.programAt
  lamports : amount < source.amount → l.lamports ata ≤ l'.lamports ata + amount
  more : ∀ a, a ≠ ata → l.lamports a ≤ l'.lamports a

theorem rescueFunds_rescued {escrow recipient dst mint : K} {rescueStart : Option U32}
    {ata : InterfaceAccount K} {program : TokenProgram} {amount : U64} {seeds : SignerSeeds K}
    (distinct : ata.key ≠ dst) (loaded : l.data ata.key = .token ata.account)
    (h : rescueFunds env ctx escrow rescueStart ata recipient dst mint program amount seeds l
      = .ok l') : Rescued l l' ata.key dst ata.account amount.toNat := by
  obtain ⟨_, _, h⟩ := bind_ok.mp h
  obtain ⟨moved, transfer, close⟩ := bind_ok.mp h
  have transferred := uniTransfer_moved distinct loaded transfer
  have debit := transferred.debit loaded
  have paid : l.lamports ata.key ≤ moved.lamports ata.key + amount.toNat := by
    rw [← transferred.paid]
    exact Nat.add_le_add_left (ata.account.wrapped_le _) _
  unfold closeRescued at close
  split at close
  · next all =>
    have out := paidOut_of_closed distinct transferred close
    have empty : l'.tokens ata.key = 0 := by simp [Ledger.tokens, out.closed, AccountData.tokens]
    have held := Ledger.tokens_of_token loaded
    exact ⟨transferred.enough, by omega, out.received, out.others, out.programs,
      fun less => by omega, out.more⟩
  · obtain rfl := pure_ok.mp close
    exact ⟨transferred.enough, debit, transferred.received, transferred.others,
      transferred.programs, fun _ => paid, transferred.more⟩

/-- The account after a rescue: closed when the rescue took all its tokens, and
otherwise less these tokens and their lamports. -/
theorem rescueFunds_account {escrow recipient dst mint : K} {rescueStart : Option U32}
    {ata : InterfaceAccount K} {program : TokenProgram} {amount : U64} {seeds : SignerSeeds K}
    (distinct : ata.key ≠ dst) (loaded : l.data ata.key = .token ata.account)
    (h : rescueFunds env ctx escrow rescueStart ata recipient dst mint program amount seeds l
      = .ok l') :
    (amount.toNat = ata.account.amount → l'.data ata.key = .empty ∧ l'.lamports ata.key = 0) ∧
    (amount.toNat ≠ ata.account.amount →
      l'.data ata.key = .token { ata.account with amount := ata.account.amount - amount.toNat } ∧
      l'.lamports ata.key + ata.account.wrapped amount.toNat = l.lamports ata.key) := by
  obtain ⟨_, _, h⟩ := bind_ok.mp h
  obtain ⟨moved, transfer, close⟩ := bind_ok.mp h
  have transferred := uniTransfer_moved distinct loaded transfer
  unfold closeRescued at close
  split at close
  · next all =>
    obtain ⟨gone, _, none, _⟩ := closeAccount_effect close
    exact ⟨fun _ => ⟨gone, none⟩, fun other => absurd all other⟩
  · next some =>
    obtain rfl := pure_ok.mp close
    exact ⟨fun all => absurd all some, fun _ => ⟨transferred.debited, transferred.paid⟩⟩

theorem rescueFunds_programAt {escrow recipient dst mint : K} {rescueStart : Option U32}
    {ata : InterfaceAccount K} {program : TokenProgram} {amount : U64} {seeds : SignerSeeds K}
    (h : rescueFunds env ctx escrow rescueStart ata recipient dst mint program amount seeds l
      = .ok l') : l'.programAt = l.programAt := by
  obtain ⟨_, _, h⟩ := bind_ok.mp h
  obtain ⟨moved, transfer, close⟩ := bind_ok.mp h
  have same : l'.programAt = moved.programAt := by
    unfold closeRescued at close
    split at close
    · exact closeAccount_programAt close
    · rw [pure_ok.mp close]
  rw [same, uniTransfer_programAt transfer]

theorem rescueFunds_started {escrow recipient dst mint : K} {start : U32}
    {ata : InterfaceAccount K} {program : TokenProgram} {amount : U64} {seeds : SignerSeeds K}
    (h : rescueFunds env ctx escrow (some start) ata recipient dst mint program amount seeds l
      = .ok l') : start.toNat ≤ ctx.clock.unixTimestamp.toNat := by
  obtain ⟨_, started, _⟩ := bind_ok.mp h
  rw [requireRescueStarted, requireThat_ok] at started
  exact started

/-! ## Time checks -/

/-- Both ends of a window exist and the clock is inside. -/
theorem requireWindow_ok {now : U32} {t : Timelocks} {opens closes : Stage} {done : Unit} :
    requireWindow now t opens closes = .ok done ↔
      t.deployedAt + t.offset opens ≤ now.toNat ∧ now.toNat < t.deployedAt + t.offset closes ∧
        t.deployedAt + t.offset closes < 2 ^ 32 := by
  simp only [requireWindow, insideWindow, bind_ok, requireThat_ok, Timelocks.get_ok]
  constructor
  · rintro ⟨inside, ⟨start, hs, inner⟩, rfl⟩
    split at inner
    · next reached =>
      obtain ⟨stop, he, decided⟩ := bind_ok.mp inner
      have before : now < stop := by simpa using (pure_ok.mp decided).symm
      have hstart : start.toNat ≤ now.toNat := reached
      have hstop : now.toNat < stop.toNat := before
      have bound := stop.isLt
      have stops := Timelocks.get_ok.mp he
      omega
    · simp [pure_ok] at inner
  · rintro ⟨opened, still, fits⟩
    have bound := now.isLt
    obtain ⟨start, hs⟩ := ofNat?_isSome (w := 32) (n := t.deployedAt + t.offset opens) (by omega)
    obtain ⟨stop, he⟩ := ofNat?_isSome (w := 32) (n := t.deployedAt + t.offset closes) fits
    rw [ofNat?_eq_some] at hs he
    refine ⟨true, ⟨start, hs, ?_⟩, rfl⟩
    have reached : now ≥ start := by
      change start.toNat ≤ now.toNat
      omega
    have before : now < stop := by
      change now.toNat < stop.toNat
      omega
    rw [if_pos reached, bind_ok]
    exact ⟨stop, Timelocks.get_ok.mpr he, by simp [pure_ok, before]⟩

theorem requireReached_ok {now : U32} {t : Timelocks} {stage : Stage} {done : Unit} :
    requireReached now t stage = .ok done ↔ t.deployedAt + t.offset stage ≤ now.toNat := by
  simp only [requireReached, bind_ok, requireThat_ok, Timelocks.get_ok]
  constructor
  · rintro ⟨start, hs, reached⟩
    have opened : start.toNat ≤ now.toNat := reached
    omega
  · intro opened
    have bound := now.isLt
    obtain ⟨start, hs⟩ := ofNat?_isSome (w := 32) (n := t.deployedAt + t.offset stage) (by omega)
    rw [ofNat?_eq_some] at hs
    refine ⟨start, hs, ?_⟩
    change start.toNat ≤ now.toNat
    omega

end CrossChainEscrow.Source

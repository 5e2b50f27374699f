import CrossChainEscrow.Effects.Exits

/-!
# Exits that can pay do

`Exit.Payable` says what the end of an exit needs of the ledger: accounts in
their place, tokens of one mint, and lamports for the principal and the deposit.
An exit that has it runs through, and `Exit.Settled` is what it leaves, entry by
entry.
-/

namespace CrossChainEscrow.Source
open Library.Words Library.Bytes Library.Accounts Library.Bookkeeping

variable {K : Type} [DecidableEq K] {env : Environment K} {clock : Clock} {ctx : Context K}
  {l : Chain K}

/-! ## Steps that succeed -/

/-- All tokens move, with their lamports, and the rest of the lamports when the
account is closed. -/
theorem withdrawAndCloseTokenAta_succeeds {ata authority dst mint rent : K} {program : TokenProgram}
    {seeds : SignerSeeds K} {source destination : TokenAccount K} (distinct : ata ≠ dst)
    (notRent : ata ≠ rent) (loaded : l.data ata = .token source)
    (loadedTo : l.data dst = .token destination)
    (programs : source.program = program ∧ destination.program = program)
    (mints : source.mint = mint ∧ destination.mint = mint) (owner : source.owner = authority)
    (signs : authority ∈ ctx.callSigners env (some seeds))
    (covered : source.wrapped source.amount ≤ l.lamports ata) :
    ∃ paid rest, withdrawAndCloseTokenAta env ctx ⟨ata, source⟩ authority dst mint program rent
        seeds l = .ok paid ∧
      rest + source.wrapped source.amount = l.lamports ata ∧
      Booked [(ata, source.amount)] [(dst, source.amount)] l.tokens paid.tokens ∧
      Booked [(ata, source.wrapped source.amount), (ata, rest)]
        [(dst, source.wrapped source.amount), (rent, rest)] l.lamports paid.lamports := by
  obtain ⟨moved, transfer⟩ := uniTransfer_succeeds loaded loadedTo programs mints owner signs
    (Nat.le_refl _) covered
  obtain ⟨tokens, lamports⟩ := uniTransfer_booked distinct loaded transfer
  have transferred := uniTransfer_moved distinct loaded transfer
  have debited := transferred.debited
  rw [Nat.sub_self] at debited
  have close := (closeAccount_ok (ε := ProgramError)).mpr
    ⟨_, debited, programs.1, notRent, Or.inr rfl, owner, signs, rfl⟩
  have emptied : moved.tokens ata = 0 := Ledger.tokens_of_token debited
  have closed := closeAccount_tokens_booked close
  rw [emptied] at closed
  refine ⟨_, moved.lamports ata, bind_ok.mpr ⟨moved, transfer, close⟩, transferred.paid, ?_,
    lamports.trans (closeAccount_booked close)⟩
  apply (tokens.trans closed).congr
  · intro k
    rw [List.singleton_append, posted_merge, Nat.add_zero]
  · intro k
    rw [List.append_nil]

/-- The token account is closed into the escrow, which pays. -/
theorem processPayout_native_succeeds {escrow ata recipient rent mint : K} {amount : U64}
    {program : TokenProgram} {recipientAta : Option K} {seeds : SignerSeeds K}
    {source : TokenAccount K} {data : Data K} (notEscrow : ata ≠ escrow)
    (loaded : l.data ata = .token source) (stored : l.data escrow = .program data)
    (programEq : source.program = program) (native : source.isNative.isSome = true)
    (owner : source.owner = escrow) (signs : escrow ∈ ctx.callSigners env (some seeds))
    (enough : amount.toNat ≤ l.lamports escrow + l.lamports ata) :
    ∃ paid, processPayout env ctx mint true amount escrow ⟨ata, source⟩ recipient recipientAta rent
        seeds program l = .ok paid ∧
      Booked [(ata, l.lamports ata), (escrow, amount.toNat)]
        [(escrow, l.lamports ata), (recipient, amount.toNat)] l.lamports paid.lamports := by
  have close := (closeAccount_ok (ε := ProgramError)).mpr
    ⟨source, loaded, programEq, notEscrow, Or.inl native, owner, signs, rfl⟩
  obtain ⟨_, kept, _, received, _⟩ := closeAccount_effect close
  have held := (kept escrow (Ne.symm notEscrow)).trans stored
  have covered := enough
  rw [← received] at covered
  have pay := (subLamports_ok (ε := ProgramError)).mpr ⟨data, held, covered, rfl⟩
  unfold processPayout
  rw [if_pos rfl]
  exact ⟨_, bind_ok.mpr ⟨_, close, bind_ok.mpr ⟨_, pay, rfl⟩⟩,
    ((moveLamports_booked (Nat.le_refl _)).trans (Ledger.debit_booked covered)).trans
      Ledger.credit_booked⟩

/-- The deposit that leaves the escrow for the caller. -/
def Exit.depositPaid (x : Exit K) : Nat := if x.rentPayer = x.caller then 0 else x.deposit.toNat

theorem Exit.distribute_succeeds {x : Exit K} {data : Data K}
    (stored : l.data x.escrow = .program data) (covered : x.depositPaid ≤ l.lamports x.escrow) :
    ∃ settled, distributeSafetyDeposit x.escrow x.rentPayer x.caller x.deposit l = .ok settled ∧
      Booked [(x.escrow, x.depositPaid)] [(x.caller, x.depositPaid)] l.lamports
        settled.lamports := by
  unfold Exit.depositPaid distributeSafetyDeposit at *
  by_cases self : x.rentPayer = x.caller
  · rw [if_pos self, if_neg (not_not.mpr self)]
    exact ⟨l, rfl, ⟨fun k => by simp⟩⟩
  · rw [if_neg self] at covered ⊢
    rw [if_pos self]
    have pay := (subLamports_ok (ε := ProgramError)).mpr ⟨data, stored, covered, rfl⟩
    exact ⟨_, bind_ok.mpr ⟨_, pay, rfl⟩, (Ledger.debit_booked covered).trans Ledger.credit_booked⟩

/-- The deposit is distributed and the rest goes to the rent payer. -/
theorem Exit.finish_succeeds {x : Exit K} {data : Data K} (stored : l.data x.escrow = .program data)
    (rentPayer : x.rentPayer ≠ x.escrow) (caller : x.caller ≠ x.escrow)
    (covered : x.depositPaid ≤ l.lamports x.escrow) :
    ∃ settled l' rest,
      distributeSafetyDeposit x.escrow x.rentPayer x.caller x.deposit l = .ok settled ∧
      (closeProgram x.escrow x.rentPayer settled : Result _) = .ok l' ∧
      rest + x.depositPaid = l.lamports x.escrow ∧
      Booked [(x.escrow, x.depositPaid), (x.escrow, rest)]
        [(x.caller, x.depositPaid), (x.rentPayer, rest)] l.lamports l'.lamports := by
  obtain ⟨settled, distribute, booked⟩ := Exit.distribute_succeeds stored covered
  have held : settled.data x.escrow = .program data := by
    rw [(distributeSafetyDeposit_effect distribute).1, stored]
  have close := (closeProgram_ok (ε := ProgramError)).mpr ⟨data, held, Ne.symm rentPayer, rfl⟩
  refine ⟨settled, _, settled.lamports x.escrow, distribute, close, ?_,
    booked.trans (moveLamports_booked (Nat.le_refl _))⟩
  simpa [Ne.symm caller] using booked.account x.escrow

/-! ## Before the payout -/

section Preparation
variable {payer recipient mint : K} {recipientAta : Option K} {program : TokenProgram}
  {signers : List K} {ready : Chain K}

/-- Creating the recipient's account only takes lamports from the payer. -/
theorem initRecipientAta_kept
    (h : Dst.initRecipientAta env signers payer recipientAta recipient program mint l = .ok ready)
    {a : K} (held : l.data a ≠ .empty) (other : a ≠ payer) :
    ready.data a = l.data a ∧ ready.lamports a = l.lamports a := by
  cases recipientAta with
  | none =>
    obtain rfl : ready = l := pure_ok.mp h
    exact ⟨rfl, rfl⟩
  | some ata =>
    unfold Dst.initRecipientAta at h
    obtain ⟨account, init⟩ := initIfNeeded_ok h
    obtain ⟨n, booked⟩ := initIfNeeded_booked h
    rcases init.existing with ⟨_, same⟩ | ⟨unused, _⟩
    · rw [same]
      exact ⟨rfl, rfl⟩
    · have notAta : a ≠ ata := fun same => held (same ▸ unused)
      refine ⟨init.others a notAta, ?_⟩
      simpa [other, notAta] using booked.account a

/-- What it costs the payer to have the account of a payee opened: nothing for a
native payout, else the lamports that the account lacks. -/
def openingCost (env : Environment K) (native : Bool) (payee : K) (program : TokenProgram) (mint : K)
    (l : Chain K) : Nat :=
  let ata := env.associatedTokenAddress payee program mint
  if native = true then 0 else env.openingLamports l ata mint - l.lamports ata

/-- The rent check has nothing against it, except at the payer. -/
theorem initRecipientAta_rentAllowed
    (h : Dst.initRecipientAta env signers payer recipientAta recipient program mint l = .ok ready)
    {k : K} (other : k ≠ payer) : env.RentAllowed l ready k := by
  cases recipientAta with
  | none =>
    obtain rfl : ready = l := pure_ok.mp h
    exact rentAllowed_refl
  | some ata =>
    unfold Dst.initRecipientAta at h
    exact initIfNeeded_rentAllowed h other

/-- A payer that can spare the cost stays rent-exempt, and so does any other account
that was. -/
theorem initRecipientAta_exempt {native : Bool} (given : native = true → recipientAta = none)
    (named : ∀ key ∈ recipientAta, key = env.associatedTokenAddress recipient program mint)
    (h : Dst.initRecipientAta env signers payer recipientAta recipient program mint l = .ok ready)
    {k : K} (notAta : k ≠ env.associatedTokenAddress recipient program mint)
    (payerOther : payer ≠ env.associatedTokenAddress recipient program mint)
    (exempt : env.RentExempt l k)
    (spare : k = payer → env.CanSpare l k (openingCost env native recipient program mint l)) :
    env.RentExempt ready k := by
  cases recipientAta with
  | none =>
    obtain rfl : ready = l := pure_ok.mp h
    exact exempt
  | some ata =>
    obtain rfl := named ata rfl
    have plain : ¬ native = true := fun isNative => by cases given isNative
    unfold Dst.initRecipientAta at h
    obtain ⟨account, init⟩ := initIfNeeded_ok h
    have booked := (initIfNeeded_cost h payerOther).account k
    simp only [posted_cons, posted_nil, if_neg notAta] at booked
    unfold Environment.RentExempt Ledger.RentExempt at *
    rw [init.others k notAta]
    by_cases paid : k = payer
    · have enough := spare paid
      rw [Environment.CanSpare, openingCost, if_neg plain] at enough
      rw [if_pos paid] at booked
      omega
    · rw [if_neg paid] at booked
      omega

theorem initRecipientAta_conserves
    (h : Dst.initRecipientAta env signers payer recipientAta recipient program mint l = .ok ready)
    {accounts : Finset K} (pays : payer ∈ accounts) (receives : ∀ key ∈ recipientAta, key ∈ accounts) :
    ∑ k ∈ accounts, ready.lamports k = ∑ k ∈ accounts, l.lamports k := by
  cases recipientAta with
  | none =>
    obtain rfl : ready = l := pure_ok.mp h
    rfl
  | some ata =>
    unfold Dst.initRecipientAta at h
    obtain ⟨n, booked⟩ := initIfNeeded_booked h
    exact booked.conserves rfl (by simpa using ⟨pays, receives ata rfl⟩)

theorem initRecipientAta_existing
    (h : Dst.initRecipientAta env signers payer recipientAta recipient program mint l = .ok ready)
    (existing : ∀ key ∈ recipientAta, l.data key ≠ .empty) : ready = l := by
  cases recipientAta with
  | none => exact pure_ok.mp h
  | some ata =>
    unfold Dst.initRecipientAta at h
    obtain ⟨account, init⟩ := initIfNeeded_ok h
    rcases init.existing with ⟨_, same⟩ | ⟨unused, _⟩
    · exact same
    · exact absurd unused (existing ata rfl)

/-- A created account starts without tokens, unless it wraps lamports that
already lie there. -/
theorem initRecipientAta_tokens
    (h : Dst.initRecipientAta env signers payer recipientAta recipient program mint l = .ok ready)
    (plain : mint ≠ env.nativeMint program) : ready.tokens = l.tokens := by
  cases recipientAta with
  | none =>
    obtain rfl : ready = l := pure_ok.mp h
    rfl
  | some ata =>
    unfold Dst.initRecipientAta at h
    obtain ⟨account, init⟩ := initIfNeeded_ok h
    rcases init.existing with ⟨_, same⟩ | ⟨unused, _, created, _⟩
    · rw [same]
    · funext k
      by_cases here : k = ata
      · subst k
        rw [Ledger.tokens_of_token init.loaded, created, Host.newTokenAccount, if_neg plain,
          Ledger.tokens, unused, AccountData.tokens]
        simp
      · exact Ledger.tokens_congr (init.others k here)

end Preparation

/-! ## The whole exit -/

/-- The lamports that a payout moves: the amount, or what the tokens wrap. -/
def Exit.principal (x : Exit K) : Nat :=
  if x.native = true then x.amount.toNat else x.ata.account.wrapped x.ata.account.amount

/-- Where a payout goes: the payee, or for tokens the account that the guards
have found. -/
def Exit.receiver (x : Exit K) : K :=
  if x.native = true then x.payee else x.payeeAta.getD x.payee

omit [DecidableEq K] in
theorem Exit.receiver_mem (x : Exit K) : x.receiver ∈ x.accounts := by
  unfold Exit.receiver Exit.accounts
  split
  · simp
  · cases x.payeeAta with
    | none => simp
    | some key => simp

/-- What an exit finds in its place. -/
structure Exit.Sound (env : Environment K) (clock : Clock) (x : Exit K) (l : Chain K) : Prop where
  stored : ∃ data, l.data x.escrow = .program data
  token : l.data x.ata.key = .token x.ata.account
  program : x.ata.account.program = x.tokenProgram
  owner : x.ata.account.owner = x.escrow
  mint : x.ata.account.mint = x.mint
  wrapped : x.native = true → x.ata.account.isNative.isSome = true
  signs : x.escrow ∈ (x.context clock).callSigners env (some x.seeds)
  rentPayer : x.rentPayer ≠ x.escrow ∧ x.rentPayer ≠ x.ata.key
  caller : x.caller ≠ x.escrow ∧ x.caller ≠ x.ata.key
  covered : x.ata.account.wrapped x.ata.account.amount ≤ l.lamports x.ata.key

namespace Exit.Sound
variable {x : Exit K}

theorem payout_native (s : x.Sound env clock l) (native : x.native = true)
    (enough : x.amount.toNat ≤ l.lamports x.escrow + l.lamports x.ata.key) :
    ∃ paid, x.payout env clock l = .ok paid ∧
      Booked [(x.ata.key, l.lamports x.ata.key), (x.escrow, x.amount.toNat)]
        [(x.escrow, l.lamports x.ata.key), (x.payee, x.amount.toNat)] l.lamports
        paid.lamports := by
  obtain ⟨data, stored⟩ := s.stored
  unfold Exit.payout
  rw [native]
  exact processPayout_native_succeeds (ne_of_program stored s.token) s.token stored s.program
    (s.wrapped native) s.owner s.signs enough

theorem payout_token (s : x.Sound env clock l) (plain : x.native = false) {key : K}
    {account : TokenAccount K} (given : x.payeeAta = some key)
    (loaded : l.data key = .token account) (program : account.program = x.tokenProgram)
    (mint : account.mint = x.mint) (distinct : x.ata.key ≠ key) :
    ∃ paid rest, x.payout env clock l = .ok paid ∧
      rest + x.ata.account.wrapped x.ata.account.amount = l.lamports x.ata.key ∧
      Booked [(x.ata.key, x.ata.account.amount)] [(key, x.ata.account.amount)] l.tokens
        paid.tokens ∧
      Booked [(x.ata.key, x.ata.account.wrapped x.ata.account.amount), (x.ata.key, rest)]
        [(key, x.ata.account.wrapped x.ata.account.amount), (x.rentPayer, rest)] l.lamports
        paid.lamports := by
  unfold Exit.payout processPayout
  rw [plain, if_neg (by decide), given]
  exact withdrawAndCloseTokenAta_succeeds distinct (Ne.symm s.rentPayer.2) s.token loaded
    ⟨s.program, program⟩ ⟨s.mint, mint⟩ s.owner s.signs s.covered

end Exit.Sound

/-- What an exit needs to run through. -/
structure Exit.Payable (env : Environment K) (clock : Clock) (x : Exit K) (l : Chain K) : Prop
    extends x.Sound env clock l where
  payee : x.payee ≠ x.escrow
  receives : x.native = false → ∃ key account, x.payeeAta = some key ∧
    l.data key = .token account ∧ account.program = x.tokenProgram ∧ account.mint = x.mint ∧
    x.ata.key ≠ key
  principal : x.native = true → x.amount.toNat ≤ l.lamports x.ata.key
  deposit : x.deposit.toNat ≤ l.lamports x.escrow

/-- Both accounts are closed and all their lamports are where they belong: the
deposit with the caller, the principal with the receiver and the rest with the
rent payer. -/
structure Exit.Settled (x : Exit K) (rest : Nat) (l l' : Chain K) : Prop where
  escrow : l'.data x.escrow = .empty
  ata : l'.data x.ata.key = .empty
  split : l.lamports x.escrow + l.lamports x.ata.key = x.depositPaid + x.principal + rest
  lamports : Booked [(x.escrow, l.lamports x.escrow), (x.ata.key, l.lamports x.ata.key)]
    [(x.caller, x.depositPaid), (x.receiver, x.principal), (x.rentPayer, rest)] l.lamports
    l'.lamports
  tokens : x.native = false → Booked [(x.ata.key, x.ata.account.amount)]
    [(x.receiver, x.ata.account.amount)] l.tokens l'.tokens
  receives : x.native = false → ∃ account, l'.data x.receiver = .token account
  others : ∀ k, k ≠ x.escrow → k ≠ x.ata.key → (k = x.receiver → x.native = true) →
    l'.data k = l.data k

/-- The wallets that an exit works with are rent-exempt: the caller, who paid the rent,
and a native payee with what it gets. -/
structure Exit.Exempt (env : Environment K) (x : Exit K) (l : Chain K) : Prop where
  caller : env.RentExempt l x.caller
  rentPayer : env.RentExempt l x.rentPayer
  payee : x.native = true → x.payee ≠ x.ata.key ∧ env.ExemptWith l x.payee x.amount.toNat

theorem Exit.depositPaid_le (x : Exit K) : x.depositPaid ≤ x.deposit.toNat := by
  unfold Exit.depositPaid
  split
  · exact Nat.zero_le _
  · exact Nat.le_refl _

/-- An exit whose payout succeeded and left enough for the deposit ends. -/
theorem Exit.run_of_payout {x : Exit K} {paid : Chain K} {data : Data K}
    (payout : x.payout env clock l = .ok paid) (stored : l.data x.escrow = .program data)
    (rentPayer : x.rentPayer ≠ x.escrow) (caller : x.caller ≠ x.escrow)
    (covered : x.depositPaid ≤ paid.lamports x.escrow) :
    ∃ l' rest, x.run env clock l = .ok l' ∧ l'.data x.escrow = .empty ∧
      (∀ k, k ≠ x.escrow → l'.data k = paid.data k) ∧ l'.tokens = paid.tokens ∧
      rest + x.depositPaid = paid.lamports x.escrow ∧
      Booked [(x.escrow, x.depositPaid), (x.escrow, rest)]
        [(x.caller, x.depositPaid), (x.rentPayer, rest)] paid.lamports l'.lamports := by
  have programs : paid.programAt = l.programAt := processPayout_programAt payout
  have held : paid.data x.escrow = .program data := by
    rw [← Ledger.programAt_eq_some, programs, Ledger.programAt_eq_some, stored]
  obtain ⟨settled, l', rest, distribute, close, sum, booked⟩ :=
    Exit.finish_succeeds held rentPayer caller covered
  obtain ⟨gone, kept, _, _⟩ := finish_effect distribute close
  have ran : x.run env clock l = .ok l' :=
    bind_ok.mpr ⟨paid, payout, bind_ok.mpr ⟨settled, distribute, close⟩⟩
  refine ⟨l', rest, ran, gone, kept, ?_, sum, booked⟩
  funext k
  by_cases same : k = x.escrow
  · rw [same, Ledger.tokens, Ledger.tokens, gone, held]
    rfl
  · exact Ledger.tokens_congr (kept k same)

/-- A payout writes the account it closes and the one that receives tokens, which
stays a token account. -/
theorem Exit.Payable.payout_others {x : Exit K} (p : x.Payable env clock l) {paid : Chain K}
    (payout : x.payout env clock l = .ok paid) :
    (x.native = false → ∃ account, paid.data x.receiver = .token account) ∧
      ∀ k, k ≠ x.ata.key → (k = x.receiver → x.native = true) → paid.data k = l.data k := by
  unfold Exit.payout at payout
  cases native : x.native with
  | true =>
    rw [native] at payout
    refine ⟨fun plain => ?_, fun k notAta _ => (processPayout_native payout).others k notAta⟩
    cases plain
  | false =>
    rw [native] at payout
    obtain ⟨dst, given, withdrawn⟩ := processPayout_token payout
    obtain ⟨key, account, found, loaded, _, _, distinct⟩ := p.receives native
    obtain rfl : dst = key := Option.some.inj (given.symm.trans found)
    have receiver : x.receiver = dst := by
      rw [Exit.receiver, if_neg (by simp [native]), given, Option.getD_some]
    have paidOut := withdrawAndCloseTokenAta_paid distinct p.token withdrawn
    refine ⟨fun _ => ⟨_, receiver ▸ paidOut.credited account loaded⟩, fun k notAta plain => ?_⟩
    refine paidOut.others k notAta fun same => ?_
    cases plain (same.trans receiver.symm)

theorem Exit.Payable.run {x : Exit K} (p : x.Payable env clock l) :
    ∃ l' rest, x.run env clock l = .ok l' ∧ x.Settled rest l l' := by
  obtain ⟨data, stored⟩ := p.stored
  have ataOther : x.ata.key ≠ x.escrow := ne_of_program stored p.token
  have deposit := Nat.le_trans x.depositPaid_le p.deposit
  have notEscrow : x.native = false → x.receiver ≠ x.escrow := by
    intro plain
    obtain ⟨key, account, given, loaded, _⟩ := p.receives plain
    rw [Exit.receiver, if_neg (by simp [plain]), given, Option.getD_some]
    exact ne_of_program stored loaded
  have finish : ∀ {paid l' : Chain K}, x.payout env clock l = .ok paid →
      (∀ k, k ≠ x.escrow → l'.data k = paid.data k) →
      (x.native = false → ∃ account, l'.data x.receiver = .token account) ∧
      ∀ k, k ≠ x.escrow → k ≠ x.ata.key → (k = x.receiver → x.native = true) →
        l'.data k = l.data k := by
    intro paid l' payout kept
    obtain ⟨receives, others⟩ := p.payout_others payout
    refine ⟨fun plain => ?_, fun k escrow notAta plain => (kept k escrow).trans (others k notAta plain)⟩
    rw [kept _ (notEscrow plain)]
    exact receives plain
  cases native : x.native with
  | true =>
    have enough := p.principal native
    obtain ⟨paid, payout, booked⟩ := p.payout_native native (by omega)
    have here := booked.account x.escrow
    simp only [posted_cons, posted_nil, if_neg (Ne.symm ataOther), if_neg (Ne.symm p.payee),
      if_pos] at here
    obtain ⟨l', rest, ran, gone, kept, _, sum, finished⟩ :=
      Exit.run_of_payout payout stored p.rentPayer.1 p.caller.1 (by omega)
    have closed := processPayout_closed payout
    have principal : x.principal = x.amount.toNat := if_pos native
    have receiver : x.receiver = x.payee := if_pos native
    refine ⟨l', rest, ran, gone, (kept _ ataOther).trans closed, by omega, ⟨fun k => ?_⟩,
      fun plain => ?_, (finish payout kept).1, (finish payout kept).2⟩
    · have all := (booked.trans finished).account k
      rw [principal, receiver]
      simp only [posted_cons, posted_nil, List.cons_append, List.nil_append] at all ⊢
      by_cases same : k = x.escrow
      · simp only [if_pos same] at all ⊢
        omega
      · simp only [if_neg same] at all ⊢
        omega
    · rw [native] at plain
      cases plain
  | false =>
    obtain ⟨key, account, given, loaded, program, mint, distinct⟩ := p.receives native
    obtain ⟨paid, first, payout, left, tokens, booked⟩ :=
      p.payout_token native given loaded program mint distinct
    have keyOther : key ≠ x.escrow := ne_of_program stored loaded
    have here := booked.account x.escrow
    simp only [posted_cons, posted_nil, if_neg (Ne.symm ataOther), if_neg (Ne.symm keyOther),
      if_neg (Ne.symm p.rentPayer.1)] at here
    obtain ⟨l', second, ran, gone, kept, same, sum, finished⟩ :=
      Exit.run_of_payout payout stored p.rentPayer.1 p.caller.1 (by omega)
    have closed := processPayout_closed payout
    have plain : ¬ x.native = true := by simp [native]
    have principal : x.principal = x.ata.account.wrapped x.ata.account.amount := if_neg plain
    have receiver : x.receiver = key := by
      rw [Exit.receiver, if_neg plain, given, Option.getD_some]
    refine ⟨l', first + second, ran, gone, (kept _ ataOther).trans closed, by omega,
      ⟨fun k => ?_⟩, fun _ => ?_, (finish payout kept).1, (finish payout kept).2⟩
    · have all := (booked.trans finished).account k
      rw [principal, receiver]
      simp only [posted_cons, posted_nil, List.cons_append, List.nil_append] at all ⊢
      split_ifs at all ⊢ <;> omega
    · rw [receiver, same]
      exact tokens

/-! ## The rent check of an exit -/

section Rent
variable {x : Exit K} {ix : Instruction K} {rest : Nat} {ready l' : Chain K}

/-- What the guards have done passes the rent check, except at the caller. -/
theorem Exit.Checked.ready_allowed (checked : x.Checked env ix l ready) {k : K}
    (other : k ≠ x.caller) : env.RentAllowed l ready k := by
  rcases checked.prepared with rfl | init
  · exact rentAllowed_refl
  · exact initRecipientAta_rentAllowed init other

/-- The runtime accepts an exit exactly when it accepts what the accounts that are
paid end with: the two accounts of the escrow are closed, and nothing else changes. -/
theorem Exit.Settled.processes_iff (settled : x.Settled rest ready l')
    (p : x.Payable env clock ready) (checked : x.Checked env ix l ready)
    (ran : ix.run env clock l = .ok l') :
    ix.process env clock l = .ok l' ↔
      ∀ k ∈ [x.caller, x.receiver, x.rentPayer], env.RentAllowed l l' k := by
  obtain ⟨data, stored⟩ := p.stored
  have ataOther : x.ata.key ≠ x.escrow := ne_of_program stored p.token
  rw [Instruction.process_ok]
  constructor
  · rintro ⟨_, allowed⟩ k paid
    refine allowed k (checked.writable k ?_)
    simp only [List.mem_cons, List.not_mem_nil, or_false] at paid
    rcases paid with rfl | rfl | rfl
    · simp [Exit.accounts]
    · exact x.receiver_mem
    · simp [Exit.accounts]
  · refine fun allowed => ⟨ran, fun k _ => ?_⟩
    by_cases paid : k ∈ [x.caller, x.receiver, x.rentPayer]
    · exact allowed k paid
    simp only [List.mem_cons, List.not_mem_nil, or_false, not_or] at paid
    obtain ⟨notCaller, notReceiver, notRent⟩ := paid
    have booked := settled.lamports.account k
    simp only [posted_cons, posted_nil, if_neg notCaller, if_neg notReceiver, if_neg notRent] at booked
    by_cases here : k = x.escrow
    · subst k
      rw [if_pos rfl, if_neg (Ne.symm ataOther)] at booked
      exact rentAllowed_of_drained (by omega)
    rw [if_neg here] at booked
    by_cases account : k = x.ata.key
    · subst k
      rw [if_pos rfl] at booked
      exact rentAllowed_of_drained (by omega)
    · rw [if_neg account] at booked
      exact (checked.ready_allowed notCaller).congr (by omega)
        (settled.others k here account (fun same => absurd same notReceiver))

/-- Only the accounts of the escrow lose lamports, and only a token account is
written among the others. -/
theorem Exit.Settled.grows (settled : x.Settled rest ready l') {k : K} (notEscrow : k ≠ x.escrow)
    (notAta : k ≠ x.ata.key) : ready.lamports k ≤ l'.lamports k := by
  have booked := settled.lamports.account k
  simp only [posted_cons, posted_nil, if_neg notEscrow, if_neg notAta] at booked
  omega

/-- So every other account stays rent-exempt, if token accounts do. -/
theorem Exit.Settled.keeps_exempt (settled : x.Settled rest ready l') (rent : RentSound env.toHost l')
    {k : K} (notEscrow : k ≠ x.escrow) (notAta : k ≠ x.ata.key) (exempt : env.RentExempt ready k) :
    env.RentExempt l' k := by
  by_cases paid : k = x.receiver ∧ x.native = false
  · obtain ⟨account, held⟩ := settled.receives paid.2
    rw [paid.1]
    exact rent.exempt held
  · have untouched : k = x.receiver → x.native = true := by
      intro same
      rw [← Bool.not_eq_false]
      exact fun plain => paid ⟨same, plain⟩
    exact exempt.grow (settled.others k notEscrow notAta untouched) (settled.grows notEscrow notAta)

/-- The runtime accepts an exit of rent-exempt wallets. -/
theorem Exit.Settled.processes (settled : x.Settled rest ready l')
    (p : x.Payable env clock ready) (checked : x.Checked env ix l ready)
    (ran : ix.run env clock l = .ok l') (rent : RentSound env.toHost l')
    (exempt : x.Exempt env ready) : ix.process env clock l = .ok l' := by
  have received : env.RentExempt l' x.receiver := by
    cases native : x.native with
    | false =>
      obtain ⟨account, held⟩ := settled.receives native
      exact rent.exempt held
    | true =>
      have receiver : x.receiver = x.payee := if_pos native
      have principal : x.principal = x.amount.toNat := if_pos native
      obtain ⟨notAta, enough⟩ := exempt.payee native
      have booked := settled.lamports.account x.payee
      rw [receiver, principal] at booked
      simp only [posted_cons, posted_nil, if_neg p.payee, if_neg notAta, if_pos] at booked
      have same := settled.others x.payee p.payee notAta (fun _ => native)
      rw [receiver]
      unfold Environment.ExemptWith at enough
      unfold Environment.RentExempt Ledger.RentExempt
      rw [same]
      omega
  refine (settled.processes_iff p checked ran).mpr fun k paid => Ledger.RentExempt.allowed ?_
  simp only [List.mem_cons, List.not_mem_nil, or_false] at paid
  rcases paid with rfl | rfl | rfl
  · exact settled.keeps_exempt rent p.caller.1 p.caller.2 exempt.caller
  · exact received
  · exact settled.keeps_exempt rent p.rentPayer.1 p.rentPayer.2 exempt.rentPayer

end Rent

end CrossChainEscrow.Source

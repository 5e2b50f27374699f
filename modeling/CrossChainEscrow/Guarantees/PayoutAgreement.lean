import CrossChainEscrow.Invariants.Escrows
import CrossChainEscrow.Source.Execution

/-!
# When native and token payouts agree

A payout in tokens moves the balance of the token account and returns what is left
of its lamports. A native one closes the account into the escrow and pays the
amount that the escrow stores, so tokens above that amount stay with the escrow
and go to the rent payer with the reserve.
-/

namespace CrossChainEscrow.Source
open Library.Words Library.Bytes Library.Accounts Library.Bookkeeping

variable {K : Type} [DecidableEq K] {env : Environment K} {clock : Clock} {l : Chain K}

/-- Who has what is left of the token account's lamports after the payout. The
escrow returns them to the rent payer when it is closed. -/
def Exit.rentHolder (x : Exit K) : K := if x.native = true then x.escrow else x.rentPayer

/-- A payout of `value` to the payee, in lamports or in tokens, that leaves only
the reserve of the token account for the rent payer. -/
structure Exit.Delivers (env : Environment K) (x : Exit K) (value : Nat) (l paid : Chain K) :
    Prop where
  asset : if x.native = true then paid.lamports x.payee = l.lamports x.payee + value
    else paid.tokens x.receiver = l.tokens x.receiver + value
  reserve : paid.lamports x.rentHolder = l.lamports x.rentHolder + env.reserve x.ata.account

/-- The token account holds the lamports of its tokens and its reserve, no more. -/
def Exit.Reserved (env : Environment K) (x : Exit K) (l : Chain K) : Prop :=
  l.lamports x.ata.key =
    x.ata.account.wrapped x.ata.account.amount + env.reserve x.ata.account

/-- A payout has one result. -/
theorem Exit.delivers_iff {x : Exit K} {value : Nat} {paid : Chain K}
    (payout : x.payout env clock l = .ok paid) :
    (∃ paid, x.payout env clock l = .ok paid ∧ x.Delivers env value l paid) ↔
      x.Delivers env value l paid := by
  constructor
  · rintro ⟨other, ran, delivers⟩
    obtain rfl : other = paid := Except.ok.inj (ran.symm.trans payout)
    exact delivers
  · exact fun delivers => ⟨paid, payout, delivers⟩

namespace Exit.Sound
variable {x : Exit K}

/-- A native payout pays the stored amount and leaves everything else with the
escrow. -/
theorem native_delivers_iff (s : x.Sound env clock l) (native : x.native = true)
    (backed : env.reserve x.ata.account + x.ata.account.amount ≤ l.lamports x.ata.key)
    (enough : x.amount.toNat ≤ x.ata.account.amount)
    (positive : x.payee = x.escrow ∨ x.payee = x.ata.key → 0 < x.amount.toNat) :
    (∃ paid, x.payout env clock l = .ok paid ∧ x.Delivers env x.ata.account.amount l paid) ↔
      x.payee ≠ x.escrow ∧ x.payee ≠ x.ata.key ∧ x.ata.account.amount = x.amount.toNat ∧
        x.Reserved env l := by
  obtain ⟨data, stored⟩ := s.stored
  have ataOther : x.ata.key ≠ x.escrow := ne_of_program stored s.token
  obtain ⟨paid, payout, booked⟩ := s.payout_native native (by omega)
  have atPayee := booked.account x.payee
  have atEscrow := booked.account x.escrow
  simp only [posted_cons, posted_nil, if_neg (Ne.symm ataOther), if_pos] at atPayee atEscrow
  have wrapped : x.ata.account.wrapped x.ata.account.amount = x.ata.account.amount :=
    if_pos (s.wrapped native)
  have holder : x.rentHolder = x.escrow := if_pos native
  rw [Exit.delivers_iff payout, Exit.Reserved, wrapped]
  constructor
  · intro delivers
    have asset := delivers.asset
    have reserve := delivers.reserve
    rw [if_pos native] at asset
    rw [holder] at reserve
    have notEscrow : x.payee ≠ x.escrow := by
      intro same
      have owes := positive (Or.inl same)
      simp only [same, if_pos] at atEscrow
      omega
    have notAta : x.payee ≠ x.ata.key := by
      intro same
      have owes := positive (Or.inr same)
      simp only [same, if_pos, if_neg ataOther] at atPayee
      rw [same] at asset
      omega
    simp only [if_neg notEscrow, if_neg notAta] at atPayee
    rw [if_neg (Ne.symm notEscrow)] at atEscrow
    refine ⟨notEscrow, notAta, ?_, ?_⟩
    · omega
    · omega
  · rintro ⟨notEscrow, notAta, same, reserved⟩
    simp only [if_neg notEscrow, if_neg notAta] at atPayee
    rw [if_neg (Ne.symm notEscrow)] at atEscrow
    refine ⟨?_, ?_⟩
    · rw [if_pos native]
      omega
    · rw [holder]
      omega

/-- A payout in tokens pays the whole balance to another account. -/
theorem token_delivers_iff (s : x.Sound env clock l) (plain : x.native = false) {key : K}
    {account : TokenAccount K} (given : x.payeeAta = some key)
    (loaded : l.data key = .token account) (program : account.program = x.tokenProgram)
    (mint : account.mint = x.mint) (distinct : x.ata.key ≠ key) (notRent : x.rentPayer ≠ key) :
    (∃ paid, x.payout env clock l = .ok paid ∧ x.Delivers env x.ata.account.amount l paid) ↔
      x.Reserved env l := by
  have notNative : ¬ x.native = true := by simp [plain]
  obtain ⟨paid, rest, payout, left, tokens, lamports⟩ :=
    s.payout_token plain given loaded program mint distinct
  have receiver : x.receiver = key := by
    rw [Exit.receiver, if_neg notNative, given, Option.getD_some]
  have holder : x.rentHolder = x.rentPayer := if_neg notNative
  have received := tokens.account key
  have returned := lamports.account x.rentPayer
  simp only [posted_cons, posted_nil, if_neg s.rentPayer.2, if_neg notRent,
    if_neg (Ne.symm distinct), if_pos] at received returned
  rw [Exit.delivers_iff payout, Exit.Reserved]
  constructor
  · intro delivers
    have reserve := delivers.reserve
    rw [holder] at reserve
    omega
  · intro reserved
    refine ⟨?_, ?_⟩
    · rw [if_neg notNative, receiver]
      omega
    · rw [holder]
      omega

end Exit.Sound

/-- A payout to the token account itself delivers nothing: the account is closed. -/
theorem Exit.not_delivers_self {x : Exit K} {value : Nat} (plain : x.native = false)
    (self : x.payeeAta = some x.ata.key) (positive : 0 < value) :
    ¬ ∃ paid, x.payout env clock l = .ok paid ∧ x.Delivers env value l paid := by
  rintro ⟨paid, payout, delivers⟩
  have asset := delivers.asset
  have notNative : ¬ x.native = true := by simp [plain]
  have closed : paid.tokens x.ata.key = 0 := by
    rw [Ledger.tokens, processPayout_closed payout]
    rfl
  rw [if_neg notNative, Exit.receiver, if_neg notNative, self, Option.getD_some, closed] at asset
  omega

section Exits
variable {h : History K} {s : State K} {ix : Instruction K} {x : Exit K} {ready : Chain K}

/-- The payee of an exit is a wallet, or the escrow is a destination escrow, which
is never empty. -/
theorem Trace.exit_payee (trace : Trace env h s) (checked : x.Checked env ix s.ledger ready) :
    env.Wallet x.payee ∨ 0 < x.amount.toNat := by
  cases checked.stored with
  | src live _ _ _ _ payee =>
    have parties := trace.parties live
    refine Or.inl ?_
    rcases payee with ⟨taker, _⟩ | ⟨maker, _⟩
    · exact taker ▸ parties.2
    · exact maker ▸ parties.1
  | dst live _ amount _ _ _ _ =>
    rw [amount]
    exact Or.inr (trace.termsFit live).2.2

/-- For every live escrow whose token account holds at least the amount: the payout
of an exit delivers the whole balance and leaves only the reserve exactly if it pays
another account, a native one has no surplus in tokens, and nobody sent the account
lamports beyond its reserve and its tokens. -/
theorem Trace.payout_agrees_iff (free : env.CollisionFree) (trace : Trace env h s)
    (wrapped : env.mintProgram env.NATIVE_MINT = some .token)
    (signed : ∀ key ∈ ix.signers, env.Wallet key)
    (passed : ix.exit env s.clock s.ledger = some (x, ready))
    (ofMint : ∀ key ∈ x.payeeAta, ∀ account, ready.data key = .token account →
      account.mint = x.mint)
    (enough : x.amount.toNat ≤ x.ata.account.amount) :
    s.ledger.data x.ata.key = .token x.ata.account ∧ x.Stored env s.ledger ∧
      ix.run env s.clock s.ledger = x.run env s.clock ready ∧
      ((∃ paid, x.payout env s.clock ready = .ok paid ∧
          x.Delivers env x.ata.account.amount ready paid) ↔
        x.payee ≠ x.escrow ∧
          (x.native = true → x.payee ≠ x.ata.key ∧ x.ata.account.amount = x.amount.toNat) ∧
          x.Reserved env s.ledger) := by
  have checked := Instruction.exit_checked passed
  obtain ⟨sound, _, ataLamports⟩ := trace.exit_sound free checked signed wrapped
  have reserved : x.Reserved env ready ↔ x.Reserved env s.ledger := by
    rw [Exit.Reserved, Exit.Reserved, ataLamports]
  have positive : x.payee = x.escrow ∨ x.payee = x.ata.key → 0 < x.amount.toNat := by
    intro own
    rcases trace.exit_payee checked with wallet | positive
    · have other := trace.exit_wallet checked wallet
      exact (own.elim other.1 other.2).elim
    · exact positive
  refine ⟨checked.token, checked.stored, Instruction.exit_run passed, ?_⟩
  rw [← reserved]
  cases native : x.native with
  | true =>
    have backed : env.reserve x.ata.account + x.ata.account.amount ≤
        ready.lamports x.ata.key := by
      obtain ⟨reserve, found⟩ := Option.isSome_iff_exists.mp (sound.wrapped native)
      rw [Host.reserve, found, Option.getD_some, ataLamports]
      exact (trace.tokenSound _ _ checked.token).backed reserve found
    rw [sound.native_delivers_iff native backed enough positive]
    simp only [true_implies, and_assoc]
  | false =>
    by_cases self : x.payee = x.escrow
    · obtain ⟨key, given, account, loaded, _, _, derived⟩ := checked.payeeToken native
      have same : key = x.ata.key := by rw [derived, self, checked.derived]
      have owes : 0 < x.ata.account.amount := Nat.lt_of_lt_of_le (positive (Or.inl self)) enough
      refine iff_of_false (Exit.not_delivers_self native (same ▸ given) owes) ?_
      exact fun holds => holds.1 self
    · obtain ⟨key, account, given, loaded, program, mint, distinct⟩ :=
        checked.receives free self ofMint native
      have notRent : x.rentPayer ≠ key := by
        obtain ⟨other, found, _, _, _, _, derived⟩ := checked.payeeToken native
        obtain rfl : other = key := Option.some.inj (found.symm.trans given)
        intro same
        exact env.associated_notWallet _ _ _ (derived ▸ same ▸ trace.exit_rentPayer checked)
      rw [sound.token_delivers_iff native given loaded program mint distinct notRent]
      simp [self]

/-- Anybody may send lamports to a wrapped account and have them counted. -/
def donate (donor ata : K) (n : Nat) (l : Chain K) : Result (Chain K) := do
  let l ← systemTransfer [donor] donor ata n l
  syncNative .token ata l

theorem Trace.donated (trace : Trace env h s) {donor ata : K} {n : Nat} {l : Chain K}
    (wallet : env.Wallet donor) (ran : donate donor ata n s.ledger = .ok l) :
    Trace env h ⟨l, s.clock⟩ := by
  obtain ⟨sent, transfer, sync⟩ := bind_ok.mp ran
  have signed : ∀ key ∈ [donor], env.Wallet key :=
    fun key member => List.mem_singleton.mp member ▸ wallet
  have actions : Actions env.toHost env.Wallet s.ledger l :=
    (systemTransfer_actions signed transfer).trans (syncNative_actions sync)
  obtain ⟨_, _, _, rfl⟩ := systemTransfer_ok.mp transfer
  refine .external trace actions.confined (actions.tokenSound trace.tokenSound) ?_
  rw [syncNative_programAt sync]
  exact Ledger.programAt_congr (Ledger.move_data _ _ _ _)

end Exits

/-- The withdrawal from the native destination escrow. -/
def Sample.withdrawLamports : Dst.Withdraw Term where
  creator := Sample.taker
  recipient := Sample.maker
  mint := Sample.nativeMint .token
  escrow := Sample.nativeDst.escrow
  escrowAta := Sample.nativeDst.escrowAta
  recipientAta := none
  tokenProgram := .token
  secret := Sample.secret

/-- What its guards find after somebody sent `n` lamports. -/
def Sample.donated (n : Nat) (r : Run Term) (P : Chain Term → Exit Term → Chain Term → Bool) :
    Bool :=
  (donate Sample.authority Sample.nativeDst.escrowAta n r.state.ledger).toOption.any (fun l =>
    ((Instruction.dst (.withdraw Sample.withdrawLamports)).exit Sample.env r.state.clock l).any
      (fun p => P l p.1 p.2))

theorem Sample.donated_reached {n : Nat} {P : Chain Term → Exit Term → Chain Term → Bool}
    (scenario : Sample.Scenario (fun r =>
      r.state.clock = ⟨105⟩ ∧ Sample.donated n r P = true)) :
    ∃ (h : History Term) (l : Chain Term) (x : Exit Term) (ready : Chain Term),
      Trace Sample.env h ⟨l, ⟨105⟩⟩ ∧
        (Instruction.dst (.withdraw Sample.withdrawLamports)).exit Sample.env ⟨105⟩ l =
          some (x, ready) ∧ P l x ready = true := by
  obtain ⟨r, trace, time, found⟩ := scenario.reached
  obtain ⟨l, sent, found⟩ := (Option.any_eq_true _ _).mp found
  obtain ⟨⟨x, ready⟩, exit, holds⟩ := (Option.any_eq_true _ _).mp found
  have donated := trace.donated (Sample.wallet_atom 10) (ok_of_toOption sent)
  rw [time] at donated exit
  exact ⟨r.history, l, x, ready, donated, exit, holds⟩

def Sample.surplusWithdrawal : Sample.Scenario
    (fun r => r.state.clock = ⟨105⟩ ∧ Sample.donated 500 r (fun _ x ready =>
      decide (x.native = true ∧ x.payee = Sample.maker ∧ x.amount = 2000 ∧
        x.ata.account.amount = 2500) &&
      (x.payout Sample.env ⟨105⟩ ready).toOption.any (fun paid =>
        decide (paid.lamports Sample.maker = ready.lamports Sample.maker + 2000 ∧
          paid.lamports x.escrow =
            ready.lamports x.escrow + Sample.env.reserve x.ata.account + 500))) = true) where
  commands := [.wait 100, .call (.dst (.create Sample.nativeDst)), .wait 105]

/-- With 500 lamports more than it owes, counted as tokens, a native escrow pays
the 2000 it owes and the other 500 stay with the reserve. -/
theorem Trace.payout_agrees_surplus : ∃ (h : History Term) (s : State Term) (x : Exit Term)
    (ready paid : Chain Term), Trace Sample.env h s ∧
      (Instruction.dst (.withdraw Sample.withdrawLamports)).exit Sample.env s.clock s.ledger =
        some (x, ready) ∧
      x.payee = Sample.maker ∧ x.amount = 2000 ∧ x.ata.account.amount = 2500 ∧
      x.payout Sample.env s.clock ready = .ok paid ∧
      paid.lamports Sample.maker = ready.lamports Sample.maker + 2000 ∧
      paid.lamports x.escrow = ready.lamports x.escrow + Sample.env.reserve x.ata.account + 500 ∧
      ¬ x.Delivers Sample.env x.ata.account.amount ready paid := by
  obtain ⟨h, l, x, ready, trace, exit, holds⟩ :=
    Sample.donated_reached Sample.surplusWithdrawal
  obtain ⟨facts, payout⟩ := Bool.and_eq_true_iff.mp holds
  obtain ⟨native, payee, amount, held⟩ := of_decide_eq_true facts
  obtain ⟨paid, ran, received, left⟩ := Sample.ran payout
  refine ⟨h, _, x, ready, paid, trace, exit, payee, amount, held, ran, received, left,
    fun delivers => ?_⟩
  have asset := delivers.asset
  rw [if_pos native, payee, held, received] at asset
  omega

def Sample.evenWithdrawal : Sample.Scenario
    (fun r => r.state.clock = ⟨105⟩ ∧ Sample.donated 0 r (fun l x _ =>
      decide (x.native = true ∧ x.payee = Sample.maker ∧ x.payeeAta = none ∧
        x.amount = 2000 ∧ x.ata.account.amount = 2000 ∧ Sample.maker ≠ x.escrow ∧
        Sample.maker ≠ x.ata.key ∧ l.lamports x.ata.key =
          x.ata.account.wrapped x.ata.account.amount + Sample.env.reserve x.ata.account))
        = true) where
  commands := [.wait 100, .call (.dst (.create Sample.nativeDst)), .wait 105]

/-- When all that was counted is what the escrow owes, the native payout delivers it. -/
theorem Trace.payout_agrees_sample : ∃ (h : History Term) (s : State Term) (x : Exit Term)
    (ready paid : Chain Term), Trace Sample.env h s ∧ x.native = true ∧
      x.ata.account.amount = 2000 ∧ x.payout Sample.env s.clock ready = .ok paid ∧
      x.Delivers Sample.env 2000 ready paid := by
  obtain ⟨h, l, x, ready, trace, exit, holds⟩ := Sample.donated_reached Sample.evenWithdrawal
  obtain ⟨native, payee, absent, amount, held, notEscrow, notAta, reserved⟩ :=
    of_decide_eq_true holds
  have wallets : ∀ key ∈ (Instruction.dst (.withdraw Sample.withdrawLamports)).signers,
      Sample.env.Wallet key := Sample.signed_atom 12
  have ofMint : ∀ key ∈ x.payeeAta, ∀ account, ready.data key = .token account →
      account.mint = x.mint := by
    rw [absent]
    rintro key ⟨⟩
  have enough : x.amount.toNat ≤ x.ata.account.amount := by
    rw [amount, held]
    decide
  obtain ⟨_, _, _, agrees⟩ :=
    trace.payout_agrees_iff Sample.collisionFree rfl wallets exit ofMint enough
  have owed : x.ata.account.amount = x.amount.toNat := by
    rw [amount, held]
    decide
  obtain ⟨paid, ran, delivers⟩ := agrees.mpr
    ⟨payee ▸ notEscrow, fun _ => ⟨payee ▸ notAta, owed⟩, reserved⟩
  exact ⟨h, _, x, ready, paid, trace, native, held, ran, held ▸ delivers⟩

end CrossChainEscrow.Source

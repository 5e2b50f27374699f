import CrossChainEscrow.Invariants.Escrows
import CrossChainEscrow.Source.Execution

/-!
# Rent in every run

Every account of the programs is rent-exempt in every reachable state, and token
accounts stay so. What the rent check of the runtime can still refuse are accounts
without data: `Trace.processes_iff` reduces it to these.
-/

namespace CrossChainEscrow.Source
open Library.Words Library.Bytes Library.Accounts

variable {K : Type} [DecidableEq K] {env : Environment K} {h : History K} {s : State K}
  {clock : Clock} {l l' allocated : Chain K} {a : K} {data : Data K}

/-! ## Program accounts -/

/-- The program account has its rent, or was there before with as many bytes and
has lost nothing. -/
inductive Endowed (env : Environment K) (a : K) (data : Data K) (l l' : Chain K) : Prop
  | funded (rent : env.minimumBalance data.space ≤ l'.lamports a)
  | kept {before : Data K} (live : l.programAt a = some before) (space : before.space = data.space)
      (lamports : l.lamports a ≤ l'.lamports a)

/-- What the payer does after an account was allocated costs that account nothing. -/
theorem allocated_rent {payer : K} {len : Nat} {signers : List K} {value : Data K}
    {funded : Chain K} (free : env.CollisionFree) (derived : env.Derived a) (wallet : env.Wallet payer)
    (allocate : (createAccount env.toHost signers payer a len l : Result _) = .ok allocated)
    (acts : Actions env.toHost (· = payer) allocated funded)
    (write : (writeProgram a value funded : Result _) = .ok l') :
    env.minimumBalance len ≤ l'.lamports a := by
  obtain ⟨unused, paid⟩ := createAccount_ok.mp allocate
  have empty : allocated.data a = .empty := (congrFun (topUp_data paid) a).trans unused
  have outside : ¬ allocated.ControlledBy env.toHost (· = payer) a := by
    simp only [Ledger.ControlledBy, empty]
    rintro (direct | ⟨owner, program, mint, address, _⟩)
    · exact derived.notWallet (direct ▸ wallet)
    · exact derived.ne_associated free owner mint program address
  rw [(writeProgram_ok.mp write).2, Ledger.setData_lamports]
  exact Nat.le_trans (topUp_funded paid) (acts.confined.lamports a outside)

theorem Whitelist.Instruction.endowed {ix : Whitelist.Instruction K} (ran : ix.run env l = .ok l')
    (free : env.CollisionFree) (signed : ∀ key ∈ ix.signers, env.Wallet key) (derived : env.Derived a)
    (held : l'.programAt a = some data) (named : a ∈ ix.named) : Endowed env a data l l' := by
  have loaded := Ledger.programAt_eq_some.mp held
  cases ix with
  | initializeWhitelist ix =>
    obtain rfl := List.mem_singleton.mp named
    obtain ⟨_, allocated, allocate, write⟩ := Whitelist.initializeWhitelist_ok.mp ran
    rw [(writeProgram_ok.mp write).2, Ledger.setData_data_self] at loaded
    cases loaded
    exact .funded (allocated_rent free derived (signed _ (List.mem_singleton_self _)) allocate .refl
      write)
  | register ix =>
    obtain rfl := List.mem_singleton.mp named
    obtain ⟨_, _, allocated, allocate, write⟩ := Whitelist.register_ok.mp ran
    rw [(writeProgram_ok.mp write).2, Ledger.setData_data_self] at loaded
    cases loaded
    exact .funded (allocated_rent free derived (signed _ (List.mem_singleton_self _)) allocate .refl
      write)
  | deregister ix =>
    obtain rfl := List.mem_singleton.mp named
    exact (removed_not_held (Whitelist.deregister_programAt ran) held).elim
  | setAuthority ix =>
    obtain rfl := List.mem_singleton.mp named
    obtain ⟨authority, write⟩ := Whitelist.setAuthority_ok.mp ran
    obtain ⟨state, before, _⟩ := Whitelist.requireAuthority_ok.mp authority
    obtain ⟨_, rfl⟩ := writeProgram_ok.mp write
    rw [Ledger.setData_data_self] at loaded
    cases loaded
    exact .kept (Ledger.programAt_eq_some.mpr before) rfl (Nat.le_refl _)

/-- A rescue costs the account it is signed for nothing. -/
theorem RescueCall.Steps.endowed {c : RescueCall K} {token partyToken : TokenAccount K}
    {start : Option U32} (s : RescueCall.Steps env clock c token partyToken start l l')
    (free : env.CollisionFree) (wallet : env.Wallet c.party) (derived : env.Derived c.address)
    (held : l'.programAt c.address = some data) : Endowed env c.address data l l' := by
  have distinct : c.party ≠ c.address := fun same => derived.notWallet (same ▸ wallet)
  have notAta : c.address ≠ c.ata := by
    rw [s.ataDerived]
    exact derived.ne_associated free _ _ _
  rw [s.programAt] at held
  exact .kept held rfl ((s.rescued distinct).more _ notAta)

theorem Src.Instruction.endowed {ix : Src.Instruction K} (ran : ix.run env clock l = .ok l')
    (free : env.CollisionFree) (signed : ∀ key ∈ ix.signers, env.Wallet key) (derived : env.Derived a)
    (held : l'.programAt a = some data) (named : a ∈ ix.named) : Endowed env a data l l' := by
  cases ix with
  | create ix =>
    obtain rfl := List.mem_singleton.mp named
    have written := (Src.create_programAt ran).2
    obtain ⟨allocated, initialized, funded, steps⟩ := Src.create_steps ran
    rw [written, Function.update_self] at held
    cases held
    have pays : ∀ k ∈ [ix.creator], k = ix.creator := fun k => List.mem_singleton.mp
    exact .funded (allocated_rent free derived (signed _ (List.mem_singleton_self _)) steps.allocate
      ((initIfNeeded_actions pays steps.init).trans (Src.fundOrder_actions pays steps.fund)) steps.write)
  | createEscrow ix =>
    obtain ⟨v, steps⟩ := Src.createEscrow_steps ran
    have taker : env.Wallet ix.taker := signed _ (List.mem_singleton_self _)
    have notTaker : a ≠ ix.taker := fun same => derived.notWallet (same ▸ taker)
    rcases List.mem_pair.mp named with rfl | rfl
    · obtain ⟨left, leaves, programs⟩ := steps.programAt
      rw [programs, Function.update_self] at held
      rcases leaves with ⟨_, rfl⟩ | ⟨continues, remaining, _, rfl⟩
      · cases held
      · cases held
        exact .kept (Ledger.programAt_eq_some.mpr steps.loaded) rfl
          (steps.order_kept continues notTaker)
    · rw [steps.escrow_programAt] at held
      cases held
      exact .funded (steps.escrow_rent notTaker)
  | withdraw ix =>
    obtain rfl := List.mem_singleton.mp named
    obtain ⟨_, _, _, _, _, steps⟩ := Src.withdraw_steps ran
    exact (removed_not_held steps.programAt held).elim
  | publicWithdraw ix =>
    obtain rfl := List.mem_singleton.mp named
    obtain ⟨_, _, _, _, _, _, steps⟩ := Src.publicWithdraw_steps ran
    exact (removed_not_held steps.programAt held).elim
  | cancelEscrow ix =>
    obtain rfl := List.mem_singleton.mp named
    obtain ⟨_, _, _, _, steps⟩ := Src.cancelEscrow_steps ran
    exact (removed_not_held steps.programAt held).elim
  | publicCancelEscrow ix =>
    obtain rfl := List.mem_singleton.mp named
    obtain ⟨_, _, _, _, _, steps⟩ := Src.publicCancelEscrow_steps ran
    exact (removed_not_held steps.programAt held).elim
  | cancelOrder ix =>
    obtain rfl := List.mem_singleton.mp named
    exact (removed_not_held (Src.cancelOrder_programAt ran) held).elim
  | cancelOrderByResolver ix =>
    obtain rfl := List.mem_singleton.mp named
    exact (removed_not_held (Src.cancelOrderByResolver_programAt ran) held).elim
  | rescueFundsForEscrow ix =>
    obtain rfl := List.mem_singleton.mp named
    obtain ⟨_, _, _, steps⟩ := rescueFundsForEscrow_steps ran
    exact steps.endowed free (signed _ (List.mem_singleton_self _)) derived held
  | rescueFundsForOrder ix =>
    obtain rfl := List.mem_singleton.mp named
    obtain ⟨_, _, _, _, steps⟩ := rescueFundsForOrder_steps ran
    exact steps.endowed free (signed _ (List.mem_singleton_self _)) derived held

theorem Dst.Instruction.endowed {ix : Dst.Instruction K} (ran : ix.run env clock l = .ok l')
    (free : env.CollisionFree) (signed : ∀ key ∈ ix.signers, env.Wallet key) (derived : env.Derived a)
    (held : l'.programAt a = some data) (named : a ∈ ix.named) : Endowed env a data l l' := by
  cases ix with
  | create ix =>
    obtain rfl := List.mem_singleton.mp named
    have written := (Dst.create_programAt ran).2
    obtain ⟨allocated, initialized, funded, steps⟩ := Dst.create_steps ran
    rw [written, Function.update_self] at held
    cases held
    have pays : ∀ k ∈ [ix.creator], k = ix.creator := fun k => List.mem_singleton.mp
    exact .funded (allocated_rent free derived (signed _ (List.mem_singleton_self _)) steps.allocate
      ((initIfNeeded_actions pays steps.init).trans (Dst.fundEscrow_actions pays steps.fund)) steps.write)
  | withdraw ix =>
    obtain rfl := List.mem_singleton.mp named
    obtain ⟨_, _, _, _, _, steps⟩ := Dst.withdraw_steps ran
    exact (removed_not_held steps.programAt held).elim
  | publicWithdraw ix =>
    obtain rfl := List.mem_singleton.mp named
    obtain ⟨_, _, _, _, _, _, steps⟩ := Dst.publicWithdraw_steps ran
    exact (removed_not_held steps.programAt held).elim
  | cancel ix =>
    obtain rfl := List.mem_singleton.mp named
    obtain ⟨_, _, _, steps⟩ := Dst.cancel_steps ran
    exact (removed_not_held steps.programAt held).elim
  | rescueFunds ix =>
    obtain rfl := List.mem_singleton.mp named
    obtain ⟨_, _, _, steps⟩ := rescueFundsDst_steps ran
    exact steps.endowed free (signed _ (List.mem_singleton_self _)) derived held

/-- A named program account that is there after an instruction is endowed. -/
theorem Instruction.endowed {ix : Instruction K} (ran : ix.run env clock l = .ok l')
    (free : env.CollisionFree) (signed : ∀ key ∈ ix.signers, env.Wallet key) (derived : env.Derived a)
    (held : l'.programAt a = some data) (named : a ∈ ix.named) : Endowed env a data l l' := by
  cases ix with
  | whitelist ix => exact ix.endowed ran free signed derived held named
  | src ix => exact ix.endowed ran free signed derived held named
  | dst ix => exact ix.endowed ran free signed derived held named

/-- Every program account is rent-exempt in every reachable state. -/
theorem Trace.programs_exempt (free : env.CollisionFree) (trace : Trace env h s)
    (held : s.ledger.programAt a = some data) : env.minimumBalance data.space ≤ s.ledger.lamports a := by
  induction trace generalizing data with
  | start genesis =>
    rw [genesis.noPrograms] at held
    cases held
  | tick _ _ ih => exact ih held
  | external trace confined _ owned ih =>
    rw [owned] at held
    exact Nat.le_trans (ih held) (trace.untouched_external free held confined).lamports
  | @step h s ix l trace signed ran ih =>
    have derived := ((trace.step signed ran).placed held).derived
    by_cases named : a ∈ ix.named
    · cases Instruction.endowed ran free signed derived held named with
      | funded rent => exact rent
      | kept live space lamports => exact space ▸ Nat.le_trans (ih live) lamports
    · have outside : ¬ ix.authority a := by
        rintro (signer | isNamed)
        · exact derived.notWallet (signed a signer)
        · exact named isNamed
      have loaded := (Instruction.confined ran).origin a data outside (Ledger.programAt_eq_some.mp held)
      have live := Ledger.programAt_eq_some.mpr loaded
      exact Nat.le_trans (ih live) (trace.untouched_call free live signed ran named).lamports

/-! ## Token accounts -/

/-- Every instruction keeps token accounts rent-exempt. -/
theorem Trace.call_rentSound (trace : Trace env h s) {ix : Instruction K}
    (ran : ix.run env s.clock s.ledger = .ok l) (rent : RentSound env.toHost s.ledger) :
    RentSound env.toHost l :=
  Actions.rentSound (Instruction.actions ran) trace.tokenSound rent

theorem Run.next_rentSound {r r' : Run K} {command : Command K} (trace : Trace env r.history r.state)
    (ran : r.next env command = some r') (rent : RentSound env.toHost r.state.ledger) :
    RentSound env.toHost r'.state.ledger := by
  cases command with
  | call ix =>
    simp only [Run.next] at ran
    split at ran
    · next l processed =>
      obtain rfl := Option.some.inj ran
      exact trace.call_rentSound (Instruction.process_ok.mp processed).1 rent
    · cases ran
  | wait time =>
    simp only [Run.next] at ran
    split at ran
    · obtain rfl := Option.some.inj ran
      exact rent
    · cases ran

theorem execute_rentSound {r r' : Run K} {commands : List (Command K)}
    (trace : Trace env r.history r.state)
    (signed : ∀ command ∈ commands, ∀ key ∈ command.signers, env.Wallet key)
    (ran : execute env r commands = some r') (rent : RentSound env.toHost r.state.ledger) :
    RentSound env.toHost r'.state.ledger := by
  induction commands generalizing r with
  | nil =>
    obtain rfl := Option.some.inj ran
    exact rent
  | cons command rest ih =>
    obtain ⟨next, stepped, ran⟩ := Option.bind_eq_some_iff.mp ran
    have signedLater : ∀ c ∈ rest, ∀ key ∈ c.signers, env.Wallet key :=
      fun c member => signed c (by simp [member])
    exact ih (Run.next_trace trace (signed command (by simp)) stepped) signedLater ran
      (Run.next_rentSound trace stepped rent)

/-! ## The rent check -/

/-- The runtime accepts a call that ran exactly when it accepts what happened to the
accounts that end without data: all others end rent-exempt. -/
theorem Trace.processes_iff (free : env.CollisionFree) (trace : Trace env h s)
    (rent : RentSound env.toHost s.ledger) {ix : Instruction K}
    (signed : ∀ key ∈ ix.signers, env.Wallet key) (ran : ix.run env s.clock s.ledger = .ok l) :
    ix.process env s.clock s.ledger = .ok l ↔
      ∀ k ∈ ix.writable, l.data k = .empty → env.RentAllowed s.ledger l k := by
  rw [Instruction.process_ok]
  refine ⟨fun ⟨_, allowed⟩ k writable _ => allowed k writable, fun allowed => ⟨ran, fun k writable => ?_⟩⟩
  cases held : l.data k with
  | empty => exact allowed k writable held
  | token account => exact ((trace.call_rentSound ran rent).exempt held).allowed
  | program data =>
    have funded := (trace.step signed ran).programs_exempt free (Ledger.programAt_eq_some.mpr held)
    refine Ledger.RentExempt.allowed ?_
    unfold Ledger.RentExempt
    rw [held]
    exact funded

omit [DecidableEq K] in
/-- What an account can spare, it can spend. -/
theorem Environment.CanSpare.exempt {k : K} {cost : Nat} (spare : env.CanSpare l k cost)
    (data : l'.data k = l.data k) (spent : l.lamports k ≤ l'.lamports k + cost) :
    env.RentExempt l' k := by
  unfold Environment.CanSpare at spare
  unfold Environment.RentExempt Ledger.RentExempt
  rw [data]
  omega

/-- What a wallet without data pays for passes if the wallet can spare the cost and
every other account ends with data. -/
theorem Trace.payer_processes (free : env.CollisionFree) (trace : Trace env h s)
    (rent : RentSound env.toHost s.ledger) {ix : Instruction K}
    (signed : ∀ key ∈ ix.signers, env.Wallet key) (ran : ix.run env s.clock s.ledger = .ok l)
    {payer : K} {cost : Nat} (plain : s.ledger.data payer = .empty)
    (spare : env.CanSpare s.ledger payer cost)
    (spent : s.ledger.lamports payer ≤ l.lamports payer + cost)
    (full : ∀ k ∈ ix.writable, k ≠ payer → l.data k ≠ .empty) :
    ix.process env s.clock s.ledger = .ok l := by
  refine (trace.processes_iff free rent signed ran).mpr fun k writable empty => ?_
  by_cases same : k = payer
  · subst k
    exact (spare.exempt (empty.trans plain.symm) spent).allowed
  · exact absurd empty (full k writable same)

/-! ## The sample runs -/

theorem Sample.rentSound : RentSound Sample.env.toHost Sample.ledger := by
  intro key account loaded
  have held : key = Sample.associated Sample.maker ∨ key = Sample.associated Sample.taker := by
    unfold Sample.ledger at loaded
    dsimp only at loaded
    split at loaded
    · next same => exact Or.inl same
    · split at loaded
      · next same => exact Or.inr same
      · cases loaded
  obtain ⟨wallet, _, rfl⟩ := Sample.ledger_token loaded
  refine ⟨?_, fun reserve wrapped => by cases wrapped⟩
  change Sample.env.minimumBalance (Sample.env.tokenAccountLen Sample.usdc) ≤ _
  rcases held with rfl | rfl <;> decide

/-- The end of a scenario, where token accounts are rent-exempt too. -/
theorem Sample.Scenario.reached_sound {P : Run Term → Prop} [DecidablePred P]
    (scenario : Sample.Scenario P)
    (rent : RentSound Sample.env.toHost scenario.ledger) :
    ∃ r : Run Term, Trace Sample.env r.history r.state ∧ RentSound Sample.env.toHost r.state.ledger ∧
      P r := by
  obtain ⟨r, ran, holds⟩ := scenario.executes
  have start : Trace Sample.env [] ⟨scenario.ledger, ⟨0⟩⟩ := .start scenario.genesis
  exact ⟨r, execute_trace (r := ⟨[], ⟨scenario.ledger, ⟨0⟩⟩⟩) start scenario.signed ran,
    execute_rentSound (r := ⟨[], ⟨scenario.ledger, ⟨0⟩⟩⟩) start scenario.signed ran rent, holds⟩

end CrossChainEscrow.Source

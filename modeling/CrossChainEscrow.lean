import CrossChainEscrow.Guarantees.Accounting
import CrossChainEscrow.Guarantees.Addresses
import CrossChainEscrow.Guarantees.DestinationSafety
import CrossChainEscrow.Guarantees.Isolation
import CrossChainEscrow.Guarantees.MerkleSoundness
import CrossChainEscrow.Guarantees.SecretReveal
import CrossChainEscrow.Guarantees.Splitting
import CrossChainEscrow.Guarantees.StageWindows
import CrossChainEscrow.Guarantees.SourceSafety
import CrossChainEscrow.Effects.Auction
import CrossChainEscrow.Guarantees.Pricing
import CrossChainEscrow.Guarantees.IndexRule
import CrossChainEscrow.Guarantees.Refunds
import CrossChainEscrow.Invariants.Whitelist
import CrossChainEscrow.Guarantees.Whitelisting
import CrossChainEscrow.Guarantees.Collateral
import CrossChainEscrow.Guarantees.RescueAmounts
import CrossChainEscrow.Effects.Exits
import CrossChainEscrow.Effects.Payouts
import CrossChainEscrow.Invariants.Escrows
import CrossChainEscrow.Guarantees.ExitPayouts
import CrossChainEscrow.Guarantees.PayoutAgreement
import CrossChainEscrow.Guarantees.TimelockPacking
import CrossChainEscrow.Guarantees.MerkleCompleteness
import CrossChainEscrow.Guarantees.RateCurve
import CrossChainEscrow.Effects.OrderPayouts
import CrossChainEscrow.Effects.OrderPanics
import CrossChainEscrow.Guarantees.CancellationSplit
import CrossChainEscrow.Invariants.Premiums
import CrossChainEscrow.Guarantees.CancellationPanics
import CrossChainEscrow.Guarantees.Atomicity
import CrossChainEscrow.Guarantees.Custody
import CrossChainEscrow.Guarantees.HonestMaker
import CrossChainEscrow.Guarantees.Conservation
import CrossChainEscrow.Guarantees.RescueProgress
import CrossChainEscrow.Guarantees.CreationProgress
import CrossChainEscrow.Guarantees.ResolverProgress
import CrossChainEscrow.Effects.Locality
import CrossChainEscrow.Guarantees.HonestSwap
import CrossChainEscrow.Guarantees.Independence
import CrossChainEscrow.Guarantees.SellOut
import CrossChainEscrow.Guarantees.RoundTrip
import CrossChainEscrow.Effects.Derivations
import CrossChainEscrow.Guarantees.Idealisation

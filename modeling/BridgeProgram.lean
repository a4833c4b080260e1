import BridgeProgram.TransitionRuns
import BridgeProgram.BalanceShifts
import BridgeProgram.CheckedResult
import BridgeProgram.ByteStrings
import BridgeProgram.ListPositions
import BridgeProgram.ProgramStates
import BridgeProgram.SolanaRuntime
import BridgeProgram.AnchorAccounts
import BridgeProgram.TokenPrograms
import BridgeProgram.LockedAmounts
import BridgeProgram.MessageFormats
import BridgeProgram.Ed25519Instruction
import BridgeProgram.HandlerInstructions
import BridgeProgram.SignatureInstructions
import BridgeProgram.TokenInstructions
import BridgeProgram.SourceHistory
import BridgeProgram.SourceInstructions
import BridgeProgram.TargetInstructions
import BridgeProgram.BridgeProgramEntry
import BridgeProgram.AccountEffects
import BridgeProgram.BalanceEffects
import BridgeProgram.RegistryModel
import BridgeProgram.RegistryRefinement
import BridgeProgram.PayoutSteps
import BridgeProgram.PayoutTransport
import BridgeProgram.RegistryCells
import BridgeProgram.AccountKeeping
import BridgeProgram.SourceSteps
import BridgeProgram.CallEffects
import BridgeProgram.SolLedger
import BridgeProgram.TokenEffects
import BridgeProgram.DerivedAccounts
import BridgeProgram.UnprivilegedIsolation
import BridgeProgram.DerivedMints
import BridgeProgram.TokenRegistrations
import BridgeProgram.TokenLedger
import BridgeProgram.LaterApprovals
import BridgeProgram.LedgerInvariants
import BridgeProgram.TokenRegistry
import BridgeProgram.SourceAvailability
import BridgeProgram.ClientEncoding
import BridgeProgram.ClientRoundTrip
import BridgeProgram.SplitPayouts
import BridgeProgram.SymbolicRuntime
import BridgeProgram.ReplayProtection
import BridgeProgram.GuardianMajority
import BridgeProgram.ApprovalSoundness
import BridgeProgram.OutsiderIssuance
import BridgeProgram.SignatureSoundness
import BridgeProgram.PausedBridge
import BridgeProgram.PayloadKinds
import BridgeProgram.DomainSeparation
import BridgeProgram.QuotientSums
import BridgeProgram.RegisteredPair
import BridgeProgram.InstantCapCharges
import BridgeProgram.PayoutFrames
import BridgeProgram.PayoutCommutation
import BridgeProgram.TokenPause
import BridgeProgram.GuardianSets
import BridgeProgram.SourceProofs
import BridgeProgram.ThresholdAttainable
import BridgeProgram.TokenMapping
import BridgeProgram.InstantCapRuns
import BridgeProgram.PayoutMessages
import BridgeProgram.SignatureParser
import BridgeProgram.ApprovalBatches
import BridgeProgram.SeedStrings
import BridgeProgram.AccountNamespaces
import BridgeProgram.VaultChecks
import BridgeProgram.RunProjections
import BridgeProgram.DeliveryChannels
import BridgeProgram.CrossChainNetwork
import BridgeProgram.TokenSolvency
import BridgeProgram.SolSolvency
import BridgeProgram.BorshCodecs
import BridgeProgram.AccountBytes
import BridgeProgram.RawLedger
import BridgeProgram.InstructionData
import BridgeProgram.LocalComputations
import BridgeProgram.AccountFootprints
import BridgeProgram.CallFootprints
import BridgeProgram.CallSchedules
import BridgeProgram.Governance
import BridgeProgram.Transactions
import BridgeProgram.SignedPayouts
import BridgeProgram.VerificationTransactions
import BridgeProgram.BalanceTotals
import BridgeProgram.LamportConservation
import BridgeProgram.RentExemption
import BridgeProgram.PayoutAvailability
import BridgeProgram.ApprovalAvailability
import BridgeProgram.RequestPayouts
import BridgeProgram.RequestDelivery

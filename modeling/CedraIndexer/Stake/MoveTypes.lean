import CedraIndexer.Token.MoveTypes

/-!
# The staking Move types

The Move structs of `stake_utils.rs`, and the pool metadata the share extractors read. That
metadata is built in `delegator_pools.rs`, which is not part of the model: only the fields the
extractors read are kept, and the decoders producing it are arguments (`PoolDecoders`).
-/

namespace CedraIndexer

/-- `VoteDelegationResource`. -/
structure VoteDelegationResource where
  voter : String
  pendingVoter : String
  deriving DecidableEq, Repr

/-- `VoteDelegationVector`: one `smart_table` entry, delegator to votes. -/
structure VoteDelegationVector where
  key : String
  value : VoteDelegationResource
  deriving DecidableEq, Repr

/-- `DelegatorPoolBalanceMetadata`: a delegation pool and its two share tables. -/
structure DelegatorPoolBalanceMetadata where
  stakingPoolAddress : String
  scalingFactor : BigDecimal
  activeShareTableHandle : String
  inactiveShareTableHandle : String
  deriving DecidableEq, Repr

/-- `PoolBalanceMetadata`: one inactive pool, its shares table and the table it sits in. -/
structure PoolBalanceMetadata where
  sharesTableHandle : String
  parentTableHandle : String
  scalingFactor : BigDecimal
  deriving DecidableEq, Repr

/-- `STAKE_ADDR`: the framework address written out in full, as the outer type of a resource
carries it. -/
def STAKE_ADDR : String := "0x0000000000000000000000000000000000000000000000000000000000000001"

/-- `StakePoolResource`. -/
structure StakePoolResource where
  delegatedVoter : String
  operatorAddress : String
  deriving DecidableEq, Repr

/-- `SharesInnerResource`. -/
structure SharesInnerResource where
  inner : Table
  deriving DecidableEq, Repr

/-- `PoolResource`: a `pool_u64_unbound::Pool`. -/
structure PoolResource where
  shares : SharesInnerResource
  totalCoins : BigDecimal
  totalShares : BigDecimal
  scalingFactor : BigDecimal
  deriving DecidableEq, Repr

/-- `DelegationPoolResource`. -/
structure DelegationPoolResource where
  activeShares : PoolResource
  inactiveShares : Table
  operatorCommissionPercentage : BigDecimal
  deriving DecidableEq, Repr

/-- `VoteDelegationInnerResource`. -/
structure VoteDelegationInnerResource where
  inner : Table
  deriving DecidableEq, Repr

/-- `VoteDelegationBucketsResource`. -/
structure VoteDelegationBucketsResource where
  buckets : VoteDelegationInnerResource
  deriving DecidableEq, Repr

/-- `GovernanceRecordsResource`. -/
structure GovernanceRecordsResource where
  voteDelegation : VoteDelegationBucketsResource
  deriving DecidableEq, Repr

/-- `GovernanceVoteEvent`. -/
structure GovernanceVoteEvent where
  proposalId : UInt64
  voter : String
  stakePool : String
  numVotes : BigDecimal
  shouldPass : Bool
  deriving DecidableEq, Repr

/-- `DistributeRewardsEvent`. -/
structure DistributeRewardsEvent where
  poolAddress : String
  rewardsAmount : UInt64
  deriving DecidableEq, Repr

/-- `AddStakeEvent`. -/
structure AddStakeEvent where
  amountAdded : UInt64
  delegatorAddress : String
  poolAddress : String
  deriving DecidableEq, Repr

/-- `UnlockStakeEvent`. -/
structure UnlockStakeEvent where
  amountUnlocked : UInt64
  delegatorAddress : String
  poolAddress : String
  deriving DecidableEq, Repr

/-- `WithdrawStakeEvent`. -/
structure WithdrawStakeEvent where
  amountWithdrawn : UInt64
  delegatorAddress : String
  poolAddress : String
  deriving DecidableEq, Repr

/-- `ReactivateStakeEvent`. -/
structure ReactivateStakeEvent where
  amountReactivated : UInt64
  delegatorAddress : String
  poolAddress : String
  deriving DecidableEq, Repr

section Accessors

variable (sdk : Sdk)

/-- `VoteDelegationVector::get_delegator_address`. -/
def VoteDelegationVector.getDelegatorAddress (v : VoteDelegationVector) : String :=
  sdk.standardizeAddress v.key

/-- `VoteDelegationResource::get_voter`. -/
def VoteDelegationResource.getVoter (v : VoteDelegationResource) : String :=
  sdk.standardizeAddress v.voter

/-- `VoteDelegationResource::get_pending_voter`. -/
def VoteDelegationResource.getPendingVoter (v : VoteDelegationResource) : String :=
  sdk.standardizeAddress v.pendingVoter

/-- `StakePoolResource::get_delegated_voter`. -/
def StakePoolResource.getDelegatedVoter (r : StakePoolResource) : String :=
  sdk.standardizeAddress r.delegatedVoter

/-- `StakePoolResource::get_operator_address`. -/
def StakePoolResource.getOperatorAddress (r : StakePoolResource) : String :=
  sdk.standardizeAddress r.operatorAddress

end Accessors

end CedraIndexer

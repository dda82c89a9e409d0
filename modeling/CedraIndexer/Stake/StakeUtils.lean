import CedraIndexer.Decode

/-!
# The staking decoders

`stake_utils.rs`. Its decoders have the shape every decoder of the crate has (`decodeByType`):
the table items of a `pool_u64_unbound::Pool`, the stake and delegation pool resources, the
governance records of a delegation pool, and the staking events. The chain emits each of those
events under two names, the struct of an event handle and the module event that replaced it, and
`StakeEvent::from_event` sends both names to one arm.

Of the two resource decoders, `StakeResource::from_write_resource` checks the type before it
converts the resource, as the coin and token decoders do, and returns the conversion's `Err` as it
is. `DelegationVoteGovernanceRecordsResource::from_write_resource` checks nothing: it converts
every resource, and its `from_resource` has a single context, so a type it does not know is
`Ok(None)` once the conversion went through.
-/

namespace CedraIndexer

/-- `StakeTableItem`. -/
inductive StakeTableItem where
  | pool (inner : PoolResource)
  deriving DecidableEq, Repr

/-- `StakeTableItem::from_table_item_type`. -/
def StakeTableItem.fromTableItemType (dec : Decoders) (dataType : String) (data : MoveValue)
    (txnVersion : Int) : Except String (Option StakeTableItem) :=
  (decodeByType dataType data
    [("0x1::pool_u64_unbound::Pool", fun | .pool inner => some (.pool inner) | _ => none)]).mapError
    fun _ => parseTypeError txnVersion dataType (dec.debugJsonText data)

/-- `StakeResource`. -/
inductive StakeResource where
  | stakePool (inner : StakePoolResource)
  | delegationPool (inner : DelegationPoolResource)
  deriving DecidableEq, Repr

namespace StakeResource

/-- `StakeResource::is_resource_supported`. -/
def isResourceSupported (dataType : String) : Bool :=
  [STAKE_ADDR ++ "::stake::StakePool", STAKE_ADDR ++ "::delegation_pool::DelegationPool"].contains
    dataType

/-- The arms of `StakeResource::from_resource`. -/
def resourceTypes : List (String × (MoveValue → Option StakeResource)) :=
  [(STAKE_ADDR ++ "::stake::StakePool",
      fun | .stakePool inner => some (.stakePool inner) | _ => none),
    (STAKE_ADDR ++ "::delegation_pool::DelegationPool",
      fun | .delegationPool inner => some (.delegationPool inner) | _ => none)]

/-- `StakeResource::from_resource`. -/
def fromResource (dec : Decoders) (dataType : String) (data : MoveValue) (txnVersion : Int) :
    Except String StakeResource :=
  decodeResource dec dataType data resourceTypes txnVersion

/-- `StakeResource::from_write_resource`: the conversion's `Err` goes back as it is. -/
def fromWriteResource (dec : Decoders) (writeResource : WriteResource) (txnVersion : Int) :
    Except Fault (Option StakeResource) :=
  fromSupportedWriteResource dec isResourceSupported id
    (fun typeStr _ data => ((fromResource dec typeStr data txnVersion).map some).mapError .error)
    writeResource

end StakeResource

/-- `StakeEvent`. -/
inductive StakeEvent where
  | governanceVoteEvent (inner : GovernanceVoteEvent)
  | distributeRewardsEvent (inner : DistributeRewardsEvent)
  | addStakeEvent (inner : AddStakeEvent)
  | unlockStakeEvent (inner : UnlockStakeEvent)
  | withdrawStakeEvent (inner : WithdrawStakeEvent)
  | reactivateStakeEvent (inner : ReactivateStakeEvent)
  deriving DecidableEq, Repr

namespace StakeEvent

/-- The arms of `StakeEvent::from_event`: a pattern `a | b` is two entries with one decoder. -/
def eventTypes : List (String × (MoveValue → Option StakeEvent)) :=
  let vote : MoveValue → Option StakeEvent :=
    fun | .governanceVoteEvent inner => some (.governanceVoteEvent inner) | _ => none
  let rewards : MoveValue → Option StakeEvent :=
    fun | .distributeRewardsEvent inner => some (.distributeRewardsEvent inner) | _ => none
  let add : MoveValue → Option StakeEvent :=
    fun | .addStakeEvent inner => some (.addStakeEvent inner) | _ => none
  let unlock : MoveValue → Option StakeEvent :=
    fun | .unlockStakeEvent inner => some (.unlockStakeEvent inner) | _ => none
  let withdraw : MoveValue → Option StakeEvent :=
    fun | .withdrawStakeEvent inner => some (.withdrawStakeEvent inner) | _ => none
  let reactivate : MoveValue → Option StakeEvent :=
    fun | .reactivateStakeEvent inner => some (.reactivateStakeEvent inner) | _ => none
  [("0x1::cedra_governance::VoteEvent", vote), ("0x1::cedra_governance::Vote", vote),
    ("0x1::stake::DistributeRewardsEvent", rewards), ("0x1::stake::DistributeRewards", rewards),
    ("0x1::delegation_pool::AddStakeEvent", add), ("0x1::delegation_pool::AddStake", add),
    ("0x1::delegation_pool::UnlockStakeEvent", unlock),
    ("0x1::delegation_pool::UnlockStake", unlock),
    ("0x1::delegation_pool::WithdrawStakeEvent", withdraw),
    ("0x1::delegation_pool::WithdrawStake", withdraw),
    ("0x1::delegation_pool::ReactivateStakeEvent", reactivate),
    ("0x1::delegation_pool::ReactivateStake", reactivate)]

/-- `StakeEvent::from_event`. -/
def fromEvent (dec : Decoders) (dataType : String) (data : MoveValue) (txnVersion : Int) :
    Except String (Option StakeEvent) :=
  (decodeByType dataType data eventTypes).mapError fun _ =>
    parseTypeError txnVersion dataType (dec.debugJsonText data)

end StakeEvent

/-- `DelegationVoteGovernanceRecordsResource`. -/
inductive DelegationVoteGovernanceRecordsResource where
  | governanceRecords (inner : GovernanceRecordsResource)
  deriving DecidableEq, Repr

namespace DelegationVoteGovernanceRecordsResource

/-- The one arm of `DelegationVoteGovernanceRecordsResource::from_resource`. -/
def resourceTypes : List (String × (MoveValue → Option DelegationVoteGovernanceRecordsResource)) :=
  [(STAKE_ADDR ++ "::delegation_pool::GovernanceRecords",
      fun | .governanceRecords inner => some (.governanceRecords inner) | _ => none)]

/-- `DelegationVoteGovernanceRecordsResource::from_resource`: one context, on the decoding, so a
type it does not know is `Ok(None)`. -/
def fromResource (dec : Decoders) (dataType : String) (data : MoveValue) (txnVersion : Int) :
    Except String (Option DelegationVoteGovernanceRecordsResource) :=
  (decodeByType dataType data resourceTypes).mapError fun _ =>
    parseTypeError txnVersion dataType (dec.debugJsonValue data)

/-- `DelegationVoteGovernanceRecordsResource::from_write_resource`: no check of the type comes
before the conversion. -/
def fromWriteResource (dec : Decoders) (writeResource : WriteResource) (txnVersion : Int) :
    Except Fault (Option DelegationVoteGovernanceRecordsResource) :=
  let typeStr := dec.getOuterTypeFromWriteResource writeResource
  match dec.moveResourceFromWriteResource writeResource with
  | .error e => .error (.error e)
  | .ok none => .ok none
  | .ok (some resource) =>
    match resource.data with
    | none => Fault.unwrapOption none
    | some data => (fromResource dec typeStr data txnVersion).mapError .error

end DelegationVoteGovernanceRecordsResource

end CedraIndexer

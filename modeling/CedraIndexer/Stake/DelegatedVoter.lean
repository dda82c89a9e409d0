import CedraIndexer.Decode
import CedraIndexer.Stake.DelegatorBalances

/-!
# Delegated voters

`current_delegated_voter.rs`. A vote-delegation table item lists, for one delegation pool, each
delegator's voter and pending voter. The pool is found from the table handle: in this batch's
`GovernanceRecords` resources, else in `current_delegated_voter.table_handle` of earlier
batches; an unresolved pool is logged and the item skipped.

Delegators who staked before vote delegation existed get a default row, voting for themselves,
from their active-share items, but only when no row for them exists yet: neither from this batch
(`previous_delegated_voters`) nor in the store (`get_existence_by_pk`).
-/

namespace CedraIndexer

/-- `CurrentDelegatedVoter`. -/
structure CurrentDelegatedVoter where
  delegationPoolAddress : String
  delegatorAddress : String
  tableHandle : Option String
  voter : Option String
  pendingVoter : Option String
  lastTransactionVersion : Int
  lastTransactionTimestamp : NaiveDateTime
  deriving DecidableEq, Repr

/-- `CurrentDelegatedVoterPK`: pool, then delegator. -/
abbrev CurrentDelegatedVoterPK := String × String

/-- `CurrentDelegatedVoterMap`. -/
abbrev CurrentDelegatedVoterMap := AHashMap CurrentDelegatedVoterPK CurrentDelegatedVoter

/-- `VoteDelegationTableHandleToPool`. -/
abbrev VoteDelegationTableHandleToPool := AHashMap String String

/-- The Move type of a vote-delegation table value. -/
def VOTE_DELEGATION_TYPE : String :=
  "vector<0x1::smart_table::Entry<address, 0x1::delegation_pool::VoteDelegation>>"

/-- `VoteDelegationTableItem::from_table_item_type`. -/
def VoteDelegationTableItem.fromTableItemType (dec : Decoders) (dataType : String)
    (data : MoveValue) (txnVersion : Int) : Except String (Option (List VoteDelegationVector)) :=
  (decodeByType dataType data
    [(VOTE_DELEGATION_TYPE, fun | .voteDelegations v => some v | _ => none)]).mapError
    fun _ => parseTypeError txnVersion dataType (dec.debugJsonText data)

namespace CurrentDelegatedVoter

/-- `CurrentDelegatedVoter::pk`. -/
def pk (v : CurrentDelegatedVoter) : CurrentDelegatedVoterPK :=
  (v.delegationPoolAddress, v.delegatorAddress)

/-- `impl Ord for CurrentDelegatedVoter`: delegator, then pool. -/
def cmp (a b : CurrentDelegatedVoter) : Ordering :=
  (compare a.delegatorAddress b.delegatorAddress).then
    (compare a.delegationPoolAddress b.delegationPoolAddress)

/-- `get_delegation_pool_address_by_table_handle`: `current_delegated_voter
.delegation_pool_address` of a row with that vote-delegation table handle. -/
def getDelegationPoolAddressByTableHandle (conn : Conn) (tableHandle : String)
    (queryRetries : UInt32) (queryRetryDelayMs : UInt64) : Except String String × Conn :=
  retryLookup (.delegatedVoterByTableHandle tableHandle)
    (fun (row : CurrentDelegatedVoterQuery) => .ok row.delegationPoolAddress)
    (.error "Failed to get delegation pool address from vote delegation write table handle")
    queryRetries queryRetryDelayMs conn

/-- `get_existence_by_pk`: whether one of the attempts found the row. -/
def getExistenceByPk (conn : Conn) (delegatorAddress delegationPoolAddress : String)
    (queryRetries : UInt32) (queryRetryDelayMs : UInt64) : Bool × Conn :=
  retryLookup (.delegatedVoterByPk delegatorAddress delegationPoolAddress) (fun _ => true) false
    queryRetries queryRetryDelayMs conn

section Extractors

variable (sdk : Sdk) (dec : Decoders)

/-- The pool of a vote-delegation table: this batch's mapping, else the store, else `""`. -/
def resolvePoolAddress (voteDelegationHandleToPoolAddress : VoteDelegationTableHandleToPool)
    (tableHandle : String) (conn : Conn) (queryRetries : UInt32) (queryRetryDelayMs : UInt64) :
    String × Conn :=
  match voteDelegationHandleToPoolAddress.get? tableHandle with
  | some poolAddress => (poolAddress, conn)
  | none =>
    match getDelegationPoolAddressByTableHandle conn tableHandle queryRetries queryRetryDelayMs with
    | (.ok poolAddress, conn) => (poolAddress, conn)
    | (.error _, conn) => ("", conn)

/-- The row of one vote-delegation entry. -/
def ofVoteDelegation (poolAddress tableHandle : String) (txnVersion : Int)
    (txnTimestamp : NaiveDateTime) (inner : VoteDelegationVector) : CurrentDelegatedVoter where
  delegationPoolAddress := poolAddress
  delegatorAddress := inner.getDelegatorAddress sdk
  tableHandle := some tableHandle
  voter := some (inner.value.getVoter sdk)
  pendingVoter := some (inner.value.getPendingVoter sdk)
  lastTransactionVersion := txnVersion
  lastTransactionTimestamp := txnTimestamp

/-- `CurrentDelegatedVoter::from_write_table_item`. -/
def fromWriteTableItem (writeTableItem : WriteTableItem) (txnVersion : Int)
    (txnTimestamp : NaiveDateTime)
    (voteDelegationHandleToPoolAddress : VoteDelegationTableHandleToPool)
    (conn : Conn) (queryRetries : UInt32) (queryRetryDelayMs : UInt64) :
    Except Fault CurrentDelegatedVoterMap × Conn :=
  match writeTableItem.data with
  | none => (Fault.unwrapOption none, conn)
  | some tableItemData =>
    let tableHandle := sdk.standardizeAddress writeTableItem.handle
    match VoteDelegationTableItem.fromTableItemType dec tableItemData.valueType
        tableItemData.value txnVersion with
    | .error e => (.error (.error e), conn)
    | .ok none => (.ok .empty, conn)
    | .ok (some voteDelegationVector) =>
      let (poolAddress, conn) := resolvePoolAddress voteDelegationHandleToPoolAddress tableHandle
        conn queryRetries queryRetryDelayMs
      if poolAddress.isEmpty then (.ok .empty, conn)
      else
        (.ok (voteDelegationVector.foldl (fun map inner =>
          let row := ofVoteDelegation sdk poolAddress tableHandle txnVersion txnTimestamp inner
          map.insert (poolAddress, row.delegatorAddress) row) .empty), conn)

/-- The row of a delegator from before vote delegation: it votes for itself. -/
def defaultVoter (poolAddress delegatorAddress : String) (txnVersion : Int)
    (txnTimestamp : NaiveDateTime) : CurrentDelegatedVoter where
  delegationPoolAddress := poolAddress
  delegatorAddress := delegatorAddress
  tableHandle := none
  voter := some delegatorAddress
  pendingVoter := some delegatorAddress
  lastTransactionVersion := txnVersion
  lastTransactionTimestamp := txnTimestamp

/-- Whether a voter row exists: in this batch's map, else by the store lookup. -/
def alreadyExists (previousDelegatedVoters : CurrentDelegatedVoterMap)
    (poolAddress delegatorAddress : String) (conn : Conn) (queryRetries : UInt32)
    (queryRetryDelayMs : UInt64) : Bool × Conn :=
  match previousDelegatedVoters.get? (poolAddress, delegatorAddress) with
  | some _ => (true, conn)
  | none => getExistenceByPk conn delegatorAddress poolAddress queryRetries queryRetryDelayMs

/-- `get_delegators_pre_contract_deployment`. -/
def getDelegatorsPreContractDeployment (writeTableItem : WriteTableItem) (txnVersion : Int)
    (txnTimestamp : NaiveDateTime) (activePoolToStakingPool : ShareToStakingPoolMapping)
    (previousDelegatedVoters : CurrentDelegatedVoterMap) (conn : Conn) (queryRetries : UInt32)
    (queryRetryDelayMs : UInt64) : Except Fault (Option CurrentDelegatedVoter) × Conn :=
  match CurrentDelegatorBalance.getActiveShareFromWriteTableItem sdk dec writeTableItem txnVersion
      0 activePoolToStakingPool txnTimestamp with
  | .error f => (.error f, conn)
  | .ok none => (.ok none, conn)
  | .ok (some (_, activeBalance)) =>
    let poolAddress := activeBalance.poolAddress
    let delegatorAddress := activeBalance.delegatorAddress
    match alreadyExists previousDelegatedVoters poolAddress delegatorAddress conn queryRetries
        queryRetryDelayMs with
    | (false, conn) =>
      (.ok (some (defaultVoter poolAddress delegatorAddress txnVersion txnTimestamp)), conn)
    | (true, conn) => (.ok none, conn)

end Extractors

end CurrentDelegatedVoter

end CedraIndexer

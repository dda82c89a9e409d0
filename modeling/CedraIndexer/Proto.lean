import CedraIndexer.Token.MoveTypes
import CedraIndexer.Coin.MoveTypes
import CedraIndexer.Stake.MoveTypes
import CedraIndexer.Ans.MoveTypes

/-!
# Transactions as the extractors see them

The `cedra_protos::transaction::v1` messages that the extractors read: a transaction, its
write-set changes, and the resources and table items those changes carry. A table item's key and
value, and a resource's data, are JSON that `serde_json` decodes by the Move type string next to
them. They are modelled already decoded, as a `MoveValue`: decoding a payload as a type succeeds
exactly when the payload is a value of that type, and the type string still decides which decoder
runs, as in the source.

`MoveResource::from_write_resource` and the other helpers of `move_resources.rs` and
`table_items.rs` are not part of the model, and are the arguments `Decoders`; so are the `Debug`
texts that error messages print of a payload, taken by the value it decodes to, and the framework
addresses of `db::resources`, the arguments `FrameworkAddresses`.
-/

namespace CedraIndexer

/-- A JSON payload, by the Move value `serde_json` decodes it to. -/
inductive MoveValue where
  | tokenDataId (v : TokenDataIdType)
  | tokenId (v : TokenIdType)
  | tokenData (v : TokenDataType)
  | token (v : TokenType)
  | collectionData (v : CollectionDataType)
  | tokenOfferId (v : TokenOfferIdType)
  | collectionResource (v : CollectionResourceType)
  | tokenStoreResource (v : TokenStoreResourceType)
  | pendingClaimsResource (v : PendingClaimsResourceType)
  | voteDelegations (v : List VoteDelegationVector)
  | stakePool (v : StakePoolResource)
  | delegationPool (v : DelegationPoolResource)
  | pool (v : PoolResource)
  | governanceRecords (v : GovernanceRecordsResource)
  | governanceVoteEvent (v : GovernanceVoteEvent)
  | distributeRewardsEvent (v : DistributeRewardsEvent)
  | addStakeEvent (v : AddStakeEvent)
  | unlockStakeEvent (v : UnlockStakeEvent)
  | withdrawStakeEvent (v : WithdrawStakeEvent)
  | reactivateStakeEvent (v : ReactivateStakeEvent)
  | coinInfo (v : CoinInfoResource)
  | coinStore (v : CoinStoreResource)
  | nameRecordKeyV1 (v : NameRecordKeyV1)
  | nameRecordV1 (v : NameRecordV1)
  | nameRecordV2 (v : NameRecordV2)
  | subdomainExtV2 (v : SubdomainExtV2)
  | renewNameEvent (v : RenewNameEvent)
  | setReverseLookupEvent (v : SetReverseLookupEvent)
  | string (s : String)
  | other (raw : String)
  deriving DecidableEq, Repr

/-- The content of a `MoveType`; of a struct, the extractors only read the address. -/
inductive MoveTypeContent where
  | struct (address module name : String)
  | other
  deriving DecidableEq, Repr

/-- `MoveType`. -/
structure MoveType where
  content : Option MoveTypeContent
  deriving DecidableEq, Repr

/-- `MoveStructTag`. -/
structure MoveStructTag where
  address : String
  module : String
  name : String
  genericTypeParams : List MoveType
  deriving DecidableEq, Repr

/-- `WriteResource`. -/
structure WriteResource where
  address : String
  stateKeyHash : String
  type : Option MoveStructTag
  typeStr : String
  data : MoveValue
  deriving DecidableEq, Repr

/-- `DeleteResource`. -/
structure DeleteResource where
  address : String
  stateKeyHash : String
  type : Option MoveStructTag
  typeStr : String
  deriving DecidableEq, Repr

/-- `Event`: its type string and its data. -/
structure Event where
  typeStr : String
  data : MoveValue
  deriving DecidableEq, Repr

/-- `WriteTableData`. -/
structure WriteTableData where
  key : MoveValue
  keyType : String
  value : MoveValue
  valueType : String
  deriving DecidableEq, Repr

/-- `WriteTableItem`; `key` is the raw key, `data` its decoded form. -/
structure WriteTableItem where
  handle : String
  key : String
  data : Option WriteTableData
  deriving DecidableEq, Repr

/-- `DeleteTableData`. -/
structure DeleteTableData where
  key : MoveValue
  keyType : String
  deriving DecidableEq, Repr

/-- `DeleteTableItem`. -/
structure DeleteTableItem where
  handle : String
  key : String
  data : Option DeleteTableData
  deriving DecidableEq, Repr

/-- `write_set_change::Change`. -/
inductive Change where
  | deleteModule
  | deleteResource (r : DeleteResource)
  | deleteTableItem (t : DeleteTableItem)
  | writeModule
  | writeResource (r : WriteResource)
  | writeTableItem (t : WriteTableItem)
  deriving DecidableEq, Repr

/-- `WriteSetChange`. -/
structure WriteSetChange where
  change : Option Change
  deriving DecidableEq, Repr

/-- `TransactionInfo`. -/
structure TransactionInfo where
  changes : List WriteSetChange
  deriving DecidableEq, Repr

/-- `transaction::TxnData`: only whether it is a user transaction matters here. -/
inductive TxnData where
  | user
  | other
  deriving DecidableEq, Repr

/-- `Transaction`; the timestamp is the parsed `NaiveDateTime`. -/
structure Transaction where
  version : Nat
  timestamp : Option NaiveDateTime
  info : Option TransactionInfo
  txnData : Option TxnData
  deriving DecidableEq, Repr

/-- `v as i64` for a `u64`: the two's complement reading of its 64 bits. -/
def asI64 (v : Nat) : Int :=
  if v % 2 ^ 64 < 2 ^ 63 then (v % 2 ^ 64 : Nat) else (v % 2 ^ 64 : Nat) - 2 ^ 64

/-- `MoveResource`: the fields the extractors read. -/
structure MoveResource where
  resourceAddress : String
  resourceType : String
  stateKeyHash : String
  data : Option MoveValue
  deriving DecidableEq, Repr

/-- The helpers of `move_resources.rs` and `table_items.rs` that the extractors call. -/
structure Decoders where
  /-- `MoveResource::get_outer_type_from_write_resource`. -/
  getOuterTypeFromWriteResource : WriteResource → String
  /-- `MoveResource::from_write_resource`. -/
  moveResourceFromWriteResource : WriteResource → Except String (Option MoveResource)
  /-- `MoveResource::convert_move_struct_tag(tag).get_address()`. -/
  structTagAddress : MoveStructTag → String
  /-- `TableItem::from_write_table_item(..).decoded_value`. -/
  decodedValue : WriteTableItem → Option MoveValue
  /-- `TableItem::from_write_table_item(..).decoded_key`. -/
  decodedKey : WriteTableItem → MoveValue
  /-- The `Debug` text of `decoded_value.as_ref()`. -/
  debugDecodedValue : WriteTableItem → String
  /-- The `Debug` text of a payload's JSON text, as the decoders that parse a `&str` print it. -/
  debugJsonText : MoveValue → String
  /-- The `Debug` text of a payload's `serde_json::Value`, as `from_resource` prints it. -/
  debugJsonValue : MoveValue → String

/-- Decoders for running the model on examples: the outer type is the type string up to its
first `<`, every payload is already decoded, and a payload prints as its `Repr`. -/
def Decoders.direct : Decoders where
  getOuterTypeFromWriteResource wr := ⟨wr.typeStr.toList.takeWhile (· ≠ '<')⟩
  moveResourceFromWriteResource wr :=
    .ok (some ⟨wr.address, wr.typeStr, wr.stateKeyHash, some wr.data⟩)
  structTagAddress tag := tag.address
  decodedValue item := item.data.map (·.value)
  decodedKey item := (item.data.map (·.key)).getD (.other "null")
  debugDecodedValue item := reprStr (item.data.map (·.value))
  debugJsonText data := reprStr data
  debugJsonValue data := reprStr data

/-- `COIN_ADDR`, `TOKEN_ADDR` and `TOKEN_V2_ADDR` of `db::resources`. -/
structure FrameworkAddresses where
  coinAddr : String
  tokenAddr : String
  tokenV2Addr : String
  deriving DecidableEq, Repr

/-- The framework addresses of the `0x1`, `0x3` and `0x4` packages. -/
def FrameworkAddresses.standard : FrameworkAddresses := ⟨"0x1", "0x3", "0x4"⟩

end CedraIndexer

import CedraIndexer.Proto

/-!
# Transactions in full

`Transaction` of `Proto` keeps what the token and stake extractors read of a transaction. The
default processor, the event extractor and the account index read the whole message: the block
height and epoch, the type, the hashes and gas of the info, the six kinds of transaction data
with their events and payloads, and the size info. `TransactionPB` is that message, under the
name `transactions.rs` imports it by.

Hashes are kept as their hex text: `hex::encode` is not modelled. Payloads and signatures are
read only by helpers of the SDK, so they are kept whole, as text. What `chrono` and the
transaction stream compute from a timestamp, and the name of a transaction type, are the
arguments `ChainHelpers`.
-/

namespace CedraIndexer

/-- `Timestamp`: seconds and nanoseconds since the epoch. -/
structure Timestamp where
  seconds : Int
  nanos : Int
  deriving DecidableEq, Repr

/-- `EventKey`: the account that emitted an event handle's events and the handle's number. -/
structure EventKey where
  creationNumber : UInt64
  accountAddress : String
  deriving DecidableEq, Repr

/-- `Event`, in full: its key, its sequence number, and its type and JSON data as text. -/
structure EventPB where
  key : Option EventKey
  sequenceNumber : UInt64
  typeStr : String
  data : String
  deriving DecidableEq, Repr

/-- `EventSizeInfo`. -/
structure EventSizeInfo where
  typeTagBytes : UInt32
  totalBytes : UInt32
  deriving DecidableEq, Repr

/-- `TransactionSizeInfo`: the sizes the processors read. -/
structure TransactionSizeInfo where
  transactionBytes : UInt32
  eventSizeInfo : List EventSizeInfo
  deriving DecidableEq, Repr

/-- `TransactionPayload`, by its JSON text. -/
structure TransactionPayload where
  raw : String
  deriving DecidableEq, Repr

/-- `WriteSet`, the payload of a genesis transaction, by its JSON text. -/
structure WriteSet where
  raw : String
  deriving DecidableEq, Repr

/-- `Signature` of a user request, by its JSON text. -/
structure SignaturePB where
  raw : String
  deriving DecidableEq, Repr

/-- `UserTransactionRequest`: its payload and its signature. -/
structure UserTransactionRequest where
  payload : Option TransactionPayload
  signature : Option SignaturePB
  deriving DecidableEq, Repr

/-- `transaction::TxnData`, each kind with the fields the processors read. -/
inductive TxnDataPB where
  | blockMetadata (events : List EventPB)
  | genesis (payload : Option WriteSet) (events : List EventPB)
  | stateCheckpoint
  | user (request : Option UserTransactionRequest) (events : List EventPB)
  | validator (events : List EventPB)
  | blockEpilogue
  deriving DecidableEq, Repr

/-- `TransactionInfo`, in full. -/
structure TransactionInfoPB where
  hash : String
  stateChangeHash : String
  eventRootHash : String
  stateCheckpointHash : Option String
  gasUsed : UInt64
  success : Bool
  vmStatus : String
  accumulatorRootHash : String
  changes : List WriteSetChange
  deriving DecidableEq, Repr

/-- `Transaction`, in full. `type` is the number of its `TransactionType`. -/
structure TransactionPB where
  timestamp : Option Timestamp
  version : UInt64
  info : Option TransactionInfoPB
  epoch : UInt64
  blockHeight : UInt64
  type : Int
  txnData : Option TxnDataPB
  sizeInfo : Option TransactionSizeInfo
  deriving DecidableEq, Repr

/-- `match txn_data { BlockMetadata(t) | Genesis(t) | User(t) | Validator(t) => &t.events, _ =>
&default }`: the events of the kinds that carry them. -/
def TxnDataPB.events : TxnDataPB → List EventPB
  | .blockMetadata events => events
  | .genesis _ events => events
  | .user _ events => events
  | .validator events => events
  | .stateCheckpoint => []
  | .blockEpilogue => []

/-- What the processors take from `chrono`, from the transaction stream and from the proto's
enums, which are not part of this crate. -/
structure ChainHelpers where
  /-- `TransactionType::try_from(t).map(|t| t.as_str_name())`: the name of a known type. -/
  transactionTypeName : Int → Option String
  /-- `NaiveDateTime::from_timestamp_opt(seconds, 0)`: the time, if it is in range. -/
  fromTimestampOpt : Int → Option NaiveDateTime
  /-- `parse_timestamp(timestamp, version).naive_utc()`: the time, or the text of the panic of a
  timestamp it cannot represent. -/
  parseTimestamp : Timestamp → Int → Except String NaiveDateTime

/-- Helpers for running the model on examples: every type number is named by itself, and a
timestamp is its seconds. -/
def ChainHelpers.plain : ChainHelpers :=
  ⟨fun t => some (toString t), some, fun timestamp _ => .ok timestamp.seconds⟩

end CedraIndexer

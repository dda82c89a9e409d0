import CedraIndexer.Proto

/-!
# The supply of the native coin

`coin_supply.rs`. The supply of the native coin lives in an aggregator table whose handle and key
are fixed at genesis, so `CoinSupply::from_write_table_item` recognises its table item by those
two constants and by the `address` to `u128` types of an aggregator, and reads the value as a
decimal. Each test returns early with nothing; past the handle, the code unwraps the decoded key
and value as JSON strings, so a supply table item whose key or value is not a string panics, and
a value that is not a decimal is an error.

`CEDRA_COIN_TYPE_STR` comes from the SDK and is an argument.
-/

namespace CedraIndexer

/-- `CEDRA_COIN_SUPPLY_TABLE_HANDLE`. -/
def CEDRA_COIN_SUPPLY_TABLE_HANDLE : String :=
  "0x1b854694ae746cdbd8d44186ca4929b2b337df21d1c74633be19b2710552fdca"

/-- `CEDRA_COIN_SUPPLY_TABLE_KEY`. -/
def CEDRA_COIN_SUPPLY_TABLE_KEY : String :=
  "0x619dc29a0aac8fa146714058e8dd6d2d0f3bdf5f6331907bf91f3acd81e6935"

/-- `serde_json::Value::as_str`. -/
def MoveValue.asStr : MoveValue → Option String
  | .string s => some s
  | _ => none

/-- `CoinSupply`. -/
structure CoinSupply where
  transactionVersion : Int
  coinTypeHash : String
  coinType : String
  supply : BigDecimal
  transactionTimestamp : NaiveDateTime
  transactionEpoch : Int
  deriving DecidableEq, Repr

namespace CoinSupply

variable (sdk : Sdk) (dec : Decoders) (cedraCoinTypeStr : String)

/-- `CoinSupply::from_write_table_item`. -/
def fromWriteTableItem (writeTableItem : WriteTableItem) (txnVersion : Int)
    (txnTimestamp : NaiveDateTime) (txnEpoch : Int) : Except Fault (Option CoinSupply) :=
  match writeTableItem.data with
  | none => .ok none
  | some data =>
    if !(data.keyType == "address" && data.valueType == "u128") then .ok none
    else if writeTableItem.handle != CEDRA_COIN_SUPPLY_TABLE_HANDLE then .ok none
    else do
      let tableKey ← Fault.unwrapOption (dec.decodedKey writeTableItem).asStr
      if tableKey != CEDRA_COIN_SUPPLY_TABLE_KEY then return none
      let value ← Fault.unwrapOption (dec.decodedValue writeTableItem)
      let valueStr ← Fault.unwrapOption value.asStr
      match sdk.parseBigDecimal valueStr with
      | none => .error (.error ("cannot parse string as u128: " ++
          dec.debugDecodedValue writeTableItem ++ ", version " ++ toString txnVersion))
      | some supply =>
        return some
          { transactionVersion := txnVersion
            coinTypeHash := sdk.hashStr cedraCoinTypeStr
            coinType := cedraCoinTypeStr
            supply := supply
            transactionTimestamp := txnTimestamp
            transactionEpoch := txnEpoch }

end CoinSupply

end CedraIndexer

import CedraIndexer.Token.WriteSet
import CedraIndexer.Db.Retry

/-!
# Token v1 collections

`collection_datas.rs`. A `CollectionData` table item lives in its creator's `Collections`
resource. The creator comes from this batch's `table_handle_to_owner`, keyed by the standardized
handle, or else from `current_collection_datas.table_handle` of an earlier batch, looked up and
stored with the handle as the item spells it. A collection whose creator cannot be found is
logged and skipped. The creator is standardized before it is hashed into the collection's id.
-/

namespace CedraIndexer

/-- `CollectionData`, the history row. -/
structure CollectionData where
  collectionDataIdHash : String
  transactionVersion : Int
  creatorAddress : String
  collectionName : String
  description : String
  metadataUri : String
  supply : BigDecimal
  maximum : BigDecimal
  maximumMutable : Bool
  uriMutable : Bool
  descriptionMutable : Bool
  tableHandle : String
  transactionTimestamp : NaiveDateTime
  deriving DecidableEq, Repr

/-- `CurrentCollectionData`. -/
structure CurrentCollectionData where
  collectionDataIdHash : String
  creatorAddress : String
  collectionName : String
  description : String
  metadataUri : String
  supply : BigDecimal
  maximum : BigDecimal
  maximumMutable : Bool
  uriMutable : Bool
  descriptionMutable : Bool
  lastTransactionVersion : Int
  tableHandle : String
  lastTransactionTimestamp : NaiveDateTime
  deriving DecidableEq, Repr

namespace CollectionData

/-- `get_collection_creator`: `current_collection_datas.creator_address` of a row with that
table handle. -/
def getCollectionCreator (conn : Conn) (tableHandle : String) (queryRetries : UInt32)
    (queryRetryDelayMs : UInt64) : Except String String × Conn :=
  retryLookup (.collectionDataByTableHandle tableHandle)
    (fun (row : CurrentCollectionDataQuery) => .ok row.creatorAddress)
    (.error "Failed to get collection creator") queryRetries queryRetryDelayMs conn

section Extractors

variable (sdk : Sdk) (dec : Decoders)

/-- The creator of a collection table: this batch's owner, else the store, else none. -/
def resolveCreator (tableHandleToOwner : TableHandleToOwner) (tableHandle : String)
    (conn : Conn) (queryRetries : UInt32) (queryRetryDelayMs : UInt64) : Option String × Conn :=
  match tableHandleToOwner.get? (sdk.standardizeAddress tableHandle) with
  | some tableMetadata => (some (tableMetadata.getOwnerAddress sdk), conn)
  | none =>
    match getCollectionCreator conn tableHandle queryRetries queryRetryDelayMs with
    | (.ok creator, conn) => (some creator, conn)
    | (.error _, conn) => (none, conn)

/-- The two rows of a collection whose creator is known. -/
def rowsOf (collectionData : CollectionDataType) (creator tableHandle : String) (txnVersion : Int)
    (txnTimestamp : NaiveDateTime) : CollectionData × CurrentCollectionData :=
  let creatorAddress := sdk.standardizeAddress creator
  let collectionDataId := CollectionDataIdType.new creatorAddress collectionData.getName
  let collectionDataIdHash := collectionDataId.toHash sdk
  let collectionName := collectionData.getNameTrunc
  let metadataUri := collectionData.getUriTrunc
  (⟨collectionDataIdHash, txnVersion, collectionDataId.creator, collectionName,
      collectionData.description, metadataUri, collectionData.supply, collectionData.maximum,
      collectionData.mutabilityConfig.maximum, collectionData.mutabilityConfig.uri,
      collectionData.mutabilityConfig.description, tableHandle, txnTimestamp⟩,
    ⟨collectionDataIdHash, collectionDataId.creator, collectionName, collectionData.description,
      metadataUri, collectionData.supply, collectionData.maximum,
      collectionData.mutabilityConfig.maximum, collectionData.mutabilityConfig.uri,
      collectionData.mutabilityConfig.description, txnVersion, tableHandle, txnTimestamp⟩)

/-- `CollectionData::from_write_table_item`. -/
def fromWriteTableItem (tableItem : WriteTableItem) (txnVersion : Int)
    (txnTimestamp : NaiveDateTime) (tableHandleToOwner : TableHandleToOwner) (conn : Conn)
    (queryRetries : UInt32) (queryRetryDelayMs : UInt64) :
    Except Fault (Option (CollectionData × CurrentCollectionData)) × Conn :=
  match tableItem.data with
  | none => (Fault.unwrapOption none, conn)
  | some tableItemData =>
    match TokenWriteSet.fromTableItemType dec tableItemData.valueType tableItemData.value
        txnVersion with
    | .error e => (.error (.error e), conn)
    | .ok (some (.collectionData collectionData)) =>
      let tableHandle := tableItem.handle
      match resolveCreator sdk tableHandleToOwner tableHandle conn queryRetries
          queryRetryDelayMs with
      | (none, conn) => (.ok none, conn)
      | (some creator, conn) =>
        (.ok (some (rowsOf sdk collectionData creator tableHandle txnVersion txnTimestamp)), conn)
    | .ok _ => (.ok none, conn)

/-- A collection whose table's creator resolves gives the rows of that creator. -/
theorem fromWriteTableItem_of_creator {item : WriteTableItem} {data : WriteTableData}
    {collectionData : CollectionDataType} {tableHandleToOwner : TableHandleToOwner} {conn : Conn}
    {n : UInt32} {d : UInt64} {creator : String} (hdata : item.data = some data)
    (hvalue : TokenWriteSet.decode data.valueType data.value =
      .ok (some (.collectionData collectionData)))
    (hcreator : (resolveCreator sdk tableHandleToOwner item.handle conn n d).1 = some creator)
    (txnVersion : Int) (ts : NaiveDateTime) :
    (fromWriteTableItem sdk dec item txnVersion ts tableHandleToOwner conn n d).1 =
      .ok (some (rowsOf sdk collectionData creator item.handle txnVersion ts)) := by
  have hv := (TokenWriteSet.fromTableItemType_eq_ok dec _ _ txnVersion _).2 hvalue
  rcases hr : resolveCreator sdk tableHandleToOwner item.handle conn n d with
    ⟨_ | creator', conn'⟩ <;> rw [hr] at hcreator <;> cases hcreator
  simp only [fromWriteTableItem, hdata, hv, hr]

/-- `CollectionData::from_write_table_item` emits only for a `CollectionData` value: the rows of
that collection and of the creator its table resolves to. -/
theorem fromWriteTableItem_some {item : WriteTableItem} {txnVersion : Int} {ts : NaiveDateTime}
    {tableHandleToOwner : TableHandleToOwner} {conn : Conn} {n : UInt32} {d : UInt64}
    {row : CollectionData} {current : CurrentCollectionData}
    (hr : (fromWriteTableItem sdk dec item txnVersion ts tableHandleToOwner conn n d).1 =
      .ok (some (row, current))) :
    ∃ (data : WriteTableData) (collectionData : CollectionDataType) (creator : String),
      item.data = some data ∧
      TokenWriteSet.decode data.valueType data.value =
        .ok (some (.collectionData collectionData)) ∧
      (resolveCreator sdk tableHandleToOwner item.handle conn n d).1 = some creator ∧
      (row, current) = rowsOf sdk collectionData creator item.handle txnVersion ts := by
  rcases hdata : item.data with _ | data
  · simp [fromWriteTableItem, hdata, Fault.unwrapOption] at hr
  rcases hv : TokenWriteSet.decode data.valueType data.value with _ | _ | _ | _ | _ | _ <;>
    simp [fromWriteTableItem, hdata, TokenWriteSet.fromTableItemType, hv, Except.mapError] at hr
  rename_i collectionData
  rcases hc : resolveCreator sdk tableHandleToOwner item.handle conn n d with
    ⟨_ | creator, conn'⟩ <;> simp only [hc] at hr
  · cases hr
  · exact ⟨data, collectionData, creator, rfl, hv, rfl, by cases hr; rfl⟩

end Extractors

end CollectionData

end CedraIndexer

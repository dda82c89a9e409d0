import CedraIndexer.Token.WriteSet

/-!
# Token data, v1 and v2

`v2_token_datas.rs`, and the object metadata of `v2_object_utils.rs` it reads. A v2 token is an
object: its `0x4::token::Token` resource gives the row, and the object's aggregated metadata of
this batch says whether it is fungible, its property map and its name. A v1 token's data comes
from a `TokenData` table item keyed by its `TokenDataId`; its ids are `0x` and the v1 hashes.

`v2_token_utils.rs` is not part of the model: a decoded `TokenV2` is given by what its accessors
return, and the decoder is an argument.
-/

namespace CedraIndexer

/-- `TokenStandard`; the rows hold its `to_string`. -/
inductive TokenStandard where
  | V1
  | V2
  deriving DecidableEq, Repr

/-- A decoded `0x4::token::Token`, by the values of its accessors. -/
structure TokenV2 where
  nameTrunc : String
  collectionAddress : String
  uriTrunc : String
  description : String
  deriving DecidableEq, Repr

/-- `ObjectWithMetadata`: of an object, the state key hash. -/
structure ObjectWithMetadata where
  ownerAddress : String
  stateKeyHash : String
  deriving DecidableEq, Repr

/-- `ObjectAggregatedData`, by the fields the token extractors read: the object, whether it
holds fungible asset metadata, its property map, its token, and its token identifier's name. -/
structure ObjectAggregatedData where
  object : ObjectWithMetadata
  fungibleAssetMetadata : Option JsonValue
  propertyMap : Option JsonValue
  token : Option TokenV2
  tokenIdentifierNameTrunc : Option String
  deriving DecidableEq, Repr

/-- `ObjectAggregatedDataMapping`, by standardized object address. -/
abbrev ObjectAggregatedDataMapping := AHashMap String ObjectAggregatedData

/-- `ObjectWithMetadata::get_state_key_hash`. -/
def ObjectWithMetadata.getStateKeyHash (sdk : Sdk) (o : ObjectWithMetadata) : String :=
  sdk.standardizeAddress o.stateKeyHash

/-- `TokenDataV2`, the history row. -/
structure TokenDataV2 where
  transactionVersion : Int
  writeSetChangeIndex : Int
  tokenDataId : String
  collectionId : String
  tokenName : String
  maximum : Option BigDecimal
  supply : Option BigDecimal
  largestPropertyVersionV1 : Option BigDecimal
  tokenUri : String
  tokenProperties : JsonValue
  description : String
  tokenStandard : TokenStandard
  isFungibleV2 : Option Bool
  transactionTimestamp : NaiveDateTime
  decimals : Option Int
  isDeletedV2 : Option Bool
  deriving DecidableEq, Repr

/-- `CurrentTokenDataV2`. -/
structure CurrentTokenDataV2 where
  tokenDataId : String
  collectionId : String
  tokenName : String
  maximum : Option BigDecimal
  supply : Option BigDecimal
  largestPropertyVersionV1 : Option BigDecimal
  tokenUri : String
  tokenProperties : JsonValue
  description : String
  tokenStandard : TokenStandard
  isFungibleV2 : Option Bool
  lastTransactionVersion : Int
  lastTransactionTimestamp : NaiveDateTime
  decimals : Option Int
  isDeletedV2 : Option Bool
  deriving DecidableEq, Repr

/-- A v2 burn event of this batch, by its collection's address (`get_collection_address`). -/
structure Burn where
  collectionAddress : String
  deriving DecidableEq, Repr

/-- `TokenV2Burned`: the v2 burn events of this batch, by standardized token address. -/
abbrev TokenV2Burned := AHashMap String Burn

namespace TokenDataV2

section Extractors

variable (sdk : Sdk) (dec : Decoders)

/-- `TokenDataV2::get_v2_from_write_resource`; `tokenV2FromWriteResource` is
`TokenV2::from_write_resource`. A token whose object is missing from the batch is skipped. -/
def getV2FromWriteResource
    (tokenV2FromWriteResource : WriteResource → Except String (Option TokenV2))
    (writeResource : WriteResource) (txnVersion : Int) (writeSetChangeIndex : Int)
    (txnTimestamp : NaiveDateTime) (objectMetadatas : ObjectAggregatedDataMapping) :
    Except Fault (Option (TokenDataV2 × CurrentTokenDataV2)) :=
  match tokenV2FromWriteResource writeResource with
  | .error e => .error (.error e)
  | .ok none => .ok none
  | .ok (some inner) =>
    let tokenDataId := sdk.standardizeAddress writeResource.address
    match objectMetadatas.get? tokenDataId with
    | none => .ok none
    | some objectMetadata =>
      let isFungibleV2 := some objectMetadata.fungibleAssetMetadata.isSome
      let tokenProperties := objectMetadata.propertyMap.getD JsonValue.null
      let tokenName := objectMetadata.tokenIdentifierNameTrunc.getD inner.nameTrunc
      let collectionId := inner.collectionAddress
      let tokenUri := inner.uriTrunc
      .ok (some
        (⟨txnVersion, writeSetChangeIndex, tokenDataId, collectionId, tokenName, none, none, none,
            tokenUri, tokenProperties, inner.description, .V2, isFungibleV2, txnTimestamp, none,
            none⟩,
          ⟨tokenDataId, collectionId, tokenName, none, none, none, tokenUri, tokenProperties,
            inner.description, .V2, isFungibleV2, txnVersion, txnTimestamp, none, some false⟩))

/-- `TokenDataV2::get_v1_from_write_table_item`. -/
def getV1FromWriteTableItem (tableItem : WriteTableItem) (txnVersion : Int)
    (writeSetChangeIndex : Int) (txnTimestamp : NaiveDateTime) :
    Except Fault (Option (TokenDataV2 × CurrentTokenDataV2)) :=
  match tableItem.data with
  | none => Fault.unwrapOption none
  | some tableItemData =>
    match TokenWriteSet.fromTableItemType dec tableItemData.valueType tableItemData.value
        txnVersion with
    | .error e => .error (.error e)
    | .ok (some (.tokenData tokenData)) =>
      match TokenWriteSet.fromTableItemType dec tableItemData.keyType tableItemData.key
          txnVersion with
      | .error e => .error (.error e)
      | .ok (some (.tokenDataId tokenDataIdStruct)) =>
        let collectionId := tokenDataIdStruct.getCollectionId sdk
        let tokenDataId := tokenDataIdStruct.toId sdk
        let tokenName := tokenDataIdStruct.getNameTrunc
        let tokenUri := tokenData.getUriTrunc
        .ok (some
          (⟨txnVersion, writeSetChangeIndex, tokenDataId, collectionId, tokenName,
              some tokenData.maximum, some tokenData.supply, some tokenData.largestPropertyVersion,
              tokenUri, tokenData.defaultProperties, tokenData.description, .V1, none,
              txnTimestamp, none, none⟩,
            ⟨tokenDataId, collectionId, tokenName, some tokenData.maximum, some tokenData.supply,
              some tokenData.largestPropertyVersion, tokenUri, tokenData.defaultProperties,
              tokenData.description, .V1, none, txnVersion, txnTimestamp, none, none⟩))
      | .ok _ => .ok none
    | .ok _ => .ok none

/-- The body shared by `get_burned_nft_v2_from_write_resource` and
`get_burned_nft_v2_from_delete_resource`: a token of this batch's burn events gets an emptied
current row marked deleted, under its standardized address. -/
def getBurnedNftV2 (address : String) (txnVersion : Int) (txnTimestamp : NaiveDateTime)
    (tokensBurned : TokenV2Burned) : Except Fault (Option CurrentTokenDataV2) :=
  let tokenDataId := sdk.standardizeAddress address
  match tokensBurned.get? (sdk.standardizeAddress tokenDataId) with
  | some burnEventV2 =>
    .ok (some ⟨tokenDataId, burnEventV2.collectionAddress, "", none, none, none, "", .null, "",
      .V2, some false, txnVersion, txnTimestamp, none, some true⟩)
  | none => .ok none

/-- `TokenDataV2::get_burned_nft_v2_from_write_resource`: the token is burned and its
`ObjectCore` is still there. -/
def getBurnedNftV2FromWriteResource (writeResource : WriteResource) (txnVersion : Int)
    (txnTimestamp : NaiveDateTime) (tokensBurned : TokenV2Burned) :
    Except Fault (Option CurrentTokenDataV2) :=
  getBurnedNftV2 sdk writeResource.address txnVersion txnTimestamp tokensBurned

/-- `TokenDataV2::get_burned_nft_v2_from_delete_resource`: the token is burned and its
`ObjectCore` is deleted. -/
def getBurnedNftV2FromDeleteResource (deleteResource : DeleteResource) (txnVersion : Int)
    (txnTimestamp : NaiveDateTime) (tokensBurned : TokenV2Burned) :
    Except Fault (Option CurrentTokenDataV2) :=
  getBurnedNftV2 sdk deleteResource.address txnVersion txnTimestamp tokensBurned

/-- `get_v2_from_write_resource` emits only for a token whose object the batch has: both rows
of that token, the current one marked not deleted. -/
theorem getV2FromWriteResource_some {tokenV2FromWriteResource : WriteResource → Except String
    (Option TokenV2)} {writeResource : WriteResource} {txnVersion i : Int} {ts : NaiveDateTime}
    {objectMetadatas : ObjectAggregatedDataMapping} {h : TokenDataV2} {c : CurrentTokenDataV2}
    (hr : getV2FromWriteResource sdk tokenV2FromWriteResource writeResource txnVersion i ts
      objectMetadatas = .ok (some (h, c))) :
    ∃ (inner : TokenV2) (objectMetadata : ObjectAggregatedData),
      tokenV2FromWriteResource writeResource = .ok (some inner) ∧
      objectMetadatas.get? (sdk.standardizeAddress writeResource.address) = some objectMetadata ∧
      h = ⟨txnVersion, i, sdk.standardizeAddress writeResource.address, inner.collectionAddress,
        objectMetadata.tokenIdentifierNameTrunc.getD inner.nameTrunc, none, none, none,
        inner.uriTrunc, objectMetadata.propertyMap.getD JsonValue.null, inner.description, .V2,
        some objectMetadata.fungibleAssetMetadata.isSome, ts, none, none⟩ ∧
      c = ⟨sdk.standardizeAddress writeResource.address, inner.collectionAddress,
        objectMetadata.tokenIdentifierNameTrunc.getD inner.nameTrunc, none, none, none,
        inner.uriTrunc, objectMetadata.propertyMap.getD JsonValue.null, inner.description, .V2,
        some objectMetadata.fungibleAssetMetadata.isSome, txnVersion, ts, none, some false⟩ := by
  unfold getV2FromWriteResource at hr
  rcases hv : tokenV2FromWriteResource writeResource with _ | _ | inner <;> simp only [hv] at hr
  · cases hr
  · cases hr
  rcases ho : objectMetadatas.get? (sdk.standardizeAddress writeResource.address) with
    _ | objectMetadata <;> simp only [ho, Except.ok.injEq, Option.some.injEq, Prod.mk.injEq] at hr
  · cases hr
  · exact ⟨inner, objectMetadata, rfl, rfl, hr.1.symm, hr.2.symm⟩

/-- `get_v1_from_write_table_item` emits for every `TokenData` under a `TokenDataId` key. -/
theorem getV1FromWriteTableItem_of_tokenData {item : WriteTableItem} {data : WriteTableData}
    {tokenData : TokenDataType} {tokenDataIdStruct : TokenDataIdType}
    (hdata : item.data = some data)
    (hvalue : TokenWriteSet.decode data.valueType data.value = .ok (some (.tokenData tokenData)))
    (hkey : TokenWriteSet.decode data.keyType data.key =
      .ok (some (.tokenDataId tokenDataIdStruct)))
    (txnVersion i : Int) (ts : NaiveDateTime) :
    ∃ h c, getV1FromWriteTableItem sdk dec item txnVersion i ts = .ok (some (h, c)) := by
  have hv := (TokenWriteSet.fromTableItemType_eq_ok dec _ _ txnVersion _).2 hvalue
  have hk := (TokenWriteSet.fromTableItemType_eq_ok dec _ _ txnVersion _).2 hkey
  simp only [getV1FromWriteTableItem, hdata, hv, hk]
  exact ⟨_, _, rfl⟩

/-- `get_v1_from_write_table_item` emits only for a `TokenData` under a `TokenDataId` key: both
rows of that token data, with the ids of that key. -/
theorem getV1FromWriteTableItem_some {item : WriteTableItem} {txnVersion i : Int}
    {ts : NaiveDateTime} {h : TokenDataV2} {c : CurrentTokenDataV2}
    (hr : getV1FromWriteTableItem sdk dec item txnVersion i ts = .ok (some (h, c))) :
    ∃ (data : WriteTableData) (tokenDataIdStruct : TokenDataIdType) (tokenData : TokenDataType),
      item.data = some data ∧
      TokenWriteSet.decode data.keyType data.key = .ok (some (.tokenDataId tokenDataIdStruct)) ∧
      h = ⟨txnVersion, i, tokenDataIdStruct.toId sdk, tokenDataIdStruct.getCollectionId sdk,
        tokenDataIdStruct.getNameTrunc, some tokenData.maximum, some tokenData.supply,
        some tokenData.largestPropertyVersion, tokenData.getUriTrunc, tokenData.defaultProperties,
        tokenData.description, .V1, none, ts, none, none⟩ ∧
      c = ⟨tokenDataIdStruct.toId sdk, tokenDataIdStruct.getCollectionId sdk,
        tokenDataIdStruct.getNameTrunc, some tokenData.maximum, some tokenData.supply,
        some tokenData.largestPropertyVersion, tokenData.getUriTrunc, tokenData.defaultProperties,
        tokenData.description, .V1, none, txnVersion, ts, none, none⟩ := by
  rcases hdata : item.data with _ | data
  · simp [getV1FromWriteTableItem, hdata, Fault.unwrapOption] at hr
  rcases hv : TokenWriteSet.decode data.valueType data.value with _ | _ | _ | _ | tokenData <;>
    simp [getV1FromWriteTableItem, hdata, TokenWriteSet.fromTableItemType, hv,
      Except.mapError] at hr
  rcases hk : TokenWriteSet.decode data.keyType data.key with _ | _ | tokenDataIdStruct | _ <;>
    simp [hk, Except.mapError] at hr
  obtain ⟨rfl, rfl⟩ := hr
  exact ⟨data, tokenDataIdStruct, tokenData, rfl, hk, rfl, rfl⟩

end Extractors

end TokenDataV2

end CedraIndexer

import CedraIndexer.Token.WriteSet

/-!
# Pending token claims

`token_claims.rs`. An offer sits in the offerer's `PendingClaims` table, keyed by the offer id
(token id and receiver), its value the offered token. The offerer is the table's owner in this
batch's `table_handle_to_owner`; a deleted offer falls back to the claim events of the batch, and
panics when neither knows the owner. A deleted offer is kept as an amount of zero.

The hand-written orderings compare the primary key only: token data id hash, property version,
sender and receiver.
-/

namespace CedraIndexer

/-- `CurrentTokenPendingClaim`. -/
structure CurrentTokenPendingClaim where
  tokenDataIdHash : String
  propertyVersion : BigDecimal
  fromAddress : String
  toAddress : String
  collectionDataIdHash : String
  creatorAddress : String
  collectionName : String
  name : String
  amount : BigDecimal
  tableHandle : String
  lastTransactionVersion : Int
  lastTransactionTimestamp : NaiveDateTime
  tokenDataId : String
  collectionId : String
  deriving DecidableEq, Repr

/-- `PostgresCurrentTokenPendingClaim`, the same columns as written to Postgres. -/
structure PostgresCurrentTokenPendingClaim where
  tokenDataIdHash : String
  propertyVersion : BigDecimal
  fromAddress : String
  toAddress : String
  collectionDataIdHash : String
  creatorAddress : String
  collectionName : String
  name : String
  amount : BigDecimal
  tableHandle : String
  lastTransactionVersion : Int
  lastTransactionTimestamp : NaiveDateTime
  tokenDataId : String
  collectionId : String
  deriving DecidableEq, Repr

/-- `TokenActivityHelperV1`: of a claim event, who made the offer. -/
structure TokenActivityHelperV1 where
  fromAddress : Option String
  deriving DecidableEq, Repr

/-- `TokenV1Claimed`: claim events of the batch, by token data id. -/
abbrev TokenV1Claimed := AHashMap String TokenActivityHelperV1

/-- `impl Ord for CurrentTokenPendingClaim`. -/
def CurrentTokenPendingClaim.cmp (a b : CurrentTokenPendingClaim) : Ordering :=
  (((compare a.tokenDataIdHash b.tokenDataIdHash).then
    (compare a.propertyVersion b.propertyVersion)).then
    (compare a.fromAddress b.fromAddress)).then (compare a.toAddress b.toAddress)

/-- `impl Ord for PostgresCurrentTokenPendingClaim`. -/
def PostgresCurrentTokenPendingClaim.cmp (a b : PostgresCurrentTokenPendingClaim) : Ordering :=
  (((compare a.tokenDataIdHash b.tokenDataIdHash).then
    (compare a.propertyVersion b.propertyVersion)).then
    (compare a.fromAddress b.fromAddress)).then (compare a.toAddress b.toAddress)

/-- The `Debug` texts the panic of `from_delete_table_item` prints: the batch's table owners and
its claim events. An `AHashMap` prints its entries in the order of its randomly seeded hasher, so
the texts are arguments. -/
structure ClaimDebug where
  /-- `{table_handle_to_owner:?}`. -/
  tableHandleToOwner : TableHandleToOwner → String
  /-- `{tokens_claimed:?}`. -/
  tokensClaimed : TokenV1Claimed → String

/-- Printers for running the model on examples: the entries in insertion order. -/
def ClaimDebug.direct : ClaimDebug :=
  ⟨fun m => reprStr m.entries, fun m => reprStr m.entries⟩

/-- The primary key of `current_token_pending_claims`. -/
def CurrentTokenPendingClaim.pk (c : CurrentTokenPendingClaim) :
    String × BigDecimal × String × String :=
  (c.tokenDataIdHash, c.propertyVersion, c.fromAddress, c.toAddress)

namespace CurrentTokenPendingClaim

section Extractors

variable (sdk : Sdk) (dec : Decoders)

/-- The row of an offer, once its sender is known. -/
def ofOffer (offer : TokenOfferIdType) (fromAddress : String) (amount : BigDecimal)
    (tableHandle : String) (txnVersion : Int) (txnTimestamp : NaiveDateTime) :
    CurrentTokenPendingClaim :=
  let tokenDataIdStruct := offer.tokenId.tokenDataId
  { tokenDataIdHash := tokenDataIdStruct.toHash sdk
    propertyVersion := offer.tokenId.propertyVersion
    fromAddress := fromAddress
    toAddress := offer.getToAddress sdk
    collectionDataIdHash := tokenDataIdStruct.getCollectionDataIdHash sdk
    creatorAddress := tokenDataIdStruct.getCreatorAddress sdk
    collectionName := tokenDataIdStruct.getCollectionTrunc
    name := tokenDataIdStruct.getNameTrunc
    amount := amount
    tableHandle := tableHandle
    lastTransactionVersion := txnVersion
    lastTransactionTimestamp := txnTimestamp
    tokenDataId := tokenDataIdStruct.toId sdk
    collectionId := tokenDataIdStruct.getCollectionId sdk }

/-- `CurrentTokenPendingClaim::from_write_table_item`. -/
def fromWriteTableItem (tableItem : WriteTableItem) (txnVersion : Int)
    (txnTimestamp : NaiveDateTime) (tableHandleToOwner : TableHandleToOwner) :
    Except Fault (Option CurrentTokenPendingClaim) :=
  match tableItem.data with
  | none => Fault.unwrapOption none
  | some tableItemData =>
    match TokenWriteSet.fromTableItemType dec tableItemData.keyType tableItemData.key
        txnVersion with
    | .error e => .error (.error e)
    | .ok (some (.tokenOfferId offer)) =>
      match TokenWriteSet.fromTableItemType dec tableItemData.valueType tableItemData.value
          txnVersion with
      | .error e => .error (.error e)
      | .ok (some (.token token)) =>
        let tableHandle := sdk.standardizeAddress tableItem.handle
        match tableHandleToOwner.get? tableHandle with
        | some tableMetadata =>
          .ok (some (ofOffer sdk offer (tableMetadata.getOwnerAddress sdk) token.amount
            tableHandle txnVersion txnTimestamp))
        | none => .ok none
      | .ok _ => .ok none
    | .ok _ => .ok none

/-- The panic of `from_delete_table_item` when neither the batch's owners nor its claim events
know who made the offer. -/
def missingClaimOwnerPanic (debug : ClaimDebug) (txnVersion : Int) (tableHandle : String)
    (tableHandleToOwner : TableHandleToOwner) (tokenDataId : String)
    (tokensClaimed : TokenV1Claimed) : String :=
  "Missing table handle metadata for claim. Version: " ++ toString txnVersion ++
    ", table handle for PendingClaims: " ++ tableHandle ++ ", all metadata: " ++
    debug.tableHandleToOwner tableHandleToOwner ++
    " Missing token data id in token claim event. token_data_id: " ++ tokenDataId ++
    ", all token claim events: " ++ debug.tokensClaimed tokensClaimed

/-- `CurrentTokenPendingClaim::from_delete_table_item`. -/
def fromDeleteTableItem (debug : ClaimDebug) (tableItem : DeleteTableItem) (txnVersion : Int)
    (txnTimestamp : NaiveDateTime) (tableHandleToOwner : TableHandleToOwner)
    (tokensClaimed : TokenV1Claimed) : Except Fault (Option CurrentTokenPendingClaim) :=
  match tableItem.data with
  | none => Fault.unwrapOption none
  | some tableItemData =>
    match TokenWriteSet.fromTableItemType dec tableItemData.keyType tableItemData.key
        txnVersion with
    | .error e => .error (.error e)
    | .ok (some (.tokenOfferId offer)) =>
      let tableHandle := sdk.standardizeAddress tableItem.handle
      let tokenDataId := offer.tokenId.tokenDataId.toId sdk
      let maybeOwnerAddress := (tableHandleToOwner.get? tableHandle).map
        (TableMetadataForToken.getOwnerAddress sdk)
      let maybeOwnerAddress := match maybeOwnerAddress with
        | none => (tokensClaimed.get? tokenDataId).bind (·.fromAddress)
        | some ownerAddress => some ownerAddress
      match maybeOwnerAddress with
      | none => .error (.panic (missingClaimOwnerPanic debug txnVersion tableHandle
          tableHandleToOwner tokenDataId tokensClaimed))
      | some ownerAddress =>
        .ok (some (ofOffer sdk offer ownerAddress 0 tableHandle txnVersion txnTimestamp))
    | .ok _ => .ok none

/-- `from_write_table_item` emits only for a `TokenOfferId` key holding a `Token` in a table whose
owner the batch knows: the row of that offer, sent by the owner, for the token's amount. -/
theorem fromWriteTableItem_some {item : WriteTableItem} {txnVersion : Int} {ts : NaiveDateTime}
    {tableHandleToOwner : TableHandleToOwner} {c : CurrentTokenPendingClaim}
    (hr : fromWriteTableItem sdk dec item txnVersion ts tableHandleToOwner = .ok (some c)) :
    ∃ (data : WriteTableData) (offer : TokenOfferIdType) (token : TokenType)
      (tableMetadata : TableMetadataForToken), item.data = some data ∧
      TokenWriteSet.decode data.keyType data.key = .ok (some (.tokenOfferId offer)) ∧
      tableHandleToOwner.get? (sdk.standardizeAddress item.handle) = some tableMetadata ∧
      c = ofOffer sdk offer (tableMetadata.getOwnerAddress sdk) token.amount
        (sdk.standardizeAddress item.handle) txnVersion ts := by
  rcases hdata : item.data with _ | data
  · simp [fromWriteTableItem, hdata, Fault.unwrapOption] at hr
  rcases hk : TokenWriteSet.decode data.keyType data.key with _ | _ | _ | _ | _ | _ | _ | offer <;>
    simp [fromWriteTableItem, hdata, TokenWriteSet.fromTableItemType, hk, Except.mapError] at hr
  rcases hv : TokenWriteSet.decode data.valueType data.value with _ | _ | _ | _ | _ | token <;>
    simp [hv, Except.mapError] at hr
  rcases htm : tableHandleToOwner.get? (sdk.standardizeAddress item.handle) with
    _ | tableMetadata <;> simp only [htm, Except.ok.injEq, Option.some.injEq] at hr
  · cases hr
  · exact ⟨data, offer, token, tableMetadata, rfl, hk, rfl, hr.symm⟩

/-- `from_write_table_item` emits for every offer of a token in a table whose owner the batch
knows: the row of that offer, sent by the owner, for the token's amount. -/
theorem fromWriteTableItem_of_owner {item : WriteTableItem} {data : WriteTableData}
    {offer : TokenOfferIdType} {token : TokenType} {tableHandleToOwner : TableHandleToOwner}
    {tableMetadata : TableMetadataForToken} (hdata : item.data = some data)
    (hoffer : TokenWriteSet.decode data.keyType data.key = .ok (some (.tokenOfferId offer)))
    (hvalue : TokenWriteSet.decode data.valueType data.value = .ok (some (.token token)))
    (htm : tableHandleToOwner.get? (sdk.standardizeAddress item.handle) = some tableMetadata)
    (txnVersion : Int) (ts : NaiveDateTime) :
    fromWriteTableItem sdk dec item txnVersion ts tableHandleToOwner =
      .ok (some (ofOffer sdk offer (tableMetadata.getOwnerAddress sdk) token.amount
        (sdk.standardizeAddress item.handle) txnVersion ts)) := by
  have hkey :=
    (TokenWriteSet.fromTableItemType_eq_ok dec data.keyType data.key txnVersion _).2 hoffer
  have hv :=
    (TokenWriteSet.fromTableItemType_eq_ok dec data.valueType data.value txnVersion _).2 hvalue
  simp only [fromWriteTableItem, hdata, hkey, hv, htm]

/-- `from_delete_table_item` on an offer in a table whose owner the batch knows: the row of that
offer, sent by the owner, for amount zero. -/
theorem fromDeleteTableItem_of_owner {item : DeleteTableItem} {data : DeleteTableData}
    {offer : TokenOfferIdType} {tableHandleToOwner : TableHandleToOwner}
    {tableMetadata : TableMetadataForToken} (hdata : item.data = some data)
    (hoffer : TokenWriteSet.decode data.keyType data.key = .ok (some (.tokenOfferId offer)))
    (htm : tableHandleToOwner.get? (sdk.standardizeAddress item.handle) = some tableMetadata)
    (debug : ClaimDebug) (txnVersion : Int) (ts : NaiveDateTime) (tokensClaimed : TokenV1Claimed) :
    fromDeleteTableItem sdk dec debug item txnVersion ts tableHandleToOwner tokensClaimed =
      .ok (some (ofOffer sdk offer (tableMetadata.getOwnerAddress sdk) 0
        (sdk.standardizeAddress item.handle) txnVersion ts)) := by
  have hkey :=
    (TokenWriteSet.fromTableItemType_eq_ok dec data.keyType data.key txnVersion _).2 hoffer
  simp only [fromDeleteTableItem, hdata, hkey, htm, Option.map_some']

/-- `from_delete_table_item` on every offer: the row of that offer, for amount zero, sent by
whoever the batch says owns the table or made the claimed offer, and where neither knows, the
panic naming the table, the token data id and both mappings. -/
theorem fromDeleteTableItem_of_offer {item : DeleteTableItem} {data : DeleteTableData}
    {offer : TokenOfferIdType} (hdata : item.data = some data)
    (hoffer : TokenWriteSet.decode data.keyType data.key = .ok (some (.tokenOfferId offer)))
    (debug : ClaimDebug) (txnVersion : Int) (ts : NaiveDateTime)
    (tableHandleToOwner : TableHandleToOwner) (tokensClaimed : TokenV1Claimed) :
    (∃ ownerAddress, fromDeleteTableItem sdk dec debug item txnVersion ts tableHandleToOwner
        tokensClaimed = .ok (some (ofOffer sdk offer ownerAddress 0
          (sdk.standardizeAddress item.handle) txnVersion ts))) ∨
      fromDeleteTableItem sdk dec debug item txnVersion ts tableHandleToOwner tokensClaimed =
        .error (.panic (missingClaimOwnerPanic debug txnVersion (sdk.standardizeAddress item.handle)
          tableHandleToOwner (offer.tokenId.tokenDataId.toId sdk) tokensClaimed)) := by
  have hkey :=
    (TokenWriteSet.fromTableItemType_eq_ok dec data.keyType data.key txnVersion _).2 hoffer
  simp only [fromDeleteTableItem, hdata, hkey]
  split
  · exact .inr rfl
  · exact .inl ⟨_, rfl⟩

/-- `from_delete_table_item` emits only for a `TokenOfferId` key: the row of that offer, for
amount zero, sent by whoever the batch says owns the table or made the claimed offer. -/
theorem fromDeleteTableItem_some {item : DeleteTableItem} {txnVersion : Int} {ts : NaiveDateTime}
    {debug : ClaimDebug} {tableHandleToOwner : TableHandleToOwner} {tokensClaimed : TokenV1Claimed}
    {c : CurrentTokenPendingClaim}
    (hr : fromDeleteTableItem sdk dec debug item txnVersion ts tableHandleToOwner tokensClaimed =
      .ok (some c)) :
    ∃ (data : DeleteTableData) (offer : TokenOfferIdType) (ownerAddress : String),
      item.data = some data ∧
      TokenWriteSet.decode data.keyType data.key = .ok (some (.tokenOfferId offer)) ∧
      c = ofOffer sdk offer ownerAddress 0 (sdk.standardizeAddress item.handle) txnVersion ts := by
  rcases hdata : item.data with _ | data
  · simp [fromDeleteTableItem, hdata, Fault.unwrapOption] at hr
  rcases hk : TokenWriteSet.decode data.keyType data.key with _ | _ | _ | _ | _ | _ | _ | offer <;>
    simp [fromDeleteTableItem, hdata, TokenWriteSet.fromTableItemType, hk, Except.mapError] at hr
  split at hr
  · cases hr
  · rename_i ownerAddress _
    exact ⟨data, offer, ownerAddress, rfl, hk, (Option.some.inj (Except.ok.inj hr)).symm⟩

end Extractors

end CurrentTokenPendingClaim

end CedraIndexer

import CedraIndexer.Token.WriteSet

/-!
# Token v1 royalties

`token_royalty.rs`. A `TokenData` table item keyed by its `TokenDataId` carries the token's
royalty; the current row is keyed by the token data id, `0x` and the token's hash. The orderings
compare that key only.
-/

namespace CedraIndexer

/-- `CurrentTokenRoyaltyV1`. -/
structure CurrentTokenRoyaltyV1 where
  tokenDataId : String
  payeeAddress : String
  royaltyPointsNumerator : BigDecimal
  royaltyPointsDenominator : BigDecimal
  lastTransactionVersion : Int
  lastTransactionTimestamp : NaiveDateTime
  deriving DecidableEq, Repr

/-- `PostgresCurrentTokenRoyaltyV1`, the same columns as written to Postgres. -/
structure PostgresCurrentTokenRoyaltyV1 where
  tokenDataId : String
  payeeAddress : String
  royaltyPointsNumerator : BigDecimal
  royaltyPointsDenominator : BigDecimal
  lastTransactionVersion : Int
  lastTransactionTimestamp : NaiveDateTime
  deriving DecidableEq, Repr

/-- `impl Ord for CurrentTokenRoyaltyV1`. -/
def CurrentTokenRoyaltyV1.cmp (a b : CurrentTokenRoyaltyV1) : Ordering :=
  compare a.tokenDataId b.tokenDataId

/-- `impl Ord for PostgresCurrentTokenRoyaltyV1`. -/
def PostgresCurrentTokenRoyaltyV1.cmp (a b : PostgresCurrentTokenRoyaltyV1) : Ordering :=
  compare a.tokenDataId b.tokenDataId

/-- `CurrentTokenRoyaltyV1::get_v1_from_write_table_item`. -/
def CurrentTokenRoyaltyV1.getV1FromWriteTableItem (sdk : Sdk) (dec : Decoders)
    (writeTableItem : WriteTableItem) (transactionVersion : Int)
    (transactionTimestamp : NaiveDateTime) :
    Except Fault (Option CurrentTokenRoyaltyV1) :=
  match writeTableItem.data with
  | none => Fault.unwrapOption none
  | some tableItemData =>
    match TokenWriteSet.fromTableItemType dec tableItemData.valueType tableItemData.value
        transactionVersion with
    | .error e => .error (.error e)
    | .ok (some (.tokenData tokenData)) =>
      match TokenWriteSet.fromTableItemType dec tableItemData.keyType tableItemData.key
          transactionVersion with
      | .error e => .error (.error e)
      | .ok (some (.tokenDataId tokenDataIdStruct)) =>
        .ok (some
          { tokenDataId := tokenDataIdStruct.toId sdk
            payeeAddress := tokenData.royalty.getPayeeAddress sdk
            royaltyPointsNumerator := tokenData.royalty.royaltyPointsNumerator
            royaltyPointsDenominator := tokenData.royalty.royaltyPointsDenominator
            lastTransactionVersion := transactionVersion
            lastTransactionTimestamp := transactionTimestamp })
      | .ok _ => .ok none
    | .ok _ => .ok none

/-- `get_v1_from_write_table_item` emits only for a `TokenData` under a `TokenDataId` key: the
royalty of the token data of that id. -/
theorem CurrentTokenRoyaltyV1.getV1FromWriteTableItem_some {sdk : Sdk} {dec : Decoders}
    {item : WriteTableItem}
    {txnVersion : Int} {ts : NaiveDateTime} {r : CurrentTokenRoyaltyV1}
    (hr : getV1FromWriteTableItem sdk dec item txnVersion ts = .ok (some r)) :
    ∃ (data : WriteTableData) (tokenDataIdStruct : TokenDataIdType), item.data = some data ∧
      TokenWriteSet.decode data.keyType data.key = .ok (some (.tokenDataId tokenDataIdStruct)) ∧
      r.tokenDataId = tokenDataIdStruct.toId sdk := by
  rcases hdata : item.data with _ | data
  · simp [getV1FromWriteTableItem, hdata, Fault.unwrapOption] at hr
  rcases hv : TokenWriteSet.decode data.valueType data.value with _ | _ | _ | _ | tokenData <;>
    simp [getV1FromWriteTableItem, hdata, TokenWriteSet.fromTableItemType, hv,
      Except.mapError] at hr
  rcases hk : TokenWriteSet.decode data.keyType data.key with _ | _ | tokenDataIdStruct | _ <;>
    simp [hk, Except.mapError] at hr
  exact ⟨data, tokenDataIdStruct, rfl, hk, by rw [← hr]⟩

/-- `get_v1_from_write_table_item` emits for every `TokenData` under a `TokenDataId` key: the
royalty of that token data, under that id. -/
theorem CurrentTokenRoyaltyV1.getV1FromWriteTableItem_of_tokenData {sdk : Sdk} {dec : Decoders}
    {item : WriteTableItem} {data : WriteTableData} {tokenData : TokenDataType}
    {tokenDataIdStruct : TokenDataIdType} (hdata : item.data = some data)
    (hvalue : TokenWriteSet.decode data.valueType data.value = .ok (some (.tokenData tokenData)))
    (hkey : TokenWriteSet.decode data.keyType data.key =
      .ok (some (.tokenDataId tokenDataIdStruct)))
    (txnVersion : Int) (ts : NaiveDateTime) :
    ∃ r, getV1FromWriteTableItem sdk dec item txnVersion ts = .ok (some r) ∧
      r.tokenDataId = tokenDataIdStruct.toId sdk := by
  have hv := (TokenWriteSet.fromTableItemType_eq_ok dec _ _ txnVersion _).2 hvalue
  have hk := (TokenWriteSet.fromTableItemType_eq_ok dec _ _ txnVersion _).2 hkey
  simp only [getV1FromWriteTableItem, hdata, hv, hk]
  exact ⟨_, rfl, rfl⟩

end CedraIndexer

import CedraIndexer.Coin.CoinUtils

/-!
# Coin infos and coin balances

`coin_infos.rs` and `coin_balances.rs`. A `CoinInfo<T>` resource gives the coin's `coin_infos`
row; a `CoinStore<T>` resource at an account gives that account's balance of `T`, as a history
row, a current row keyed by owner and coin type, and the mapping from the store's two event
handles to the coin type. Both read `T` through `CoinInfoType::from_move_type`, so the three
tables join on `hash_str(T)`.
-/

namespace CedraIndexer

/-- `CoinInfo`. -/
structure CoinInfo where
  coinTypeHash : String
  coinType : String
  transactionVersionCreated : Int
  creatorAddress : String
  name : String
  symbol : String
  decimals : Int
  transactionCreatedTimestamp : NaiveDateTime
  supplyAggregatorTableHandle : Option String
  supplyAggregatorTableKey : Option String
  deriving DecidableEq, Repr

/-- `CoinBalance`. -/
structure CoinBalance where
  transactionVersion : Int
  ownerAddress : String
  coinTypeHash : String
  coinType : String
  amount : BigDecimal
  transactionTimestamp : NaiveDateTime
  deriving DecidableEq, Repr

/-- `CurrentCoinBalance`. -/
structure CurrentCoinBalance where
  ownerAddress : String
  coinTypeHash : String
  coinType : String
  amount : BigDecimal
  lastTransactionVersion : Int
  lastTransactionTimestamp : NaiveDateTime
  deriving DecidableEq, Repr

/-- The primary key of `current_coin_balances`: owner, then coin type. -/
def CurrentCoinBalance.pk (c : CurrentCoinBalance) : String × String :=
  (c.ownerAddress, c.coinType)

section Extractors

variable (sdk : Sdk) (dec : Decoders) (addrs : FrameworkAddresses)

/-- `CoinInfo::from_write_resource`. -/
def CoinInfo.fromWriteResource (writeResource : WriteResource) (txnVersion : Int)
    (txnTimestamp : NaiveDateTime) : Except Fault (Option CoinInfo) := do
  match ← CoinResource.fromWriteResource dec addrs writeResource txnVersion with
  | some (.coinInfoResource inner) =>
    let coinInfoType ← CoinInfoType.fromMoveType (← writeResource.firstTypeParam)
      writeResource.typeStr
    let agg := inner.getAggregatorMetadata
    return some
      { coinTypeHash := coinInfoType.toHash sdk
        coinType := coinInfoType.getCoinTypeTrunc
        transactionVersionCreated := txnVersion
        creatorAddress := coinInfoType.getCreatorAddress sdk
        name := inner.getNameTrunc
        symbol := inner.getSymbolTrunc
        decimals := inner.decimals
        transactionCreatedTimestamp := txnTimestamp
        supplyAggregatorTableHandle := agg.map (·.handle)
        supplyAggregatorTableKey := agg.map (·.key) }
  | _ => return none

/-- The history and current balance rows of one coin store. -/
def CoinBalance.rowsOf (coinInfoType : CoinInfoType) (ownerAddress : String)
    (inner : CoinStoreResource) (txnVersion : Int) (txnTimestamp : NaiveDateTime) :
    CoinBalance × CurrentCoinBalance :=
  (⟨txnVersion, ownerAddress, coinInfoType.toHash sdk, coinInfoType.getCoinTypeTrunc,
      inner.coinValue, txnTimestamp⟩,
    ⟨ownerAddress, coinInfoType.toHash sdk, coinInfoType.getCoinTypeTrunc, inner.coinValue,
      txnVersion, txnTimestamp⟩)

/-- `CoinBalance::from_write_resource`. -/
def CoinBalance.fromWriteResource (writeResource : WriteResource) (txnVersion : Int)
    (txnTimestamp : NaiveDateTime) :
    Except Fault (Option (CoinBalance × CurrentCoinBalance × EventToCoinType)) := do
  match ← CoinResource.fromWriteResource dec addrs writeResource txnVersion with
  | some (.coinStoreResource inner) =>
    let coinInfoType ← CoinInfoType.fromMoveType (← writeResource.firstTypeParam)
      writeResource.typeStr
    let ownerAddress := sdk.standardizeAddress writeResource.address
    let (coinBalance, currentCoinBalance) :=
      CoinBalance.rowsOf sdk coinInfoType ownerAddress inner txnVersion txnTimestamp
    let eventToCoinMapping : EventToCoinType :=
      ((AHashMap.empty.insert (inner.withdrawEvents.getStandardized sdk)
          coinBalance.coinType).insert
        (inner.depositEvents.getStandardized sdk) coinBalance.coinType)
    return some (coinBalance, currentCoinBalance, eventToCoinMapping)
  | _ => return none

/-- `CoinBalance::from_write_resource` emits only for a coin store whose coin type reads: the
rows of that store, owned by its standardized address. -/
theorem CoinBalance.fromWriteResource_some {writeResource : WriteResource} {txnVersion : Int}
    {ts : NaiveDateTime} {b : CoinBalance} {c : CurrentCoinBalance} {e : EventToCoinType}
    (hr : CoinBalance.fromWriteResource sdk dec addrs writeResource txnVersion ts =
      .ok (some (b, c, e))) :
    ∃ inner moveType coinInfoType,
      CoinResource.fromWriteResource dec addrs writeResource txnVersion =
        .ok (some (.coinStoreResource inner)) ∧
      writeResource.firstTypeParam = .ok moveType ∧
      CoinInfoType.fromMoveType moveType writeResource.typeStr = .ok coinInfoType ∧
      (b, c) = CoinBalance.rowsOf sdk coinInfoType (sdk.standardizeAddress writeResource.address)
        inner txnVersion ts := by
  rcases hres : CoinResource.fromWriteResource dec addrs writeResource txnVersion with
    _ | _ | (_ | inner) <;> simp [CoinBalance.fromWriteResource, hres] at hr
  rcases hty : writeResource.firstTypeParam with _ | moveType <;> simp [hty] at hr
  rcases hcit : CoinInfoType.fromMoveType moveType writeResource.typeStr with _ | coinInfoType <;>
    simp [hcit] at hr
  exact ⟨inner, moveType, coinInfoType, rfl, rfl, hcit, by rw [← hr.1, ← hr.2.1]⟩

/-- Coin type extraction: a `CoinInfo<T>` and a `CoinStore<T>` resource whose type strings are
`P<T>`, read as their coin resource with a struct tag as first generic parameter, give a coin info
and both balance rows with the hash of `T` and `T` cut to `COIN_TYPE_HASH_LENGTH`. -/
theorem coin_type_hash_of_generic (info store : WriteResource) (txnVersion : Int)
    (txnTimestamp : NaiveDateTime) (P₁ P₂ T : String) (hP₁ : '<' ∉ P₁.toList)
    (hP₂ : '<' ∉ P₂.toList) (hT : '\n' ∉ T.toList)
    (hinfo : info.typeStr = P₁ ++ "<" ++ T ++ ">") (hstore : store.typeStr = P₂ ++ "<" ++ T ++ ">")
    (infoInner : CoinInfoResource) (storeInner : CoinStoreResource)
    (hres₁ : CoinResource.fromWriteResource dec addrs info txnVersion =
      .ok (some (.coinInfoResource infoInner)))
    (hres₂ : CoinResource.fromWriteResource dec addrs store txnVersion =
      .ok (some (.coinStoreResource storeInner)))
    (a₁ m₁ n₁ a₂ m₂ n₂ : String)
    (hty₁ : info.firstTypeParam = .ok ⟨some (.struct a₁ m₁ n₁)⟩)
    (hty₂ : store.firstTypeParam = .ok ⟨some (.struct a₂ m₂ n₂)⟩) :
    CoinInfoType.fromMoveType ⟨some (.struct a₁ m₁ n₁)⟩ info.typeStr = .ok ⟨T, a₁⟩ ∧
    CoinInfoType.fromMoveType ⟨some (.struct a₂ m₂ n₂)⟩ store.typeStr = .ok ⟨T, a₂⟩ ∧
    ∃ coinInfo coinBalance currentCoinBalance eventToCoin,
      CoinInfo.fromWriteResource sdk dec addrs info txnVersion txnTimestamp =
        .ok (some coinInfo) ∧
      CoinBalance.fromWriteResource sdk dec addrs store txnVersion txnTimestamp =
        .ok (some (coinBalance, currentCoinBalance, eventToCoin)) ∧
      coinInfo.coinTypeHash = sdk.hashStr T ∧ coinBalance.coinTypeHash = sdk.hashStr T ∧
      currentCoinBalance.coinTypeHash = sdk.hashStr T ∧
      coinInfo.coinType = truncateStr T COIN_TYPE_HASH_LENGTH ∧
      coinBalance.coinType = truncateStr T COIN_TYPE_HASH_LENGTH ∧
      currentCoinBalance.coinType = truncateStr T COIN_TYPE_HASH_LENGTH := by
  have h₁ : CoinInfoType.fromMoveType ⟨some (.struct a₁ m₁ n₁)⟩ info.typeStr = .ok ⟨T, a₁⟩ :=
    hinfo ▸ CoinInfoType.fromMoveType_generic a₁ m₁ n₁ P₁ T hP₁ hT
  have h₂ : CoinInfoType.fromMoveType ⟨some (.struct a₂ m₂ n₂)⟩ store.typeStr = .ok ⟨T, a₂⟩ :=
    hstore ▸ CoinInfoType.fromMoveType_generic a₂ m₂ n₂ P₂ T hP₂ hT
  refine ⟨h₁, h₂, ?_⟩
  simp [CoinInfo.fromWriteResource, CoinBalance.fromWriteResource, CoinBalance.rowsOf,
    CoinInfoType.toHash, CoinInfoType.getCoinTypeTrunc, hres₁, hres₂, hty₁, hty₂, h₁, h₂]
  exact ⟨_, _, ⟨rfl, rfl⟩, rfl, rfl, rfl, rfl⟩

end Extractors

/-- The coin `0xA::m::W<0xB::n::X, 0xC::p::Y>`, nested generics included, read from its
`CoinInfo` and `CoinStore` resources. -/
theorem coin_type_hash_of_generic_nested :
    let T := "0xA::m::W<0xB::n::X, 0xC::p::Y>"
    let coinInfo : CoinInfoResource := ⟨"W", "W", 8, []⟩
    let coinStore : CoinStoreResource := ⟨100, ⟨"0x7", 2⟩, ⟨"0x7", 3⟩, false⟩
    let tag (name : String) : MoveStructTag :=
      ⟨"0x1", "coin", name, [⟨some (.struct "0xA" "m" "W")⟩]⟩
    let info : WriteResource :=
      ⟨"0xA", "k1", some (tag "CoinInfo"), "0x1::coin::CoinInfo<" ++ T ++ ">",
        .coinInfo coinInfo⟩
    let store : WriteResource :=
      ⟨"0x7", "k2", some (tag "CoinStore"), "0x1::coin::CoinStore<" ++ T ++ ">",
        .coinStore coinStore⟩
    ∃ coinInfo coinBalance currentCoinBalance eventToCoin,
      CoinInfo.fromWriteResource Sdk.plain .direct .standard info 5 0 = .ok (some coinInfo) ∧
      CoinBalance.fromWriteResource Sdk.plain .direct .standard store 5 0 =
        .ok (some (coinBalance, currentCoinBalance, eventToCoin)) ∧
      coinInfo.coinTypeHash = T ∧ coinBalance.coinTypeHash = T ∧
      currentCoinBalance.coinTypeHash = T ∧
      coinInfo.coinType = truncateStr T COIN_TYPE_HASH_LENGTH ∧
      coinBalance.coinType = truncateStr T COIN_TYPE_HASH_LENGTH ∧
      currentCoinBalance.coinType = truncateStr T COIN_TYPE_HASH_LENGTH := by
  intro T coinInfo coinStore tag info store
  exact (coin_type_hash_of_generic Sdk.plain .direct .standard info store 5 0
    "0x1::coin::CoinInfo" "0x1::coin::CoinStore" T (by decide) (by decide) (by decide) rfl rfl
    coinInfo coinStore rfl rfl "0xA" "m" "W" "0xA" "m" "W" rfl rfl).2.2

end CedraIndexer

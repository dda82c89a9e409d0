import CedraIndexer.Stake.DelegatorBalances
import CedraIndexer.Token.TokenClaims
import CedraIndexer.Token.CollectionDatas
import CedraIndexer.Coin.CoinBalances
import CedraIndexer.TokenV2.TokenDatas

/-!
# Deletions as current-state deltas

A deleted table item still gives a current row: the delete extractors of delegator shares and of
pending claims emit the row of the deleted key with a zero value, so that the row inserted for the
key replaces the stale one rather than leaving it behind. Stated against the write extractors:
whenever a write emits a current row, deleting the same item under the same resolution state emits
one with the same primary key and a zero value. A burned v2 token is overwritten the same way, by
an emptied row marked deleted.

The extractors of delegator shares build a history row and a current row side by side.
`DelegatorBalance.toCurrent` is the current row a history row stands for; three of the four
extractors emit exactly that pair, and the inactive-share delete does not. The extractors of coin
balances, collections and token data emit such pairs too, and there every pair agrees, but for the
`is_deleted_v2` flag of a v2 token, which only the current row sets.
-/

namespace CedraIndexer

/-- The deletion of a written table item: the same handle and key, and the key's decoded value. -/
def WriteTableItem.toDelete (item : WriteTableItem) : DeleteTableItem :=
  ⟨item.handle, item.key, item.data.map fun data => ⟨data.key, data.keyType⟩⟩

@[simp] theorem WriteTableItem.toDelete_handle (item : WriteTableItem) :
    item.toDelete.handle = item.handle := rfl

@[simp] theorem WriteTableItem.toDelete_key (item : WriteTableItem) :
    item.toDelete.key = item.key := rfl

/-- The current row that a history row stands for: the columns they share, with the row's
`transaction_version` as `last_transaction_version`. -/
def DelegatorBalance.toCurrent (h : DelegatorBalance) : CurrentDelegatorBalance :=
  ⟨h.delegatorAddress, h.poolAddress, h.poolType, h.tableHandle, h.transactionVersion, h.shares,
    h.parentTableHandle, h.blockTimestamp⟩

/-- The current balance a history balance stands for. -/
def CoinBalance.toCurrent (b : CoinBalance) : CurrentCoinBalance :=
  ⟨b.ownerAddress, b.coinTypeHash, b.coinType, b.amount, b.transactionVersion,
    b.transactionTimestamp⟩

/-- The current collection a history collection row stands for. -/
def CollectionData.toCurrent (c : CollectionData) : CurrentCollectionData :=
  ⟨c.collectionDataIdHash, c.creatorAddress, c.collectionName, c.description, c.metadataUri,
    c.supply, c.maximum, c.maximumMutable, c.uriMutable, c.descriptionMutable,
    c.transactionVersion, c.tableHandle, c.transactionTimestamp⟩

/-- The current token data a history token-data row stands for; `is_deleted_v2` is copied. -/
def TokenDataV2.toCurrent (h : TokenDataV2) : CurrentTokenDataV2 :=
  ⟨h.tokenDataId, h.collectionId, h.tokenName, h.maximum, h.supply, h.largestPropertyVersionV1,
    h.tokenUri, h.tokenProperties, h.description, h.tokenStandard, h.isFungibleV2,
    h.transactionVersion, h.transactionTimestamp, h.decimals, h.isDeletedV2⟩

section Rows

variable (sdk : Sdk) (dec : Decoders)

/-- The share extractors' two rows agree: the current row is the one its history row stands for,
except from the inactive-share delete, where they agree exactly when the share table's handle is
the inactive pool's. -/
theorem share_rows_agree (item : WriteTableItem) (deleteTableItem : DeleteTableItem)
    (txnVersion i : Int) (ts : NaiveDateTime) (activePoolToStakingPool : ShareToStakingPoolMapping)
    (inactivePoolToStakingPool : ShareToStakingPoolMapping)
    (inactiveShareToPool : ShareToPoolMapping) (conn : Conn) (n : UInt32) (d : UInt64) :
    (∀ h c, CurrentDelegatorBalance.getActiveShareFromWriteTableItem sdk dec item txnVersion i
        activePoolToStakingPool ts = .ok (some (h, c)) → c = h.toCurrent) ∧
    (∀ h c, CurrentDelegatorBalance.getActiveShareFromDeleteTableItem sdk deleteTableItem txnVersion
        i activePoolToStakingPool ts = .ok (some (h, c)) → c = h.toCurrent) ∧
    (∀ h c, (CurrentDelegatorBalance.getInactiveShareFromWriteTableItem sdk dec item txnVersion i
        inactivePoolToStakingPool inactiveShareToPool conn n d ts).1 = .ok (some (h, c)) →
      c = h.toCurrent) ∧
    (∀ h c, (CurrentDelegatorBalance.getInactiveShareFromDeleteTableItem sdk deleteTableItem
        txnVersion i inactivePoolToStakingPool inactiveShareToPool conn n d ts).1 =
        .ok (some (h, c)) →
      (c = h.toCurrent ↔ sdk.standardizeAddress deleteTableItem.handle = h.parentTableHandle)) := by
  refine ⟨fun h c hr => ?_, fun h c hr => ?_, fun h c hr => ?_, fun h c hr => ?_⟩
  · obtain ⟨_, _, -, -, rfl, rfl⟩ :=
      CurrentDelegatorBalance.getActiveShareFromWriteTableItem_some sdk dec hr
    rfl
  · rw [CurrentDelegatorBalance.getActiveShareFromDeleteTableItem_eq] at hr
    rcases hpb : activePoolToStakingPool.get? (sdk.standardizeAddress deleteTableItem.handle) with
      _ | pb <;> simp only [hpb, Option.map_none', Option.map_some', Except.ok.injEq,
        Option.some.injEq, Prod.mk.injEq, reduceCtorEq] at hr
    obtain ⟨rfl, rfl⟩ := hr
    rfl
  · obtain ⟨_, _, _, -, -, -, rfl, rfl⟩ :=
      CurrentDelegatorBalance.getInactiveShareFromWriteTableItem_some sdk dec hr
    rfl
  · obtain ⟨_, _, -, -, rfl, rfl⟩ :=
      CurrentDelegatorBalance.getInactiveShareFromDeleteTableItem_some sdk hr
    simp [DelegatorBalance.toCurrent]

/-- Shares of `0xd` in the active table `0xh` and in the table `0xs` of the inactive pool `0xp`,
written and deleted. -/
theorem share_rows_agree_on_each_path :
    let write (handle : String) : WriteTableItem :=
      ⟨handle, "0xd", some ⟨.string "0xd", "address", .string "5", "u128"⟩⟩
    let delete (handle : String) : DeleteTableItem := ⟨handle, "0xd", none⟩
    let active : ShareToStakingPoolMapping := .singleton "0xh" ⟨"0xpool", 1, "0xh", "0xi"⟩
    let inactiveShares : ShareToPoolMapping := .singleton "0xs" ⟨"0xs", "0xp", 1⟩
    let inactivePools : ShareToStakingPoolMapping := .singleton "0xp" ⟨"0xpool", 1, "0xa", "0xp"⟩
    let conn := Conn.ofDatabase .empty fun _ => false
    (∃ h c, CurrentDelegatorBalance.getActiveShareFromWriteTableItem Sdk.plain .direct
        (write "0xh") 7 0 active 0 = .ok (some (h, c)) ∧ c = h.toCurrent) ∧
    (∃ h c, CurrentDelegatorBalance.getActiveShareFromDeleteTableItem Sdk.plain (delete "0xh") 7 0
        active 0 = .ok (some (h, c)) ∧ c = h.toCurrent) ∧
    (∃ h c, (CurrentDelegatorBalance.getInactiveShareFromWriteTableItem Sdk.plain .direct
        (write "0xs") 7 0 inactivePools inactiveShares conn 3 0 0).1 = .ok (some (h, c)) ∧
      c = h.toCurrent) ∧
    (∃ h c, (CurrentDelegatorBalance.getInactiveShareFromDeleteTableItem Sdk.plain (delete "0xs")
        7 0 inactivePools inactiveShares conn 3 0 0).1 = .ok (some (h, c)) ∧
      (c = h.toCurrent ↔ "0xs" = h.parentTableHandle)) := by
  intro write delete active inactiveShares inactivePools conn
  have hactive := share_rows_agree Sdk.plain .direct (write "0xh") (delete "0xh") 7 0 0 active
    inactivePools inactiveShares conn 3 0
  have hinactive := share_rows_agree Sdk.plain .direct (write "0xs") (delete "0xs") 7 0 0 active
    inactivePools inactiveShares conn 3 0
  exact ⟨⟨_, _, rfl, hactive.1 _ _ rfl⟩, ⟨_, _, rfl, hactive.2.1 _ _ rfl⟩,
    ⟨_, _, rfl, hinactive.2.2.1 _ _ rfl⟩, ⟨_, _, rfl, hinactive.2.2.2 _ _ rfl⟩⟩

/-- The inactive-share delete emits two rows that disagree: deleting the share of `0xd` in the
table `0xs` of the inactive pool `0xp` gives a history row whose parent is `0xp` and a current
row whose parent is `0xs`, not the current row the history row stands for. -/
theorem inactive_delete_rows_disagree :
    let item : DeleteTableItem := ⟨"0xs", "0xd", none⟩
    let inactiveShares : ShareToPoolMapping := .singleton "0xs" ⟨"0xs", "0xp", 1⟩
    let inactivePools : ShareToStakingPoolMapping := .singleton "0xp" ⟨"0xpool", 1, "0xa", "0xp"⟩
    ∃ h c, (CurrentDelegatorBalance.getInactiveShareFromDeleteTableItem Sdk.plain item 7 0
        inactivePools inactiveShares (Conn.ofDatabase .empty fun _ => false) 3 0 0).1 =
        .ok (some (h, c)) ∧
      h.parentTableHandle = "0xp" ∧ c.parentTableHandle = "0xs" ∧ c ≠ h.toCurrent := by
  intro item inactiveShares inactivePools
  exact ⟨_, _, rfl, rfl, rfl, by decide⟩

/-- Coin balances, collections and token data emit agreeing rows: each current row is the one its
history row stands for, except that a v2 token's current row is marked not deleted where its
history row leaves the flag unset. -/
theorem history_current_rows_agree (addrs : FrameworkAddresses) :
    (∀ writeResource txnVersion ts b c e, CoinBalance.fromWriteResource sdk dec addrs writeResource
        txnVersion ts = .ok (some (b, c, e)) → c = b.toCurrent) ∧
    (∀ item txnVersion ts tableHandleToOwner conn n d row current,
      (CollectionData.fromWriteTableItem sdk dec item txnVersion ts tableHandleToOwner conn n d).1 =
        .ok (some (row, current)) → current = row.toCurrent) ∧
    (∀ item txnVersion i ts h c, TokenDataV2.getV1FromWriteTableItem sdk dec item txnVersion i ts =
        .ok (some (h, c)) → c = h.toCurrent) ∧
    (∀ tokenV2FromWriteResource writeResource txnVersion i ts objectMetadatas h c,
      TokenDataV2.getV2FromWriteResource sdk tokenV2FromWriteResource writeResource txnVersion i ts
        objectMetadatas = .ok (some (h, c)) →
      h.isDeletedV2 = none ∧ c = { h.toCurrent with isDeletedV2 := some false }) := by
  refine ⟨fun _ _ _ b c _ hr => ?_, fun _ _ _ _ _ _ _ row current hr => ?_,
    fun _ _ _ _ h c hr => ?_, fun _ _ _ _ _ _ h c hr => ?_⟩
  · obtain ⟨_, _, _, -, -, -, hrows⟩ := CoinBalance.fromWriteResource_some sdk dec addrs hr
    cases hrows
    rfl
  · obtain ⟨_, _, _, -, -, -, hrows⟩ := CollectionData.fromWriteTableItem_some sdk dec hr
    cases hrows
    rfl
  · obtain ⟨_, _, _, -, -, rfl, rfl⟩ := TokenDataV2.getV1FromWriteTableItem_some sdk dec hr
    rfl
  · obtain ⟨_, _, -, -, rfl, rfl⟩ := TokenDataV2.getV2FromWriteResource_some sdk hr
    exact ⟨rfl, rfl⟩

end Rows

/-- A coin store of `0xA::m::W` at `0x7`, a collection of `0xa`, a v1 token data of that
collection, and a v2 token at the object `0xo`. -/
theorem history_current_rows_agree_in_one_batch :
    let store : WriteResource :=
      ⟨"0x7", "k", some ⟨"0x1", "coin", "CoinStore", [⟨some (.struct "0xA" "m" "W")⟩]⟩,
        "0x1::coin::CoinStore<0xA::m::W>", .coinStore ⟨100, ⟨"0x7", 2⟩, ⟨"0x7", 3⟩, false⟩⟩
    let collectionItem : WriteTableItem := ⟨"0xt", "k", some ⟨.string "coll",
      "0x1::string::String", .collectionData ⟨"d", 10, ⟨true, true, true⟩, "coll", 1, "u"⟩,
      "0x3::token::CollectionData"⟩⟩
    let owners : TableHandleToOwner := .singleton "0xt" ⟨"0xa", "0x3::token::Collections"⟩
    let tokenDataItem : WriteTableItem := ⟨"0xt", "k", some ⟨.tokenDataId ⟨"0xa", "coll", "tok"⟩,
      "0x3::token::TokenDataId",
      .tokenData ⟨.null, "d", 0, 1, ⟨true, true, true, true, true⟩, "tok", ⟨"0xa", 100, 5⟩, 1, "u"⟩,
      "0x3::token::TokenData"⟩⟩
    let token : WriteResource :=
      ⟨"0xo", "0xk", some ⟨"0x4", "token", "Token", []⟩, "0x4::token::Token", .other "{}"⟩
    let tokenV2FromWriteResource : WriteResource → Except String (Option TokenV2) :=
      fun _ => .ok (some ⟨"t", "0xc", "u", "d"⟩)
    let objects : ObjectAggregatedDataMapping :=
      .singleton "0xo" ⟨⟨"0xowner", "0xk"⟩, none, none, none, none⟩
    (∃ b c e, CoinBalance.fromWriteResource Sdk.plain .direct .standard store 5 0 =
        .ok (some (b, c, e)) ∧ c = b.toCurrent) ∧
    (∃ row current, (CollectionData.fromWriteTableItem Sdk.plain .direct collectionItem 7 0 owners
        (Conn.ofDatabase .empty fun _ => false) 3 0).1 = .ok (some (row, current)) ∧
      current = row.toCurrent) ∧
    (∃ h c, TokenDataV2.getV1FromWriteTableItem Sdk.plain .direct tokenDataItem 7 0 0 =
        .ok (some (h, c)) ∧
      c = h.toCurrent) ∧
    (∃ h c, TokenDataV2.getV2FromWriteResource Sdk.plain tokenV2FromWriteResource token 7 0 0
        objects = .ok (some (h, c)) ∧
      h.isDeletedV2 = none ∧ c = { h.toCurrent with isDeletedV2 := some false }) := by
  intro store collectionItem owners tokenDataItem token tokenV2FromWriteResource objects
  have h := history_current_rows_agree Sdk.plain .direct .standard
  exact ⟨⟨_, _, _, rfl, h.1 store 5 0 _ _ _ rfl⟩,
    ⟨_, _, rfl,
      h.2.1 collectionItem 7 0 owners (Conn.ofDatabase .empty fun _ => false) 3 0 _ _ rfl⟩,
    ⟨_, _, rfl, h.2.2.1 tokenDataItem 7 0 0 _ _ rfl⟩,
    ⟨_, _, rfl, h.2.2.2 tokenV2FromWriteResource token 7 0 0 objects _ _ rfl⟩⟩

section Deletes

variable (sdk : Sdk) (dec : Decoders)

/-- A delete is a zero-valued overwrite under the write's primary key, for active and inactive
delegator shares and for pending claims: the delete may come at another version, index and time,
under the same mappings and store. -/
theorem delete_overwrites_with_zero (item : WriteTableItem) (txnVersion txnVersion' i i' : Int)
    (ts ts' : NaiveDateTime) :
    (∀ activePoolToStakingPool h c,
      CurrentDelegatorBalance.getActiveShareFromWriteTableItem sdk dec item txnVersion i
        activePoolToStakingPool ts = .ok (some (h, c)) →
      ∃ h' c', CurrentDelegatorBalance.getActiveShareFromDeleteTableItem sdk item.toDelete
          txnVersion' i' activePoolToStakingPool ts' = .ok (some (h', c')) ∧
        c'.pk = c.pk ∧ c'.shares = 0) ∧
    (∀ inactivePoolToStakingPool inactiveShareToPool conn n d h c,
      (CurrentDelegatorBalance.getInactiveShareFromWriteTableItem sdk dec item txnVersion i
        inactivePoolToStakingPool inactiveShareToPool conn n d ts).1 = .ok (some (h, c)) →
      ∃ h' c', (CurrentDelegatorBalance.getInactiveShareFromDeleteTableItem sdk item.toDelete
          txnVersion' i' inactivePoolToStakingPool inactiveShareToPool conn n d ts').1 =
          .ok (some (h', c')) ∧
        c'.pk = c.pk ∧ c'.shares = 0) ∧
    (∀ debug tableHandleToOwner tokensClaimed c,
      CurrentTokenPendingClaim.fromWriteTableItem sdk dec item txnVersion ts tableHandleToOwner =
        .ok (some c) →
      ∃ c', CurrentTokenPendingClaim.fromDeleteTableItem sdk dec debug item.toDelete txnVersion'
          ts' tableHandleToOwner tokensClaimed = .ok (some c') ∧
        c'.pk = c.pk ∧ c'.amount = 0) := by
  refine ⟨fun active h c hr => ?_, fun pools shares conn n d h c hr => ?_,
    fun debug owners claimed c hr => ?_⟩
  · obtain ⟨pb, shares, hpb, -, -, rfl⟩ :=
      CurrentDelegatorBalance.getActiveShareFromWriteTableItem_some sdk dec hr
    rw [CurrentDelegatorBalance.getActiveShareFromDeleteTableItem_eq,
      WriteTableItem.toDelete_handle, hpb]
    exact ⟨_, _, rfl, rfl, rfl⟩
  · obtain ⟨pb, poolAddress, shares, hpb, hl, -, -, rfl⟩ :=
      CurrentDelegatorBalance.getInactiveShareFromWriteTableItem_some sdk dec hr
    exact ⟨_, _, CurrentDelegatorBalance.getInactiveShareFromDeleteTableItem_of_lookup sdk hpb hl
      txnVersion' i' ts', rfl, rfl⟩
  · obtain ⟨data, offer, token, tableMetadata, hdata, hoffer, htm, rfl⟩ :=
      CurrentTokenPendingClaim.fromWriteTableItem_some sdk dec hr
    have hdata' : item.toDelete.data = some ⟨data.key, data.keyType⟩ := by
      simp [WriteTableItem.toDelete, hdata]
    exact ⟨_, CurrentTokenPendingClaim.fromDeleteTableItem_of_owner sdk dec hdata' hoffer htm
      debug txnVersion' ts' claimed, rfl, rfl⟩

end Deletes

/-- A share of `0xd` in the table `0xh`, read as an active share and as an inactive one, and an
offer of a token in the pending claims of `0xo`: each deletion overwrites its write. -/
theorem delete_overwrites_with_zero_after_writes :
    let share : WriteTableItem :=
      ⟨"0xh", "0xd", some ⟨.string "0xd", "address", .string "5", "u128"⟩⟩
    let active : ShareToStakingPoolMapping := .singleton "0xh" ⟨"0xpool", 1, "0xh", "0xi"⟩
    let inactiveShares : ShareToPoolMapping := .singleton "0xh" ⟨"0xh", "0xp", 1⟩
    let inactivePools : ShareToStakingPoolMapping := .singleton "0xp" ⟨"0xpool", 1, "0xa", "0xp"⟩
    let offer : TokenOfferIdType := ⟨"0xto", ⟨⟨"0xc", "coll", "tok"⟩, 0⟩⟩
    let claim : WriteTableItem := ⟨"0xt", "k", some ⟨.tokenOfferId offer,
      "0x3::token_transfers::TokenOfferId", .token ⟨1, offer.tokenId, .null⟩, "0x3::token::Token"⟩⟩
    let owners : TableHandleToOwner :=
      .singleton "0xt" ⟨"0xo", "0x3::token_transfers::PendingClaims"⟩
    let conn := Conn.ofDatabase .empty fun _ => false
    (∃ h c, CurrentDelegatorBalance.getActiveShareFromWriteTableItem Sdk.plain .direct share 7 0
        active 0 = .ok (some (h, c)) ∧
      ∃ h' c', CurrentDelegatorBalance.getActiveShareFromDeleteTableItem Sdk.plain share.toDelete
          9 2 active 1 = .ok (some (h', c')) ∧ c'.pk = c.pk ∧ c'.shares = 0) ∧
    (∃ h c, (CurrentDelegatorBalance.getInactiveShareFromWriteTableItem Sdk.plain .direct share 7 0
        inactivePools inactiveShares conn 3 0 0).1 = .ok (some (h, c)) ∧
      ∃ h' c', (CurrentDelegatorBalance.getInactiveShareFromDeleteTableItem Sdk.plain share.toDelete
          9 2 inactivePools inactiveShares conn 3 0 1).1 = .ok (some (h', c')) ∧
        c'.pk = c.pk ∧ c'.shares = 0) ∧
    (∃ c, CurrentTokenPendingClaim.fromWriteTableItem Sdk.plain .direct claim 7 0 owners =
        .ok (some c) ∧
      ∃ c', CurrentTokenPendingClaim.fromDeleteTableItem Sdk.plain .direct .direct claim.toDelete 9
          1 owners .empty = .ok (some c') ∧ c'.pk = c.pk ∧ c'.amount = 0) := by
  intro share active inactiveShares inactivePools offer claim owners conn
  have hw := delete_overwrites_with_zero Sdk.plain .direct share 7 9 0 2 0 1
  have hc := delete_overwrites_with_zero Sdk.plain .direct claim 7 9 0 2 0 1
  exact ⟨⟨_, _, rfl, hw.1 active _ _ rfl⟩,
    ⟨_, _, rfl, hw.2.1 inactivePools inactiveShares conn 3 0 _ _ rfl⟩,
    ⟨_, rfl, hc.2.2 .direct owners .empty _ rfl⟩⟩

end CedraIndexer

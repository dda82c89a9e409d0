import CedraIndexer.Coin.CoinBalances
import CedraIndexer.Token.Tokens
import CedraIndexer.Token.TokenClaims
import CedraIndexer.Token.TokenRoyalty
import CedraIndexer.TokenV2.TokenDatas
import CedraIndexer.TokenV2.TokenMetadata

/-!
# Identifiers and keys across extractors

The v1 token tables join on hashes of token data ids: a token row's collection hash must be the
hash its collection's row was stored under, although the two extractors build it differently.
A collection takes its creator from the table's owner or from the store and standardizes it; a
token takes it from its id and standardizes it inside `Display`. With `standardize_address`
idempotent, the two meet, for names of any length.

Primary keys built from truncated strings are another matter: the key of a token's resource
metadata cuts the resource type to `NAME_LENGTH` characters, and the key of a coin balance cuts
the coin type to `COIN_TYPE_HASH_LENGTH`. Two rows then share a key exactly when the cut types
agree.
-/

namespace CedraIndexer

section Ids

variable (sdk : Sdk) (dec : Decoders) (tok : TokenDecoders)

/-- The table item decodings an extractor reads are determined by the item. -/
private theorem decode_some_inj {dataType : String} {data : MoveValue} {w w' : TokenWriteSet}
    (h : TokenWriteSet.decode dataType data = .ok (some w))
    (h' : TokenWriteSet.decode dataType data = .ok (some w')) : w = w' :=
  Option.some.inj (Except.ok.inj (h.symm.trans h'))

/-- The v1 identifiers agree across extractors, each of which emits for every item of its kind.
For a token data id with creator `a` and collection `c`: a collection named `c` whose table
resolves to an owner standardizing like `a` gives a collection row under its collection hash; a
token of that id, written or deleted, gives a token row carrying that hash, unless
`TokenOwnership::from_token` fails on it; an offer of it gives a pending claim, written where the
table's owner is known, deleted unless neither the owners nor the claim events know the sender;
and a token data under that id gives a royalty and token data rows. The claims, royalties and
token datas carry `0x` and the same hashes as their ids. -/
theorem token_collection_ids_agree
    (hidem : ∀ x, sdk.standardizeAddress (sdk.standardizeAddress x) = sdk.standardizeAddress x)
    (tokenDataId : TokenDataIdType) :
    (∀ (item : WriteTableItem) (data : WriteTableData) (collectionData : CollectionDataType)
        txnVersion ts tableHandleToOwner conn queryRetries queryRetryDelayMs creator,
      item.data = some data →
      TokenWriteSet.decode data.valueType data.value =
        .ok (some (.collectionData collectionData)) →
      collectionData.name = tokenDataId.collection →
      (CollectionData.resolveCreator sdk tableHandleToOwner item.handle conn queryRetries
        queryRetryDelayMs).1 = some creator →
      sdk.standardizeAddress creator = sdk.standardizeAddress tokenDataId.creator →
      ∃ row current, (CollectionData.fromWriteTableItem sdk dec item txnVersion ts
          tableHandleToOwner conn queryRetries queryRetryDelayMs).1 = .ok (some (row, current)) ∧
        row.collectionDataIdHash = tokenDataId.getCollectionDataIdHash sdk ∧
        current.collectionDataIdHash = tokenDataId.getCollectionDataIdHash sdk) ∧
    (∀ (item : WriteTableItem) (data : WriteTableData) (token : TokenType) txnVersion ts
        tableHandleToOwner,
      item.data = some data →
      TokenWriteSet.decode data.valueType data.value = .ok (some (.token token)) →
      token.id.tokenDataId = tokenDataId →
      (∃ t o co, Token.fromWriteTableItem sdk dec tok item txnVersion ts tableHandleToOwner =
          .ok (some (t, o, co)) ∧
        t.collectionDataIdHash = tokenDataId.getCollectionDataIdHash sdk ∧
        t.tokenDataIdHash = tokenDataId.toHash sdk) ∨
      ∃ e, tok.tokenOwnershipFromToken (Token.ofTokenDataId sdk tokenDataId
          token.id.propertyVersion txnVersion token.tokenProperties ts) data.keyType data.key
          (ensureNotNegative token.amount) item.handle tableHandleToOwner = .error e ∧
        Token.fromWriteTableItem sdk dec tok item txnVersion ts tableHandleToOwner =
          .error (.error e)) ∧
    (∀ (item : DeleteTableItem) (data : DeleteTableData) (tokenId : TokenIdType) txnVersion ts
        tableHandleToOwner,
      item.data = some data →
      TokenWriteSet.decode data.keyType data.key = .ok (some (.tokenId tokenId)) →
      tokenId.tokenDataId = tokenDataId →
      (∃ t o co, Token.fromDeleteTableItem sdk dec tok item txnVersion ts tableHandleToOwner =
          .ok (some (t, o, co)) ∧
        t.collectionDataIdHash = tokenDataId.getCollectionDataIdHash sdk ∧
        t.tokenDataIdHash = tokenDataId.toHash sdk) ∨
      ∃ e, tok.tokenOwnershipFromToken (Token.ofTokenDataId sdk tokenDataId
          tokenId.propertyVersion txnVersion JsonValue.null ts) data.keyType data.key 0 item.handle
          tableHandleToOwner = .error e ∧
        Token.fromDeleteTableItem sdk dec tok item txnVersion ts tableHandleToOwner =
          .error (.error e)) ∧
    (∀ (item : WriteTableItem) (data : WriteTableData) (offer : TokenOfferIdType)
        (token : TokenType) txnVersion ts tableHandleToOwner tableMetadata,
      item.data = some data →
      TokenWriteSet.decode data.keyType data.key = .ok (some (.tokenOfferId offer)) →
      offer.tokenId.tokenDataId = tokenDataId →
      TokenWriteSet.decode data.valueType data.value = .ok (some (.token token)) →
      tableHandleToOwner.get? (sdk.standardizeAddress item.handle) = some tableMetadata →
      ∃ claim, CurrentTokenPendingClaim.fromWriteTableItem sdk dec item txnVersion ts
          tableHandleToOwner = .ok (some claim) ∧
        claim.collectionDataIdHash = tokenDataId.getCollectionDataIdHash sdk ∧
        claim.collectionId = "0x" ++ tokenDataId.getCollectionDataIdHash sdk ∧
        claim.tokenDataIdHash = tokenDataId.toHash sdk ∧
        claim.tokenDataId = "0x" ++ tokenDataId.toHash sdk) ∧
    (∀ (item : DeleteTableItem) (data : DeleteTableData) (offer : TokenOfferIdType) debug
        txnVersion ts tableHandleToOwner tokensClaimed,
      item.data = some data →
      TokenWriteSet.decode data.keyType data.key = .ok (some (.tokenOfferId offer)) →
      offer.tokenId.tokenDataId = tokenDataId →
      (∃ claim, CurrentTokenPendingClaim.fromDeleteTableItem sdk dec debug item txnVersion ts
          tableHandleToOwner tokensClaimed = .ok (some claim) ∧
        claim.collectionDataIdHash = tokenDataId.getCollectionDataIdHash sdk ∧
        claim.collectionId = "0x" ++ tokenDataId.getCollectionDataIdHash sdk ∧
        claim.tokenDataIdHash = tokenDataId.toHash sdk ∧
        claim.tokenDataId = "0x" ++ tokenDataId.toHash sdk) ∨
      CurrentTokenPendingClaim.fromDeleteTableItem sdk dec debug item txnVersion ts
          tableHandleToOwner tokensClaimed =
        .error (.panic (CurrentTokenPendingClaim.missingClaimOwnerPanic debug txnVersion
          (sdk.standardizeAddress item.handle) tableHandleToOwner
          ("0x" ++ tokenDataId.toHash sdk) tokensClaimed))) ∧
    (∀ (item : WriteTableItem) (data : WriteTableData) (tokenData : TokenDataType) txnVersion ts,
      item.data = some data →
      TokenWriteSet.decode data.valueType data.value = .ok (some (.tokenData tokenData)) →
      TokenWriteSet.decode data.keyType data.key = .ok (some (.tokenDataId tokenDataId)) →
      ∃ royalty, CurrentTokenRoyaltyV1.getV1FromWriteTableItem sdk dec item txnVersion ts =
          .ok (some royalty) ∧
        royalty.tokenDataId = "0x" ++ tokenDataId.toHash sdk) ∧
    (∀ (item : WriteTableItem) (data : WriteTableData) (tokenData : TokenDataType) txnVersion i
        ts,
      item.data = some data →
      TokenWriteSet.decode data.valueType data.value = .ok (some (.tokenData tokenData)) →
      TokenWriteSet.decode data.keyType data.key = .ok (some (.tokenDataId tokenDataId)) →
      ∃ h c, TokenDataV2.getV1FromWriteTableItem sdk dec item txnVersion i ts =
          .ok (some (h, c)) ∧
        h.collectionId = "0x" ++ tokenDataId.getCollectionDataIdHash sdk ∧
        h.tokenDataId = "0x" ++ tokenDataId.toHash sdk ∧
        c.collectionId = "0x" ++ tokenDataId.getCollectionDataIdHash sdk ∧
        c.tokenDataId = "0x" ++ tokenDataId.toHash sdk) := by
  refine ⟨?_, ?_, ?_, ?_, ?_, ?_, ?_⟩
  · intro item data collectionData txnVersion ts owners conn n d creator hdata hvalue hname
      hcreator hstd
    have hhash : (CollectionDataIdType.new (sdk.standardizeAddress creator)
        collectionData.getName).toHash sdk = tokenDataId.getCollectionDataIdHash sdk :=
      CollectionDataIdType.toHash_congr sdk (by simp only [CollectionDataIdType.new, hidem, hstd])
        hname
    exact ⟨_, _, CollectionData.fromWriteTableItem_of_creator sdk dec hdata hvalue hcreator
      txnVersion ts, hhash, hhash⟩
  · rintro item data token txnVersion ts owners hdata hvalue rfl
    exact (Token.fromWriteTableItem_of_token sdk dec tok hdata hvalue txnVersion ts owners).imp_left
      fun ⟨o, co, hr⟩ => ⟨_, o, co, hr, rfl, rfl⟩
  · rintro item data tokenId txnVersion ts owners hdata hkey rfl
    exact (Token.fromDeleteTableItem_of_tokenId sdk dec tok hdata hkey txnVersion ts
      owners).imp_left fun ⟨o, co, hr⟩ => ⟨_, o, co, hr, rfl, rfl⟩
  · rintro item data offer token txnVersion ts owners tableMetadata hdata hkey rfl hvalue htm
    exact ⟨_, CurrentTokenPendingClaim.fromWriteTableItem_of_owner sdk dec hdata hkey hvalue htm
      txnVersion ts, rfl, rfl, rfl, rfl⟩
  · rintro item data offer debug txnVersion ts owners claimed hdata hkey rfl
    exact (CurrentTokenPendingClaim.fromDeleteTableItem_of_offer sdk dec hdata hkey debug txnVersion
      ts owners claimed).imp_left fun ⟨_, hr⟩ => ⟨_, hr, rfl, rfl, rfl, rfl⟩
  · intro item data tokenData txnVersion ts hdata hvalue hkey
    exact CurrentTokenRoyaltyV1.getV1FromWriteTableItem_of_tokenData hdata hvalue hkey txnVersion ts
  · intro item data tokenData txnVersion i ts hdata hvalue hkey
    obtain ⟨h, c, hr⟩ :=
      TokenDataV2.getV1FromWriteTableItem_of_tokenData sdk dec hdata hvalue hkey txnVersion i ts
    obtain ⟨data', tokenDataIdStruct, tokenData', hdata', hkey', rfl, rfl⟩ :=
      TokenDataV2.getV1FromWriteTableItem_some sdk dec hr
    cases hdata.symm.trans hdata'
    cases decode_some_inj hkey hkey'
    exact ⟨_, _, hr, rfl, rfl, rfl, rfl⟩

end Ids

/-- The collection `coll` of `0xa`, written to a table of `0xa`, and a token `tok` of it: the
collection row and the token row carry the same collection hash. -/
theorem token_collection_ids_agree_in_one_batch :
    let tokenDataId : TokenDataIdType := ⟨"0xa", "coll", "tok"⟩
    let collectionData : CollectionDataType := ⟨"d", 10, ⟨true, true, true⟩, "coll", 1, "u"⟩
    let collectionItem : WriteTableItem := ⟨"0xt", "k", some ⟨.string "coll",
      "0x1::string::String", .collectionData collectionData, "0x3::token::CollectionData"⟩⟩
    let token : TokenType := ⟨1, ⟨tokenDataId, 0⟩, .null⟩
    let tokenItem : WriteTableItem := ⟨"0xs", "k", some ⟨.tokenId ⟨tokenDataId, 0⟩,
      "0x3::token::TokenId", .token token, "0x3::token::Token"⟩⟩
    let owners : TableHandleToOwner := .singleton "0xt" ⟨"0xa", "0x3::token::Collections"⟩
    let conn := Conn.ofDatabase .empty fun _ => false
    (∃ row current, (CollectionData.fromWriteTableItem Sdk.plain .direct collectionItem 7 0 owners
        conn 3 0).1 = .ok (some (row, current)) ∧
      row.collectionDataIdHash = tokenDataId.getCollectionDataIdHash Sdk.plain ∧
      current.collectionDataIdHash = tokenDataId.getCollectionDataIdHash Sdk.plain) ∧
    ∃ t o co, Token.fromWriteTableItem Sdk.plain .direct .none tokenItem 7 0 owners =
        .ok (some (t, o, co)) ∧
      t.collectionDataIdHash = tokenDataId.getCollectionDataIdHash Sdk.plain ∧
      t.tokenDataIdHash = tokenDataId.toHash Sdk.plain := by
  intro tokenDataId collectionData collectionItem token tokenItem owners conn
  have h := token_collection_ids_agree Sdk.plain .direct .none (fun _ => rfl) tokenDataId
  refine ⟨h.1 collectionItem _ collectionData 7 0 owners conn 3 0 "0xa" rfl rfl rfl rfl rfl, ?_⟩
  rcases h.2.1 tokenItem _ token 7 0 owners rfl rfl rfl with hrow | ⟨_, herr, -⟩
  · exact hrow
  · cases herr

section Keys

variable (sdk : Sdk) (dec : Decoders) (addrs : FrameworkAddresses)

/-- The key of a coin balance row: its standardized owner and its coin type, cut. -/
private theorem coinBalance_pk {store : WriteResource} {txnVersion : Int} {ts : NaiveDateTime}
    {b : CoinBalance} {c : CurrentCoinBalance} {e : EventToCoinType} {moveType : MoveType}
    {coinInfoType : CoinInfoType} (hty : store.firstTypeParam = .ok moveType)
    (hcoin : CoinInfoType.fromMoveType moveType store.typeStr = .ok coinInfoType)
    (hr : CoinBalance.fromWriteResource sdk dec addrs store txnVersion ts = .ok (some (b, c, e))) :
    c.pk = (sdk.standardizeAddress store.address,
      truncateStr coinInfoType.coinType COIN_TYPE_HASH_LENGTH) := by
  obtain ⟨_, moveType', coinInfoType', -, hty', hcoin', hrows⟩ :=
    CoinBalance.fromWriteResource_some sdk dec addrs hr
  cases hty.symm.trans hty'
  cases hcoin.symm.trans hcoin'
  have hc : c = _ := congrArg Prod.snd hrows
  rw [hc]
  rfl

/-- Keys built from cut types: two resources written to one token object give rows with the same
key exactly when their types agree on the first `NAME_LENGTH` characters, and two coin stores of
one owner exactly when their coin types agree on the first `COIN_TYPE_HASH_LENGTH`; so types
within the cut that differ give different keys. -/
theorem truncated_keys_distinct_iff :
    (∀ (w₁ w₂ : WriteResource) (r₁ r₂ : MoveResource) v₁ v₂ objectMetadatas ts₁ ts₂ m₁ m₂,
      sdk.standardizeAddress w₁.address = sdk.standardizeAddress w₂.address →
      dec.moveResourceFromWriteResource w₁ = .ok (some r₁) →
      dec.moveResourceFromWriteResource w₂ = .ok (some r₂) →
      CurrentTokenV2Metadata.fromWriteResource sdk dec addrs w₁ v₁ objectMetadatas ts₁ =
        .ok (some m₁) →
      CurrentTokenV2Metadata.fromWriteResource sdk dec addrs w₂ v₂ objectMetadatas ts₂ =
        .ok (some m₂) →
      (m₁.pk = m₂.pk ↔
        truncateStr r₁.resourceType NAME_LENGTH = truncateStr r₂.resourceType NAME_LENGTH) ∧
      (r₁.resourceType.length ≤ NAME_LENGTH → r₂.resourceType.length ≤ NAME_LENGTH →
        (m₁.pk = m₂.pk ↔ r₁.resourceType = r₂.resourceType))) ∧
    (∀ (s₁ s₂ : WriteResource) moveType₁ moveType₂ (coin₁ coin₂ : CoinInfoType) v₁ v₂ ts₁ ts₂
        b₁ b₂ (c₁ c₂ : CurrentCoinBalance) e₁ e₂,
      sdk.standardizeAddress s₁.address = sdk.standardizeAddress s₂.address →
      s₁.firstTypeParam = .ok moveType₁ → s₂.firstTypeParam = .ok moveType₂ →
      CoinInfoType.fromMoveType moveType₁ s₁.typeStr = .ok coin₁ →
      CoinInfoType.fromMoveType moveType₂ s₂.typeStr = .ok coin₂ →
      CoinBalance.fromWriteResource sdk dec addrs s₁ v₁ ts₁ = .ok (some (b₁, c₁, e₁)) →
      CoinBalance.fromWriteResource sdk dec addrs s₂ v₂ ts₂ = .ok (some (b₂, c₂, e₂)) →
      (c₁.pk = c₂.pk ↔ truncateStr coin₁.coinType COIN_TYPE_HASH_LENGTH =
        truncateStr coin₂.coinType COIN_TYPE_HASH_LENGTH) ∧
      (coin₁.coinType.length ≤ COIN_TYPE_HASH_LENGTH →
        coin₂.coinType.length ≤ COIN_TYPE_HASH_LENGTH →
        (c₁.pk = c₂.pk ↔ coin₁.coinType = coin₂.coinType))) := by
  refine ⟨fun w₁ w₂ r₁ r₂ v₁ v₂ objs ts₁ ts₂ m₁ m₂ haddr hres₁ hres₂ h₁ h₂ => ?_,
    fun s₁ s₂ t₁ t₂ coin₁ coin₂ v₁ v₂ ts₁ ts₂ b₁ b₂ c₁ c₂ e₁ e₂ haddr hty₁ hty₂ hcoin₁ hcoin₂
      h₁ h₂ => ?_⟩
  · obtain ⟨r₁', hres₁', hpk₁⟩ := CurrentTokenV2Metadata.fromWriteResource_some h₁
    obtain ⟨r₂', hres₂', hpk₂⟩ := CurrentTokenV2Metadata.fromWriteResource_some h₂
    cases hres₁.symm.trans hres₁'
    cases hres₂.symm.trans hres₂'
    have hiff : m₁.pk = m₂.pk ↔
        truncateStr r₁.resourceType NAME_LENGTH = truncateStr r₂.resourceType NAME_LENGTH := by
      simp only [hpk₁, hpk₂, haddr, Prod.mk.injEq, true_and]
    exact ⟨hiff, fun hl₁ hl₂ => by
      rw [hiff, truncateStr_of_length_le hl₁, truncateStr_of_length_le hl₂]⟩
  · have hiff : c₁.pk = c₂.pk ↔ truncateStr coin₁.coinType COIN_TYPE_HASH_LENGTH =
        truncateStr coin₂.coinType COIN_TYPE_HASH_LENGTH := by
      simp only [coinBalance_pk sdk dec addrs hty₁ hcoin₁ h₁,
        coinBalance_pk sdk dec addrs hty₂ hcoin₂ h₂, haddr, Prod.mk.injEq, true_and]
    exact ⟨hiff, fun hl₁ hl₂ => by
      rw [hiff, truncateStr_of_length_le hl₁, truncateStr_of_length_le hl₂]⟩

end Keys

/-- Two short resource types on one token object, and two coins held by one owner: the keys
differ. -/
theorem truncated_keys_distinct_for_short_types :
    let object : ObjectAggregatedData :=
      ⟨⟨"0xowner", "0xk"⟩, none, none, some ⟨"t", "0xc", "u", "d"⟩, none⟩
    let resource (resourceType : String) : WriteResource :=
      ⟨"0xo", "0xk", some ⟨"0xA", "m", "R", []⟩, resourceType, .other "{}"⟩
    let store (address : String) : WriteResource :=
      ⟨"0x7", "k", some ⟨"0x1", "coin", "CoinStore", [⟨some (.struct address "m" "W")⟩]⟩,
        "0x1::coin::CoinStore<" ++ address ++ "::m::W>",
        .coinStore ⟨100, ⟨"0x7", 2⟩, ⟨"0x7", 3⟩, false⟩⟩
    (∃ m₁ m₂,
      CurrentTokenV2Metadata.fromWriteResource Sdk.plain .direct .standard (resource "0xA::m::R") 7
        (.singleton "0xo" object) 0 = .ok (some m₁) ∧
      CurrentTokenV2Metadata.fromWriteResource Sdk.plain .direct .standard (resource "0xA::m::S") 7
        (.singleton "0xo" object) 0 = .ok (some m₂) ∧ m₁.pk ≠ m₂.pk) ∧
    ∃ b₁ c₁ e₁ b₂ c₂ e₂,
      CoinBalance.fromWriteResource Sdk.plain .direct .standard (store "0xA") 5 0 =
        .ok (some (b₁, c₁, e₁)) ∧
      CoinBalance.fromWriteResource Sdk.plain .direct .standard (store "0xB") 5 0 =
        .ok (some (b₂, c₂, e₂)) ∧ c₁.pk ≠ c₂.pk := by
  intro object resource store
  have h := truncated_keys_distinct_iff Sdk.plain .direct .standard
  refine ⟨⟨_, _, rfl, rfl, fun hpk => ?_⟩, ⟨_, _, _, _, _, _, rfl, rfl, fun hpk => ?_⟩⟩
  · have := ((h.1 (resource "0xA::m::R") (resource "0xA::m::S") _ _ 7 7 (.singleton "0xo" object)
      0 0 _ _ rfl rfl rfl rfl rfl).2 (by decide) (by decide)).1 hpk
    exact absurd this (by decide)
  · have := ((h.2 (store "0xA") (store "0xB") _ _ ⟨"0xA::m::W", "0xA"⟩ ⟨"0xB::m::W", "0xB"⟩ 5 5 0 0
      _ _ _ _ _ _ rfl rfl rfl rfl rfl rfl rfl).2 (by decide) (by decide)).1 hpk
    exact absurd this (by decide)

/-- Two resources whose types are `NAME_LENGTH` letters `a` followed by `1` and by `2`, written to
one token object: the two rows share their key. -/
theorem metadata_keys_collide :
    let stem : String := ⟨List.replicate NAME_LENGTH 'a'⟩
    let object : ObjectAggregatedData :=
      ⟨⟨"0xowner", "0xk"⟩, none, none, some ⟨"t", "0xc", "u", "d"⟩, none⟩
    let resource (resourceType : String) : WriteResource :=
      ⟨"0xo", "0xk", some ⟨"0xA", "m", "R", []⟩, resourceType, .other "{}"⟩
    ∃ m₁ m₂,
      CurrentTokenV2Metadata.fromWriteResource Sdk.plain .direct .standard
        (resource (stem ++ "1")) 7 (.singleton "0xo" object) 0 = .ok (some m₁) ∧
      CurrentTokenV2Metadata.fromWriteResource Sdk.plain .direct .standard
        (resource (stem ++ "2")) 7 (.singleton "0xo" object) 0 = .ok (some m₂) ∧
      stem ++ "1" ≠ stem ++ "2" ∧ m₁.pk = m₂.pk := by
  intro stem object resource
  have hstem : stem.length = NAME_LENGTH := List.length_replicate _ _
  refine ⟨_, _, rfl, rfl, by decide, ?_⟩
  show ("0xo", truncateStr (stem ++ "1") NAME_LENGTH) =
    ("0xo", truncateStr (stem ++ "2") NAME_LENGTH)
  rw [truncateStr_append hstem, truncateStr_append hstem]

end CedraIndexer

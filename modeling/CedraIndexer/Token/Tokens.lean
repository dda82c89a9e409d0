import CedraIndexer.Token.CollectionDatas
import CedraIndexer.Db.Loop

/-!
# Token v1 tokens, and the token extractor of one transaction

`tokens.rs`. A `Token` table item (or the deletion of one, keyed by its `TokenId`) gives a token
row and, through `token_ownerships.rs`, an ownership row; `token_datas.rs` and
`collection_datas.rs` read the same items for token data and collections. Those two modules of
`token_ownerships.rs` and `token_datas.rs` are not part of the model: `TokenDecoders` takes them,
and their rows keep only the key columns this file reads.

`from_transaction` walks the changes of a user transaction in order. Token rows are deduplicated
on `(token_data_id_hash, property_version)`; the current ownership, token data and collection rows
are kept per primary key, a later change replacing an earlier one.
-/

namespace CedraIndexer

/-- `Token`, the `tokens` row. -/
structure Token where
  tokenDataIdHash : String
  propertyVersion : BigDecimal
  transactionVersion : Int
  creatorAddress : String
  collectionName : String
  name : String
  tokenProperties : JsonValue
  collectionDataIdHash : String
  transactionTimestamp : NaiveDateTime
  deriving DecidableEq, Repr

/-- `TokenOwnership` of `token_ownerships.rs`, by its key columns. -/
structure TokenOwnership where
  tokenDataIdHash : String
  propertyVersion : BigDecimal
  transactionVersion : Int
  tableHandle : String
  deriving DecidableEq, Repr

/-- `CurrentTokenOwnership` of `token_ownerships.rs`, by its key columns and amount. -/
structure CurrentTokenOwnership where
  tokenDataIdHash : String
  propertyVersion : BigDecimal
  ownerAddress : String
  amount : BigDecimal
  lastTransactionVersion : Int
  deriving DecidableEq, Repr

/-- `TokenData` of `token_datas.rs`, by its key columns. -/
structure TokenData where
  tokenDataIdHash : String
  transactionVersion : Int
  deriving DecidableEq, Repr

/-- `CurrentTokenData` of `token_datas.rs`, by its key columns. -/
structure CurrentTokenData where
  tokenDataIdHash : String
  lastTransactionVersion : Int
  deriving DecidableEq, Repr

/-- `CurrentTokenOwnershipPK`. -/
abbrev CurrentTokenOwnershipPK := String × BigDecimal × String

/-- `TokenPK`. -/
abbrev TokenPK := String × BigDecimal

/-- The functions of `token_ownerships.rs` and `token_datas.rs` the token extractor calls. -/
structure TokenDecoders where
  /-- `TokenOwnership::from_token(token, key_type, key, amount, table_handle, owners)`. -/
  tokenOwnershipFromToken : Token → String → MoveValue → BigDecimal → String →
    TableHandleToOwner → Except String (Option (TokenOwnership × Option CurrentTokenOwnership))
  /-- `TokenData::from_write_table_item`. -/
  tokenDataFromWriteTableItem : WriteTableItem → Int → NaiveDateTime →
    Except String (Option (TokenData × CurrentTokenData))

/-- Token decoders that find no ownership and no token data, for running the model on examples. -/
def TokenDecoders.none : TokenDecoders :=
  ⟨fun _ _ _ _ _ _ => .ok Option.none, fun _ _ _ => .ok Option.none⟩

/-- `ensure_not_negative`: a negative amount counts as zero. -/
def ensureNotNegative (val : BigDecimal) : BigDecimal := if val < 0 then 0 else val

/-- `Token`'s primary key in the `tokens` map of `from_transaction`. -/
def Token.pk (t : Token) : TokenPK := (t.tokenDataIdHash, t.propertyVersion)

/-- `current_token_ownerships`'s key. -/
def CurrentTokenOwnership.pk (o : CurrentTokenOwnership) : CurrentTokenOwnershipPK :=
  (o.tokenDataIdHash, o.propertyVersion, o.ownerAddress)

namespace Token

section Extractors

variable (sdk : Sdk) (dec : Decoders) (tok : TokenDecoders)

/-- The token row of a token id, as both extractors build it. -/
def ofTokenDataId (tokenDataId : TokenDataIdType) (propertyVersion : BigDecimal)
    (txnVersion : Int) (tokenProperties : JsonValue) (txnTimestamp : NaiveDateTime) : Token where
  tokenDataIdHash := tokenDataId.toHash sdk
  propertyVersion := propertyVersion
  transactionVersion := txnVersion
  creatorAddress := tokenDataId.getCreatorAddress sdk
  collectionName := tokenDataId.getCollectionTrunc
  name := tokenDataId.getNameTrunc
  tokenProperties := tokenProperties
  collectionDataIdHash := tokenDataId.getCollectionDataIdHash sdk
  transactionTimestamp := txnTimestamp

/-- The ownership rows of a token, or none when `from_token` finds none. -/
def ownerships (token : Token) (keyType : String) (key : MoveValue) (amount : BigDecimal)
    (tableHandle : String) (tableHandleToOwner : TableHandleToOwner) :
    Except Fault (Option TokenOwnership × Option CurrentTokenOwnership) :=
  match tok.tokenOwnershipFromToken token keyType key amount tableHandle tableHandleToOwner with
  | .error e => .error (.error e)
  | .ok (some (tokenOwnership, currentTokenOwnership)) =>
    .ok (some tokenOwnership, currentTokenOwnership)
  | .ok none => .ok (none, none)

/-- `Token::from_write_table_item`. -/
def fromWriteTableItem (tableItem : WriteTableItem) (txnVersion : Int)
    (txnTimestamp : NaiveDateTime) (tableHandleToOwner : TableHandleToOwner) :
    Except Fault (Option (Token × Option TokenOwnership × Option CurrentTokenOwnership)) :=
  match tableItem.data with
  | none => Fault.unwrapOption none
  | some tableItemData =>
    match TokenWriteSet.fromTableItemType dec tableItemData.valueType tableItemData.value
        txnVersion with
    | .error e => .error (.error e)
    | .ok (some (.token token)) =>
      let tokenPg := ofTokenDataId sdk token.id.tokenDataId token.id.propertyVersion txnVersion
        token.tokenProperties txnTimestamp
      (ownerships tok tokenPg tableItemData.keyType tableItemData.key
          (ensureNotNegative token.amount) tableItem.handle tableHandleToOwner).map
        fun (o, c) => some (tokenPg, o, c)
    | .ok _ => .ok none

/-- `Token::from_delete_table_item`: zero amount, no properties. -/
def fromDeleteTableItem (tableItem : DeleteTableItem) (txnVersion : Int)
    (txnTimestamp : NaiveDateTime) (tableHandleToOwner : TableHandleToOwner) :
    Except Fault (Option (Token × Option TokenOwnership × Option CurrentTokenOwnership)) :=
  match tableItem.data with
  | none => Fault.unwrapOption none
  | some tableItemData =>
    match TokenWriteSet.fromTableItemType dec tableItemData.keyType tableItemData.key
        txnVersion with
    | .error e => .error (.error e)
    | .ok (some (.tokenId tokenId)) =>
      let token := ofTokenDataId sdk tokenId.tokenDataId tokenId.propertyVersion txnVersion
        JsonValue.null txnTimestamp
      (ownerships tok token tableItemData.keyType tableItemData.key 0 tableItem.handle
          tableHandleToOwner).map
        fun (o, c) => some (token, o, c)
    | .ok _ => .ok none

/-- `from_write_table_item` emits only for a `Token` value: the row of the token's id. -/
theorem fromWriteTableItem_some {item : WriteTableItem} {txnVersion : Int} {ts : NaiveDateTime}
    {tableHandleToOwner : TableHandleToOwner} {t : Token} {o : Option TokenOwnership}
    {co : Option CurrentTokenOwnership}
    (hr : fromWriteTableItem sdk dec tok item txnVersion ts tableHandleToOwner =
      .ok (some (t, o, co))) :
    ∃ (data : WriteTableData) (token : TokenType), item.data = some data ∧
      TokenWriteSet.decode data.valueType data.value = .ok (some (.token token)) ∧
      t = ofTokenDataId sdk token.id.tokenDataId token.id.propertyVersion txnVersion
        token.tokenProperties ts := by
  rcases hdata : item.data with _ | data
  · simp [fromWriteTableItem, hdata, Fault.unwrapOption] at hr
  rcases hv : TokenWriteSet.decode data.valueType data.value with _ | _ | _ | _ | _ | token <;>
    simp [fromWriteTableItem, hdata, TokenWriteSet.fromTableItemType, hv, Except.mapError] at hr
  rcases hown : ownerships tok (ofTokenDataId sdk token.id.tokenDataId token.id.propertyVersion
    txnVersion token.tokenProperties ts) data.keyType data.key (ensureNotNegative token.amount)
    item.handle tableHandleToOwner with _ | ⟨o', co'⟩ <;> simp [hown, Except.map] at hr
  exact ⟨data, token, rfl, hv, hr.1.symm⟩

/-- `from_delete_table_item` emits only for a `TokenId` key: the row of that id. -/
theorem fromDeleteTableItem_some {item : DeleteTableItem} {txnVersion : Int} {ts : NaiveDateTime}
    {tableHandleToOwner : TableHandleToOwner} {t : Token} {o : Option TokenOwnership}
    {co : Option CurrentTokenOwnership}
    (hr : fromDeleteTableItem sdk dec tok item txnVersion ts tableHandleToOwner =
      .ok (some (t, o, co))) :
    ∃ (data : DeleteTableData) (tokenId : TokenIdType), item.data = some data ∧
      TokenWriteSet.decode data.keyType data.key = .ok (some (.tokenId tokenId)) ∧
      t = ofTokenDataId sdk tokenId.tokenDataId tokenId.propertyVersion txnVersion JsonValue.null
        ts := by
  rcases hdata : item.data with _ | data
  · simp [fromDeleteTableItem, hdata, Fault.unwrapOption] at hr
  rcases hk : TokenWriteSet.decode data.keyType data.key with _ | _ | _ | tokenId <;>
    simp [fromDeleteTableItem, hdata, TokenWriteSet.fromTableItemType, hk, Except.mapError] at hr
  rcases hown : ownerships tok (ofTokenDataId sdk tokenId.tokenDataId tokenId.propertyVersion
    txnVersion JsonValue.null ts) data.keyType data.key 0 item.handle tableHandleToOwner with
    _ | ⟨o', co'⟩ <;> simp [hown, Except.map] at hr
  exact ⟨data, tokenId, rfl, hk, hr.1.symm⟩

/-- A token row with its ownerships: the row is emitted, unless `TokenOwnership::from_token`
fails on it, and then its `Err` is returned. -/
theorem ownerships_map_cases (token : Token) (keyType : String) (key : MoveValue)
    (amount : BigDecimal) (tableHandle : String) (tableHandleToOwner : TableHandleToOwner) :
    (∃ o co, (ownerships tok token keyType key amount tableHandle tableHandleToOwner).map
        (fun (o, c) => some (token, o, c)) = .ok (some (token, o, co))) ∨
      ∃ e, tok.tokenOwnershipFromToken token keyType key amount tableHandle tableHandleToOwner =
          .error e ∧
        (ownerships tok token keyType key amount tableHandle tableHandleToOwner).map
          (fun (o, c) => some (token, o, c)) = .error (.error e) := by
  unfold ownerships
  rcases tok.tokenOwnershipFromToken token keyType key amount tableHandle tableHandleToOwner with
    e | _ | ⟨o, co⟩
  · exact .inr ⟨e, rfl, rfl⟩
  · exact .inl ⟨none, none, rfl⟩
  · exact .inl ⟨some o, co, rfl⟩

/-- `from_write_table_item` emits for every `Token` value: the row of the token's id, unless
`TokenOwnership::from_token` fails on it. -/
theorem fromWriteTableItem_of_token {item : WriteTableItem} {data : WriteTableData}
    {token : TokenType} (hdata : item.data = some data)
    (hvalue : TokenWriteSet.decode data.valueType data.value = .ok (some (.token token)))
    (txnVersion : Int) (ts : NaiveDateTime) (tableHandleToOwner : TableHandleToOwner) :
    (∃ o co, fromWriteTableItem sdk dec tok item txnVersion ts tableHandleToOwner =
        .ok (some (ofTokenDataId sdk token.id.tokenDataId token.id.propertyVersion txnVersion
          token.tokenProperties ts, o, co))) ∨
      ∃ e, tok.tokenOwnershipFromToken (ofTokenDataId sdk token.id.tokenDataId
          token.id.propertyVersion txnVersion token.tokenProperties ts) data.keyType data.key
          (ensureNotNegative token.amount) item.handle tableHandleToOwner = .error e ∧
        fromWriteTableItem sdk dec tok item txnVersion ts tableHandleToOwner =
          .error (.error e) := by
  have hv := (TokenWriteSet.fromTableItemType_eq_ok dec _ _ txnVersion _).2 hvalue
  simp only [fromWriteTableItem, hdata, hv]
  exact ownerships_map_cases tok _ _ _ _ _ _

/-- `from_delete_table_item` emits for every `TokenId` key: the row of that id, unless
`TokenOwnership::from_token` fails on it. -/
theorem fromDeleteTableItem_of_tokenId {item : DeleteTableItem} {data : DeleteTableData}
    {tokenId : TokenIdType} (hdata : item.data = some data)
    (hkey : TokenWriteSet.decode data.keyType data.key = .ok (some (.tokenId tokenId)))
    (txnVersion : Int) (ts : NaiveDateTime) (tableHandleToOwner : TableHandleToOwner) :
    (∃ o co, fromDeleteTableItem sdk dec tok item txnVersion ts tableHandleToOwner =
        .ok (some (ofTokenDataId sdk tokenId.tokenDataId tokenId.propertyVersion txnVersion
          JsonValue.null ts, o, co))) ∨
      ∃ e, tok.tokenOwnershipFromToken (ofTokenDataId sdk tokenId.tokenDataId
          tokenId.propertyVersion txnVersion JsonValue.null ts) data.keyType data.key 0 item.handle
          tableHandleToOwner = .error e ∧
        fromDeleteTableItem sdk dec tok item txnVersion ts tableHandleToOwner =
          .error (.error e) := by
  have hk := (TokenWriteSet.fromTableItemType_eq_ok dec _ _ txnVersion _).2 hkey
  simp only [fromDeleteTableItem, hdata, hk]
  exact ownerships_map_cases tok _ _ _ _ _ _

/-- What one write-set change contributes: a token with its ownerships, a token data, and a
collection, each with its current row. -/
structure TokenChange where
  maybeTokenWithOwnership : Option (Token × Option TokenOwnership × Option CurrentTokenOwnership)
  maybeTokenData : Option (TokenData × CurrentTokenData)
  maybeCollectionData : Option (CollectionData × CurrentCollectionData)

namespace TokenChange

/-- The token row of a change. -/
def token (c : TokenChange) : Option Token := c.maybeTokenWithOwnership.map (·.1)

/-- The ownership history row of a change. -/
def tokenOwnership (c : TokenChange) : Option TokenOwnership :=
  c.maybeTokenWithOwnership.bind (·.2.1)

/-- The current ownership row of a change. -/
def currentTokenOwnership (c : TokenChange) : Option CurrentTokenOwnership :=
  c.maybeTokenWithOwnership.bind (·.2.2)

/-- The token data history row of a change. -/
def tokenData (c : TokenChange) : Option TokenData := c.maybeTokenData.map (·.1)

/-- The current token data row of a change. -/
def currentTokenData (c : TokenChange) : Option CurrentTokenData := c.maybeTokenData.map (·.2)

/-- The collection history row of a change. -/
def collectionData (c : TokenChange) : Option CollectionData := c.maybeCollectionData.map (·.1)

/-- The current collection row of a change. -/
def currentCollectionData (c : TokenChange) : Option CurrentCollectionData :=
  c.maybeCollectionData.map (·.2)

end TokenChange

/-- The loop body of `from_transaction` before the inserts: the three extractors on one change,
each result unwrapped. -/
def extractChange (txnVersion : Int) (txnTimestamp : NaiveDateTime)
    (tableHandleToOwner : TableHandleToOwner) (queryRetries : UInt32) (queryRetryDelayMs : UInt64)
    (conn : Conn) (wsc : WriteSetChange) : Except Fault TokenChange × Conn :=
  match wsc.change with
  | none => (Fault.unwrapOption none, conn)
  | some (.writeTableItem writeTableItem) =>
    match Fault.unwrap (fromWriteTableItem sdk dec tok writeTableItem txnVersion txnTimestamp
        tableHandleToOwner) with
    | .error f => (.error f, conn)
    | .ok maybeTokenWithOwnership =>
      match Fault.unwrapResult (tok.tokenDataFromWriteTableItem writeTableItem txnVersion
          txnTimestamp) with
      | .error f => (.error f, conn)
      | .ok maybeTokenData =>
        let (maybeCollectionData, conn) := CollectionData.fromWriteTableItem sdk dec writeTableItem
          txnVersion txnTimestamp tableHandleToOwner conn queryRetries queryRetryDelayMs
        ((Fault.unwrap maybeCollectionData).map fun maybeCollectionData =>
          ⟨maybeTokenWithOwnership, maybeTokenData, maybeCollectionData⟩, conn)
  | some (.deleteTableItem deleteTableItem) =>
    ((Fault.unwrap (fromDeleteTableItem sdk dec tok deleteTableItem txnVersion txnTimestamp
        tableHandleToOwner)).map fun maybeTokenWithOwnership =>
      ⟨maybeTokenWithOwnership, none, none⟩, conn)
  | some _ => (.ok ⟨none, none, none⟩, conn)

end Extractors

/-- The vectors and maps `from_transaction` fills. -/
structure Accumulators where
  tokenOwnerships : List TokenOwnership
  tokenDatas : List TokenData
  collectionDatas : List CollectionData
  tokens : AHashMap TokenPK Token
  currentTokenOwnerships : AHashMap CurrentTokenOwnershipPK CurrentTokenOwnership
  currentTokenDatas : AHashMap String CurrentTokenData
  currentCollectionDatas : AHashMap String CurrentCollectionData

/-- Nothing collected yet. -/
def Accumulators.empty : Accumulators := ⟨[], [], [], .empty, .empty, .empty, .empty⟩

/-- The inserts and pushes of one change. -/
def Accumulators.push (acc : Accumulators) : TokenChange → Accumulators
  | ⟨maybeTokenWithOwnership, maybeTokenData, maybeCollectionData⟩ =>
    let acc := match maybeTokenWithOwnership with
      | some (token, maybeTokenOwnership, maybeCurrentTokenOwnership) =>
        { acc with
          tokens := acc.tokens.insert token.pk token
          tokenOwnerships := acc.tokenOwnerships ++ maybeTokenOwnership.toList
          currentTokenOwnerships := match maybeCurrentTokenOwnership with
            | some c => acc.currentTokenOwnerships.insert c.pk c
            | none => acc.currentTokenOwnerships }
      | none => acc
    let acc := match maybeTokenData with
      | some (tokenData, currentTokenData) =>
        { acc with
          tokenDatas := acc.tokenDatas ++ [tokenData]
          currentTokenDatas := acc.currentTokenDatas.insert currentTokenData.tokenDataIdHash
            currentTokenData }
      | none => acc
    match maybeCollectionData with
    | some (collectionData, currentCollectionData) =>
      { acc with
        collectionDatas := acc.collectionDatas ++ [collectionData]
        currentCollectionDatas := acc.currentCollectionDatas.insert
          currentCollectionData.collectionDataIdHash currentCollectionData }
    | none => acc

section Transaction

variable (sdk : Sdk) (dec : Decoders) (tok : TokenDecoders)

/-- The loop of `from_transaction` over the changes, in order. -/
def reduceTokens (txnVersion : Int) (txnTimestamp : NaiveDateTime)
    (tableHandleToOwner : TableHandleToOwner) (queryRetries : UInt32)
    (queryRetryDelayMs : UInt64) (changes : List WriteSetChange) (conn : Conn) :
    Except Fault Accumulators × Conn :=
  forLoop (extractChange sdk dec tok txnVersion txnTimestamp tableHandleToOwner queryRetries
    queryRetryDelayMs) Accumulators.push changes Accumulators.empty conn

/-- What `Token::from_transaction` returns. -/
abbrev Output :=
  List Token × List TokenOwnership × List TokenData × List CollectionData ×
    AHashMap CurrentTokenOwnershipPK CurrentTokenOwnership × AHashMap String CurrentTokenData ×
    AHashMap String CurrentCollectionData

/-- The returned tuple, the tokens drained from their map. -/
def Accumulators.output (acc : Accumulators) : Output :=
  (acc.tokens.values, acc.tokenOwnerships, acc.tokenDatas, acc.collectionDatas,
    acc.currentTokenOwnerships, acc.currentTokenDatas, acc.currentCollectionDatas)

/-- `Token::from_transaction`: nothing for a transaction without data or not from a user. -/
def fromTransaction (transaction : Transaction) (tableHandleToOwner : TableHandleToOwner)
    (conn : Conn) (queryRetries : UInt32) (queryRetryDelayMs : UInt64) :
    Except Fault Output × Conn :=
  match transaction.txnData with
  | some .user =>
    let txnVersion := asI64 transaction.version
    match Fault.unwrapOption transaction.timestamp,
        Fault.expect "Transaction info doesn't exist!" transaction.info with
    | .ok txnTimestamp, .ok info =>
      let (r, conn) := reduceTokens sdk dec tok txnVersion txnTimestamp tableHandleToOwner
        queryRetries queryRetryDelayMs info.changes conn
      (r.map Accumulators.output, conn)
    | .error f, _ => (.error f, conn)
    | _, .error f => (.error f, conn)
  | _ => (.ok Accumulators.empty.output, conn)

/-- A transaction that goes through is what the extractors give on its changes, folded; a
transaction not from a user gives nothing. -/
theorem fromTransaction_ok {transaction : Transaction} {tableHandleToOwner : TableHandleToOwner}
    {conn : Conn} {queryRetries : UInt32} {queryRetryDelayMs : UInt64} {out : Output}
    {conn' : Conn}
    (h : fromTransaction sdk dec tok transaction tableHandleToOwner conn queryRetries
      queryRetryDelayMs = (.ok out, conn')) :
    ∃ cs : List TokenChange,
      (transaction.txnData = some .user → ∃ txnTimestamp info,
        transaction.timestamp = some txnTimestamp ∧ transaction.info = some info ∧
        collect (extractChange sdk dec tok (asI64 transaction.version) txnTimestamp
          tableHandleToOwner queryRetries queryRetryDelayMs) info.changes conn = (.ok cs, conn')) ∧
      (transaction.txnData ≠ some .user → cs = []) ∧
      out = (cs.foldl Accumulators.push .empty).output := by
  unfold fromTransaction at h
  split at h
  · rename_i huser
    rcases hts : transaction.timestamp with _ | txnTimestamp <;>
      rcases hinfo : transaction.info with _ | info <;>
      simp only [hts, hinfo, Fault.unwrapOption, Fault.expect] at h
    · cases h
    · cases h
    · cases h
    · simp only [reduceTokens, forLoop_eq_collect] at h
      rcases hc : collect (extractChange sdk dec tok (asI64 transaction.version) txnTimestamp
        tableHandleToOwner queryRetries queryRetryDelayMs) info.changes conn with
        ⟨_ | cs, c⟩ <;> rw [hc] at h
      · cases h
      · simp only [Except.map, Prod.mk.injEq, Except.ok.injEq] at h
        obtain ⟨rfl, rfl⟩ := h
        exact ⟨cs, fun _ => ⟨txnTimestamp, info, rfl, rfl, hc⟩, fun hne => absurd huser hne,
          rfl⟩
  · rename_i hnot
    simp only [Prod.mk.injEq, Except.ok.injEq] at h
    obtain ⟨rfl, rfl⟩ := h
    exact ⟨[], fun huser => (hnot huser).elim, fun _ => rfl, rfl⟩

end Transaction

end Token

end CedraIndexer

import CedraIndexer.TransactionPB
import Mathlib.Data.List.Forall2

/-!
# The transactions table

`default/models/transactions.rs`. The default processor turns each transaction of a batch into
one row of `transactions`, and the transaction's write-set changes into the rows of
`write_set_changes.rs`, which are not part of the model: `W` and `D` stand for
`WriteSetChangeModel` and `WriteSetChangeDetail`, and `PayloadHelpers` for the functions that
build them and clean payloads.

Every row counts all the changes of its transaction in `num_write_set_changes`. Only user, genesis,
block-metadata and validator transactions hand their changes on, though: a state checkpoint, a
block epilogue or a transaction without data gives a row and no write-set-change rows. A
transaction without data is read from its info alone: its type and its timestamp are not looked
at, and its row keeps the defaults of the other columns.

Nothing here returns an `Err`; a missing info, an unknown type, a missing or out-of-range timestamp,
a user transaction without its request and a genesis transaction without its payload panic, and
a panic ends the batch.
-/

namespace CedraIndexer

/-- `Transaction` of `transactions.rs` (`TransactionModel`): a row of `transactions`. -/
structure TransactionModel where
  txnVersion : Int
  blockHeight : Int
  epoch : Int
  txnType : String
  payload : Option String
  payloadType : Option String
  gasUsed : UInt64
  success : Bool
  vmStatus : String
  numEvents : Int
  numWriteSetChanges : Int
  txnHash : String
  stateChangeHash : String
  eventRootHash : String
  stateCheckpointHash : Option String
  accumulatorRootHash : String
  txnTotalBytes : Int
  blockTimestamp : NaiveDateTime
  deriving DecidableEq, Repr

/-- The helpers of the SDK, of `canonical_json` and of `write_set_changes.rs` that
`Transaction::from_transaction` calls, with the rows of `write_set_changes.rs` as `W` and `D`. -/
structure PayloadHelpers (W D : Type) where
  /-- `extract::get_clean_payload`. -/
  getCleanPayload : TransactionPayload → Int → Option JsonValue
  /-- `extract::get_payload_type`. -/
  getPayloadType : TransactionPayload → String
  /-- `extract::get_clean_writeset`. -/
  getCleanWriteset : WriteSet → Int → Option JsonValue
  /-- `canonical_json::to_string`. -/
  canonicalJsonToString : JsonValue → Except String String
  /-- `WriteSetChangeModel::from_write_set_changes`. -/
  fromWriteSetChanges : List WriteSetChange → Int → Int → NaiveDateTime → List W × List D

/-- The kinds of transaction whose changes `from_transaction` hands to
`WriteSetChangeModel::from_write_set_changes`. -/
def TxnDataPB.writesSetChanges : TxnDataPB → Bool
  | .blockMetadata _ | .genesis _ _ | .user _ _ | .validator _ => true
  | .stateCheckpoint | .blockEpilogue => false

namespace TransactionModel

section FromTransaction

variable {W D : Type} (sdk : Sdk) (chain : ChainHelpers) (helpers : PayloadHelpers W D)

/-- `Transaction::from_transaction_info`: the row of a transaction without data. The columns it
does not set keep their defaults: no type, payload or events, no bytes, and the epoch as time. -/
def fromTransactionInfo (info : TransactionInfoPB) (txnVersion epoch blockHeight : Int) :
    TransactionModel where
  txnVersion := txnVersion
  blockHeight := blockHeight
  epoch := epoch
  txnType := ""
  payload := none
  payloadType := none
  gasUsed := info.gasUsed
  success := info.success
  vmStatus := info.vmStatus
  numEvents := 0
  numWriteSetChanges := info.changes.length
  txnHash := sdk.standardizeAddress info.hash
  stateChangeHash := sdk.standardizeAddress info.stateChangeHash
  eventRootHash := sdk.standardizeAddress info.eventRootHash
  stateCheckpointHash := info.stateCheckpointHash.map sdk.standardizeAddress
  accumulatorRootHash := sdk.standardizeAddress info.accumulatorRootHash
  txnTotalBytes := 0
  blockTimestamp := 0

/-- `Transaction::from_transaction_info_with_data`. -/
def fromTransactionInfoWithData (info : TransactionInfoPB) (payload payloadType : Option String)
    (txnVersion : Int) (txnType : String) (numEvents blockHeight epoch : Int)
    (blockTimestamp : NaiveDateTime) (txnSizeInfo : Option TransactionSizeInfo) :
    TransactionModel where
  txnVersion := txnVersion
  blockHeight := blockHeight
  epoch := epoch
  txnType := txnType
  payload := payload
  payloadType := payloadType
  gasUsed := info.gasUsed
  success := info.success
  vmStatus := info.vmStatus
  numEvents := numEvents
  numWriteSetChanges := info.changes.length
  txnHash := sdk.standardizeAddress info.hash
  stateChangeHash := sdk.standardizeAddress info.stateChangeHash
  eventRootHash := sdk.standardizeAddress info.eventRootHash
  stateCheckpointHash := info.stateCheckpointHash.map sdk.standardizeAddress
  accumulatorRootHash := sdk.standardizeAddress info.accumulatorRootHash
  txnTotalBytes := (txnSizeInfo.map fun sizeInfo => (sizeInfo.transactionBytes.toNat : Int)).getD 0
  blockTimestamp := blockTimestamp

/-- `payload_cleaned.map(|payload| canonical_json::to_string(&payload).unwrap())`. -/
def serializePayload (payloadCleaned : Option JsonValue) : Except Fault (Option String) :=
  payloadCleaned.mapM fun payload => Fault.unwrapResult (helpers.canonicalJsonToString payload)

/-- `Transaction::from_transaction`. The lengths of the event and change vectors are read as
`i64` by `as`, which keeps them: a vector's length is below `2 ^ 63`. -/
def fromTransaction (transaction : TransactionPB) :
    Except Fault (TransactionModel × List W × List D) := do
  let blockHeight := asI64 transaction.blockHeight.toNat
  let epoch := asI64 transaction.epoch.toNat
  let transactionInfo ← Fault.expect "Transaction info doesn't exist!" transaction.info
  match transaction.txnData with
  | none =>
    return (fromTransactionInfo sdk transactionInfo (asI64 transaction.version.toNat) epoch
      blockHeight, [], [])
  | some txnData =>
    let txnVersion := asI64 transaction.version.toNat
    let transactionType ←
      Fault.expect "Transaction type doesn't exist!" (chain.transactionTypeName transaction.type)
    let timestamp ← Fault.expect "Transaction timestamp doesn't exist!" transaction.timestamp
    let blockTimestamp ←
      Fault.expect "Txn Timestamp is invalid!" (chain.fromTimestampOpt timestamp.seconds)
    let withData := fun payload payloadType (numEvents : Int) =>
      fromTransactionInfoWithData sdk transactionInfo payload payloadType txnVersion
        transactionType numEvents blockHeight epoch blockTimestamp transaction.sizeInfo
    let writeSetChanges :=
      helpers.fromWriteSetChanges transactionInfo.changes txnVersion blockHeight blockTimestamp
    match txnData with
    | .user request events => do
      let request ← Fault.expect "Getting user request failed." request
      let (payloadCleaned, payloadType) := match request.payload with
        | some payload =>
          (helpers.getCleanPayload payload txnVersion, some (helpers.getPayloadType payload))
        | none => (none, none)
      let serializedPayload ← serializePayload helpers payloadCleaned
      return (withData serializedPayload payloadType events.length, writeSetChanges)
    | .genesis payload events => do
      let payload ← Fault.unwrapOption payload
      let serializedPayload ← serializePayload helpers (helpers.getCleanWriteset payload txnVersion)
      return (withData serializedPayload none events.length, writeSetChanges)
    | .blockMetadata events => return (withData none none events.length, writeSetChanges)
    | .stateCheckpoint => return (withData none none 0, [], [])
    | .validator events => return (withData none none events.length, writeSetChanges)
    | .blockEpilogue => return (withData none none 0, [], [])

/-- The `for` loop of `Transaction::from_transactions`, from the vectors so far: each
transaction's row is pushed, and its write-set-change rows are appended. -/
def fromTransactionsLoop : List TransactionPB → List TransactionModel × List W × List D →
    Except Fault (List TransactionModel × List W × List D)
  | [], acc => .ok acc
  | transaction :: rest, (txns, wscs, wscDetails) =>
    match fromTransaction sdk chain helpers transaction with
    | .error f => .error f
    | .ok (txn, wscList, wscDetailList) =>
      fromTransactionsLoop rest (txns ++ [txn], wscs ++ wscList, wscDetails ++ wscDetailList)

/-- `Transaction::from_transactions`. -/
def fromTransactions (transactions : List TransactionPB) :
    Except Fault (List TransactionModel × List W × List D) :=
  fromTransactionsLoop sdk chain helpers transactions ([], [], [])

/-- A value built after a `?`: what the call returned, in the builder. -/
private theorem exists_of_bind_eq_ok {α β : Type} {x : Except Fault α} {k : α → β}
    {out : β} (h : (x >>= fun a => Except.ok (k a)) = .ok out) : ∃ a, out = k a := by
  cases x with
  | error f => cases h
  | ok a => exact ⟨a, (Except.ok.inj h).symm⟩

/-- What `from_transaction` can return: the row of the info alone for a transaction without data;
otherwise, with a known type and a timestamp in range, the row of its data, with the events of its
kind, and the write-set-change rows of its changes where its kind hands them on. -/
theorem fromTransaction_eq_ok {transaction : TransactionPB} {row : TransactionModel}
    {wsc : List W} {wscDetail : List D}
    (h : fromTransaction sdk chain helpers transaction = .ok (row, wsc, wscDetail)) :
    ∃ info, transaction.info = some info ∧
      ((transaction.txnData = none ∧
          row = fromTransactionInfo sdk info (asI64 transaction.version.toNat)
            (asI64 transaction.epoch.toNat) (asI64 transaction.blockHeight.toNat) ∧
          wsc = [] ∧ wscDetail = []) ∨
        ∃ txnData name timestamp blockTimestamp payload payloadType,
          transaction.txnData = some txnData ∧
          chain.transactionTypeName transaction.type = some name ∧
          transaction.timestamp = some timestamp ∧
          chain.fromTimestampOpt timestamp.seconds = some blockTimestamp ∧
          row = fromTransactionInfoWithData sdk info payload payloadType
            (asI64 transaction.version.toNat) name txnData.events.length
            (asI64 transaction.blockHeight.toNat) (asI64 transaction.epoch.toNat) blockTimestamp
            transaction.sizeInfo ∧
          (wsc, wscDetail) = if txnData.writesSetChanges then
            helpers.fromWriteSetChanges info.changes (asI64 transaction.version.toNat)
              (asI64 transaction.blockHeight.toNat) blockTimestamp
          else ([], [])) := by
  obtain ⟨timestamp, version, info, epoch, blockHeight, type, txnData, sizeInfo⟩ := transaction
  cases info with
  | none => cases h
  | some info =>
    refine ⟨info, rfl, ?_⟩
    cases txnData with
    | none =>
      cases h
      exact .inl ⟨rfl, rfl, rfl, rfl⟩
    | some txnData =>
      right
      cases hname : chain.transactionTypeName type with
      | none => simp [fromTransaction, hname, Fault.expect] at h
      | some name =>
      cases timestamp with
      | none => simp [fromTransaction, hname, Fault.expect] at h
      | some timestamp =>
      cases hbt : chain.fromTimestampOpt timestamp.seconds with
      | none => simp [fromTransaction, hname, hbt, Fault.expect] at h
      | some blockTimestamp =>
      simp only [fromTransaction, hname, hbt, Fault.expect_some, except_ok_bind] at h
      refine ⟨txnData, name, timestamp, blockTimestamp, ?_⟩
      cases txnData with
      | user request events =>
        cases request with
        | none => cases h
        | some request =>
          simp only [Fault.expect_some, except_ok_bind] at h
          split at h <;>
          · obtain ⟨payload, hp⟩ := exists_of_bind_eq_ok h
            simp only [Prod.mk.injEq] at hp
            exact ⟨payload, _, rfl, rfl, rfl, hbt, hp.1, hp.2.trans rfl⟩
      | genesis payload events =>
        cases payload with
        | none => cases h
        | some payload =>
          obtain ⟨serialized, hp⟩ := exists_of_bind_eq_ok h
          simp only [Prod.mk.injEq] at hp
          exact ⟨serialized, none, rfl, rfl, rfl, hbt, hp.1, hp.2.trans rfl⟩
      | _ =>
        obtain ⟨rfl, hp⟩ := Prod.mk.inj (Except.ok.inj h).symm
        exact ⟨none, none, rfl, rfl, rfl, hbt, rfl, hp.trans rfl⟩

/-- The loop is the rows of each transaction in batch order: it succeeds exactly when every
transaction does, and then pushes their rows and appends their write-set-change rows. -/
theorem fromTransactionsLoop_eq_ok {transactions : List TransactionPB}
    {acc out : List TransactionModel × List W × List D} :
    fromTransactionsLoop sdk chain helpers transactions acc = .ok out ↔
      ∃ outs, List.Forall₂
          (fun transaction o => fromTransaction sdk chain helpers transaction = .ok o)
          transactions outs ∧
        out = (acc.1 ++ outs.map (·.1), acc.2.1 ++ (outs.map (·.2.1)).flatten,
          acc.2.2 ++ (outs.map (·.2.2)).flatten) := by
  induction transactions generalizing acc with
  | nil =>
    simp only [fromTransactionsLoop, Except.ok.injEq, List.forall₂_nil_left_iff, exists_eq_left,
      List.map_nil, List.flatten_nil, List.append_nil]
    exact eq_comm
  | cons transaction rest ih =>
    obtain ⟨txns, wscs, wscDetails⟩ := acc
    simp only [fromTransactionsLoop]
    rcases h : fromTransaction sdk chain helpers transaction with f | ⟨txn, wscList, wscDetailList⟩
    · simp [List.forall₂_cons_left_iff, h]
    · rw [ih]
      constructor
      · rintro ⟨outs, hrest, rfl⟩
        exact ⟨_ :: outs, .cons h hrest, by simp⟩
      · rintro ⟨_ | ⟨o, outs⟩, hall, rfl⟩
        · cases hall
        · obtain ⟨ho, hrest⟩ := List.forall₂_cons.mp hall
          cases h.symm.trans ho
          exact ⟨outs, hrest, by simp⟩

/-- The write-set-change rows a transaction hands on: those of its changes for a user, genesis,
block-metadata or validator transaction, and none for a state checkpoint, a block epilogue, or a
transaction without info, data or a timestamp in range. -/
def writeSetChangeRows (transaction : TransactionPB) : List W × List D :=
  match transaction.info, transaction.txnData,
      transaction.timestamp.bind fun timestamp => chain.fromTimestampOpt timestamp.seconds with
  | some info, some txnData, some blockTimestamp =>
    if txnData.writesSetChanges then
      helpers.fromWriteSetChanges info.changes (asI64 transaction.version.toNat)
        (asI64 transaction.blockHeight.toNat) blockTimestamp
    else ([], [])
  | _, _, _ => ([], [])

/-- A transaction's row has its version and block height, counts all its changes and the events
of its kind; next to it come the write-set-change rows it hands on. -/
theorem fromTransaction_ok {transaction : TransactionPB} {row : TransactionModel}
    {wsc : List W} {wscDetail : List D}
    (h : fromTransaction sdk chain helpers transaction = .ok (row, wsc, wscDetail)) :
    row.txnVersion = asI64 transaction.version.toNat ∧
      row.blockHeight = asI64 transaction.blockHeight.toNat ∧
      (∃ info, transaction.info = some info ∧ row.numWriteSetChanges = info.changes.length) ∧
      row.numEvents = ((transaction.txnData.map TxnDataPB.events).getD []).length ∧
      (wsc, wscDetail) = writeSetChangeRows chain helpers transaction := by
  obtain ⟨info, hinfo, ⟨hdata, rfl, rfl, rfl⟩ |
    ⟨txnData, _, timestamp, blockTimestamp, _, _, hdata, -, hts, hbt, rfl, hw⟩⟩ :=
    fromTransaction_eq_ok sdk chain helpers h
  · simp [fromTransactionInfo, writeSetChangeRows, hinfo, hdata]
  · simp [fromTransactionInfoWithData, writeSetChangeRows, hinfo, hdata, hts, hbt, hw]

end FromTransaction

end TransactionModel

/-- The transactions table of a batch: one row per transaction, in batch order, with its version,
all its changes counted and the events of its kind counted. The write-set-change rows of the batch
are, in batch order, those each transaction hands on: a state checkpoint or a block epilogue
counts its changes and hands none of them on. -/
theorem transactions_table_of_batch {W D : Type} (sdk : Sdk) (chain : ChainHelpers)
    (helpers : PayloadHelpers W D) {transactions : List TransactionPB}
    {txns : List TransactionModel} {wscs : List W} {wscDetails : List D}
    (h : TransactionModel.fromTransactions sdk chain helpers transactions =
      .ok (txns, wscs, wscDetails)) :
    List.Forall₂ (fun transaction txn =>
        txn.txnVersion = asI64 transaction.version.toNat ∧
          (∃ info, transaction.info = some info ∧ txn.numWriteSetChanges = info.changes.length) ∧
          txn.numEvents = ((transaction.txnData.map TxnDataPB.events).getD []).length)
      transactions txns ∧
    wscs = transactions.flatMap (TransactionModel.writeSetChangeRows chain helpers · |>.1) ∧
    wscDetails =
      transactions.flatMap (TransactionModel.writeSetChangeRows chain helpers · |>.2) := by
  obtain ⟨outs, hall, hout⟩ := (TransactionModel.fromTransactionsLoop_eq_ok sdk chain helpers).mp h
  simp only [Prod.mk.injEq, List.nil_append] at hout
  obtain ⟨rfl, rfl, rfl⟩ := hout
  clear h
  induction hall with
  | nil => simp
  | @cons transaction out transactions outs hout _ ih =>
    obtain ⟨row, wsc, wscDetail⟩ := out
    obtain ⟨hversion, -, hchanges, hevents, hrows⟩ :=
      TransactionModel.fromTransaction_ok sdk chain helpers hout
    obtain ⟨ih₁, ih₂, ih₃⟩ := ih
    refine ⟨.cons ⟨hversion, hchanges, hevents⟩ ih₁, ?_, ?_⟩ <;>
      simp only [List.map_cons, List.flatten_cons, List.flatMap_cons, ← hrows, ih₂, ih₃]

/-- A user transaction and a state checkpoint with one change each: both rows count their change,
and only the user transaction's change becomes a write-set-change row. -/
theorem transactions_table_of_checkpoint_batch :
    let helpers : PayloadHelpers WriteSetChange Unit :=
      ⟨fun _ _ => none, (·.raw), fun _ _ => none, fun payload => .ok payload.raw,
        fun changes _ _ _ => (changes, changes.map fun _ => ())⟩
    let info : TransactionInfoPB :=
      ⟨"0x1", "0x2", "0x3", none, 5, true, "Executed", "0x4", [⟨some .writeModule⟩]⟩
    let batch : List TransactionPB :=
      [⟨some ⟨100, 0⟩, 1, some info, 0, 1, 4, some (.user (some ⟨none, none⟩) []), none⟩,
        ⟨some ⟨100, 0⟩, 2, some info, 0, 1, 3, some .stateCheckpoint, none⟩]
    ∃ txns, TransactionModel.fromTransactions Sdk.plain ChainHelpers.plain helpers batch =
        .ok (txns, [⟨some .writeModule⟩], [()]) ∧
      [⟨some .writeModule⟩] =
        batch.flatMap (TransactionModel.writeSetChangeRows ChainHelpers.plain helpers · |>.1) := by
  intro helpers info batch
  obtain ⟨txns, h⟩ : ∃ txns, TransactionModel.fromTransactions Sdk.plain ChainHelpers.plain helpers
      batch = .ok (txns, [⟨some .writeModule⟩], [()]) := ⟨_, rfl⟩
  exact ⟨txns, h, (transactions_table_of_batch Sdk.plain ChainHelpers.plain helpers h).2.1⟩

end CedraIndexer

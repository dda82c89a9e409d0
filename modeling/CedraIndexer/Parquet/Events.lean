import CedraIndexer.Default.Transactions
import Mathlib.Data.List.Nodup

/-!
# The events table

`parquet_events/parquet_events_model.rs`. `parse_events` gives one row per event of a
block-metadata, genesis, user or validator transaction, numbered by its place among the
transaction's events, with the sizes of the event at the same place in the size info, or zeros
where the size info is missing or shorter. The stored event type is cut to
`EVENT_TYPE_MAX_LENGTH` characters. The counter a transaction without data bumps is not modelled.
`parse_events` returns no `Err`. It accepts a transaction exactly when the transaction has a
timestamp that `parse_timestamp` reads and every event of its kind has a key; on any other
transaction it panics.

The event rows agree with the transactions table: for every transaction both processors accept,
`num_events` of its row is the number of its event rows, and those rows carry its version and
block height and are numbered `0, 1, …` without a gap, so their keys `(txn_version, event_index)`
are distinct. The two differ in what they require of a transaction: `parse_events` unwraps the
timestamp before it looks at the data, so a transaction without data and without a timestamp
panics here, while the default processor gives it a row.
-/

namespace CedraIndexer

/-- `EVENT_TYPE_MAX_LENGTH`. -/
def EVENT_TYPE_MAX_LENGTH : Nat := 300

/-- `ParquetEvent`. -/
structure ParquetEvent where
  txnVersion : Int
  accountAddress : String
  sequenceNumber : Int
  creationNumber : Int
  blockHeight : Int
  eventType : String
  data : String
  eventIndex : Int
  indexedType : String
  typeTagBytes : Int
  totalBytes : Int
  blockTimestamp : NaiveDateTime
  deriving DecidableEq, Repr

section ParseEvents

variable (sdk : Sdk) (chain : ChainHelpers)

/-- `ParquetEvent::from_event`: the key of the event is unwrapped. -/
def ParquetEvent.fromEvent (event : EventPB) (txnVersion blockHeight eventIndex : Int)
    (sizeInfo : Option EventSizeInfo) (blockTimestamp : NaiveDateTime) :
    Except Fault ParquetEvent := do
  let typeTagBytes := (sizeInfo.map fun info => (info.typeTagBytes.toNat : Int)).getD 0
  let totalBytes := (sizeInfo.map fun info => (info.totalBytes.toNat : Int)).getD 0
  let eventType := event.typeStr
  let key ← Fault.unwrapOption event.key
  return {
    txnVersion
    accountAddress := sdk.standardizeAddress key.accountAddress
    sequenceNumber := asI64 event.sequenceNumber.toNat
    creationNumber := asI64 key.creationNumber.toNat
    blockHeight
    eventType
    data := event.data
    eventIndex
    indexedType := truncateStr eventType EVENT_TYPE_MAX_LENGTH
    typeTagBytes
    totalBytes
    blockTimestamp }

/-- The `enumerate().map(..)` of `parse_events`: the row of each event, numbered from `start`. -/
def eventRows (txnVersion blockHeight : Int) (eventSizeInfo : Option (List EventSizeInfo))
    (blockTimestamp : NaiveDateTime) (events : List EventPB) (start : Nat) :
    Except Fault (List ParquetEvent) :=
  (events.enumFrom start).mapM fun (index, event) =>
    ParquetEvent.fromEvent sdk event txnVersion blockHeight index
      (eventSizeInfo.bind (·.get? index)) blockTimestamp

/-- `parse_events`. -/
def parseEvents (txn : TransactionPB) : Except Fault (List ParquetEvent) := do
  let txnVersion := asI64 txn.version.toNat
  let blockHeight := asI64 txn.blockHeight.toNat
  let timestamp ← Fault.unwrapOption txn.timestamp
  let blockTimestamp ← Fault.unwrapResult (chain.parseTimestamp timestamp txnVersion)
  match txn.txnData with
  | none => return []
  | some txnData =>
    eventRows sdk txnVersion blockHeight (txn.sizeInfo.map (·.eventSizeInfo)) blockTimestamp
      txnData.events 0

/-- A row of `from_event` carries the version, block height and number it is given, and the
account of the event's key. -/
theorem ParquetEvent.fromEvent_ok {event : EventPB} {txnVersion blockHeight eventIndex : Int}
    {sizeInfo : Option EventSizeInfo} {blockTimestamp : NaiveDateTime} {row : ParquetEvent}
    (h : ParquetEvent.fromEvent sdk event txnVersion blockHeight eventIndex sizeInfo
      blockTimestamp = .ok row) :
    row.txnVersion = txnVersion ∧ row.blockHeight = blockHeight ∧ row.eventIndex = eventIndex ∧
      ∃ key, event.key = some key ∧
        row.accountAddress = sdk.standardizeAddress key.accountAddress := by
  cases hkey : event.key with
  | none => simp [ParquetEvent.fromEvent, hkey, Fault.unwrapOption] at h
  | some key =>
    simp only [ParquetEvent.fromEvent, hkey, Fault.unwrapOption_some, except_ok_bind,
      except_pure, Except.ok.injEq] at h
    subst h
    exact ⟨rfl, rfl, rfl, key, rfl, rfl⟩

/-- `eventRows` on a first event: its row, then the rows of the rest, numbered on. -/
theorem eventRows_cons {txnVersion blockHeight : Int} {eventSizeInfo : Option (List EventSizeInfo)}
    {blockTimestamp : NaiveDateTime} (event : EventPB) (events : List EventPB) (start : Nat) :
    eventRows sdk txnVersion blockHeight eventSizeInfo blockTimestamp (event :: events) start =
      ParquetEvent.fromEvent sdk event txnVersion blockHeight start
          (eventSizeInfo.bind (·.get? start)) blockTimestamp >>= fun row =>
        eventRows sdk txnVersion blockHeight eventSizeInfo blockTimestamp events (start + 1) >>=
          fun rows => pure (row :: rows) := by
  simp only [eventRows, List.enumFrom_cons, List.mapM_cons]

/-- The rows of the events from `start` on: one per event, numbered `start, start + 1, …`, each
with the transaction's version and block height and the account of one of the events. -/
theorem eventRows_ok {txnVersion blockHeight : Int} {eventSizeInfo : Option (List EventSizeInfo)}
    {blockTimestamp : NaiveDateTime} {events : List EventPB} {start : Nat}
    {rows : List ParquetEvent}
    (h : eventRows sdk txnVersion blockHeight eventSizeInfo blockTimestamp events start =
      .ok rows) :
    rows.map (·.eventIndex) = (List.range' start events.length).map (↑) ∧
      ∀ row ∈ rows, row.txnVersion = txnVersion ∧ row.blockHeight = blockHeight ∧
        ∃ event ∈ events, ∃ key, event.key = some key ∧
          row.accountAddress = sdk.standardizeAddress key.accountAddress := by
  induction events generalizing start rows with
  | nil =>
    cases h
    simp
  | cons event events ih =>
    rw [eventRows_cons] at h
    obtain ⟨row, hrow, h⟩ := except_bind_eq_ok.mp h
    obtain ⟨rest, hrest, h⟩ := except_bind_eq_ok.mp h
    cases h
    obtain ⟨hversion, hheight, hindex, hkey⟩ := ParquetEvent.fromEvent_ok sdk hrow
    obtain ⟨hindices, hrows⟩ := ih hrest
    refine ⟨by simp [hindex, hindices, List.range'_succ], ?_⟩
    intro r hr
    rcases List.mem_cons.mp hr with rfl | hr
    · exact ⟨hversion, hheight, event, List.mem_cons_self _ _, hkey⟩
    · obtain ⟨hversion, hheight, e, he, hkey⟩ := hrows r hr
      exact ⟨hversion, hheight, e, List.mem_cons_of_mem _ he, hkey⟩

/-- The rows of the events from `start` on are built when every event has a key; otherwise the
first event without one panics in the unwrap of its key. -/
theorem eventRows_ok_or_panic {txnVersion blockHeight : Int}
    {eventSizeInfo : Option (List EventSizeInfo)} {blockTimestamp : NaiveDateTime}
    (events : List EventPB) (start : Nat) :
    ((∃ rows, eventRows sdk txnVersion blockHeight eventSizeInfo blockTimestamp events start =
        .ok rows) ∧ ∀ event ∈ events, event.key ≠ none) ∨
      (eventRows sdk txnVersion blockHeight eventSizeInfo blockTimestamp events start =
          .error (.panic "called `Option::unwrap()` on a `None` value") ∧
        ∃ event ∈ events, event.key = none) := by
  induction events generalizing start with
  | nil => exact .inl ⟨⟨[], rfl⟩, by simp⟩
  | cons event events ih =>
    rw [eventRows_cons]
    cases hkey : event.key with
    | none =>
      exact .inr ⟨by simp [ParquetEvent.fromEvent, hkey, Fault.unwrapOption],
        event, List.mem_cons_self _ _, hkey⟩
    | some key =>
      simp only [ParquetEvent.fromEvent, hkey, Fault.unwrapOption_some, except_ok_bind]
      rcases ih (start + 1) with ⟨⟨rows, hrows⟩, hkeys⟩ | ⟨hrows, e, he, hnone⟩
      · refine .inl ⟨⟨_, by rw [hrows]; rfl⟩, ?_⟩
        simpa [hkey] using hkeys
      · exact .inr ⟨by rw [hrows]; rfl, e, List.mem_cons_of_mem _ he, hnone⟩

/-- The rows of `parse_events`: one per event of the transaction's kind, numbered from `0`, each
with the transaction's version and block height and the account of one of those events. -/
theorem parseEvents_ok {txn : TransactionPB} {rows : List ParquetEvent}
    (h : parseEvents sdk chain txn = .ok rows) :
    rows.map (·.eventIndex) =
        (List.range ((txn.txnData.map TxnDataPB.events).getD []).length).map (↑) ∧
      ∀ row ∈ rows, row.txnVersion = asI64 txn.version.toNat ∧
        row.blockHeight = asI64 txn.blockHeight.toNat ∧
        ∃ event ∈ (txn.txnData.map TxnDataPB.events).getD [], ∃ key, event.key = some key ∧
          row.accountAddress = sdk.standardizeAddress key.accountAddress := by
  cases htimestamp : txn.timestamp with
  | none => simp [parseEvents, htimestamp, Fault.unwrapOption] at h
  | some timestamp =>
    rcases hparse : chain.parseTimestamp timestamp (asI64 txn.version.toNat) with _ | _ <;>
      simp only [parseEvents, htimestamp, hparse, Fault.unwrapOption_some, Fault.unwrapResult_ok,
        Fault.unwrapResult_error, except_ok_bind, except_error_bind, reduceCtorEq] at h
    cases hdata : txn.txnData with
    | none =>
      simp only [hdata, except_pure, Except.ok.injEq] at h
      simp [← h]
    | some txnData =>
      simp only [hdata] at h
      simpa [List.range_eq_range'] using eventRows_ok sdk h

end ParseEvents

/-- `parse_events` accepts a transaction exactly when it has a timestamp that `parse_timestamp`
reads and every event of its kind has a key. It has no `Err`: every other transaction panics, in
the unwrap of a `None` or in `parse_timestamp`. -/
theorem parse_events_accepts_iff (sdk : Sdk) (chain : ChainHelpers) (txn : TransactionPB) :
    ((∃ rows, parseEvents sdk chain txn = .ok rows) ↔
        (∃ timestamp blockTimestamp, txn.timestamp = some timestamp ∧
          chain.parseTimestamp timestamp (asI64 txn.version.toNat) = .ok blockTimestamp) ∧
        ∀ event ∈ (txn.txnData.map TxnDataPB.events).getD [], event.key ≠ none) ∧
      ∀ f, parseEvents sdk chain txn = .error f →
        f = .panic "called `Option::unwrap()` on a `None` value" ∨
          ∃ timestamp msg, txn.timestamp = some timestamp ∧
            chain.parseTimestamp timestamp (asI64 txn.version.toNat) = .error msg ∧
            f = .panic msg := by
  cases htimestamp : txn.timestamp with
  | none => simp [parseEvents, htimestamp, Fault.unwrapOption]
  | some timestamp =>
    rcases hparse : chain.parseTimestamp timestamp (asI64 txn.version.toNat) with
      msg | blockTimestamp
    · simp [parseEvents, htimestamp, hparse]
    simp only [parseEvents, htimestamp, hparse, Fault.unwrapOption_some, Fault.unwrapResult_ok,
      except_ok_bind]
    have htime : ∃ timestamp' blockTimestamp', some timestamp = some timestamp' ∧
        chain.parseTimestamp timestamp' (asI64 txn.version.toNat) = .ok blockTimestamp' :=
      ⟨timestamp, blockTimestamp, rfl, hparse⟩
    cases hdata : txn.txnData with
    | none => simp [hparse]
    | some txnData =>
      simp only [Option.map_some', Option.getD_some, htime, true_and]
      rcases eventRows_ok_or_panic sdk txnData.events 0 with
        ⟨hok, hkeys⟩ | ⟨hpanic, event, hevent, hnone⟩
      · refine ⟨iff_of_true hok hkeys, fun f hf => ?_⟩
        obtain ⟨rows, hrows⟩ := hok
        rw [hrows] at hf
        cases hf
      · refine ⟨iff_of_false (fun ⟨rows, hrows⟩ => ?_) (fun hkeys => hkeys event hevent hnone),
          fun f hf => ?_⟩
        · rw [hpanic] at hrows
          cases hrows
        · rw [hpanic] at hf
          cases hf
          exact .inl rfl

/-- The events table agrees with the transactions table. For a transaction both processors
accept, `num_events` of its row is the number of its event rows; those rows carry its version and
block height, and are numbered `0, 1, …` without a gap or a repeat, so their keys are distinct. -/
theorem event_rows_match_transaction_row {W D : Type} (sdk : Sdk) (chain : ChainHelpers)
    (helpers : PayloadHelpers W D) {transaction : TransactionPB} {row : TransactionModel}
    {wsc : List W} {wscDetail : List D} {events : List ParquetEvent}
    (hrow : TransactionModel.fromTransaction sdk chain helpers transaction =
      .ok (row, wsc, wscDetail))
    (hevents : parseEvents sdk chain transaction = .ok events) :
    (events.length : Int) = row.numEvents ∧
      events.map (·.eventIndex) = (List.range events.length).map (↑) ∧
      (events.map (·.eventIndex)).Nodup ∧
      ∀ event ∈ events,
        event.txnVersion = row.txnVersion ∧ event.blockHeight = row.blockHeight := by
  obtain ⟨hversion, hheight, -, hnum, -⟩ :=
    TransactionModel.fromTransaction_ok sdk chain helpers hrow
  obtain ⟨hindices, hrows⟩ := parseEvents_ok sdk chain hevents
  have hlength : events.length = ((transaction.txnData.map TxnDataPB.events).getD []).length := by
    simpa using congrArg List.length hindices
  refine ⟨by rw [hnum, hlength], by rw [hindices, hlength], ?_, fun event hevent => ?_⟩
  · rw [hindices]
    exact List.Nodup.map Nat.cast_injective (List.nodup_range _)
  · obtain ⟨hv, hh, -⟩ := hrows event hevent
    rw [hversion, hheight]
    exact ⟨hv, hh⟩

/-- A user transaction with two events: its row counts two, and the events table holds rows `0`
and `1` under its version. -/
theorem event_rows_match_user_transaction :
    let helpers : PayloadHelpers WriteSetChange Unit :=
      ⟨fun _ _ => none, (·.raw), fun _ _ => none, fun payload => .ok payload.raw,
        fun changes _ _ _ => (changes, changes.map fun _ => ())⟩
    let info : TransactionInfoPB := ⟨"0x1", "0x2", "0x3", none, 5, true, "Executed", "0x4", []⟩
    let event : EventPB := ⟨some ⟨0, "0xa"⟩, 0, "0x1::coin::DepositEvent", "{}"⟩
    let transaction : TransactionPB :=
      ⟨some ⟨100, 0⟩, 9, some info, 0, 1, 4, some (.user (some ⟨none, none⟩) [event, event]), none⟩
    ∃ row events,
      TransactionModel.fromTransaction Sdk.plain ChainHelpers.plain helpers transaction =
        .ok (row, [], []) ∧ parseEvents Sdk.plain ChainHelpers.plain transaction = .ok events ∧
      (events.length : Int) = row.numEvents ∧ events.map (·.eventIndex) = [0, 1] := by
  intro helpers info event transaction
  obtain ⟨row, hrow⟩ : ∃ row, TransactionModel.fromTransaction Sdk.plain ChainHelpers.plain helpers
      transaction = .ok (row, [], []) := ⟨_, rfl⟩
  obtain ⟨events, hevents⟩ : ∃ events, parseEvents Sdk.plain ChainHelpers.plain transaction =
      .ok events := ⟨_, rfl⟩
  obtain ⟨hnum, hindices, -⟩ :=
    event_rows_match_transaction_row Sdk.plain ChainHelpers.plain helpers hrow hevents
  have hlength : events.length = 2 := by
    simpa using congrArg List.length (Except.ok.inj hevents).symm
  exact ⟨row, events, hrow, hevents, hnum, by rw [hindices, hlength]; rfl⟩

end CedraIndexer

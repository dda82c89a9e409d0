import CedraIndexer.Proto
import CedraIndexer.Db.Retry
import CedraIndexer.Db.Loop

/-!
# Delegator share balances

`delegator_balances.rs`. A delegator's shares sit in one of two kinds of table: the active share
table of its delegation pool, found through `active_pool_to_staking_pool`, or the shares table of
one inactive pool, found through `inactive_share_to_pool` and then, from that pool's parent table,
the staking pool. The parent table is looked up in this transaction's resources first, and
otherwise in `current_delegator_balances.parent_table_handle` of earlier batches.

Each of the four extractors returns a history row and the current row for the same change.
A delete is stored as zero shares under the key the write used.

`from_transaction` makes a first pass for the inactive-pool mappings, then a second pass in
change order that pushes each history row and inserts each current row under its key.
-/

namespace CedraIndexer

/-- `CurrentDelegatorBalance`. -/
structure CurrentDelegatorBalance where
  delegatorAddress : String
  poolAddress : String
  poolType : String
  tableHandle : String
  lastTransactionVersion : Int
  shares : BigDecimal
  parentTableHandle : String
  blockTimestamp : NaiveDateTime
  deriving DecidableEq, Repr

/-- `DelegatorBalance`, the history row. -/
structure DelegatorBalance where
  transactionVersion : Int
  writeSetChangeIndex : Int
  delegatorAddress : String
  poolAddress : String
  poolType : String
  tableHandle : String
  shares : BigDecimal
  parentTableHandle : String
  blockTimestamp : NaiveDateTime
  deriving DecidableEq, Repr

/-- `ShareToStakingPoolMapping`. -/
abbrev ShareToStakingPoolMapping := AHashMap String DelegatorPoolBalanceMetadata

/-- `ShareToPoolMapping`. -/
abbrev ShareToPoolMapping := AHashMap String PoolBalanceMetadata

/-- `CurrentDelegatorBalancePK`: delegator, pool and pool type. -/
abbrev CurrentDelegatorBalancePK := String × String × String

/-- `CurrentDelegatorBalanceMap`. -/
abbrev CurrentDelegatorBalanceMap := AHashMap CurrentDelegatorBalancePK CurrentDelegatorBalance

/-- The primary key of a current row, as `from_transaction` inserts it. -/
def CurrentDelegatorBalance.pk (c : CurrentDelegatorBalance) : CurrentDelegatorBalancePK :=
  (c.delegatorAddress, c.poolAddress, c.poolType)

/-- The functions of `delegator_pools.rs` that the mappings are built from. -/
structure PoolDecoders where
  /-- `DelegatorPool::get_delegated_pool_metadata_from_write_resource`. -/
  getDelegatedPoolMetadataFromWriteResource :
    WriteResource → Int → NaiveDateTime → Except String (Option DelegatorPoolBalanceMetadata)
  /-- `DelegatorPool::get_inactive_pool_metadata_from_write_table_item`. -/
  getInactivePoolMetadataFromWriteTableItem :
    WriteTableItem → Int → Except String (Option PoolBalanceMetadata)

/-- Pool decoders that recognise no delegation pool, for running the model on examples. -/
def PoolDecoders.none : PoolDecoders :=
  ⟨fun _ _ _ => .ok Option.none, fun _ _ => .ok Option.none⟩

/-- `BigDecimal` division, which panics on a zero divisor and otherwise rounds as the crate
does. -/
def bigDecimalDiv (sdk : Sdk) (a b : BigDecimal) : Except Fault BigDecimal :=
  if b = 0 then .error (.panic "Division by zero") else .ok (sdk.divBigDecimal a b)

namespace CurrentDelegatorBalance

section Extractors

variable (sdk : Sdk) (dec : Decoders)

/-- The share count of a table item: its decoded value, a JSON string, parsed as a `BigDecimal`
and divided by the pool's scaling factor. A string that does not parse is an error that prints
the decoded value. -/
def parseShares (item : WriteTableItem) (txnVersion : Int) (scalingFactor : BigDecimal) :
    Except Fault BigDecimal :=
  match dec.decodedValue item with
  | some (.string s) =>
    match sdk.parseBigDecimal s with
    | some shares => bigDecimalDiv sdk shares scalingFactor
    | none => .error (.error ("cannot parse string as u128: " ++ dec.debugDecodedValue item ++
        ", version " ++ toString txnVersion))
  | _ => .error (.panic "called `Option::unwrap()` on a `None` value")

/-- `get_active_share_from_write_table_item`. -/
def getActiveShareFromWriteTableItem (writeTableItem : WriteTableItem) (txnVersion : Int)
    (writeSetChangeIndex : Int) (activePoolToStakingPool : ShareToStakingPoolMapping)
    (blockTimestamp : NaiveDateTime) :
    Except Fault (Option (DelegatorBalance × CurrentDelegatorBalance)) :=
  let tableHandle := sdk.standardizeAddress writeTableItem.handle
  match activePoolToStakingPool.get? tableHandle with
  | some poolBalance =>
    let poolAddress := poolBalance.stakingPoolAddress
    let delegatorAddress := sdk.standardizeAddress writeTableItem.key
    (parseShares sdk dec writeTableItem txnVersion poolBalance.scalingFactor).map fun shares =>
      some (⟨txnVersion, writeSetChangeIndex, delegatorAddress, poolAddress, "active_shares",
          tableHandle, shares, tableHandle, blockTimestamp⟩,
        ⟨delegatorAddress, poolAddress, "active_shares", tableHandle, txnVersion, shares,
          tableHandle, blockTimestamp⟩)
  | none => .ok none

/-- `get_staking_pool_from_inactive_share_handle`: `current_delegator_balances.pool_address`
of a row whose `parent_table_handle` is the handle. -/
def getStakingPoolFromInactiveShareHandle (conn : Conn) (tableHandle : String)
    (queryRetries : UInt32) (queryRetryDelayMs : UInt64) : Except String String × Conn :=
  retryLookup (.delegatorBalanceByInactiveShareHandle tableHandle)
    (fun (row : CurrentDelegatorBalanceQuery) => .ok row.poolAddress)
    (.error "Failed to get staking pool address from inactive share handle") queryRetries
    queryRetryDelayMs conn

/-- The staking pool of an inactive pool's parent table, as both inactive-share extractors
resolve it: from this transaction's mapping, else from the persisted balances. -/
def lookupInactivePool (inactivePoolToStakingPool : ShareToStakingPoolMapping)
    (inactivePoolHandle : String) (conn : Conn) (queryRetries : UInt32)
    (queryRetryDelayMs : UInt64) : Except String String × Conn :=
  match inactivePoolToStakingPool.get? inactivePoolHandle with
  | some metadata => (.ok metadata.stakingPoolAddress, conn)
  | none => getStakingPoolFromInactiveShareHandle conn inactivePoolHandle queryRetries
      queryRetryDelayMs

/-- `get_inactive_share_from_write_table_item`. An unresolved pool is logged and skipped. -/
def getInactiveShareFromWriteTableItem (writeTableItem : WriteTableItem) (txnVersion : Int)
    (writeSetChangeIndex : Int) (inactivePoolToStakingPool : ShareToStakingPoolMapping)
    (inactiveShareToPool : ShareToPoolMapping) (conn : Conn) (queryRetries : UInt32)
    (queryRetryDelayMs : UInt64) (blockTimestamp : NaiveDateTime) :
    Except Fault (Option (DelegatorBalance × CurrentDelegatorBalance)) × Conn :=
  let tableHandle := sdk.standardizeAddress writeTableItem.handle
  match inactiveShareToPool.get? tableHandle with
  | some poolBalance =>
    let inactivePoolHandle := poolBalance.parentTableHandle
    match lookupInactivePool inactivePoolToStakingPool inactivePoolHandle conn queryRetries
        queryRetryDelayMs with
    | (.error _, conn) => (.ok none, conn)
    | (.ok poolAddress, conn) =>
      let delegatorAddress := sdk.standardizeAddress writeTableItem.key
      ((parseShares sdk dec writeTableItem txnVersion poolBalance.scalingFactor).map fun shares =>
        some (⟨txnVersion, writeSetChangeIndex, delegatorAddress, poolAddress, "inactive_shares",
            tableHandle, shares, inactivePoolHandle, blockTimestamp⟩,
          ⟨delegatorAddress, poolAddress, "inactive_shares", tableHandle, txnVersion, shares,
            inactivePoolHandle, blockTimestamp⟩), conn)
  | none => (.ok none, conn)

/-- `get_active_share_from_delete_table_item`: zero shares. -/
def getActiveShareFromDeleteTableItem (deleteTableItem : DeleteTableItem) (txnVersion : Int)
    (writeSetChangeIndex : Int) (activePoolToStakingPool : ShareToStakingPoolMapping)
    (blockTimestamp : NaiveDateTime) :
    Except Fault (Option (DelegatorBalance × CurrentDelegatorBalance)) :=
  let tableHandle := sdk.standardizeAddress deleteTableItem.handle
  match activePoolToStakingPool.get? tableHandle with
  | some poolBalance =>
    let delegatorAddress := sdk.standardizeAddress deleteTableItem.key
    .ok (some (⟨txnVersion, writeSetChangeIndex, delegatorAddress, poolBalance.stakingPoolAddress,
        "active_shares", tableHandle, 0, tableHandle, blockTimestamp⟩,
      ⟨delegatorAddress, poolBalance.stakingPoolAddress, "active_shares", tableHandle, txnVersion,
        0, tableHandle, blockTimestamp⟩))
  | none => .ok none

/-- `get_inactive_share_from_delete_table_item`: zero shares; an unresolved pool is an `Err`.
Its current row keeps `table_handle` as `parent_table_handle`, where the history row and the write
path keep the inactive pool's handle. -/
def getInactiveShareFromDeleteTableItem (deleteTableItem : DeleteTableItem) (txnVersion : Int)
    (writeSetChangeIndex : Int) (inactivePoolToStakingPool : ShareToStakingPoolMapping)
    (inactiveShareToPool : ShareToPoolMapping) (conn : Conn) (queryRetries : UInt32)
    (queryRetryDelayMs : UInt64) (blockTimestamp : NaiveDateTime) :
    Except Fault (Option (DelegatorBalance × CurrentDelegatorBalance)) × Conn :=
  let tableHandle := sdk.standardizeAddress deleteTableItem.handle
  match inactiveShareToPool.get? tableHandle with
  | some poolBalance =>
    let inactivePoolHandle := poolBalance.parentTableHandle
    match lookupInactivePool inactivePoolToStakingPool inactivePoolHandle conn queryRetries
        queryRetryDelayMs with
    | (.error _, conn) =>
      (.error (.error ("Failed to get staking pool from inactive share handle " ++
        inactivePoolHandle ++ ", txn version " ++ toString txnVersion)), conn)
    | (.ok poolAddress, conn) =>
      let delegatorAddress := sdk.standardizeAddress deleteTableItem.key
      (.ok (some (⟨txnVersion, writeSetChangeIndex, delegatorAddress, poolAddress,
          "inactive_shares", tableHandle, 0, inactivePoolHandle, blockTimestamp⟩,
        ⟨delegatorAddress, poolAddress, "inactive_shares", tableHandle, txnVersion, 0,
          tableHandle, blockTimestamp⟩)), conn)
  | none => (.ok none, conn)

/-- `get_active_share_from_write_table_item` emits only for an active share table, with the
parsed shares, and both rows keyed by the item's delegator and that table's pool. -/
theorem getActiveShareFromWriteTableItem_some {item : WriteTableItem} {txnVersion i : Int}
    {activePoolToStakingPool : ShareToStakingPoolMapping} {ts : NaiveDateTime}
    {h : DelegatorBalance} {c : CurrentDelegatorBalance}
    (hr : getActiveShareFromWriteTableItem sdk dec item txnVersion i activePoolToStakingPool ts =
      .ok (some (h, c))) :
    ∃ pb shares, activePoolToStakingPool.get? (sdk.standardizeAddress item.handle) = some pb ∧
      parseShares sdk dec item txnVersion pb.scalingFactor = .ok shares ∧
      h = ⟨txnVersion, i, sdk.standardizeAddress item.key, pb.stakingPoolAddress, "active_shares",
        sdk.standardizeAddress item.handle, shares, sdk.standardizeAddress item.handle, ts⟩ ∧
      c = ⟨sdk.standardizeAddress item.key, pb.stakingPoolAddress, "active_shares",
        sdk.standardizeAddress item.handle, txnVersion, shares, sdk.standardizeAddress item.handle,
        ts⟩ := by
  simp only [getActiveShareFromWriteTableItem] at hr
  split at hr
  · rename_i pb hpb
    cases hs : parseShares sdk dec item txnVersion pb.scalingFactor with
    | error e => simp [hs, Except.map] at hr
    | ok shares =>
      simp only [hs, Except.map, Except.ok.injEq, Option.some.injEq, Prod.mk.injEq] at hr
      exact ⟨pb, shares, hpb, hs, hr.1.symm, hr.2.symm⟩
  · cases hr

/-- `get_active_share_from_delete_table_item` emits exactly for an active share table: zero
shares, keyed by the item's delegator and that table's pool. -/
theorem getActiveShareFromDeleteTableItem_eq (item : DeleteTableItem) (txnVersion i : Int)
    (activePoolToStakingPool : ShareToStakingPoolMapping) (ts : NaiveDateTime) :
    getActiveShareFromDeleteTableItem sdk item txnVersion i activePoolToStakingPool ts =
      .ok ((activePoolToStakingPool.get? (sdk.standardizeAddress item.handle)).map fun pb =>
        (⟨txnVersion, i, sdk.standardizeAddress item.key, pb.stakingPoolAddress, "active_shares",
          sdk.standardizeAddress item.handle, 0, sdk.standardizeAddress item.handle, ts⟩,
        ⟨sdk.standardizeAddress item.key, pb.stakingPoolAddress, "active_shares",
          sdk.standardizeAddress item.handle, txnVersion, 0, sdk.standardizeAddress item.handle,
          ts⟩)) := by
  simp only [getActiveShareFromDeleteTableItem]
  split <;> simp_all

/-- `get_inactive_share_from_write_table_item` emits only for an inactive share table whose pool
resolved, with the parsed shares; both rows keep the inactive pool's handle as parent. -/
theorem getInactiveShareFromWriteTableItem_some {item : WriteTableItem} {txnVersion i : Int}
    {inactivePoolToStakingPool : ShareToStakingPoolMapping}
    {inactiveShareToPool : ShareToPoolMapping}
    {conn : Conn} {n : UInt32} {d : UInt64} {ts : NaiveDateTime}
    {h : DelegatorBalance} {c : CurrentDelegatorBalance}
    (hr : (getInactiveShareFromWriteTableItem sdk dec item txnVersion i inactivePoolToStakingPool
      inactiveShareToPool conn n d ts).1 = .ok (some (h, c))) :
    ∃ pb poolAddress shares,
      inactiveShareToPool.get? (sdk.standardizeAddress item.handle) = some pb ∧
      (lookupInactivePool inactivePoolToStakingPool pb.parentTableHandle conn n d).1 =
        .ok poolAddress ∧
      parseShares sdk dec item txnVersion pb.scalingFactor = .ok shares ∧
      h = ⟨txnVersion, i, sdk.standardizeAddress item.key, poolAddress, "inactive_shares",
        sdk.standardizeAddress item.handle, shares, pb.parentTableHandle, ts⟩ ∧
      c = ⟨sdk.standardizeAddress item.key, poolAddress, "inactive_shares",
        sdk.standardizeAddress item.handle, txnVersion, shares, pb.parentTableHandle, ts⟩ := by
  simp only [getInactiveShareFromWriteTableItem] at hr
  split at hr
  · rename_i pb hpb
    rcases hl : lookupInactivePool inactivePoolToStakingPool pb.parentTableHandle conn n d with
      ⟨_ | poolAddress, conn'⟩ <;> simp only [hl] at hr
    · cases hr
    · cases hs : parseShares sdk dec item txnVersion pb.scalingFactor with
      | error e => simp [hs, Except.map] at hr
      | ok shares =>
        simp only [hs, Except.map, Except.ok.injEq, Option.some.injEq, Prod.mk.injEq] at hr
        exact ⟨pb, poolAddress, shares, hpb, by rw [hl], hs, hr.1.symm, hr.2.symm⟩
  · cases hr

/-- `get_inactive_share_from_delete_table_item` emits only for an inactive share table whose pool
resolved: zero shares; the history row's parent is the inactive pool's handle, the current
row's the share table's own handle. -/
theorem getInactiveShareFromDeleteTableItem_some {item : DeleteTableItem} {txnVersion i : Int}
    {inactivePoolToStakingPool : ShareToStakingPoolMapping}
    {inactiveShareToPool : ShareToPoolMapping}
    {conn : Conn} {n : UInt32} {d : UInt64} {ts : NaiveDateTime}
    {h : DelegatorBalance} {c : CurrentDelegatorBalance}
    (hr : (getInactiveShareFromDeleteTableItem sdk item txnVersion i inactivePoolToStakingPool
      inactiveShareToPool conn n d ts).1 = .ok (some (h, c))) :
    ∃ pb poolAddress,
      inactiveShareToPool.get? (sdk.standardizeAddress item.handle) = some pb ∧
      (lookupInactivePool inactivePoolToStakingPool pb.parentTableHandle conn n d).1 =
        .ok poolAddress ∧
      h = ⟨txnVersion, i, sdk.standardizeAddress item.key, poolAddress, "inactive_shares",
        sdk.standardizeAddress item.handle, 0, pb.parentTableHandle, ts⟩ ∧
      c = ⟨sdk.standardizeAddress item.key, poolAddress, "inactive_shares",
        sdk.standardizeAddress item.handle, txnVersion, 0, sdk.standardizeAddress item.handle,
        ts⟩ := by
  simp only [getInactiveShareFromDeleteTableItem] at hr
  split at hr
  · rename_i pb hpb
    rcases hl : lookupInactivePool inactivePoolToStakingPool pb.parentTableHandle conn n d with
      ⟨_ | poolAddress, conn'⟩ <;> simp only [hl] at hr
    · cases hr
    · simp only [Except.ok.injEq, Option.some.injEq, Prod.mk.injEq] at hr
      exact ⟨pb, poolAddress, hpb, by rw [hl], hr.1.symm, hr.2.symm⟩
  · cases hr

/-- Conversely, `get_inactive_share_from_delete_table_item` emits for every inactive share table
whose pool resolves. -/
theorem getInactiveShareFromDeleteTableItem_of_lookup {item : DeleteTableItem}
    {inactivePoolToStakingPool : ShareToStakingPoolMapping}
    {inactiveShareToPool : ShareToPoolMapping}
    {conn : Conn} {n : UInt32} {d : UInt64} {pb : PoolBalanceMetadata} {poolAddress : String}
    (hpb : inactiveShareToPool.get? (sdk.standardizeAddress item.handle) = some pb)
    (hl : (lookupInactivePool inactivePoolToStakingPool pb.parentTableHandle conn n d).1 =
      .ok poolAddress) (txnVersion i : Int) (ts : NaiveDateTime) :
    (getInactiveShareFromDeleteTableItem sdk item txnVersion i inactivePoolToStakingPool
      inactiveShareToPool conn n d ts).1 =
      .ok (some (⟨txnVersion, i, sdk.standardizeAddress item.key, poolAddress, "inactive_shares",
          sdk.standardizeAddress item.handle, 0, pb.parentTableHandle, ts⟩,
        ⟨sdk.standardizeAddress item.key, poolAddress, "inactive_shares",
          sdk.standardizeAddress item.handle, txnVersion, 0, sdk.standardizeAddress item.handle,
          ts⟩)) := by
  rcases hl' : lookupInactivePool inactivePoolToStakingPool pb.parentTableHandle conn n d with
    ⟨r, conn'⟩
  rw [hl'] at hl
  cases hl
  simp only [getInactiveShareFromDeleteTableItem, hpb, hl']

end Extractors

section Mappings

variable (pools : PoolDecoders)

/-- `get_active_pool_to_staking_pool_mapping`: keyed by the pool's active share table. -/
def getActivePoolToStakingPoolMapping (writeResource : WriteResource) (txnVersion : Int)
    (blockTimestamp : NaiveDateTime) : Except String (Option ShareToStakingPoolMapping) :=
  (pools.getDelegatedPoolMetadataFromWriteResource writeResource txnVersion blockTimestamp).map
    (Option.map fun balance => AHashMap.singleton balance.activeShareTableHandle balance)

/-- `get_inactive_pool_to_staking_pool_mapping`: keyed by the pool's inactive share table. -/
def getInactivePoolToStakingPoolMapping (writeResource : WriteResource) (txnVersion : Int)
    (blockTimestamp : NaiveDateTime) : Except String (Option ShareToStakingPoolMapping) :=
  (pools.getDelegatedPoolMetadataFromWriteResource writeResource txnVersion blockTimestamp).map
    (Option.map fun balance => AHashMap.singleton balance.inactiveShareTableHandle balance)

/-- `get_inactive_share_to_pool_mapping`: keyed by the inactive pool's shares table. -/
def getInactiveShareToPoolMapping (writeTableItem : WriteTableItem) (txnVersion : Int) :
    Except String (Option ShareToPoolMapping) :=
  (pools.getInactivePoolMetadataFromWriteTableItem writeTableItem txnVersion).map
    (Option.map fun balance => AHashMap.singleton balance.sharesTableHandle balance)

/-- The first pass of `from_transaction`: the inactive pools of the transaction's delegation pool
resources, and the shares tables of its inactive pool table items. -/
def inactiveMappings (txnVersion : Int) (txnTimestamp : NaiveDateTime) :
    List WriteSetChange → ShareToStakingPoolMapping → ShareToPoolMapping →
      Except Fault (ShareToStakingPoolMapping × ShareToPoolMapping)
  | [], inactivePoolToStakingPool, inactiveShareToPool =>
    .ok (inactivePoolToStakingPool, inactiveShareToPool)
  | wsc :: rest, inactivePoolToStakingPool, inactiveShareToPool =>
    match wsc.change with
    | none => Fault.unwrapOption none
    | some (.writeResource writeResource) =>
      match Fault.unwrapResult
          (getInactivePoolToStakingPoolMapping pools writeResource txnVersion txnTimestamp) with
      | .error f => .error f
      | .ok map =>
        inactiveMappings txnVersion txnTimestamp rest
          ((map.map inactivePoolToStakingPool.extend).getD inactivePoolToStakingPool)
          inactiveShareToPool
    | some (.writeTableItem tableItem) =>
      match Fault.unwrapResult (getInactiveShareToPoolMapping pools tableItem txnVersion) with
      | .error f => .error f
      | .ok map =>
        inactiveMappings txnVersion txnTimestamp rest inactivePoolToStakingPool
          ((map.map inactiveShareToPool.extend).getD inactiveShareToPool)
    | some _ => inactiveMappings txnVersion txnTimestamp rest inactivePoolToStakingPool
        inactiveShareToPool

end Mappings

/-- What the second pass of `from_transaction` reads besides the change: the transaction, the
three mappings and the retry settings. -/
structure SharePass where
  txnVersion : Int
  txnTimestamp : NaiveDateTime
  activePoolToStakingPool : ShareToStakingPoolMapping
  inactivePoolToStakingPool : ShareToStakingPoolMapping
  inactiveShareToPool : ShareToPoolMapping
  queryRetries : UInt32
  queryRetryDelayMs : UInt64

section Transaction

variable (sdk : Sdk) (dec : Decoders) (pools : PoolDecoders)

/-- `if let Some(rows) = first.unwrap() { Some(rows) } else { second.unwrap() }`: the second
extractor runs, on the connection, only where the first gives nothing. -/
def activeElseInactive {γ : Type} (first : Except Fault (Option γ))
    (second : Conn → Except Fault (Option γ) × Conn) (conn : Conn) :
    Except Fault (Option γ) × Conn :=
  match Fault.unwrap first with
  | .ok (some rows) => (.ok (some rows), conn)
  | .ok none =>
    let (r, conn) := second conn
    (Fault.unwrap r, conn)
  | .error f => (.error f, conn)

/-- The body of the second pass on the change at `index`: the active-share extractor, and the
inactive-share one when the active one gives nothing. Every `Err` is unwrapped to a panic. -/
def extractShares (p : SharePass) (conn : Conn) :
    Nat × WriteSetChange →
      Except Fault (Option (DelegatorBalance × CurrentDelegatorBalance)) × Conn
  | (index, wsc) =>
    match wsc.change with
    | none => (Fault.unwrapOption none, conn)
    | some (.deleteTableItem tableItem) =>
      activeElseInactive (getActiveShareFromDeleteTableItem sdk tableItem p.txnVersion index
          p.activePoolToStakingPool p.txnTimestamp)
        (fun conn => getInactiveShareFromDeleteTableItem sdk tableItem p.txnVersion index
          p.inactivePoolToStakingPool p.inactiveShareToPool conn p.queryRetries p.queryRetryDelayMs
          p.txnTimestamp) conn
    | some (.writeTableItem tableItem) =>
      activeElseInactive (getActiveShareFromWriteTableItem sdk dec tableItem p.txnVersion index
          p.activePoolToStakingPool p.txnTimestamp)
        (fun conn => getInactiveShareFromWriteTableItem sdk dec tableItem p.txnVersion index
          p.inactivePoolToStakingPool p.inactiveShareToPool conn p.queryRetries p.queryRetryDelayMs
          p.txnTimestamp) conn
    | some _ => (.ok none, conn)

/-- What the four share extractors give on the change at `index`, from the connection `conn` to
`conn'`: the active-share extractor of the change's kind, or, where it gives nothing, the
inactive-share one of that kind. A change that is not a table item gives nothing. -/
def SharesOfChange (p : SharePass) (conn : Conn) :
    Nat × WriteSetChange → Option (DelegatorBalance × CurrentDelegatorBalance) → Conn → Prop
  | (index, wsc), out, conn' =>
    match wsc.change with
    | none => False
    | some (.deleteTableItem tableItem) =>
      (∃ r, out = some r ∧ conn' = conn ∧ getActiveShareFromDeleteTableItem sdk tableItem
        p.txnVersion index p.activePoolToStakingPool p.txnTimestamp = .ok (some r)) ∨
      getActiveShareFromDeleteTableItem sdk tableItem p.txnVersion index p.activePoolToStakingPool
          p.txnTimestamp = .ok none ∧
        getInactiveShareFromDeleteTableItem sdk tableItem p.txnVersion index
          p.inactivePoolToStakingPool p.inactiveShareToPool conn p.queryRetries p.queryRetryDelayMs
          p.txnTimestamp = (.ok out, conn')
    | some (.writeTableItem tableItem) =>
      (∃ r, out = some r ∧ conn' = conn ∧ getActiveShareFromWriteTableItem sdk dec tableItem
        p.txnVersion index p.activePoolToStakingPool p.txnTimestamp = .ok (some r)) ∨
      getActiveShareFromWriteTableItem sdk dec tableItem p.txnVersion index
          p.activePoolToStakingPool p.txnTimestamp = .ok none ∧
        getInactiveShareFromWriteTableItem sdk dec tableItem p.txnVersion index
          p.inactivePoolToStakingPool p.inactiveShareToPool conn p.queryRetries p.queryRetryDelayMs
          p.txnTimestamp = (.ok out, conn')
    | some _ => out = none ∧ conn' = conn

/-- What one change adds to `delegator_balances` and `current_delegator_balances`: the history row
is pushed, the current row inserted under `(delegator_address, pool_address, pool_type)`. -/
def absorbShares (acc : List DelegatorBalance × CurrentDelegatorBalanceMap) :
    Option (DelegatorBalance × CurrentDelegatorBalance) →
      List DelegatorBalance × CurrentDelegatorBalanceMap
  | some (delegatorBalance, currentDelegatorBalance) =>
    (acc.1 ++ [delegatorBalance], acc.2.insert currentDelegatorBalance.pk currentDelegatorBalance)
  | none => acc

/-- The second pass, over the changes with their indices. -/
def reduceShares (p : SharePass) (changes : List WriteSetChange) (conn : Conn) :
    Except Fault (List DelegatorBalance × CurrentDelegatorBalanceMap) × Conn :=
  forLoop (extractShares sdk dec p) absorbShares changes.enum ([], .empty) conn

/-- The first pass of `from_transaction` and what the second pass reads: the timestamp and the
changes are unwrapped, and the inactive-pool mappings built. -/
def sharePass (transaction : Transaction) (activePoolToStakingPool : ShareToStakingPoolMapping)
    (queryRetries : UInt32) (queryRetryDelayMs : UInt64) :
    Except Fault (SharePass × List WriteSetChange) := do
  let txnVersion := asI64 transaction.version
  let txnTimestamp ← Fault.unwrapOption transaction.timestamp
  let info ← Fault.unwrapOption transaction.info
  let (inactivePoolToStakingPool, inactiveShareToPool) ←
    inactiveMappings pools txnVersion txnTimestamp info.changes .empty .empty
  return (⟨txnVersion, txnTimestamp, activePoolToStakingPool, inactivePoolToStakingPool,
    inactiveShareToPool, queryRetries, queryRetryDelayMs⟩, info.changes)

/-- Every row the share extractors give on the change at `index` carries that index and the
transaction's version. -/
theorem SharesOfChange.tag {p : SharePass} {conn conn' : Conn} {index : Nat}
    {wsc : WriteSetChange} {h : DelegatorBalance} {c : CurrentDelegatorBalance}
    (hr : SharesOfChange sdk dec p conn (index, wsc) (some (h, c)) conn') :
    h.writeSetChangeIndex = index ∧ h.transactionVersion = p.txnVersion := by
  rcases hc : wsc.change with _ | (_ | _ | tableItem | _ | _ | tableItem) <;>
    simp only [SharesOfChange, hc, reduceCtorEq, false_and] at hr
  · rcases hr with ⟨_, ⟨⟩, -, ha⟩ | ⟨-, hi⟩
    · rw [getActiveShareFromDeleteTableItem_eq] at ha
      obtain ⟨_, -, rfl, -⟩ := by simpa using ha
      exact ⟨rfl, rfl⟩
    · obtain ⟨_, _, -, -, rfl, -⟩ := getInactiveShareFromDeleteTableItem_some sdk (by rw [hi])
      exact ⟨rfl, rfl⟩
  · rcases hr with ⟨_, ⟨⟩, -, ha⟩ | ⟨-, hi⟩
    · obtain ⟨_, _, -, -, rfl, -⟩ := getActiveShareFromWriteTableItem_some sdk dec ha
      exact ⟨rfl, rfl⟩
    · obtain ⟨_, _, _, -, -, -, rfl, -⟩ :=
        getInactiveShareFromWriteTableItem_some sdk dec (by rw [hi])
      exact ⟨rfl, rfl⟩

/-- The accumulators after a run of changes: the history rows appended in order, the current rows
inserted in order. -/
theorem foldl_absorbShares (outs : List (Option (DelegatorBalance × CurrentDelegatorBalance)))
    (hist : List DelegatorBalance) (m : CurrentDelegatorBalanceMap) :
    outs.foldl absorbShares (hist, m) =
      (hist ++ (outs.filterMap id).map Prod.fst,
        ((outs.filterMap id).map Prod.snd).foldl (fun m r => m.insert r.pk r) m) := by
  induction outs generalizing hist m with
  | nil => simp
  | cons o outs ih =>
    cases o with
    | none => exact ih hist m
    | some r => simpa [absorbShares] using ih (hist ++ [r.1]) (m.insert r.2.pk r.2)

/-- The second pass is the list of what the extractors give, folded: the history rows in change
order, and each current row inserted under its key. -/
theorem reduceShares_eq (p : SharePass) (changes : List WriteSetChange) (conn : Conn) :
    reduceShares sdk dec p changes conn =
      match collect (extractShares sdk dec p) changes.enum conn with
      | (.ok outs, conn) =>
        (.ok ((outs.filterMap id).map Prod.fst,
          ((outs.filterMap id).map Prod.snd).foldl (fun m r => m.insert r.pk r) .empty), conn)
      | (.error f, conn) => (.error f, conn) := by
  rw [reduceShares, forLoop_eq_collect]
  rcases collect (extractShares sdk dec p) changes.enum conn with ⟨_ | outs, conn'⟩
  · rfl
  · simp only [foldl_absorbShares, List.nil_append]

/-- `CurrentDelegatorBalance::from_transaction`. -/
def fromTransaction (transaction : Transaction)
    (activePoolToStakingPool : ShareToStakingPoolMapping) (conn : Conn) (queryRetries : UInt32)
    (queryRetryDelayMs : UInt64) :
    Except Fault (List DelegatorBalance × CurrentDelegatorBalanceMap) × Conn :=
  match sharePass pools transaction activePoolToStakingPool queryRetries queryRetryDelayMs with
  | .ok (p, changes) => reduceShares sdk dec p changes conn
  | .error f => (.error f, conn)

/-- A transaction that goes through is its first pass, then what the extractors give on its
changes, folded. -/
theorem fromTransaction_ok {transaction : Transaction}
    {activePoolToStakingPool : ShareToStakingPoolMapping} {conn : Conn} {queryRetries : UInt32}
    {queryRetryDelayMs : UInt64} {V : List DelegatorBalance} {M : CurrentDelegatorBalanceMap}
    {conn' : Conn}
    (h : fromTransaction sdk dec pools transaction activePoolToStakingPool conn queryRetries
      queryRetryDelayMs = (.ok (V, M), conn')) :
    ∃ p changes outs,
      sharePass pools transaction activePoolToStakingPool queryRetries queryRetryDelayMs =
        .ok (p, changes) ∧
      collect (extractShares sdk dec p) changes.enum conn = (.ok outs, conn') ∧
      V = (outs.filterMap id).map Prod.fst ∧
      M = ((outs.filterMap id).map Prod.snd).foldl (fun m r => m.insert r.pk r) .empty := by
  unfold fromTransaction at h
  rcases hs : sharePass pools transaction activePoolToStakingPool queryRetries
    queryRetryDelayMs with _ | ⟨p, changes⟩ <;> simp only [hs] at h
  · cases h
  · rw [reduceShares_eq] at h
    rcases hc : collect (extractShares sdk dec p) changes.enum conn with ⟨_ | outs, c⟩ <;>
      simp only [hc] at h
    · cases h
    · simp only [Prod.mk.injEq, Except.ok.injEq] at h
      obtain ⟨⟨rfl, rfl⟩, rfl⟩ := h
      exact ⟨p, changes, outs, rfl, hc, rfl, rfl⟩

end Transaction

end CurrentDelegatorBalance

end CedraIndexer

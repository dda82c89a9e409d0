import CedraIndexer.Stake.DelegatedVoter
import CedraIndexer.Token.CollectionDatas

/-!
# The cross-batch resolver

Three extractors find context an earlier batch wrote by looking it up in the current-state
tables, each with the same bounded retry: the creator of a collection table, the pool of a
vote-delegation table and of an inactive pool's share tables, and whether a delegated voter
exists. This module states the lookups' shared contract, what the default voters of delegators
from before vote delegation rest on, and whether the rows each extractor writes are the ones its
lookup reads back.

The inactive-share extractors go to the store only for what the transaction does not bring
itself: the first pass of `from_transaction` maps the inactive pool of every delegation pool
resource and the shares table of every inactive pool table item among the changes, in whatever
order they come.

The storer is not part of this crate. As the spec describes it, it upserts each current row under
its primary key, replacing the stored one; `Database.upsertDelegatorBalances` is that for
`current_delegator_balances`, with the `inserted_at` the database gives the row.
-/

namespace CedraIndexer

/-- A `current_delegator_balances` row as the store holds it. -/
def CurrentDelegatorBalance.toQuery (c : CurrentDelegatorBalance) (insertedAt : NaiveDateTime) :
    CurrentDelegatorBalanceQuery :=
  ⟨c.delegatorAddress, c.poolAddress, c.poolType, c.tableHandle, c.lastTransactionVersion,
    insertedAt, c.shares, c.parentTableHandle⟩

/-- Modelled from the spec: the storer upserts each current row under its primary key. -/
def Database.upsertDelegatorBalances (db : Database) (rows : List CurrentDelegatorBalance)
    (insertedAt : NaiveDateTime) : Database :=
  let upsert m (c : CurrentDelegatorBalance) := AHashMap.insert m c.pk (c.toQuery insertedAt)
  { db with currentDelegatorBalances := rows.foldl upsert db.currentDelegatorBalances }

/-- The inactive-share delete path breaks the resolver's round trip. A share table `0xs` of the
inactive pool `0xp` of staking pool `0xpool`: the write of a share stores `0xp` as the row's
`parent_table_handle`, and once upserted, a later batch's lookup by `0xp` finds `0xpool`. The
delete of the same share resolves the same pool but stores `0xs`, and after it the lookup by `0xp`
finds nothing. -/
theorem inactive_delete_row_misses_pool_lookup :
    let write : WriteTableItem :=
      ⟨"0xs", "0xd", some ⟨.string "0xd", "address", .string "5", "u128"⟩⟩
    let delete : DeleteTableItem := ⟨"0xs", "0xd", none⟩
    let shareToPool : ShareToPoolMapping := .singleton "0xs" ⟨"0xs", "0xp", 1⟩
    let poolToStaking : ShareToStakingPoolMapping :=
      .singleton "0xp" ⟨"0xpool", 1, "0xa", "0xp"⟩
    let conn := Conn.ofDatabase .empty fun _ => false
    let lookup (c : CurrentDelegatorBalance) :=
      (CurrentDelegatorBalance.getStakingPoolFromInactiveShareHandle
        (Conn.ofDatabase (Database.empty.upsertDelegatorBalances [c] 0) fun _ => false) "0xp" 3 0).1
    (∃ h c, (CurrentDelegatorBalance.getInactiveShareFromWriteTableItem Sdk.plain .direct write
        7 0 poolToStaking shareToPool conn 3 0 0).1 = .ok (some (h, c)) ∧
      c.parentTableHandle = "0xp" ∧ lookup c = .ok "0xpool") ∧
    (∃ h c, (CurrentDelegatorBalance.getInactiveShareFromDeleteTableItem Sdk.plain delete 7 0
        poolToStaking shareToPool conn 3 0 0).1 = .ok (some (h, c)) ∧
      c.poolAddress = "0xpool" ∧ c.parentTableHandle = "0xs" ∧
      lookup c = .error "Failed to get staking pool address from inactive share handle") := by
  intro write delete shareToPool poolToStaking conn lookup
  refine ⟨⟨_, _, rfl, rfl, ?_⟩, ⟨_, _, rfl, rfl, rfl, ?_⟩⟩ <;>
    simp only [lookup, CurrentDelegatorBalance.getStakingPoolFromInactiveShareHandle,
      (retryLookup_spec _ 3 0 _ _ _).1] <;> rfl

/-- Where a row is written after its key was resolved, it stores the key in the column the later
lookup filters on, as that lookup receives it, and the resolved value in the column it reads: a
collection keeps its table handle and its creator, standardized; an inactive share written to a
table keeps the inactive pool's handle it was resolved by, and the pool it resolved to. -/
theorem resolved_rows_store_lookup_key (sdk : Sdk) (dec : Decoders) :
    (∀ (item : WriteTableItem) (data : WriteTableData) (collectionData : CollectionDataType)
        txnVersion ts tableHandleToOwner conn n d creator,
      item.data = some data →
      TokenWriteSet.decode data.valueType data.value =
        .ok (some (.collectionData collectionData)) →
      (CollectionData.resolveCreator sdk tableHandleToOwner item.handle conn n d).1 =
        some creator →
      ∃ row current, (CollectionData.fromWriteTableItem sdk dec item txnVersion ts
          tableHandleToOwner conn n d).1 = .ok (some (row, current)) ∧
        current.tableHandle = item.handle ∧
        current.creatorAddress = sdk.standardizeAddress creator) ∧
    (∀ (item : WriteTableItem) txnVersion i inactivePoolToStakingPool inactiveShareToPool conn n d
        ts h c,
      (CurrentDelegatorBalance.getInactiveShareFromWriteTableItem sdk dec item txnVersion i
        inactivePoolToStakingPool inactiveShareToPool conn n d ts).1 = .ok (some (h, c)) →
      ∃ pb : PoolBalanceMetadata,
        inactiveShareToPool.get? (sdk.standardizeAddress item.handle) = some pb ∧
        c.parentTableHandle = pb.parentTableHandle ∧
        (CurrentDelegatorBalance.lookupInactivePool inactivePoolToStakingPool pb.parentTableHandle
          conn n d).1 = .ok c.poolAddress) := by
  refine ⟨fun item data collectionData txnVersion ts owners conn n d creator hdata hvalue
    hcreator => ⟨_, _, CollectionData.fromWriteTableItem_of_creator sdk dec hdata hvalue hcreator
      txnVersion ts, rfl, rfl⟩, fun item txnVersion i pools shares conn n d ts h c hr => ?_⟩
  obtain ⟨pb, poolAddress, -, hpb, hl, -, -, rfl⟩ :=
    CurrentDelegatorBalance.getInactiveShareFromWriteTableItem_some sdk dec hr
  exact ⟨pb, hpb, rfl, hl⟩

/-- A collection in a table of `0xa`, and a share in the table `0xs` of the inactive pool `0xp`. -/
theorem resolved_rows_store_lookup_key_in_one_batch :
    let collectionData : CollectionDataType := ⟨"d", 10, ⟨true, true, true⟩, "coll", 1, "u"⟩
    let collectionItem : WriteTableItem := ⟨"0xt", "k", some ⟨.string "coll",
      "0x1::string::String", .collectionData collectionData, "0x3::token::CollectionData"⟩⟩
    let owners : TableHandleToOwner := .singleton "0xt" ⟨"0xa", "0x3::token::Collections"⟩
    let share : WriteTableItem :=
      ⟨"0xs", "0xd", some ⟨.string "0xd", "address", .string "5", "u128"⟩⟩
    let shareToPool : ShareToPoolMapping := .singleton "0xs" ⟨"0xs", "0xp", 1⟩
    let poolToStaking : ShareToStakingPoolMapping :=
      .singleton "0xp" ⟨"0xpool", 1, "0xa", "0xp"⟩
    let conn := Conn.ofDatabase .empty fun _ => false
    (∃ row current, (CollectionData.fromWriteTableItem Sdk.plain .direct collectionItem 7 0 owners
        conn 3 0).1 = .ok (some (row, current)) ∧ current.tableHandle = "0xt" ∧
      current.creatorAddress = "0xa") ∧
    ∃ h c, (CurrentDelegatorBalance.getInactiveShareFromWriteTableItem Sdk.plain .direct share 7 0
        poolToStaking shareToPool conn 3 0 0).1 = .ok (some (h, c)) ∧
      ∃ pb : PoolBalanceMetadata, shareToPool.get? "0xs" = some pb ∧
        c.parentTableHandle = pb.parentTableHandle ∧
        (CurrentDelegatorBalance.lookupInactivePool poolToStaking pb.parentTableHandle conn 3 0).1 =
          .ok c.poolAddress := by
  intro collectionData collectionItem owners share shareToPool poolToStaking conn
  have hr := resolved_rows_store_lookup_key Sdk.plain .direct
  exact ⟨hr.1 collectionItem _ collectionData 7 0 owners conn 3 0 "0xa" rfl rfl rfl, _, _, rfl,
    hr.2 share 7 0 poolToStaking shareToPool conn 3 0 0 _ _ rfl⟩

section Contract

variable (conn : Conn) (n : UInt32) (d : UInt64)

/-- Bounded retry: each of the four persisted lookups meets `LookupContract` at its own statement,
column and failure; `attempts` is `min n k` for the first row at the `k`-th reply, and `n` with no
row; `a` attempts issue `a` statements and `a - 1` sleeps; and the `u32` counter does not wrap. -/
theorem lookups_bounded_retry (tableHandle delegatorAddress poolAddress : String) :
    LookupContract (.collectionDataByTableHandle tableHandle) n d
      (fun (row : CurrentCollectionDataQuery) => (.ok row.creatorAddress : Except String String))
      (.error "Failed to get collection creator") conn
      (CollectionData.getCollectionCreator conn tableHandle n d) ∧
    LookupContract (.delegatedVoterByTableHandle tableHandle) n d
      (fun (row : CurrentDelegatedVoterQuery) =>
        (.ok row.delegationPoolAddress : Except String String))
      (.error "Failed to get delegation pool address from vote delegation write table handle") conn
      (CurrentDelegatedVoter.getDelegationPoolAddressByTableHandle conn tableHandle n d) ∧
    LookupContract (.delegatedVoterByPk delegatorAddress poolAddress) n d (fun _ => true) false conn
      (CurrentDelegatedVoter.getExistenceByPk conn delegatorAddress poolAddress n d) ∧
    LookupContract (.delegatorBalanceByInactiveShareHandle tableHandle) n d
      (fun (row : CurrentDelegatorBalanceQuery) => (.ok row.poolAddress : Except String String))
      (.error "Failed to get staking pool address from inactive share handle") conn
      (CurrentDelegatorBalance.getStakingPoolFromInactiveShareHandle conn tableHandle n d) ∧
    (∀ (s : Statement) (k : Nat), (conn.upcoming s k).isOk = true →
      (∀ j < k, (conn.upcoming s j).isOk = false) →
      attempts (conn.upcoming s) n.toNat = min n.toNat (k + 1)) ∧
    (∀ s : Statement, (∀ j, (conn.upcoming s j).isOk = false) →
      attempts (conn.upcoming s) n.toNat = n.toNat) ∧
    (∀ (s : Statement) (a : Nat),
      (retryTrace s d a).count (.query s) = a ∧ (retryTrace s d a).count (.sleep d) = a - 1) ∧
    (∀ tried : UInt32, tried < n → (tried + 1).toNat = tried.toNat + 1) :=
  ⟨retryLookup_spec _ n d _ _ conn, retryLookup_spec _ n d _ _ conn,
    retryLookup_spec _ n d _ _ conn, retryLookup_spec _ n d _ _ conn,
    fun _ k => attempts_of_first_ok _ _ k, fun _ => attempts_of_forall_error _ _,
    fun s a => retryTrace_count s d a, fun _ h => UInt32.toNat_add_one_of_lt h⟩

end Contract

/-- Three retries against a store that holds the collection but fails the first two attempts:
the row is found at the third, so three statements go out. -/
theorem lookups_bounded_retry_third_attempt :
    let row : CurrentCollectionDataQuery :=
      ⟨"0xc", "0xa", "c", "", "", 0, 0, false, false, false, 1, 0, "0xh", 0⟩
    let conn := Conn.ofDatabase ⟨.singleton "0xc" row, .empty, .empty⟩ fun i => decide (i < 2)
    let s := Statement.collectionDataByTableHandle "0xh"
    attempts (conn.upcoming s) (3 : UInt32).toNat = min 3 (2 + 1) ∧
    attempts ((Conn.ofDatabase .empty fun _ => false).upcoming s) (3 : UInt32).toNat = 3 ∧
    ((1 : UInt32) + 1).toNat = (1 : UInt32).toNat + 1 := by
  intro row conn s
  have h := lookups_bounded_retry conn 3 0 "0xh" "0xd" "0xp"
  have h' := lookups_bounded_retry (Conn.ofDatabase .empty fun _ => false) 3 0 "0xh" "0xd" "0xp"
  exact ⟨h.2.2.2.2.1 s 2 rfl (by decide), h'.2.2.2.2.2.1 s fun _ => rfl,
    h.2.2.2.2.2.2.2 1 (by decide)⟩

namespace CurrentDelegatedVoter

section PreContract

variable (sdk : Sdk) (dec : Decoders)

/-- A voter row "already exists" when this batch has one, or an attempt of the lookup found one. -/
theorem alreadyExists_fst (previousDelegatedVoters : CurrentDelegatedVoterMap)
    (poolAddress delegatorAddress : String) (conn : Conn) (n : UInt32) (d : UInt64) :
    (alreadyExists previousDelegatedVoters poolAddress delegatorAddress conn n d).1 =
      ((previousDelegatedVoters.get? (poolAddress, delegatorAddress)).isSome ||
        (firstRow (conn.upcoming (.delegatedVoterByPk delegatorAddress poolAddress))
          n.toNat).isSome) := by
  unfold alreadyExists
  cases previousDelegatedVoters.get? (poolAddress, delegatorAddress) with
  | some _ => rfl
  | none =>
    rw [getExistenceByPk, (retryLookup_spec _ n d _ _ conn).1]
    cases firstRow (conn.upcoming (.delegatedVoterByPk delegatorAddress poolAddress)) n.toNat <;>
      rfl

/-- `get_delegators_pre_contract_deployment` in one step: an active share's delegator gets the
default row unless it already exists. -/
theorem getDelegatorsPreContractDeployment_fst (writeTableItem : WriteTableItem)
    (txnVersion : Int) (txnTimestamp : NaiveDateTime)
    (activePoolToStakingPool : ShareToStakingPoolMapping)
    (previousDelegatedVoters : CurrentDelegatedVoterMap) (conn : Conn) (n : UInt32) (d : UInt64) :
    (getDelegatorsPreContractDeployment sdk dec writeTableItem txnVersion txnTimestamp
      activePoolToStakingPool previousDelegatedVoters conn n d).1 =
    match CurrentDelegatorBalance.getActiveShareFromWriteTableItem sdk dec writeTableItem
        txnVersion 0 activePoolToStakingPool txnTimestamp with
    | .error f => .error f
    | .ok none => .ok none
    | .ok (some (_, c)) =>
      if (alreadyExists previousDelegatedVoters c.poolAddress c.delegatorAddress conn n d).1 then
        .ok none
      else .ok (some (defaultVoter c.poolAddress c.delegatorAddress txnVersion txnTimestamp)) := by
  unfold getDelegatorsPreContractDeployment
  rcases CurrentDelegatorBalance.getActiveShareFromWriteTableItem sdk dec writeTableItem txnVersion
    0 activePoolToStakingPool txnTimestamp with _ | _ | ⟨h, c⟩
  · rfl
  · rfl
  · dsimp only
    rcases alreadyExists previousDelegatedVoters c.poolAddress c.delegatorAddress conn n d with
      ⟨_ | _, conn'⟩ <;> rfl

/-- A default voter row is emitted exactly for an active share whose delegator has no row in this
batch and none among the first `query_retries` replies of the store: a failed or skipped lookup
counts as absence. -/
theorem getDelegatorsPreContractDeployment_some_iff (writeTableItem : WriteTableItem)
    (txnVersion : Int) (txnTimestamp : NaiveDateTime)
    (activePoolToStakingPool : ShareToStakingPoolMapping)
    (previousDelegatedVoters : CurrentDelegatedVoterMap) (conn : Conn) (n : UInt32) (d : UInt64)
    (voter : CurrentDelegatedVoter) :
    (getDelegatorsPreContractDeployment sdk dec writeTableItem txnVersion txnTimestamp
      activePoolToStakingPool previousDelegatedVoters conn n d).1 = .ok (some voter) ↔
    ∃ h c, CurrentDelegatorBalance.getActiveShareFromWriteTableItem sdk dec writeTableItem
        txnVersion 0 activePoolToStakingPool txnTimestamp = .ok (some (h, c)) ∧
      previousDelegatedVoters.get? (c.poolAddress, c.delegatorAddress) = none ∧
      (∀ j < n.toNat,
        (conn.upcoming (.delegatedVoterByPk c.delegatorAddress c.poolAddress) j).isOk = false) ∧
      voter = defaultVoter c.poolAddress c.delegatorAddress txnVersion txnTimestamp := by
  rw [getDelegatorsPreContractDeployment_fst]
  rcases CurrentDelegatorBalance.getActiveShareFromWriteTableItem sdk dec writeTableItem txnVersion
    0 activePoolToStakingPool txnTimestamp with _ | _ | ⟨h, c⟩
  · simp
  · simp
  · dsimp only
    rw [alreadyExists_fst]
    constructor
    · intro hv
      refine ⟨h, c, rfl, ?_⟩
      rcases hp : previousDelegatedVoters.get? (c.poolAddress, c.delegatorAddress) with _ | _ <;>
        rcases hf : firstRow (conn.upcoming (.delegatedVoterByPk c.delegatorAddress c.poolAddress))
          n.toNat with _ | _ <;> simp [hp, hf] at hv
      exact ⟨rfl, (firstRow_eq_none_iff _ _).mp hf, hv.symm⟩
    · rintro ⟨_, _, he, hp, hall, rfl⟩
      obtain ⟨rfl, rfl⟩ : h = _ ∧ c = _ := by simpa using he
      rw [hp, (firstRow_eq_none_iff _ _).mpr hall]
      rfl

end PreContract

/-- A stored voter row is overwritten by a default one: the store holds a row for the delegator,
and with no retries, or with every attempt failing transiently, the lookup finds nothing and the
default row is emitted. -/
theorem default_voter_over_stored_row :
    let item : WriteTableItem :=
      ⟨"0xh", "0xd", some ⟨.string "0xd", "address", .string "5", "u128"⟩⟩
    let active : ShareToStakingPoolMapping := .singleton "0xh" ⟨"0xpool", 1, "0xh", "0xi"⟩
    let stored : CurrentDelegatedVoterQuery :=
      ⟨"0xpool", "0xd", some "0xt", some "0xv", some "0xv", 3, 0, 0⟩
    let db : Database := ⟨.empty, .singleton ("0xpool", "0xd") stored, .empty⟩
    db.first (.delegatedVoterByPk "0xd" "0xpool") = .ok stored ∧
    (getDelegatorsPreContractDeployment Sdk.plain .direct item 7 0 active .empty
      (Conn.ofDatabase db fun _ => false) 0 0).1 = .ok (some (defaultVoter "0xpool" "0xd" 7 0)) ∧
    (getDelegatorsPreContractDeployment Sdk.plain .direct item 7 0 active .empty
      (Conn.ofDatabase db fun _ => true) 3 0).1 = .ok (some (defaultVoter "0xpool" "0xd" 7 0)) := by
  intro item active stored db
  refine ⟨rfl, ?_, ?_⟩ <;> refine (getDelegatorsPreContractDeployment_some_iff Sdk.plain .direct
    item 7 0 active .empty _ _ 0 _).2 ⟨_, _, rfl, rfl, fun j hj => ?_, rfl⟩
  · exact absurd hj (Nat.not_lt_zero j)
  · rfl

end CurrentDelegatedVoter

end CedraIndexer

import CedraIndexer.Token.CollectionDatas

/-!
# The owners of token tables in a batch

A token v1 table item does not say whose table it is in. Before the token processor reads any
table item, it makes one pass over the whole batch: every `Collections`, `TokenStore` and
`PendingClaims` resource that a user transaction writes maps the handle of the table it holds to
the account it sits under (`TableMetadataForToken::get_table_handle_to_owner_from_transactions`).
The extractors look a table item's owner up in that mapping, and only on a miss ask the store.

The pass covers the batch whatever its order: the table of such a resource in any user transaction
is mapped, for the table items of earlier transactions as well as later ones, and a later resource
for the same table replaces an earlier one. `get_table_handle_to_owner` standardizes the handle
its accessor already standardized, while the extractors look up the item's handle standardized
once; the two meet where `standardize_address` is idempotent.
-/

namespace CedraIndexer

namespace TableMetadataForToken

section Pass

variable (sdk : Sdk) (dec : Decoders) (addrs : FrameworkAddresses)

/-- `TableMetadataForToken::get_table_handle_to_owner`: the table a token resource holds, keyed by
its handle standardized again, owned by the resource's account. -/
def getTableHandleToOwner (writeResource : WriteResource) (txnVersion : Int) :
    Except Fault (Option TableHandleToOwner) :=
  fromSupportedWriteResource dec (TokenResource.isResourceSupported addrs)
    ("Error processing write resource: " ++ ·)
    (fun typeStr resource data => do
      let value : TableMetadataForToken := ⟨resource.resourceAddress, writeResource.typeStr⟩
      let tokenResource ←
        (TokenResource.fromResource dec addrs typeStr data txnVersion).mapError .error
      return some (.singleton (sdk.standardizeAddress (tokenResource.tableHandle sdk)) value))
    writeResource

/-- The inner loop of `get_table_handle_to_owner_from_transactions`, over one user transaction's
changes: the mapping of each write resource, unwrapped, extends the one so far. -/
def ownersOfChanges (txnVersion : Int) :
    List WriteSetChange → TableHandleToOwner → Except Fault TableHandleToOwner
  | [], tableHandleToOwner => .ok tableHandleToOwner
  | wsc :: rest, tableHandleToOwner =>
    match wsc.change with
    | none => Fault.unwrapOption none
    | some (.writeResource writeResource) =>
      match Fault.unwrap (getTableHandleToOwner sdk dec addrs writeResource txnVersion) with
      | .error f => .error f
      | .ok maybeMap =>
        ownersOfChanges txnVersion rest
          ((maybeMap.map tableHandleToOwner.extend).getD tableHandleToOwner)
    | some _ => ownersOfChanges txnVersion rest tableHandleToOwner

/-- The outer loop of `get_table_handle_to_owner_from_transactions`, from the mapping so far: the
changes of each user transaction, in batch order; other transactions are skipped. -/
def ownersOfTransactions :
    List Transaction → TableHandleToOwner → Except Fault TableHandleToOwner
  | [], tableHandleToOwner => .ok tableHandleToOwner
  | transaction :: rest, tableHandleToOwner =>
    match transaction.txnData with
    | some .user =>
      match Fault.expect "Transaction info doesn't exist!" transaction.info,
          Fault.unwrapOption transaction.timestamp with
      | .ok info, .ok _ =>
        match ownersOfChanges sdk dec addrs (asI64 transaction.version) info.changes
            tableHandleToOwner with
        | .ok tableHandleToOwner => ownersOfTransactions rest tableHandleToOwner
        | .error f => .error f
      | .error f, _ => .error f
      | _, .error f => .error f
    | _ => ownersOfTransactions rest tableHandleToOwner

/-- `TableMetadataForToken::get_table_handle_to_owner_from_transactions`. -/
def getTableHandleToOwnerFromTransactions (transactions : List Transaction) :
    Except Fault TableHandleToOwner :=
  ownersOfTransactions sdk dec addrs transactions .empty

/-- A token resource that converts and decodes maps its table to its account. -/
theorem getTableHandleToOwner_of_decoded {writeResource : WriteResource} {txnVersion : Int}
    {resource : MoveResource} {data : MoveValue} {tokenResource : TokenResource}
    (hres : dec.moveResourceFromWriteResource writeResource = .ok (some resource))
    (hdata : resource.data = some data)
    (hdecode : TokenResource.fromResource dec addrs
      (dec.getOuterTypeFromWriteResource writeResource) data txnVersion = .ok tokenResource) :
    getTableHandleToOwner sdk dec addrs writeResource txnVersion =
      .ok (some (.singleton (sdk.standardizeAddress (tokenResource.tableHandle sdk))
        ⟨resource.resourceAddress, writeResource.typeStr⟩)) := by
  simp [getTableHandleToOwner, fromSupportedWriteResource, Except.mapError,
    TokenResource.isResourceSupported_of_fromResource hdecode, hres, hdata, hdecode]

/-- One change of the pass: the mapping only gains keys, and a write resource adds the keys of
its own mapping. -/
theorem ownersOfChanges_cons_ok {txnVersion : Int} {wsc : WriteSetChange}
    {rest : List WriteSetChange} {m M : TableHandleToOwner}
    (h : ownersOfChanges sdk dec addrs txnVersion (wsc :: rest) m = .ok M) :
    ∃ m', ownersOfChanges sdk dec addrs txnVersion rest m' = .ok M ∧
      (∀ k, (m.get? k).isSome → (m'.get? k).isSome) ∧
      ∀ writeResource map, wsc.change = some (.writeResource writeResource) →
        getTableHandleToOwner sdk dec addrs writeResource txnVersion = .ok (some map) →
        ∀ k, (map.get? k).isSome → (m'.get? k).isSome := by
  obtain ⟨change⟩ := wsc
  cases change with
  | none => cases h
  | some c =>
    cases c with
    | writeResource writeResource =>
      simp only [ownersOfChanges] at h
      rcases hm : Fault.unwrap (getTableHandleToOwner sdk dec addrs writeResource txnVersion) with
        f | maybeMap <;> rw [hm] at h
      · cases h
      refine ⟨_, h, fun k hk => by simp [hk], ?_⟩
      rintro _ map ⟨⟩ hmap k hk
      cases (Fault.unwrap_eq_ok _ _).mp hm ▸ hmap
      simp [hk]
    | _ => exact ⟨m, h, fun _ => id, by simp⟩

/-- The pass over one transaction's changes, whatever their order: every key it starts from stays,
and every write resource among the changes leaves the keys of its mapping. -/
theorem ownersOfChanges_covers {txnVersion : Int} {changes : List WriteSetChange}
    {m M : TableHandleToOwner} (h : ownersOfChanges sdk dec addrs txnVersion changes m = .ok M) :
    (∀ k, (m.get? k).isSome → (M.get? k).isSome) ∧
      ∀ writeResource map, ⟨some (.writeResource writeResource)⟩ ∈ changes →
        getTableHandleToOwner sdk dec addrs writeResource txnVersion = .ok (some map) →
        ∀ k, (map.get? k).isSome → (M.get? k).isSome := by
  induction changes generalizing m with
  | nil =>
    cases h
    exact ⟨fun _ => id, by simp⟩
  | cons wsc rest ih =>
    obtain ⟨m', hr, hkeep, hadd⟩ := ownersOfChanges_cons_ok sdk dec addrs h
    obtain ⟨ihkeep, ihadd⟩ := ih hr
    refine ⟨fun k hk => ihkeep k (hkeep k hk), ?_⟩
    rintro writeResource map (_ | ⟨_, hmem⟩) hmap k hk
    exacts [ihkeep k (hadd writeResource map rfl hmap k hk), ihadd writeResource map hmem hmap k hk]

/-- One transaction of the pass: the mapping only gains keys, and a user transaction adds the
keys its changes leave. -/
theorem ownersOfTransactions_cons_ok {transaction : Transaction} {rest : List Transaction}
    {m M : TableHandleToOwner}
    (h : ownersOfTransactions sdk dec addrs (transaction :: rest) m = .ok M) :
    ∃ m', ownersOfTransactions sdk dec addrs rest m' = .ok M ∧
      (∀ k, (m.get? k).isSome → (m'.get? k).isSome) ∧
      ∀ info, transaction.txnData = some .user → transaction.info = some info →
        ∀ writeResource map, ⟨some (.writeResource writeResource)⟩ ∈ info.changes →
        getTableHandleToOwner sdk dec addrs writeResource (asI64 transaction.version) =
          .ok (some map) →
        ∀ k, (map.get? k).isSome → (m'.get? k).isSome := by
  unfold ownersOfTransactions at h
  split at h
  · rename_i huser
    rcases hinfo : transaction.info with _ | info <;>
      rcases hts : transaction.timestamp with _ | txnTimestamp <;>
      simp only [hinfo, hts, Fault.expect, Fault.unwrapOption] at h
    · cases h
    · cases h
    · cases h
    rcases hm : ownersOfChanges sdk dec addrs (asI64 transaction.version) info.changes m with
      f | m' <;> rw [hm] at h
    · cases h
    obtain ⟨hkeep, hadd⟩ := ownersOfChanges_covers sdk dec addrs hm
    exact ⟨m', h, hkeep, fun info' _ hinfo' => by cases hinfo'; exact hadd⟩
  · rename_i hnot
    exact ⟨m, h, fun _ => id, fun _ huser => absurd huser hnot⟩

/-- The pass over a batch, whatever its order: every key it starts from stays, and every write
resource of every user transaction in the batch leaves the keys of its mapping. -/
theorem ownersOfTransactions_covers {transactions : List Transaction} {m M : TableHandleToOwner}
    (h : ownersOfTransactions sdk dec addrs transactions m = .ok M) :
    (∀ k, (m.get? k).isSome → (M.get? k).isSome) ∧
      ∀ transaction ∈ transactions, ∀ info, transaction.txnData = some .user →
        transaction.info = some info →
        ∀ writeResource map, ⟨some (.writeResource writeResource)⟩ ∈ info.changes →
        getTableHandleToOwner sdk dec addrs writeResource (asI64 transaction.version) =
          .ok (some map) →
        ∀ k, (map.get? k).isSome → (M.get? k).isSome := by
  induction transactions generalizing m with
  | nil =>
    cases h
    exact ⟨fun _ => id, by simp⟩
  | cons transaction rest ih =>
    obtain ⟨m', hr, hkeep, hadd⟩ := ownersOfTransactions_cons_ok sdk dec addrs h
    obtain ⟨ihkeep, ihadd⟩ := ih hr
    refine ⟨fun k hk => ihkeep k (hkeep k hk), ?_⟩
    rintro t (_ | ⟨_, hmem⟩) info huser hinfo writeResource map hwr hmap k hk
    exacts [ihkeep k (hadd info huser hinfo writeResource map hwr hmap k hk),
      ihadd t hmem info huser hinfo writeResource map hwr hmap k hk]

end Pass

end TableMetadataForToken

/-- The batch pass maps the table of every `Collections`, `TokenStore` and `PendingClaims` resource
that a user transaction of the batch writes, for the items of every transaction of the batch,
before or after it. Where `standardize_address` is idempotent, the extractors' lookup of that table
finds an owner, and an item of a collection table resolves its creator from the batch, with no
query and the connection untouched. -/
theorem batch_table_owners_cover (sdk : Sdk) (dec : Decoders) (addrs : FrameworkAddresses)
    (hidem : ∀ x, sdk.standardizeAddress (sdk.standardizeAddress x) = sdk.standardizeAddress x)
    {transactions : List Transaction} {owners : TableHandleToOwner}
    (h : TableMetadataForToken.getTableHandleToOwnerFromTransactions sdk dec addrs transactions =
      .ok owners)
    {transaction : Transaction} (htxn : transaction ∈ transactions)
    (huser : transaction.txnData = some .user) {info : TransactionInfo}
    (hinfo : transaction.info = some info) {writeResource : WriteResource}
    (hwr : ⟨some (.writeResource writeResource)⟩ ∈ info.changes) {resource : MoveResource}
    (hres : dec.moveResourceFromWriteResource writeResource = .ok (some resource))
    {data : MoveValue} (hdata : resource.data = some data) {tokenResource : TokenResource}
    (hdecode : TokenResource.fromResource dec addrs
      (dec.getOuterTypeFromWriteResource writeResource) data (asI64 transaction.version) =
        .ok tokenResource) :
    (owners.get? (tokenResource.tableHandle sdk)).isSome ∧
      ∀ collection, tokenResource = .collectionResource collection →
        ∀ conn n d, ∃ creator, CollectionData.resolveCreator sdk owners
          collection.collectionData.handle conn n d = (some creator, conn) := by
  obtain ⟨-, hcover⟩ := TableMetadataForToken.ownersOfTransactions_covers sdk dec addrs h
  have hkey := hcover transaction htxn info huser hinfo writeResource _ hwr
    (TableMetadataForToken.getTableHandleToOwner_of_decoded sdk dec addrs hres hdata hdecode)
    (sdk.standardizeAddress (tokenResource.tableHandle sdk)) (by simp)
  have hstd : sdk.standardizeAddress (tokenResource.tableHandle sdk) =
      tokenResource.tableHandle sdk := by
    cases tokenResource <;> simp only [TokenResource.tableHandle, Table.getHandle, hidem]
  rw [hstd] at hkey
  refine ⟨hkey, ?_⟩
  rintro collection rfl conn n d
  obtain ⟨owner, howner⟩ := Option.isSome_iff_exists.mp hkey
  have hlookup : owners.get? (sdk.standardizeAddress collection.collectionData.handle) =
      some owner := howner
  exact ⟨owner.getOwnerAddress sdk, by simp [CollectionData.resolveCreator, hlookup]⟩

/-- A batch whose first transaction writes an item of the collection table `0xt`, and whose second
writes the `Collections` resource of `0xa` holding that table: the pass maps `0xt`, and the first
transaction's item resolves its creator from the batch. -/
theorem batch_table_owners_cover_later_resource :
    let collections : CollectionResourceType := ⟨⟨"0xt"⟩, ⟨"0xd"⟩⟩
    let resource : WriteResource :=
      ⟨"0xa", "0xk", none, "0x3::token::Collections", .collectionResource collections⟩
    let item : WriteTableItem := ⟨"0xt", "0xc", none⟩
    let batch : List Transaction :=
      [⟨1, some 0, some ⟨[⟨some (.writeTableItem item)⟩]⟩, some .user⟩,
        ⟨2, some 0, some ⟨[⟨some (.writeResource resource)⟩]⟩, some .user⟩]
    ∃ owners, TableMetadataForToken.getTableHandleToOwnerFromTransactions Sdk.plain .direct
        .standard batch = .ok owners ∧
      (owners.get? "0xt").isSome ∧
      ∀ conn n d, ∃ creator,
        CollectionData.resolveCreator Sdk.plain owners "0xt" conn n d = (some creator, conn) := by
  intro collections resource item batch
  obtain ⟨hkey, hcreator⟩ := @batch_table_owners_cover Sdk.plain .direct .standard
    (fun _ => rfl) batch _ rfl (batch.get ⟨1, by decide⟩) (by simp [batch]) rfl _ rfl resource
    (by simp) _ rfl _ rfl _ rfl
  exact ⟨_, rfl, hkey, hcreator collections rfl⟩

end CedraIndexer

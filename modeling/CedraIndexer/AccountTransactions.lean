import CedraIndexer.TransactionPB
import CedraIndexer.TokenV2.TokenDatas

/-!
# The accounts a transaction touches

`AccountTransaction::get_accounts` of the integration tests' `account_transaction_models.rs`,
with the object metadata of `objects/v2_object_utils.rs` it reads. The accounts of a transaction
are the signers of a user transaction, the accounts of its events, the accounts of the resources
it deletes or writes, and the owner of every object it writes, collected into a set by three
loops. A state checkpoint or a block epilogue touches no account, whatever it changes.

`ObjectCore::from_write_resource`, the default method of `FromWriteResource`, and
`UserTransaction::get_signatures` are not part of this crate; they are the arguments
`AccountHelpers`. `ObjectWithMetadata` keeps of its object core the owner, as `ownerAddress`.
-/

namespace CedraIndexer

/-- `ObjectCore`. -/
structure ObjectCore where
  allowUngatedTransfer : Bool
  guidCreationNum : BigDecimal
  owner : String
  deriving DecidableEq, Repr

/-- `Signature` of `user_transactions`: the signer it records. -/
structure Signature where
  signer : String
  deriving DecidableEq, Repr

/-- What `get_accounts` calls outside this crate. -/
structure AccountHelpers where
  /-- `ObjectCore::from_write_resource`: the object core of a resource of its type. -/
  objectCoreFromWriteResource : WriteResource → Except String (Option ObjectCore)
  /-- `UserTransaction::get_signatures`. -/
  getSignatures : UserTransactionRequest → Int → Int → NaiveDateTime → List Signature

section Accounts

variable (sdk : Sdk) (chain : ChainHelpers) (helpers : AccountHelpers)

/-- `ObjectWithMetadata::from_write_resource`: the object core's owner, with the resource's state
key hash standardized. -/
def ObjectWithMetadata.fromWriteResource (writeResource : WriteResource) :
    Except String (Option ObjectWithMetadata) :=
  (helpers.objectCoreFromWriteResource writeResource).map
    (·.map fun objectCore => ⟨objectCore.owner, sdk.standardizeAddress writeResource.stateKeyHash⟩)

/-- The body of the loop over events: the account of the event's key, which is unwrapped. -/
def addEventAccount (accounts : AHashSet String) (event : EventPB) :
    Except Fault (AHashSet String) := do
  let key ← Fault.unwrapOption event.key
  return accounts.insert (sdk.standardizeAddress key.accountAddress)

/-- The body of the loop over changes, whose change is unwrapped: the account of a deleted or
written resource, and the owner of an object written, `inner.object_core.get_owner_address()`. -/
def addChangeAccounts (accounts : AHashSet String) (wsc : WriteSetChange) :
    Except Fault (AHashSet String) := do
  match ← Fault.unwrapOption wsc.change with
  | .deleteResource res => return accounts.insert (sdk.standardizeAddress res.address)
  | .writeResource res =>
    let accounts := accounts.insert (sdk.standardizeAddress res.address)
    match ← Fault.unwrapResult (ObjectWithMetadata.fromWriteResource sdk helpers res) with
    | some inner => return accounts.insert (sdk.standardizeAddress inner.ownerAddress)
    | none => return accounts
  | _ => return accounts

/-- `AccountTransaction::get_accounts`. -/
def getAccounts (transaction : TransactionPB) : Except Fault (AHashSet String) := do
  let txnVersion := asI64 transaction.version.toNat
  match transaction.txnData with
  | none => return .empty
  | some txnData =>
    let transactionInfo ← Fault.expect
      ("Transaction info doesn't exist for version " ++ toString txnVersion) transaction.info
    let eventsAndSignatures ← match txnData with
      | .user request events => do
        let request ←
          Fault.expect ("User request doesn't exist for version " ++ toString txnVersion) request
        let timestamp ← Fault.unwrapOption transaction.timestamp
        let blockTimestamp ← Fault.unwrapResult (chain.parseTimestamp timestamp txnVersion)
        pure (some (events, helpers.getSignatures request txnVersion
          (asI64 transaction.blockHeight.toNat) blockTimestamp))
      | .genesis _ events | .blockMetadata events | .validator events => pure (some (events, []))
      | _ => pure none
    match eventsAndSignatures with
    | none => return .empty
    | some (events, signatures) =>
      let accounts := signatures.foldl (fun accounts sig => accounts.insert sig.signer) .empty
      let accounts ← events.foldlM (addEventAccount sdk) accounts
      transactionInfo.changes.foldlM (addChangeAccounts sdk helpers) accounts

/-- The account an event touches: that of its key. -/
def EventTouches (event : EventPB) (account : String) : Prop :=
  ∃ key, event.key = some key ∧ sdk.standardizeAddress key.accountAddress = account

/-- The accounts a change touches: the account of a deleted or written resource, and the owner of
an object written. -/
def ChangeTouches (wsc : WriteSetChange) (account : String) : Prop :=
  (∃ res, wsc.change = some (.deleteResource res) ∧ sdk.standardizeAddress res.address = account) ∨
    ∃ res, wsc.change = some (.writeResource res) ∧
      (sdk.standardizeAddress res.address = account ∨
        ∃ object, ObjectWithMetadata.fromWriteResource sdk helpers res = .ok (some object) ∧
          sdk.standardizeAddress object.ownerAddress = account)

/-- The signatures `get_accounts` reads: those of a user transaction's request at its parsed
timestamp, none otherwise. -/
def signaturesOf (transaction : TransactionPB) : List Signature :=
  let txnVersion := asI64 transaction.version.toNat
  match transaction.txnData, transaction.timestamp.map (chain.parseTimestamp · txnVersion) with
  | some (.user (some request) _), some (.ok blockTimestamp) =>
    helpers.getSignatures request txnVersion (asI64 transaction.blockHeight.toNat) blockTimestamp
  | _, _ => []

/-- A loop whose body adds to the set what each element touches, and may panic: when it ends,
the set holds what it started with and what every element touches. -/
theorem contains_foldlM {α : Type} {step : AHashSet String → α → Except Fault (AHashSet String)}
    {Touches : α → String → Prop}
    (hstep : ∀ s x s', step s x = .ok s' →
      ∀ account, s'.contains account = true ↔ Touches x account ∨ s.contains account = true)
    {xs : List α} {s s' : AHashSet String} (h : xs.foldlM step s = .ok s') (account : String) :
    s'.contains account = true ↔ (∃ x ∈ xs, Touches x account) ∨ s.contains account = true := by
  induction xs generalizing s with
  | nil =>
    cases h
    simp
  | cons x xs ih =>
    rw [List.foldlM_cons] at h
    rcases hx : step s x with f | mid <;> rw [hx] at h
    · cases h
    rw [ih h, hstep s x mid hx]
    simp only [List.mem_cons, exists_eq_or_imp]
    rw [or_left_comm, ← or_assoc]

/-- One event adds the account of its key. -/
theorem addEventAccount_ok {s s' : AHashSet String} {event : EventPB}
    (h : addEventAccount sdk s event = .ok s') (account : String) :
    s'.contains account = true ↔ EventTouches sdk event account ∨ s.contains account = true := by
  cases hkey : event.key with
  | none => simp [addEventAccount, hkey, Fault.unwrapOption] at h
  | some key =>
    simp only [addEventAccount, hkey, Fault.unwrapOption_some, except_ok_bind, except_pure,
      Except.ok.injEq] at h
    simp [← h, EventTouches, hkey]

/-- One change adds the account of the resource it deletes or writes, and the owner of the object
it writes. -/
theorem addChangeAccounts_ok {s s' : AHashSet String} {wsc : WriteSetChange}
    (h : addChangeAccounts sdk helpers s wsc = .ok s') (account : String) :
    s'.contains account = true ↔
      ChangeTouches sdk helpers wsc account ∨ s.contains account = true := by
  obtain ⟨change⟩ := wsc
  cases change with
  | none => cases h
  | some change =>
    cases change with
    | deleteResource res =>
      cases h
      simp [ChangeTouches]
    | writeResource res =>
      simp only [addChangeAccounts, Fault.unwrapOption_some, except_ok_bind] at h
      cases hobject : ObjectWithMetadata.fromWriteResource sdk helpers res with
      | error e => simp [hobject, Fault.unwrapResult, Except.mapError] at h
      | ok object =>
        cases object <;>
          simp only [hobject, Fault.unwrapResult, Except.mapError, except_ok_bind, except_pure,
            Except.ok.injEq] at h <;>
          simp [← h, ChangeTouches, hobject, or_assoc, or_left_comm]
    | _ =>
      cases h
      simp [ChangeTouches]

/-- What `get_accounts` can return: the empty set for a transaction without data, a state
checkpoint or a block epilogue; otherwise, with info, the set its three loops build from the
signatures, the events and the changes. -/
theorem getAccounts_eq_ok {transaction : TransactionPB} {accounts : AHashSet String}
    (h : getAccounts sdk chain helpers transaction = .ok accounts) :
    (accounts = .empty ∧ ∀ txnData, transaction.txnData = some txnData →
        txnData = .stateCheckpoint ∨ txnData = .blockEpilogue) ∨
      ∃ txnData info mid, transaction.txnData = some txnData ∧ transaction.info = some info ∧
        txnData ≠ .stateCheckpoint ∧ txnData ≠ .blockEpilogue ∧
        txnData.events.foldlM (addEventAccount sdk)
          ((signaturesOf chain helpers transaction).foldl
            (fun accounts sig => accounts.insert sig.signer) .empty) = .ok mid ∧
        info.changes.foldlM (addChangeAccounts sdk helpers) mid = .ok accounts := by
  obtain ⟨timestamp, version, info, epoch, blockHeight, type, txnData, sizeInfo⟩ := transaction
  cases txnData with
  | none =>
    cases h
    exact .inl ⟨rfl, by simp⟩
  | some txnData =>
    cases info with
    | none => cases h
    | some info =>
      have hloops : ∀ {events : List EventPB} {signatures : List Signature}, (do
            let accounts ← events.foldlM (addEventAccount sdk)
              (signatures.foldl (fun accounts (sig : Signature) => accounts.insert sig.signer)
                .empty)
            info.changes.foldlM (addChangeAccounts sdk helpers) accounts) = .ok accounts →
          ∃ mid, events.foldlM (addEventAccount sdk)
              (signatures.foldl (fun accounts sig => accounts.insert sig.signer) .empty) = .ok mid ∧
            info.changes.foldlM (addChangeAccounts sdk helpers) mid = .ok accounts :=
        except_bind_eq_ok.mp
      cases txnData with
      | stateCheckpoint | blockEpilogue =>
        cases h
        exact .inl ⟨rfl, by simp⟩
      | user request events =>
        cases request with
        | none => cases h
        | some request =>
          cases timestamp with
          | none => cases h
          | some timestamp =>
            rcases hparse : chain.parseTimestamp timestamp (asI64 version.toNat) with
              msg | blockTimestamp <;>
              simp only [getAccounts, hparse, Fault.expect_some, Fault.unwrapOption_some,
                Fault.unwrapResult_ok, Fault.unwrapResult_error, except_ok_bind, except_error_bind,
                reduceCtorEq] at h
            obtain ⟨mid, hmid, hacc⟩ := hloops h
            refine .inr ⟨_, info, mid, rfl, rfl, by simp, by simp, ?_, hacc⟩
            simpa only [signaturesOf, Option.map_some', hparse] using hmid
      | _ =>
        obtain ⟨mid, hmid, hacc⟩ := hloops h
        exact .inr ⟨_, info, mid, rfl, rfl, by simp, by simp, hmid, hacc⟩

end Accounts

/-- `get_accounts` collects exactly the accounts a transaction touches: the signers of a user
transaction, the account of every event, the account of every resource it deletes or writes, and
the owner of every object it writes. It needs the transaction's info and data, and a state
checkpoint or a block epilogue gives no account, whatever its changes touch. -/
theorem accounts_of_transaction (sdk : Sdk) (chain : ChainHelpers) (helpers : AccountHelpers)
    {transaction : TransactionPB} {accounts : AHashSet String}
    (h : getAccounts sdk chain helpers transaction = .ok accounts) (account : String) :
    accounts.contains account = true ↔
      ∃ txnData info, transaction.txnData = some txnData ∧ transaction.info = some info ∧
        txnData ≠ .stateCheckpoint ∧ txnData ≠ .blockEpilogue ∧
        ((∃ signature ∈ signaturesOf chain helpers transaction, signature.signer = account) ∨
          (∃ event ∈ txnData.events, EventTouches sdk event account) ∨
          ∃ wsc ∈ info.changes, ChangeTouches sdk helpers wsc account) := by
  rcases getAccounts_eq_ok sdk chain helpers h with
    ⟨rfl, hkind⟩ | ⟨txnData, info, mid, hdata, hinfo, hsc, hbe, hmid, hacc⟩
  · simp only [AHashSet.contains_empty, Bool.false_eq_true, false_iff]
    rintro ⟨txnData, info, hdata, -, hsc, hbe, -⟩
    rcases hkind txnData hdata with rfl | rfl <;> contradiction
  · rw [@contains_foldlM _ (addChangeAccounts sdk helpers) (ChangeTouches sdk helpers)
      (fun _ _ _ => addChangeAccounts_ok sdk helpers) _ _ _ hacc,
      @contains_foldlM _ (addEventAccount sdk) (EventTouches sdk)
      (fun _ _ _ => addEventAccount_ok sdk) _ _ _ hmid, AHashSet.contains_foldl_insert]
    simp only [AHashSet.contains_empty, Bool.false_eq_true, or_false, hdata, hinfo,
      Option.some.injEq, exists_and_left, exists_eq_left', ne_eq, hsc, hbe, not_false_eq_true,
      true_and]
    rw [or_comm, or_assoc, or_left_comm]

/-- A user transaction that writes an object under `0xa`: the set holds the object's owner. -/
theorem accounts_of_object_write :
    let helpers : AccountHelpers :=
      ⟨fun writeResource => .ok (if writeResource.typeStr = "0x1::object::ObjectCore" then
          some ⟨true, 0, "0xowner"⟩ else none),
        fun _ _ _ _ => [⟨"0xsigner"⟩]⟩
    let res : WriteResource := ⟨"0xa", "0xh", none, "0x1::object::ObjectCore", .other "{}"⟩
    let info : TransactionInfoPB :=
      ⟨"0x1", "0x2", "0x3", none, 5, true, "Executed", "0x4", [⟨some (.writeResource res)⟩]⟩
    let transaction : TransactionPB :=
      ⟨some ⟨100, 0⟩, 9, some info, 0, 1, 4, some (.user (some ⟨none, none⟩) []), none⟩
    ∃ accounts, getAccounts Sdk.plain ChainHelpers.plain helpers transaction = .ok accounts ∧
      accounts.contains "0xowner" = true := by
  intro helpers res info transaction
  obtain ⟨accounts, h⟩ : ∃ accounts,
      getAccounts Sdk.plain ChainHelpers.plain helpers transaction = .ok accounts := ⟨_, rfl⟩
  refine ⟨accounts, h, (accounts_of_transaction Sdk.plain ChainHelpers.plain helpers h
    "0xowner").mpr ⟨_, info, rfl, rfl, by simp, by simp, .inr (.inr ?_)⟩⟩
  exact ⟨_, List.mem_singleton_self _, .inr ⟨res, rfl, .inr ⟨_, rfl, rfl⟩⟩⟩

end CedraIndexer

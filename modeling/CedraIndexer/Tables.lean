import CedraIndexer.Parquet.Events
import CedraIndexer.AccountTransactions

/-!
# What the tables of one transaction agree on

The default processor, the events extractor and the account index each read a transaction on
their own. Where the events extractor and the account index both accept a transaction, every event
row names an account that the index holds for the transaction. The reason is that both read the
account of the same event key, and the index sees the events of every kind that has any.
-/

namespace CedraIndexer

/-- Every event row of a transaction names an account that `get_accounts` collects for it. -/
theorem event_rows_accounts_indexed (sdk : Sdk) (chain : ChainHelpers) (helpers : AccountHelpers)
    {transaction : TransactionPB} {rows : List ParquetEvent} {accounts : AHashSet String}
    (hevents : parseEvents sdk chain transaction = .ok rows)
    (haccounts : getAccounts sdk chain helpers transaction = .ok accounts) :
    ∀ row ∈ rows, accounts.contains row.accountAddress = true := by
  intro row hrow
  obtain ⟨-, -, event, hevent, key, hkey, haddress⟩ := (parseEvents_ok sdk chain hevents).2 row hrow
  rcases getAccounts_eq_ok sdk chain helpers haccounts with
    ⟨-, hkind⟩ | ⟨txnData, info, mid, hdata, -, -, -, hmid, hacc⟩
  · -- no data, a state checkpoint or a block epilogue: no event, so no row
    cases hdata : transaction.txnData with
    | none => simp [hdata] at hevent
    | some txnData =>
      rcases hkind txnData hdata with rfl | rfl <;> simp [hdata, TxnDataPB.events] at hevent
  · rw [@contains_foldlM _ (addChangeAccounts sdk helpers) (ChangeTouches sdk helpers)
      (fun _ _ _ => addChangeAccounts_ok sdk helpers) _ _ _ hacc,
      @contains_foldlM _ (addEventAccount sdk) (EventTouches sdk)
      (fun _ _ _ => addEventAccount_ok sdk) _ _ _ hmid]
    simp only [hdata, Option.map_some', Option.getD_some] at hevent
    exact .inr (.inl ⟨event, hevent, key, hkey, haddress.symm⟩)

/-- A user transaction with an event of `0xa`: its one event row names `0xa`, and the account
index holds `0xa`. -/
theorem event_rows_accounts_of_user_transaction :
    let helpers : AccountHelpers := ⟨fun _ => .ok none, fun _ _ _ _ => []⟩
    let info : TransactionInfoPB := ⟨"0x1", "0x2", "0x3", none, 5, true, "Executed", "0x4", []⟩
    let event : EventPB := ⟨some ⟨0, "0xa"⟩, 0, "0x1::coin::DepositEvent", "{}"⟩
    let transaction : TransactionPB :=
      ⟨some ⟨100, 0⟩, 9, some info, 0, 1, 4, some (.user (some ⟨none, none⟩) [event]), none⟩
    ∃ rows accounts, parseEvents Sdk.plain ChainHelpers.plain transaction = .ok rows ∧
      getAccounts Sdk.plain ChainHelpers.plain helpers transaction = .ok accounts ∧
      rows.map (·.accountAddress) = ["0xa"] ∧ accounts.contains "0xa" = true := by
  intro helpers info event transaction
  obtain ⟨rows, hrows⟩ : ∃ rows, parseEvents Sdk.plain ChainHelpers.plain transaction = .ok rows :=
    ⟨_, rfl⟩
  obtain ⟨accounts, haccounts⟩ : ∃ accounts,
      getAccounts Sdk.plain ChainHelpers.plain helpers transaction = .ok accounts := ⟨_, rfl⟩
  have hrow : rows.map (·.accountAddress) = ["0xa"] := by
    rw [← Except.ok.inj hrows]
    rfl
  obtain ⟨row, hhead, haddress⟩ : ∃ row, rows.head? = some row ∧ row.accountAddress = "0xa" := by
    simpa using congrArg List.head? hrow
  refine ⟨rows, accounts, hrows, haccounts, hrow, ?_⟩
  rw [← haddress]
  exact event_rows_accounts_indexed Sdk.plain ChainHelpers.plain helpers hrows haccounts row
    (List.mem_of_mem_head? hhead)

end CedraIndexer

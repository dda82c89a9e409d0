import CedraIndexer.Stake.DelegatorBalances
import CedraIndexer.Stake.DelegatedVoter
import CedraIndexer.Token.Tokens

/-!
# The per-transaction reducers are last-write-wins

`CurrentDelegatorBalance::from_transaction` and `Token::from_transaction` walk a transaction's
changes in order, push every history row they get and insert every current row under its primary
key, so that a later change to a key overwrites an earlier one. `SharesReduced` and
`TokensReduced` state what they return in terms of what their extractors give on each change,
`SharesOfChange` and `TokensOfChange` along a run of the loop: the history rows in change order,
and in each current-state map exactly the keys of those rows, each holding the last row with that
key.
-/

namespace CedraIndexer

section

variable (sdk : Sdk) (dec : Decoders) (pools : PoolDecoders) (tok : TokenDecoders)

end

/-- `CurrentDelegatedVoter::from_write_table_item` on a vote-delegation table item: the row of each
entry of the vector, in the vector's order, each with the standardized table handle and the pool
resolved for it, inserted under `(pool, delegator)`, so that the map keeps the last entry of each
delegator. A table of an unknown type, or whose pool does not resolve, gives nothing. -/
theorem delegated_voters_last_write_wins (sdk : Sdk) (dec : Decoders) (item : WriteTableItem)
    (txnVersion : Int) (ts : NaiveDateTime) (handleToPool : VoteDelegationTableHandleToPool)
    (conn : Conn) (n : UInt32) (d : UInt64) (m : CurrentDelegatedVoterMap) (conn' : Conn)
    (h : CurrentDelegatedVoter.fromWriteTableItem sdk dec item txnVersion ts handleToPool conn n d =
      (.ok m, conn')) :
    ∃ data, item.data = some data ∧
      (VoteDelegationTableItem.fromTableItemType dec data.valueType data.value txnVersion =
          .ok none ∧ m = .empty ∨
        ∃ entries poolAddress,
          VoteDelegationTableItem.fromTableItemType dec data.valueType data.value txnVersion =
            .ok (some entries) ∧
          (CurrentDelegatedVoter.resolvePoolAddress handleToPool
            (sdk.standardizeAddress item.handle) conn n d).1 = poolAddress ∧
          (poolAddress = "" ∧ m = .empty ∨
            poolAddress ≠ "" ∧ AHashMap.LastWriteWins CurrentDelegatedVoter.pk
              (entries.map (CurrentDelegatedVoter.ofVoteDelegation sdk poolAddress
                (sdk.standardizeAddress item.handle) txnVersion ts)) m)) := by
  unfold CurrentDelegatedVoter.fromWriteTableItem at h
  rcases hdata : item.data with _ | data <;> simp only [hdata, Fault.unwrapOption] at h
  · cases h
  refine ⟨data, rfl, ?_⟩
  rcases hv : VoteDelegationTableItem.fromTableItemType dec data.valueType data.value
    txnVersion with _ | _ | entries <;> simp only [hv] at h
  · cases h
  · cases h
    exact .inl ⟨rfl, rfl⟩
  rcases hp : CurrentDelegatedVoter.resolvePoolAddress handleToPool
    (sdk.standardizeAddress item.handle) conn n d with ⟨poolAddress, conn''⟩
  simp only [hp] at h
  refine .inr ⟨entries, poolAddress, rfl, rfl, ?_⟩
  split_ifs at h with hpool <;> cases h
  · exact .inl ⟨(String.isEmpty_iff _).1 hpool, rfl⟩
  · refine .inr ⟨fun he => hpool (by rw [he]; rfl), ?_⟩
    have hlww := AHashMap.lastWriteWins_foldl_insert CurrentDelegatedVoter.pk
      (entries.map (CurrentDelegatedVoter.ofVoteDelegation sdk poolAddress
        (sdk.standardizeAddress item.handle) txnVersion ts))
    rwa [List.foldl_map] at hlww

/-- A vote-delegation table of the pool `0xpool` in which `0xd` delegates twice, first to `0xv`
and then to `0xw`: the map is last-write-wins over the rows of both entries, in order. -/
theorem delegated_voters_last_write_wins_twice :
    let entries : List VoteDelegationVector := [⟨"0xd", ⟨"0xv", "0xv"⟩⟩, ⟨"0xd", ⟨"0xw", "0xw"⟩⟩]
    let item : WriteTableItem :=
      ⟨"0xt", "0xd",
        some ⟨.string "0xd", "address", .voteDelegations entries, VOTE_DELEGATION_TYPE⟩⟩
    ∃ m conn', CurrentDelegatedVoter.fromWriteTableItem Sdk.plain .direct item 7 0
        (.singleton "0xt" "0xpool") (Conn.ofDatabase .empty fun _ => false) 3 0 = (.ok m, conn') ∧
      AHashMap.LastWriteWins CurrentDelegatedVoter.pk
        (entries.map (CurrentDelegatedVoter.ofVoteDelegation Sdk.plain "0xpool" "0xt" 7 0)) m := by
  intro entries item
  obtain ⟨m, conn', hm⟩ : ∃ m conn', CurrentDelegatedVoter.fromWriteTableItem Sdk.plain .direct
      item 7 0 (.singleton "0xt" "0xpool") (Conn.ofDatabase .empty fun _ => false) 3 0 =
        (.ok m, conn') := ⟨_, _, rfl⟩
  obtain ⟨_, ⟨⟩, ⟨hnone, -⟩ | ⟨_, pool, hsome, hpool, ⟨hempty, -⟩ | ⟨-, hlww⟩⟩⟩ :=
    delegated_voters_last_write_wins Sdk.plain .direct item 7 0 _ _ 3 0 m conn' hm
  · cases hnone
  · exact absurd (hpool.trans hempty) (by decide)
  · cases hsome
    obtain rfl : pool = "0xpool" := hpool.symm.trans rfl
    exact ⟨m, conn', hm, hlww⟩

end CedraIndexer

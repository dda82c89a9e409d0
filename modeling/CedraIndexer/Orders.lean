import CedraIndexer.Stake.DelegatedVoter
import CedraIndexer.Token.TokenClaims
import CedraIndexer.Token.TokenRoyalty
import CedraIndexer.TokenV2.TokenMetadata

/-!
# The hand-written orderings of current rows

Six row types implement `Ord` by hand, comparing their key columns one after another with
`Ordering::then`, while their `PartialEq` is derived and compares every column. Rust asks of an
`Ord` that it be antisymmetric and transitive, and that `cmp` answer `Equal` exactly on equal
values. The first two hold: each `cmp` is the lexicographic order of its key. The third holds of
the key only: two rows that share a key and differ elsewhere compare `Equal`.

`KeyOrder cmp key` is what each ordering does satisfy; it is built for a lexicographic chain from
one lemma per `then`.
-/

namespace CedraIndexer

open Batteries

/-- `cmp` meets Rust's `Ord` contract up to `key`: it is antisymmetric and transitive, and it
answers `Equal` exactly on values with the same key. -/
structure KeyOrder {α κ : Type} (cmp : α → α → Ordering) (key : α → κ) : Prop where
  trans : TransCmp cmp
  eq_iff : ∀ a b, cmp a b = .eq ↔ key a = key b

namespace KeyOrder

variable {α κ κ' : Type}

/-- Comparing one column of a linear order orders by that column. -/
theorem column {β : Type} [LinearOrder β] (f : α → β) : KeyOrder (compareOn f) f :=
  ⟨inferInstance, fun _ _ => compare_eq_iff_eq⟩

/-- Breaking ties of one key order by another orders by the pair of keys. -/
theorem lex {cmp₁ cmp₂ : α → α → Ordering} {k₁ : α → κ} {k₂ : α → κ'}
    (h₁ : KeyOrder cmp₁ k₁) (h₂ : KeyOrder cmp₂ k₂) :
    KeyOrder (compareLex cmp₁ cmp₂) fun a => (k₁ a, k₂ a) := by
  have := h₁.trans
  have := h₂.trans
  refine ⟨inferInstance, fun a b => ?_⟩
  simp only [compareLex, Ordering.then_eq_eq, h₁.eq_iff, h₂.eq_iff, Prod.mk.injEq]

/-- A key order is one for every key that identifies the same values. -/
theorem of_key_iff {cmp : α → α → Ordering} {k : α → κ} {k' : α → κ'}
    (h : KeyOrder cmp k) (hk : ∀ a b, k a = k b ↔ k' a = k' b) : KeyOrder cmp k' :=
  ⟨h.trans, fun a b => (h.eq_iff a b).trans (hk a b)⟩

end KeyOrder

/-- Each hand-written `Ord` is antisymmetric and transitive, and calls two rows `Equal` exactly
when they share the key it compares: the primary key where the row has one, `token_data_id` for
royalties. -/
theorem row_orders_by_key :
    KeyOrder CurrentDelegatedVoter.cmp CurrentDelegatedVoter.pk ∧
    KeyOrder CurrentTokenPendingClaim.cmp CurrentTokenPendingClaim.pk ∧
    KeyOrder PostgresCurrentTokenPendingClaim.cmp
      (fun c => (c.tokenDataIdHash, c.propertyVersion, c.fromAddress, c.toAddress)) ∧
    KeyOrder CurrentTokenRoyaltyV1.cmp CurrentTokenRoyaltyV1.tokenDataId ∧
    KeyOrder PostgresCurrentTokenRoyaltyV1.cmp PostgresCurrentTokenRoyaltyV1.tokenDataId ∧
    KeyOrder CurrentTokenV2Metadata.cmp CurrentTokenV2Metadata.pk := by
  refine ⟨?_, ?_, ?_, KeyOrder.column _, KeyOrder.column _, ?_⟩
  · exact ((KeyOrder.column _).lex (KeyOrder.column _)).of_key_iff fun _ _ => by
      simp only [CurrentDelegatedVoter.pk, Prod.mk.injEq, and_comm]
  · exact ((((KeyOrder.column _).lex (KeyOrder.column _)).lex (KeyOrder.column _)).lex
      (KeyOrder.column _)).of_key_iff fun _ _ => by
        simp only [CurrentTokenPendingClaim.pk, Prod.mk.injEq, and_assoc]
  · exact ((((KeyOrder.column _).lex (KeyOrder.column _)).lex (KeyOrder.column _)).lex
      (KeyOrder.column _)).of_key_iff fun _ _ => by simp only [Prod.mk.injEq, and_assoc]
  · exact (KeyOrder.column _).lex (KeyOrder.column _)

/-- Two vote delegations of `0xd` to the pool `0xpool`, one to the voter `0xv` and one still to
the delegator: `cmp` calls them `Equal`, `==` does not. -/
theorem delegated_voter_cmp_eq_of_ne :
    let a : CurrentDelegatedVoter := ⟨"0xpool", "0xd", some "0xt", some "0xv", some "0xv", 3, 0⟩
    let b : CurrentDelegatedVoter := ⟨"0xpool", "0xd", none, some "0xd", some "0xd", 7, 0⟩
    a.cmp b = .eq ∧ a ≠ b := by
  decide

end CedraIndexer

import CedraIndexer.Db.Conn

/-!
# The bounded-retry lookup

`CollectionData::get_collection_creator`, `CurrentDelegatedVoter::get_delegation_pool_address_by_
table_handle`, `CurrentDelegatedVoter::get_existence_by_pk` and `CurrentDelegatorBalance::get_
staking_pool_from_inactive_share_handle` are the same loop, written out four times:

```
let mut tried = 0;
while tried < query_retries {
    tried += 1;
    match query(conn).await {
        Ok(row) => return Ok(row.column),
        Err(_) => if tried < query_retries { sleep(query_retry_delay_ms).await },
    }
}
Err(..)
```

`retryLoop` is that loop once, over the statement and the column it reads, and `retryLookup` the
whole function, with the failure it returns after the loop; each lookup is defined in its own
module as `retryLookup` at its own statement, column and failure. The counter is a `u32`
as in the source; the loop's termination measure is the number of attempts left, and it decreases
because `tried + 1` cannot wrap below `query_retries`.

`retryLoop_spec` is the loop's whole contract, for every retry count and every sequence of replies:
it issues one statement per attempt up to and including the first one answered with a row, never
more than `query_retries`, sleeps exactly between two consecutive statements, and returns the column
of that row, or nothing when no attempt got one.
-/

namespace CedraIndexer

/-- Below a `u32` bound, adding one to a `u32` does not wrap. -/
theorem UInt32.toNat_add_one_of_lt {a b : UInt32} (h : a < b) : (a + 1).toNat = a.toNat + 1 := by
  have hb := b.toNat_lt_size
  have hab : a.toNat < b.toNat := h
  rw [UInt32.toNat_add]
  exact Nat.mod_eq_of_lt (by change a.toNat + 1 < UInt32.size; omega)

/-- The loop shared by the four persisted lookups; `none` is the failure after the loop. -/
def retryLoop {α : Type} (s : Statement) (read : s.Row → α) (queryRetries : UInt32)
    (queryRetryDelayMs : UInt64) (tried : UInt32) (conn : Conn) : Option α × Conn :=
  if _h : tried < queryRetries then
    match conn.first s with
    | (.ok row, conn) => (some (read row), conn)
    | (.error _, conn) =>
      retryLoop s read queryRetries queryRetryDelayMs (tried + 1)
        (if tried + 1 < queryRetries then conn.sleep queryRetryDelayMs else conn)
  else (none, conn)
termination_by queryRetries.toNat - tried.toNat
decreasing_by
  have := UInt32.toNat_add_one_of_lt _h
  have : tried.toNat < queryRetries.toNat := _h
  omega

/-- A persisted lookup: the loop, then `failure` if no attempt found a row. -/
def retryLookup {β : Type} (s : Statement) (found : s.Row → β) (failure : β)
    (queryRetries : UInt32) (queryRetryDelayMs : UInt64) (conn : Conn) : β × Conn :=
  match retryLoop s found queryRetries queryRetryDelayMs 0 conn with
  | (some b, conn) => (b, conn)
  | (none, conn) => (failure, conn)

/-- The first row among the first `n` replies, and its position. -/
def firstRow {ε ρ : Type} (r : Nat → Except ε ρ) : Nat → Option (Nat × ρ)
  | 0 => none
  | n + 1 =>
    match r 0 with
    | .ok row => some (0, row)
    | .error _ => (firstRow (fun j => r (j + 1)) n).map fun p => (p.1 + 1, p.2)

/-- `min n k` of the contract: the statements issued, up to the first row and at most `n`. -/
def attempts {ε ρ : Type} (r : Nat → Except ε ρ) (n : Nat) : Nat :=
  match firstRow r n with
  | some (k, _) => k + 1
  | none => n

/-- What the loop leaves in the trace after `a` attempts: a sleep between two statements. -/
def retryTrace (s : Statement) (queryRetryDelayMs : UInt64) (a : Nat) : List Effect :=
  (List.replicate a (Effect.query s)).intersperse (.sleep queryRetryDelayMs)

section FirstRow

variable {ε ρ : Type}

theorem firstRow_eq_none_iff (r : Nat → Except ε ρ) (n : Nat) :
    firstRow r n = none ↔ ∀ j < n, (r j).isOk = false := by
  induction n generalizing r with
  | zero => simp [firstRow]
  | succ n ih =>
    rw [Nat.forall_lt_succ_left]
    cases h : r 0 <;> simp [firstRow, h, ih, Except.isOk, Except.toBool]

theorem firstRow_eq_some_iff (r : Nat → Except ε ρ) (n k : Nat) (row : ρ) :
    firstRow r n = some (k, row) ↔ k < n ∧ r k = .ok row ∧ ∀ j < k, (r j).isOk = false := by
  induction n generalizing r k with
  | zero => simp [firstRow]
  | succ n ih =>
    cases h : r 0 <;> cases k <;>
      simp [firstRow, h, ih, Nat.forall_lt_succ_left, Except.isOk, Except.toBool]

theorem attempts_succ (r : Nat → Except ε ρ) (n : Nat) :
    attempts r (n + 1) = if (r 0).isOk then 1 else attempts (fun j => r (j + 1)) n + 1 := by
  cases h : r 0 with
  | ok row => simp [attempts, firstRow, h, Except.isOk, Except.toBool]
  | error e =>
    simp only [attempts, firstRow, h, Except.isOk, Except.toBool, Bool.false_eq_true, if_false]
    cases firstRow (fun j => r (j + 1)) n <;> rfl

theorem attempts_pos (r : Nat → Except ε ρ) (n : Nat) (hn : 0 < n) : 0 < attempts r n := by
  obtain ⟨n, rfl⟩ : ∃ m, n = m + 1 := ⟨n - 1, by omega⟩
  rw [attempts_succ]
  split <;> omega

/-- With the first row at position `k`, `attempts` is `min n (k + 1)`. -/
theorem attempts_of_first_ok (r : Nat → Except ε ρ) (n k : Nat) (hk : (r k).isOk = true)
    (hbefore : ∀ j < k, (r j).isOk = false) : attempts r n = min n (k + 1) := by
  by_cases hkn : k < n
  · obtain ⟨row, hrow⟩ : ∃ row, r k = .ok row := by
      cases h : r k with
      | ok row => exact ⟨row, rfl⟩
      | error e => simp [h, Except.isOk, Except.toBool] at hk
    rw [attempts, (firstRow_eq_some_iff r n k row).mpr ⟨hkn, hrow, hbefore⟩]
    show k + 1 = _
    omega
  · rw [attempts, (firstRow_eq_none_iff r n).mpr fun j hj => hbefore j (by omega)]
    show n = _
    omega

/-- With no row at all, `attempts` is `n`. -/
theorem attempts_of_forall_error (r : Nat → Except ε ρ) (n : Nat)
    (h : ∀ j, (r j).isOk = false) : attempts r n = n := by
  rw [attempts, (firstRow_eq_none_iff r n).mpr fun j _ => h j]

end FirstRow

theorem retryTrace_succ (s : Statement) (d : UInt64) (a : Nat) (ha : 0 < a) :
    retryTrace s d (a + 1) = .query s :: .sleep d :: retryTrace s d a := by
  obtain ⟨a, rfl⟩ : ∃ b, a = b + 1 := ⟨a - 1, by omega⟩
  simp only [retryTrace, List.replicate_succ, List.intersperse_cons_cons]

theorem retryTrace_one (s : Statement) (d : UInt64) : retryTrace s d 1 = [.query s] := rfl

/-- `a` attempts issue `a` statements and sleep `a - 1` times. -/
theorem retryTrace_count (s : Statement) (d : UInt64) (a : Nat) :
    (retryTrace s d a).count (.query s) = a ∧ (retryTrace s d a).count (.sleep d) = a - 1 := by
  induction a with
  | zero => simp [retryTrace]
  | succ a ih =>
    rcases Nat.eq_zero_or_pos a with rfl | ha
    · simp [retryTrace_one]
    · rw [retryTrace_succ s d a ha]
      simp [List.count_cons, ih]
      omega

@[simp] theorem Conn.first_upcoming (conn : Conn) (s s' : Statement) :
    (conn.first s').2.upcoming s = fun j => conn.upcoming s (j + 1) := by
  funext j
  simp only [Conn.upcoming, Conn.first_reply, Conn.first_issued]
  congr 1
  omega

@[simp] theorem Conn.sleep_upcoming (conn : Conn) (ms : UInt64) (s : Statement) :
    (conn.sleep ms).upcoming s = conn.upcoming s := rfl

section Loop

variable {α : Type} (s : Statement) (read : s.Row → α) (n : UInt32) (d : UInt64)

/-- What the loop computes from a counter with `m` attempts left. -/
def RetryOutcome (m : Nat) (conn : Conn) (out : Option α × Conn) : Prop :=
  out.1 = (firstRow (conn.upcoming s) m).map (fun p => read p.2) ∧
  out.2.reply = conn.reply ∧
  out.2.issued = conn.issued + attempts (conn.upcoming s) m ∧
  out.2.trace = conn.trace ++ retryTrace s d (attempts (conn.upcoming s) m)

theorem retryLoop_done {tried : UInt32} (h : ¬tried < n) (conn : Conn) :
    retryLoop s read n d tried conn = (none, conn) := by
  rw [retryLoop, dif_neg h]

/-- One attempt answered with a row ends the loop. -/
theorem retryLoop_ok {tried : UInt32} (h : tried < n) {conn : Conn} {row : s.Row}
    (hr : conn.reply conn.issued s = .ok row) :
    retryLoop s read n d tried conn = (some (read row), (conn.first s).2) := by
  rw [retryLoop, dif_pos h]
  simp only [Conn.first, hr]

/-- One attempt answered with an error goes on, after a sleep if attempts remain. -/
theorem retryLoop_error {tried : UInt32} (h : tried < n) {conn : Conn} {e : QueryError}
    (hr : conn.reply conn.issued s = .error e) :
    retryLoop s read n d tried conn =
      retryLoop s read n d (tried + 1)
        (if tried + 1 < n then (conn.first s).2.sleep d else (conn.first s).2) := by
  rw [retryLoop, dif_pos h]
  simp only [Conn.first, hr]

/-- The connection after an attempt answered with an error: one more statement issued, and a
sleep when `b`, attempts remaining, holds. -/
private theorem retry_conn_after_error (conn : Conn) (b : Prop) [Decidable b] :
    let c := if b then (conn.first s).2.sleep d else (conn.first s).2
    c.upcoming s = (fun j => conn.upcoming s (j + 1)) ∧ c.reply = conn.reply ∧
      c.issued = conn.issued + 1 ∧
      c.trace = conn.trace ++ .query s :: if b then [.sleep d] else [] := by
  by_cases hb : b <;> simp [hb]

/-- The run lemma: from any counter, the loop meets `RetryOutcome` for the attempts left. -/
theorem retryLoop_run (m : Nat) :
    ∀ (tried : UInt32) (conn : Conn), n.toNat - tried.toNat = m →
      RetryOutcome s read d m conn (retryLoop s read n d tried conn) := by
  induction m with
  | zero =>
    intro tried conn hm
    have h : ¬tried < n := fun h => by
      have : tried.toNat < n.toNat := h
      omega
    rw [retryLoop_done s read n d h]
    simp [RetryOutcome, firstRow, attempts, retryTrace]
  | succ m ih =>
    intro tried conn hm
    have h : tried < n := by
      change tried.toNat < n.toNat
      omega
    have hm' : n.toNat - (tried + 1).toNat = m := by
      rw [UInt32.toNat_add_one_of_lt h]
      omega
    cases hr : conn.reply conn.issued s with
    | ok row =>
      have h0 : conn.upcoming s 0 = .ok row := by simpa [Conn.upcoming] using hr
      rw [retryLoop_ok s read n d h hr]
      simp [RetryOutcome, firstRow, h0, attempts, retryTrace]
    | error e =>
      have h0 : conn.upcoming s 0 = .error e := by simpa [Conn.upcoming] using hr
      rw [retryLoop_error s read n d h hr]
      obtain ⟨hup, hrep, hiss, htrace⟩ := retry_conn_after_error s d conn (tried + 1 < n)
      obtain ⟨h1, h2, h3, h4⟩ := ih (tried + 1) _ hm'
      rw [hup] at h1 h3 h4
      refine ⟨?_, h2.trans hrep, ?_, ?_⟩
      · simp [h1, firstRow, h0, Option.map_map, Function.comp_def]
      · rw [h3, hiss, attempts_succ]
        simp [h0, Except.isOk, Except.toBool]
        omega
      · have hsleep : (tried + 1 < n) ↔ 0 < m := by
          change (tried + 1).toNat < n.toNat ↔ _
          omega
        rw [h4, htrace, attempts_succ]
        simp only [h0, Except.isOk, Except.toBool, Bool.false_eq_true, if_false]
        by_cases hpos : 0 < m
        · simp [hsleep.mpr hpos, retryTrace_succ s d _ (attempts_pos _ m hpos)]
        · obtain rfl : m = 0 := by omega
          simp [hsleep, attempts, firstRow, retryTrace]

/-- The lookup contract, for every retry count `n` and every sequence of replies: `attempts`
statements, a sleep between each two, and the column of the first row among the first `n`. -/
theorem retryLoop_spec (conn : Conn) :
    RetryOutcome s read d n.toNat conn (retryLoop s read n d 0 conn) :=
  retryLoop_run s read n d n.toNat 0 conn (by simp)

/-- What a lookup returns and does, for `n` retries and the replies still to come: the value of
the first row among the first `n` replies, else `failure`; `attempts` statements; a sleep between
each two. -/
def LookupContract {β : Type} (found : s.Row → β) (failure : β) (conn : Conn)
    (out : β × Conn) : Prop :=
  out.1 = ((firstRow (conn.upcoming s) n.toNat).map fun p => found p.2).getD failure ∧
  out.2.reply = conn.reply ∧
  out.2.issued = conn.issued + attempts (conn.upcoming s) n.toNat ∧
  out.2.trace = conn.trace ++ retryTrace s d (attempts (conn.upcoming s) n.toNat)

/-- Every lookup meets its contract, for every retry count and every sequence of replies. -/
theorem retryLookup_spec {β : Type} (found : s.Row → β) (failure : β) (conn : Conn) :
    LookupContract s n d found failure conn (retryLookup s found failure n d conn) := by
  obtain ⟨h₁, h₂, h₃, h₄⟩ := retryLoop_spec s found n d conn
  unfold retryLookup
  rcases hr : retryLoop s found n d 0 conn with ⟨_ | b, c⟩ <;> rw [hr] at h₁ h₂ h₃ h₄
  · exact ⟨by simp [← h₁], h₂, h₃, h₄⟩
  · exact ⟨by simp [← h₁], h₂, h₃, h₄⟩

end Loop

end CedraIndexer

import Mathlib.Data.String.Basic
import Mathlib.Algebra.Order.Ring.Rat

/-!
# The processor SDK boundary

The extractors call a handful of helpers from `cedra_indexer_processor_sdk::utils` and from the
`bigdecimal` crate. Their code is not part of this crate, so `Sdk` takes them as arguments:
every result proved over an `Sdk` holds for whatever those helpers compute, the rounding of
`bigdecimal`'s division included. Only `truncate_str` is given a body, because the keys built from
truncated strings are what some results are about.

A Rust call ends in a value, in an `Err` it returns with `?`, or in a panic of an `unwrap`. The
extractors are modelled in `Except Fault`, so the two failures stay apart: `Fault.unwrap` is what
`.unwrap()` does to an `Err` it meets.
-/

namespace CedraIndexer

/-- `BigDecimal` compares and tests equality numerically, so its values are rationals. -/
abbrev BigDecimal := ℚ

/-- `chrono::NaiveDateTime`. The extractors only copy timestamps. -/
abbrev NaiveDateTime := Int

/-- `serde_json::Value`, by its canonical text. Rows only copy and compare it. -/
structure JsonValue where
  raw : String
  deriving DecidableEq, Repr

/-- `serde_json::Value::Null`. -/
def JsonValue.null : JsonValue := ⟨"null"⟩

/-- How a Rust call fails: an `Err` returned through `?`, or a panic. -/
inductive Fault where
  | error (msg : String)
  | panic (msg : String)
  deriving DecidableEq, Repr

/-- `.unwrap()` on a `Result`: an `Err` becomes a panic, a panic stays one. -/
def Fault.unwrap {α : Type} : Except Fault α → Except Fault α
  | .error (.error msg) => .error (.panic msg)
  | r => r

/-- `.unwrap()` on an `anyhow::Result`: an `Err` panics. -/
def Fault.unwrapResult {α : Type} (r : Except String α) : Except Fault α := r.mapError .panic

/-- `.unwrap()` on an `Option`: `None` panics. -/
def Fault.unwrapOption {α : Type} : Option α → Except Fault α
  | some a => .ok a
  | none => .error (.panic "called `Option::unwrap()` on a `None` value")

/-- `.expect(msg)` on an `Option`: `None` panics with `msg`. -/
def Fault.expect {α : Type} (msg : String) : Option α → Except Fault α
  | some a => .ok a
  | none => .error (.panic msg)

@[simp] theorem Fault.expect_some {α : Type} (msg : String) (a : α) :
    Fault.expect msg (some a) = .ok a :=
  rfl

@[simp] theorem Fault.unwrapOption_some {α : Type} (a : α) : Fault.unwrapOption (some a) = .ok a :=
  rfl

@[simp] theorem except_ok_bind {ε α β : Type} (a : α) (f : α → Except ε β) :
    (Except.ok a >>= f) = f a := rfl

@[simp] theorem except_error_bind {ε α β : Type} (e : ε) (f : α → Except ε β) :
    (Except.error e >>= f) = .error e := rfl

/-- A `?` that went through: the call gave a value, and the rest went through on it. -/
theorem except_bind_eq_ok {ε α β : Type} {x : Except ε α} {f : α → Except ε β} {b : β} :
    (x >>= f) = .ok b ↔ ∃ a, x = .ok a ∧ f a = .ok b := by
  cases x <;> simp

@[simp] theorem except_pure {ε α : Type} (a : α) : (pure a : Except ε α) = .ok a := rfl

@[simp] theorem except_map_ok {ε α β : Type} (f : α → β) (a : α) :
    (f <$> (Except.ok a : Except ε α)) = .ok (f a) := rfl

@[simp] theorem except_mapError_eq_ok {ε ε' α : Type} (f : ε → ε') (r : Except ε α) (a : α) :
    r.mapError f = .ok a ↔ r = .ok a := by
  cases r <;> simp [Except.mapError]

@[simp] theorem Fault.unwrap_ok {α : Type} (a : α) : Fault.unwrap (.ok a) = .ok a := rfl

@[simp] theorem Fault.unwrapResult_ok {α : Type} (a : α) : Fault.unwrapResult (.ok a) = .ok a :=
  rfl

@[simp] theorem Fault.unwrapResult_error {α : Type} (e : String) :
    (Fault.unwrapResult (.error e) : Except Fault α) = .error (.panic e) :=
  rfl

/-- `.unwrap()` keeps exactly the values. -/
@[simp] theorem Fault.unwrap_eq_ok {α : Type} (r : Except Fault α) (a : α) :
    Fault.unwrap r = .ok a ↔ r = .ok a := by
  rcases r with (_ | _) | _ <;> simp [Fault.unwrap]

/-- The helpers of `cedra_indexer_processor_sdk::utils`, and the parser and division of
`bigdecimal`. -/
structure Sdk where
  /-- `convert::standardize_address`. -/
  standardizeAddress : String → String
  /-- `extract::hash_str`. -/
  hashStr : String → String
  /-- `str::parse::<BigDecimal>`. -/
  parseBigDecimal : String → Option BigDecimal
  /-- `bigdecimal`'s `/` by a nonzero divisor: the quotient, rounded to the crate's precision where
  its decimal expansion does not end. -/
  divBigDecimal : BigDecimal → BigDecimal → BigDecimal

/-- The value of a decimal numeral, if the text is one. -/
def parseDecimal (s : String) : Option BigDecimal :=
  match s.toList with
  | [] => none
  | cs => if cs.all Char.isDigit then
      some (cs.foldl (fun n c => 10 * n + (c.toNat - '0'.toNat)) 0 : Nat) else none

/-- Helpers for running the model on examples: addresses are kept as written, a string is its own
hash, decimal numerals parse, and quotients are exact. -/
def Sdk.plain : Sdk := ⟨id, id, parseDecimal, (· / ·)⟩

/-- `convert::truncate_str`: the first `maxChars` characters of `val`. -/
def truncateStr (val : String) (maxChars : Nat) : String :=
  ⟨val.toList.take maxChars⟩

@[simp] theorem truncateStr_toList (val : String) (maxChars : Nat) :
    (truncateStr val maxChars).toList = val.toList.take maxChars := rfl

/-- Cutting twice at the same length cuts once. -/
@[simp] theorem truncateStr_truncateStr (val : String) (maxChars : Nat) :
    truncateStr (truncateStr val maxChars) maxChars = truncateStr val maxChars :=
  congrArg String.mk (by rw [truncateStr_toList, List.take_take, min_self])

/-- A string no longer than the cut is kept whole. -/
theorem truncateStr_of_length_le {val : String} {maxChars : Nat} (h : val.length ≤ maxChars) :
    truncateStr val maxChars = val := by
  cases val with
  | mk cs => exact congrArg String.mk (List.take_of_length_le h)

/-- A string cut at the length of its first part is that part. -/
theorem truncateStr_append {val rest : String} {maxChars : Nat} (h : val.length = maxChars) :
    truncateStr (val ++ rest) maxChars = val := by
  cases val
  cases rest
  subst h
  exact congrArg String.mk (List.take_left _ _)

end CedraIndexer

import Mathlib.Data.String.Basic

/-!
# The regular expressions of the crate

`coin_utils.rs` extracts a coin type with `Regex::new(r"(<(.*)>)")` and `captures`. The `regex`
crate reports the leftmost match, and among the matches starting there the one a backtracking
engine finds first: a greedy `*` prefers one more repetition over stopping. `Regex.run` is such a
backtracking matcher in continuation-passing style, over the syntax this crate uses: single
characters and `.`, a greedy star of one of those, concatenation and capture groups. `.` is any
character but a line feed, as the crate's default.

Positions are character indices; a capture is the pair of its start and end.
-/

namespace CedraIndexer

/-- A one-character pattern: a literal, or `.`. -/
inductive CharClass where
  | lit (c : Char)
  | any
  deriving DecidableEq, Repr

/-- Whether a character matches: `.` excludes only `\n`. -/
def CharClass.matches : CharClass → Char → Bool
  | .lit d, c => c = d
  | .any, c => c ≠ '\n'

/-- Regular expressions over one-character patterns. -/
inductive Regex where
  | atom (cls : CharClass)
  | star (cls : CharClass)
  | seq (a b : Regex)
  | group (index : Nat) (r : Regex)
  deriving DecidableEq, Repr

/-- The capture groups found so far, by index. -/
abbrev Captures := Nat → Option (Nat × Nat)

/-- A matcher state: the position, the input from there on, and the captures. -/
structure MatchState where
  pos : Nat
  rest : List Char
  caps : Captures

/-- Record group `i` as spanning `span`. -/
def Captures.set (caps : Captures) (i : Nat) (span : Nat × Nat) : Captures :=
  fun j => if j = i then some span else caps j

/-- Greedy `cls*` from `pos`: one more repetition first, the continuation `k` last. -/
def starRun {α : Type} (cls : CharClass) (pos : Nat) (rest : List Char) (caps : Captures)
    (k : MatchState → Option α) : Option α :=
  match rest with
  | c :: cs =>
    if cls.matches c then (starRun cls (pos + 1) cs caps k).orElse fun _ => k ⟨pos, rest, caps⟩
    else k ⟨pos, rest, caps⟩
  | [] => k ⟨pos, [], caps⟩

/-- Backtracking match of `r` from `st`, then the continuation `k`; the first success wins. -/
def Regex.run {α : Type} : Regex → MatchState → (MatchState → Option α) → Option α
  | .atom cls, st, k =>
    match st.rest with
    | c :: cs => if cls.matches c then k ⟨st.pos + 1, cs, st.caps⟩ else none
    | [] => none
  | .star cls, st, k => starRun cls st.pos st.rest st.caps k
  | .seq a b, st, k => a.run st fun st' => b.run st' k
  | .group i r, st, k => r.run st fun st' => k { st' with caps := st'.caps.set i (st.pos, st'.pos) }

/-- The leftmost match from `pos` on: the first start position where `r` matches; group `0` is
the whole match. -/
def Regex.searchFrom (r : Regex) (pos : Nat) (rest : List Char) : Option Captures :=
  match r.run ⟨pos, rest, fun _ => none⟩ (fun st => some (st.caps.set 0 (pos, st.pos))) with
  | some caps => some caps
  | none =>
    match rest with
    | [] => none
    | _ :: cs => r.searchFrom (pos + 1) cs

/-- `Regex::captures`. -/
def Regex.captures (r : Regex) (hay : String) : Option Captures := r.searchFrom 0 hay.toList

/-- The text of a span of `hay`. -/
def spanText (hay : String) (span : Nat × Nat) : String :=
  ⟨(hay.toList.drop span.1).take (span.2 - span.1)⟩

/-- `r"(<(.*)>)"`. -/
def RE : Regex :=
  .group 1 (.seq (.atom (.lit '<')) (.seq (.group 2 (.star .any)) (.atom (.lit '>'))))

section Lemmas

variable {α : Type}

/-- A star that can take all of `xs` succeeds as soon as it succeeds after `xs`. -/
theorem starRun_append {cls : CharClass} {xs : List Char} (hxs : ∀ c ∈ xs, cls.matches c)
    (pos : Nat) (ys : List Char) (caps : Captures) (k : MatchState → Option α) {v : α}
    (h : starRun cls (pos + xs.length) ys caps k = some v) :
    starRun cls pos (xs ++ ys) caps k = some v := by
  induction xs generalizing pos with
  | nil => simpa using h
  | cons x xs ih =>
    have hx : cls.matches x := hxs x (List.mem_cons_self x xs)
    have ih' := ih (fun c hc => hxs c (List.mem_cons_of_mem x hc)) (pos + 1)
      (by simpa [Nat.add_assoc, Nat.add_comm 1] using h)
    rw [List.cons_append, starRun, if_pos hx, ih']
    rfl

/-- Where the first character cannot start a match, the search moves one character on. -/
theorem searchFrom_skip (r : Regex) (pos : Nat) (c : Char) (cs : List Char)
    (h : r.run ⟨pos, c :: cs, fun _ => none⟩
      (fun st => some (st.caps.set 0 (pos, st.pos))) = none) :
    r.searchFrom pos (c :: cs) = r.searchFrom (pos + 1) cs := by
  rw [Regex.searchFrom, h]

/-- The search skips a prefix none of whose characters can start a match. -/
theorem searchFrom_append (r : Regex) (pre rest : List Char) (pos : Nat)
    (h : ∀ c ∈ pre, ∀ (p : Nat) (cs : List Char), r.run ⟨p, c :: cs, fun _ => none⟩
      (fun st => some (st.caps.set 0 (p, st.pos))) = none) :
    r.searchFrom pos (pre ++ rest) = r.searchFrom (pos + pre.length) rest := by
  induction pre generalizing pos with
  | nil => simp
  | cons c pre ih =>
    rw [List.cons_append, searchFrom_skip r pos c _ (h c (List.mem_cons_self c pre) pos _),
      ih (pos + 1) (fun c' hc' => h c' (List.mem_cons_of_mem c hc')), List.length_cons,
      Nat.add_assoc, Nat.add_comm 1]

/-- `RE` cannot start at a character other than `<`. -/
theorem RE_run_of_ne {c : Char} (hc : c ≠ '<') (p : Nat) (cs : List Char) :
    RE.run ⟨p, c :: cs, fun _ => none⟩ (fun st => some (st.caps.set 0 (p, st.pos))) = none := by
  simp [RE, Regex.run, CharClass.matches, hc]

/-- From a `<`, `RE` matches up to the last `>`: the greedy `.*` takes every character of a
line-free `body`, and gives back only the closing `>`. -/
theorem RE_run_angle (body : List Char) (hbody : '\n' ∉ body) (p : Nat) :
    RE.run ⟨p, '<' :: (body ++ ['>']), fun _ => none⟩
        (fun st => some (st.caps.set 0 (p, st.pos))) =
      some (((Captures.set (fun _ => none) 2 (p + 1, p + 1 + body.length)).set 1
        (p, p + 1 + body.length + 1)).set 0 (p, p + 1 + body.length + 1)) := by
  simp only [RE, Regex.run, CharClass.matches]
  refine starRun_append (fun c hc => ?_) _ _ _ _ ?_
  · simpa [CharClass.matches] using ne_of_mem_of_not_mem hc hbody
  · simp [starRun, CharClass.matches, Option.orElse]

end Lemmas

/-- The coin type capture: in `P<T>` with no `<` in `P` and no line feed in `T`, group `2` is
exactly `T`, nested `<`, `>` and all. -/
theorem RE_captures_generic (P T : String) (hP : '<' ∉ P.toList) (hT : '\n' ∉ T.toList) :
    ∃ caps, RE.captures (P ++ "<" ++ T ++ ">") = some caps ∧
      caps 2 = some (P.length + 1, P.length + 1 + T.length) := by
  have hhay : (P ++ "<" ++ T ++ ">").toList = P.toList ++ ('<' :: (T.toList ++ ['>'])) := by
    simp [String.toList]
  rw [Regex.captures, hhay, searchFrom_append RE _ _ 0
    (fun c hc => RE_run_of_ne (ne_of_mem_of_not_mem hc hP)), Regex.searchFrom, RE_run_angle _ hT]
  refine ⟨_, rfl, ?_⟩
  simp only [Captures.set, Nat.zero_add, String.toList, String.length_data]
  rfl

/-- The text of that capture is `T`. -/
theorem spanText_generic (P T : String) :
    spanText (P ++ "<" ++ T ++ ">") (P.length + 1, P.length + 1 + T.length) = T := by
  obtain ⟨ps⟩ := P
  obtain ⟨ts⟩ := T
  have hhay : (String.mk ps ++ "<" ++ String.mk ts ++ ">").toList =
      (ps ++ ['<']) ++ (ts ++ ['>']) := by
    simp [String.toList]
  rw [spanText, hhay, Nat.add_sub_cancel_left, List.drop_left' (by simp)]
  exact congrArg String.mk (List.take_left' rfl)

end CedraIndexer

/-
# Arguments in the text of a statement

`queryUser`, `queryEmail` and the look-up of the old password put what the user has typed between
two single quotes, as it is.  This file determines for which strings the statement that MySQL
reads is the one that is meant, and when the two queries then tell whether there is a row.
-/
import WeChat.Gate.Accounts

namespace WeChat

open Sql

namespace GateServer

namespace MySQLMgr

/-- The three statements are read as the fixed statement with the string as the value of its
literal. -/
structure InsideLiteral (s : String) : Prop where
  user : lex (queryUserText s) = some (selectTokens "name" .name s)
  email : lex (queryEmailText s) = some (selectTokens "email" .email s)
  oldPassword : lex (oldPasswordText s) = some (selectTokens "password" .email s)

/-- Unless the statement fails, a query is true when there is a row with exactly this entry, and
only then. -/
structure FindsExactly (server : Server) (i : ℕ) (accounts : List Account) (s : String) : Prop where
  user : server.execute i (queryUserText s) accounts ≠ none →
    (queryUser server true i accounts s = true ↔ ∃ a ∈ accounts, a.name = s)
  email : server.execute i (queryEmailText s) accounts ≠ none →
    (queryEmail server true i accounts s = true ↔ ∃ a ∈ accounts, a.email = s)

/-- Where the collation finds a row for the string, one has exactly this entry. -/
structure NoNearMatch (server : Server) (i : ℕ) (accounts : List Account) (s : String) : Prop where
  user : server.execute i (queryUserText s) accounts ≠ none →
    (∃ a ∈ accounts, server.Matches .name s a) → ∃ a ∈ accounts, a.name = s
  email : server.execute i (queryEmailText s) accounts ≠ none →
    (∃ a ∈ accounts, server.Matches .email s a) → ∃ a ∈ accounts, a.email = s

section Literal

variable {server : Server} {i : ℕ} {accounts : List Account} {s : String}

-- the fixed beginnings of the statements are read up to the quote that opens the literal
set_option maxRecDepth 4000 in
lemma lex_queryUserText_iff (s : String) :
    lex (queryUserText s) = some (selectTokens "name" .name s) ↔ plain s.toList = true :=
  lex_literal_iff rfl s

set_option maxRecDepth 4000 in
lemma lex_queryEmailText_iff (s : String) :
    lex (queryEmailText s) = some (selectTokens "email" .email s) ↔ plain s.toList = true :=
  lex_literal_iff rfl s

set_option maxRecDepth 4000 in
lemma lex_oldPasswordText_iff (s : String) :
    lex (oldPasswordText s) = some (selectTokens "password" .email s) ↔ plain s.toList = true :=
  lex_literal_iff rfl s

lemma insideLiteral_iff_plain : InsideLiteral s ↔ plain s.toList = true := by
  constructor
  · intro h
    exact (lex_queryUserText_iff s).1 h.user
  · intro h
    exact ⟨(lex_queryUserText_iff s).2 h, (lex_queryEmailText_iff s).2 h,
      (lex_oldPasswordText_iff s).2 h⟩

variable (server i accounts) in
/-- A query whose statement is read as it is meant is exact when only exact matches are found. -/
lemma query_exact_iff {text selected : String} {column : Column}
    (hlex : lex text = some (selectTokens selected column s)) :
    (server.execute i text accounts ≠ none →
      (query server true i accounts text = true ↔ ∃ a ∈ accounts, a.entry column = s)) ↔
    (server.execute i text accounts ≠ none →
      (∃ a ∈ accounts, server.Matches column s a) → ∃ a ∈ accounts, a.entry column = s) := by
  refine forall_congr' fun hexecuted => ?_
  obtain ⟨rows, hrows⟩ := Option.ne_none_iff_exists'.1 hexecuted
  rw [query_eq_true_iff hrows, execute_ne_nil_iff hlex hrows]
  -- an entry is the same as itself
  have hself : (∃ a ∈ accounts, a.entry column = s) →
      ∃ a ∈ accounts, server.Matches column s a := by
    rintro ⟨a, ha, rfl⟩
    exact ⟨a, ha, server.same_self _⟩
  exact ⟨Iff.mp, fun h => ⟨h, hself⟩⟩

/-- **What a user types stays inside its literal, and the queries are exact, if and only if it
has no single quote, every backslash of it is the first character of `\%` or `\_`, and no row
has an entry that only the collation takes for the string.** -/
theorem insideLiteral_iff : (InsideLiteral s ∧ FindsExactly server i accounts s) ↔
    plain s.toList = true ∧ NoNearMatch server i accounts s := by
  rw [insideLiteral_iff_plain]
  refine and_congr_right fun hplain => ?_
  have huser := query_exact_iff server i accounts ((lex_queryUserText_iff s).2 hplain)
  have hemail := query_exact_iff server i accounts ((lex_queryEmailText_iff s).2 hplain)
  exact ⟨fun h => ⟨huser.1 h.user, hemail.1 h.email⟩, fun h => ⟨huser.2 h.user, hemail.2 h.email⟩⟩

/-- The name `O'Brien` ends its literal. -/
theorem not_insideLiteral_apostrophe :
    ¬ ∀ server i accounts s, InsideLiteral s ∧ FindsExactly server i accounts s := by
  intro h
  have hplain := insideLiteral_iff_plain.1 (h exactServer 0 [] "O'Brien").1
  have htext : "O'Brien".toList = 'O' :: singleQuote :: "Brien".toList := rfl
  rw [htext, plain_cons (by decide) (by decide), plain_quote] at hplain
  exact Bool.false_ne_true hplain

end Literal

end MySQLMgr

end GateServer

end WeChat

/-
# The tokens of an SQL statement

A statement text is read character by character, as MySQL does: words, names in backquotes, string
literals in single or double quotes, other symbols, and comments, which are skipped.  Inside a
literal the quote is doubled, or a backslash takes the next character literally or stands for a
control character; `\%` and `\_` stay as they are.

The file determines which texts may stand between single quotes for themselves: those without a
single quote in which every backslash is the first character of `\%` or `\_`.
-/
import Mathlib.Data.List.Basic

namespace Sql

inductive Token
  | word (s : String)
  | name (s : String)
  | literal (s : String)
  | symbol (c : Char)
deriving DecidableEq

def singleQuote : Char := Char.ofNat 39

def doubleQuote : Char := Char.ofNat 34

def backquote : Char := Char.ofNat 96

/-- Where the reader of a text stands; what it has read of a token is in reverse order. -/
inductive Mode
  | blank
  | word (acc : List Char)
  /-- Between two quotes. -/
  | quoted (quote : Char) (acc : List Char)
  /-- After a backslash between quotes. -/
  | escaped (quote : Char) (acc : List Char)
  /-- After a quote, which ends the token unless it is followed by another one. -/
  | closing (quote : Char) (acc : List Char)
  /-- After one dash, and after two. -/
  | dash
  | dashes
  /-- In a comment that ends with the line. -/
  | line
  | slash
  /-- In a comment between slashes and asterisks, and after an asterisk there. -/
  | block
  | star

def isWordChar (c : Char) : Bool := c.isAlphanum || c == '_' || c == '$' || 127 < c.toNat

/-- What a backslash and a character stand for. -/
def unescape (c : Char) : List Char :=
  if c = '%' ∨ c = '_' then ['\\', c]
  else if c = '0' then [Char.ofNat 0]
  else if c = 'b' then [Char.ofNat 8]
  else if c = 'n' then ['\n']
  else if c = 'r' then ['\r']
  else if c = 't' then ['\t']
  else if c = 'Z' then [Char.ofNat 26]
  else [c]

/-- A token in quotes. -/
def Token.ofQuoted (quote : Char) (acc : List Char) : Token :=
  if quote = backquote then .name (String.ofList acc.reverse)
  else .literal (String.ofList acc.reverse)

/-- The first character after a token. -/
def start (c : Char) : List Token × Mode :=
  if c.isWhitespace then ([], .blank)
  else if isWordChar c then ([], .word [c])
  else if c = singleQuote ∨ c = doubleQuote ∨ c = backquote then ([], .quoted c [])
  else if c = '#' then ([], .line)
  else if c = '-' then ([], .dash)
  else if c = '/' then ([], .slash)
  else ([.symbol c], .blank)

/-- The tokens that end before another one starts. -/
def before (ts : List Token) (next : List Token × Mode) : List Token × Mode :=
  (ts ++ next.1, next.2)

/-- One character. -/
def Mode.step : Mode → Char → List Token × Mode
  | blank, c => start c
  | word acc, c =>
    if isWordChar c then ([], word (c :: acc))
    else before [.word (String.ofList acc.reverse)] (start c)
  | quoted quote acc, c =>
    if c = quote then ([], closing quote acc)
    else if c = '\\' ∧ quote ≠ backquote then ([], escaped quote acc)
    else ([], quoted quote (c :: acc))
  | escaped quote acc, c => ([], quoted quote ((unescape c).reverse ++ acc))
  | closing quote acc, c =>
    if c = quote then ([], quoted quote (c :: acc))
    else before [.ofQuoted quote acc] (start c)
  | dash, c => if c = '-' then ([], dashes) else before [.symbol '-'] (start c)
  | dashes, c =>
    if c = '\n' then ([], blank)
    else if c.isWhitespace ∨ c.toNat < 32 then ([], line)
    else before [.symbol '-', .symbol '-'] (start c)
  | line, c => if c = '\n' then ([], blank) else ([], line)
  | slash, c => if c = '*' then ([], block) else before [.symbol '/'] (start c)
  | block, c => if c = '*' then ([], star) else ([], block)
  | star, c =>
    if c = '/' then ([], blank) else if c = '*' then ([], star) else ([], block)

/-- The end of the text; a token in quotes and a comment have to be closed. -/
def Mode.finish : Mode → Option (List Token)
  | blank => some []
  | word acc => some [.word (String.ofList acc.reverse)]
  | closing quote acc => some [.ofQuoted quote acc]
  | dash => some [.symbol '-']
  | dashes => some []
  | line => some []
  | slash => some [.symbol '/']
  | quoted _ _ => none
  | escaped _ _ => none
  | block => none
  | star => none

/-- The tokens of a text, read from a given mode. -/
def lexFrom (m : Mode) : List Char → Option (List Token)
  | [] => m.finish
  | c :: cs => (lexFrom (m.step c).2 cs).map ((m.step c).1 ++ ·)

/-- The tokens of a statement. -/
def lex (s : String) : Option (List Token) := lexFrom .blank s.toList

/-- The tokens that are complete after a beginning of a text, and the mode there. -/
def scan (m : Mode) : List Char → List Token × Mode
  | [] => ([], m)
  | c :: cs => before (m.step c).1 (scan (m.step c).2 cs)

lemma lexFrom_append (m : Mode) (cs ds : List Char) :
    lexFrom m (cs ++ ds) = (lexFrom (scan m cs).2 ds).map ((scan m cs).1 ++ ·) := by
  induction cs generalizing m with
  | nil => simp [scan]
  | cons c cs ih =>
    rw [List.cons_append, lexFrom, ih, Option.map_map, scan, before]
    simp only [Function.comp_def, List.append_assoc]

/-! ## Texts between single quotes -/

/-- A text that stands for itself between single quotes. -/
def plain : List Char → Bool
  | [] => true
  | c :: cs =>
    if c = singleQuote then false
    else if c = '\\' then
      match cs with
      | [] => false
      | d :: ds => (d == '%' || d == '_') && plain ds
    else plain cs

section Quoted

variable {acc cs s : List Char} {c : Char}

lemma plain_quote (cs : List Char) : plain (singleQuote :: cs) = false := by
  cases cs <;> rfl

lemma plain_backslash (c : Char) (cs : List Char) :
    plain ('\\' :: c :: cs) = ((c == '%' || c == '_') && plain cs) := rfl

lemma plain_cons (h : c ≠ singleQuote) (h' : c ≠ '\\') (cs : List Char) :
    plain (c :: cs) = plain cs := by
  cases cs with
  | nil => simp [plain, h, h']
  | cons d ds => simp [plain, h, h']

lemma step_quoted (h : c ≠ singleQuote) (h' : c ≠ '\\') :
    (Mode.quoted singleQuote acc).step c = ([], .quoted singleQuote (c :: acc)) := by
  rw [Mode.step, if_neg h, if_neg fun hc => h' hc.1]

lemma step_backslash :
    (Mode.quoted singleQuote acc).step '\\' = ([], .escaped singleQuote acc) := by
  rw [Mode.step, if_neg (by decide), if_pos ⟨rfl, by decide⟩]

lemma step_quote :
    (Mode.quoted singleQuote acc).step singleQuote = ([], .closing singleQuote acc) := by
  rw [Mode.step, if_pos rfl]

lemma lexFrom_cons {m m' : Mode} (h : m.step c = ([], m')) (cs : List Char) :
    lexFrom m (c :: cs) = lexFrom m' cs := by
  rw [lexFrom, h]
  exact Option.map_id_apply

lemma unescape_of_wildcard (h : (c == '%' || c == '_') = true) : unescape c = ['\\', c] := by
  rw [unescape, if_pos (by simpa using h)]

lemma length_unescape (h : (c == '%' || c == '_') = false) : (unescape c).length = 1 := by
  rw [unescape, if_neg (by simpa using h)]
  split_ifs <;> rfl

variable (acc) in
/-- A plain text is the value of its literal. -/
lemma lexFrom_plain (h : plain s = true) :
    lexFrom (.quoted singleQuote acc) (s ++ [singleQuote]) =
      some [.literal (String.ofList (acc.reverse ++ s))] := by
  induction s using plain.induct generalizing acc with
  | case1 =>
    rw [List.nil_append, List.append_nil, lexFrom, step_quote]
    rfl
  | case2 cs =>
    rw [plain_quote] at h
    cases h
  | case3 => cases h
  | case4 c cs hne ih =>
    rw [plain_backslash, Bool.and_eq_true] at h
    rw [List.cons_append, List.cons_append, lexFrom, step_backslash, lexFrom, Mode.step,
      unescape_of_wildcard h.1, ih _ h.2]
    simp
  | case5 c cs hne hne' ih =>
    rw [plain_cons hne hne'] at h
    rw [List.cons_append, lexFrom, step_quoted hne hne', ih _ h]
    simp

/-- The value of a literal is not longer than the text that is left without its quote. -/
lemma length_literal_le (cs : List Char) : ∀ (acc : List Char) (v : String) (ts : List Token),
    (lexFrom (.quoted singleQuote acc) cs = some (.literal v :: ts) →
      v.toList.length + 1 ≤ acc.length + cs.length) ∧
    (lexFrom (.escaped singleQuote acc) cs = some (.literal v :: ts) →
      v.toList.length ≤ acc.length + cs.length) ∧
    (lexFrom (.closing singleQuote acc) cs = some (.literal v :: ts) →
      v.toList.length ≤ acc.length + (cs.length - 1)) := by
  induction cs with
  | nil =>
    intro acc v ts
    refine ⟨fun h => ?_, fun h => ?_, fun h => ?_⟩
    · cases h
    · cases h
    · have hv : Token.literal (String.ofList acc.reverse) = .literal v :=
        (List.cons.inj (Option.some.inj h)).1
      rw [← Token.literal.inj hv]
      simp
  | cons c cs ih =>
    intro acc v ts
    rw [List.length_cons]
    refine ⟨fun h => ?_, fun h => ?_, fun h => ?_⟩
    · by_cases hquote : c = singleQuote
      · rw [hquote, lexFrom_cons step_quote] at h
        have := (ih acc v ts).2.2 h
        omega
      · by_cases hback : c = '\\'
        · rw [hback, lexFrom_cons step_backslash] at h
          have := (ih acc v ts).2.1 h
          omega
        · rw [lexFrom_cons (step_quoted hquote hback)] at h
          have := (ih (c :: acc) v ts).1 h
          rw [List.length_cons] at this
          omega
    · rw [lexFrom_cons rfl] at h
      have hlen := (ih ((unescape c).reverse ++ acc) v ts).1 h
      rw [List.length_append, List.length_reverse] at hlen
      -- two characters at most stand for an escaped one
      cases hwild : c == '%' || c == '_' with
      | true =>
        rw [unescape_of_wildcard hwild, List.length_cons, List.length_singleton] at hlen
        omega
      | false =>
        rw [length_unescape hwild] at hlen
        omega
    · by_cases hquote : c = singleQuote
      · have hdouble : (Mode.closing singleQuote acc).step singleQuote =
            ([], .quoted singleQuote (singleQuote :: acc)) := by
          rw [Mode.step, if_pos rfl]
        rw [hquote, lexFrom_cons hdouble] at h
        have := (ih (singleQuote :: acc) v ts).1 h
        rw [List.length_cons] at this
        omega
      · rw [lexFrom, Mode.step, if_neg hquote, before, Option.map_eq_some_iff] at h
        obtain ⟨rest, -, hrest⟩ := h
        have hv : Token.literal (String.ofList acc.reverse) = .literal v :=
          (List.cons.inj hrest).1
        rw [← Token.literal.inj hv]
        simp

variable (acc) in
/-- A text that is not plain is not the value of its literal. -/
lemma lexFrom_ne_of_not_plain (h : plain s = false) :
    lexFrom (.quoted singleQuote acc) (s ++ [singleQuote]) ≠
      some [.literal (String.ofList (acc.reverse ++ s))] := by
  intro hlex
  induction s using plain.induct generalizing acc with
  | case1 => cases h
  | case2 cs =>
    rw [List.cons_append, lexFrom_cons step_quote] at hlex
    have hlen := (length_literal_le _ _ _ _).2.2 hlex
    simp only [String.toList_ofList, List.length_append, List.length_reverse, List.length_cons,
      List.length_nil] at hlen
    omega
  | case3 =>
    rw [List.cons_append, lexFrom_cons step_backslash] at hlex
    cases hlex
  | case4 c cs hne ih =>
    rw [plain_backslash] at h
    rw [List.cons_append, List.cons_append, lexFrom_cons step_backslash, lexFrom_cons rfl] at hlex
    cases hwild : c == '%' || c == '_' with
    | true =>
      rw [hwild, Bool.true_and] at h
      rw [unescape_of_wildcard hwild] at hlex
      have htext : acc.reverse ++ '\\' :: c :: cs = (c :: '\\' :: acc).reverse ++ cs := by simp
      rw [htext] at hlex
      exact ih _ h hlex
    | false =>
      have hlen := (length_literal_le _ _ _ _).1 hlex
      have hone := length_unescape hwild
      simp only [String.toList_ofList, List.length_append, List.length_reverse, List.length_cons,
        List.length_nil, hone] at hlen
      omega
  | case5 c cs hne hne' ih =>
    rw [plain_cons hne hne'] at h
    have htext : acc.reverse ++ c :: cs = (c :: acc).reverse ++ cs := by simp
    rw [List.cons_append, lexFrom_cons (step_quoted hne hne'), htext] at hlex
    exact ih _ h hlex

/-- **A text between single quotes is read as one literal with the text as its value if and only
if the text is plain.** -/
theorem lex_literal_iff {text : String} {ts : List Token}
    (htext : scan .blank text.toList = (ts, .quoted singleQuote [])) (s : String) :
    lex (text ++ s ++ "'") = some (ts ++ [.literal s]) ↔ plain s.toList = true := by
  have hlist : (text ++ s ++ "'").toList = text.toList ++ (s.toList ++ [singleQuote]) := by
    rw [String.toList_append, String.toList_append, List.append_assoc]
    rfl
  have hlex : lex (text ++ s ++ "'") = some (ts ++ [.literal s]) ↔
      lexFrom (.quoted singleQuote []) (s.toList ++ [singleQuote]) = some [.literal s] := by
    rw [lex, hlist, lexFrom_append, htext]
    constructor
    · intro h
      obtain ⟨rest, hrest, heq⟩ := Option.map_eq_some_iff.1 h
      rw [hrest, List.append_cancel_left heq]
    · intro h
      rw [h, Option.map_some]
  rw [hlex]
  cases hplain : plain s.toList with
  | true =>
    refine iff_of_true ?_ rfl
    have hvalue := lexFrom_plain [] hplain
    simpa using hvalue
  | false =>
    refine iff_of_false (fun h => ?_) Bool.false_ne_true
    exact lexFrom_ne_of_not_plain [] hplain (by simpa using h)

end Quoted

end Sql

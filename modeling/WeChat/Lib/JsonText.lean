/-
# Compact JSON text

A codec for JSON: values are written without blanks and with the fields of objects in the
order of their keys, and the parser reads such text back.  The parser is given fuel, of which
a text needs no more than its length.
-/
import Mathlib.Data.Nat.Digits.Defs
import WeChat.Lib.Json

open Wire

namespace Json

/-! ## Numbers -/

def digitChar (d : ℕ) : Char := Char.ofNat (48 + d)

def digitVal (c : Char) : Option ℕ :=
  if 48 ≤ c.toNat ∧ c.toNat ≤ 57 then some (c.toNat - 48) else none

def printNat (n : ℕ) : List Char :=
  if n = 0 then ['0'] else (Nat.digits 10 n).reverse.map digitChar

def printInt (n : ℤ) : List Char :=
  if n < 0 then '-' :: printNat n.natAbs else printNat n.natAbs

/-- The digits at the front of a text, the most significant one first. -/
def spanDigits : List Char → List ℕ × List Char
  | [] => ([], [])
  | c :: r =>
    match digitVal c with
    | some d => (d :: (spanDigits r).1, (spanDigits r).2)
    | none => ([], c :: r)

def parseNat (s : List Char) : Option (ℕ × List Char) :=
  match spanDigits s with
  | ([], _) => none
  | (ds, r) => some (Nat.ofDigits 10 ds.reverse, r)

def parseInt : List Char → Option (ℤ × List Char)
  | '-' :: r => (parseNat r).map fun p => (-p.1, p.2)
  | s => (parseNat s).map fun p => (p.1, p.2)

def parseNumber (s : List Char) : Option (Json × List Char) :=
  match parseInt s with
  | some (m, 'e' :: r) => (parseInt r).map fun p => (.real m p.1, p.2)
  | some (m, r) => some (.num m, r)
  | none => none

/-- What may follow a number. -/
def Ends (r : List Char) : Prop := ∀ c ∈ r.head?, digitVal c = none ∧ c ≠ 'e'

lemma digitVal_digitChar : ∀ d < 10, digitVal (digitChar d) = some d := by decide

lemma spanDigits_append {ds : List ℕ} (hds : ∀ d ∈ ds, d < 10) {r : List Char}
    (hr : ∀ c ∈ r.head?, digitVal c = none) :
    spanDigits (ds.map digitChar ++ r) = (ds, r) := by
  induction ds with
  | nil =>
    cases r with
    | nil => rfl
    | cons c r =>
      have hc : digitVal c = none := hr c rfl
      simp [spanDigits, hc]
  | cons d ds ih =>
    have hd := digitVal_digitChar d (hds d List.mem_cons_self)
    simp [spanDigits, hd, ih fun d' h' => hds d' (List.mem_cons_of_mem _ h')]

/-- The digits of a number, the most significant one first. -/
def digits (n : ℕ) : List ℕ := if n = 0 then [0] else (Nat.digits 10 n).reverse

lemma printNat_eq (n : ℕ) : printNat n = (digits n).map digitChar := by
  unfold printNat digits
  split_ifs <;> rfl

lemma digits_lt {n d : ℕ} (h : d ∈ digits n) : d < 10 := by
  rw [digits] at h
  split_ifs at h
  · rw [List.mem_singleton.1 h]
    norm_num
  · exact Nat.digits_lt_base (by norm_num) (List.mem_reverse.1 h)

lemma digits_ne_nil (n : ℕ) : digits n ≠ [] := by
  rw [digits]
  split_ifs with h
  · exact List.cons_ne_nil _ _
  · rwa [ne_eq, List.reverse_eq_nil_iff, Nat.digits_eq_nil_iff_eq_zero]

lemma ofDigits_digits (n : ℕ) : Nat.ofDigits 10 (digits n).reverse = n := by
  rw [digits]
  split_ifs with h
  · simp [h]
  · rw [List.reverse_reverse, Nat.ofDigits_digits]

lemma parseNat_print (n : ℕ) {r : List Char} (hr : ∀ c ∈ r.head?, digitVal c = none) :
    parseNat (printNat n ++ r) = some (n, r) := by
  rw [parseNat, printNat_eq, spanDigits_append (fun d hd => digits_lt hd) hr]
  cases hds : digits n with
  | nil => exact absurd hds (digits_ne_nil n)
  | cons d ds =>
    simp only
    rw [← hds, ofDigits_digits]

/-- A number starts with a digit. -/
lemma exists_printNat (n : ℕ) : ∃ d < 10, ∃ s, printNat n = digitChar d :: s := by
  rw [printNat_eq]
  cases hds : digits n with
  | nil => exact absurd hds (digits_ne_nil n)
  | cons d ds => exact ⟨d, digits_lt (hds ▸ List.mem_cons_self), _, rfl⟩

lemma digitChar_ne_minus : ∀ d < 10, digitChar d ≠ '-' := by decide

lemma parseInt_print (n : ℤ) {r : List Char} (hr : ∀ c ∈ r.head?, digitVal c = none) :
    parseInt (printInt n ++ r) = some (n, r) := by
  rw [printInt]
  split_ifs with hneg
  · simp only [List.cons_append, parseInt, parseNat_print _ hr, Option.map_some]
    congr 2
    omega
  · -- a number without a sign starts with a digit
    obtain ⟨d, hd, s, hs⟩ := exists_printNat n.natAbs
    have hparse := parseNat_print n.natAbs hr
    rw [hs] at hparse ⊢
    rw [List.cons_append, parseInt, ← List.cons_append, hparse, Option.map_some]
    · congr 2
      omega
    · intro r' heq
      exact digitChar_ne_minus d hd (List.cons.inj heq).1

lemma parseNumber_num (n : ℤ) {r : List Char} (hr : Ends r) :
    parseNumber (printInt n ++ r) = some (.num n, r) := by
  rw [parseNumber, parseInt_print n fun c hc => (hr c hc).1]
  cases r with
  | nil => rfl
  | cons c r =>
    have hc : c ≠ 'e' := (hr c rfl).2
    split
    · next heq =>
      simp only [Option.some.injEq, Prod.mk.injEq, List.cons.injEq] at heq
      exact absurd heq.2.1 hc
    · next heq =>
      simp only [Option.some.injEq, Prod.mk.injEq] at heq
      rw [heq.1, heq.2]
    · next heq => cases heq

lemma parseNumber_real (m e : ℤ) {r : List Char} (hr : Ends r) :
    parseNumber (printInt m ++ 'e' :: printInt e ++ r) = some (.real m e, r) := by
  rw [parseNumber, List.append_assoc, parseInt_print m (by rintro c ⟨⟩; decide)]
  simp only [List.cons_append, parseInt_print e fun c hc => (hr c hc).1, Option.map_some]

/-! ## Strings -/

/-- The characters with an escape of one letter. -/
def escapes : List (Char × Char) :=
  [('"', '"'), ('\\', '\\'), ('\x08', 'b'), ('\x0c', 'f'), ('\n', 'n'), ('\r', 'r'), ('\t', 't')]

def hexDigit (d : ℕ) : Char := if d < 10 then Char.ofNat (48 + d) else Char.ofNat (87 + d)

def hexVal (c : Char) : Option ℕ :=
  if 48 ≤ c.toNat ∧ c.toNat ≤ 57 then some (c.toNat - 48)
  else if 97 ≤ c.toNat ∧ c.toNat ≤ 102 then some (c.toNat - 87)
  else if 65 ≤ c.toNat ∧ c.toNat ≤ 70 then some (c.toNat - 55)
  else none

def escape (c : Char) : List Char :=
  match escapes.lookup c with
  | some e => ['\\', e]
  | none =>
    if c.toNat < 32 then ['\\', 'u', '0', '0', hexDigit (c.toNat / 16), hexDigit (c.toNat % 16)]
    else [c]

def unescape (e : Char) : Option Char :=
  if e = '/' then some '/' else (escapes.find? fun p => p.2 = e).map Prod.fst

def printStr (s : String) : List Char := '"' :: (s.toList.flatMap escape ++ ['"'])

/-- The rest of a string after its opening quote. -/
def parseChars : List Char → Option (List Char × List Char)
  | [] => none
  | '\\' :: 'u' :: h₃ :: h₂ :: h₁ :: h₀ :: r =>
    match hexVal h₃, hexVal h₂, hexVal h₁, hexVal h₀ with
    | some d₃, some d₂, some d₁, some d₀ =>
      (parseChars r).map fun p =>
        (Char.ofNat (((d₃ * 16 + d₂) * 16 + d₁) * 16 + d₀) :: p.1, p.2)
    | _, _, _, _ => none
  | '\\' :: e :: r =>
    match unescape e with
    | some c => (parseChars r).map fun p => (c :: p.1, p.2)
    | none => none
  | c :: r =>
    if c = '"' then some ([], r)
    else if c.toNat < 32 then none
    else (parseChars r).map fun p => (c :: p.1, p.2)

lemma escapes_spec : ∀ p ∈ escapes, p.2 ≠ 'u' ∧ unescape p.2 = some p.1 := by decide

lemma mem_of_lookup {c e : Char} (h : escapes.lookup c = some e) : (c, e) ∈ escapes := by
  obtain ⟨l₁, l₂, hl, -⟩ := List.lookup_eq_some_iff.1 h
  rw [hl]
  exact List.mem_append_right _ List.mem_cons_self

lemma hexVal_hexDigit : ∀ d < 16, hexVal (hexDigit d) = some d := by decide

lemma ne_of_lookup_none {c : Char} (h : escapes.lookup c = none) : c ≠ '"' ∧ c ≠ '\\' := by
  constructor
  · rintro rfl
    revert h
    decide
  · rintro rfl
    revert h
    decide

lemma parseChars_escape (c : Char) (r : List Char) :
    parseChars (escape c ++ r) = (parseChars r).map fun p => (c :: p.1, p.2) := by
  rw [escape]
  cases hlookup : escapes.lookup c with
  | some e =>
    -- the letter of an escape is never the `u` of a code
    obtain ⟨hne, hun⟩ := escapes_spec _ (mem_of_lookup hlookup)
    simp only at hne hun
    simp only [List.cons_append, List.nil_append]
    rw [parseChars, hun]
    intro _ _ _ _ _ heq
    exact absurd heq hne
  | none =>
    obtain ⟨hquote, hback⟩ := ne_of_lookup_none hlookup
    by_cases hctl : c.toNat < 32
    · -- a control character is written with its two hexadecimal digits
      have hzero : hexVal '0' = some 0 := by decide
      have hval : ((0 * 16 + 0) * 16 + c.toNat / 16) * 16 + c.toNat % 16 = c.toNat := by omega
      simp only [if_pos hctl, List.cons_append, List.nil_append, parseChars, hzero,
        hexVal_hexDigit (c.toNat / 16) (by omega), hexVal_hexDigit (c.toNat % 16) (by omega),
        hval, Char.ofNat_toNat]
    · simp only [if_neg hctl, List.cons_append, List.nil_append]
      rw [parseChars, if_neg hquote, if_neg hctl]
      · intro _ _ _ _ _ heq
        exact absurd heq hback
      · intro _ _ heq
        exact absurd heq hback

lemma parseChars_print (cs : List Char) (r : List Char) :
    parseChars (cs.flatMap escape ++ '"' :: r) = some (cs, r) := by
  induction cs with
  | nil => simp [parseChars]
  | cons c cs ih =>
    rw [List.flatMap_cons, List.append_assoc, parseChars_escape, ih, Option.map_some]

/-! ## Values -/

mutual

/-- The text of a value. -/
def print : Json → List Char
  | .null => ['n', 'u', 'l', 'l']
  | .bool true => ['t', 'r', 'u', 'e']
  | .bool false => ['f', 'a', 'l', 's', 'e']
  | .num n => printInt n
  | .real m e => printInt m ++ 'e' :: printInt e
  | .str s => printStr s
  | .arr items => '[' :: printItems items
  | .obj fields => '\x7b' :: printFields fields

/-- The text of an array after its opening bracket. -/
def printItems : List Json → List Char
  | [] => [']']
  | [j] => print j ++ [']']
  | j :: j' :: js => print j ++ ',' :: printItems (j' :: js)

/-- The text of an object after its opening brace. -/
def printFields : List (String × Json) → List Char
  | [] => ['\x7d']
  | [f] => printStr f.1 ++ ':' :: (print f.2 ++ ['\x7d'])
  | f :: f' :: fs => printStr f.1 ++ ':' :: (print f.2 ++ ',' :: printFields (f' :: fs))

end

/-- The rest of a word whose first letter was read. -/
def parseWord (word : List Char) (j : Json) (r : List Char) : Option (Json × List Char) :=
  if word <+: r then some (j, r.drop word.length) else none

mutual

def parseValue : ℕ → List Char → Option (Json × List Char)
  | 0, _ => none
  | _ + 1, [] => none
  | n + 1, c :: r =>
    if c = 'n' then parseWord ['u', 'l', 'l'] .null r
    else if c = 't' then parseWord ['r', 'u', 'e'] (.bool true) r
    else if c = 'f' then parseWord ['a', 'l', 's', 'e'] (.bool false) r
    else if c = '"' then (parseChars r).map fun p => (.str (String.ofList p.1), p.2)
    else if c = '[' then
      if r.head? = some ']' then some (.arr [], r.tail)
      else (parseItems n r).map fun p => (.arr p.1, p.2)
    else if c = '\x7b' then
      if r.head? = some '\x7d' then some (.obj [], r.tail)
      else (parseFields n r).map fun p => (object p.1, p.2)
    else parseNumber (c :: r)

def parseItems : ℕ → List Char → Option (List Json × List Char)
  | 0, _ => none
  | n + 1, s =>
    match parseValue n s with
    | some (j, ',' :: r) => (parseItems n r).map fun p => (j :: p.1, p.2)
    | some (j, ']' :: r) => some ([j], r)
    | _ => none

def parseFields : ℕ → List Char → Option (List (String × Json) × List Char)
  | 0, _ => none
  | _ + 1, [] => none
  | n + 1, c :: s =>
    if c = '"' then
      match parseChars s with
      | some (k, ':' :: r) =>
        match parseValue n r with
        | some (j, ',' :: r') =>
          (parseFields n r').map fun p => ((String.ofList k, j) :: p.1, p.2)
        | some (j, '\x7d' :: r') => some ([(String.ofList k, j)], r')
        | _ => none
      | _ => none
    else none

end

/-- The parser for a whole text. -/
def parseText (s : List Char) : Option Json :=
  match parseValue (s.length + 1) s with
  | some (j, []) => some j
  | _ => none

/-! ## The round trip -/

mutual

/-- The fuel that a value needs. -/
def size : Json → ℕ
  | .arr items => 1 + sizeItems items
  | .obj fields => 1 + sizeFields fields
  | _ => 1

def sizeItems : List Json → ℕ
  | [] => 0
  | j :: js => 1 + size j + sizeItems js

def sizeFields : List (String × Json) → ℕ
  | [] => 0
  | f :: fs => 1 + size f.2 + sizeFields fs

end

lemma ends_cons {c : Char} (h : digitVal c = none ∧ c ≠ 'e') (r : List Char) : Ends (c :: r) := by
  rintro c' ⟨⟩
  exact h

/-- The characters that a number starts with. -/
def NumStart (c : Char) : Prop := c = '-' ∨ ∃ d < 10, c = digitChar d

lemma exists_printInt (n : ℤ) : ∃ c s, printInt n = c :: s ∧ NumStart c := by
  obtain ⟨d, hd, s, hs⟩ := exists_printNat n.natAbs
  rw [printInt]
  split_ifs
  · exact ⟨'-', _, rfl, .inl rfl⟩
  · exact ⟨digitChar d, s, hs, .inr ⟨d, hd, rfl⟩⟩

/-- Nothing else starts as a number does. -/
lemma numStart_ne {c : Char} (h : NumStart c) :
    c ≠ 'n' ∧ c ≠ 't' ∧ c ≠ 'f' ∧ c ≠ '"' ∧ c ≠ '[' ∧ c ≠ '\x7b' ∧ c ≠ ']' := by
  have hall : ∀ d < 10, digitChar d ≠ 'n' ∧ digitChar d ≠ 't' ∧ digitChar d ≠ 'f' ∧
      digitChar d ≠ '"' ∧ digitChar d ≠ '[' ∧ digitChar d ≠ '\x7b' ∧ digitChar d ≠ ']' := by
    decide
  rcases h with rfl | ⟨d, hd, rfl⟩
  · decide
  · exact hall d hd

lemma parseValue_number {c : Char} (h : NumStart c) (n : ℕ) (r : List Char) :
    parseValue (n + 1) (c :: r) = parseNumber (c :: r) := by
  obtain ⟨h₁, h₂, h₃, h₄, h₅, h₆, -⟩ := numStart_ne h
  rw [parseValue, if_neg h₁, if_neg h₂, if_neg h₃, if_neg h₄, if_neg h₅, if_neg h₆]

/-- The first character of a value is not that of the end of an array. -/
lemma head_print (j : Json) (r : List Char) : (print j ++ r).head? ≠ some ']' := by
  have hint : ∀ n r, (printInt n ++ r).head? ≠ some ']' := by
    intro n r
    obtain ⟨c, s, hs, hc⟩ := exists_printInt n
    rw [hs]
    exact fun h => (numStart_ne hc).2.2.2.2.2.2 (Option.some.inj h)
  cases j with
  | num n => rw [print]; exact hint n r
  | real m e => rw [print, List.append_assoc]; exact hint m _
  | bool b => cases b <;> simp [print]
  | _ => simp [print, printStr]

lemma head_printItems (j : Json) (js : List Json) (r : List Char) :
    (printItems (j :: js) ++ r).head? ≠ some ']' := by
  cases js with
  | nil => rw [printItems, List.append_assoc]; exact head_print j _
  | cons j' js => rw [printItems, List.append_assoc]; exact head_print j _

/-- With the fuel `n`, the values, items and fields that need no more are read back. -/
structure ReadsBack (n : ℕ) : Prop where
  value : ∀ (j : Json) (r : List Char), size j ≤ n → j.Wf → Ends r →
    parseValue n (print j ++ r) = some (j, r)
  items : ∀ (j : Json) (js : List Json) (r : List Char), sizeItems (j :: js) ≤ n →
    WfItems (j :: js) → parseItems n (printItems (j :: js) ++ r) = some (j :: js, r)
  fields : ∀ (f : String × Json) (fs : List (String × Json)) (r : List Char),
    sizeFields (f :: fs) ≤ n → WfFields (f :: fs) →
    parseFields n (printFields (f :: fs) ++ r) = some (f :: fs, r)

lemma size_pos (j : Json) : 0 < size j := by
  cases j <;> simp only [size] <;> omega

lemma parseValue_print {n : ℕ} (h : ReadsBack n) (j : Json) (r : List Char)
    (hn : size j ≤ n + 1) (hwf : j.Wf) (hr : Ends r) :
    parseValue (n + 1) (print j ++ r) = some (j, r) := by
  match j with
  | .null => simp [print, parseValue, parseWord]
  | .bool true => simp [print, parseValue, parseWord]
  | .bool false => simp [print, parseValue, parseWord]
  | .num i =>
    obtain ⟨c, s, hs, hc⟩ := exists_printInt i
    have hparse := parseNumber_num i hr
    rw [hs, List.cons_append] at hparse
    rw [print, hs, List.cons_append, parseValue_number hc, hparse]
  | .real m e =>
    obtain ⟨c, s, hs, hc⟩ := exists_printInt m
    have hparse := parseNumber_real m e hr
    rw [hs, List.cons_append, List.cons_append] at hparse
    rw [print, hs, List.cons_append, List.cons_append, parseValue_number hc, hparse]
  | .str s =>
    simp only [print, printStr, List.cons_append, List.append_assoc, List.nil_append, parseValue,
      parseChars_print]
    simp
  | .arr [] => simp [print, printItems, parseValue]
  | .arr (j :: js) =>
    simp only [size] at hn
    simp only [print, List.cons_append, parseValue, head_printItems,
      h.items j js r (by omega) hwf]
    simp
  | .obj [] => simp [print, printFields, parseValue]
  | .obj (f :: fs) =>
    simp only [size] at hn
    -- the fields of a well-formed object are in order, so that inserting them changes nothing
    have hhead : (printFields (f :: fs) ++ r).head? ≠ some '\x7d' := by
      cases fs <;> simp [printFields, printStr]
    simp only [print, List.cons_append, parseValue, hhead, h.fields f fs r (by omega) hwf.2,
      Option.map_some, object, ofFields_eq_self hwf.1]
    simp

lemma parseItems_print {n : ℕ} (h : ReadsBack n) (j : Json) (js : List Json) (r : List Char)
    (hn : sizeItems (j :: js) ≤ n + 1) (hwf : WfItems (j :: js)) :
    parseItems (n + 1) (printItems (j :: js) ++ r) = some (j :: js, r) := by
  simp only [sizeItems] at hn
  cases js with
  | nil =>
    have hj := h.value j (']' :: r) (by omega) hwf.1 (ends_cons (by decide) r)
    simp only [printItems, List.append_assoc, List.cons_append, List.nil_append, parseItems, hj]
  | cons j' js =>
    have hj := h.value j (',' :: (printItems (j' :: js) ++ r)) (by omega) hwf.1
      (ends_cons (by decide) _)
    have hjs := h.items j' js r (by omega) hwf.2
    simp only [printItems, List.append_assoc, List.cons_append, parseItems, hj, hjs,
      Option.map_some]

lemma parseFields_print {n : ℕ} (h : ReadsBack n) (f : String × Json)
    (fs : List (String × Json)) (r : List Char) (hn : sizeFields (f :: fs) ≤ n + 1)
    (hwf : WfFields (f :: fs)) :
    parseFields (n + 1) (printFields (f :: fs) ++ r) = some (f :: fs, r) := by
  simp only [sizeFields] at hn
  cases fs with
  | nil =>
    have hj := h.value f.2 ('\x7d' :: r) (by omega) hwf.1 (ends_cons (by decide) r)
    simp only [printFields, printStr, List.append_assoc, List.cons_append, List.nil_append,
      parseFields, if_true, parseChars_print, hj, String.ofList_toList]
  | cons f' fs =>
    have hj := h.value f.2 (',' :: (printFields (f' :: fs) ++ r)) (by omega) hwf.1
      (ends_cons (by decide) _)
    have hfs := h.fields f' fs r (by omega) hwf.2
    simp only [printFields, printStr, List.append_assoc, List.cons_append, List.nil_append,
      parseFields, if_true, parseChars_print, hj, hfs, Option.map_some, String.ofList_toList]

/-- **Enough fuel reads every value back**, whatever follows its text. -/
theorem readsBack (n : ℕ) : ReadsBack n := by
  induction n with
  | zero =>
    -- nothing can be read without fuel, and everything needs some
    refine ⟨fun j r hn => ?_, fun j js r hn => ?_, fun f fs r hn => ?_⟩
    · have := size_pos j
      omega
    · simp only [sizeItems] at hn
      omega
    · simp only [sizeFields] at hn
      omega
  | succ n ih => exact ⟨parseValue_print ih, parseItems_print ih, parseFields_print ih⟩

mutual

/-- A value needs no more fuel than its text has characters. -/
theorem size_le (j : Json) : size j ≤ (print j).length := by
  match j with
  | .num n =>
    obtain ⟨c, s, hs, -⟩ := exists_printInt n
    simp [size, print, hs]
  | .real m e =>
    obtain ⟨c, s, hs, -⟩ := exists_printInt m
    simp [size, print, hs]
  | .null => simp [size, print]
  | .bool true => simp [size, print]
  | .bool false => simp [size, print]
  | .str s => simp [size, print, printStr]
  | .arr items =>
    have := sizeItems_le items
    simp only [size, print, List.length_cons]
    omega
  | .obj fields =>
    have := sizeFields_le fields
    simp only [size, print, List.length_cons]
    omega

theorem sizeItems_le (items : List Json) : sizeItems items ≤ (printItems items).length := by
  match items with
  | [] => simp [sizeItems]
  | [j] =>
    have := size_le j
    simp only [sizeItems, printItems, List.length_append, List.length_singleton]
    omega
  | j :: j' :: js =>
    have := size_le j
    have := sizeItems_le (j' :: js)
    simp only [sizeItems, printItems, List.length_append, List.length_cons] at this ⊢
    omega

theorem sizeFields_le (fields : List (String × Json)) :
    sizeFields fields ≤ (printFields fields).length := by
  match fields with
  | [] => simp [sizeFields]
  | [f] =>
    have := size_le f.2
    simp only [sizeFields, printFields, List.length_append, List.length_cons, List.length_nil]
    omega
  | f :: f' :: fs =>
    have := size_le f.2
    have := sizeFields_le (f' :: fs)
    simp only [sizeFields, printFields, List.length_append, List.length_cons] at this ⊢
    omega

end

lemma parseText_print {j : Json} (hwf : j.Wf) : parseText (print j) = some j := by
  have h := (readsBack ((print j).length + 1)).value j [] (by have := size_le j; omega) hwf
    (by rintro c ⟨⟩)
  rw [List.append_nil] at h
  rw [parseText, h]

/-! ## The codec -/

/-- The text with the given bytes. -/
def decodeUtf8 (b : Bytes) : Option String := String.fromUTF8? ⟨b.toArray⟩

lemma decodeUtf8_utf8 (s : String) : decodeUtf8 (utf8 s) = some s := by
  have hvalid : s.toUTF8.IsValidUTF8 := s.isValidUTF8
  unfold decodeUtf8 utf8 String.fromUTF8?
  rw [Array.toArray_toList]
  exact dif_pos hvalid

/-- Compact text, as bytes. -/
def compact : Codec where
  parse b := (decodeUtf8 b).bind fun s => parseText s.toList
  dump j := utf8 (String.ofList (print j))
  parse_dump hwf := by
    rw [decodeUtf8_utf8, Option.bind_some, String.toList_ofList, parseText_print hwf]

end Json

/-
# Tables with a primary key

A table holds its rows in the order of their insertion and carries the proof that no two
rows have the same key.  A table with an integer key may draw the keys of its new rows from
a counter that only grows.  `ORDER BY` a column in descending order is a stable choice among
the rows with equal entries: how such ties are resolved is a total order on the keys.
-/
import Mathlib.Data.List.Nodup
import Mathlib.Data.List.Sort

namespace Relational

variable {Row κ τ : Type*}

/-- The rows of a table, no two of them with the same key. -/
structure Table (key : Row → κ) where
  rows : List Row
  nodup : (rows.map key).Nodup

namespace Table

variable {key : Row → κ}

lemma nodup_rows (t : Table key) : t.rows.Nodup := t.nodup.of_map

/-- A key belongs to one row. -/
lemma eq_of_key_eq (t : Table key) {r r' : Row} (h : r ∈ t.rows) (h' : r' ∈ t.rows)
    (hkey : key r = key r') : r = r' :=
  List.inj_on_of_nodup_map t.nodup h h' hkey

/-- `WHERE` on the key selects the first row that has it. -/
lemma filter_key [DecidableEq κ] (t : Table key) (k : κ) :
    (t.rows.filter fun r => key r = k) = (t.rows.find? fun r => key r = k).toList := by
  obtain ⟨rows, hnodup⟩ := t
  induction rows with
  | nil => rfl
  | cons r rows ih =>
    rw [List.map_cons, List.nodup_cons] at hnodup
    by_cases hkey : key r = k
    · have hrest : (rows.filter fun r => key r = k) = [] := by
        refine List.filter_eq_nil_iff.2 fun r' hr' h => hnodup.1 ?_
        exact List.mem_map.2 ⟨r', hr', (of_decide_eq_true h).trans hkey.symm⟩
      rw [List.filter_cons_of_pos (by simpa using hkey),
        List.find?_cons_of_pos (by simpa using hkey), hrest]
      rfl
    · rw [List.filter_cons_of_neg (by simpa using hkey),
        List.find?_cons_of_neg (by simpa using hkey)]
      exact ih hnodup.2

/-- The table without rows. -/
def empty : Table key := ⟨[], List.nodup_nil⟩

/-- `INSERT`, which fails when the key is taken. -/
def insert [DecidableEq κ] (t : Table key) (r : Row) : Option (Table key) :=
  if h : key r ∈ t.rows.map key then none
  else some ⟨t.rows ++ [r], by
    rw [List.map_append, List.nodup_append']
    refine ⟨t.nodup, List.nodup_singleton _, ?_⟩
    intro k hk hk'
    obtain rfl := List.mem_singleton.1 hk'
    exact h hk⟩

/-- `DELETE` of the rows that satisfy a condition. -/
def delete (t : Table key) (p : Row → Bool) : Table key :=
  ⟨t.rows.filter fun r => !p r, t.nodup.sublist (List.filter_sublist.map key)⟩

/-- `UPDATE` of columns outside the key. -/
def update (t : Table key) (f : Row → Row) (hf : ∀ r, key (f r) = key r) : Table key :=
  ⟨t.rows.map f, by simpa only [List.map_map, Function.comp_def, hf] using t.nodup⟩

/-- `INSERT`, which leaves the table as it is when the key is taken. -/
def emplace [DecidableEq κ] (t : Table key) (r : Row) : Table key := (t.insert r).getD t

/-- The row takes the place of the one with its key, or it is inserted. -/
def put [DecidableEq κ] (t : Table key) (r : Row) : Table key :=
  (t.update (fun r' => if key r' = key r then r else r')
    (by intro r'; split_ifs with h; exacts [h.symm, rfl])).emplace r

/-- The rows in another order. -/
def reorder (t : Table key) (rows : List Row) (h : rows.Perm t.rows) : Table key :=
  ⟨rows, (h.map key).nodup_iff.2 t.nodup⟩

section Mem

variable [DecidableEq κ] {t : Table key} {r x : Row}

lemma mem_emplace :
    x ∈ (t.emplace r).rows ↔ x ∈ t.rows ∨ x = r ∧ ∀ y ∈ t.rows, key y ≠ key r := by
  rw [emplace, insert]
  split_ifs with h
  · obtain ⟨y, hy, hkey⟩ := List.mem_map.1 h
    exact ⟨.inl, fun hx => hx.elim id fun hx => absurd hkey (hx.2 y hy)⟩
  · have hne : ∀ y ∈ t.rows, key y ≠ key r := fun y hy hkey => h (List.mem_map.2 ⟨y, hy, hkey⟩)
    show x ∈ t.rows ++ [r] ↔ _
    rw [List.mem_append, List.mem_singleton]
    exact or_congr_right (iff_self_and.2 fun _ => hne)

lemma mem_put : x ∈ (t.put r).rows ↔ x = r ∨ x ∈ t.rows ∧ key x ≠ key r := by
  rw [put, mem_emplace]
  simp only [update, List.mem_map]
  constructor
  · rintro (⟨y, hy, rfl⟩ | ⟨rfl, -⟩)
    · split_ifs with hkey
      · exact .inl rfl
      · exact .inr ⟨hy, hkey⟩
    · exact .inl rfl
  · rintro (rfl | ⟨hx, hkey⟩)
    · by_cases h : ∃ y ∈ t.rows, key y = key x
      · obtain ⟨y, hy, hkey⟩ := h
        exact .inl ⟨y, hy, if_pos hkey⟩
      · refine .inr ⟨rfl, ?_⟩
        rintro _ ⟨y, hy, rfl⟩
        have hkey : key y ≠ key x := fun hkey => h ⟨y, hy, hkey⟩
        rwa [if_neg hkey]
    · exact .inl ⟨x, hx, if_neg hkey⟩

end Mem

end Table

/-- A table whose keys are drawn from a counter. -/
structure AutoTable (key : Row → ℤ) extends Table key where
  /-- The last key that was drawn. -/
  last : ℤ
  last_nonneg : 0 ≤ last
  key_pos : ∀ r ∈ rows, 0 < key r
  key_le : ∀ r ∈ rows, key r ≤ last

namespace AutoTable

variable {key : Row → ℤ}

/-- The table without rows. -/
def empty : AutoTable key :=
  { Table.empty with
    last := 0
    last_nonneg := le_refl 0
    key_pos := fun _ h => absurd h List.not_mem_nil
    key_le := fun _ h => absurd h List.not_mem_nil }

/-- `INSERT` of a row under the next key of the counter, which may have skipped `gap` keys;
it fails when there is no such key up to `max`. -/
def insert (t : AutoTable key) (max : ℤ) (gap : ℕ) (row : ℤ → Row)
    (hrow : ∀ i, key (row i) = i) : Option (ℤ × AutoTable key) :=
  let i := t.last + gap + 1
  if max < i then none
  else some (i,
    { rows := t.rows ++ [row i]
      nodup := by
        rw [List.map_append, List.nodup_append']
        refine ⟨t.nodup, List.nodup_singleton _, ?_⟩
        intro k hk hk'
        obtain ⟨r, hr, rfl⟩ := List.mem_map.1 hk
        have hle := t.key_le r hr
        have heq : key r = i := (List.mem_singleton.1 hk').trans (hrow i)
        omega
      last := i
      last_nonneg := by have := t.last_nonneg; omega
      key_pos := by
        intro r hr
        have := t.last_nonneg
        rcases List.mem_append.1 hr with hr | hr
        · exact t.key_pos r hr
        · rw [List.mem_singleton.1 hr, hrow]
          omega
      key_le := by
        intro r hr
        rcases List.mem_append.1 hr with hr | hr
        · have := t.key_le r hr
          omega
        · rw [List.mem_singleton.1 hr, hrow] })

/-- What a successful `INSERT` does. -/
lemma insert_spec {t t' : AutoTable key} {max : ℤ} {gap : ℕ} {row : ℤ → Row}
    {hrow : ∀ i, key (row i) = i} {i : ℤ} (h : t.insert max gap row hrow = some (i, t')) :
    t.last < i ∧ i ≤ max ∧ t'.last = i ∧ t'.rows = t.rows ++ [row i] := by
  simp only [insert] at h
  split_ifs at h with hmax
  obtain ⟨rfl, rfl⟩ := Prod.mk.inj (Option.some.inj h)
  exact ⟨by omega, by omega, rfl, rfl⟩

/-- An `INSERT` succeeds while the counter has a key. -/
lemma exists_insert {t : AutoTable key} {max : ℤ} {gap : ℕ} {row : ℤ → Row}
    {hrow : ∀ i, key (row i) = i} (h : t.last + gap + 1 ≤ max) :
    ∃ i t', t.insert max gap row hrow = some (i, t') :=
  ⟨_, _, if_neg (not_lt.2 h)⟩

/-- `UPDATE` of columns outside the key. -/
def update (t : AutoTable key) (f : Row → Row) (hf : ∀ r, key (f r) = key r) : AutoTable key :=
  { t.toTable.update f hf with
    last := t.last
    last_nonneg := t.last_nonneg
    key_pos := by
      intro r hr
      obtain ⟨r', hr', rfl⟩ := List.mem_map.1 hr
      exact hf r' ▸ t.key_pos r' hr'
    key_le := by
      intro r hr
      obtain ⟨r', hr', rfl⟩ := List.mem_map.1 hr
      exact hf r' ▸ t.key_le r' hr' }

/-- An `UPDATE` leaves the table as it is exactly when it leaves every row as it is. -/
lemma update_eq_self_iff {t : AutoTable key} {f : Row → Row} {hf : ∀ r, key (f r) = key r} :
    t.update f hf = t ↔ ∀ r ∈ t.rows, f r = r := by
  have hrows : t.rows.map f = t.rows ↔ ∀ r ∈ t.rows, f r = r := by
    simpa using List.map_inj_left (f := f) (g := id) (l := t.rows)
  rw [← hrows]
  constructor
  · intro h
    exact congrArg (fun t : AutoTable key => t.rows) h
  · intro h
    obtain ⟨⟨rows, hnodup⟩, last, hlast, hpos, hle⟩ := t
    simp only [update, Table.update]
    congr 2

/-- A row is in the table after an `UPDATE` exactly when the `UPDATE` leaves it as it is. -/
lemma mem_update_iff {t : AutoTable key} {f : Row → Row} {hf : ∀ r, key (f r) = key r} {r : Row}
    (hr : r ∈ t.rows) : r ∈ (t.update f hf).rows ↔ f r = r := by
  constructor
  · intro h
    obtain ⟨r', hr', heq⟩ := List.mem_map.1 h
    -- the row that became `r` has its key, so it is `r`
    obtain rfl : r' = r := t.eq_of_key_eq hr' hr ((hf r').symm.trans (congrArg key heq))
    exact heq
  · intro h
    exact List.mem_map.2 ⟨r, hr, h⟩

end AutoTable

/-! ## Ordered results -/

/-- How rows with equal entries in the sorted column are ordered: a total order on keys. -/
structure TieBreak (κ : Type*) where
  before : κ → κ → Prop
  decidable : DecidableRel before
  total : ∀ i j, before i j ∨ before j i
  trans : ∀ {i j k}, before i j → before j k → before i k
  antisymm : ∀ {i j}, before i j → before j i → i = j

/-- The order in which the rows were inserted, when the keys come from a counter. -/
def TieBreak.ascending : TieBreak ℤ where
  before i j := i ≤ j
  decidable := fun i j => inferInstanceAs (Decidable (i ≤ j))
  total := le_total
  trans := le_trans
  antisymm := le_antisymm

section Order

variable [LinearOrder τ] (tie : TieBreak κ) (key : Row → κ) (column : Row → τ)

/-- The order of `ORDER BY column DESC`. -/
def Precedes (a b : Row) : Prop :=
  column b < column a ∨ column a = column b ∧ tie.before (key a) (key b)

instance : DecidableRel (Precedes tie key column) := fun a b =>
  haveI := tie.decidable (key a) (key b)
  inferInstanceAs (Decidable (_ ∨ _ ∧ _))

instance : Std.Total (Precedes tie key column) where
  total a b := by
    rcases lt_trichotomy (column a) (column b) with h | h | h
    · exact .inr (.inl h)
    · exact (tie.total (key a) (key b)).imp (fun ht => .inr ⟨h, ht⟩) (fun ht => .inr ⟨h.symm, ht⟩)
    · exact .inl (.inl h)

instance : IsTrans Row (Precedes tie key column) where
  trans a b c := by
    rintro (hab | ⟨hab, htab⟩) (hbc | ⟨hbc, htbc⟩)
    · exact .inl (hbc.trans hab)
    · exact .inl (hbc ▸ hab)
    · exact .inl (hab ▸ hbc)
    · exact .inr ⟨hab.trans hbc, tie.trans htab htbc⟩

lemma key_eq_of_precedes {a b : Row} (hab : Precedes tie key column a b)
    (hba : Precedes tie key column b a) : key a = key b := by
  rcases hab with hab | ⟨hab, htab⟩ <;> rcases hba with hba | ⟨hba, htba⟩
  · exact absurd hba hab.not_gt
  · exact absurd hab hba.symm.not_gt
  · exact absurd hba hab.symm.not_gt
  · exact tie.antisymm htab htba

variable {tie key column} in
lemma le_of_precedes {a b : Row} (h : Precedes tie key column a b) : column b ≤ column a := by
  rcases h with hlt | ⟨heq, -⟩
  · exact hlt.le
  · exact heq.ge

/-- `ORDER BY column DESC`. -/
def orderDesc (rows : List Row) : List Row :=
  rows.insertionSort (Precedes tie key column)

lemma mem_orderDesc {rows : List Row} {r : Row} :
    r ∈ orderDesc tie key column rows ↔ r ∈ rows :=
  List.mem_insertionSort _

variable {tie key column}

/-- The ordered result does not depend on the order in which the rows are found. -/
theorem orderDesc_congr {rows rows' : List Row} (hperm : rows.Perm rows')
    (hinj : ∀ a ∈ rows, ∀ b ∈ rows, key a = key b → a = b) :
    orderDesc tie key column rows = orderDesc tie key column rows' := by
  refine List.Perm.eq_of_pairwise ?_ (List.pairwise_insertionSort (Precedes tie key column) rows)
    (List.pairwise_insertionSort (Precedes tie key column) rows') ?_
  · intro a b ha hb hab hba
    have hb' := hperm.mem_iff.2 ((mem_orderDesc tie key column).1 hb)
    exact hinj a ((mem_orderDesc tie key column).1 ha) b hb'
      (key_eq_of_precedes tie key column hab hba)
  · exact ((List.perm_insertionSort _ _).trans hperm).trans (List.perm_insertionSort _ _).symm

/-- Ordered selections from two tables are the same exactly when they select the same rows. -/
theorem orderDesc_filter_eq_iff {t t' : Table key} {p p' : Row → Bool} :
    orderDesc tie key column (t.rows.filter p) = orderDesc tie key column (t'.rows.filter p') ↔
      ∀ r, (r ∈ t.rows ∧ p r) ↔ (r ∈ t'.rows ∧ p' r) := by
  constructor
  · intro h r
    rw [← List.mem_filter, ← List.mem_filter, ← mem_orderDesc tie key column, h,
      mem_orderDesc tie key column]
  · intro h
    refine orderDesc_congr ?_ fun a ha b hb => t.eq_of_key_eq (List.mem_of_mem_filter ha)
      (List.mem_of_mem_filter hb)
    refine (List.perm_ext_iff_of_nodup (t.nodup_rows.filter _) (t'.nodup_rows.filter _)).2 ?_
    intro r
    rw [List.mem_filter, List.mem_filter]
    exact h r

end Order

/-- `LIMIT count OFFSET offset`; a negative number is an error, and there is no result. -/
def limit (count offset : ℤ) (rows : List τ) : List τ :=
  if count < 0 ∨ offset < 0 then [] else (rows.drop offset.toNat).take count.toNat

lemma limit_natCast (count offset : ℕ) (rows : List τ) :
    limit count offset rows = (rows.drop offset).take count := by
  have hnot : ¬((count : ℤ) < 0 ∨ (offset : ℤ) < 0) := by omega
  rw [limit, if_neg hnot, Int.toNat_natCast, Int.toNat_natCast]

/-- The pages of a result, one after the other, are a beginning of the result. -/
lemma flatMap_limit (count n : ℕ) (rows : List τ) :
    ((List.range n).flatMap fun k : ℕ => limit count (k * count : ℕ) rows) =
      rows.take (n * count) := by
  induction n with
  | zero => simp
  | succ n ih =>
    rw [List.range_succ, List.flatMap_append, ih, List.flatMap_singleton, limit_natCast,
      Nat.succ_mul, List.take_add]

/-- Two results are the same when all their beginnings are. -/
lemma eq_of_limit_eq {rows rows' : List τ}
    (h : ∀ count : ℤ, limit count 0 rows = limit count 0 rows') : rows = rows' := by
  have hall : ∀ (l : List τ) (n : ℕ), l.length ≤ n → limit n 0 l = l := by
    intro l n hn
    simp [limit, List.take_of_length_le hn]
  have hmax := h (max rows.length rows'.length : ℕ)
  rwa [hall rows _ (le_max_left _ _), hall rows' _ (le_max_right _ _)] at hmax

end Relational

import CaptureLink.Proofs.Toml.Lines

/-
  Tables under headers, read back.  A header closes the table
  in front of it and opens its own, so what is kept from table
  to table is what closing the draft would give.

  Main statements:
    * `Toml.Table`
    * `Toml.foldlM_fields`
    * `Toml.foldlM_tables`
    * `Toml.ofChars?_tables`
    * `Toml.joined_table`
-/

namespace CaptureLink

namespace Toml

------------------------------------------------------------
-- Tables
------------------------------------------------------------

/- A table under a header. -/
structure Table where
  name : String
  bare : Bare name
  fields : List Field
  distinct : (fields.map Field.key).Nodup

namespace Table

/- Its lines, and an empty one behind them. -/
def lines (t : Table) : List Line :=
  .header t.name t.bare :: (t.fields.map .field ++ [.blank])

/- There is at least its header. -/
theorem lines_ne_nil (t : Table) : t.lines ≠ [] :=
  List.cons_ne_nil _ _

/- What a document says about its name. -/
def entry (t : Table) : String × Value :=
  (t.name, .table .header (t.fields.map Field.entry))

end Table

namespace Entries

variable {es : Entries}
variable {key : String}

/- Entries are searched from the first on. -/
theorem find?_cons
    (e : String × Value)
    (es : Entries)
    (key : String) :
    find? (e :: es) key =
      if e.1 = key then some e.2 else find? es key := by
  by_cases hKey : e.1 = key
  · rw [find?, List.find?_cons_of_pos (by simpa using hKey),
      if_pos hKey]
    rfl
  · rw [find?, List.find?_cons_of_neg (by simpa using hKey),
      if_neg hKey]
    rfl

/- A key that is not among theirs is not found. -/
theorem find?_eq_none
    (hFresh : key ∉ es.map (·.1)) :
    es.find? key = none := by
  induction es with
  | nil => rfl
  | cons e es ih =>
      rw [List.map_cons, List.mem_cons, not_or] at hFresh
      rw [find?_cons, if_neg (Ne.symm hFresh.1), ih hFresh.2]

/- Where no key stands twice, each is found with its value. -/
theorem find?_map
    {α : Type}
    {name : α → String}
    {value : α → Value}
    {xs : List α}
    {x : α}
    (hDistinct : (xs.map name).Nodup)
    (hMem : x ∈ xs) :
    find? (xs.map fun x => (name x, value x)) (name x) =
      some (value x) := by
  induction xs with
  | nil => cases hMem
  | cons x' xs ih =>
      rw [List.map_cons, List.nodup_cons] at hDistinct
      rw [List.map_cons, find?_cons]
      rcases List.mem_cons.mp hMem with rfl | hMore
      · rw [if_pos rfl]
      · have hOther : name x' ≠ name x := by
          intro hName
          apply hDistinct.1
          rw [hName]
          exact List.mem_map_of_mem hMore
        rw [if_neg hOther, ih hDistinct.2 hMore]

end Entries

/- Among distinct keys none stands in front of itself. -/
theorem notMem_of_nodup
    {key : String}
    {keys more : List String}
    (hDistinct : (keys ++ key :: more).Nodup) : key ∉ keys := by
  intro hMem
  apply (List.nodup_cons.mp (List.nodup_middle.mp hDistinct)).1
  exact List.mem_append_left more hMem

section Drafts

variable {d : Draft}

/- A new key is entered behind the others. -/
theorem assign?_of_fresh
    {key : String}
    (value : Value)
    (hFresh : key ∉ d.entries.map (·.1)) :
    d.assign? ⟨[], key, value⟩ =
      some { d with entries := d.entries ++ [(key, value)] } := by
  have hAdd :
      d.entries.add? key value =
        some (d.entries ++ [(key, value)]) := by
    rw [Entries.add?, Entries.find?_eq_none hFresh]
  simp only [Draft.assign?, within?, reduceCtorEq, hAdd, iff_true,
    if_false, Option.map_some, Option.bind_eq_bind,
    Option.bind_some]

/- Fields with distinct keys are entered in order. -/
theorem foldlM_fields
    {fs : List Field}
    (hDistinct :
      (d.entries.map (·.1) ++ fs.map Field.key).Nodup) :
    (fs.map Line.field).foldlM Line.step? d =
      some { d with entries := d.entries ++ fs.map Field.entry } := by
  induction fs generalizing d with
  | nil =>
      simp only [List.map_nil, List.append_nil]
      rfl
  | cons f fs ih =>
      have hFresh : f.key ∉ d.entries.map (·.1) :=
        notMem_of_nodup hDistinct
      rw [List.map_cons, List.foldlM_cons, Line.step?,
        assign?_of_fresh _ hFresh]
      rw [Option.bind_eq_bind, Option.bind_some, ih]
      · simp only [Field.entry, List.map_cons, List.append_assoc,
          List.cons_append, List.nil_append]
      · simpa using hDistinct

/- A table is added to those that are closed. -/
theorem foldlM_table
    {closed : Entries}
    (t : Table)
    (hClosed : d.close? = some closed)
    (hFresh : t.name ∉ closed.map (·.1)) :
    ∃ d',
      t.lines.foldlM Line.step? d = some d' ∧
        d'.close? = some (closed ++ [t.entry]) := by
  have hNone := Entries.find?_eq_none hFresh
  have hOpen :
      d.openTable? [] t.name =
        some ⟨closed, .table [] t.name, []⟩ := by
    simp only [Draft.openTable?, hClosed, within?, hNone,
      Option.bind_eq_bind, Option.bind_some]
  have hFields :=
    foldlM_fields (d := ⟨closed, .table [] t.name, []⟩)
      t.distinct
  refine ⟨⟨closed, .table [] t.name, t.fields.map Field.entry⟩,
    ?_, ?_⟩
  · rw [Table.lines, List.foldlM_cons, Line.step?, hOpen]
    rw [Option.bind_eq_bind, Option.bind_some,
      List.foldlM_append, hFields]
    rfl
  · simp only [Draft.close?, within?, Entries.add?, hNone,
      Option.bind_eq_bind, Option.map_some, Option.bind_some,
      Table.entry]

/- So are tables with distinct names, in order. -/
theorem foldlM_tables
    {closed : Entries}
    {ts : List Table}
    (hClosed : d.close? = some closed)
    (hDistinct :
      (closed.map (·.1) ++ ts.map Table.name).Nodup) :
    ∃ d',
      (ts.flatMap Table.lines).foldlM Line.step? d = some d' ∧
        d'.close? = some (closed ++ ts.map Table.entry) := by
  -- Each table adds to those that closing would give so far.
  induction ts generalizing d closed with
  | nil => exact ⟨d, rfl, by simpa using hClosed⟩
  | cons t ts ih =>
      have hFresh : t.name ∉ closed.map (·.1) :=
        notMem_of_nodup hDistinct
      rcases foldlM_table t hClosed hFresh with
        ⟨d₁, hTable, hClosed⟩
      rcases ih hClosed (by simpa [Table.entry] using hDistinct) with
        ⟨d', hTables, hClosed⟩
      refine ⟨d', ?_, ?_⟩
      · rw [List.flatMap_cons, List.foldlM_append, hTable]
        exact hTables
      · rw [hClosed, List.append_assoc]
        rfl

end Drafts

/- An empty line at the end does nothing. -/
theorem foldlM_blank
    (d : Draft)
    (ls : List Line) :
    (ls ++ [Line.blank]).foldlM Line.step? d =
      ls.foldlM Line.step? d := by
  rw [List.foldlM_append]
  cases ls.foldlM Line.step? d with
  | none => rfl
  | some d' => rfl

/-
  A document of tables with distinct names is read as these
  tables, with or without the last line break.
-/
theorem ofChars?_tables
    {ls : List Line}
    (ts : List Table)
    (hDistinct : (ts.map Table.name).Nodup)
    (hLines :
      ls = ts.flatMap Table.lines ∨
        ls ++ [Line.blank] = ts.flatMap Table.lines) :
    ofChars? (Line.joined ls) = some (ts.map Table.entry) := by
  have hEmpty : Draft.empty.close? = some [] := rfl
  rcases foldlM_tables hEmpty hDistinct with ⟨d, hSteps, hClosed⟩
  have hFolded : ls.foldlM Line.step? .empty = some d := by
    rcases hLines with rfl | hBlank
    · exact hSteps
    · rw [← foldlM_blank, hBlank]
      exact hSteps
  rw [ofChars?_joined hFolded]
  exact hClosed

------------------------------------------------------------
-- How tables are written
------------------------------------------------------------

/- The line of a field. -/
def Field.line (f : Field) : List Char :=
  Toml.line f.key f.text

/- Fields have their breaks behind them in a table. -/
theorem broken_fields (fs : List Field) :
    Line.broken (fs.map .field) ++ ['\n'] =
      '\n' :: (fs.map Field.line).flatten := by
  induction fs with
  | nil => rfl
  | cons f fs ih =>
      simp only [List.map_cons, Line.broken_cons, Line.text,
        List.cons_append, List.append_assoc, ih,
        List.flatten_cons, Field.line, line, List.nil_append]

/- The lines of a table are written one after another. -/
theorem joined_table (t : Table) :
    Line.joined t.lines =
      tableText t.name (t.fields.map Field.line) := by
  have hFields := broken_fields t.fields
  rw [Table.lines, Line.joined_cons, Line.broken_append]
  have hBlank : Line.broken [.blank] = ['\n'] := rfl
  rw [hBlank, hFields, tableText, Line.text]
  simp only [List.cons_append, List.append_assoc,
    List.nil_append]

/- Further lines follow behind a break. -/
theorem joined_append
    {ls : List Line}
    (ls' : List Line)
    (hSome : ls ≠ []) :
    Line.joined (ls ++ ls') = Line.joined ls ++ Line.broken ls' := by
  rcases List.exists_cons_of_ne_nil hSome with ⟨l, more, rfl⟩
  rw [List.cons_append, Line.joined_cons, Line.joined_cons,
    Line.broken_append, List.append_assoc]

/- A table as further lines has a break in front. -/
theorem broken_table (t : Table) :
    Line.broken t.lines = '\n' :: Line.joined t.lines := rfl

end Toml

end CaptureLink

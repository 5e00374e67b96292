import WasmerSectest.Lib.Quoted
import WasmerSectest.Lib.Text

namespace Markdown
set_option autoImplicit true

open Quoted (QuoteInside splitUnescaped)

/-- Every line ending as a line feed; a carriage return is one, with or without a line feed. -/
def normalizeBreaks : List Char → List Char
  | [] => []
  | '\r' :: '\n' :: text => '\n' :: normalizeBreaks text
  | '\r' :: text => '\n' :: normalizeBreaks text
  | c :: text => c :: normalizeBreaks text

def lines (text : List Char) : List (List Char) := Text.lines (normalizeBreaks text)

/-- A text on one line. -/
structure OneLine (text : List Char) : Prop where
  no_feed : '\n' ∉ text
  no_return : '\r' ∉ text

theorem normalizeBreaks_cons (hc : c ≠ '\r') (text : List Char) :
    normalizeBreaks (c :: text) = c :: normalizeBreaks text := by
  rw [normalizeBreaks]
  · intro _ hreturn
    exact absurd hreturn hc
  · exact hc

theorem not_mem_cons {c d : Char} {text : List Char} (hne : c ≠ d) (h : c ∉ text) :
    c ∉ d :: text := by
  rw [List.mem_cons, not_or]
  exact ⟨hne, h⟩

theorem return_not_mem_normalizeBreaks (text : List Char) : '\r' ∉ normalizeBreaks text := by
  have hfeed : '\r' ≠ '\n' := by decide
  induction text using normalizeBreaks.induct with
  | case1 => exact List.not_mem_nil
  | case2 text ih => exact not_mem_cons hfeed ih
  | case3 text h ih =>
    rw [normalizeBreaks]
    · exact not_mem_cons hfeed ih
    · exact h
  | case4 c text _ hc ih =>
    have hc' : c ≠ '\r' := hc
    rw [normalizeBreaks_cons hc']
    exact not_mem_cons hc'.symm ih

theorem normalizeBreaks_append (h : '\r' ∉ before) (after : List Char) :
    normalizeBreaks (before ++ after) = before ++ normalizeBreaks after := by
  induction before with
  | nil => rfl
  | cons c before ih =>
    rw [List.mem_cons, not_or] at h
    rw [List.cons_append, normalizeBreaks_cons (Ne.symm h.1), ih h.2]
    rfl

theorem mem_lines (h : line ∈ lines text) : OneLine line := by
  obtain ⟨hbreak, hsub⟩ := Text.mem_lines h
  exact ⟨hbreak, fun hreturn => return_not_mem_normalizeBreaks text (hsub hreturn)⟩

theorem lines_unlines {before : List String} (h : ∀ line ∈ before, OneLine line.toList)
    (after : List Char) :
    lines ((Text.unlines before).toList ++ after) = before.map String.toList ++ lines after := by
  have hlines : ∀ line ∈ before.map String.toList, '\n' ∉ line ∧ '\r' ∉ line := by
    intro line hline
    obtain ⟨line', hline', rfl⟩ := List.mem_map.1 hline
    exact ⟨(h line' hline').no_feed, (h line' hline').no_return⟩
  have hreturn : '\r' ∉ (Text.unlines before).toList := by
    rw [Text.toList_unlines]
    intro hmem
    obtain ⟨line, hline, hmem⟩ := List.mem_flatMap.1 hmem
    rcases List.mem_append.1 hmem with hmem | hmem
    · exact (hlines line hline).2 hmem
    · exact absurd (List.mem_singleton.1 hmem) (by decide)
  rw [lines, normalizeBreaks_append hreturn, Text.toList_unlines]
  exact Text.lines_append_lines (.inl rfl) hlines (normalizeBreaks after)

/-- The text of a cell: on one line, and with every delimiter escaped. -/
structure CellText (text : List Char) : Prop extends OneLine text where
  no_delimiter : ¬QuoteInside '\\' '|' text

def dropEmpty : List (List Char) → List (List Char)
  | [] :: pieces => pieces
  | pieces => pieces

/-- A row is cut at its delimiters; one at an end of the row bounds no cell. -/
def rowCells (row : List Char) : List (List Char) :=
  (dropEmpty (dropEmpty (splitUnescaped '\\' '|' row)).reverse).reverse

def padded (text : List Char) : List Char := ' ' :: (text ++ [' '])

def writeRow (cells : List (List Char)) : List Char :=
  '|' :: cells.flatMap fun cell => padded cell ++ ['|']

theorem mem_dropEmpty {pieces : List (List Char)} (h : piece ∈ dropEmpty pieces) :
    piece ∈ pieces := by
  rw [dropEmpty.eq_def] at h
  split at h
  · exact List.mem_cons_of_mem _ h
  · exact h

theorem mem_rowCells (h : cell ∈ rowCells row) (hrow : OneLine row) : CellText cell := by
  have hpiece := mem_dropEmpty (List.mem_reverse.1 (mem_dropEmpty (List.mem_reverse.1 h)))
  obtain ⟨hdelimiter, hsub⟩ := Quoted.mem_splitUnescaped (by decide) hpiece
  exact ⟨⟨fun h => hrow.no_feed (hsub h), fun h => hrow.no_return (hsub h)⟩, hdelimiter⟩

theorem splitUnescaped_cells {cells : List (List Char)}
    (h : ∀ cell ∈ cells, ¬QuoteInside '\\' '|' cell) :
    splitUnescaped '\\' '|' (cells.flatMap fun cell => padded cell ++ ['|']) =
      cells.map padded ++ [[]] := by
  induction cells with
  | nil => rw [List.flatMap_nil, splitUnescaped]; rfl
  | cons cell cells ih =>
    rw [List.forall_mem_cons] at h
    have hcell : ¬QuoteInside '\\' '|' (' ' :: cell) :=
      mt (Quoted.quoteInside_cons_iff (by decide) (by decide)).1 h.1
    have hspace : ' ' ≠ '\\' ∧ ' ' ≠ '|' := by decide
    have hrow := Quoted.splitUnescaped_append (by decide) hspace.1 hspace.2 hcell
      (cells.flatMap fun cell => padded cell ++ ['|'])
    have hcells : (cell :: cells).flatMap (fun cell => padded cell ++ ['|']) =
        (' ' :: cell) ++ ' ' :: '|' :: cells.flatMap fun cell => padded cell ++ ['|'] := by
      simp [padded]
    rw [hcells, hrow, ih h.2]
    rfl

theorem rowCells_writeRow {cells : List (List Char)}
    (h : ∀ cell ∈ cells, ¬QuoteInside '\\' '|' cell) :
    rowCells (writeRow cells) = cells.map padded := by
  rw [rowCells, writeRow, Quoted.splitUnescaped_quote (by decide), splitUnescaped_cells h]
  change (dropEmpty (cells.map padded ++ [[]]).reverse).reverse = _
  rw [List.reverse_append]
  exact List.reverse_reverse _

/-- The characters that may stand around a text without a part in its lines and delimiters. -/
def inert (c : Char) : Bool := c ∉ ['\n', '\r', '\\', '|']

theorem ne_of_inert (hc : inert c = true) (hd : inert d = false) : d ≠ c := by
  intro heq
  rw [heq, hc] at hd
  cases hd

theorem cellText_wrapped_iff (hc : inert c = true) (hd : inert d = true) :
    CellText (c :: (text ++ [d])) ↔ CellText text := by
  have hdelimiter : QuoteInside '\\' '|' (c :: (text ++ [d])) ↔ QuoteInside '\\' '|' text := by
    rw [Quoted.quoteInside_cons_iff (ne_of_inert hc rfl).symm (ne_of_inert hc rfl).symm]
    exact ⟨.of_concat (ne_of_inert hd rfl).symm, fun hin => hin.append [d]⟩
  have hmem {e : Char} (he : inert e = false) : e ∈ c :: (text ++ [d]) ↔ e ∈ text := by
    simp only [List.mem_cons, List.mem_append, List.not_mem_nil, or_false, ne_of_inert hc he,
      ne_of_inert hd he, false_or]
  constructor
  · intro h
    exact ⟨⟨mt (hmem rfl).2 h.no_feed, mt (hmem rfl).2 h.no_return⟩,
      mt hdelimiter.2 h.no_delimiter⟩
  · intro h
    exact ⟨⟨mt (hmem rfl).1 h.no_feed, mt (hmem rfl).1 h.no_return⟩,
      mt hdelimiter.1 h.no_delimiter⟩

theorem oneLine_writeRow {cells : List (List Char)} (h : ∀ cell ∈ cells, CellText cell) :
    OneLine (writeRow cells) := by
  have hmem {e : Char} (hbreak : e ≠ '|' ∧ e ≠ ' ') (h : ∀ cell ∈ cells, e ∉ cell) :
      e ∉ writeRow cells := by
    intro hrow
    rcases List.mem_cons.1 hrow with hrow | hrow
    · exact hbreak.1 hrow
    · obtain ⟨cell, hcell, hrow⟩ := List.mem_flatMap.1 hrow
      simp only [padded, List.mem_append, List.mem_cons, List.not_mem_nil, or_false, hbreak.1,
        hbreak.2, false_or] at hrow
      exact h cell hcell hrow
  exact ⟨hmem (by decide) fun cell hcell => (h cell hcell).no_feed,
    hmem (by decide) fun cell hcell => (h cell hcell).no_return⟩

structure Table where
  header : List (List Char)
  rows : List (List (List Char))

def isBlank (line : List Char) : Bool := line.all fun c => c = ' ' || c = '\t'

def isDelimiterCell (cell : List Char) : Bool :=
  cell.contains '-' && cell.all fun c => c = '-' || c = ':' || c = ' '

/-- The cells of a header and of the line below it make a table. -/
def heads (header delimiter : List Char) : Bool :=
  (rowCells delimiter).length = (rowCells header).length &&
    (rowCells delimiter).all isDelimiterCell

/-- The table below the first line that is the given heading; it ends at a blank line. -/
def tableUnder (heading text : List Char) : Option Table :=
  match (((lines text).dropWhile (· ≠ heading)).drop 1).dropWhile isBlank with
  | header :: delimiter :: rest =>
    if heads header delimiter then
      some ⟨rowCells header, (rest.takeWhile fun line => !isBlank line).map rowCells⟩
    else none
  | _ => none

theorem tableUnder_cell {table : Table} (h : tableUnder heading text = some table)
    {row : List (List Char)} (hrow : row ∈ table.rows) (hcell : cell ∈ row) : CellText cell := by
  have hdrop {line : List Char}
      (h : line ∈ (((lines text).dropWhile (· ≠ heading)).drop 1).dropWhile isBlank) :
      OneLine line :=
    mem_lines ((List.dropWhile_sublist _).mem
      (List.mem_of_mem_drop ((List.dropWhile_sublist _).mem h)))
  rw [tableUnder] at h
  split at h
  case h_1 header delimiter rest heq =>
    split at h
    · obtain rfl := Option.some.inj h
      obtain ⟨line, hline, rfl⟩ := List.mem_map.1 hrow
      have hmem : line ∈ rest := (List.takeWhile_sublist _).mem hline
      exact mem_rowCells hcell (hdrop (heq ▸ List.mem_cons_of_mem _ (List.mem_cons_of_mem _ hmem)))
    · cases h
  case h_2 => cases h

theorem tableUnder_of_lines {rows : List (List Char)}
    (hlines : lines text = before ++ heading :: [] :: header :: delimiter :: (rows ++ [] :: after))
    (hbefore : heading ∉ before) (hheader : isBlank header = false)
    (hheads : heads header delimiter = true) (hrows : ∀ row ∈ rows, isBlank row = false) :
    tableUnder heading text = some ⟨rowCells header, rows.map rowCells⟩ := by
  have hskip : ∀ line ∈ before, (line ≠ heading : Bool) = true := by
    intro line hline
    simp only [ne_eq, decide_eq_true_eq]
    intro heq
    exact hbefore (heq ▸ hline)
  have hdrop : (lines text).dropWhile (· ≠ heading) =
      heading :: [] :: header :: delimiter :: (rows ++ [] :: after) := by
    rw [hlines, List.dropWhile_append_of_pos hskip]
    exact List.dropWhile_cons_of_neg (by simp)
  have hblank : ([] :: header :: delimiter :: (rows ++ [] :: after)).dropWhile isBlank =
      header :: delimiter :: (rows ++ [] :: after) := by
    rw [List.dropWhile_cons_of_pos rfl, List.dropWhile_cons_of_neg (by simp [hheader])]
  have htake : (rows ++ [] :: after).takeWhile (fun line => !isBlank line) = rows := by
    rw [List.takeWhile_append_of_pos, List.takeWhile_cons_of_neg, List.append_nil]
    · decide
    · intro row hrow
      rw [hrows row hrow]
      rfl
  rw [tableUnder, hdrop, List.drop_one, List.tail_cons, hblank]
  simp only [hheads, if_true, htake]

end Markdown

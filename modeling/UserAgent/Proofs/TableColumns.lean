import Mathlib.Data.List.Forall2
import UserAgent.Output.Table
import UserAgent.Proofs.TextParts
import UserAgent.Text.Trim

/-!
# Columns of tables

The headers, the line below them and the rows of a table are written one by one, but with the same
widths. So all lines have one length and their separators stand at the same offsets, between which the
cells are found again (`Table.render_columns`).
-/

namespace UserAgent.Table

/-! ### Lines in columns -/

/-- A line has a length, and a separator at each of some offsets. -/
structure InColumns (width : Nat) (offsets : List Nat) (separator line : String) : Prop where
  length_eq : line.length = width
  separated : ∀ offset ∈ offsets, separator.toList <+: line.toList.drop offset

/-- The pieces of a line from a place on, between separators of three characters at some offsets. -/
def cut (line : List Char) : (start : Nat) → (offsets : List Nat) → List (List Char)
  | start, [] => [line.drop start]
  | start, offset :: offsets =>
    (line.drop start).take (offset - start) :: cut line (offset + 3) offsets

/-- The pieces of a line without the blanks on their right. -/
def cellsAt (offsets : List Nat) (line : String) : List String :=
  (cut line.toList 0 offsets).map fun piece => Text.dropEndWhile (· == ' ') (String.ofList piece)

/-- The cells that are found in a line are the given ones, but for blanks at their ends. -/
def Holds (offsets : List Nat) (line : String) (cells : List String) : Prop :=
  List.Forall₂ (fun found cell => cell.toList.getLast? ≠ some ' ' → found = cell)
    (cellsAt offsets line) cells

/-! ### Widths and offsets -/

/-- The offsets of the separators between columns, of which the first one begins at a place. -/
def separatorOffsets : (start : Nat) → (widths : List Nat) → List Nat
  | start, width :: next :: widths =>
    (start + width) :: separatorOffsets (start + width + 3) (next :: widths)
  | _, _ => []

/-- The length of a line with the separators between its columns. -/
def totalWidth : (widths : List Nat) → Nat
  | [] => 0
  | [width] => width
  | width :: next :: widths => width + 3 + totalWidth (next :: widths)

variable {widths : List Nat}

/-- There is a separator between two columns each. -/
lemma length_separatorOffsets (start : Nat) (h : widths ≠ []) :
    (separatorOffsets start widths).length + 1 = widths.length := by
  induction widths generalizing start with
  | nil => exact absurd rfl h
  | cons width widths ih =>
    cases widths with
    | nil => rfl
    | cons next widths =>
      have hrest := ih (start + width + 3) (List.cons_ne_nil _ _)
      rw [separatorOffsets, List.length_cons, hrest]
      rfl

lemma le_of_mem_separatorOffsets {start offset : Nat} (h : offset ∈ separatorOffsets start widths) :
    start ≤ offset := by
  induction widths generalizing start with
  | nil => cases h
  | cons width widths ih =>
    cases widths with
    | nil => cases h
    | cons next widths =>
      rcases List.mem_cons.mp h with rfl | h
      · omega
      · have := ih h
        omega

/-- Separators do not overlap. -/
lemma pairwise_separatorOffsets (start : Nat) (widths : List Nat) :
    (separatorOffsets start widths).Pairwise fun a b => a + 3 ≤ b := by
  induction widths generalizing start with
  | nil => exact .nil
  | cons width widths ih =>
    cases widths with
    | nil => exact .nil
    | cons next widths => exact .cons (fun offset h => le_of_mem_separatorOffsets h) (ih _)

/-! ### Joined columns -/

/-- Texts have the given lengths. -/
abbrev Fills (texts : List String) (widths : List Nat) : Prop :=
  List.Forall₂ (fun text width => text.length = width) texts widths

section Joined

variable {texts : List String} {separator : String} (hseparator : separator.length = 3)
include hseparator

/-- Cells that fill their widths fill the line. -/
lemma length_joinWith (h : Fills texts widths) :
    (Text.joinWith separator texts).length = totalWidth widths := by
  induction h with
  | nil => rfl
  | cons htext h ih =>
    cases h with
    | nil => simpa [Text.joinWith, totalWidth] using htext
    | cons hnext h =>
      rw [Text.joinWith, String.length_append, String.length_append, htext, hseparator, ih, totalWidth]

/-- Whatever stands before joined texts: the separators are at their offsets, and the pieces between
them are the texts. -/
lemma cut_joinWith (h : Fills texts widths) (hne : widths ≠ []) (before : List Char) :
    (∀ offset ∈ separatorOffsets before.length widths,
        separator.toList <+: (before ++ (Text.joinWith separator texts).toList).drop offset) ∧
      cut (before ++ (Text.joinWith separator texts).toList) before.length
        (separatorOffsets before.length widths) = texts.map String.toList := by
  induction h generalizing before with
  | nil => exact absurd rfl hne
  | @cons text width texts widths htext h ih =>
    cases h with
    | nil => simp [separatorOffsets, cut, Text.joinWith]
    | @cons next width' texts widths hnext h =>
      -- the first text and its separator are put before the others
      obtain ⟨hrest, hcut⟩ := ih (List.cons_ne_nil _ _) (before ++ text.toList ++ separator.toList)
      have hlength : (before ++ text.toList ++ separator.toList).length = before.length + width + 3 := by
        simp [String.length_toList, htext, hseparator, Nat.add_assoc]
      have hline : before ++ text.toList ++ separator.toList ++
            (Text.joinWith separator (next :: texts)).toList =
          before ++ (Text.joinWith separator (text :: next :: texts)).toList := by
        simp [Text.toList_joinWith_cons]
      rw [hlength, hline] at hrest hcut
      rw [separatorOffsets, List.forall_mem_cons, cut, hcut, ← hline]
      refine ⟨⟨?_, by rwa [hline]⟩, ?_⟩
      · rw [List.append_assoc _ separator.toList, List.drop_left' (by simp [String.length_toList, htext])]
        exact List.prefix_append _ _
      · rw [List.append_assoc, List.append_assoc, List.drop_left' rfl,
          List.take_left' (by simp [String.length_toList, htext])]
        rfl

/-- Cells that fill their widths stand in columns. -/
lemma inColumns_joinWith (h : Fills texts widths) (hne : widths ≠ []) :
    InColumns (totalWidth widths) (separatorOffsets 0 widths) separator
      (Text.joinWith separator texts) :=
  ⟨length_joinWith hseparator h, (cut_joinWith hseparator h hne []).1⟩

/-- They are found again between the separators, without the spaces at their ends. -/
lemma cellsAt_joinWith (h : Fills texts widths) (hne : widths ≠ []) :
    cellsAt (separatorOffsets 0 widths) (Text.joinWith separator texts) =
      texts.map (Text.dropEndWhile (· == ' ')) := by
  have hcut := (cut_joinWith hseparator h hne []).2
  rw [List.nil_append, List.length_nil] at hcut
  rw [cellsAt, hcut, List.map_map]
  simp [Function.comp_def]

end Joined

/-! ### Filled cells -/

/-- Cells are no wider than their columns. -/
abbrev Fits (cells : List String) (widths : List Nat) : Prop :=
  List.Forall₂ (fun cell width => cell.length ≤ width) cells widths

variable {cells : List String}

lemma length_padRight {cell : String} {width : Nat} (h : cell.length ≤ width) :
    (padRight width cell).length = width := by
  rw [padRight, String.length_append, String.length_ofList, List.length_replicate]
  omega

/-- The spaces that fill a cell can be taken away. -/
lemma dropEndWhile_padRight (width : Nat) {cell : String} (h : cell.toList.getLast? ≠ some ' ') :
    Text.dropEndWhile (· == ' ') (padRight width cell) = cell := by
  have hcell : cell.toList.reverse.dropWhile (· == ' ') = cell.toList.reverse := by
    rw [← List.head?_reverse] at h
    cases hreverse : cell.toList.reverse with
    | nil => rfl
    | cons c cs =>
      rw [hreverse] at h
      rw [List.dropWhile_cons_of_neg (by simpa using h)]
  rw [Text.dropEndWhile, padRight, String.toList_append, List.reverse_append,
    List.dropWhile_append_of_pos (by simp), hcell]
  simp

lemma fills_padRight (h : Fits cells widths) : Fills (List.zipWith padRight widths cells) widths := by
  induction h with
  | nil => exact .nil
  | cons hcell _ ih => exact .cons (length_padRight hcell) ih

/-- A line holds the cells that it is made of. -/
lemma holds_line (h : Fits cells widths) (hne : widths ≠ []) :
    Holds (separatorOffsets 0 widths) (line widths cells) cells := by
  rw [Holds, line, cellsAt_joinWith rfl (fills_padRight h) hne, List.forall₂_map_left_iff]
  clear hne
  induction h with
  | nil => exact .nil
  | cons _ _ ih => exact .cons (dropEndWhile_padRight _) ih

/-- A line has its separators where the widths say. -/
lemma inColumns_line (h : Fits cells widths) (hne : widths ≠ []) :
    InColumns (totalWidth widths) (separatorOffsets 0 widths) " | " (line widths cells) :=
  inColumns_joinWith rfl (fills_padRight h) hne

lemma inColumns_rule (hne : widths ≠ []) :
    InColumns (totalWidth widths) (separatorOffsets 0 widths) "-+-" (rule widths) := by
  refine inColumns_joinWith rfl ?_ hne
  rw [Fills, List.forall₂_map_left_iff, List.forall₂_same]
  intro width _
  simp

/-! ### Columns of a table -/

/-- A column is as wide as its widest cell. -/
lemma le_columnWidth (header : String) (cells : List String) :
    ∀ cell ∈ header :: cells, cell.length ≤ columnWidth header cells := by
  rw [List.forall_mem_cons, columnWidth]
  generalize header.length = width
  induction cells generalizing width with
  | nil => exact ⟨le_refl width, by simp⟩
  | cons cell cells ih =>
    obtain ⟨hwidth, hcells⟩ := ih (max width cell.length)
    exact ⟨(le_max_left _ _).trans hwidth,
      List.forall_mem_cons.mpr ⟨(le_max_right _ _).trans hwidth, hcells⟩⟩

variable {headers : List String} {rows : List (List String)}

/-- Every line of the table fits the widths of its columns. -/
lemma fits_columnWidths (hcells : cells ∈ headers :: rows) (hlength : cells.length = headers.length) :
    Fits cells (columnWidths headers rows) := by
  refine List.forall₂_iff_get.mpr ⟨by simp [columnWidths, hlength], fun i hi hwidth => ?_⟩
  have hcolumn : (columnWidths headers rows).get ⟨i, hwidth⟩ =
      columnWidth (headers.get ⟨i, hlength ▸ hi⟩) (rows.filterMap (·[i]?)) := by
    simp [columnWidths]
  rw [hcolumn]
  refine le_columnWidth _ _ _ ?_
  rcases List.mem_cons.mp hcells with rfl | hrow
  · exact List.mem_cons_self
  · refine List.mem_cons_of_mem _ (List.mem_filterMap.mpr ⟨cells, hrow, ?_⟩)
    exact List.getElem?_eq_getElem hi

lemma lineBreak_not_mem_line (widths : List Nat) (h : ∀ cell ∈ cells, '\n' ∉ cell.toList) :
    '\n' ∉ (line widths cells).toList := by
  refine Text.not_mem_joinWith (by decide) ?_
  rw [← List.map_uncurry_zip_eq_zipWith, List.forall_mem_map]
  rintro ⟨width, cell⟩ hmem
  simpa [padRight] using h cell (List.of_mem_zip hmem).2

lemma lineBreak_not_mem_rule (widths : List Nat) : '\n' ∉ (rule widths).toList := by
  refine Text.not_mem_joinWith (by decide) ?_
  rw [List.forall_mem_map]
  simp

/-- A table without line breaks in its cells is split into its lines. -/
lemma splitOn_render (hheaders : headers ≠ []) (hrows : rows ≠ [])
    (h : ∀ cells ∈ headers :: rows, ∀ cell ∈ cells, '\n' ∉ cell.toList) :
    Text.splitOn '\n' (render headers rows) = lines headers rows := by
  obtain ⟨htop, hbelow⟩ := List.forall_mem_cons.mp h
  rw [render, if_neg (by simp [hheaders, hrows])]
  refine Text.splitOn_joinWith (List.cons_ne_nil _ _) ?_
  rw [lines, List.forall_mem_cons, List.forall_mem_cons, List.forall_mem_map]
  exact ⟨lineBreak_not_mem_line _ htop, lineBreak_not_mem_rule _,
    fun row hrow => lineBreak_not_mem_line _ (hbelow row hrow)⟩

/-- If no row is longer or shorter than the headers, and no cell has a line break, a table has a line for
the headers, one below them, and one for each row. All lines have one length, and between each two
columns a separator that stands at the same offset in each of them. Cut there, the lines give the cells
back, if these do not end in a blank. -/
theorem render_columns (hheaders : headers ≠ []) (hrows : rows ≠ [])
    (hcells : ∀ row ∈ rows, row.length = headers.length)
    (hlines : ∀ cells ∈ headers :: rows, ∀ cell ∈ cells, '\n' ∉ cell.toList) :
    ∃ (width : Nat) (offsets : List Nat) (top ruled : String) (below : List String),
      Text.splitOn '\n' (render headers rows) = top :: ruled :: below ∧
      (Text.splitOn '\n' (render headers rows)).length = 2 + rows.length ∧
      offsets.length + 1 = headers.length ∧ (offsets.Pairwise fun a b => a + 3 ≤ b) ∧
      InColumns width offsets "-+-" ruled ∧
      (∀ line ∈ top :: below, InColumns width offsets " | " line) ∧
      List.Forall₂ (Holds offsets) (top :: below) (headers :: rows) := by
  have hwidths : columnWidths headers rows ≠ [] := by
    simpa [columnWidths] using hheaders
  have hfits : ∀ cells ∈ headers :: rows, Fits cells (columnWidths headers rows) := by
    intro cells hmem
    refine fits_columnWidths hmem ?_
    rcases List.mem_cons.mp hmem with rfl | hrow
    · rfl
    · exact hcells cells hrow
  have hsplit := splitOn_render hheaders hrows hlines
  -- One line for the headers, one for the rule below them, and one for each row.
  have hcount : (lines headers rows).length = 2 + rows.length := by
    rw [lines, List.length_cons, List.length_cons, List.length_map]
    omega
  refine ⟨totalWidth (columnWidths headers rows), separatorOffsets 0 (columnWidths headers rows),
    _, _, _, hsplit, by rw [hsplit, hcount], ?_, pairwise_separatorOffsets 0 _,
    inColumns_rule hwidths, ?_, ?_⟩
  · rw [length_separatorOffsets 0 hwidths]
    simp [columnWidths]
  · rw [← List.map_cons, List.forall_mem_map]
    exact fun cells hmem => inColumns_line (hfits cells hmem) hwidths
  · rw [← List.map_cons, List.forall₂_map_left_iff, List.forall₂_same]
    exact fun cells hmem => holds_line (hfits cells hmem) hwidths

/-- Headers of a table of birds. -/
def birdHeaders : List String := ["Bird", "Sightings"]

/-- Rows below them. The first cell is wider than its header and has a separator inside. -/
def birdRows : List (List String) := [["owl | barn", "12"], ["", "7"]]

theorem render_columns_birds :
    (birdHeaders ≠ [] ∧ birdRows ≠ [] ∧ (∀ row ∈ birdRows, row.length = birdHeaders.length) ∧
        ∀ cells ∈ birdHeaders :: birdRows, ∀ cell ∈ cells, '\n' ∉ cell.toList) ∧
      ∃ (width : Nat) (offsets : List Nat) (top ruled : String) (below : List String),
        Text.splitOn '\n' (render birdHeaders birdRows) = top :: ruled :: below ∧
        InColumns width offsets "-+-" ruled ∧
        (∀ line ∈ top :: below, InColumns width offsets " | " line) ∧
        List.Forall₂ (Holds offsets) (top :: below) (birdHeaders :: birdRows) := by
  have hheaders : birdHeaders ≠ [] := List.cons_ne_nil _ _
  have hrows : birdRows ≠ [] := List.cons_ne_nil _ _
  have hcells : ∀ row ∈ birdRows, row.length = birdHeaders.length := by decide
  have hlines : ∀ cells ∈ birdHeaders :: birdRows, ∀ cell ∈ cells, '\n' ∉ cell.toList := by decide
  obtain ⟨width, offsets, top, ruled, below, hsplit, -, -, -, hruled, hbelow, hcolumns⟩ :=
    render_columns hheaders hrows hcells hlines
  exact ⟨⟨hheaders, hrows, hcells, hlines⟩, width, offsets, top, ruled, below, hsplit, hruled, hbelow,
    hcolumns⟩

end UserAgent.Table

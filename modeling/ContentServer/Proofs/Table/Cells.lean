import ContentServer.Proofs.Html.Token
import ContentServer.Table.Directory

namespace ContentServer

open Html

namespace TableDefinition

def tr : List Char := ['t', 'r']

def th : List Char := ['t', 'h']

def td : List Char := ['t', 'd']

theorem raggedRow?_eq_none_iff {width n : Nat} {rows : List (List String)} :
    raggedRow? width n rows = none ↔ ∀ row ∈ rows, row.length = width := by
  induction rows generalizing n with
  | nil => exact iff_of_true rfl nofun
  | cons row rows ih =>
    rw [raggedRow?, List.forall_mem_cons]
    split
    · next hwidth => rw [ih, and_iff_right hwidth]
    · next hwidth => exact iff_of_false nofun fun h => hwidth h.1

theorem length_of_read {name : String} {file : TableFile} {d : TableDefinition}
    (h : file.read name = .ok d) :
    ∀ row ∈ d.rows, row.length = d.columns.length := by
  cases file with
  | directory modified => cases h
  | file modified content =>
    rw [TableFile.read] at h
    split at h
    · cases h
    · next text _ =>
      rw [parse] at h
      split at h
      · cases h
      · split at h
        · next hragged =>
          obtain rfl := Except.ok.inj h
          exact raggedRow?_eq_none_iff.mp hragged
        · cases h

def textTokens (text : String) : List Token :=
  (escape text).toList.map .char

def cells (name : List Char) (texts : List String) : List Token :=
  texts.flatMap fun text => element name (textTokens text)

def opening : List Token :=
  [.span "table class=\"lectern-table\"".toList, .char '\n', .span "thead".toList]

def middle : List Token :=
  [.span "/thead".toList, .char '\n', .span "tbody".toList, .char '\n']

def closing : List Token :=
  [.span "/tbody".toList, .char '\n', .span "/table".toList]

def rowTokens (rows : List (List String)) : List Token :=
  rows.flatMap fun row => element tr (cells td row) ++ [.char '\n']

def tokens (d : TableDefinition) : List Token :=
  opening ++ (element tr (cells th d.columns) ++ (middle ++ (rowTokens d.rows ++ closing)))

theorem isWritten_textTokens (text : String) : IsWritten (escape text).toList (textTokens text) :=
  .chars (notMem_escape (by decide) text)

theorem isWritten_headerCell (text : String) :
    IsWritten (headerCell text).toList (element th (textTokens text)) := by
  have hname : '>' ∉ th := by decide
  rw [headerCell, String.toList_append, String.toList_append]
  exact (isWritten_textTokens text).element hname

theorem isWritten_dataCell (text : String) :
    IsWritten (dataCell text).toList (element td (textTokens text)) := by
  have hname : '>' ∉ td := by decide
  rw [dataCell, String.toList_append, String.toList_append]
  exact (isWritten_textTokens text).element hname

theorem isWritten_rowHtml (row : List String) :
    IsWritten (rowHtml row).toList (element tr (cells td row) ++ [.char '\n']) := by
  have hcells : IsWritten (String.join (row.map dataCell)).toList (cells td row) := by
    rw [String.toList_join, List.flatMap_map]
    exact .flatMap isWritten_dataCell row
  have hname : '>' ∉ tr := by decide
  have hend : IsWritten ['\n'] [.char '\n'] := ⟨rfl, by decide⟩
  have hrow := (hcells.element hname).append hend
  rw [List.append_assoc] at hrow
  rwa [rowHtml, String.toList_append, String.toList_append]

theorem isWritten_tokens (d : TableDefinition) : IsWritten d.html.toList d.tokens := by
  have hopening : IsWritten "<table class=\"lectern-table\">\n<thead>".toList opening :=
    ⟨rfl, by decide⟩
  have hmiddle : IsWritten "</thead>\n<tbody>\n".toList middle := ⟨rfl, by decide⟩
  have hclosing : IsWritten "</tbody>\n</table>".toList closing := ⟨rfl, by decide⟩
  have hheader :
      IsWritten (String.join (d.columns.map headerCell)).toList (cells th d.columns) := by
    rw [String.toList_join, List.flatMap_map]
    exact .flatMap isWritten_headerCell d.columns
  have hbody : IsWritten (String.join (d.rows.map rowHtml)).toList (rowTokens d.rows) := by
    rw [String.toList_join, List.flatMap_map]
    exact .flatMap isWritten_rowHtml d.rows
  have hname : '>' ∉ tr := by decide
  -- the row tags of the header stand in the literals before and after it
  have hbefore : "<table class=\"lectern-table\">\n<thead><tr>".toList =
      "<table class=\"lectern-table\">\n<thead>".toList ++ tag tr := rfl
  have hafter :
      "</tr></thead>\n<tbody>\n".toList = tag ('/' :: tr) ++ "</thead>\n<tbody>\n".toList := rfl
  have hall : IsWritten _ d.tokens :=
    hopening.append ((hheader.element hname).append (hmiddle.append (hbody.append hclosing)))
  unfold html
  simpa only [String.toList_append, hbefore, hafter, List.append_assoc] using hall

theorem scan_html (d : TableDefinition) : scan d.html.toList = d.tokens :=
  (isWritten_tokens d).isReading.scan_eq

variable {name other : List Char}

def cellText (cell : List Token) : String :=
  String.ofList (unescape (cell.filterMap Token.char?))

theorem cellText_textTokens (text : String) : cellText (textTokens text) = text := by
  have hchars : (textTokens text).filterMap Token.char? = (escape text).toList := by
    rw [textTokens, List.filterMap_map]
    exact List.filterMap_some
  rw [cellText, hchars, unescape_escape, String.ofList_toList]

theorem map_cellText_textTokens (texts : List String) :
    (texts.map textTokens).map cellText = texts := by
  rw [List.map_map]
  exact List.map_id'' cellText_textTokens texts

theorem span_notMem_textTokens (name : List Char) (text : String) :
    .span name ∉ textTokens text := by
  simp [textTokens]

theorem span_notMem_cells (hopen : other ≠ name) (hclose : other ≠ '/' :: name)
    (texts : List String) :
    .span other ∉ cells name texts := by
  simp [cells, element, span_notMem_textTokens, hopen, hclose]

theorem elements_cells_append (name : List Char) (texts : List String) (tokens : List Token) :
    elements name (cells name texts ++ tokens) = texts.map textTokens ++ elements name tokens :=
  elements_flatMap (fun text _ => span_notMem_textTokens name text)
    (fun text _ => span_notMem_textTokens ('/' :: name) text) tokens

theorem elements_cells (name : List Char) (texts : List String) :
    elements name (cells name texts) = texts.map textTokens := by
  have h := elements_cells_append name texts []
  rwa [List.append_nil, elements_of_notMem List.not_mem_nil, List.append_nil] at h

theorem map_cellText_elements_cells (name : List Char) (texts : List String) :
    (elements name (cells name texts)).map cellText = texts := by
  rw [elements_cells, map_cellText_textTokens]

theorem span_notMem_frame (h : name.length = 2) :
    .span name ∉ opening ∧ .span name ∉ middle ∧ .span name ∉ closing := by
  have hlong : ∀ token ∈ opening ++ (middle ++ closing), token.text.length ≠ 4 := by decide
  have hspan : (Token.span name).text.length = 4 := by simp [Token.text, tag, h]
  have hname : .span name ∉ opening ++ (middle ++ closing) := fun hmem => hlong _ hmem hspan
  rwa [List.mem_append, List.mem_append, not_or, not_or] at hname

theorem elements_tr (d : TableDefinition) :
    elements tr d.tokens = cells th d.columns :: d.rows.map (cells td) := by
  obtain ⟨hopening, hmiddle, hclosing⟩ := span_notMem_frame (show tr.length = 2 from rfl)
  have hheader : .span tr ∉ cells th d.columns := span_notMem_cells (by decide) (by decide) _
  have hheader' : .span ('/' :: tr) ∉ cells th d.columns :=
    span_notMem_cells (by decide) (by decide) _
  rw [tokens, elements_append_of_notMem hopening, elements_element_append hheader hheader',
    elements_append_of_notMem hmiddle, rowTokens, elements_flatMap_append,
    elements_of_notMem hclosing, List.append_nil]
  · exact fun row _ => span_notMem_cells (by decide) (by decide) row
  · exact fun row _ => span_notMem_cells (by decide) (by decide) row
  · decide

theorem th_notMem_rowTokens (rows : List (List String)) : .span th ∉ rowTokens rows := by
  have hcells (row : List String) : .span th ∉ cells td row :=
    span_notMem_cells (by decide) (by decide) row
  have hopen : th ≠ tr := by decide
  have hclose : th ≠ '/' :: tr := by decide
  simp [rowTokens, element, hcells, hopen, hclose]

theorem elements_th (d : TableDefinition) : elements th d.tokens = d.columns.map textTokens := by
  obtain ⟨hopening, hmiddle, hclosing⟩ := span_notMem_frame (show th.length = 2 from rfl)
  have hbefore : .span th ∉ opening ++ [.span tr] := by
    rw [List.mem_append, not_or]
    exact ⟨hopening, by decide⟩
  have hafter : .span th ∉ .span ('/' :: tr) :: (middle ++ (rowTokens d.rows ++ closing)) := by
    simp only [List.mem_cons, List.mem_append, not_or]
    exact ⟨by decide, hmiddle, th_notMem_rowTokens d.rows, hclosing⟩
  have htokens : d.tokens = (opening ++ [.span tr]) ++
      (cells th d.columns ++ .span ('/' :: tr) :: (middle ++ (rowTokens d.rows ++ closing))) := by
    simp [tokens, element]
  rw [htokens, elements_append_of_notMem hbefore, elements_cells_append, elements_of_notMem hafter,
    List.append_nil]

theorem elements_rowTokens_append (rows : List (List String)) (tail : List Token) :
    elements td (rowTokens rows ++ tail) = rows.flatMap (·.map textTokens) ++ elements td tail := by
  induction rows with
  | nil => rfl
  | cons row rows ih =>
    have hrow : rowTokens (row :: rows) ++ tail =
        [.span tr] ++ (cells td row ++
          ([.span ('/' :: tr), .char '\n'] ++ (rowTokens rows ++ tail))) := by
      simp [rowTokens, element]
    rw [hrow, elements_append_of_notMem (by decide), elements_cells_append,
      elements_append_of_notMem (by decide), ih, List.flatMap_cons, List.append_assoc]

theorem elements_td (d : TableDefinition) :
    elements td d.tokens = d.rows.flatMap (·.map textTokens) := by
  obtain ⟨hopening, hmiddle, hclosing⟩ := span_notMem_frame (show td.length = 2 from rfl)
  have hcells : .span td ∉ cells th d.columns := span_notMem_cells (by decide) (by decide) _
  have hbefore : .span td ∉ opening ++ (element tr (cells th d.columns) ++ middle) := by
    simp only [element, List.mem_cons, List.mem_append, not_or]
    exact ⟨hopening, ⟨by decide, hcells, by decide⟩, hmiddle⟩
  have htokens : d.tokens =
      (opening ++ (element tr (cells th d.columns) ++ middle)) ++ (rowTokens d.rows ++ closing) := by
    simp [tokens]
  rw [htokens, elements_append_of_notMem hbefore, elements_rowTokens_append,
    elements_of_notMem hclosing, List.append_nil]

theorem rows_of_tokens (d : TableDefinition) :
    (d.rows.map (cells td)).map (fun row => (elements td row).map cellText) = d.rows := by
  rw [List.map_map]
  exact List.map_id'' (map_cellText_elements_cells td) d.rows

/-- The markup of a table fixes what its cells are. -/
theorem columns_rows_eq_of_html_eq {d e : TableDefinition} (h : e.html = d.html) :
    e.columns = d.columns ∧ e.rows = d.rows := by
  have htokens : e.tokens = d.tokens := by rw [← scan_html, ← scan_html, h]
  have hrows := congrArg (elements tr) htokens
  rw [elements_tr, elements_tr] at hrows
  obtain ⟨hheader, hbody⟩ := List.cons.inj hrows
  refine ⟨?_, ?_⟩
  · rw [← map_cellText_elements_cells th e.columns, hheader, map_cellText_elements_cells]
  · rw [← rows_of_tokens e, hbody, rows_of_tokens]

/-- The table of a definition that was read is rectangular and faithful. Its first row has a header
cell for each column and each further row a data cell for each column, there are no cells elsewhere,
and the cells give the texts of the definition back. No other columns or rows have the same table,
whatever the texts are. -/
theorem html_rectangular {name : String} {file : TableFile} {d : TableDefinition}
    (hread : file.read name = .ok d) :
    (∃ header body, elements tr (scan d.output.html.toList) = header :: body ∧
      elements th (scan d.output.html.toList) = elements th header ∧
      (elements th header).length = d.columns.length ∧
      (elements th header).map cellText = d.columns ∧
      elements td (scan d.output.html.toList) = body.flatMap (elements td) ∧
      (body.map fun row => (elements td row).length) = (d.rows.map fun _ => d.columns.length) ∧
      (body.map fun row => (elements td row).map cellText) = d.rows) ∧
    ∀ (otherName : String) (otherFile : TableFile) (e : TableDefinition),
      otherFile.read otherName = .ok e →
      e.output.html = d.output.html → e.columns = d.columns ∧ e.rows = d.rows := by
  have hscan : scan d.output.html.toList = d.tokens := scan_html d
  refine ⟨⟨cells th d.columns, d.rows.map (cells td), ?_, ?_, ?_,
    map_cellText_elements_cells th d.columns, ?_,
    ?_, rows_of_tokens d⟩, fun _ _ _ _ => columns_rows_eq_of_html_eq⟩
  · rw [hscan, elements_tr]
  · rw [hscan, elements_th, elements_cells]
  · rw [elements_cells, List.length_map]
  · rw [hscan, elements_td, List.flatMap_map]
    simp only [elements_cells]
  · rw [List.map_map]
    refine List.map_congr_left fun row hrow => ?_
    rw [Function.comp_apply, elements_cells, List.length_map, length_of_read hread row hrow]

end TableDefinition

namespace TagSoup

def file : TableFile :=
  .file 1 (Text.Utf8.encodeString
    "\x7b\"title\":\"T\",\"columns\":[\"<th>\",\"&lt;\"],\"rows\":[[\"a</td><td>\",\"\\\"&amp;\\n\"],[\"\",\"</tr>\"]]\x7d")

def definition : TableDefinition :=
  ⟨"T", none, ["<th>", "&lt;"], [["a</td><td>", "\"&amp;\n"], ["", "</tr>"]]⟩

open TableDefinition

theorem html_rectangular_tagSoup :
    file.read "soup" = .ok definition ∧
    (∃ header body, elements tr (scan definition.output.html.toList) = header :: body ∧
      (elements th header).length = 2 ∧ (body.map fun row => (elements td row).length) = [2, 2] ∧
      (body.map fun row => (elements td row).map cellText) =
        [["a</td><td>", "\"&amp;\n"], ["", "</tr>"]]) ∧
    ∀ e, file.read "other" = .ok e → e.output.html = definition.output.html →
      e.rows = definition.rows := by
  have hread : file.read "soup" = .ok definition := by decide +kernel
  obtain ⟨⟨header, body, hrows, -, hheader, -, -, hbody, htexts⟩, hother⟩ := html_rectangular hread
  exact ⟨hread, ⟨header, body, hrows, hheader, hbody, htexts⟩,
    fun e he hhtml => (hother "other" file e he hhtml).2⟩

end TagSoup

end ContentServer

import ContentServer.Directive.Basic
import ContentServer.Proofs.Text.Blank
import ContentServer.Proofs.Text.Split

namespace ContentServer

/-- An argument as it is written: a star, or a text in quotes. -/
inductive Argument where
  | star
  | quoted (text : String)
  deriving DecidableEq, Repr

namespace Argument

def written : Argument → List Char
  | star => ['*']
  | quoted text => '"' :: text.toList ++ ['"']

def content : Argument → String
  | star => "*"
  | quoted text => text

def values (parameters : List String) : Argument → List String
  | star => parameters
  | quoted text => [text]

/-- Can the argument be told from others? A star in quotes is read as a star. -/
def IsClear : Argument → Prop
  | star => True
  | quoted text => '"' ∉ text.toList ∧ '\n' ∉ text.toList ∧ text ≠ "*"

instance : (argument : Argument) → Decidable argument.IsClear
  | star => inferInstanceAs (Decidable True)
  | quoted _ => inferInstanceAs (Decidable (_ ∧ _ ∧ _))

/-- Are there no two spaces side by side in the argument? -/
def HasNoGap : Argument → Prop
  | star => True
  | quoted text => ¬ [' ', ' '] <:+: text.toList

instance : (argument : Argument) → Decidable argument.HasNoGap
  | star => inferInstanceAs (Decidable True)
  | quoted _ => inferInstanceAs (Decidable (¬ _))

theorem isTrimmed_written (argument : Argument) : Text.IsTrimmed argument.written := by
  cases argument with
  | star => exact ⟨⟨'*', rfl, by decide⟩, ⟨'*', rfl, by decide⟩⟩
  | quoted text => exact ⟨⟨'"', rfl, by decide⟩, ⟨'"', List.getLast?_concat, by decide⟩⟩

theorem newline_notMem_written {argument : Argument} (h : argument.IsClear) :
    '\n' ∉ argument.written := by
  cases argument with
  | star => decide
  | quoted text => simpa [written] using h.2.1

theorem filter_split_written {argument : Argument} (h : argument.HasNoGap) :
    (argument.written.splitOn ' ').filter (! ·.isEmpty) = argument.written.splitOn ' ' := by
  cases argument with
  | star => rfl
  | quoted text =>
    have hruns : ¬ [' ', ' '] <:+: ' ' :: (quoted text).written := by
      simp only [written, List.cons_append, List.infix_cons_iff, List.infix_concat_iff]
      rintro (hstart | hstart | hend | hinner)
      · simp at hstart
      · simp at hstart
      · obtain ⟨stem, hstem⟩ := hend
        have hlast := congrArg List.getLast? hstem
        simp at hlast
      · exact h hinner
    obtain ⟨words, last, hsplit, hwhole, -, hwords⟩ := Text.exists_splitOn_of_no_runs hruns
    have hlast : last ≠ [] := by
      rintro rfl
      have hend := congrArg List.getLast? hwhole
      simp [written, List.getLast?_cons] at hend
    refine List.filter_eq_self.mpr fun word hword => ?_
    rw [hsplit, List.mem_append, List.mem_singleton] at hword
    have hne : word ≠ [] := by
      rintro rfl
      exact hword.elim hwords hlast.symm
    simpa using hne

end Argument

namespace Directive

theorem joinQuoted_open {words : List (List Char)} (hwords : ∀ word ∈ words, '"' ∉ word)
    (text last : List Char) (rest : List (List Char)) :
    joinQuoted (some text) (words ++ (last ++ ['"']) :: rest) =
      (text ++ (words ++ [last]).flatMap (' ' :: ·)) :: joinQuoted none rest := by
  induction words generalizing text with
  | nil =>
    rw [List.nil_append, joinQuoted, if_pos List.getLast?_concat, List.dropLast_concat,
      List.nil_append, List.flatMap_singleton]
  | cons word words ih =>
    have hword : word.getLast? ≠ some '"' :=
      fun h => hwords word List.mem_cons_self (List.mem_of_getLast? h)
    rw [List.cons_append, joinQuoted, if_neg hword,
      ih fun w hw => hwords w (List.mem_cons_of_mem _ hw)]
    simp

theorem joinQuoted_quoted {text : List Char} (h : '"' ∉ text) (rest : List (List Char)) :
    joinQuoted none (('"' :: text ++ ['"']).splitOn ' ' ++ rest) =
      text :: joinQuoted none rest := by
  obtain ⟨first, others, hsplit⟩ := List.exists_cons_of_ne_nil (List.splitOn_ne_nil ' ' text)
  have hwhole := Text.flatMap_cons_splitOn ' ' text
  rw [hsplit] at hwhole
  have hwords : ∀ word ∈ first :: others, '"' ∉ word := by
    intro word hword hm
    have hquote : '"' ∈ ' ' :: text :=
      hwhole ▸ List.mem_flatMap.mpr ⟨word, hword, List.mem_cons_of_mem _ hm⟩
    exact h (by simpa using hquote)
  have hopen : ('"' :: text).splitOn ' ' = ('"' :: first) :: others := by
    rw [Text.splitOn_cons_of_ne (by decide), hsplit, List.modifyHead_cons]
  rw [List.flatMap_cons, List.cons_append] at hwhole
  have htext := (List.cons.inj hwhole).2
  -- the last word takes the closing quote, and it may be the first one too
  cases others using List.reverseRecOn with
  | nil =>
    have hclosed : ('"' :: text ++ ['"']).splitOn ' ' = [] ++ [('"' :: first) ++ ['"']] :=
      Text.splitOn_concat (by decide) hopen
    rw [hclosed, ← htext, List.nil_append, List.singleton_append, List.cons_append, joinQuoted,
      if_pos List.getLast?_concat, List.dropLast_concat, List.flatMap_nil, List.append_nil]
  | append_singleton words last =>
    have hclosed :
        ('"' :: text ++ ['"']).splitOn ' ' = ('"' :: first) :: words ++ [last ++ ['"']] :=
      Text.splitOn_concat (by decide) hopen
    have hfirst : first.getLast? ≠ some '"' :=
      fun he => hwords first List.mem_cons_self (List.mem_of_getLast? he)
    rw [hclosed, ← htext, List.cons_append, List.cons_append, List.append_assoc, joinQuoted,
      if_neg hfirst, List.singleton_append]
    refine joinQuoted_open (fun word hword => hwords word ?_) first last rest
    exact List.mem_cons_of_mem _ (List.mem_append_left _ hword)

theorem joinQuoted_written (a : Argument) (rest : List (List Char)) :
    joinQuoted none (a.written :: rest) = a.content.toList :: joinQuoted none rest := by
  cases a with
  | star => rfl
  | quoted text =>
    rw [Argument.written, List.cons_append, joinQuoted, if_pos List.getLast?_concat,
      List.dropLast_concat, Argument.content]

theorem joinQuoted_split_written {a : Argument} (h : a.IsClear) (rest : List (List Char)) :
    joinQuoted none (a.written.splitOn ' ' ++ rest) = a.content.toList :: joinQuoted none rest := by
  cases a with
  | star => rfl
  | quoted text => exact joinQuoted_quoted h.1 rest

theorem joinQuoted_flatMap {arguments : List Argument} {tokens : Argument → List (List Char)}
    (h : ∀ a ∈ arguments, ∀ rest,
      joinQuoted none (tokens a ++ rest) = a.content.toList :: joinQuoted none rest) :
    joinQuoted none (arguments.flatMap tokens) = arguments.map fun a => a.content.toList := by
  induction arguments with
  | nil => rfl
  | cons a arguments ih =>
    rw [List.flatMap_cons, h a List.mem_cons_self, ih fun b hb => h b (List.mem_cons_of_mem _ hb),
      List.map_cons]

theorem expandStars_content (parameters : List String) {arguments : List Argument}
    (h : ∀ a ∈ arguments, a.IsClear) :
    expandStars parameters (arguments.map Argument.content) =
      arguments.flatMap (·.values parameters) := by
  rw [expandStars, List.flatMap_map]
  refine List.flatMap_congr fun a ha => ?_
  cases a with
  | star => rfl
  | quoted text => exact if_neg (h _ ha).2.2

def items (function : String) (arguments : List Argument) : List (List Char) :=
  "query".toList :: function.toList :: arguments.map Argument.written

/-- A query directive with `sep` between each two items. -/
def laidOut (sep : Char) (function : String) (arguments : List Argument) : String :=
  String.ofList ([sep].intercalate (items function arguments))

theorem items_ne_nil (function : String) (arguments : List Argument) :
    items function arguments ≠ [] :=
  List.cons_ne_nil _ _

section Layout

variable {function : String} {arguments : List Argument} (hne : function ≠ "")
  (hfunction : ∀ c ∈ function.toList, ¬ Text.isBlank c) (hclear : ∀ a ∈ arguments, a.IsClear)

include hne hfunction in
theorem isTrimmed_items : ∀ item ∈ items function arguments, Text.IsTrimmed item := by
  intro item hitem
  simp only [items, List.mem_cons, List.mem_map] at hitem
  obtain rfl | rfl | ⟨argument, -, rfl⟩ := hitem
  · exact ⟨⟨'q', rfl, by decide⟩, ⟨'y', rfl, by decide⟩⟩
  · exact .of_forall (by simpa using hne) hfunction
  · exact argument.isTrimmed_written

include hfunction hclear in
theorem newline_notMem_items : ∀ item ∈ items function arguments, '\n' ∉ item := by
  intro item hitem
  simp only [items, List.mem_cons, List.mem_map] at hitem
  obtain rfl | rfl | ⟨argument, hargument, rfl⟩ := hitem
  · decide
  · exact fun hm => hfunction _ hm (by decide)
  · exact Argument.newline_notMem_written (hclear argument hargument)

include hne hfunction in
theorem trim_laidOut (sep : Char) :
    Text.trim (laidOut sep function arguments).toList =
      [sep].intercalate (items function arguments) := by
  rw [laidOut, String.toList_ofList]
  exact (Text.IsTrimmed.intercalate sep (items_ne_nil _ _) (isTrimmed_items hne hfunction)).trim_eq

include hne hfunction hclear

theorem tokenize_lines :
    tokenize (laidOut '\n' function arguments).toList = items function arguments := by
  have hnewline : '\n' ∈ ['\n'].intercalate (items function arguments) := by
    simp [items, List.intercalate_cons_cons]
  have htrim : ∀ item ∈ items function arguments, Text.trim item = item :=
    fun item hitem => (isTrimmed_items hne hfunction item hitem).trim_eq
  rw [tokenize, trim_laidOut hne hfunction, if_pos hnewline,
    List.splitOn_intercalate '\n' (newline_notMem_items hfunction hclear) (items_ne_nil _ _),
    List.map_congr_left htrim, List.map_id']
  refine List.filter_eq_self.mpr fun item hitem => ?_
  simpa using (isTrimmed_items hne hfunction item hitem).ne_nil

theorem tokenize_words (hgap : ∀ a ∈ arguments, a.HasNoGap) :
    tokenize (laidOut ' ' function arguments).toList =
      "query".toList :: function.toList :: arguments.flatMap fun a => a.written.splitOn ' ' := by
  have hnewline : '\n' ∉ [' '].intercalate (items function arguments) := by
    intro hm
    have hwhole := List.mem_cons_of_mem ' ' hm
    rw [Text.cons_intercalate ' ' (items_ne_nil _ _)] at hwhole
    obtain ⟨item, hitem, hnewline⟩ := List.mem_flatMap.mp hwhole
    exact newline_notMem_items hfunction hclear item hitem (by simpa using hnewline)
  have hspace : ' ' ∉ function.toList := fun hm => hfunction _ hm (by decide)
  have hname : (function.toList.splitOn ' ').filter (! ·.isEmpty) = [function.toList] := by
    rw [List.splitOn_eq_singleton hspace, List.filter_cons_of_pos (by simpa using hne),
      List.filter_nil]
  have hkeyword : ("query".toList.splitOn ' ').filter (! ·.isEmpty) = ["query".toList] := by decide
  rw [tokenize, trim_laidOut hne hfunction, if_neg hnewline,
    Text.splitOn_intercalate_eq_flatMap ' ' (items_ne_nil _ _), List.filter_flatMap, items,
    List.flatMap_cons, List.flatMap_cons, List.flatMap_map, hname, hkeyword,
    List.flatMap_congr fun a ha => Argument.filter_split_written (hgap a ha)]
  rfl

end Layout

theorem parse_of_tokens (idna : Url.Idna) {body function : String} {arguments : List Argument}
    {tokens : Argument → List (List Char)}
    (htokens : tokenize body.toList = "query".toList :: function.toList :: arguments.flatMap tokens)
    (hjoin : ∀ a ∈ arguments, ∀ rest,
      joinQuoted none (tokens a ++ rest) = a.content.toList :: joinQuoted none rest)
    (hclear : ∀ a ∈ arguments, a.IsClear) (parameters : List String) :
    parse idna body parameters = .query function (arguments.flatMap (·.values parameters)) := by
  have hkeyword : Keyword.of? (String.ofList "query".toList) = some .query := by decide +kernel
  have hcontents : (arguments.map fun a => a.content.toList).map String.ofList =
      arguments.map Argument.content := by
    rw [List.map_map]
    exact List.map_congr_left fun a _ => String.ofList_toList
  rw [parse, htokens]
  dsimp only
  rw [hkeyword, Option.bind_some, ofTokens?, joinQuoted_flatMap hjoin, hcontents,
    expandStars_content parameters hclear, String.ofList_toList, Option.getD_some]

/-- The arguments of a query directive are read back as they were written, each star replaced by all
the parameters, from lines of their own and, if no text holds two spaces side by side, from one line
too. -/
theorem parse_laidOut (idna : Url.Idna) {function : String} (hne : function ≠ "")
    (hfunction : ∀ c ∈ function.toList, ¬ Text.isBlank c) {arguments : List Argument}
    (hclear : ∀ a ∈ arguments, a.IsClear) (parameters : List String) :
    parse idna (laidOut '\n' function arguments) parameters =
        .query function (arguments.flatMap (·.values parameters)) ∧
      ((∀ a ∈ arguments, a.HasNoGap) →
        parse idna (laidOut ' ' function arguments) parameters =
          .query function (arguments.flatMap (·.values parameters))) := by
  refine ⟨?_, fun hgap => ?_⟩
  · have htokens := tokenize_lines hne hfunction hclear
    rw [items, List.map_eq_flatMap] at htokens
    exact parse_of_tokens idna htokens (fun a _ rest => joinQuoted_written a rest) hclear parameters
  · have htokens := tokenize_words hne hfunction hclear hgap
    exact parse_of_tokens idna htokens (fun a ha => joinQuoted_split_written (hclear a ha)) hclear
      parameters

/-- Blanks at the ends of a text and an empty text are kept, and what replaces a star is not read
again. -/
theorem parse_laidOut_shop :
    (∀ c ∈ "shop".toList, ¬ Text.isBlank c) ∧
    (∀ a ∈ [Argument.quoted " main store ", .star, .quoted ""], a.IsClear ∧ a.HasNoGap) ∧
    parse .asWritten "query shop \" main store \" * \"\"" ["*", "a \"b"] =
      .query "shop" [" main store ", "*", "a \"b", ""] ∧
    parse .asWritten "query\nshop\n\" main store \"\n*\n\"\"" ["*", "a \"b"] =
      .query "shop" [" main store ", "*", "a \"b", ""] := by
  have hfunction : ∀ c ∈ "shop".toList, ¬ Text.isBlank c := by simp [Text.isBlank]
  have harguments :
      ∀ a ∈ [Argument.quoted " main store ", .star, .quoted ""], a.IsClear ∧ a.HasNoGap := by
    decide +kernel
  have hword : laidOut ' ' "shop" [.quoted " main store ", .star, .quoted ""] =
      "query shop \" main store \" * \"\"" := by decide +kernel
  have hline : laidOut '\n' "shop" [.quoted " main store ", .star, .quoted ""] =
      "query\nshop\n\" main store \"\n*\n\"\"" := by decide +kernel
  obtain ⟨hlines, hwords⟩ :=
    parse_laidOut .asWritten (by decide) hfunction (fun a ha => (harguments a ha).1)
    ["*", "a \"b"]
  rw [hline] at hlines
  rw [hword] at hwords
  exact ⟨hfunction, harguments, hwords fun a ha => (harguments a ha).2, hlines⟩

end Directive

end ContentServer

import ContentServer.Page.Basic
import ContentServer.Proofs.Html.Escape
import ContentServer.Proofs.Html.Token
import ContentServer.Proofs.Page.Run
import ContentServer.Proofs.Text.Blank

namespace ContentServer

open Html

theorem toList_plainTitle (title : String) :
    (plainTitle title).toList = Text.trim (stripTags title.toList) :=
  String.toList_ofList

theorem not_pair_plainTitle (title : String) : ¬ ['<', '>'].Sublist (plainTitle title).toList := by
  rw [toList_plainTitle, stripTags_eq]
  intro hpair
  have hstripped := hpair.trans (Text.trimBy_isInfix Text.isBlank _).sublist
  exact (isReading_scan title.toList).not_pair hstripped

theorem plainTitle_eq_trim {title : String} (h : ¬ ['<', '>'].Sublist title.toList) :
    plainTitle title = Text.lift Text.trim title := by
  rw [plainTitle, Text.lift, stripTags_eq_self h, Text.lift]

/-- A plain title has no tag in it, neither one of the title nor one that the removal made of what
it left. It is made of the characters of the title that stand outside of spans, in their order, but
for white space at both ends; the title of the browser window adds the project to it, or nothing. -/
theorem plainTitle_outside (title : String) :
    ¬ ['<', '>'].Sublist (plainTitle title).toList ∧
    (plainTitle title).toList.Sublist title.toList ∧
    plainTitle (plainTitle title) = plainTitle title ∧
    (¬ ['<', '>'].Sublist title.toList → plainTitle title = Text.lift Text.trim title) ∧
    ((∃ tokens, IsReading title.toList tokens) ∧ ∀ tokens, IsReading title.toList tokens →
      ∃ before after, tokens.filterMap Token.char? = before ++ (plainTitle title).toList ++ after ∧
        (∀ c ∈ before, Text.isBlank c) ∧ ∀ c ∈ after, Text.isBlank c) ∧
    ∀ isRoot projectName, ∃ suffix, browserTitle title isRoot projectName =
      plainTitle title ++ suffix ∧
      (suffix = "" ∨ suffix = " | " ++ projectName) := by
  have hreading := isReading_scan title.toList
  refine ⟨not_pair_plainTitle title, ?_, ?_, plainTitle_eq_trim,
    ⟨⟨_, hreading⟩, fun tokens h => ?_⟩,
    fun isRoot projectName => ?_⟩
  · rw [toList_plainTitle, stripTags_eq]
    exact (Text.trimBy_isInfix Text.isBlank _).sublist.trans hreading.sublist
  · rw [plainTitle_eq_trim (not_pair_plainTitle title), Text.lift, toList_plainTitle]
    exact congrArg String.ofList (Text.trimBy_trimBy Text.isBlank _)
  · rw [toList_plainTitle, stripTags_eq, h.scan_eq]
    exact Text.exists_trimBy Text.isBlank _
  · rw [browserTitle]
    split
    · exact ⟨"", (String.append_empty).symm, .inl rfl⟩
    · exact ⟨" | " ++ projectName, String.append_assoc .., .inr rfl⟩

example : plainTitle " a<b<c>> d < e" = "a> d < e" := by cbv

open Html

namespace Slots

theorem buffer_pushNotice (s : Slots) (message : String) :
    ((s.pushNotice message).buffer s.active).text = (s.buffer s.active).text ++ notice message := by
  rw [pushNotice, buffer_push rfl]

theorem filter_notice (message : String) :
    (notice message).filter isMark = ['<', '"', '"', '>', '<', '>'] := by
  have hopening : "<div class=\"directive-error\">".toList.filter isMark = ['<', '"', '"', '>'] := by
    decide
  have hescaped : (escape message).toList.filter isMark = [] := marks_escape message
  have hclosing : "</div>".toList.filter isMark = ['<', '>'] := by decide
  unfold notice
  rw [List.filter_append, List.filter_append, hopening, hescaped, hclosing]
  rfl

end Slots

/-- An escaped text has no brackets and no quotes, and each ampersand in it begins an entity. Of all
such texts it is the only one whose entities resolve to the text that was escaped, also where that
text has entities of its own. So a notice has no brackets and quotes but those of the element around
its message. -/
theorem Html.escape_faithful (text : String) :
    IsEncoded (escape text).toList ∧
    unescape (escape text).toList = text.toList ∧
    (∀ encoded, IsEncoded encoded → unescape encoded = text.toList → encoded = (escape text).toList) ∧
    (∀ other, escape other = escape text → other = text) ∧
    ∀ d : Draft, ∃ notice,
      ((d.pushNotice text).slots.buffer d.slots.active).text =
        (d.slots.buffer d.slots.active).text ++ notice ∧
      notice = "<div class=\"directive-error\">".toList ++ (escape text).toList ++ "</div>".toList ∧
      notice.filter isMark = ['<', '"', '"', '>', '<', '>'] := by
  refine ⟨isEncoded_escape text, unescape_escape text, fun encoded h => h.eq_escape,
    fun other heq => escape_injective heq, fun d => ⟨Slots.notice text, ?_, rfl, Slots.filter_notice text⟩⟩
  exact d.slots.buffer_pushNotice text

example : Slots.notice "unknown 'x'" =
  "<div class=\"directive-error\">unknown &#39;x&#39;</div>".toList := by
  decide

end ContentServer

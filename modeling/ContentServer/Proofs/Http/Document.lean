import ContentServer.Http.Document
import ContentServer.Proofs.Html.Escape
import Mathlib.Data.List.Forall2

namespace ContentServer

structure Breadcrumb.Alike (a b : Breadcrumb) : Prop where
  title : a.title = b.title
  linked : a.href.isSome = b.href.isSome

def Media.Alike (a b : Media) : Prop :=
  a.caption.isSome = b.caption.isSome

/-- Slots with one text, both of them or none the default slot. -/
structure SlotAlike (s t : Settings) (a b : String × String) : Prop where
  text : a.2 = b.2
  main : a.1 = s.defaultSlot ↔ b.1 = t.defaultSlot

/-- Texts of a page whose slots, in the order of their names, differ in these names only. -/
def PageText.Alike (s t : Settings) : PageText → PageText → Prop
  | single a, single b => a = b
  | slots a, slots b => List.Forall₂ (SlotAlike s t) a.entries b.entries
  | _, _ => False

/-- Pages, each with the settings of its site, of which a document shows the same but for plain
text. -/
structure Page.Alike (s t : Settings) (p q : Page) : Prop where
  title : p.title = q.title
  text : PageText.Alike s t p.text q.text
  breadcrumbs : List.Forall₂ Breadcrumb.Alike p.breadcrumbs q.breadcrumbs
  authors : p.authors.length = q.authors.length
  media : List.Forall₂ Media.Alike p.media q.media
  lastModified : p.lastModified = q.lastModified
  language : p.language.isSome = q.language.isSome
  noHeader : p.noHeader = q.noHeader
  noFooter : p.noFooter = q.noFooter
  suppressHeading : p.suppressHeading = q.suppressHeading

namespace Html

theorem marks_join_map {α : Type} {r : α → α → Prop} {l m : List α} (h : List.Forall₂ r l m)
    {f : α → String} (hf : ∀ a b, r a b → marks (f a) = marks (f b)) :
    marks (String.join (l.map f)) = marks (String.join (m.map f)) := by
  rw [marks_join, marks_join]
  induction h with
  | nil => rfl
  | cons hab _ ih => rw [List.map_cons, List.map_cons, List.flatMap_cons, List.flatMap_cons,
    hf _ _ hab, ih]

theorem marks_intercalate_escape {sep : String} (hsep : marks sep = []) (texts : List String) :
    marks (sep.intercalate (texts.map escape)) = [] := by
  induction texts with
  | nil => rfl
  | cons text texts ih =>
    cases texts with
    | nil => rw [List.map_singleton, String.intercalate_singleton, marks_escape]
    | cons next texts =>
      rw [List.map_cons, List.map_cons, String.intercalate_cons_cons, marks_append, marks_append,
        marks_escape, hsep, ← List.map_cons, ih]
      rfl

end Html

open Html

namespace Page

variable {s t : Settings} {p q : Page}

theorem marks_crumbHtml {a b : Breadcrumb} (h : a.Alike b) :
    marks (crumbHtml a) = marks (crumbHtml b) := by
  obtain ⟨title, href⟩ := a
  obtain ⟨_, other⟩ := b
  obtain ⟨rfl, hlinked⟩ := h
  cases href <;> cases other <;> simp_all [crumbHtml]

theorem marks_trailHtml {trail other : List Breadcrumb}
    (h : List.Forall₂ Breadcrumb.Alike trail other) :
    marks (trailHtml trail) = marks (trailHtml other) := by
  have hcrumbs := marks_join_map h fun _ _ => marks_crumbHtml
  cases h with
  | nil => rfl
  | cons _ _ =>
    unfold trailHtml
    rw [List.isEmpty_cons, List.isEmpty_cons, if_neg Bool.false_ne_true, if_neg Bool.false_ne_true]
    simp only [marks_append, hcrumbs]

theorem marks_headHtml (h : Alike s t p q) : marks p.headHtml = marks q.headHtml := by
  have hlanguage := h.language
  cases hp : p.language <;> cases hq : q.language <;> simp_all [headHtml]

theorem marks_headerHtml (h : Alike s t p q) : marks (p.headerHtml s) = marks (q.headerHtml t) := by
  rw [headerHtml, headerHtml, h.noHeader]
  split <;> simp

theorem lookup_slots_eq {entries others : List (String × String)}
    (h : List.Forall₂ (SlotAlike s t) entries others) :
    entries.lookup s.defaultSlot = others.lookup t.defaultSlot := by
  induction h with
  | nil => rfl
  | @cons a b _ _ hab _ ih =>
    have hmain : (s.defaultSlot == a.1) = (t.defaultSlot == b.1) := by
      rw [Bool.eq_iff_iff, beq_iff_eq, beq_iff_eq, eq_comm, hab.main, eq_comm]
    rw [List.lookup_cons, List.lookup_cons, hab.text, ih, hmain]

theorem main_eq {text other : PageText} (h : PageText.Alike s t text other) :
    text.main s.defaultSlot = other.main t.defaultSlot := by
  match text, other, h with
  | .single _, .single _, h => exact h
  | .slots _, .slots _, h => exact congrArg (·.getD "") (lookup_slots_eq h)

theorem mainHtml_eq (h : Alike s t p q) : p.mainHtml s = q.mainHtml t := by
  rw [mainHtml, mainHtml, mainText, mainText, h.title, h.suppressHeading, main_eq h.text]

theorem marks_asideHtml {a b : String × String} (h : SlotAlike s t a b) :
    marks (asideHtml a) = marks (asideHtml b) := by
  unfold asideHtml
  simp only [marks_append, marks_escape, h.text]

theorem marks_asidesHtml {text other : PageText} (h : PageText.Alike s t text other) :
    marks (asidesHtml text s) = marks (asidesHtml other t) := by
  match text, other, h with
  | .single _, .single _, _ => rfl
  | .slots _, .slots _, h =>
    -- The default slot is left out on both sides, so what is left stands in the same order.
    have hrest := List.rel_filter (p := (·.1 != s.defaultSlot)) (q := (·.1 != t.defaultSlot))
      (fun _ _ hab => by simp [hab.main]) h
    rw [asidesHtml, asidesHtml]
    exact marks_join_map hrest fun _ _ => marks_asideHtml

theorem marks_figureHtml {a b : Media} (h : a.Alike b) :
    marks (figureHtml a) = marks (figureHtml b) := by
  obtain ⟨_, caption⟩ := a
  obtain ⟨_, other⟩ := b
  cases caption <;> cases other <;> unfold figureHtml <;> simp_all [Media.Alike]

theorem marks_authorsHtml {authors others : List String} (h : authors.length = others.length) :
    marks (authorsHtml authors) = marks (authorsHtml others) := by
  match authors, others, h with
  | [], [], _ => rfl
  | author :: authors, other :: others, _ =>
    have hnames (names : List String) : marks (", ".intercalate (names.map escape)) = [] :=
      marks_intercalate_escape (by decide) names
    unfold authorsHtml
    rw [List.isEmpty_cons, List.isEmpty_cons, if_neg Bool.false_ne_true, if_neg Bool.false_ne_true]
    simp only [marks_append, hnames]

theorem marks_footerHtml (h : Alike s t p q) : marks p.footerHtml = marks q.footerHtml := by
  unfold footerHtml
  rw [h.noFooter, h.lastModified]
  split
  · rfl
  · simp only [marks_append, marks_authorsHtml h.authors]

/-- Plain text is inert in documents: two pages that differ only in it have documents with the same
sequence of brackets and quotes. -/
theorem marks_document_eq (h : Alike s t p q) : marks (p.document s) = marks (q.document t) := by
  unfold document
  simp only [marks_append]
  rw [marks_headHtml h, marks_headerHtml h, marks_trailHtml h.breadcrumbs, mainHtml_eq h,
    marks_asidesHtml h.text, marks_join_map h.media fun _ _ => marks_figureHtml, marks_footerHtml h]

end Page

namespace PlainText

def page : Page where
  recordId := 1
  key := "/about"
  parameters := []
  title := "About <em>us</em>"
  browserTitle := "About us | Lectern"
  text := .slots ⟨[("sidebar", "<p>Side</p>"), ("text", "<p>Main</p>")]⟩
  breadcrumbs := [.link "Home" "/", .plain "About"]
  authors := ["Ada"]
  media := [⟨"/a.png", some "A"⟩, ⟨"/b.png", none⟩]
  lastModified := (Instant.ofFields? ⟨2024, 6, 1, by decide⟩ 12 0 0 0).get (by decide)
  language := some "de"
  noHeader := false
  noFooter := false
  suppressHeading := false
  languageLinks := false

/-- The page with markup in each of its plain texts. -/
def hostile : Page :=
  { page with
    browserTitle := "</title><script>"
    text := .slots ⟨[("\"><script>", "<p>Side</p>"), ("<main>", "<p>Main</p>")]⟩
    breadcrumbs := [.link "Home" "\" onclick='go()'", .plain "About"]
    authors := ["<b>Ada</b>"]
    media := [⟨"'\">", some "</figure>"⟩, ⟨"\"", none⟩]
    language := some "\"><body>" }

def site : Settings :=
  { defaultSlot := "<main>", projectName := "</header>" }

theorem marks_document_hostile :
    Page.Alike {} site page hostile ∧ marks (page.document {}) = marks (hostile.document site) := by
  have hslots : PageText.Alike {} site page.text hostile.text :=
    .cons ⟨rfl, by decide⟩ (.cons ⟨rfl, by decide⟩ .nil)
  have halike : Page.Alike {} site page hostile :=
    { title := rfl
      text := hslots
      breadcrumbs := .cons ⟨rfl, rfl⟩ (.cons ⟨rfl, rfl⟩ .nil)
      authors := rfl
      media := .cons rfl (.cons rfl .nil)
      lastModified := rfl
      language := rfl
      noHeader := rfl
      noFooter := rfl
      suppressHeading := rfl }
  exact ⟨halike, Page.marks_document_eq halike⟩

end PlainText

end ContentServer

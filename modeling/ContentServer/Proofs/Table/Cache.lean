import ContentServer.Proofs.Assoc
import ContentServer.Table.Directory

namespace ContentServer

/-- What happens to a directory of definitions, or is asked of it. -/
inductive TableStep where
  /-- A file is written or a directory made, whatever bore its name before. -/
  | put (name : String) (file : TableFile)
  | remove (name : String)
  | render (name : String)

abbrev Rendering := Except TableError TableOutput

def IsTableNameChar (c : Char) : Prop :=
  'A' ≤ c ∧ c ≤ 'Z' ∨ 'a' ≤ c ∧ c ≤ 'z' ∨ '0' ≤ c ∧ c ≤ '9' ∨ c = '_' ∨ c = '-'

theorem isTableName_eq_false {name : String}
    (h : name = "" ∨ ∃ c ∈ name.toList, ¬ IsTableNameChar c) : isTableName name = false := by
  obtain rfl | ⟨c, hc, hother⟩ := h
  · rfl
  · refine Bool.eq_false_iff.mpr fun hname => hother ?_
    obtain ⟨-, hall⟩ := Bool.and_eq_true_iff.mp hname
    have hchar := List.all_eq_true.mp hall c hc
    unfold Char.isAlphanum Char.isAlpha Char.isUpper Char.isLower Char.isDigit at hchar
    simp only [Bool.or_eq_true, Bool.and_eq_true, decide_eq_true_eq] at hchar
    obtain (((hupper | hlower) | hdigit) | hhyphen) | hunderscore := hchar
    · exact .inl hupper
    · exact .inr (.inl hlower)
    · exact .inr (.inr (.inl hdigit))
    · exact .inr (.inr (.inr (.inr hhyphen)))
    · exact .inr (.inr (.inr (.inl hunderscore)))

namespace TableDirectory

variable {σ : Type} {directory : TableDirectory} {name : String}

/-- What the renderings of a history give, one after another, where `render` keeps a state of its
own. -/
def renderings (render : TableDirectory → String → σ → Rendering × σ) (directory : TableDirectory)
    (s : σ) :
    List TableStep → List Rendering
  | [] => []
  | .put name file :: steps => renderings render (directory.insert name file) s steps
  | .remove name :: steps => renderings render (directory.erase name) s steps
  | .render name :: steps =>
    (render directory name s).1 :: renderings render directory (render directory name s).2 steps

def renderPlain (directory : TableDirectory) (name : String) (_ : Unit) : Rendering × Unit :=
  (directory.render name, ())

def written : List TableStep → List (String × TableFile)
  | [] => []
  | .put name file :: steps => (name, file) :: written steps
  | .remove _ :: steps => written steps
  | .render _ :: steps => written steps

def states (directory : TableDirectory) (steps : List TableStep) : List (String × TableFile) :=
  directory.entries ++ written steps

/-- Are two states with the same time the same? -/
def TimesTell (states : List (String × TableFile)) : Prop :=
  ∀ s ∈ states, ∀ t ∈ states, s.1 = t.1 → s.2.modified? = t.2.modified? → s.2 = t.2

instance (states : List (String × TableFile)) : Decidable (TimesTell states) :=
  inferInstanceAs (Decidable (∀ s ∈ states, ∀ t ∈ states, _))

theorem states_insert_subset (directory : TableDirectory) (name : String) (file : TableFile)
    (steps : List TableStep) :
    states (directory.insert name file) steps ⊆ states directory (.put name file :: steps) := by
  intro s hs
  obtain hs | hs := List.mem_append.mp hs
  · obtain rfl | hs := Assoc.mem_put hs
    · exact List.mem_append_right _ List.mem_cons_self
    · exact List.mem_append_left _ hs
  · exact List.mem_append_right _ (List.mem_cons_of_mem _ hs)

theorem states_erase_subset (directory : TableDirectory) (name : String) (steps : List TableStep) :
    states (directory.erase name) steps ⊆ states directory (.remove name :: steps) := by
  intro s hs
  obtain hs | hs := List.mem_append.mp hs
  · exact List.mem_append_left _ (List.mem_filter.mp hs).1
  · exact List.mem_append_right _ hs

def definition (directory : TableDirectory) (name : String) : Except TableError TableDefinition :=
  if isTableName name then do
    let file ← directory.find name
    file.read name
  else .error (.definitionMissing name)

theorem render_eq (directory : TableDirectory) (name : String) :
    directory.render name = (directory.definition name).map TableDefinition.output := by
  rw [render, definition]
  split
  · cases directory.find name with
    | error e => rfl
    | ok file =>
      change (file.read name >>= fun definition => pure definition.output) = (file.read name).map _
      cases file.read name <;> rfl
  · rfl

theorem mem_entries_of_find {file : TableFile} (h : directory.find name = .ok file) :
    (name, file) ∈ directory.entries := by
  rw [find] at h
  split at h
  · cases h
  · split at h
    · next found hfound =>
      obtain rfl := Except.ok.inj h
      exact Assoc.mem_of_lookup hfound
    · cases h

end TableDirectory

namespace TableCache

open TableDirectory

variable {cache : TableCache} {directory : TableDirectory} {seen : List (String × TableFile)}

/-- Does every entry hold what was read in a file that was seen under its name, with the time of
that file? -/
def Recalls (cache : TableCache) (seen : List (String × TableFile)) : Prop :=
  ∀ name modified definition, cache.get? name = some (modified, definition) →
    ∃ file, (name, file) ∈ seen ∧ file.modified? = modified ∧ file.read name = .ok definition

theorem Recalls.empty (seen : List (String × TableFile)) : Recalls ∅ seen := by
  intro name modified definition h
  cases h

theorem Recalls.erase (h : cache.Recalls seen) (name : String) :
    Recalls (cache.erase name) seen := by
  intro other modified definition hentry
  by_cases hname : other = name
  · subst hname
    rw [Assoc.get?_erase_self] at hentry
    cases hentry
  · rw [Assoc.get?_erase_of_ne _ hname] at hentry
    exact h other modified definition hentry

theorem Recalls.insert (h : cache.Recalls seen) {name : String} {file : TableFile}
    {definition : TableDefinition} (hseen : (name, file) ∈ seen)
    (hread : file.read name = .ok definition) :
    Recalls (cache.insert name (file.modified?, definition)) seen := by
  intro other modified found hentry
  obtain ⟨rfl, hfound⟩ | ⟨-, hentry⟩ := Assoc.get?_insert_eq_some_iff.mp hentry
  · obtain ⟨rfl, rfl⟩ := Prod.mk.inj hfound
    exact ⟨file, hseen, rfl, hread⟩
  · exact h other modified found hentry

theorem render_eq (cache : TableCache) (directory : TableDirectory) (name : String) :
    cache.render directory name =
      ((cache.load directory name).1.map TableDefinition.output, (cache.load directory name).2) := by
  rw [render]
  obtain ⟨_ | _, _⟩ := cache.load directory name <;> rfl

section Load

variable (hcache : cache.Recalls seen) (hseen : directory.entries ⊆ seen)

include hcache hseen

/-- What a load leaves in the cache was read in files that were seen: an entry is dropped with its
file, kept if the file cannot be read, and else made anew or still right. -/
theorem Recalls.load (name : String) : Recalls (cache.load directory name).2 seen := by
  rw [TableCache.load]
  split
  · split
    · exact hcache.erase name
    · next file hfind =>
      split
      · exact hcache
      · split
        · exact hcache
        · next definition hread => exact hcache.insert (hseen (mem_entries_of_find hfind)) hread
  · exact hcache

variable (htimes : TimesTell seen)

include htimes

theorem Recalls.read_of_fresh? {name : String} {file : TableFile} {definition : TableDefinition}
    (hfile : directory.find name = .ok file) (hfresh : cache.fresh? name file = some definition) :
    file.read name = .ok definition := by
  rw [fresh?] at hfresh
  split at hfresh
  · next modified found hentry =>
    split at hfresh
    · next htime =>
      obtain rfl := Option.some.inj hfresh
      obtain ⟨other, hother, hmodified, hread⟩ := hcache name modified found hentry
      have hsame : file = other :=
        htimes _ (hseen (mem_entries_of_find hfile)) _ hother rfl (htime.symm.trans hmodified.symm)
      rwa [hsame]
    · cases hfresh
  · cases hfresh

theorem Recalls.load_fst (name : String) :
    (cache.load directory name).1 = directory.definition name := by
  rw [TableCache.load, definition]
  split
  · cases hfind : directory.find name with
    | error e => rfl
    | ok file =>
      change _ = file.read name
      cases hfresh : cache.fresh? name file with
      | some definition =>
        simp only [hfresh]
        exact (hcache.read_of_fresh? hseen htimes hfind hfresh).symm
      | none => cases hread : file.read name <;> simp only [hfresh, hread]
  · rfl

end Load

theorem Recalls.renderings_eq (hcache : cache.Recalls seen) (htimes : TimesTell seen)
    {steps : List TableStep} (hseen : states directory steps ⊆ seen) :
    directory.renderings render cache steps = directory.renderings renderPlain () steps := by
  -- What was seen stays the same along the history; only the files and the cache change.
  induction steps generalizing directory cache with
  | nil => rfl
  | cons step steps ih =>
    cases step with
    | put name file => exact ih hcache fun s hs => hseen (states_insert_subset directory name file steps hs)
    | remove name => exact ih hcache fun s hs => hseen (states_erase_subset directory name steps hs)
    | render name =>
      have hfiles : directory.entries ⊆ seen := fun s hs => hseen (List.mem_append_left _ hs)
      rw [renderings, renderings, render_eq, hcache.load_fst hfiles htimes, renderPlain,
        TableDirectory.render_eq, ih (hcache.load hfiles name) hseen]

/-- A cache does not show, in any history of writes, removals and renderings in which no file has
two contents with one time. A name that no definition can have is refused whatever files there are,
and leaves the cache as it was. -/
theorem renderings_transparent (directory : TableDirectory) (steps : List TableStep)
    (htimes : TimesTell (states directory steps)) :
    directory.renderings render ∅ steps = directory.renderings renderPlain () steps ∧
    ∀ name, (name = "" ∨ ∃ c ∈ name.toList, ¬ IsTableNameChar c) →
      ∀ (files : TableDirectory) (cache : TableCache),
        cache.render files name = (.error (.definitionMissing name), cache) := by
  refine ⟨(Recalls.empty _).renderings_eq htimes (List.Subset.refl _),
    fun name hname files cache => ?_⟩
  rw [render_eq, TableCache.load, isTableName_eq_false hname, if_neg Bool.false_ne_true]
  rfl

end TableCache

namespace Menu

open TableDirectory

def text (title : String) : List UInt8 :=
  Text.Utf8.encodeString ("\x7b\"title\":\"" ++ title ++ "\",\"columns\":[\"Dish\"]\x7d")

/-- A file that is read, spoilt, restored, replaced by a directory with a time of its own, and
removed. -/
def history : List TableStep :=
  [.put "menu" (.file 1 (text "Menu")), .render "menu", .put "menu" (.file 2 [0xFF]), .render "menu",
    .put "menu" (.file 1 (text "Menu")), .render "menu", .put "menu" (.directory (some 3)), .render "menu",
    .put "menu" (.file 4 (text "Lunch")), .render "menu", .remove "menu", .render "menu", .render ""]

def titles (renderings : List Rendering) : List String :=
  renderings.map fun rendering =>
    match rendering with
    | .ok output => output.title
    | .error e => e.message

theorem renderings_transparent_menu :
    TimesTell (states ∅ history) ∧
    titles (renderings TableCache.render ∅ ∅ history) =
      ["Menu", "failed to read table definition 'menu': stream did not contain valid UTF-8", "Menu",
        "failed to read table definition 'menu': Is a directory (os error 21)", "Lunch",
        "table definition 'menu' not found", "table definition '' not found"] ∧
    TableCache.render ∅ "" ∅ = (.error (.definitionMissing ""), ∅) := by
  have htimes : TimesTell (states ∅ history) := by decide +kernel
  obtain ⟨hplain, hrefused⟩ := TableCache.renderings_transparent ∅ history htimes
  refine ⟨htimes, ?_, hrefused "" (.inl rfl) ∅ ∅⟩
  rw [hplain]
  decide +kernel

end Menu

end ContentServer

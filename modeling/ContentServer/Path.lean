import ContentServer.Text.Basic

namespace ContentServer

/-- How a path ends: in a separator, in the page extension, or in neither. -/
inductive SuffixForm where
  | slash
  | extension
  | bare
  deriving DecidableEq, Repr

def SuffixForm.name : SuffixForm → String
  | slash => "slash"
  | extension => "extension"
  | bare => "bare"

/-- A language tag is `xx` or `xx-yy` in lower-case ASCII letters. -/
def isLanguageTag : List Char → Bool
  | [a, b] => a.isLower && b.isLower
  | [a, b, '-', c, d] => a.isLower && b.isLower && c.isLower && d.isLower
  | _ => false

def joinSegments (segments : List String) : String :=
  "/".intercalate segments

structure RequestPath where
  segments : List String
  language : Option String
  suffix : SuffixForm
  deriving DecidableEq, Repr

namespace RequestPath

variable (extension : String)

def dotted : List Char :=
  '.' :: extension.toList

def stripLanguage? (body : List Char) : Option (List Char × String) :=
  match Text.cutLast? '.' body with
  | some (stem, tag) =>
    if isLanguageTag tag then
      (List.isSuffixOf? (dotted extension) stem).map fun base => (base, String.ofList tag)
    else none
  | none => none

def splitSuffix (body : List Char) : List Char × Option String × SuffixForm :=
  match stripLanguage? extension body with
  | some (base, tag) => (base, some tag, .extension)
  | none =>
    match List.isSuffixOf? (dotted extension) body with
    | some base => (base, none, .extension)
    | none => (body, none, .bare)

def segmentsOf (body : List Char) : List String :=
  ((body.splitOn '/').filter (! ·.isEmpty)).map String.ofList

/-- Reads a raw path. Runs of separators count as one, and an empty path is the site root. -/
def parse (raw : String) : RequestPath :=
  let body := raw.toList.dropWhile (· == '/')
  if body.isEmpty || body.getLast? == some '/' then
    ⟨segmentsOf body, none, .slash⟩
  else
    let (base, language, suffix) := splitSuffix extension body
    ⟨segmentsOf base, language, suffix⟩

def isRoot (path : RequestPath) : Bool :=
  path.segments.isEmpty

def key (path : RequestPath) : String :=
  "/" ++ joinSegments path.segments

theorem mem_segmentsOf {body : List Char} {s : String} (h : s ∈ segmentsOf body) :
    s ≠ "" ∧ '/' ∉ s.toList := by
  obtain ⟨piece, hp, rfl⟩ := List.mem_map.mp h
  obtain ⟨hmem, hne⟩ := List.mem_filter.mp hp
  refine ⟨fun he => ?_, by simpa using Text.notMem_of_mem_splitOn hmem⟩
  have hnil : piece = [] := by simpa using congrArg String.toList he
  simp [hnil] at hne

theorem mem_segments_parse {raw s : String} (h : s ∈ (parse extension raw).segments) :
    s ≠ "" ∧ '/' ∉ s.toList := by
  simp only [parse] at h
  split at h
  · exact mem_segmentsOf h
  · exact mem_segmentsOf h

end RequestPath

end ContentServer

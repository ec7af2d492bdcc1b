import ContentServer.Http.Access
import ContentServer.Proofs.Text.Percent

namespace ContentServer.Http

/-- May a header value be read: is it visible ASCII, with blanks and tabs? -/
def IsReadable (value : String) : Prop :=
  ∀ c ∈ value.toList, c = '\t' ∨ 0x20 ≤ c.toNat ∧ c.toNat < 0x7F

theorem Headers.text?_eq_some_iff {headers : Headers} {name value : String} :
    headers.text? name = some value ↔ headers.lookup name = some value ∧ IsReadable value := by
  rw [text?, Option.filter_eq_some_iff]
  refine and_congr_right fun _ => ?_
  simp only [isHeaderValue, Bool.and_eq_true, List.all_eq_true, Bool.or_eq_true, decide_eq_true_eq,
    ← forall₂_and, IsReadable]
  refine forall₂_congr fun c _ => ⟨?_, ?_⟩
  · rintro ⟨rfl | ⟨hmin, hdelete⟩, hmax⟩
    · exact .inl rfl
    · exact .inr ⟨hmin, by omega⟩
  · rintro (rfl | ⟨hmin, hmax⟩)
    · decide
    · exact ⟨.inr ⟨hmin, by omega⟩, by omega⟩

namespace Preview

variable {headers : Headers} {token : String}

theorem isGranted_of_text?_eq_some {value : String} (h : headers.text? headerName = some value)
    (query : Option String) : isGranted headers query (some token) ↔ value = token := by
  simp [isGranted, presented?, h]

theorem isGranted_of_text?_eq_none (h : headers.text? headerName = none)
    (pairs : List (String × String)) :
    isGranted headers (some (Text.Percent.writeForm pairs)) (some token) ↔
      pairs.lookup parameterName = some token := by
  simp [isGranted, presented?, h, Text.Percent.formPairs_writeForm]

/-- A header that can be read decides alone. Without one, the first parameter of the name does,
whatever it holds and wherever it stands in the query. Where no token is set, nobody is let
through. -/
theorem isGranted_iff (headers : Headers) (token : String) :
    (∀ value, headers.lookup headerName = some value → IsReadable value →
        ∀ query, isGranted headers query (some token) ↔ value = token) ∧
      ((∀ value, headers.lookup headerName = some value → ¬ IsReadable value) →
        ∀ before presented after, (∀ pair ∈ before, pair.1 ≠ parameterName) →
          (isGranted headers (some (Text.Percent.writeForm (before ++ (parameterName, presented) :: after)))
              (some token) ↔ presented = token)) ∧
      ∀ query, isGranted headers query none = false := by
  refine ⟨fun value hvalue hreadable query => ?_, fun hunread before presented after hbefore => ?_,
    fun _ => rfl⟩
  · exact isGranted_of_text?_eq_some (Headers.text?_eq_some_iff.mpr ⟨hvalue, hreadable⟩) query
  · have hnone : headers.text? headerName = none := by
      refine Option.eq_none_iff_forall_ne_some.mpr fun value hvalue => ?_
      obtain ⟨hfound, hreadable⟩ := Headers.text?_eq_some_iff.mp hvalue
      exact hunread value hfound hreadable
    have hmissed : before.lookup parameterName = none :=
      List.lookup_eq_none_iff.mpr fun pair hpair => by simpa using (hbefore pair hpair).symm
    rw [isGranted_of_text?_eq_none hnone, List.lookup_append, hmissed]
    simp

def query (presented : String) : String :=
  Text.Percent.writeForm [("q", "preview=1&"), (parameterName, presented), (parameterName, "late")]

/-- The token is read from the query past a header that is not ASCII, and not past one that is. -/
theorem isGranted_unreadable :
    ¬ IsReadable "schlüssel" ∧ IsReadable "other" ∧
      isGranted [(headerName, "schlüssel")] (some (query "a b+ü%")) (some "a b+ü%") = true ∧
      isGranted [(headerName, "other")] (some (query "a b+ü%")) (some "a b+ü%") = false := by
  have hunread : ¬ IsReadable "schlüssel" := by simp [IsReadable]
  have hread : IsReadable "other" := by simp [IsReadable]
  obtain ⟨-, hquery, -⟩ := isGranted_iff [(headerName, "schlüssel")] "a b+ü%"
  obtain ⟨hheader, -, -⟩ := isGranted_iff [(headerName, "other")] "a b+ü%"
  refine ⟨hunread, hread, ?_, ?_⟩
  · refine (hquery ?_ [("q", "preview=1&")] "a b+ü%" [(parameterName, "late")] ?_).mpr rfl
    · rintro value ⟨⟩
      exact hunread
    · simp [parameterName]
  · rw [← Bool.not_eq_true, hheader "other" rfl hread]
    decide

end Preview

end ContentServer.Http

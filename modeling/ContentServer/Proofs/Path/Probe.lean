import ContentServer.Proofs.Lookup
import ContentServer.Proofs.Path.Decomposition

namespace ContentServer

/-- A kind of query to ask about one decomposition after another, until an answer is read as a
result. -/
structure Probe (α : Type) where
  query : Decomposition → Query
  miss : (d : Decomposition) → (query d).Answer
  read : (d : Decomposition) → (query d).Answer → Option α
  otherwise : α
  read_eq_none : ∀ d found, read d found = none ↔ found = miss d
  read_ne_otherwise : ∀ d found, read d found ≠ some otherwise

namespace Probe

variable {α σ : Type} (p : Probe α)

def search : List Decomposition → Lookup α
  | [] => return p.otherwise
  | d :: ds => do
    match p.read d (← Lookup.query (p.query d)) with
    | some a => return a
    | none => search ds

def reply (d : Decomposition) (found : Except StoreError (p.query d).Answer) : Lookup.Reply :=
  ⟨p.query d, found⟩

def missed (d : Decomposition) : Lookup.Reply :=
  p.reply d (.ok (p.miss d))

/-- A search asks for nothing after a query that is no miss, and ends in what is found there. -/
theorem search_cases (answer : (q : Query) → σ → Except StoreError q.Answer × σ)
    (ds : List Decomposition) (s : σ) :
    ((p.search ds).replies answer s = ds.map p.missed ∧
      ((p.search ds).run answer s).1 = .ok p.otherwise) ∨
    ∃ before d later found, ds = before ++ d :: later ∧ found ≠ .ok (p.miss d) ∧
      (p.search ds).replies answer s = before.map p.missed ++ [p.reply d found] ∧
      ((p.search ds).run answer s).1 =
        found.map fun found => (p.read d found).getD p.otherwise := by
  induction ds generalizing s with
  | nil => exact .inl ⟨rfl, rfl⟩
  | cons d ds ih =>
    rw [search, Lookup.replies_query_bind, Lookup.run_query_bind]
    obtain ⟨e | found, t⟩ := answer (p.query d) s
    · exact .inr ⟨[], d, ds, .error e, rfl, by simp, rfl, rfl⟩
    · cases hread : p.read d found with
      | some a =>
        have hfound : found ≠ p.miss d := fun h => by simp [(p.read_eq_none d found).mpr h] at hread
        refine .inr ⟨[], d, ds, .ok found, rfl, by simpa using hfound, ?_, ?_⟩
        · simp only [hread]
          rfl
        · simp only [hread, Except.map, Option.getD_some]
          rfl
      | none =>
        obtain rfl := (p.read_eq_none d found).mp hread
        simp only [hread]
        obtain ⟨hreplies, hrun⟩ | ⟨before, e, later, found, rfl, hfound, hreplies, hrun⟩ := ih t
        · exact .inl ⟨congrArg (_ :: ·) hreplies, hrun⟩
        · exact .inr ⟨d :: before, e, later, found, rfl, hfound, congrArg (_ :: ·) hreplies, hrun⟩

/-- On a store that asking does not change, a search finds nothing if and only if all that it might
ask for is missing. -/
theorem search_eq_otherwise_iff {answer : (q : Query) → σ → Except StoreError q.Answer × σ}
    (h : Lookup.Steady answer) (ds : List Decomposition) (s : σ) :
    ((p.search ds).run answer s).1 = .ok p.otherwise ↔
      ∀ d ∈ ds, (answer (p.query d) s).1 = .ok (p.miss d) := by
  induction ds generalizing s with
  | nil => exact iff_of_true rfl (by simp)
  | cons d ds ih =>
    have hsteady := fun r => h (p.query d) r s
    rw [search, Lookup.run_query_bind, List.forall_mem_cons]
    generalize answer (p.query d) s = told at hsteady
    obtain ⟨e | found, t⟩ := told
    · exact iff_of_false (by rintro ⟨⟩) fun hall => by cases hall.1
    · cases hread : p.read d found with
      | some a =>
        have hfound : found ≠ p.miss d := fun h => by simp [(p.read_eq_none d found).mpr h] at hread
        simp only [hread]
        refine iff_of_false ?_ fun hall => hfound (Except.ok.inj hall.1)
        rintro ⟨⟩
        exact p.read_ne_otherwise d found hread
      | none =>
        obtain rfl := (p.read_eq_none d found).mp hread
        simp only [hread, ih t, hsteady, true_and]

theorem replies_of_eq_otherwise {answer : (q : Query) → σ → Except StoreError q.Answer × σ}
    {ds : List Decomposition} {s : σ} (h : ((p.search ds).run answer s).1 = .ok p.otherwise) :
    (p.search ds).replies answer s = ds.map p.missed := by
  obtain ⟨hreplies, -⟩ | ⟨before, d, later, found, -, hfound, -, hrun⟩ := p.search_cases answer ds s
  · exact hreplies
  · rw [h] at hrun
    cases found with
    | error e => cases hrun
    | ok found =>
      have hread : p.otherwise = (p.read d found).getD p.otherwise := Except.ok.inj hrun
      cases hmiss : p.read d found with
      | none => exact absurd (congrArg Except.ok ((p.read_eq_none d found).mp hmiss)) hfound
      | some a =>
        rw [hmiss, Option.getD_some] at hread
        exact absurd (hmiss.trans (congrArg some hread.symm)) (p.read_ne_otherwise d found)

def record (unpublished : Bool) : Probe (Option Resolved) where
  query d := .record d.key unpublished
  miss _ := none
  read d found := found.map fun record => some ⟨record, d.captured⟩
  otherwise := none
  read_eq_none _ _ := Option.map_eq_none_iff
  read_ne_otherwise _ found := by cases found <;> simp

end Probe

end ContentServer

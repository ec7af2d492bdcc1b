import ContentServer.Proofs.Lookup

namespace ContentServer.Lookup

variable {α β σ : Type} {answer : (q : Query) → σ → Except StoreError q.Answer × σ}

def Reply.Succeeded (r : Reply) : Prop :=
  ∃ found, r.2 = .ok found

def recorded (answer : (q : Query) → σ → Except StoreError q.Answer × σ) :
    (q : Query) → σ × List Reply → Except StoreError q.Answer × σ × List Reply
  | q, (s, log) => ((answer q s).1, (answer q s).2, log ++ [⟨q, (answer q s).1⟩])

/-- Answers like a store, but fails once it has answered a number of queries. -/
def failingAfter (e : StoreError) (answer : (q : Query) → σ → Except StoreError q.Answer × σ) :
    (q : Query) → Nat × σ → Except StoreError q.Answer × Nat × σ
  | _, (0, s) => (.error e, 0, s)
  | q, (n + 1, s) => ((answer q s).1, n, (answer q s).2)

theorem run_recorded (l : Lookup α) (s : σ) (log : List Reply) :
    l.run (recorded answer) (s, log) =
      ((l.run answer s).1, (l.run answer s).2, log ++ l.replies answer s) := by
  induction l generalizing s log with
  | done result => exact congrArg (fun log => (result, s, log)) (List.append_nil log).symm
  | ask q next ih =>
    refine (ih (answer q s).1 (answer q s).2 (log ++ [⟨q, (answer q s).1⟩])).trans ?_
    rw [List.append_assoc, List.singleton_append]
    rfl

/-- A lookup that ends as soon as the store fails, in the error of the store, and in no other
error. -/
def Prompt : Lookup α → Prop
  | done result => ∃ a, result = .ok a
  | ask _ next => (∀ e, next (.error e) = done (.error e)) ∧ ∀ found, Prompt (next (.ok found))

theorem prompt_pure (a : α) : Prompt (pure a : Lookup α) :=
  ⟨a, rfl⟩

theorem prompt_query (q : Query) : Prompt (query q) :=
  ⟨fun _ => rfl, fun found => ⟨found, rfl⟩⟩

theorem Prompt.bind {l : Lookup α} {f : α → Lookup β} (hl : l.Prompt) (hf : ∀ a, (f a).Prompt) :
    (l >>= f).Prompt := by
  induction l with
  | done result =>
    obtain ⟨a, rfl⟩ := hl
    exact hf a
  | ask q next ih =>
    refine ⟨fun e => ?_, fun found => ih (.ok found) (hl.2 found)⟩
    exact congrArg (Lookup.bind · f) (hl.1 e)

/-- A prompt run ends in a result and all that it asks succeeds, or it ends in an error that the
last of its queries is answered with, and all before that one succeed. -/
theorem Prompt.run_cases {l : Lookup α} (hl : l.Prompt) (s : σ) :
    (∃ a, (l.run answer s).1 = .ok a ∧ ∀ r ∈ l.replies answer s, r.Succeeded) ∨
    ∃ e before q, (l.run answer s).1 = .error e ∧ l.replies answer s = before ++ [⟨q, .error e⟩] ∧
      ∀ r ∈ before, r.Succeeded := by
  induction l generalizing s with
  | done result =>
    obtain ⟨a, rfl⟩ := hl
    exact .inl ⟨a, rfl, List.forall_mem_nil _⟩
  | ask q next ih =>
    obtain ⟨hstops, hgoes⟩ := hl
    rw [replies, run_ask]
    obtain ⟨e | found, t⟩ := answer q s
    · refine .inr ⟨e, [], q, ?_, ?_, List.forall_mem_nil _⟩
      · rw [hstops]
        rfl
      · rw [hstops]
        rfl
    · have hfirst : Reply.Succeeded ⟨q, .ok found⟩ := ⟨found, rfl⟩
      obtain ⟨a, hrun, hall⟩ | ⟨e, before, r, hrun, hreplies, hall⟩ :=
        ih (.ok found) (hgoes found) t
      · exact .inl ⟨a, hrun, List.forall_mem_cons.mpr ⟨hfirst, hall⟩⟩
      · exact .inr ⟨e, ⟨q, .ok found⟩ :: before, r, hrun, congrArg _ hreplies,
          List.forall_mem_cons.mpr ⟨hfirst, hall⟩⟩

theorem Prompt.succeeded_of_run_eq_ok {l : Lookup α} (hl : l.Prompt) {s : σ} {a : α}
    (h : (l.run answer s).1 = .ok a) : ∀ r ∈ l.replies answer s, r.Succeeded := by
  obtain ⟨-, -, hall⟩ | ⟨e, before, q, hrun, -⟩ := hl.run_cases s
  · exact hall
  · cases h.symm.trans hrun

theorem Prompt.run_eq_error_iff {l : Lookup α} (hl : l.Prompt) (s : σ) (e : StoreError) :
    (l.run answer s).1 = .error e ↔
      ∃ before q, l.replies answer s = before ++ [⟨q, .error e⟩] ∧ ∀ r ∈ before, r.Succeeded := by
  obtain ⟨a, hrun, hall⟩ | ⟨e', before, q, hrun, hreplies, hall⟩ := hl.run_cases s
  · refine iff_of_false (by rw [hrun]; exact nofun) ?_
    rintro ⟨before, q, hreplies, -⟩
    obtain ⟨found, hfound⟩ := hall ⟨q, .error e⟩ (by rw [hreplies]; simp)
    cases hfound
  · rw [hrun, Except.error.injEq]
    constructor
    · rintro rfl
      exact ⟨before, q, hreplies, hall⟩
    · rintro ⟨before', q', hreplies', -⟩
      have hlast := congrArg List.getLast? (hreplies.symm.trans hreplies')
      rw [List.getLast?_concat, List.getLast?_concat] at hlast
      cases hlast
      rfl

theorem Prompt.exists_run_eq_error_iff {l : Lookup α} (hl : l.Prompt) (s : σ) :
    (∃ e, (l.run answer s).1 = .error e) ↔ ∃ r ∈ l.replies answer s, ¬r.Succeeded := by
  obtain ⟨a, hrun, hall⟩ | ⟨e, before, q, hrun, hreplies, -⟩ := hl.run_cases s
  · refine iff_of_false (by rw [hrun]; exact nofun) ?_
    rintro ⟨r, hr, hfails⟩
    exact hfails (hall r hr)
  · refine iff_of_true ⟨e, hrun⟩ ⟨⟨q, .error e⟩, by rw [hreplies]; simp, ?_⟩
    rintro ⟨found, hfound⟩
    cases hfound

/-- A failure of any query that a prompt run asks ends the run there. Up to it the run is the
same. -/
theorem Prompt.run_failingAfter {l : Lookup α} (hl : l.Prompt) {s : σ} {n : Nat} {r : Reply}
    (hr : (l.replies answer s)[n]? = some r) (e : StoreError) :
    (l.run (failingAfter e answer) (n, s)).1 = .error e ∧
      l.replies (failingAfter e answer) (n, s) =
        (l.replies answer s).take n ++ [⟨r.1, .error e⟩] := by
  induction l generalizing s n with
  | done result => cases hr
  | ask q next ih =>
    obtain ⟨hstops, hgoes⟩ := hl
    cases n with
    | zero =>
      obtain rfl := Option.some.inj hr
      rw [run_ask, replies, failingAfter, hstops]
      exact ⟨rfl, rfl⟩
    | succ n =>
      rw [replies, List.getElem?_cons_succ] at hr
      rw [run_ask, replies, failingAfter, replies, List.take_succ_cons]
      generalize answer q s = told at hr ⊢
      obtain ⟨e' | found, t⟩ := told
      · rw [hstops] at hr
        cases hr
      · obtain ⟨hrun, hreplies⟩ := ih (.ok found) (hgoes found) hr
        exact ⟨hrun, congrArg _ hreplies⟩

end ContentServer.Lookup

import ContentServer.Store.Basic

namespace ContentServer.Lookup

variable {α β σ : Type} {answer : (q : Query) → σ → Except StoreError q.Answer × σ}

theorem pure_bind (a : α) (f : α → Lookup β) : pure a >>= f = f a :=
  rfl

theorem bind_assoc {γ : Type} (l : Lookup α) (f : α → Lookup β) (g : β → Lookup γ) :
    l >>= f >>= g = l >>= fun a => f a >>= g := by
  induction l with
  | done result => cases result <;> rfl
  | ask q next ih => exact congrArg (ask q) (funext ih)

theorem run_ask (q : Query) (next : Except StoreError q.Answer → Lookup α) (s : σ) :
    (ask q next).run answer s = (next (answer q s).1).run answer (answer q s).2 :=
  rfl

theorem run_bind (l : Lookup α) (f : α → Lookup β) (s : σ) :
    (l >>= f).run answer s =
      match l.run answer s with
      | (.ok a, s) => (f a).run answer s
      | (.error e, s) => (.error e, s) := by
  induction l generalizing s with
  | done result => cases result <;> rfl
  | ask q next ih => exact ih (answer q s).1 (answer q s).2

theorem run_query (q : Query) (s : σ) : (query q).run answer s = answer q s :=
  rfl

theorem run_query_bind (q : Query) (f : q.Answer → Lookup α) (s : σ) :
    (query q >>= f).run answer s =
      match answer q s with
      | (.ok found, s) => (f found).run answer s
      | (.error e, s) => (.error e, s) := by
  rw [run_bind, run_query]
  obtain ⟨e | found, t⟩ := answer q s <;> rfl

theorem run_query_map (q : Query) (f : q.Answer → α) (s : σ) :
    ((query q >>= fun found => pure (f found)).run answer s).1 = (answer q s).1.map f := by
  rw [run_query_bind]
  obtain ⟨found, s⟩ := answer q s
  cases found <;> rfl

/-- Every query that a lookup may ask, whatever it is told, satisfies `p`. -/
def Asks (p : Query → Prop) : Lookup α → Prop
  | done _ => True
  | ask q next => p q ∧ ∀ told, Asks p (next told)

theorem asks_query {p : Query → Prop} {q : Query} (h : p q) : Asks p (query q) :=
  ⟨h, fun _ => trivial⟩

theorem Asks.bind {p : Query → Prop} {l : Lookup α} {f : α → Lookup β} (hl : l.Asks p)
    (hf : ∀ a, (f a).Asks p) : (l >>= f).Asks p := by
  induction l with
  | done result =>
    cases result with
    | ok a => exact hf a
    | error e => exact trivial
  | ask q next ih => exact ⟨hl.1, fun told => ih told (hl.2 told)⟩

theorem Asks.mono {p r : Query → Prop} (hpr : ∀ q, p q → r q) {l : Lookup α} (hl : l.Asks p) :
    l.Asks r := by
  induction l with
  | done result => exact trivial
  | ask q next ih => exact ⟨hpr q hl.1, fun told => ih told (hl.2 told)⟩

abbrev Reply :=
  (q : Query) × Except StoreError q.Answer

/-- All that a run asks, in order, and what it is told. -/
def replies (answer : (q : Query) → σ → Except StoreError q.Answer × σ) : Lookup α → σ → List Reply
  | done _, _ => []
  | ask q next, s => ⟨q, (answer q s).1⟩ :: replies answer (next (answer q s).1) (answer q s).2

theorem replies_bind (l : Lookup α) (f : α → Lookup β) (s : σ) :
    (l >>= f).replies answer s = l.replies answer s ++
      match l.run answer s with
      | (.ok a, s) => (f a).replies answer s
      | (.error _, _) => [] := by
  induction l generalizing s with
  | done result => cases result <;> rfl
  | ask q next ih => exact congrArg (⟨q, (answer q s).1⟩ :: ·) (ih (answer q s).1 (answer q s).2)

theorem replies_query_bind (q : Query) (f : q.Answer → Lookup α) (s : σ) :
    (query q >>= f).replies answer s =
      match answer q s with
      | (.ok found, s) => ⟨q, .ok found⟩ :: (f found).replies answer s
      | (.error e, _) => [⟨q, .error e⟩] := by
  have hreplies : (query q).replies answer s = [⟨q, (answer q s).1⟩] := rfl
  rw [replies_bind, run_query, hreplies]
  obtain ⟨e | found, t⟩ := answer q s <;> rfl

/-- Asking a store changes none of its answers. -/
def Steady (answer : (q : Query) → σ → Except StoreError q.Answer × σ) : Prop :=
  ∀ q r s, (answer r (answer q s).2).1 = (answer r s).1

theorem Steady.run (h : Steady answer) (l : Lookup α) (r : Query) (s : σ) :
    (answer r (l.run answer s).2).1 = (answer r s).1 := by
  induction l generalizing s with
  | done result => rfl
  | ask q next ih => exact (ih (answer q s).1 (answer q s).2).trans (h q r s)

/-- A lookup of queries that two steady stores answer alike ends alike on both. -/
theorem Steady.run_eq {τ : Type} {answer' : (q : Query) → τ → Except StoreError q.Answer × τ}
    (h : Steady answer) (h' : Steady answer') {p : Query → Prop} {l : Lookup α} (hl : l.Asks p)
    {s : σ} {t : τ} (heq : ∀ q, p q → (answer q s).1 = (answer' q t).1) :
    (l.run answer s).1 = (l.run answer' t).1 := by
  induction l generalizing s t with
  | done result => rfl
  | ask q next ih =>
    have hrest : ∀ r, p r → (answer r (answer q s).2).1 = (answer' r (answer' q t).2).1 := by
      intro r hr
      rw [h q r s, h' q r t, heq r hr]
    have htold : next (answer q s).1 = next (answer' q t).1 := congrArg next (heq q hl.1)
    rw [run_ask, run_ask, ← htold]
    exact ih _ (hl.2 _) hrest

/-- Whatever it is told, a lookup that comes to a result comes to one that satisfies `p`. -/
def Ends (p : α → Prop) : Lookup α → Prop
  | done result => ∀ a, result = .ok a → p a
  | ask _ next => ∀ told, Ends p (next told)

theorem ends_pure {p : α → Prop} {a : α} (h : p a) : Ends p (pure a : Lookup α) := by
  rintro _ ⟨⟩
  exact h

theorem Ends.bind {p : α → Prop} {r : β → Prop} {l : Lookup α} {f : α → Lookup β} (hl : l.Ends p)
    (hf : ∀ a, p a → (f a).Ends r) : (l >>= f).Ends r := by
  induction l with
  | done result =>
    cases result with
    | ok a => exact hf a (hl a rfl)
    | error e => exact nofun
  | ask q next ih => exact fun told => ih told (hl told)

theorem ends_true (l : Lookup α) : l.Ends fun _ => True := by
  induction l with
  | done result => exact fun _ _ => trivial
  | ask q next ih => exact ih

theorem Ends.run {p : α → Prop} {l : Lookup α} (hl : l.Ends p) {s : σ} {a : α}
    (h : (l.run answer s).1 = .ok a) : p a := by
  induction l generalizing s with
  | done result => exact hl a h
  | ask q next ih => exact ih _ (hl _) h

end ContentServer.Lookup

namespace ContentServer.Store

theorem answer_memory (s : MemoryStore) (q : Query) :
    ((memory s).answer q).1 =
      if s.offline then .error MemoryStore.offlineError else .ok (s.find q) := rfl

theorem steady_answer : Lookup.Steady answer := by
  intro q r s
  cases s with
  | memory s =>
    cases r <;> simp only [answer, MemoryStore.answer, MemoryStore.log, Prod.map] <;> split <;> rfl
  | relational s => rfl

end ContentServer.Store

import ContentServer.Proofs.Hierarchy.Walk
import ContentServer.Proofs.Store.Agreement

namespace ContentServer

namespace Store

/-- What the store has under ids: the entry that is found first under an id counts. -/
def hierarchy : Store → List HierarchyEntry
  | memory s => s.entries
  | relational s => s.hierarchy

def IsReady : Store → Prop
  | memory s => s.offline = false
  | relational s => s.pages.isSome

instance : DecidablePred IsReady
  | memory s => inferInstanceAs (Decidable (s.offline = false))
  | relational s => inferInstanceAs (Decidable (s.pages.isSome = true))

variable {s : Store}

theorem answer_ancestors (h : s.IsReady) (id : RecordId) :
    (s.answer (.ancestors id)).1 = .ok (Hierarchy.ancestors s.hierarchy id) := by
  cases s with
  | memory s =>
    rw [answer_memory, if_neg (by simpa [IsReady] using h)]
    rfl
  | relational s =>
    obtain ⟨pages, hpages⟩ := Option.isSome_iff_exists.mp h
    change s.findAncestors id = .ok (Hierarchy.ancestors s.hierarchy id)
    rw [RelationalStore.findAncestors, RelationalStore.hierarchy, hpages]

open Hierarchy

/-- A store lists what a walk along the parents of a record meets, each entry once. In whatever
order the entries come, the trail of the record is refused if and only if the walk comes back to a
record, for the first one that it comes back to; else it is made of the whole lineage, from the
topmost entry down. -/
theorem ancestors_trail (h : s.IsReady) (id : RecordId) :
    ∃ listed, (s.answer (.ancestors id)).1 = .ok listed ∧
      (listed.map HierarchyEntry.id).Nodup ∧
      (∀ e, e ∈ listed ↔ ∃ n, (walk s.hierarchy id n).bind (find? s.hierarchy) = some e) ∧
      ∀ presented, presented.Perm listed →
        ((∃ cycle, trail presented id = .error cycle) ↔ Revisits s.hierarchy id) ∧
        (∀ again, trail presented id = .error ⟨again⟩ ↔ FirstRevisit s.hierarchy id again) ∧
        ∀ crumbs, trail presented id = .ok crumbs ↔
          ∃ chain, Lineage s.hierarchy (some id) chain ∧
            crumbs = (chain.map fun e => .link e.title e.key).reverse := by
  refine ⟨_, answer_ancestors h id, (nodup_climb [] (some id)).1, fun e => mem_ancestors_iff_walk,
    fun presented hperm => ?_⟩
  have hclimb : climb presented.reverse [] (some id) = climb s.hierarchy [] (some id) :=
    climb_of_perm ((List.reverse_perm presented).trans hperm)
  have herror :
      ∀ again, trail presented id = .error ⟨again⟩ ↔ FirstRevisit s.hierarchy id again := by
    intro again
    rw [trail_eq_error_iff, hclimb, climb_snd_eq_some_iff]
  refine ⟨?_, herror, fun crumbs => ?_⟩
  · rw [← climb_snd_ne_none_iff, Option.ne_none_iff_exists']
    constructor
    · rintro ⟨⟨again⟩, hagain⟩
      exact ⟨again, (climb_snd_eq_some_iff _ _).mpr ((herror again).mp hagain)⟩
    · rintro ⟨again, hagain⟩
      exact ⟨⟨again⟩, (herror again).mpr ((climb_snd_eq_some_iff _ _).mp hagain)⟩
  · simp only [trail_eq_ok_iff, hclimb, climb_eq_iff]

end Store

namespace Family

open Visibility (guide)

def page (id : RecordId) (parent : Option RecordId) (key : String) : Record :=
  { guide with id, parent, key, title := key }

/-- The parents of `/a` lead to `/b` and `/c`, which are each other's parents. Above `/d` there is
one page, whose parent is missing. -/
def pages : List Record :=
  [page 1 (some 2) "/a", page 2 (some 3) "/b", page 3 (some 2) "/c", page 4 (some 5) "/d",
    page 5 (some 9) "/e"]

def store : Store :=
  (Store.putAll Store.putRecord pages (.relational .fresh)).2

def listed (id : RecordId) : Except StoreError (List HierarchyEntry) :=
  (store.answer (.ancestors id)).1

theorem ancestors_trail_pages :
    store.IsReady ∧
    listed 1 = .ok [⟨1, some 2, "/a", "/a"⟩, ⟨2, some 3, "/b", "/b"⟩, ⟨3, some 2, "/c", "/c"⟩] ∧
    Hierarchy.trail [⟨3, some 2, "/c", "/c"⟩, ⟨1, some 2, "/a", "/a"⟩, ⟨2, some 3, "/b", "/b"⟩] 1 =
      .error ⟨2⟩ ∧
    listed 4 = .ok [⟨4, some 5, "/d", "/d"⟩, ⟨5, some 9, "/e", "/e"⟩] ∧
    Hierarchy.trail [⟨5, some 9, "/e", "/e"⟩, ⟨4, some 5, "/d", "/d"⟩] 4 =
      .ok [.link "/e" "/e", .link "/d" "/d"] := by
  have hready : store.IsReady := by decide +kernel
  have hcyclic : listed 1 =
      .ok [⟨1, some 2, "/a", "/a"⟩, ⟨2, some 3, "/b", "/b"⟩, ⟨3, some 2, "/c", "/c"⟩] := by decide +kernel
  have hplain : listed 4 = .ok [⟨4, some 5, "/d", "/d"⟩, ⟨5, some 9, "/e", "/e"⟩] := by
    decide +kernel
  obtain ⟨_, hlisted, -, -, hback⟩ := Store.ancestors_trail hready 1
  obtain rfl := Except.ok.inj (hcyclic.symm.trans hlisted)
  obtain ⟨_, hlisted, -, -, hends⟩ := Store.ancestors_trail hready 4
  obtain rfl := Except.ok.inj (hplain.symm.trans hlisted)
  refine ⟨hready, hcyclic, ?_, hplain, ?_⟩
  · refine ((hback _ (by decide)).2.1 2).mpr ⟨3, by decide +kernel,
      ⟨1, by decide, by decide +kernel⟩, ?_⟩
    decide +kernel
  · refine ((hends _ (by decide)).2.2 _).mpr ⟨[⟨4, some 5, "/d", "/d"⟩, ⟨5, some 9, "/e", "/e"⟩],
      ?_, rfl⟩
    exact .child (by decide +kernel) (.child (by decide +kernel) (.missing (by decide +kernel)))

end Family

end ContentServer

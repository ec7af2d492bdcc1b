import ContentServer.Document.Seed
import ContentServer.Proofs.Json.Values
import ContentServer.Proofs.Time.Relaxed

namespace ContentServer

open Json

namespace Json

theorem readsBack_policy (policy : CanonicalPolicy) :
    ReadsBack .policy (.text policy.documentName) policy := by
  intro rest hrest
  have hname := readsBack_string policy.documentName rest hrest
  rw [write, quote, List.cons_append, List.cons_append] at hname ⊢
  refine (Reader.reads_peekNonblank rfl _).bind (hname.bind ?_)
  rw [Reader.policyOf, CanonicalPolicy.ofDocumentName?_documentName]
  exact .pure _ _

theorem readsBack_disposition (d : Disposition) : ReadsBack .disposition (.int d.code.toNat) d := by
  intro rest hrest
  refine (readsBack_uint16 d.code rest hrest).bind ?_
  rw [Disposition.ofCode?_code]
  exact .pure _ _

theorem readsBack_instant (t : Instant) : ReadsBack .instant (.text t.zuluText) t := by
  intro rest hrest
  refine (readsBack_string t.zuluText rest hrest).bind ?_
  rw [Time.Relaxed.instant?_zuluText]
  exact .pure _ _

end Json

theorem Record.readsBack (now : Instant) (r : Record) : ReadsBack (reader now) r.toJson r := by
  refine readsBack_struct (s := ⟨some r.id, some r.key, some r.parent, some r.title, some r.content,
    some r.canonical, some r.published, some r.author, some r.lastModified⟩) ?_ rfl
  refine .field rfl rfl ((readsBack_int64 r.id).map _) ?_
  refine .field rfl rfl ((readsBack_string r.key).map _) ?_
  refine .field rfl rfl ((readsBack_nullable readsBack_int64 nofun).map _) ?_
  refine .field rfl rfl ((readsBack_string r.title).map _) ?_
  refine .field rfl rfl ((readsBack_string r.content).map _) ?_
  refine .field rfl rfl ((readsBack_policy r.canonical).map _) ?_
  refine .field rfl rfl ((readsBack_bool r.published).map _) ?_
  refine .field rfl rfl ((readsBack_nullable readsBack_string nofun).map _) ?_
  refine .field rfl rfl ((readsBack_instant r.lastModified).map _) ?_
  exact .nil _

theorem RedirectRule.readsBack (r : RedirectRule) : ReadsBack reader r.toJson r := by
  refine readsBack_struct (s := ⟨some r.source, some r.target, some r.disposition⟩) ?_ rfl
  refine .field rfl rfl ((readsBack_string r.source).map _) ?_
  refine .field rfl rfl ((readsBack_string r.target).map _) ?_
  refine .field rfl rfl ((readsBack_disposition r.disposition).map _) ?_
  exact .nil _

namespace Seed

theorem readsBack (now : Instant) (seed : Seed) : ReadsBack (reader now) seed.toJson seed := by
  refine readsBack_struct (s := ⟨some seed.records, some seed.redirects⟩) ?_ rfl
  refine .field rfl rfl ((readsBack_list fun r _ => r.readsBack now).map _) ?_
  refine .field rfl rfl ((readsBack_list fun r _ => r.readsBack).map _) ?_
  exact .nil _

/-- A document is read back from its text, whenever that is. So reading a text, writing what was
read, and reading it once more comes to the same as reading the text. -/
theorem parse_print (now : Instant) :
    (∀ seed : Seed, parse now seed.print = .ok seed) ∧
      ∀ earlier text,
        (parse earlier text).bind (fun seed => parse now seed.print) = parse earlier text := by
  have hprint : ∀ seed : Seed, parse now seed.print = .ok seed := by
    intro seed
    refine Reader.Reads.read_eq ?_
    have hread := seed.readsBack now [] nofun
    rw [List.append_nil] at hread
    rwa [print, Json.print, String.toList_ofList]
  refine ⟨hprint, fun earlier text => ?_⟩
  cases parse earlier text with
  | error fault => rfl
  | ok seed => exact hprint seed

example : print ⟨[], [⟨"/old", "/new", .permanent⟩]⟩ =
    "\x7b\"records\":[],\"redirects\":[\x7b\"source\":\"/old\",\"target\":\"/new\",\"code\":301\x7d]\x7d" := by
  decide +kernel

end Seed

end ContentServer

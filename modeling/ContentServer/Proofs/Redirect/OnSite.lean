import ContentServer.Proofs.Engine.Precedence
import Mathlib.Data.List.DropRight

namespace ContentServer

namespace Url

def lead (text : List Char) : List Char :=
  (text.dropWhile fun c => c.toNat ≤ 0x20).filter fun c => c != '\t' && c != '\n' && c != '\r'

/-- Can a text go on to be an absolute URL? It must begin with a letter, if at all, and its first
character that is not of a scheme must be a colon, if there is one. -/
def MayOpen (text : List Char) : Prop :=
  (lead text).head?.all Char.isAlpha ∧ ((lead text).dropWhile isSchemeChar).head?.all (· == ':')

instance (text : List Char) : Decidable (MayOpen text) :=
  inferInstanceAs (Decidable (_ ∧ _))

theorem clean_prefix_lead (text : List Char) : clean text <+: lead text :=
  (List.rdropWhile_prefix (fun c : Char => c.toNat ≤ 0x20) _).filter _

theorem lead_prefix_lead_append (text more : List Char) : lead text <+: lead (text ++ more) := by
  rw [lead, lead, List.dropWhile_append]
  split
  · next hblank =>
    rw [List.isEmpty_iff.mp hblank]
    exact List.nil_prefix
  · rw [List.filter_append]
    exact List.prefix_append _ _

theorem prefix_head?_dropWhile_eq_some {p : Char → Bool} {l m : List Char} {c : Char} (h : l <+: m)
    (hc : (l.dropWhile p).head? = some c) : (m.dropWhile p).head? = some c := by
  obtain ⟨more, rfl⟩ := h
  obtain ⟨rest, hrest⟩ := List.head?_eq_some_iff.mp hc
  rw [List.dropWhile_append, hrest]
  rfl

theorem prefix_head?_eq_some {l m : List Char} {c : Char} (h : l <+: m) (hc : l.head? = some c) :
    m.head? = some c := by
  obtain ⟨more, rfl⟩ := h
  rw [List.head?_append, hc, Option.some_or]

theorem splitScheme?_eq_some {text rest : List Char} {scheme : String}
    (h : splitScheme? text = some (scheme, rest)) :
    (text.dropWhile isSchemeChar).head? = some ':' ∧ ∃ c, text.head? = some c ∧ c.isAlpha := by
  unfold splitScheme? at h
  split at h
  · next hcolon =>
    refine ⟨by rw [hcolon, List.head?_cons], ?_⟩
    split at h
    · next halpha =>
      cases hhead : text.head? with
      | none => rw [hhead] at halpha; cases halpha
      | some c => exact ⟨c, rfl, by rwa [hhead] at halpha⟩
    · cases h
  · cases h

theorem mayOpen_of_isAbsolute_append {idna : Idna} {text more : List Char}
    (h : isAbsolute idna (String.ofList (text ++ more))) : MayOpen text := by
  obtain ⟨_, hscheme⟩ := Option.isSome_iff_exists.mp h
  unfold scheme? at hscheme
  rw [String.toList_ofList] at hscheme
  split at hscheme
  · next scheme rest hsplit =>
    obtain ⟨hcolon, first, hfirst, halpha⟩ := splitScheme?_eq_some hsplit
    have hclean := clean_prefix_lead (text ++ more)
    have hlead := lead_prefix_lead_append text more
    constructor
    · refine (Option.all_eq_true _ _).mpr fun c hc => ?_
      have hhead := (prefix_head?_eq_some hlead hc).symm.trans (prefix_head?_eq_some hclean hfirst)
      rw [Option.some.inj hhead]
      exact halpha
    · refine (Option.all_eq_true _ _).mpr fun c hc => ?_
      have hhead := (prefix_head?_dropWhile_eq_some hlead hc).symm.trans
        (prefix_head?_dropWhile_eq_some hclean hcolon)
      rw [Option.some.inj hhead]
      rfl
  · cases hscheme

end Url

/-- Does a location lie on the site of an origin? -/
def OnSite (origin location : String) : Prop :=
  (trimOrigin origin ++ "/").toList <+: location.toList

instance (origin location : String) : Decidable (OnSite origin location) :=
  inferInstanceAs (Decidable (_ <+: _))

theorem onSite_absoluteLocation {idna : Url.Idna} {target : String}
    (h : Url.isAbsolute idna target = false) (origin : String) :
    OnSite origin (absoluteLocation idna target origin) := by
  rw [OnSite, absoluteLocation, h, String.toList_append]
  split
  · cases ‹false = true›
  · split
    · next hslash =>
      obtain ⟨rest, hrest⟩ := List.head?_eq_some_iff.mp hslash
      refine ⟨rest, ?_⟩
      rw [String.toList_append, hrest, List.append_assoc]
      rfl
    · rw [String.toList_append, String.toList_append]
      exact List.prefix_append _ _

theorem onSite_absoluteLocation_iff (idna : Url.Idna) (target origin : String) :
    OnSite origin (absoluteLocation idna target origin) ↔
      (Url.isAbsolute idna target → OnSite origin target) := by
  cases habsolute : Url.isAbsolute idna target with
  | false => exact iff_of_true (onSite_absoluteLocation habsolute origin) fun h => by cases h
  | true => rw [absoluteLocation, habsolute, if_pos rfl]; exact ⟨fun h _ => h, fun h => h rfl⟩

/-- A target becomes an absolute URL only through a star, and if the text before it is the beginning
of one. -/
theorem RedirectRule.mayOpen_of_isAbsolute_targetFor {idna : Url.Idna} {rule : RedirectRule}
    {parameters : List String} (hrelative : Url.isAbsolute idna rule.target = false)
    (habsolute : Url.isAbsolute idna (rule.targetFor parameters)) :
    rule.isWildcard ∧ ContentServer.isWildcard rule.target ∧
      Url.MayOpen rule.target.toList.dropLast := by
  rw [targetFor] at habsolute
  split at habsolute
  · next hstars =>
    rw [Bool.and_eq_true] at hstars
    rw [← String.ofList_toList (s := "/".intercalate parameters),
      ← String.ofList_append] at habsolute
    exact ⟨hstars.1, hstars.2, Url.mayOpen_of_isAbsolute_append habsolute⟩
  · rw [hrelative] at habsolute
    cases habsolute

namespace Engine

variable {engine : Engine} {request : PageRequest} {σ : Type}
  {answer : (q : Query) → σ → Except StoreError q.Answer × σ} {s : σ}

theorem emission_of_rule {rule : RedirectRule} {parameters : List String} {emission : RedirectEmission}
    (hrule : ((RedirectDecision.resolve (engine.pathOf request) engine.settings.extension .notFound
      engine.settings.maxRedirectProbes.toNat).run answer s).1 = .ok (.rule rule parameters))
    (hredirect : ((engine.redirectOutcome request (engine.pathOf request)).run answer s).1 =
      .ok (.redirect emission)) :
    emission =
      .to engine.interpreter.idna rule.disposition (rule.targetFor parameters) request.origin := by
  rw [redirectOutcome, Lookup.run_bind_of_ok (Prod.ext hrule rfl)] at hredirect
  split at hredirect
  · next htarget =>
    obtain rfl := Option.some.inj htarget
    split at hredirect
    · exact (Outcome.redirect.inj (Except.ok.inj hredirect)).symm
    · cases hredirect
  · cases hredirect

/-- A request that no record decides is matched by a rule whose target is no absolute URL. It is
sent off the site if and only if what its segments make of the target is an absolute URL to another
place. They can make one only in the place of a star, after the beginning of one. -/
theorem redirect_onSite_iff (h : Lookup.Steady answer) {rule : RedirectRule} {parameters : List String}
    {emission : RedirectEmission}
    (hpasses : ∃ found, ((Resolver.resolve (engine.pathOf request) request.unpublished).run answer s).1 =
      .ok found ∧ ∀ resolved, found = some resolved →
        ¬ engine.Decides request (engine.pathOf request) resolved)
    (hrule : ((RedirectDecision.resolve (engine.pathOf request) engine.settings.extension .notFound
      engine.settings.maxRedirectProbes.toNat).run answer s).1 = .ok (.rule rule parameters))
    (hrelative : Url.isAbsolute engine.interpreter.idna rule.target = false)
    (hredirect : ((engine.handle request).run answer s).1 = .ok (.ok (.redirect emission))) :
    (OnSite request.origin emission.location ↔
      (Url.isAbsolute engine.interpreter.idna (rule.targetFor parameters) →
        OnSite request.origin (rule.targetFor parameters))) ∧
    (¬ OnSite request.origin emission.location →
      rule.isWildcard ∧ isWildcard rule.target ∧ Url.MayOpen rule.target.toList.dropLast) := by
  obtain ⟨found, hfound, hdecides⟩ := hpasses
  have hstill := fun q => h.run (Resolver.resolve (engine.pathOf request) request.unpublished) q s
  have hoverall := run_handle_of_not_decides (Prod.ext hfound rfl) hdecides
  rw [h.run_eq h (engine.redirectOutcome_asks request (engine.pathOf request)) fun q _ => hstill q,
    hredirect] at hoverall
  have houtcome : ((engine.redirectOutcome request (engine.pathOf request)).run answer s).1 =
      .ok (.redirect emission) := by
    cases hrun : ((engine.redirectOutcome request (engine.pathOf request)).run answer s).1 with
    | error e => rw [hrun] at hoverall; cases hoverall
    | ok outcome => rw [hrun] at hoverall; rw [Except.ok.inj (Except.ok.inj hoverall)]
  have hlocation : emission.location =
      absoluteLocation engine.interpreter.idna (rule.targetFor parameters) request.origin := by
    rw [emission_of_rule hrule houtcome, RedirectEmission.to]
  have hsite :=
    onSite_absoluteLocation_iff engine.interpreter.idna (rule.targetFor parameters) request.origin
  rw [hlocation]
  refine ⟨hsite, fun hoff => ?_⟩
  have habsolute := (Classical.not_imp.mp (mt hsite.mpr hoff)).1
  exact RedirectRule.mayOpen_of_isAbsolute_targetFor hrelative habsolute

end Engine

namespace OnSite

open Visibility (engine)
open Precedence (foundFor outcomeOf)

def ruled (rule : RedirectRule) : MemoryStore :=
  MemoryStore.putRedirect {} rule

def renamed : RedirectRule :=
  ⟨"/old/*", "/new/*", .permanent⟩

def bare : RedirectRule :=
  ⟨"/old/*", "*", .permanent⟩

def decisionFor (path : String) (s : MemoryStore) : Except StoreError RedirectDecision :=
  ((RedirectDecision.resolve (engine.pathOf { path }) engine.settings.extension .notFound
    engine.settings.maxRedirectProbes.toNat).run Store.answer (.memory s)).1

theorem redirect_onSite_renamed :
    Lookup.Steady Store.answer ∧
    foundFor "/old/a/b" (ruled renamed) = .ok none ∧
    decisionFor "/old/a/b" (ruled renamed) = .ok (.rule renamed ["a", "b"]) ∧
    Url.isAbsolute engine.interpreter.idna renamed.target = false ∧
    outcomeOf "/old/a/b" (ruled renamed) = .ok (.ok (.redirect ⟨301, "http://localhost/new/a/b"⟩)) ∧
    ¬ Url.MayOpen renamed.target.toList.dropLast ∧
    OnSite "http://localhost" "http://localhost/new/a/b" := by
  have hfound : foundFor "/old/a/b" (ruled renamed) = .ok none := by decide +kernel
  have hrule : decisionFor "/old/a/b" (ruled renamed) = .ok (.rule renamed ["a", "b"]) := by
    decide +kernel
  have hrelative : Url.isAbsolute engine.interpreter.idna renamed.target = false := by
    decide +kernel
  have houtcome : outcomeOf "/old/a/b" (ruled renamed) =
      .ok (.ok (.redirect ⟨301, "http://localhost/new/a/b"⟩)) := by decide +kernel
  have hslash : ¬ Url.MayOpen renamed.target.toList.dropLast := by decide +kernel
  have hsite := Engine.redirect_onSite_iff Store.steady_answer
    ⟨none, hfound, fun _ hnone => nomatch hnone⟩ hrule hrelative houtcome
  refine ⟨Store.steady_answer, hfound, hrule, hrelative, houtcome, hslash, ?_⟩
  by_contra hoff
  exact hslash (hsite.2 hoff).2.2

/-- The segments of a request path make an absolute URL of a target that is a star alone. -/
theorem redirect_bare_offSite :
    foundFor "/old/https://evil.example/x" (ruled bare) = .ok none ∧
    decisionFor "/old/https://evil.example/x" (ruled bare) =
      .ok (.rule bare ["https:", "evil.example", "x"]) ∧
    Url.isAbsolute engine.interpreter.idna bare.target = false ∧
    outcomeOf "/old/https://evil.example/x" (ruled bare) =
      .ok (.ok (.redirect ⟨301, "https:/evil.example/x"⟩)) ∧
    ¬ OnSite "http://localhost" "https:/evil.example/x" := by
  decide +kernel

end OnSite

end ContentServer

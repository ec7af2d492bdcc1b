import ContentServer.Proofs.Path.Reading
import ContentServer.Resolver
import Mathlib.Data.List.Induction

namespace ContentServer

/-- A key that answers for a path, and the segments of the path that its star stands for. -/
structure Decomposition where
  key : String
  captured : List String
  deriving DecidableEq, Repr

namespace Decomposition

def below (segments : List String) (kept : Nat) : Decomposition :=
  ⟨"/" ++ joinSegments (segments.take kept ++ [wildcard]), segments.drop kept⟩

def wildcards (segments : List String) (n : Nat) : List Decomposition :=
  (List.range n).reverse.map (below segments)

def filled (d : Decomposition) : String :=
  String.ofList d.key.toList.dropLast ++ joinSegments d.captured

/-- The wildcard keys that are left of a text which is cut at its last separator, again and again.
What is cut off goes to the front of the captured segments. -/
def cuts (text : List Char) (captured : List String) : List Decomposition :=
  match _h : Text.cutLast? '/' text with
  | none => []
  | some (before, last) =>
    ⟨String.ofList (before ++ ['/', '*']), String.ofList last :: captured⟩ ::
      cuts before (String.ofList last :: captured)
termination_by text.length
decreasing_by
  rw [Text.cutLast?_eq_some _h, List.length_append, List.length_cons]
  omega

theorem wildcards_succ (segments : List String) (n : Nat) :
    wildcards segments (n + 1) = below segments n :: wildcards segments n := by
  rw [wildcards, List.range_succ, List.reverse_append]
  rfl

theorem below_length (kept captured : List String) :
    below (kept ++ captured) kept.length =
      ⟨"/" ++ joinSegments (kept ++ [wildcard]), captured⟩ := by
  rw [below, List.take_left, List.drop_left]

end Decomposition

namespace RequestPath

/-- All ways to look a path up. The site root has no other key than its own. -/
def decompositions (path : RequestPath) : List Decomposition :=
  ⟨path.key, []⟩ :: Decomposition.wildcards path.segments path.segments.length

theorem length_decompositions (path : RequestPath) :
    path.decompositions.length = path.segments.length + 1 := by
  simp [decompositions, Decomposition.wildcards]

def spelled (segments : List String) : List Char :=
  segments.flatMap fun s => '/' :: s.toList

theorem spelled_append (segments others : List String) :
    spelled (segments ++ others) = spelled segments ++ spelled others :=
  List.flatMap_append

theorem spelled_singleton (segment : String) : spelled [segment] = '/' :: segment.toList := by
  simp [spelled]

theorem spelled_cons (segment : String) (segments : List String) :
    spelled (segment :: segments) = '/' :: joined (segment :: segments) := by
  rw [joined, Text.cons_intercalate '/' (by simp), List.flatMap_map, spelled]

theorem toList_separated {segments : List String} (hne : segments ≠ []) :
    ("/" ++ joinSegments segments).toList = spelled segments := by
  obtain ⟨segment, rest, rfl⟩ := List.exists_cons_of_ne_nil hne
  rw [spelled_cons, ← toList_key ⟨segment :: rest, none, .slash⟩, key]

end RequestPath

theorem wildcardKey_eq (kept : List String) :
    wildcardKey kept = "/" ++ joinSegments (kept ++ [wildcard]) := by
  rw [← String.toList_inj, RequestPath.toList_separated (by simp), RequestPath.spelled_append]
  cases kept with
  | nil => decide
  | cons segment kept =>
    rw [wildcardKey, if_neg (by simp), String.toList_append,
      RequestPath.toList_separated (List.cons_ne_nil _ _)]
    rfl

namespace Decomposition

open RequestPath

theorem cuts_spelled {kept : List String} (hkept : ∀ s ∈ kept, '/' ∉ s.toList)
    (captured : List String) :
    cuts (spelled kept) captured = wildcards (kept ++ captured) kept.length := by
  induction kept using List.reverseRecOn generalizing captured with
  | nil => rw [cuts]; rfl
  | append_singleton kept last ih =>
    have hlast : '/' ∉ last.toList := hkept last (by simp)
    have hcut :
        Text.cutLast? '/' (spelled (kept ++ [last])) = some (spelled kept, last.toList) := by
      rw [spelled_append, spelled_singleton]
      exact Text.cutLast?_append_cons _ hlast
    have hkey :
        String.ofList (spelled kept ++ ['/', '*']) = "/" ++ joinSegments (kept ++ [wildcard]) := by
      rw [← String.toList_inj, String.toList_ofList, toList_separated (by simp), spelled_append]
      rfl
    rw [cuts]
    split
    · next h => rw [hcut] at h; cases h
    · next before found h =>
      rw [hcut, Option.some.injEq, Prod.mk.injEq] at h
      obtain ⟨rfl, rfl⟩ := h
      rw [String.ofList_toList, ih (fun s hs => hkept s (List.mem_append_left _ hs)), hkey,
        List.length_append, List.length_singleton, wildcards_succ, List.append_assoc,
        List.singleton_append, below_length]

theorem filled_below {segments : List String} {kept : Nat} (hkept : kept < segments.length) :
    (below segments kept).filled = "/" ++ joinSegments segments := by
  have hne : segments ≠ [] := List.ne_nil_of_length_pos (Nat.zero_lt_of_lt hkept)
  have hdrop : segments.drop kept ≠ [] := by simpa using hkept
  have hkey :
      (below segments kept).key.toList.dropLast = spelled (segments.take kept) ++ ['/'] := by
    rw [below, toList_separated (by simp), spelled_append, spelled_singleton]
    exact List.dropLast_append_of_ne_nil (List.cons_ne_nil _ _)
  have hrest :
      '/' :: (joinSegments (segments.drop kept)).toList = spelled (segments.drop kept) := by
    rw [← toList_separated hdrop, String.toList_append]
    rfl
  rw [← String.toList_inj]
  calc (below segments kept).filled.toList
    _ = spelled (segments.take kept) ++ '/' :: (joinSegments (segments.drop kept)).toList := by
      rw [filled, String.toList_append, String.toList_ofList, hkey, List.append_assoc]
      rfl
    _ = spelled segments := by rw [hrest, ← spelled_append, List.take_append_drop]
    _ = ("/" ++ joinSegments segments).toList := (toList_separated hne).symm

end Decomposition

namespace RequestPath

variable {path : RequestPath}

theorem captured_of_getElem? {k : Nat} {d : Decomposition} (hd : path.decompositions[k]? = some d) :
    d.captured = path.segments.drop (path.segments.length - k) := by
  cases k with
  | zero =>
    obtain rfl := Option.some.inj hd
    rw [Nat.sub_zero, List.drop_length]
  | succ k =>
    rw [decompositions, List.getElem?_cons_succ, Decomposition.wildcards, List.getElem?_map] at hd
    obtain ⟨kept, hkept, rfl⟩ := Option.map_eq_some_iff.mp hd
    obtain ⟨hk, rfl⟩ := List.getElem?_eq_some_iff.mp hkept
    have hk' : path.segments.length - 1 - k = path.segments.length - (k + 1) := by omega
    rw [List.getElem_reverse, List.getElem_range, List.length_range, hk', Decomposition.below]

/-- The wildcard keys of a path are the cuts of its key. -/
theorem decompositions_eq_cuts (hsegs : AreSegments path.segments) (hne : path.segments ≠ []) :
    path.decompositions = ⟨path.key, []⟩ :: Decomposition.cuts path.key.toList [] := by
  rw [key, toList_separated hne, Decomposition.cuts_spelled (fun s hs => (hsegs s hs).2),
    List.append_nil, decompositions, key]

/-- A wildcard key stands for the whole path: its star, replaced by what it captured, makes up the
key of the path. -/
theorem filled_eq_key {d : Decomposition} (hd : d ∈ path.decompositions)
    (hcaptured : d.captured ≠ []) :
    isWildcard d.key ∧ d.filled = path.key := by
  obtain rfl | hd := List.mem_cons.mp hd
  · exact absurd rfl hcaptured
  · obtain ⟨kept, hkept, rfl⟩ := List.mem_map.mp hd
    rw [List.mem_reverse, List.mem_range] at hkept
    refine ⟨?_, Decomposition.filled_below hkept⟩
    rw [isWildcard, Decomposition.below, toList_separated (by simp), spelled_append,
      spelled_singleton, wildcard]
    simp

end RequestPath

end ContentServer

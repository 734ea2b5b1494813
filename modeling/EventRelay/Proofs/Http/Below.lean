/-
# URLs below a server's root

`Url.IsRoot` says that a text is the URL of a server and names nothing on it.  What is written
behind such a text and a slash is the path of a URL on the same server (`Url.parse_below`), and the
segments of that path are what the server's routes are compared with (`Posting.ofPath?_path`).

A percent-encoded segment keeps clear of all characters that end a segment or a path
(`Url.isClear_percentEncode`), so a segment that is put in stays one segment.
-/

import EventRelay.Http.Caller
import EventRelay.Http.Route
import Mathlib.Data.Bool.AllAny
import Mathlib.Data.List.TakeWhile

namespace EventRelay
namespace Url

/-! ### Texts that are read as they stand -/

/-- Whether a character is neither dropped at the ends of a URL or within it, nor opens its query
or fragment. -/
def IsBody (c : Char) : Prop := 0x20 < c.toNat ∧ c ≠ '?' ∧ c ≠ '#'

/-- Whether a character can stand in the authority of a URL of the web. -/
def IsAuthority (c : Char) : Prop := IsBody c ∧ c ≠ '/' ∧ c ≠ '\\'

instance (c : Char) : Decidable (IsBody c) :=
  inferInstanceAs (Decidable (0x20 < c.toNat ∧ c ≠ '?' ∧ c ≠ '#'))

instance (c : Char) : Decidable (IsAuthority c) :=
  inferInstanceAs (Decidable (IsBody c ∧ c ≠ '/' ∧ c ≠ '\\'))

/-- The schemes that requests go over. -/
def IsWeb (scheme : String) : Prop := scheme = "http" ∨ scheme = "https"

/-- The URL of a server, with nothing behind it. -/
def IsRoot (text : String) : Prop :=
  ∃ (scheme : String) (authority : List Char), IsWeb scheme ∧
    text = scheme ++ "://" ++ String.ofList authority ∧ (∀ c ∈ authority, IsAuthority c) ∧
    (parse text).isOk = true

theorem IsBody.not_break {c : Char} (h : IsBody c) : isBreak c = false := by
  simp only [isBreak, Bool.or_eq_false_iff, beq_eq_false_iff_ne]
  refine ⟨⟨?_, ?_⟩, ?_⟩ <;> rintro rfl <;> exact absurd h.1 (by decide)

/-- A text that holds no blanks is tidy. -/
theorem tidy_eq {cs : List Char} (h : ∀ c ∈ cs, IsBody c) : tidy cs = cs := by
  have hdrop : ∀ ds : List Char, (∀ c ∈ ds, IsBody c) →
      ds.dropWhile (fun c => decide (c.toNat ≤ 0x20)) = ds := fun ds hds =>
    List.dropWhile_eq_self_iff.2 fun hl => by simpa using (hds _ (List.getElem_mem hl)).1
  have hreverse : ∀ c ∈ cs.reverse, IsBody c := fun c hc => h c (List.mem_reverse.1 hc)
  simp only [tidy]
  rw [hdrop cs h, hdrop cs.reverse hreverse, List.reverse_reverse, List.filter_eq_self]
  intro c hc
  simp [(h c hc).not_break]

/-- A text without question mark and number sign has neither query nor fragment. -/
theorem splitTail_eq {cs : List Char} (h : ∀ c ∈ cs, IsBody c) : splitTail cs = (cs, none, none) := by
  have hfragment : ∀ c ∈ cs, decide (c ≠ '#') = true := fun c hc => decide_eq_true (h c hc).2.2
  have hquery : ∀ c ∈ cs, decide (c ≠ '?') = true := fun c hc => decide_eq_true (h c hc).2.1
  simp only [splitTail, List.takeWhile_eq_self_iff.2 hfragment, List.dropWhile_eq_nil_iff.2 hfragment,
    List.takeWhile_eq_self_iff.2 hquery, List.dropWhile_eq_nil_iff.2 hquery]

/-- **An authority is read up to where the path begins**, and names a host; the path alone becomes
segments. -/
theorem withAuthority_append {scheme : String} (hweb : IsWeb scheme) {authority : List Char}
    (hauthority : ∀ c ∈ authority, IsAuthority c)
    {user name : Option String} {port : Option Nat} {path : UrlPath}
    (h : withAuthority scheme authority = .ok (user, name, port, path)) :
    name.isSome = true ∧ ∀ below : List Char, withAuthority scheme (authority ++ '/' :: below) =
      .ok (user, name, port, .segments (segmentsOf true ('/' :: below))) := by
  have hspecial : isSpecial scheme = true ∧ (scheme == "file") = false := by
    rcases hweb with rfl | rfl <;> decide
  have hinside : ∀ c ∈ authority, (!(c == '/' || (true && c == '\\'))) = true := by
    intro c hc
    obtain ⟨-, hslash, hback⟩ := hauthority c hc
    simp [hslash, hback]
  simp only [withAuthority, hspecial.1, hspecial.2, List.takeWhile_eq_self_iff.2 hinside,
    List.dropWhile_eq_nil_iff.2 hinside] at h ⊢
  cases hhost : HostName.parse (splitHost false (splitUser authority).2).1 with
  | error problem =>
    rw [hhost] at h
    cases h
  | ok host =>
    cases hport : readPort scheme (splitHost false (splitUser authority).2).2 with
    | error problem =>
      rw [hhost, hport] at h
      cases h
    | ok port' =>
      rw [hhost, hport] at h
      cases h
      refine ⟨rfl, fun below => ?_⟩
      have hslash : (!('/' == '/' || (true && '/' == '\\'))) = false := rfl
      rw [List.takeWhile_append_of_pos hinside, List.dropWhile_append_of_pos hinside,
        List.takeWhile_cons_of_neg (by rw [hslash]; simp), List.append_nil,
        List.dropWhile_cons_of_neg (by rw [hslash]; simp), hhost, hport]
      rfl

/-- A text after the scheme of a URL of the web. -/
theorem splitScheme?_web {scheme : String} (hweb : IsWeb scheme) (rest : List Char) :
    splitScheme? (scheme.toList ++ ':' :: rest) = some (scheme, rest) := by
  rcases hweb with rfl | rfl <;> simp [splitScheme?]

/-- **A URL of the web is its scheme and what its authority and path are read as.** -/
theorem parse_web {scheme : String} (hweb : IsWeb scheme) {cs : List Char}
    (hcs : ∀ c ∈ cs, IsBody c) (hhead : ∀ c ∈ cs.head?, c ≠ '/' ∧ c ≠ '\\') :
    parse (scheme ++ "://" ++ String.ofList cs) = (withAuthority scheme cs).map fun r =>
      ⟨scheme, r.1, r.2.1, r.2.2.1, r.2.2.2, none, none⟩ := by
  have hscheme : isSpecial scheme = true ∧ (scheme != "file") = true ∧
      ∀ c ∈ scheme.toList, IsBody c := by
    rcases hweb with rfl | rfl <;>
      exact ⟨by decide, by decide, List.all_iff_forall_prop.1 (by decide)⟩
  have htext : (scheme ++ "://" ++ String.ofList cs).toList =
      scheme.toList ++ ':' :: '/' :: '/' :: cs := by
    simp
  have hbody : ∀ c ∈ '/' :: '/' :: cs, IsBody c := by
    intro c hc
    simp only [List.mem_cons] at hc
    rcases hc with rfl | rfl | hc
    · decide
    · decide
    · exact hcs c hc
  have hwhole : ∀ c ∈ scheme.toList ++ ':' :: '/' :: '/' :: cs, IsBody c := by
    intro c hc
    simp only [List.mem_append, List.mem_cons (b := ':')] at hc
    rcases hc with hc | rfl | hc
    · exact hscheme.2.2 c hc
    · decide
    · exact hbody c hc
  have hslashes : ('/' :: '/' :: cs).dropWhile (fun c => c == '/' || (true && c == '\\')) = cs := by
    cases cs with
    | nil => simp
    | cons c cs =>
      obtain ⟨hslash, hback⟩ := hhead c rfl
      simp [hslash, hback]
  simp only [parse]
  rw [htext, tidy_eq hwhole, splitScheme?_web hweb]
  simp only [splitTail_eq hbody, hscheme.1, hscheme.2.1, hslashes]
  cases withAuthority scheme cs <;> rfl

/-- **What is written behind the URL of a server is a path on that server.** -/
theorem parse_below {text : String} (h : IsRoot text) :
    ∃ u, parse text = .ok u ∧ IsWeb u.scheme ∧ u.host.isSome = true ∧ u.query = none ∧
      ∀ path : List Char, (∀ c ∈ path, IsBody c) →
        parse (text ++ "/" ++ String.ofList path) =
          .ok { u with path := .segments (segmentsOf true ('/' :: path)) } := by
  obtain ⟨scheme, authority, hweb, rfl, hauthority, hok⟩ := h
  have hnonempty : authority ≠ [] := by
    rintro rfl
    rcases hweb with rfl | rfl <;> exact absurd hok (by decide +kernel)
  have hhead : ∀ (cs : List Char), ∀ c ∈ (authority ++ cs).head?, c ≠ '/' ∧ c ≠ '\\' := by
    intro cs c hc
    obtain ⟨first, others, rfl⟩ := List.exists_cons_of_ne_nil hnonempty
    cases hc
    exact (hauthority c (List.mem_cons_self ..)).2
  have hbody : ∀ c ∈ authority, IsBody c := fun c hc => (hauthority c hc).1
  have hparse := parse_web hweb hbody (by simpa using hhead [])
  cases hread : withAuthority scheme authority with
  | error problem =>
    rw [hparse, hread] at hok
    cases hok
  | ok r =>
    obtain ⟨user, name, port, path⟩ := r
    obtain ⟨hname, hbelow⟩ := withAuthority_append hweb hauthority hread
    refine ⟨_, by rw [hparse, hread]; rfl, hweb, hname, rfl, fun path hpath => ?_⟩
    have htext : scheme ++ "://" ++ String.ofList authority ++ "/" ++ String.ofList path =
        scheme ++ "://" ++ String.ofList (authority ++ '/' :: path) := by
      apply String.toList_injective
      simp
    have hwhole : ∀ c ∈ authority ++ '/' :: path, IsBody c := by
      intro c hc
      simp only [List.mem_append, List.mem_cons] at hc
      rcases hc with hc | rfl | hc
      · exact hbody c hc
      · decide
      · exact hpath c hc
    rw [htext, parse_web hweb hwhole (hhead _), hbelow path]
    rfl

/-- Where a client looks for a server by default is the URL of a server. -/
theorem isRoot_serverUrl : IsRoot Defaults.serverUrl :=
  ⟨"http", "127.0.0.1:3000".toList, .inl rfl, by decide, List.all_iff_forall_prop.1 (by decide),
    by decide +kernel⟩

/-! ### Segments that are put in -/

theorem isSegmentChar_percent : isSegmentChar '%' = false := by decide

/-- Every spelling of a dot segment decodes to dots. -/
theorem percentDecode?_dots {s : String} :
    (isDot s = true → Text.percentDecode? s.toList = some ['.']) ∧
      (isDotDot s = true → Text.percentDecode? s.toList = some ['.', '.']) := by
  have hdot : ∀ t ∈ [".", "%2e", "%2E"], Text.percentDecode? t.toList = some ['.'] := by
    decide +kernel
  have hdots : ∀ t ∈ ["..", ".%2e", ".%2E", "%2e.", "%2E.", "%2e%2e", "%2e%2E", "%2E%2e", "%2E%2E"],
      Text.percentDecode? t.toList = some ['.', '.'] := by decide +kernel
  simp only [isDot, isDotDot, List.contains_eq_mem, decide_eq_true_eq]
  exact ⟨hdot s, hdots s⟩

/-- **A text that is put in is carried out as a dot segment only if it is one**, however its
characters are written. -/
theorem addSegment_encode (ss : List String) (cs : List Char) :
    addSegment ss (String.ofList (Text.percentEncode isSegmentChar cs)) true =
      if cs = ['.', '.'] then ss.dropLast ++ [""]
      else if cs = ['.'] then ss ++ [""]
      else ss ++ [String.ofList (Text.percentEncode isSegmentChar cs)] := by
  have hdecode : Text.percentDecode?
      (String.ofList (Text.percentEncode isSegmentChar cs)).toList = some cs := by
    rw [String.toList_ofList, Text.percentDecode?_percentEncode isSegmentChar_percent]
  have hdots : isDotDot (String.ofList (Text.percentEncode isSegmentChar cs)) = true ↔
      cs = ['.', '.'] := by
    constructor
    · intro h
      exact Option.some.inj (hdecode.symm.trans (percentDecode?_dots.2 h))
    · rintro rfl
      decide
  have hdot : isDot (String.ofList (Text.percentEncode isSegmentChar cs)) = true ↔ cs = ['.'] := by
    constructor
    · intro h
      exact Option.some.inj (hdecode.symm.trans (percentDecode?_dots.1 h))
    · rintro rfl
      decide
  simp only [addSegment, hdots, hdot, if_true]

/-! ### Paths of segments -/

/-- Whether a character ends neither a segment nor a path. -/
def IsClear (c : Char) : Prop := c ≠ '/' ∧ c ≠ '?' ∧ c ≠ '#'

instance (c : Char) : Decidable (IsClear c) :=
  inferInstanceAs (Decidable (c ≠ '/' ∧ c ≠ '?' ∧ c ≠ '#'))

/-- Segments that are written out are clear if their characters are. -/
theorem isClear_of_all {ss : List String}
    (h : (ss.all fun s => s.toList.all fun c => decide (IsClear c)) = true) :
    ∀ s ∈ ss, ∀ c ∈ s.toList, IsClear c := by
  simpa using h

/-- **What is put in as a segment stays one segment**: no character of it ends one. -/
theorem isClear_percentEncode (cs : List Char) :
    ∀ c ∈ Text.percentEncode isSegmentChar cs, IsClear c := by
  have hsafe : ∀ c, isSegmentChar c = true → IsClear c := by
    intro c hc
    refine ⟨?_, ?_, ?_⟩ <;> rintro rfl <;> exact absurd hc (by decide)
  have hdigit : ∀ d : Fin 16, IsClear (Text.hexDigitUpper d.val) := by decide
  intro c hc
  obtain ⟨d, -, hc⟩ := List.mem_flatMap.1 hc
  rw [Text.percentChar] at hc
  split at hc
  · rename_i hd
    exact hsafe c (List.mem_singleton.1 hc ▸ hd)
  · obtain ⟨b, -, hc⟩ := List.mem_flatMap.1 hc
    simp only [Text.percentByte, List.mem_cons, List.not_mem_nil, or_false] at hc
    have hb : b.toNat < 256 := b.toNat_lt
    rcases hc with rfl | rfl | rfl
    · decide
    · exact hdigit ⟨b.toNat / 16, by omega⟩
    · exact hdigit ⟨b.toNat % 16, by omega⟩

theorem toList_pathText (ss : List String) :
    (pathText (.segments ss)).toList = ss.flatMap fun s => '/' :: s.toList := by
  induction ss with
  | nil => rfl
  | cons s ss ih =>
    simp only [pathText] at ih ⊢
    simp [ih]

/-- A path is split at its slashes into what it was made of. -/
theorem splitOn_path {ss : List String} (h : ∀ s ∈ ss, ∀ c ∈ s.toList, IsClear c) :
    (ss.flatMap fun s => '/' :: s.toList).splitOn '/' = [] :: ss.map String.toList := by
  have hjoin : ss.flatMap (fun s => '/' :: s.toList) =
      ['/'].intercalate ([] :: ss.map String.toList) := by
    suffices hfront : ∀ front : List Char, front ++ ss.flatMap (fun s => '/' :: s.toList) =
        ['/'].intercalate (front :: ss.map String.toList) from hfront []
    induction ss with
    | nil => simp
    | cons s ss ih =>
      intro front
      have hrest := ih (fun t ht => h t (List.mem_cons_of_mem _ ht)) s.toList
      simp [List.intercalate_cons_cons, ← hrest]
  rw [hjoin, List.splitOn_intercalate '/' _ (by simp)]
  intro l hl
  simp only [List.mem_cons, List.mem_map] at hl
  rcases hl with rfl | ⟨s, hs, rfl⟩
  · simp
  · exact fun hslash => (h s hs _ hslash).1 rfl

end Url

/-- **The segments of a URL are what the routes are compared with.** -/
theorem Posting.ofPath?_path {p : Posting} {ss : List String} (hpath : p.url.path = .segments ss)
    (hquery : p.url.query = none) (hne : ss ≠ [])
    (hclear : ∀ s ∈ ss, ∀ c ∈ s.toList, Url.IsClear c) :
    Resource.ofPath? p.request.path = Resource.ofSegments? ("" :: ss) := by
  have htext : (Url.pathText (.segments ss)).isEmpty = false := by
    obtain ⟨s, rest, rfl⟩ := List.exists_cons_of_ne_nil hne
    have hlist := Url.toList_pathText (s :: rest)
    rw [List.flatMap_cons, List.cons_append] at hlist
    rw [Bool.eq_false_iff, ne_eq, String.isEmpty_iff]
    intro hempty
    rw [hempty] at hlist
    cases hlist
  have htarget : p.request.target.toList = ss.flatMap fun s => '/' :: s.toList := by
    have hunfold : p.request.target = p.url.target := rfl
    rw [hunfold, Url.target, hpath, hquery, htext, ← Url.toList_pathText]
    simp
  have hpathText : p.request.path = ss.flatMap fun s => '/' :: s.toList := by
    rw [Request.path, htarget]
    refine List.takeWhile_eq_self_iff.2 fun c hc => ?_
    obtain ⟨s, hs, hc⟩ := List.mem_flatMap.1 hc
    rcases List.mem_cons.1 hc with rfl | hc
    · rfl
    · obtain ⟨-, hquestion, hhash⟩ := hclear s hs c hc
      simp [hquestion, hhash]
  rw [Resource.ofPath?, hpathText, Url.splitOn_path hclear]
  simp

end EventRelay

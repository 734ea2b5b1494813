/-
# What a probe decides

A probe of a fingerprint goes to a path that ends in it, and the answer says whether the server is of
that deployment: `Caller.exchange_probe`.

The characters of a fingerprint pass through a URL as they are.  Two fingerprints do not: `.` and
`..` are segments that a path carries out, so a probe of them asks for another path, which no route
is for, and a server of that very deployment is taken for another one (`Caller.probe_of_dot`).
-/

import EventRelay.Proofs.Http.Sent

namespace EventRelay

/-! ### The characters of a fingerprint -/

/-- Whether a character stands in a path, and in a segment of one, as it is. -/
structure Url.IsPlain (c : Char) : Prop where
  body : IsBody c
  clear : IsClear c
  straight : c ≠ '\\'
  inPath : isPathChar c = true
  inSegment : isSegmentChar c = true

namespace Fingerprint

theorem toNat_lt_of_isMark {c : Char} (h : isMark c = true) : c.toNat < 128 := by
  have hupper : c.isUpper = true → c.toNat ≤ 90 := fun h =>
    UInt32.le_iff_toNat_le.1 (of_decide_eq_true h).2
  have hlower : c.isLower = true → c.toNat ≤ 122 := fun h =>
    UInt32.le_iff_toNat_le.1 (of_decide_eq_true (Bool.and_eq_true_iff.1 h).2)
  have hdigit : c.isDigit = true → c.toNat ≤ 57 := fun h =>
    UInt32.le_iff_toNat_le.1 (of_decide_eq_true (Bool.and_eq_true_iff.1 h).2)
  have halphanum : c.isAlphanum = true → c.toNat < 128 := fun h => by
    rcases Bool.or_eq_true_iff.1 h with hletter | hdigit'
    · rcases Bool.or_eq_true_iff.1 hletter with hcase | hcase
      · have hle := hupper hcase
        omega
      · have hle := hlower hcase
        omega
    · have hle := hdigit hdigit'
      omega
  simp only [isMark, Bool.or_eq_true, beq_iff_eq] at h
  rcases h with ((h | rfl) | rfl) | rfl
  · exact halphanum h
  all_goals decide

/-- **A mark passes through a URL as it is.** -/
theorem isPlain_of_isMark {c : Char} (h : isMark c = true) : Url.IsPlain c := by
  have hall : ∀ n : Fin 128, isMark (Char.ofNat n.val) = true →
      Url.IsBody (Char.ofNat n.val) ∧ Url.IsClear (Char.ofNat n.val) ∧ Char.ofNat n.val ≠ '\\' ∧
        Url.isPathChar (Char.ofNat n.val) = true ∧ Url.isSegmentChar (Char.ofNat n.val) = true := by
    decide +kernel
  have hc := hall ⟨c.toNat, toNat_lt_of_isMark h⟩
  rw [Char.ofNat_toNat] at hc
  obtain ⟨hbody, hclear, hstraight, hpath, hsegment⟩ := hc h
  exact ⟨hbody, hclear, hstraight, hpath, hsegment⟩

/-- The characters of a valid fingerprint are plain. -/
theorem plain_of_isValid {text : String} (h : isValid text = true) :
    ∀ c ∈ text.toList, Url.IsPlain c := by
  simp only [isValid, Bool.and_eq_true, Bool.not_eq_true', List.all_eq_true] at h
  exact fun c hc => isPlain_of_isMark (h.2 c hc)

end Fingerprint

/-! ### The path of a probe -/

namespace Url

/-- A text of safe characters is its own encoding. -/
theorem percentEncode_eq_self {isSafe : Char → Bool} {cs : List Char}
    (h : ∀ c ∈ cs, isSafe c = true) : Text.percentEncode isSafe cs = cs := by
  induction cs with
  | nil => rfl
  | cons c cs ih =>
    rw [Text.percentEncode, List.flatMap_cons, Text.percentChar, if_pos (h c (by simp))]
    exact congrArg (c :: ·) (ih fun d hd => h d (List.mem_cons_of_mem _ hd))

/-- The segments of a path of two pieces. -/
theorem segmentsOf_two {a b : List Char} (h : ∀ c ∈ a ++ b, c ≠ '/' ∧ c ≠ '\\') :
    segmentsOf true ('/' :: (a ++ '/' :: b)) =
      addSegment (addSegment [] (String.ofList (Text.percentEncode isPathChar a)) false)
        (String.ofList (Text.percentEncode isPathChar b)) true := by
  have hslashes : (a ++ '/' :: b).map (fun c => if (true && c == '\\') = true then '/' else c) =
      ['/'].intercalate [a, b] := by
    have hkept : ∀ c ∈ a ++ '/' :: b, (if (true && c == '\\') = true then '/' else c) = c := by
      intro c hc
      simp only [List.mem_append, List.mem_cons] at hc h
      rcases hc with hc | rfl | hc
      · simp [(h c (.inl hc)).2]
      · rfl
      · simp [(h c (.inr hc)).2]
    rw [List.map_congr_left hkept]
    simp
  have hpieces : pieces true (a ++ '/' :: b) = [a, b] := by
    rw [pieces, hslashes, List.splitOn_intercalate '/' _ (by simp)]
    intro l hl hslash
    simp only [List.mem_cons, List.not_mem_nil, or_false] at hl
    rcases hl with rfl | rfl
    · exact (h _ (List.mem_append_left _ hslash)).1 rfl
    · exact (h _ (List.mem_append_right _ hslash)).1 rfl
  simp [segmentsOf, hpieces, addSegments]

end Url

namespace Fingerprint

theorem toList_resourcePath (p : Fingerprint) :
    p.resourcePath.toList = "variant".toList ++ '/' :: p.text.toList := by
  simp [resourcePath, Defaults.fingerprintPath]

/-- The path of a probe is made of plain characters and one slash. -/
theorem plain_resourcePath {p : Fingerprint} (hp : isValid p.text = true) :
    ∀ c ∈ "variant".toList ++ p.text.toList, Url.IsPlain c := by
  have hname : ∀ c ∈ "variant".toList, isMark c = true := List.all_eq_true.1 (by decide)
  intro c hc
  rcases List.mem_append.1 hc with hc | hc
  · exact isPlain_of_isMark (hname c hc)
  · exact plain_of_isValid hp c hc

/-- A fingerprint is its own encoding. -/
theorem percentEncode_segment {p : Fingerprint} (hp : isValid p.text = true) :
    Text.percentEncode Url.isSegmentChar p.text.toList = p.text.toList :=
  Url.percentEncode_eq_self fun c hc => (plain_of_isValid hp c hc).inSegment

/-- **The path of a probe ends in the fingerprint**, unless that is a dot segment. -/
theorem segmentsOf_resourcePath {p : Fingerprint} (hp : isValid p.text = true) :
    Url.segmentsOf true ('/' :: p.resourcePath.toList) =
      if p.text = ".." then [""] else if p.text = "." then ["variant", ""]
      else ["variant", p.text] := by
  have hclear : ∀ c ∈ "variant".toList ++ p.text.toList, c ≠ '/' ∧ c ≠ '\\' := by
    intro c hc
    have hplain := plain_resourcePath hp c hc
    exact ⟨hplain.clear.1, hplain.straight⟩
  have hencoded : Text.percentEncode Url.isPathChar p.text.toList =
      Text.percentEncode Url.isSegmentChar p.text.toList := by
    rw [percentEncode_segment hp]
    exact Url.percentEncode_eq_self fun c hc => (plain_of_isValid hp c hc).inPath
  have hself : String.ofList (Text.percentEncode Url.isSegmentChar p.text.toList) = p.text := by
    rw [percentEncode_segment hp, String.ofList_toList]
  have hfront : Url.addSegment [] (String.ofList
      (Text.percentEncode Url.isPathChar "variant".toList)) false = ["variant"] := by decide
  have hdots : p.text.toList = ['.', '.'] ↔ p.text = ".." :=
    @String.toList_inj p.text ".."
  have hdot : p.text.toList = ['.'] ↔ p.text = "." := @String.toList_inj p.text "."
  rw [toList_resourcePath, Url.segmentsOf_two hclear, hfront, hencoded, Url.addSegment_encode, hself]
  simp only [hdots, hdot]
  rfl

end Fingerprint

/-! ### The answer to a probe -/

/-- A server's response to a request for a fingerprint. -/
theorem Api.status_probeResponse {h : Host} {p : Fingerprint}
    (hp : Fingerprint.isValid p.text = true) :
    (Api.probeResponse h p.text.toList).status =
      ⟨if p = h.server.config.fingerprint then 200 else 404⟩ := by
  have hself := Fingerprint.percentEncode_segment hp
  have hdecode : Text.percentDecode? p.text.toList = some p.text.toList := by
    rw [← hself, Text.percentDecode?_percentEncode Url.isSegmentChar_percent, hself]
  simp only [Api.probeResponse, Api.parameter, hdecode, String.ofList_toList,
    Fingerprint.matchesText]
  by_cases heq : p = h.server.config.fingerprint
  · subst heq
    simp
    rfl
  · have htext : (h.server.config.fingerprint.text == p.text) = false := by
      rw [beq_eq_false_iff_ne]
      exact fun htext => heq (congrArg Fingerprint.mk htext.symm)
    simp [htext, heq]
    rfl

/-- **What a server answers to a probe**: that it is of the deployment asked for, or that nothing was
found, be it another deployment or a path that no fingerprint stands in. -/
theorem Api.receive_probe {p : Fingerprint} (hp : Fingerprint.isValid p.text = true) (a : Api)
    {u : Url} (hquery : u.query = none)
    (hpath : u.path = .segments (Url.segmentsOf true ('/' :: p.resourcePath.toList))) :
    ∃ r, (a.receive ⟨"HEAD", u, none, none⟩).2 = .response r ∧ r.status =
      ⟨if p = a.host.server.config.fingerprint ∧ p.text ≠ "." ∧ p.text ≠ ".." then 200 else 404⟩ := by
  rw [Fingerprint.segmentsOf_resourcePath hp] at hpath
  by_cases hup : p.text = ".."
  · rw [if_pos hup] at hpath
    have hgoes : Posting.GoesTo ⟨"HEAD", u, none, none⟩ [""] :=
      ⟨hpath, hquery, by simp, Url.isClear_of_all (by decide), rfl, by simp⟩
    obtain ⟨r, hreceive, hstatus, -⟩ := Api.receive_astray (a := a) hgoes rfl
    exact ⟨r, by rw [hreceive], by simp [hstatus, hup, Response.ofStatus]⟩
  · rw [if_neg hup] at hpath
    by_cases hhere : p.text = "."
    · rw [if_pos hhere] at hpath
      have hgoes : Posting.GoesTo ⟨"HEAD", u, none, none⟩ ["variant", ""] :=
        ⟨hpath, hquery, by simp, Url.isClear_of_all (by decide), rfl, by simp⟩
      obtain ⟨r, hreceive, hstatus, -⟩ := Api.receive_astray (a := a) hgoes rfl
      exact ⟨r, by rw [hreceive], by simp [hstatus, hhere, Response.ofStatus]⟩
    · rw [if_neg hhere] at hpath
      have hclear : ∀ s ∈ ["variant", p.text], ∀ c ∈ s.toList, Url.IsClear c := by
        intro s hs c hc
        have hplain := Fingerprint.plain_resourcePath hp c
        rw [List.mem_append] at hplain
        simp only [List.mem_cons, List.not_mem_nil, or_false] at hs
        rcases hs with rfl | rfl
        · exact (hplain (.inl hc)).clear
        · exact (hplain (.inr hc)).clear
      have hroute : Resource.ofSegments? ["", "variant", p.text] =
          some (.deployment p.text.toList) := by
        simp only [Fingerprint.isValid, Bool.and_eq_true, Bool.not_eq_true'] at hp
        simp [Resource.ofSegments?, hp.1]
      have hgoes : Posting.GoesTo ⟨"HEAD", u, none, none⟩ ["variant", p.text] :=
        ⟨hpath, hquery, by simp, hclear, rfl, by simp⟩
      have hdemand : (Resource.deployment p.text.toList).demand? "HEAD" =
          some (.probe p.text.toList) := rfl
      obtain ⟨r, hreceive, hstatus, -⟩ :=
        Api.receive_routed (a := a) hgoes hroute hdemand (by simp)
      refine ⟨r, by rw [hreceive], ?_⟩
      rw [hstatus, Api.perform, Api.status_probeResponse hp]
      simp only [hup, hhere, ne_eq, not_false_eq_true, and_true]
      rfl

/-- **A probe says whether a server is of the deployment asked for**, for every fingerprint but the
two that no path carries; these are told to be another deployment's, whatever the server is. -/
theorem Caller.exchange_probe {c : Caller} (hroot : Url.IsRoot c.baseUrl) {p : Fingerprint}
    (hp : Fingerprint.isValid p.text = true) (a : Api) :
    c.exchange (.probe p) (fun posting => (a.receive posting).2) =
      if p = a.host.server.config.fingerprint ∧ p.text ≠ "." ∧ p.text ≠ ".." then .ok ()
      else .error (.deploymentMismatch p.text) := by
  have hbody : ∀ ch ∈ p.resourcePath.toList, Url.IsBody ch := by
    intro ch hch
    rw [Fingerprint.toList_resourcePath, List.mem_append, List.mem_cons] at hch
    have hplain := Fingerprint.plain_resourcePath hp ch
    rw [List.mem_append] at hplain
    rcases hch with hch | rfl | hch
    · exact (hplain (.inl hch)).body
    · decide
    · exact (hplain (.inr hch)).body
  obtain ⟨u, hurl, hreach, hpath⟩ := Caller.url_below hroot hbody
  have hposting : c.posting (.probe p) = .ok ⟨"HEAD", u, none, none⟩ := by
    rw [Caller.posting, Caller.draft, hurl]
    exact Caller.checkReachable_eq hreach
  obtain ⟨r, hreceive, hstatus⟩ := Api.receive_probe hp a hreach.2.2 hpath
  have hanswer : c.exchange (.probe p) (fun posting => (a.receive posting).2) =
      Caller.readProbe p r := by
    rw [Caller.exchange, hposting]
    simp only [hreceive]
    rfl
  rw [hanswer, Caller.readProbe, hstatus]
  by_cases hsame : p = a.host.server.config.fingerprint ∧ p.text ≠ "." ∧ p.text ≠ ".."
  · rw [if_pos hsame, if_pos hsame]
    rfl
  · rw [if_neg hsame, if_neg hsame]
    rfl

/-- A server of the very deployment that is asked for says so. -/
theorem Caller.exchange_probe_served :
    Fingerprint.isValid "2026.10.0" = true ∧ Url.IsRoot Defaults.serverUrl ∧
      (Host.new ServerConfig.default ⟨1, by decide⟩ 0).map (fun h =>
        (Caller.mk Defaults.serverUrl).exchange (.probe ⟨"2026.10.0"⟩) fun posting =>
          ((Api.new h []).receive posting).2) = .ok (.ok ()) := by
  have hvalid : Fingerprint.isValid "2026.10.0" = true := by decide
  refine ⟨hvalid, Url.isRoot_serverUrl, congrArg Except.ok ?_⟩
  exact (Caller.exchange_probe Url.isRoot_serverUrl (p := ⟨"2026.10.0"⟩) hvalid _).trans
    (if_pos ⟨rfl, by decide, by decide⟩)

/-- **A deployment that calls itself a point is not found where it is served**: its fingerprint is
accepted, and a probe of it goes to another path. -/
theorem Caller.probe_of_dot :
    Fingerprint.ofString "." = .ok ⟨"."⟩ ∧
      (Host.new { ServerConfig.default with fingerprint := ⟨"."⟩ } ⟨1, by decide⟩ 0).map (fun h =>
        (Caller.mk Defaults.serverUrl).exchange (.probe ⟨"."⟩) fun posting =>
          ((Api.new h []).receive posting).2) = .ok (.error (.deploymentMismatch ".")) :=
  ⟨rfl, rfl⟩

end EventRelay

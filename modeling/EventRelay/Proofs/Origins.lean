/-
# The origins that a setting names

A setting is cut at its commas.  `Origins.Named` says which origins the pieces name: what is left of
a piece without the blanks around it, as long as that can stand in a header, piece by piece and as
often as it comes.  `Origins.admits_named` says what a server makes of them: it allows the named origins,
or the default one if there are none, so that there is always one; and it begins, once its other
settings are in order, exactly if the wildcard is not among them.

A setting of just the wildcard is taken as it is and keeps the server from beginning
(`Origins.wildcard_halts`).
-/

import EventRelay.CommandLine.Serve
import EventRelay.Proofs.Blanks

namespace EventRelay
namespace Origins

/-- A text that can be an origin: it is not empty, and all its characters can stand in a header. -/
def Usable (cs : List Char) : Prop :=
  cs ≠ [] ∧ ∀ c ∈ cs, c = '\t' ∨ (0x20 ≤ c.toNat ∧ c.toNat ≠ 0x7F)

/-- The origins that pieces name, in the order of the pieces. -/
inductive Named : List (List Char) → List String → Prop where
  | none : Named [] []
  | taken {piece rest : List Char} {pieces : List (List Char)} {origins : List String}
      (trimmed : Text.Trimmed piece rest) (usable : Usable rest) (others : Named pieces origins) :
      Named (piece :: pieces) (String.ofList rest :: origins)
  | passed {piece rest : List Char} {pieces : List (List Char)} {origins : List String}
      (trimmed : Text.Trimmed piece rest) (unusable : ¬ Usable rest)
      (others : Named pieces origins) : Named (piece :: pieces) origins

/-- The origins that a text names between its commas. -/
def Lists (text : String) (origins : List String) : Prop :=
  ∃ pieces, pieces ≠ [] ∧ (∀ piece ∈ pieces, ',' ∉ piece) ∧
    text.toList = [','].intercalate pieces ∧ Named pieces origins

/-- Whether a trimmed piece is taken. -/
def isTaken (s : String) : Bool := !s.isEmpty && isHeaderText s

theorem isTaken_iff {cs : List Char} : isTaken (String.ofList cs) = true ↔ Usable cs := by
  have hchar (c : Char) : isHeaderChar c = true ↔ c = '\t' ∨ (0x20 ≤ c.toNat ∧ c.toNat ≠ 0x7F) := by
    simp only [isHeaderChar, Bool.and_eq_true, Bool.or_eq_true, decide_eq_true_eq, beq_iff_eq,
      bne_iff_ne]
    constructor
    · rintro ⟨hlow | htab, hdel⟩
      · exact .inr ⟨hlow, hdel⟩
      · exact .inl htab
    · rintro (rfl | ⟨hlow, hdel⟩)
      · exact ⟨.inr rfl, by decide⟩
      · exact ⟨.inl hlow, hdel⟩
  have hempty : (String.ofList cs).isEmpty = false ↔ cs ≠ [] := by
    rw [← Bool.not_eq_true, String.isEmpty_iff, ne_eq, not_iff_not, String.ofList_eq_empty_iff]
  simp only [isTaken, Usable, isHeaderText, Bool.and_eq_true, Bool.not_eq_true', hempty,
    String.toList_ofList, List.all_eq_true, hchar]

/-- **Pieces name what is left of them once they are trimmed**, less what cannot be used. -/
theorem named_iff {pieces : List (List Char)} {origins : List String} :
    Named pieces origins ↔
      origins = (pieces.map fun piece => String.ofList (Text.trimChars piece)).filter isTaken := by
  constructor
  · intro h
    induction h with
    | none => rfl
    | taken trimmed usable _ ih =>
      rw [List.map_cons, Text.trimChars_eq_iff.2 trimmed,
        List.filter_cons_of_pos (isTaken_iff.2 usable), ih]
    | passed trimmed unusable _ ih =>
      rw [List.map_cons, Text.trimChars_eq_iff.2 trimmed,
        List.filter_cons_of_neg (isTaken_iff.not.2 unusable), ih]
  · rintro rfl
    induction pieces with
    | nil => exact .none
    | cons piece pieces ih =>
      have htrimmed := Text.trimmed_trimChars piece
      rw [List.map_cons]
      by_cases husable : Usable (Text.trimChars piece)
      · rw [List.filter_cons_of_pos (isTaken_iff.2 husable)]
        exact .taken htrimmed husable ih
      · rw [List.filter_cons_of_neg (isTaken_iff.not.2 husable)]
        exact .passed htrimmed husable ih

/-- No piece between the commas of a text holds a comma. -/
theorem not_mem_of_mem_splitOn {cs piece : List Char} (h : piece ∈ cs.splitOn ',') : ',' ∉ piece := by
  induction cs generalizing piece with
  | nil =>
    rw [List.splitOn_nil, List.mem_singleton] at h
    simp [h]
  | cons c cs ih =>
    rw [List.splitOn_cons_eq_if_modifyHead] at h
    split at h
    · rcases List.mem_cons.1 h with rfl | h
      · simp
      · exact ih h
    · rename_i hc
      obtain ⟨first, others, hsplit⟩ := List.exists_cons_of_ne_nil (List.splitOn_ne_nil ',' cs)
      rw [hsplit, List.modifyHead_cons] at h
      rw [hsplit] at ih
      rcases List.mem_cons.1 h with rfl | h
      · rw [List.mem_cons, not_or]
        exact ⟨fun heq => hc (by rw [heq, beq_self_eq_true]), ih (List.mem_cons_self ..)⟩
      · exact ih (List.mem_cons_of_mem _ h)

/-- **A text names one list of origins**: its trimmed pieces, less what cannot be used. -/
theorem lists_iff {text : String} {origins : List String} :
    Lists text origins ↔ origins = (pieces text).filter isTaken := by
  constructor
  · rintro ⟨parts, hne, hcomma, htext, hnamed⟩
    rw [named_iff.1 hnamed, pieces, htext, List.splitOn_intercalate ',' hcomma hne]
  · intro h
    exact ⟨text.toList.splitOn ',', List.splitOn_ne_nil _ _, fun _ => not_mem_of_mem_splitOn,
      (List.intercalate_splitOn ',').symm, named_iff.2 h⟩

/-- The origins of a text are those that it names, or the default one. -/
theorem ofList_eq (text : String) :
    ofList text = if (pieces text).filter isTaken = [] then [Defaults.origin]
      else (pieces text).filter isTaken := by
  unfold ofList isTaken
  split
  · rename_i h
    rw [if_pos h]
  · rename_i h
    rw [if_neg h]

end Origins

namespace CommandLine

variable {env : Environment}

/-- The settings of a server other than its origins: they can be honoured, its host is an address,
and there is room for its log. -/
def Sound (config : ServerConfig) : Prop :=
  config.validate = .ok () ∧ isListenable config.host = true ∧
    config.bufferCapacity ≤ Log.maxCapacity

/-- **What comes of settings that are in order** hangs on the origins alone. -/
theorem servePlan_of_sound (h : Sound (ServerConfig.ofEnvironment env)) :
    servePlan env =
      if Origins.servable (Origins.ofSetting (env.lookup "ALLOWED_ORIGINS")) = true then
        .ok (ServerConfig.ofEnvironment env, Origins.ofSetting (env.lookup "ALLOWED_ORIGINS"))
      else .error .unservableOrigins := by
  obtain ⟨hvalid, hhost, hroom⟩ := h
  obtain ⟨l, hlog⟩ := Log.exists_new_iff.2 ⟨(ServerConfig.validate_eq_ok_iff.1 hvalid).1, hroom⟩
  unfold servePlan
  simp only [hvalid, hhost, hlog]
  cases Origins.servable (Origins.ofSetting (env.lookup "ALLOWED_ORIGINS")) <;> rfl

/-- Other faults are told before the origins are looked at. -/
theorem servePlan_of_not_sound (h : ¬ Sound (ServerConfig.ofEnvironment env)) :
    ∃ halt, servePlan env = .error halt ∧ halt ≠ .unservableOrigins := by
  unfold servePlan
  cases hvalid : (ServerConfig.ofEnvironment env).validate with
  | error fault => exact ⟨.fault fault, by simp only [hvalid]; rfl, nofun⟩
  | ok _ =>
    cases hhost : isListenable (ServerConfig.ofEnvironment env).host with
    | false => exact ⟨.badAddress, by simp only [hvalid, hhost]; rfl, nofun⟩
    | true =>
      cases hlog : Log.new (ServerConfig.ofEnvironment env).bufferCapacity with
      | error obstacle =>
        refine ⟨.ofObstacle obstacle, by simp only [hvalid, hhost, hlog]; rfl, ?_⟩
        cases obstacle <;> nofun
      | ok l => exact absurd ⟨hvalid, hhost, (Log.exists_new_iff.1 ⟨l, hlog⟩).2⟩ h

end CommandLine

namespace Origins

/-- What a server makes of the origins that its setting names. -/
structure Admits (env : Environment) (named : List String) : Prop where
  /-- The setting names these origins and no others. -/
  unique : ∀ other, Lists ((env.lookup "ALLOWED_ORIGINS").getD "") other ↔ other = named
  /-- They are allowed, in their order and as often as they are named; without any, the default
  one is. -/
  allowed : ofSetting (env.lookup "ALLOWED_ORIGINS") =
    if named = [] then [Defaults.origin] else named
  /-- There is always an allowed origin. -/
  never_empty : ofSetting (env.lookup "ALLOWED_ORIGINS") ≠ []
  /-- The list can be served exactly if it is not the wildcard that is named. -/
  servable : servable (ofSetting (env.lookup "ALLOWED_ORIGINS")) = true ↔ wildcard ∉ named
  /-- A server whose other settings are in order begins with these origins, exactly then. -/
  begins : CommandLine.Sound (ServerConfig.ofEnvironment env) →
    (CommandLine.servePlan env =
        .ok (ServerConfig.ofEnvironment env, ofSetting (env.lookup "ALLOWED_ORIGINS")) ↔
      wildcard ∉ named)
  /-- It is for the wildcard alone that origins keep a server from beginning. -/
  halts : CommandLine.servePlan env = .error .unservableOrigins ↔
    CommandLine.Sound (ServerConfig.ofEnvironment env) ∧ wildcard ∈ named

/-- A list can be served exactly if the wildcard is not named. -/
theorem servable_ofList_iff (text : String) :
    servable (ofList text) = true ↔ wildcard ∉ (pieces text).filter isTaken := by
  rw [ofList_eq, servable, Bool.not_eq_true', List.contains_eq_mem, decide_eq_false_iff_not]
  split
  · rename_i hnone
    rw [hnone]
    decide
  · exact Iff.rfl

/-- **A server allows the origins that its setting names**, or the default one, and begins unless
the wildcard is among them. -/
theorem admits_named (env : Environment) : ∃ named, Admits env named := by
  have hservable := servable_ofList_iff ((env.lookup "ALLOWED_ORIGINS").getD "")
  refine ⟨_, fun other => lists_iff, ofList_eq _, ofList_ne_nil _, hservable, fun hsound => ?_, ?_⟩
  · rw [CommandLine.servePlan_of_sound hsound, ← hservable]
    by_cases h : Origins.servable (ofSetting (env.lookup "ALLOWED_ORIGINS")) = true
    · simp only [if_pos h]
      exact iff_of_true trivial h
    · rw [if_neg h]
      exact iff_of_false nofun h
  · by_cases hsound : CommandLine.Sound (ServerConfig.ofEnvironment env)
    · rw [CommandLine.servePlan_of_sound hsound, and_iff_right hsound, ← not_iff_not, ← hservable]
      by_cases h : Origins.servable (ofSetting (env.lookup "ALLOWED_ORIGINS")) = true
      · rw [if_pos h]
        exact iff_of_true nofun h
      · rw [if_neg h]
        exact iff_of_false (by simp) h
    · obtain ⟨halt, hhalt, hother⟩ := CommandLine.servePlan_of_not_sound hsound
      rw [hhalt]
      exact iff_of_false (by simpa using hother) fun h => hsound h.1

/-- **The wildcard is taken as an origin**, and a server that is given it does not begin. -/
theorem wildcard_halts :
    ofSetting (some "*") = ["*"] ∧ servable (ofSetting (some "*")) = false ∧
      CommandLine.servePlan [("ALLOWED_ORIGINS", "*")] = .error .unservableOrigins := by
  exact ⟨by decide, by decide, rfl⟩

end Origins
end EventRelay

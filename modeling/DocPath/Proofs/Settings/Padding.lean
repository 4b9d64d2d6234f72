import DocPath.Settings

/-! Blanks around the variables of an environment.

Both variables are read without their surrounding blanks, so whatever is padded is trimmed again
(`trim_pad`) and read as before. What stands in the way is the order of two rules. The flag is
trimmed first and counts as unset if nothing is left. The level counts as unset if it is empty as
it stands, and is trimmed only after that; so an empty level and a blank one are not read alike
(`readLevel_blank`). This is the one case in which padding makes a difference. -/
namespace DocPath

/-! ### Trimming -/

namespace Text

/-- A text of blanks alone, or of nothing. -/
def Blank (s : String) : Prop := ∀ c ∈ s.toList, isBlank c = true

instance (s : String) : Decidable (Blank s) := decidable_of_decidable_of_iff List.all_eq_true

theorem trimChars_blanks_append {before : List Char} (h : ∀ c ∈ before, isBlank c = true)
    (cs : List Char) : trimChars (before ++ cs) = trimChars cs := by
  rw [trimChars, trimChars, List.dropWhile_append_of_pos h]

theorem trimChars_append_blanks (cs : List Char) {after : List Char}
    (h : ∀ c ∈ after, isBlank c = true) : trimChars (cs ++ after) = trimChars cs := by
  rw [trimChars, trimChars, List.dropWhile_append]
  by_cases hblank : (cs.dropWhile isBlank).isEmpty = true
  · -- Nothing is left of the text, so the blanks behind it are dropped from the front.
    have hafter : (after ++ []).dropWhile isBlank = [] := List.dropWhile_append_of_pos h
    rw [List.append_nil] at hafter
    rw [if_pos hblank, List.isEmpty_iff.mp hblank, hafter]
  · have hreverse : ∀ c ∈ after.reverse, isBlank c = true := fun c hc =>
      h c (List.mem_reverse.mp hc)
    rw [if_neg hblank, List.reverse_append, List.dropWhile_append_of_pos hreverse]

def pad (before after s : String) : String := before ++ s ++ after

theorem pad_eq_empty_iff {before after s : String} :
    pad before after s = "" ↔ s = "" ∧ before ++ after = "" := by
  simp only [pad, String.append_eq_empty_iff, and_assoc, and_left_comm]

theorem trim_pad {before after : String} (hbefore : Blank before) (hafter : Blank after)
    (s : String) : trim (pad before after s) = trim s := by
  rw [trim, trim, pad, String.toList_append, String.toList_append,
    trimChars_append_blanks _ hafter, trimChars_blanks_append hbefore]

end Text

/-! ### Readings that agree -/

/-- The variable that is complained about. -/
def SettingsError.variableName : SettingsError → String
  | .level _ => "PATHWALK_LOG_LEVEL"
  | .flag _ => "PATHWALK_ATTRIBUTE_ACCESS"

/-- The message opens with the name of the variable. -/
theorem SettingsError.message_eq (e : SettingsError) :
    ∃ complaint, e.message = e.variableName ++ complaint := by
  cases e with
  | level got =>
    refine ⟨" must be a logging level name; got " ++ Text.quoted got, ?_⟩
    rw [← String.append_assoc]
    rfl
  | flag got =>
    refine ⟨" must be a boolean (1/0/true/false/yes/no/on/off); got " ++ Text.quoted got, ?_⟩
    rw [← String.append_assoc]
    rfl

namespace Settings

open Text (Blank pad trim)

/-- Two readings choose the same, or complain about the same variable. -/
inductive Agree {α : Type} : Except SettingsError α → Except SettingsError α → Prop where
  | chosen (a : α) : Agree (.ok a) (.ok a)
  | refused {e e' : SettingsError} : e.variableName = e'.variableName →
      Agree (.error e) (.error e')

theorem Agree.refl {α : Type} (r : Except SettingsError α) : Agree r r := by
  cases r with
  | ok a => exact .chosen a
  | error e => exact .refused rfl

/-- An environment is read one variable after the other. -/
theorem Agree.ofEnvironment {level level' flag flag' : Option String}
    (hlevel : Agree (readLevel level) (readLevel level'))
    (hflag : Agree (readFlag flag) (readFlag flag')) :
    Agree (ofEnvironment level flag) (ofEnvironment level' flag') := by
  rw [Settings.ofEnvironment, Settings.ofEnvironment]
  generalize readLevel level = r, readLevel level' = r' at hlevel
  generalize readFlag flag = q, readFlag flag' = q' at hflag
  cases hlevel with
  | refused h => exact .refused h
  | chosen name =>
    cases hflag with
    | refused h => exact .refused h
    | chosen access => exact .chosen _

/-- A level that is not empty is trimmed, and then it must be a known name. -/
theorem readLevel_some {s : String} (h : s ≠ "") :
    readLevel (some s) =
      if (Log.levelNumber? (Text.upper (trim s))).isSome = true then .ok (Text.upper (trim s))
      else .error (.level (Text.upper (trim s))) := by
  simp only [readLevel, if_neg h]

section

variable {before after : String} (hbefore : Blank before) (hafter : Blank after)

include hbefore hafter

theorem readLevel_pad {level : Option String} (h : level = some "" → before ++ after = "") :
    readLevel (level.map (pad before after)) = readLevel level := by
  cases level with
  | none => rfl
  | some s =>
    show readLevel (some (pad before after s)) = _
    by_cases hempty : s = ""
    · subst hempty
      rw [Text.pad_eq_empty_iff.mpr ⟨rfl, h rfl⟩]
    · have hpad : pad before after s ≠ "" := fun hpad => hempty (Text.pad_eq_empty_iff.mp hpad).1
      rw [readLevel_some hpad, readLevel_some hempty, Text.trim_pad hbefore hafter]

/-- Blanks alone are no level, and do not count as unset. -/
theorem readLevel_blank (h : before ++ after ≠ "") :
    readLevel (some (pad before after "")) = .error (.level "") := by
  have hpad : pad before after "" ≠ "" := fun hpad => h (Text.pad_eq_empty_iff.mp hpad).2
  rw [readLevel_some hpad, Text.trim_pad hbefore hafter]
  rfl

/-- However the flag is padded, it is read as before; only the complaint shows it as it is. -/
theorem readFlag_pad (flag : Option String) :
    Agree (readFlag (flag.map (pad before after))) (readFlag flag) := by
  cases flag with
  | none => exact .refl _
  | some raw =>
    show Agree (readFlag (some (pad before after raw))) _
    rw [readFlag, readFlag, Text.trim_pad hbefore hafter]
    generalize Text.lowerAscii (trim raw) = word
    -- Both are read by the same word, so each case is one for both.
    split
    · exact .refl _
    split
    · exact .refl _
    split
    · exact .refl _
    · exact .refused rfl

end

/-! ### Environments -/

theorem readFlag_error {flag : Option String} {e : SettingsError} (h : readFlag flag = .error e) :
    e.variableName = "PATHWALK_ATTRIBUTE_ACCESS" := by
  unfold readFlag at h
  split at h
  · cases h
  extract_lets word at h
  split at h
  · cases h
  split at h
  · cases h
  split at h
  · cases h
  cases h
  rfl

/-- An empty level is read as unset, so it is never the level that is complained about. -/
theorem not_agree_of_empty (flag : Option String) (got : String) :
    ¬ Agree (.error (.level got)) (ofEnvironment (some "") flag) := by
  intro h
  have hunset : readLevel (some "") = .ok initial.logLevel := by rfl
  rw [ofEnvironment, hunset] at h
  cases hflag : readFlag flag with
  | ok access =>
    rw [hflag] at h
    cases h
  | error e =>
    rw [hflag] at h
    cases h with
    | refused hname =>
      have hother : "PATHWALK_LOG_LEVEL" ≠ "PATHWALK_ATTRIBUTE_ACCESS" := by decide
      exact hother (hname.trans (readFlag_error hflag))

/-- **Blanks around the variables matter in one case.** Padded with blanks on either side, if they
are set at all, the variables give the same settings as before, or a complaint about the same
variable, exactly unless the level is empty and its padding is not. Then the level counts as unset
without the padding, and with it there is a complaint about the level. Every complaint opens with
the name of its variable. -/
theorem padding_agrees_iff (level flag : Option String) {before after before' after' : String}
    (hbefore : Blank before) (hafter : Blank after) (hbefore' : Blank before')
    (hafter' : Blank after') :
    (Agree (ofEnvironment (level.map (pad before after)) (flag.map (pad before' after')))
        (ofEnvironment level flag) ↔
      ¬ (level = some "" ∧ before ++ after ≠ "")) ∧
    (level = some "" → before ++ after ≠ "" →
      ofEnvironment (level.map (pad before after)) (flag.map (pad before' after')) =
        .error (.level "")) ∧
    ∀ e : SettingsError, ∃ complaint, e.message = e.variableName ++ complaint := by
  have hblank : level = some "" → before ++ after ≠ "" →
      ofEnvironment (level.map (pad before after)) (flag.map (pad before' after')) =
        .error (.level "") := by
    intro hlevel hpad
    subst hlevel
    show readLevel (some (pad before after "")) >>= _ = _
    rw [readLevel_blank hbefore hafter hpad]
    rfl
  refine ⟨⟨?_, ?_⟩, hblank, SettingsError.message_eq⟩
  · rintro hagree ⟨hlevel, hpad⟩
    rw [hblank hlevel hpad, hlevel] at hagree
    exact not_agree_of_empty flag "" hagree
  · intro h
    have hempty : level = some "" → before ++ after = "" := fun hlevel =>
      Classical.byContradiction fun hpad => h ⟨hlevel, hpad⟩
    apply Agree.ofEnvironment
    · rw [readLevel_pad hbefore hafter hempty]
      exact .refl _
    · exact readFlag_pad hbefore' hafter' flag

/-- A level and a wrong flag with blanks of several kinds around them, and an empty flag. -/
theorem padding_agrees_iff_wide_blanks :
    Blank "\t" ∧ Blank "\u3000\n" ∧ Blank "\u00a0" ∧
    Agree (ofEnvironment (some "\tinfo\u3000\n") (some "\u00a0maybe"))
      (ofEnvironment (some "info") (some "maybe")) ∧
    Agree (ofEnvironment (some "\tinfo\u3000\n") (some "\u00a0"))
      (ofEnvironment (some "info") (some "")) := by
  have htab : Blank "\t" := by decide
  have hwide : Blank "\u3000\n" := by decide
  have hspace : Blank "\u00a0" := by decide
  have hnone : Blank "" := by decide
  have hlevel : ¬ (some "info" = some "" ∧ "\t" ++ "\u3000\n" ≠ "") := by decide
  exact ⟨htab, hwide, hspace,
    (padding_agrees_iff (some "info") (some "maybe") htab hwide hspace hnone).1.mpr hlevel,
    (padding_agrees_iff (some "info") (some "") htab hwide hspace hnone).1.mpr hlevel⟩

/-- An empty level and one of a single blank are not read alike. -/
theorem blank_level_refused :
    Blank " " ∧ ofEnvironment (some "") none = .ok ⟨"WARNING", true⟩ ∧
    ofEnvironment (some (pad " " "" "")) none = .error (.level "") ∧
    ¬ Agree (ofEnvironment (some (pad " " "" "")) none) (ofEnvironment (some "") none) := by
  have hunset : ofEnvironment (some "") none = .ok ⟨"WARNING", true⟩ := by rfl
  have hblank : ofEnvironment (some (pad " " "" "")) none = .error (.level "") := by rfl
  refine ⟨by decide, hunset, hblank, ?_⟩
  rw [hblank]
  exact not_agree_of_empty none ""

end Settings

end DocPath

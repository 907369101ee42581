import Mathlib.Data.List.Perm.Basic
import Scrim.CommandLine.Arguments

/-!
# What a command line asks for

A command line reads in one way only (`reads_iff`): an option takes the token after it, whatever
that is, and only an option at the very end has none to take. What is asked for depends on the flags
that are named, on whether there is an unknown one, and on the words and the values of each option
in their order (`Scan.Alike.action`), so arguments that leave those orders alone can be rearranged
(`action_of_rearranged`).

The flags for the version and for help count before all else that can be read. They do not count
before an option without its value: exactly those command lines that name one of them and end with
such an option go amiss (`flags_first_iff`).
-/

namespace Scrim.CommandLine

/-! ## Reading -/

inductive Reads : List String → Scan → Prop where
  | nil : Reads [] { arguments := [] }
  | flag {token : String} {flag : Flag} {rest : List String} {scan : Scan}
      (known : Flag.ofToken? token = some flag) (tail : Reads rest scan) :
      Reads (token :: rest) (scan.cons (.flag flag))
  /-- The value may be anything, a flag and an option included. -/
  | setting {token value : String} {setting : Setting} {rest : List String} {scan : Scan}
      (known : Setting.ofToken? token = some setting) (tail : Reads rest scan) :
      Reads (token :: value :: rest) (scan.cons (.setting setting value))
  /-- An option at the end lacks its value. -/
  | lacking {token : String} {setting : Setting} (known : Setting.ofToken? token = some setting) :
      Reads [token] { arguments := [], incomplete := some token }
  | unknown {token : String} {rest : List String} {scan : Scan}
      (noFlag : Flag.ofToken? token = none) (noSetting : Setting.ofToken? token = none)
      (dash : token.startsWith "-" = true) (tail : Reads rest scan) :
      Reads (token :: rest) (scan.cons (.unknown token))
  | word {token : String} {rest : List String} {scan : Scan}
      (noFlag : Flag.ofToken? token = none) (noSetting : Setting.ofToken? token = none)
      (plain : token.startsWith "-" = false) (tail : Reads rest scan) :
      Reads (token :: rest) (scan.cons (.word token))

theorem setting_of_flag {token : String} {flag : Flag} (h : Flag.ofToken? token = some flag) :
    Setting.ofToken? token = none := by
  unfold Flag.ofToken? at h
  split at h
  case h_10 => cases h
  all_goals rfl

theorem reads_scan (tokens : List String) : Reads tokens (scan tokens) := by
  fun_induction scan tokens with
  | case1 => exact .nil
  | case2 token rest hSetting ih =>
      unfold Argument.ofToken
      split
      · next known hFlag => exact .flag hFlag ih
      · next hFlag =>
        split
        · next hDash => exact .unknown hFlag hSetting hDash ih
        · next hPlain => exact .word hFlag hSetting (Bool.eq_false_iff.mpr hPlain) ih
  | case3 token setting hSetting => exact .lacking hSetting
  | case4 token setting hSetting value rest ih => exact .setting hSetting ih

/-- There is only one way to read. -/
theorem Reads.eq_scan {tokens : List String} {read : Scan} (h : Reads tokens read) :
    read = scan tokens := by
  induction h with
  | nil => rfl
  | flag known tail ih => simp [scan, setting_of_flag known, Argument.ofToken, known, ih]
  | setting known tail ih => simp [scan, known, ih]
  | lacking known => simp [scan, known]
  | unknown noFlag noSetting dash tail ih =>
      simp [scan, noSetting, Argument.ofToken, noFlag, dash, ih]
  | word noFlag noSetting plain tail ih =>
      simp [scan, noSetting, Argument.ofToken, noFlag, plain, ih]

theorem reads_iff {tokens : List String} {read : Scan} : Reads tokens read ↔ read = scan tokens :=
  ⟨Reads.eq_scan, fun h => h ▸ reads_scan tokens⟩

/-! ## What counts -/

namespace Scan

variable {scan other : Scan}

theorem hasFlag_iff {flag : Flag} : scan.hasFlag flag = true ↔ .flag flag ∈ scan.arguments :=
  List.contains_iff_mem

theorem isSome_unknown?_iff :
    scan.unknown?.isSome = true ↔ ∃ token, .unknown token ∈ scan.arguments := by
  unfold unknown?
  rw [List.isSome_findSome?, List.any_eq_true]
  constructor
  · rintro ⟨argument, hMem, hSome⟩
    cases argument with
    | unknown token => exact ⟨token, hMem⟩
    | flag flag => cases hSome
    | setting setting value => cases hSome
    | word word => cases hSome
  · rintro ⟨token, hMem⟩
    exact ⟨_, hMem, rfl⟩

/-- What is asked for if no value is missing. -/
theorem action_request (h : scan.incomplete = none) :
    scan.request.action =
      if scan.hasFlag .version then .version
      else if scan.hasFlag .help then .help
      else if scan.unknown?.isSome then .misuse
      else scan.command.action := by
  unfold request
  rw [h]
  dsimp only
  split_ifs
  all_goals rfl

/-- A missing value counts before all else. -/
theorem action_request_of_incomplete (h : scan.incomplete.isSome = true) :
    scan.request.action = .misuse := by
  obtain ⟨token, hToken⟩ := Option.isSome_iff_exists.mp h
  unfold request
  rw [hToken]

structure Alike (scan other : Scan) : Prop where
  incomplete : scan.incomplete = other.incomplete
  flags : ∀ flag, scan.hasFlag flag = other.hasFlag flag
  unknown : scan.unknown?.isSome = other.unknown?.isSome
  words : scan.words = other.words
  values : ∀ setting, scan.values setting = other.values setting

theorem Alike.command (h : scan.Alike other) : scan.command = other.command := by
  have hOptions : scan.options = other.options := by
    unfold options
    rw [h.flags, h.flags, h.values]
  unfold Scan.command
  rw [h.words, h.values, hOptions]

theorem Alike.action (h : scan.Alike other) : scan.request.action = other.request.action := by
  cases hIncomplete : scan.incomplete with
  | none =>
      have hOther : other.incomplete = none := h.incomplete ▸ hIncomplete
      rw [action_request hIncomplete, action_request hOther, h.flags, h.flags, h.unknown,
        h.command]
  | some token =>
      have hSome : scan.incomplete.isSome = true := by
        rw [hIncomplete]
        rfl
      have hOther : other.incomplete.isSome = true := h.incomplete ▸ hSome
      rw [action_request_of_incomplete hSome, action_request_of_incomplete hOther]

end Scan

/-! ## Rearranging -/

def Argument.isWord : Argument → Bool
  | .word _ => true
  | _ => false

def Argument.gives (setting : Setting) : Argument → Bool
  | .setting given _ => given = setting
  | _ => false

/-- The same arguments in another order, but for the words and the values of each option, which
keep theirs. -/
structure Rearranged (arguments others : List Argument) : Prop where
  perm : arguments.Perm others
  words : arguments.filter Argument.isWord = others.filter Argument.isWord
  values : ∀ setting,
    arguments.filter (Argument.gives setting) = others.filter (Argument.gives setting)

theorem filterMap_eq_of_filter_eq {α β : Type} {pick : α → Option β} {part : α → Bool}
    {list other : List α} (hPick : ∀ a, part a = false → pick a = none)
    (h : list.filter part = other.filter part) : list.filterMap pick = other.filterMap pick := by
  have hPart (a : α) : (if part a then pick a else none) = pick a := by
    split
    · rfl
    · next hOutside => exact (hPick a (Bool.eq_false_iff.mpr hOutside)).symm
  simpa only [List.filterMap_filter, hPart] using congrArg (List.filterMap pick) h

namespace Rearranged

variable {arguments others : List Argument}

theorem alike (h : Rearranged arguments others) (incomplete : Option String) :
    Scan.Alike ⟨arguments, incomplete⟩ ⟨others, incomplete⟩ where
  incomplete := rfl
  flags flag := h.perm.contains_eq
  unknown := by
    rw [Bool.eq_iff_iff, Scan.isSome_unknown?_iff, Scan.isSome_unknown?_iff]
    exact exists_congr fun _ => h.perm.mem_iff
  words := by
    refine filterMap_eq_of_filter_eq (fun argument hOther => ?_) h.words
    cases argument with
    | word word => cases hOther
    | flag flag => rfl
    | setting setting value => rfl
    | unknown token => rfl
  values setting := by
    refine filterMap_eq_of_filter_eq (fun argument hOther => ?_) (h.values setting)
    cases argument with
    | setting given value => exact if_neg (of_decide_eq_false hOther)
    | word word => rfl
    | flag flag => rfl
    | unknown token => rfl

end Rearranged

/-- What is asked for does not depend on where the flags and the options stand. -/
theorem action_of_rearranged {tokens others : List String} {arguments rearranged : List Argument}
    (hReads : Reads tokens ⟨arguments, none⟩) (hOthers : Reads others ⟨rearranged, none⟩)
    (h : Rearranged arguments rearranged) :
    (Request.parse tokens).action = (Request.parse others).action := by
  unfold Request.parse
  rw [← hReads.eq_scan, ← hOthers.eq_scan]
  exact (h.alike none).action

/-- A value that looks like a flag, and a configuration given twice. -/
theorem action_of_flags_last :
    Reads ["-d", "sim", "-l", "--help", "-c", "a", "x.toml", "-c", "b"]
      ⟨[.flag .debug, .word "sim", .setting .log "--help", .setting .config "a", .word "x.toml",
        .setting .config "b"], none⟩ ∧
    Reads ["-c", "a", "-c", "b", "sim", "x.toml", "-l", "--help", "-d"]
      ⟨[.setting .config "a", .setting .config "b", .word "sim", .word "x.toml",
        .setting .log "--help", .flag .debug], none⟩ ∧
    (Request.parse ["-d", "sim", "-l", "--help", "-c", "a", "x.toml", "-c", "b"]).action =
      .simulate ⟨true, some "b", false⟩ "x.toml" (some "--help") ∧
    (Request.parse ["-d", "sim", "-l", "--help", "-c", "a", "x.toml", "-c", "b"]).action =
      (Request.parse ["-c", "a", "-c", "b", "sim", "x.toml", "-l", "--help", "-d"]).action := by
  have hReads : Reads ["-d", "sim", "-l", "--help", "-c", "a", "x.toml", "-c", "b"]
      ⟨[.flag .debug, .word "sim", .setting .log "--help", .setting .config "a", .word "x.toml",
        .setting .config "b"], none⟩ :=
    .flag rfl (.word rfl rfl (by simp) (.setting rfl (.setting rfl
      (.word rfl rfl (by simp) (.setting rfl .nil)))))
  have hOthers : Reads ["-c", "a", "-c", "b", "sim", "x.toml", "-l", "--help", "-d"]
      ⟨[.setting .config "a", .setting .config "b", .word "sim", .word "x.toml",
        .setting .log "--help", .flag .debug], none⟩ :=
    .setting rfl (.setting rfl (.word rfl rfl (by simp)
      (.word rfl rfl (by simp) (.setting rfl (.flag rfl .nil)))))
  refine ⟨hReads, hOthers, ?_, action_of_rearranged hReads hOthers ⟨by decide, by decide, ?_⟩⟩
  · unfold Request.parse
    rw [← hReads.eq_scan]
    decide
  · intro setting
    cases setting with
    | config => decide
    | log => decide

/-! ## Flags that count before all else -/

/-- The flag stands among the tokens, and not as the value of an option. -/
def Names (flag : Flag) (tokens : List String) : Prop :=
  ∃ read, Reads tokens read ∧ .flag flag ∈ read.arguments

/-- The tokens end with an option that lacks its value. -/
def LacksValue (tokens : List String) : Prop :=
  ∃ read, Reads tokens read ∧ read.incomplete.isSome = true

/-- The version is shown wherever its flag stands, and otherwise help wherever that does. -/
structure FlagsFirst (tokens : List String) : Prop where
  version : Names .version tokens → (Request.parse tokens).action = .version
  help : ¬Names .version tokens → Names .help tokens → (Request.parse tokens).action = .help

section Flags

variable {tokens : List String}

theorem names_iff {flag : Flag} : Names flag tokens ↔ (scan tokens).hasFlag flag = true := by
  simp [Names, reads_iff, Scan.hasFlag_iff]

theorem lacksValue_iff : LacksValue tokens ↔ (scan tokens).incomplete.isSome = true := by
  simp [LacksValue, reads_iff]

theorem LacksValue.action (h : LacksValue tokens) : (Request.parse tokens).action = .misuse :=
  Scan.action_request_of_incomplete (lacksValue_iff.mp h)

theorem flagsFirst_of_not_lacksValue (h : ¬LacksValue tokens) : FlagsFirst tokens := by
  have hNone : (scan tokens).incomplete = none := by
    simpa [lacksValue_iff] using h
  have hAction := Scan.action_request hNone
  constructor
  · intro hVersion
    exact hAction.trans (if_pos (names_iff.mp hVersion))
  · intro hVersion hHelp
    exact hAction.trans ((if_neg (names_iff.not.mp hVersion)).trans (if_pos (names_iff.mp hHelp)))

end Flags

/-- The flags for the version and for help count before all else exactly if none of them is named
in front of an option without its value. -/
theorem flags_first_iff (tokens : List String) :
    FlagsFirst tokens ↔
      ¬(LacksValue tokens ∧ (Names .version tokens ∨ Names .help tokens)) := by
  constructor
  · rintro hFirst ⟨hLacks, hNamed⟩
    have hMisuse := hLacks.action
    by_cases hVersion : Names .version tokens
    · cases hMisuse.symm.trans (hFirst.version hVersion)
    · have hHelp := hNamed.resolve_left hVersion
      cases hMisuse.symm.trans (hFirst.help hVersion hHelp)
  · intro h
    by_cases hLacks : LacksValue tokens
    · constructor
      · intro hVersion
        exact absurd ⟨hLacks, .inl hVersion⟩ h
      · intro _ hHelp
        exact absurd ⟨hLacks, .inr hHelp⟩ h
    · exact flagsFirst_of_not_lacksValue hLacks

/-- The version is not shown if the option behind its flag lacks a value. -/
theorem version_before_missing_value : ¬FlagsFirst ["--version", "--config"] := by
  intro h
  have hNames : Names .version ["--version", "--config"] := by
    rw [names_iff]
    decide
  have hMisuse : (Request.parse ["--version", "--config"]).action = .misuse := by
    decide
  cases hMisuse.symm.trans (h.version hNames)

end Scrim.CommandLine

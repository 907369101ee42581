import Mathlib.Data.List.Chain
import Mathlib.Data.List.TakeWhile
import Scrim.CommandLine.Run

/-!
# Color codes in log files

Color codes are taken out of whatever goes to a log file, line by line. A line whose words hold no
escape loses the colors of its tag and nothing else (`Line.uncolored_plain_render`).

What is kept may come together as a code. An escape before a code is kept, since no bracket
follows it; the code is skipped; a bracket behind it is kept, and stands next to the escape.
Exactly the texts in which a reader comes upon that (`Reforms`) are left with a code, and exactly
they change when they are read a second time (`codes_stripped_iff`). It takes two escapes in a
row, so there are no codes in a log file whose messages hold none of those
(`noEscapeBefore_logText`).
-/

namespace Scrim.Log

/-! ## Reading -/

/-- The text begins as a color code does: with an escape before a bracket. -/
def Opens (text : List Char) : Prop :=
  ['\x1b', '['] <+: text

def code (body : List Char) : List Char :=
  '\x1b' :: '[' :: (body ++ ['m'])

def NoEscapeBefore (next : Char) (text : List Char) : Prop :=
  text.IsChain fun c d => c = '\x1b' → d ≠ next

instance (next : Char) (text : List Char) : Decidable (NoEscapeBefore next text) :=
  inferInstanceAs (Decidable (text.IsChain fun c d => c = '\x1b' → d ≠ next))

section Characters

variable {c next : Char} {before rest : List Char}

theorem opens_cons_iff : Opens (c :: rest) ↔ c = '\x1b' ∧ rest.head? = some '[' := by
  unfold Opens
  rw [List.cons_prefix_cons]
  cases rest with
  | nil => simp
  | cons d rest => simp [eq_comm]

theorem not_opens_of_ne (h : c ≠ '\x1b') : ¬Opens (c :: rest) :=
  fun hOpens => h (opens_cons_iff.mp hOpens).1

theorem noEscapeBefore_bracket_cons_iff :
    NoEscapeBefore '[' (c :: rest) ↔ ¬Opens (c :: rest) ∧ NoEscapeBefore '[' rest := by
  unfold NoEscapeBefore
  rw [List.isChain_cons, opens_cons_iff]
  refine and_congr_left' ?_
  cases rest with
  | nil => simp
  | cons d rest => simp

theorem noEscapeBefore_cons_iff_of_ne (h : c ≠ '\x1b') :
    NoEscapeBefore next (c :: rest) ↔ NoEscapeBefore next rest := by
  unfold NoEscapeBefore
  rw [List.isChain_cons]
  simp [h]

theorem noEscapeBefore_append_cons_iff (h : c ≠ next) :
    NoEscapeBefore next (before ++ c :: rest) ↔
      NoEscapeBefore next before ∧ NoEscapeBefore next (c :: rest) := by
  unfold NoEscapeBefore
  rw [List.isChain_append]
  simp [h]

end Characters

section Pieces

variable {body : List Char}

theorem drop_dropWhile_of_not_mem (h : 'm' ∉ body) (rest : List Char) :
    ((body ++ 'm' :: rest).dropWhile (· ≠ 'm')).drop 1 = rest := by
  have hBody : ∀ c ∈ body, decide (c ≠ 'm') = true :=
    fun c hMem => decide_eq_true (ne_of_mem_of_not_mem hMem h)
  rw [List.dropWhile_append_of_pos hBody]
  rfl

theorem stripColors_cons {c : Char} {rest : List Char} (h : ¬Opens (c :: rest)) :
    stripColors (c :: rest) = c :: stripColors rest := by
  cases rest with
  | nil => simp [stripColors]
  | cons d rest =>
      rw [stripColors, if_neg]
      simpa [opens_cons_iff] using h

theorem stripColors_code_append (h : 'm' ∉ body) (rest : List Char) :
    stripColors (code body ++ rest) = stripColors rest := by
  simp only [code, List.cons_append, List.append_assoc, List.nil_append]
  rw [stripColors, if_pos ⟨rfl, rfl⟩, drop_dropWhile_of_not_mem h]

theorem stripColors_unclosed (h : 'm' ∉ body) : stripColors ('\x1b' :: '[' :: body) = [] := by
  have hBody : body.dropWhile (· ≠ 'm') = [] :=
    List.dropWhile_eq_nil_iff.mpr fun c hMem => decide_eq_true (ne_of_mem_of_not_mem hMem h)
  rw [stripColors, if_pos ⟨rfl, rfl⟩, hBody]
  exact stripColors.eq_1

end Pieces

/-- A text is read character by character and code by code, until it ends or a code does not. -/
@[elab_as_elim]
theorem reading_induction {motive : List Char → Prop} (nil : motive [])
    (keep : ∀ c rest, ¬Opens (c :: rest) → motive rest → motive (c :: rest))
    (skip : ∀ body rest, 'm' ∉ body → motive rest → motive (code body ++ rest))
    (unclosed : ∀ body, 'm' ∉ body → motive ('\x1b' :: '[' :: body))
    (text : List Char) : motive text := by
  induction text using stripColors.induct with
  | case1 => exact nil
  | case2 c => exact keep c [] (by simp [opens_cons_iff]) nil
  | case3 c d rest hOpens ih =>
      obtain ⟨rfl, rfl⟩ := hOpens
      by_cases hMem : 'm' ∈ rest
      · obtain ⟨body, after, rfl, hBody⟩ := List.eq_append_cons_of_mem hMem
        rw [drop_dropWhile_of_not_mem hBody] at ih
        simpa [code] using skip body after hBody ih
      · exact unclosed rest hMem
  | case4 c d rest hKept ih =>
      exact keep c (d :: rest) (by simpa [opens_cons_iff] using hKept) ih

/-! ## What is left -/

/-- Reading comes upon an escape that is parted from a bracket by complete codes and by nothing
else. There is at least one of them, or else the escape and the bracket open a code themselves. -/
inductive Reforms : List Char → Prop where
  | here (bodies : List (List Char)) (after : List Char) (parted : bodies ≠ [])
      (closed : ∀ body ∈ bodies, 'm' ∉ body) :
      Reforms ('\x1b' :: (bodies.flatMap code ++ '[' :: after))
  | keep {c : Char} {rest : List Char} (kept : ¬Opens (c :: rest)) (later : Reforms rest) :
      Reforms (c :: rest)
  | skip {body rest : List Char} (closed : 'm' ∉ body) (later : Reforms rest) :
      Reforms (code body ++ rest)

theorem not_opens_cons_flatMap_code {bodies : List (List Char)} (h : bodies ≠ []) (c : Char)
    (rest : List Char) : ¬Opens (c :: (bodies.flatMap code ++ rest)) := by
  cases bodies with
  | nil => exact absurd rfl h
  | cons body bodies => simp [opens_cons_iff, code]

theorem stripColors_flatMap_code_append {bodies : List (List Char)}
    (h : ∀ body ∈ bodies, 'm' ∉ body) (rest : List Char) :
    stripColors (bodies.flatMap code ++ rest) = stripColors rest := by
  induction bodies with
  | nil => rfl
  | cons body bodies ih =>
      rw [List.forall_mem_cons] at h
      rw [List.flatMap_cons, List.append_assoc, stripColors_code_append h.1, ih h.2]

section Left

variable {text : List Char}

/-- If a bracket is the first to be kept, there are only codes before it. -/
theorem eq_codes_append_of_head? (h : (stripColors text).head? = some '[') :
    ∃ (bodies : List (List Char)) (after : List Char), (∀ body ∈ bodies, 'm' ∉ body) ∧
      text = bodies.flatMap code ++ '[' :: after := by
  induction text using reading_induction with
  | nil => simp [stripColors] at h
  | keep c rest hKept ih =>
      rw [stripColors_cons hKept] at h
      cases h
      exact ⟨[], rest, by simp, rfl⟩
  | skip body rest hBody ih =>
      rw [stripColors_code_append hBody] at h
      obtain ⟨bodies, after, hBodies, rfl⟩ := ih h
      exact ⟨body :: bodies, after, List.forall_mem_cons.mpr ⟨hBody, hBodies⟩, by simp⟩
  | unclosed body hBody =>
      rw [stripColors_unclosed hBody] at h
      cases h

theorem reforms_of_not_noEscapeBefore (h : ¬NoEscapeBefore '[' (stripColors text)) :
    Reforms text := by
  induction text using reading_induction with
  | nil => simp [stripColors, NoEscapeBefore] at h
  | keep c rest hKept ih =>
      rw [stripColors_cons hKept, noEscapeBefore_bracket_cons_iff, not_and_or, not_not] at h
      obtain hOpens | hLater := h
      · obtain ⟨rfl, hHead⟩ := opens_cons_iff.mp hOpens
        obtain ⟨bodies, after, hBodies, rfl⟩ := eq_codes_append_of_head? hHead
        refine .here bodies after ?_ hBodies
        rintro rfl
        exact hKept (by simp [opens_cons_iff])
      · exact .keep hKept (ih hLater)
  | skip body rest hBody ih =>
      rw [stripColors_code_append hBody] at h
      exact .skip hBody (ih h)
  | unclosed body hBody => simp [stripColors_unclosed hBody, NoEscapeBefore] at h

theorem Reforms.not_noEscapeBefore (h : Reforms text) :
    ¬NoEscapeBefore '[' (stripColors text) := by
  induction h with
  | here bodies after hParted hClosed =>
      rw [stripColors_cons (not_opens_cons_flatMap_code hParted _ _),
        stripColors_flatMap_code_append hClosed, stripColors_cons (not_opens_of_ne (by decide)),
        noEscapeBefore_bracket_cons_iff]
      exact fun hLeft => hLeft.1 (by simp [opens_cons_iff])
  | keep hKept later ih =>
      rw [stripColors_cons hKept, noEscapeBefore_bracket_cons_iff]
      exact fun hLeft => ih hLeft.2
  | skip hClosed later ih =>
      rw [stripColors_code_append hClosed]
      exact ih

theorem noEscapeBefore_stripColors_iff :
    NoEscapeBefore '[' (stripColors text) ↔ ¬Reforms text :=
  ⟨fun h hReforms => hReforms.not_noEscapeBefore h,
    fun h => by_contra fun hLeft => h (reforms_of_not_noEscapeBefore hLeft)⟩

theorem Reforms.not_single (h : Reforms text) : ¬NoEscapeBefore '\x1b' text := by
  induction h with
  | here bodies after hParted hClosed =>
      cases bodies with
      | nil => exact absurd rfl hParted
      | cons body bodies => simp [NoEscapeBefore, code]
  | keep hKept later ih => exact fun hSingle => ih hSingle.tail
  | skip hClosed later ih => exact fun hSingle => ih hSingle.right_of_append

theorem stripColors_sublist (text : List Char) : (stripColors text).Sublist text := by
  induction text using reading_induction with
  | nil => simp [stripColors]
  | keep c rest hKept ih =>
      rw [stripColors_cons hKept]
      exact ih.cons_cons c
  | skip body rest hBody ih =>
      rw [stripColors_code_append hBody]
      exact ih.trans (List.sublist_append_right _ _)
  | unclosed body hBody =>
      rw [stripColors_unclosed hBody]
      exact List.nil_sublist _

/-- Only a text without codes is left as it is. -/
theorem stripColors_eq_self_iff : stripColors text = text ↔ NoEscapeBefore '[' text := by
  induction text using reading_induction with
  | nil => simp [stripColors, NoEscapeBefore]
  | keep c rest hKept ih =>
      rw [stripColors_cons hKept, noEscapeBefore_bracket_cons_iff, List.cons_inj_right, ih]
      exact (and_iff_right hKept).symm
  | skip body rest hBody ih =>
      rw [stripColors_code_append hBody]
      refine iff_of_false (fun h => ?_) (fun h => ?_)
      · have hLength := (stripColors_sublist rest).length_le
        have hCode : 0 < (code body).length := by simp [code]
        rw [h, List.length_append] at hLength
        omega
      · simp [code, NoEscapeBefore] at h
  | unclosed body hBody =>
      rw [stripColors_unclosed hBody]
      refine iff_of_false (fun h => ?_) (fun h => ?_)
      · cases h
      · simp [NoEscapeBefore] at h

end Left

section Text

variable {text : String}

theorem toList_plain (text : String) : (plain text).toList = stripColors text.toList :=
  String.toList_ofList

theorem noEscapeBefore_plain_iff :
    NoEscapeBefore '[' (plain text).toList ↔ ¬Reforms text.toList := by
  rw [toList_plain, noEscapeBefore_stripColors_iff]

theorem plain_eq_self_iff : plain text = text ↔ NoEscapeBefore '[' text.toList := by
  rw [← stripColors_eq_self_iff, String.ext_iff, toList_plain]

end Text

/-! ## Lines -/

theorem stripColors_append_of_not_mem {before : List Char} (h : '\x1b' ∉ before)
    (rest : List Char) : stripColors (before ++ rest) = before ++ stripColors rest := by
  induction before with
  | nil => rfl
  | cons c before ih =>
      rw [List.mem_cons, not_or] at h
      rw [List.cons_append, stripColors_cons (not_opens_of_ne (Ne.symm h.1)), ih h.2]
      rfl

theorem stripColors_of_not_mem {text : List Char} (h : '\x1b' ∉ text) :
    stripColors text = text := by
  simpa [stripColors] using stripColors_append_of_not_mem h []

theorem Style.not_mem_of_level? {style : Style} {color word : String}
    (h : style.level? = some (color, word)) : 'm' ∉ color.toList ∧ '\x1b' ∉ word.toList := by
  cases style <;> simp only [Style.level?, Option.some.injEq, Prod.mk.injEq, reduceCtorEq] at h
  all_goals
    obtain ⟨rfl, rfl⟩ := h
    decide

theorem stripColors_levelTag_append {color word : String} (hColor : 'm' ∉ color.toList)
    (hWord : '\x1b' ∉ word.toList) (rest : List Char) :
    stripColors ((levelTag color word).toList ++ rest) =
      s!"[{word}]".toList ++ stripColors rest := by
  have hTag : (levelTag color word).toList ++ rest =
      ['['] ++ (code color.toList ++ (word.toList ++ (code ['0'] ++ ([']'] ++ rest)))) := by
    simp [levelTag, code, toString]
  rw [hTag, stripColors_append_of_not_mem (by decide), stripColors_code_append hColor,
    stripColors_append_of_not_mem hWord, stripColors_code_append (by decide),
    stripColors_append_of_not_mem (by decide)]
  simp [toString]

namespace Line

variable {line : Line} {lead : String}

/-- The text is that of the line, but for the colors of its tag, if it has one. -/
def Uncolored (line : Line) (lead text : String) : Prop :=
  match line.style.level? with
  | none => text = line.render lead
  | some (color, word) => ∃ before after : String,
      line.render lead = before ++ levelTag color word ++ after ∧
      text = before ++ s!"[{word}]" ++ after

theorem exists_render_of_level? {color word : String} (h : line.style.level? = some (color, word))
    (hLead : '\x1b' ∉ lead.toList) :
    ∃ corner : String, '\x1b' ∉ corner.toList ∧
      line.render lead = corner ++ levelTag color word ++ s!" {line.message}\n" := by
  unfold render
  rw [h]
  dsimp only
  split
  · exact ⟨s!"{lead}┃\n{lead}┗", by simp [hLead, toString], by simp [String.append_assoc, toString]⟩
  · exact ⟨s!"{lead}┣", by simp [hLead, toString], by simp [String.append_assoc, toString]⟩

theorem not_mem_render_of_level? (h : line.style.level? = none) (hLead : '\x1b' ∉ lead.toList)
    (hMessage : '\x1b' ∉ line.message.toList) : '\x1b' ∉ (line.render lead).toList := by
  unfold render
  rw [h]
  dsimp only
  split
  all_goals simp [hLead, hMessage, programVersion, toString]

theorem uncolored_plain_render (hLead : '\x1b' ∉ lead.toList)
    (hMessage : '\x1b' ∉ line.message.toList) :
    line.Uncolored lead (plain (line.render lead)) := by
  unfold Uncolored
  split
  · next h =>
    rw [String.ext_iff, toList_plain]
    exact stripColors_of_not_mem (not_mem_render_of_level? h hLead hMessage)
  · next color word h =>
    obtain ⟨corner, hCorner, hRender⟩ := exists_render_of_level? h hLead
    obtain ⟨hColor, hWord⟩ := Style.not_mem_of_level? h
    refine ⟨corner, s!" {line.message}\n", hRender, ?_⟩
    rw [hRender, String.ext_iff, toList_plain, String.append_assoc, String.toList_append,
      stripColors_append_of_not_mem hCorner, String.toList_append,
      stripColors_levelTag_append hColor hWord,
      stripColors_of_not_mem (by simp [hMessage, toString])]
    simp

end Line

/-- A text is free of codes once they are taken out, and does not change when that is done again,
exactly if no code comes together from what is kept. A line whose words hold no escape loses the
colors of its tag and nothing else. -/
theorem codes_stripped_iff (text : String) (line : Line) (lead : String) :
    (NoEscapeBefore '[' (plain text).toList ↔ ¬Reforms text.toList) ∧
    (plain (plain text) = plain text ↔ ¬Reforms text.toList) ∧
    ('\x1b' ∉ lead.toList → '\x1b' ∉ line.message.toList →
      line.Uncolored lead (plain (line.render lead))) := by
  refine ⟨noEscapeBefore_plain_iff, ?_, Line.uncolored_plain_render⟩
  rw [plain_eq_self_iff, noEscapeBefore_plain_iff]

/-- Two codes in a row, one that is not closed, and the last line of a run that failed. -/
theorem codes_stripped_from_error :
    ¬Reforms "\x1b[1m\x1b[31mred\x1b[0".toList ∧
    '\x1b' ∉ "[t] ".toList ∧ '\x1b' ∉ "failed".toList ∧
    (⟨.errorExit, "failed"⟩ : Line).Uncolored "[t] " "[t] ┃\n[t] ┗[ERROR] failed\n" := by
  have hRed : plain "\x1b[1m\x1b[31mred\x1b[0" = "red" := by decide +kernel
  have hText : plain ((⟨.errorExit, "failed"⟩ : Line).render "[t] ") =
      "[t] ┃\n[t] ┗[ERROR] failed\n" := by
    decide +kernel
  have hLead : '\x1b' ∉ "[t] ".toList := by decide
  have hMessage : '\x1b' ∉ "failed".toList := by decide
  obtain ⟨hFree, -, hUncolored⟩ :=
    codes_stripped_iff "\x1b[1m\x1b[31mred\x1b[0" ⟨.errorExit, "failed"⟩ "[t] "
  rw [hRed] at hFree
  rw [hText] at hUncolored
  exact ⟨hFree.mp (by decide), hLead, hMessage, hUncolored hLead hMessage⟩

/-- The name of a file in which an escape stands before a code, and a bracket behind it. -/
theorem path_left_colored :
    ¬NoEscapeBefore '[' (plain "\x1b\x1b[m[31mred.toml").toList ∧
    plain (plain "\x1b\x1b[m[31mred.toml") ≠ plain "\x1b\x1b[m[31mred.toml" := by
  have hReforms : Reforms "\x1b\x1b[m[31mred.toml".toList :=
    .here [[]] "31mred.toml".toList (by simp) (by simp)
  rw [ne_eq, plain_eq_self_iff, noEscapeBefore_plain_iff]
  exact ⟨not_not_intro hReforms, not_not_intro hReforms⟩

/-! ## Files -/

namespace Line

variable {line : Line} {lead : String}

theorem noEscapeBefore_render (hLead : NoEscapeBefore '\x1b' lead.toList)
    (hMessage : NoEscapeBefore '\x1b' line.message.toList) :
    NoEscapeBefore '\x1b' (line.render lead).toList := by
  obtain ⟨style, message⟩ := line
  have hNil : NoEscapeBefore '\x1b' [] := .nil
  have hOpens {rest : List Char} :
      NoEscapeBefore '\x1b' ('\x1b' :: '[' :: rest) ↔ NoEscapeBefore '\x1b' ('[' :: rest) := by
    simp [NoEscapeBefore]
  cases style
  all_goals
    simp [render, Style.level?, levelTag, programVersion, toString,
      noEscapeBefore_append_cons_iff, noEscapeBefore_cons_iff_of_ne, hOpens, hLead, hMessage, hNil]

theorem getLast?_render (line : Line) (lead : String) :
    (line.render lead).toList.getLast? = some '\n' := by
  obtain ⟨style, message⟩ := line
  cases style
  all_goals simp [render, Style.level?, programVersion, toString, List.getLast?_cons]

end Line

section Escapes

variable {text : List Char}

theorem opens_of_stripColors_eq_nil (h : stripColors text = []) (hSome : text ≠ []) :
    Opens text := by
  cases text with
  | nil => exact absurd rfl hSome
  | cons c rest =>
      by_contra hKept
      rw [stripColors_cons hKept] at h
      cases h

/-- What comes after the last character kept is skipped, so it begins with an escape. -/
theorem getLast?_of_stripColors (hSingle : NoEscapeBefore '\x1b' text)
    (h : (stripColors text).getLast? = some '\x1b') : text.getLast? = some '\x1b' := by
  induction text using reading_induction with
  | nil => simp [stripColors] at h
  | keep c rest hKept ih =>
      rw [stripColors_cons hKept] at h
      by_cases hStripped : stripColors rest = []
      · rw [hStripped] at h
        cases h
        cases rest with
        | nil => rfl
        | cons d rest =>
            have hOpens := opens_of_stripColors_eq_nil hStripped (List.cons_ne_nil d rest)
            exact absurd (opens_cons_iff.mp hOpens).1 (hSingle.rel rfl)
      · rw [List.getLast?_cons_of_ne_nil hStripped] at h
        rw [List.getLast?_cons, ih hSingle.tail h]
        rfl
  | skip body rest hBody ih =>
      rw [stripColors_code_append hBody] at h
      rw [List.getLast?_append, ih hSingle.right_of_append h]
      rfl
  | unclosed body hBody => simp [stripColors_unclosed hBody] at h

end Escapes

/-- A log file is free of color codes if neither the time nor a message holds two escapes in a
row. -/
theorem noEscapeBefore_logText (switches : Switches) {time : String} {lines : List Line}
    (hTime : NoEscapeBefore '\x1b' time.toList)
    (hMessages : ∀ line ∈ lines, NoEscapeBefore '\x1b' line.message.toList) :
    NoEscapeBefore '[' (CommandLine.logText switches time lines).toList := by
  unfold CommandLine.logText
  induction lines with
  | nil => exact .nil
  | cons line lines ih =>
      rw [List.forall_mem_cons] at hMessages
      rw [List.filter_cons]
      split
      · have hSingle := Line.noEscapeBefore_render hTime hMessages.1
        rw [List.map_cons, String.join_cons, String.toList_append, toList_plain]
        -- A row starts with the bracket of the time, so the one before must not end in an escape.
        refine .append (noEscapeBefore_stripColors_iff.mpr fun h => h.not_single hSingle)
          (ih hMessages.2) fun c hLast d _ hEscape => ?_
        have hNewline := getLast?_of_stripColors hSingle (hEscape ▸ hLast)
        rw [Line.getLast?_render] at hNewline
        cases hNewline
      · exact ih hMessages.2

/-- Of two escapes in a row, the second can open a code that takes the end of its row with it.
The first one then meets the time of the next row. -/
example : CommandLine.logText {} "[t] " [⟨.decorated, "a\x1b\x1b[b"⟩, ⟨.closing, ""⟩] =
    "[t] ┣ a\x1b[t] ╹\n" := by
  decide +kernel

end Scrim.Log

import Mathlib
import Lineage.Browser.Line
import Lineage.Proofs.Text.Blank

/-! Typed lines. Every command has its words, and takes one thing or another after them. Main statement: a
line that says a command asks for that command, with its argument, and blanks around a line do not matter;
a line of blanks asks for nothing; and what is not understood is a line that no command accepts. -/

namespace Lineage

namespace Browser.Line

open Text

variable {command : Line} {word rest text : String}

/-! Words. -/

/-- The words that a line for a command may open with. -/
def keywords : Line → List String
  | server _ => ["server"]
  | refs => ["refs"]
  | select _ => ["select"]
  | log => ["log"]
  | status => ["status"]
  | help => ["help", "?"]
  | quit => ["quit", "exit"]
  | empty | unknown _ => []

/-- What stands after the word, for commands that have an argument. -/
def argument : Line → String
  | server url => url
  | select target => target
  | _ => ""

/-- What may follow the word: `help` and `quit` do not care. -/
def Takes : Line → String → Prop
  | server url, rest => rest = url ∧ url ≠ ""
  | select target, rest => rest = target ∧ target ≠ ""
  | refs, rest | log, rest | status, rest => rest = ""
  | help, _ | quit, _ => True
  | empty, _ | unknown _, _ => False

/-- A line of `word` and `rest`, with blanks around them. -/
inductive Opens (word : String) : String → String → Prop
  | alone {before after : String} (hbefore : isAllBlank before = true) (hafter : isAllBlank after = true) :
      Opens word "" (before ++ word ++ after)
  | followed {before gap rest after : String} (hbefore : isAllBlank before = true)
      (hgap : isAllBlank gap = true) (apart : gap ≠ "") (visible : rest ≠ "") (ends : trim rest = rest)
      (hafter : isAllBlank after = true) : Opens word rest (before ++ word ++ gap ++ rest ++ after)

/-- The written forms of a command: one of its words, and its argument if it has one. -/
def Says (command : Line) (text : String) : Prop :=
  command.Takes command.argument ∧ ∃ word ∈ command.keywords, Opens word command.argument text

/-- A line on which a command finds its word, and after it something that it takes. -/
def Accepts (command : Line) (text : String) : Prop :=
  ∃ word ∈ command.keywords, ∃ rest, command.Takes rest ∧ Opens word rest text

theorem Says.accepts (h : command.Says text) : command.Accepts text := by
  obtain ⟨takes, word, hword, opens⟩ := h
  exact ⟨word, hword, command.argument, takes, opens⟩

theorem keywords_ne_nil_of_accepts (h : command.Accepts text) : command.keywords ≠ [] := by
  obtain ⟨word, hword, -⟩ := h
  exact List.ne_nil_of_mem hword

theorem keywords_visible (h : word ∈ command.keywords) :
    word.toList ≠ [] ∧ ∀ c ∈ word.toList, isBlank c = false := by
  cases command <;> simp only [keywords, List.mem_cons, List.not_mem_nil, or_false] at h
  case help | quit =>
    rcases h with rfl | rfl <;> exact ⟨by simp, by simp [isBlank]⟩
  all_goals
    subst h
    exact ⟨by simp, by simp [isBlank]⟩

/-! The cut. -/

/-- A line is cut where its word ends. -/
theorem Opens.cut (h : Opens word rest text) (hne : word.toList ≠ [])
    (hword : ∀ c ∈ word.toList, isBlank c = false) :
    cutAtBlank (trimmed text.toList) = (word.toList, rest.toList) := by
  cases h with
  | alone hbefore hafter =>
      rw [String.toList_append, String.toList_append, trimmed_append_right (List.all_eq_true.1 hafter),
        trimmed_append_left (List.all_eq_true.1 hbefore), trimmed_of_not_isBlank hword,
        cutAtBlank_of_not_isBlank hword]
      rfl
  | @followed before gap rest after hbefore hgap apart visible ends hafter =>
      have hrest : rest.toList ≠ [] := mt String.toList_eq_nil_iff.1 visible
      have hline : trimmed (word.toList ++ gap.toList ++ rest.toList) =
          word.toList ++ gap.toList ++ rest.toList :=
        trimmed_append_append (trimmed_of_not_isBlank hword) hne (trimmed_of_trim ends) hrest
      have htext : (before ++ word ++ gap ++ rest ++ after).toList =
          before.toList ++ (word.toList ++ gap.toList ++ rest.toList) ++ after.toList := by
        simp
      rw [htext, trimmed_append_right (List.all_eq_true.1 hafter),
        trimmed_append_left (List.all_eq_true.1 hbefore), hline]
      -- The line is cut at the first blank of the gap, and trimming takes off the others.
      obtain ⟨blank, more, hcons⟩ := List.exists_cons_of_ne_nil (mt String.toList_eq_nil_iff.1 apart)
      have hblanks : ∀ c ∈ gap.toList, isBlank c = true := List.all_eq_true.1 hgap
      rw [hcons] at hblanks ⊢
      obtain ⟨hblank, hmore⟩ := List.forall_mem_cons.1 hblanks
      rw [List.append_assoc, List.cons_append, cutAtBlank_append hword hblank, trimmed_append_left hmore,
        trimmed_of_trim ends]

/-- Every line but a blank one has a word to open it. -/
theorem exists_opens (h : isAllBlank text = false) :
    ∃ word rest, cutAtBlank (trimmed text.toList) = (word.toList, rest.toList) ∧ word ≠ "" ∧
      Opens word rest text := by
  obtain ⟨before, after, hbefore, hafter, htext⟩ := exists_trimmed text.toList
  have hne : trim text ≠ "" := by
    rw [Ne, trim_eq_empty_iff, h]
    nofun
  have blank {cs : List Char} (hcs : ∀ c ∈ cs, isBlank c = true) : isAllBlank (String.ofList cs) = true := by
    rw [isAllBlank, String.toList_ofList, List.all_eq_true.2 hcs]
  by_cases hblank : ∃ c ∈ trimmed text.toList, isBlank c = true
  · obtain ⟨word, gap, rest, hcut, hline, hword, hgap, apart, ends, hrest⟩ :=
      exists_cutAtBlank (trimmed_trimmed text.toList) hblank
    rw [hline] at htext
    have hsplit : text = String.ofList before ++ String.ofList word ++ String.ofList gap ++
        String.ofList rest ++ String.ofList after := by
      rw [← String.toList_inj, htext]
      simp
    refine ⟨String.ofList word, String.ofList rest, ?_, by simpa using hword, ?_⟩
    · rw [hcut, String.toList_ofList, String.toList_ofList]
    · rw [hsplit]
      refine .followed (blank hbefore) (blank hgap) ?_ ?_ ?_ (blank hafter)
      · simpa using apart
      · simpa using hrest
      · rw [trim, String.toList_ofList, ends]
  · have visible : ∀ c ∈ trimmed text.toList, isBlank c = false := by
      intro c hc
      exact Bool.eq_false_of_not_eq_true fun hc' => hblank ⟨c, hc, hc'⟩
    have hsplit : text = String.ofList before ++ trim text ++ String.ofList after := by
      rw [← String.toList_inj, htext]
      simp [trim]
    refine ⟨trim text, "", ?_, hne, ?_⟩
    · rw [cutAtBlank_of_not_isBlank visible, trim, String.toList_ofList]
      rfl
    · have opens : Opens (trim text) "" (String.ofList before ++ trim text ++ String.ofList after) :=
        .alone (blank hbefore) (blank hafter)
      rwa [← hsplit] at opens

/-! What is asked for. -/

theorem parse_congr {other : String} (h : trim text = trim other) : parse text = parse other := by
  have hline : trimmed text.toList = trimmed other.toList := String.ofList_injective h
  rw [parse, parse, hline]

theorem parse_of_accepts (h : command.Accepts text) : parse text = command := by
  obtain ⟨word, hword, rest, takes, opens⟩ := h
  obtain ⟨hne, hvisible⟩ := keywords_visible hword
  have hcut := opens.cut hne hvisible
  simp only [parse, hcut, String.ofList_toList]
  cases command with
  | server url | select url =>
      obtain rfl := List.mem_singleton.1 hword
      obtain ⟨rfl, hurl⟩ := takes
      simp [hurl]
  | refs | log | status =>
      obtain rfl := List.mem_singleton.1 hword
      obtain rfl := takes
      rfl
  | help | quit =>
      simp only [keywords, List.mem_cons, List.not_mem_nil, or_false] at hword
      rcases hword with rfl | rfl <;> rfl
  | empty | unknown => cases takes

/-- A line is blank, or some command accepts it, or it is not understood. -/
theorem parse_cases (text : String) :
    isAllBlank text = true ∧ parse text = .empty ∨
      isAllBlank text = false ∧ (parse text = .unknown (trim text) ∨ (parse text).Accepts text) := by
  cases hblank : isAllBlank text with
  | true =>
      refine .inl ⟨rfl, ?_⟩
      rw [parse, trimmed_eq_nil_iff.2 (List.all_eq_true.1 hblank)]
      rfl
  | false =>
      obtain ⟨word, rest, hcut, hne, opens⟩ := exists_opens hblank
      have hempty : rest.toList.isEmpty = true ↔ rest = "" := by
        rw [List.isEmpty_iff, String.toList_eq_nil_iff]
      have accepts {command : Line} (hword : word ∈ command.keywords) (takes : command.Takes rest) :
          command.Accepts text := ⟨word, hword, rest, takes, opens⟩
      refine .inr ⟨rfl, ?_⟩
      -- One case for each word, and two where it matters whether anything follows.
      simp only [parse, hcut, String.ofList_toList, hempty]
      split
      case h_1 => contradiction
      case h_7 | h_8 | h_9 | h_10 => exact .inr (accepts (by simp [keywords]) trivial)
      case h_11 => exact .inl rfl
      all_goals split
      case h_2.isFalse hrest | h_4.isFalse hrest => exact .inr (accepts (List.mem_singleton_self _) ⟨rfl, hrest⟩)
      case h_3.isTrue hrest | h_5.isTrue hrest | h_6.isTrue hrest =>
        exact .inr (accepts (List.mem_singleton_self _) hrest)
      all_goals exact .inl rfl

theorem accepts_iff : command.Accepts text ↔ parse text = command ∧ command.keywords ≠ [] := by
  constructor
  · intro h
    exact ⟨parse_of_accepts h, keywords_ne_nil_of_accepts h⟩
  · rintro ⟨rfl, asks⟩
    obtain ⟨-, hempty⟩ | ⟨-, hunknown | accepts⟩ := parse_cases text
    · rw [hempty] at asks
      contradiction
    · rw [hunknown] at asks
      contradiction
    · exact accepts

theorem parse_eq_empty_iff : parse text = .empty ↔ isAllBlank text = true := by
  obtain ⟨hblank, hempty⟩ | ⟨hvisible, hunknown | accepts⟩ := parse_cases text
  · exact iff_of_true hempty hblank
  · rw [hunknown, hvisible]
    exact iff_of_false nofun nofun
  · refine iff_of_false ?_ (by rw [hvisible]; nofun)
    intro hempty
    rw [hempty] at accepts
    exact keywords_ne_nil_of_accepts accepts rfl

theorem parse_trim (text : String) : parse (trim text) = parse text :=
  parse_congr (trim_trim text)

/-- What is left of a line that is not understood is the line, and no command accepts it. -/
theorem parse_eq_unknown_iff {line : String} :
    parse text = .unknown line ↔
      line = trim text ∧ line ≠ "" ∧ ∀ command : Line, ¬command.Says line ∧ ¬command.Accepts line := by
  constructor
  · intro h
    obtain ⟨-, hempty⟩ | ⟨hvisible, hunknown | accepts⟩ := parse_cases text
    · rw [h] at hempty
      contradiction
    · rw [h] at hunknown
      injection hunknown with hline
      have hrefused : ∀ command : Line, ¬command.Accepts line := by
        intro command accepts
        obtain ⟨hcommand, asks⟩ := accepts_iff.1 accepts
        rw [hline, parse_trim, h] at hcommand
        rw [← hcommand] at asks
        exact asks rfl
      refine ⟨hline, ?_, fun command => ⟨fun written => hrefused command written.accepts, hrefused command⟩⟩
      rw [hline, Ne, trim_eq_empty_iff, hvisible]
      nofun
    · rw [h] at accepts
      exact absurd rfl (keywords_ne_nil_of_accepts accepts)
  · rintro ⟨rfl, hne, hrefused⟩
    obtain ⟨hblank, -⟩ | ⟨-, hunknown | accepts⟩ := parse_cases text
    · exact absurd (trim_eq_empty_iff.2 hblank) hne
    · exact hunknown
    · refine absurd (accepts_iff.2 ⟨parse_trim text, ?_⟩) (hrefused (parse text)).2
      exact keywords_ne_nil_of_accepts accepts

/-- Lines are read as they are written. -/
theorem written_lines_are_understood :
    (∀ (command : Line) (text : String), command.Says text → parse text = command) ∧
    (∀ (command : Line) (text : String),
      command.Accepts text ↔ parse text = command ∧ command.keywords ≠ []) ∧
    (∀ before text after : String, isAllBlank before = true → isAllBlank after = true →
      parse (before ++ text ++ after) = parse text) ∧
    (∀ text : String, parse text = .empty ↔ isAllBlank text = true) ∧
    ∀ text line : String, parse text = .unknown line ↔
      line = trim text ∧ line ≠ "" ∧ ∀ command : Line, ¬command.Says line ∧ ¬command.Accepts line := by
  refine ⟨?_, ?_, ?_, ?_, ?_⟩
  · intro command text written
    exact parse_of_accepts written.accepts
  · intro command text
    exact accepts_iff
  · intro before text after hbefore hafter
    exact parse_congr (trim_around hbefore hafter text)
  · intro text
    exact parse_eq_empty_iff
  · intro text line
    exact parse_eq_unknown_iff

theorem words_after_select_are_understood :
    (select "two words").Says "  select \t two words \n" ∧
      parse "  select \t two words \n" = .select "two words" := by
  have written : (select "two words").Says ("  " ++ "select" ++ " \t " ++ "two words" ++ " \n") := by
    refine ⟨⟨rfl, by decide⟩, "select", List.mem_singleton_self _, ?_⟩
    exact .followed rfl rfl (by decide) (by decide) (by decide) rfl
  exact ⟨written, written_lines_are_understood.1 _ _ written⟩

theorem parse_select {target : String} (named : target ≠ "") (h : trim target = target) :
    parse ("select " ++ target) = .select target := by
  have opens : Opens "select" target ("" ++ "select" ++ " " ++ target ++ "") :=
    .followed rfl rfl (by decide) named h rfl
  have accepts : (select target).Accepts ("" ++ "select" ++ " " ++ target ++ "") :=
    ⟨"select", List.mem_singleton_self _, target, ⟨rfl, named⟩, opens⟩
  rw [String.empty_append, String.append_empty] at accepts
  exact parse_of_accepts accepts

end Browser.Line

end Lineage

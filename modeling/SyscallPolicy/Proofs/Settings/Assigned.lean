import SyscallPolicy.Proofs.Settings.Valid
import SyscallPolicy.Proofs.Settings.Written
import SyscallPolicy.Proofs.Toml.Complete

/-!
# Settings of documents

A document is read as the settings that it sets, or the first rule that they break is named,
and whatever else stands in it makes no difference (`settings_of_documents`).  There is one
limit to that: a reader does not follow values that nest too deep, even where nobody looks at
them (`nested_value_refused`).
-/

namespace SyscallPolicy

open Elimination (Runner Search)
open Toml.Reader (maxDepth)

namespace Assignment

variable {a : Assignment}

/-- The rules hold for the settings if they hold for the values that are set. -/
theorem validate_settings (a : Assignment) : a.settings.validate =
    if a.parallel = some 0 then .error .parallelPositive
    else if a.candidates = some [] then .error .candidatesNonempty
    else if a.timeoutSecs = some 0 then .error .timeoutPositive
    else .ok () := by
  have htimeout : a.settings.runner.timeoutSecs = 0 ↔ a.timeoutSecs = some 0 := by
    show a.timeoutSecs.getD 60 = 0 ↔ _
    cases a.timeoutSecs <;> simp
  rw [Settings.validate]
  simp only [htimeout]
  rfl

/-- What a document is read as, in terms of the first rule that the values break. -/
theorem ofText_eq_ok_iff_of_isDocument {text : String}
    (hdocument : a.IsDocument maxDepth maxDepth text) :
    (Settings.ofText text = .ok a.settings ↔
      a.parallel ≠ some 0 ∧ a.candidates ≠ some [] ∧ a.timeoutSecs ≠ some 0) ∧
    ∀ message, a.complaint? = some message →
      ∃ failure, Settings.ofText text = .error failure ∧ failure.message = message := by
  rw [ofText_of_isDocument hdocument, validate_settings, complaint?]
  split_ifs with hparallel hcandidates htimeout
  · refine ⟨by simp [hparallel], fun message hmessage => ?_⟩
    obtain rfl := Option.some.inj hmessage
    exact ⟨_, rfl, rfl⟩
  · refine ⟨by simp [hcandidates], fun message hmessage => ?_⟩
    obtain rfl := Option.some.inj hmessage
    exact ⟨_, rfl, rfl⟩
  · refine ⟨by simp [htimeout], fun message hmessage => ?_⟩
    obtain rfl := Option.some.inj hmessage
    exact ⟨_, rfl, rfl⟩
  · exact ⟨by simp [hparallel, hcandidates, htimeout], by simp⟩

/-- Documents set exactly the settings that they name.  A document that sets some values, in
whatever order and among whatever else, is read as the default settings with these values put
in if and only if the trials at one time are not none, the candidates are not an empty list
and the timeout is not zero.  Otherwise the first rule that is broken is named.  There is such
a document for all values with numbers of 63 bits.  And whatever text gives settings gives
valid ones, with which a search has the candidates listed, or the common ones, each once and at
least one, and as many workers as they say, or as there are processors, and at least one. -/
theorem settings_of_documents :
    (∀ (a : Assignment) (text : String), a.IsDocument maxDepth maxDepth text →
      (Settings.ofText text = .ok a.settings ↔
        a.parallel ≠ some 0 ∧ a.candidates ≠ some [] ∧ a.timeoutSecs ≠ some 0) ∧
      ∀ message, a.complaint? = some message →
        ∃ failure, Settings.ofText text = .error failure ∧ failure.message = message) ∧
    (∀ a : Assignment, a.InRange → ∃ text, a.IsDocument maxDepth maxDepth text) ∧
    ∀ (text : String) (settings : Settings), Settings.ofText text = .ok settings →
      settings.validate = .ok () ∧
      ∀ (runner : Runner) (processors : ℕ) (s : Search), 1 ≤ processors →
        s = (Search.new runner processors).withSettings settings.search →
          IsFirstSeen s.candidates.names
            (settings.search.candidates.getD Syscall.commonCandidates) ∧
          s.candidates.names ≠ [] ∧
          s.parallel = settings.search.parallel.getD processors ∧ 1 ≤ s.parallel := by
  refine ⟨fun a text hdocument => ofText_eq_ok_iff_of_isDocument hdocument,
    fun a hrange => exists_isDocument hrange (by decide) (by decide), ?_⟩
  intro text settings htext
  have hvalid := (Settings.ofText_eq_ok_iff.mp htext).2
  exact ⟨hvalid, fun runner processors s hprocessors hs =>
    Elimination.search_of_valid hvalid hprocessors hs⟩

/-! ### A document written by hand -/

section ByHand

open Toml

/-- A document with an array that goes over a line, comments, a section below another one, a
moment, an integer in hexadecimal digits and an escaped character. -/
def byHand : String :=
  "\"x y\" = [1, # one\n 2.5e3,]\n[runner] # limits\ntimeout_secs = 0x10\n\n" ++
    "[runner.extra]\nwhen = 1979-05-27 07:32:00Z\n[log]\npath = \"/l\\u00e9\""

/-- The values that it sets. -/
def assignedByHand : Assignment :=
  { logPath := some "/lé", timeoutSecs := some 16 }

theorem isRemark_of_all (inside : String) (hinside : inside.toList.all Lexeme.isText = true) :
    IsRemark ('#' :: inside.toList) :=
  .inr ⟨inside.toList, rfl, List.all_eq_true.mp hinside⟩

theorem spellsPart_bare {name : String} (hne : name.toList ≠ [])
    (hplain : name.toList.all Lexeme.isBare = true) : SpellsPart name.toList name := by
  have hpart := SpellsPart.bare hne (List.all_eq_true.mp hplain)
  rwa [String.ofList_toList] at hpart

/-- A key without quotes, and its value behind an equals sign. -/
theorem spellsPair_bare {width depth : ℕ} (hwidth : 1 ≤ width) (name : String)
    {text : List Char} {value : Toml} (hne : name.toList ≠ [])
    (hplain : name.toList.all Lexeme.isBare = true)
    (hvalue : Spells width depth text value) :
    SpellsPair width depth (name.toList ++ [' '] ++ '=' :: ([' '] ++ text)) ⟨[], name, value⟩ :=
  .pair (.last (spellsPart_bare hne hplain) isBlanks_space) hwidth isBlanks_space hvalue

theorem spellsStatement_header (name : String) (hne : name.toList ≠ [])
    (hplain : name.toList.all Lexeme.isBare = true) :
    SpellsStatement maxDepth maxDepth ('[' :: ([] ++ (name.toList ++ [] ++ [']'])))
      (.header false [] name) :=
  .header isBlanks_nil (.last (spellsPart_bare hne hplain) isBlanks_nil)
    (by decide : 1 ≤ maxDepth)

theorem spells_items_byHand :
    Spells maxDepth maxDepth "[1, # one\n 2.5e3,]".toList (.array [.integer 1, .float]) := by
  have hdigit : ∀ c : Char, c.isDigit = true → SpellsDigits Char.isDigit [c] [c] := fun _ => .last
  have hone : SpellsInteger "1".toList 1 := .decimal .none (.digits (hdigit '1' rfl) (by decide))
  have hfloat : SpellsFloat "2.5e3".toList :=
    .decimal .none (.digits (hdigit '2' rfl) (by decide)) (.some (hdigit '5' rfl))
      (.some (.inl rfl) .none (hdigit '3' rfl)) (.inl (by simp))
      (.inr (overflows_eq_false_iff.mp (by decide +kernel)))
  have hspace : IsSpace " # one\n ".toList :=
    .blank rfl (.line (isRemark_of_all " one" (by decide)) (.inl rfl) (.blank rfl .nil))
  exact .array (.more .nil (.integer hone (by decide) (by decide)) .nil
    (.more hspace (.float hfloat) .nil (.none .nil)))

theorem spellsPair_items_byHand : SpellsPair maxDepth maxDepth
    ("\"x y\"".toList ++ [' '] ++ '=' :: ([' '] ++ "[1, # one\n 2.5e3,]".toList))
    ⟨[], "x y", .array [.integer 1, .float]⟩ := by
  have hname : SpellsPart "\"x y\"".toList "x y" := .basic (spellsBasic_escaped "x y".toList)
  exact .pair (.last hname isBlanks_space) (by decide : 1 ≤ maxDepth) isBlanks_space
    spells_items_byHand

theorem spellsStatement_extra : SpellsStatement maxDepth maxDepth "[runner.extra]".toList
    (.header false ["runner"] "extra") := by
  have hrunner : SpellsPart "runner".toList "runner" := spellsPart_bare (by decide) (by decide)
  have hextra : SpellsPart "extra".toList "extra" := spellsPart_bare (by decide) (by decide)
  have hkey : SpellsKey ("runner".toList ++ ([] ++ '.' :: ([] ++ ("extra".toList ++ []))))
      (["runner"] ++ ["extra"]) :=
    .more hrunner isBlanks_nil isBlanks_nil (.last hextra isBlanks_nil)
  exact .header isBlanks_nil hkey (by decide)

theorem spellsMoment_byHand : SpellsMoment "1979-05-27 07:32:00Z".toList := by
  have hdate : SpellsDate "1979-05-27".toList :=
    .day (by decide : 19 < 100) (by decide : 79 < 100) (by decide : 1 ≤ 5) (by decide)
      (by decide : 1 ≤ 27) (by decide)
  have htime : SpellsTime "07:32:00".toList :=
    .time (by decide : 7 ≤ 23) (by decide : 32 ≤ 59) (by decide : 0 ≤ 60) (.inl rfl)
  exact .both hdate (.inr (.inr rfl)) htime (.zero (.inl rfl))

theorem spells_path_byHand :
    Spells maxDepth maxDepth
      ('"' :: ('/' :: 'l' :: '\\' :: (['u', '0', '0', 'e', '9'] ++ []) ++ ['"']))
      (.string "/lé") := by
  have hescape : SpellsEscape ('u' :: ['0', '0', 'e', '9']) 'é' := .four rfl (by decide +kernel)
  exact .string (.basic (.plain (by decide) (by decide) (by decide)
    (.plain (by decide) (by decide) (by decide) (.escape hescape .nil))))

theorem document_byHand : Document maxDepth maxDepth byHand.toList
    [.pair ⟨[], "x y", .array [.integer 1, .float]⟩,
      .header false [] "runner", .pair ⟨[], "timeout_secs", .integer 16⟩,
      .header false ["runner"] "extra", .pair ⟨[], "when", .moment⟩,
      .header false [] "log", .pair ⟨[], "path", .string "/lé"⟩] := by
  have hwidth : 1 ≤ maxDepth := by decide
  have hpath := spellsPair_bare hwidth "path" (by decide) (by decide) spells_path_byHand
  have hwhen := spellsPair_bare hwidth "when" (by decide) (by decide)
    (.moment spellsMoment_byHand : Spells maxDepth maxDepth _ _)
  have htimeout : SpellsInteger "0x10".toList 16 :=
    .hexadecimal (.next (by decide) (.last (by decide)))
  have htimeoutPair := spellsPair_bare hwidth "timeout_secs" (by decide) (by decide)
    (.integer htimeout (by decide) (by decide) : Spells maxDepth maxDepth _ _)
  -- From the last line to the first one.
  have hlast := SpellsLines.last (.full isBlanks_nil (.pair hpath) isBlanks_nil (.inl rfl))
  have hbelow := SpellsLines.cons spellsStatement_extra <|
    .cons (.pair hwhen) <| .cons (spellsStatement_header "log" (by decide) (by decide)) hlast
  have htimeoutOn := SpellsLines.cons (.pair htimeoutPair) <|
    .more (.empty isBlanks_nil (.inl rfl)) (.inl rfl) hbelow
  have hlines := SpellsLines.cons (.pair spellsPair_items_byHand) <|
    .more (.full isBlanks_nil (spellsStatement_header "runner" (by decide) (by decide))
      isBlanks_space (isRemark_of_all " limits" (by decide))) (.inl rfl) htimeoutOn
  exact ⟨_, .inl (by decide +kernel), hlines⟩

/-- The sections of the document. -/
theorem isSetBy_byHand : assignedByHand.IsSetBy [⟨[], "x y", .array [.integer 1, .float]⟩]
    [⟨false, [], "runner", [⟨[], "timeout_secs", .integer 16⟩]⟩,
      ⟨false, ["runner"], "extra", [⟨[], "when", .moment⟩]⟩,
      ⟨false, [], "log", [⟨[], "path", .string "/lé"⟩]⟩] where
  sections :=
    { top_ne := by decide
      tables := by
        intro name hname
        have hgroup : name = "log" ∨ name = "synthesis" ∨ name = "brute_force" ∨
            name = "runner" := by
          simpa [SettingsKey.groups] using hname
        rcases hgroup with rfl | rfl | rfl | rfl
        all_goals exact
          { once := by decide
            single := by decide
            apart := by simp [AreApart, pairsOf, Section.IsNamed]
            below_ne := by decide }
      others := by decide +kernel }
  plain := by
    intro key
    cases key <;> decide
  name_notMem := by
    intro key
    cases key <;> decide
  mem_iff := by
    intro key value
    cases key <;> simp [pairsOf, Section.IsNamed, SettingsKey.group, SettingsKey.name, value?,
      assignedByHand, eq_comm]

end ByHand

/-- The document written by hand, a search with its settings, and a document in which two rules
are broken. -/
theorem settings_of_two_documents :
    assignedByHand.IsDocument maxDepth maxDepth byHand ∧
    Settings.ofText byHand =
      .ok { log := { path := "/lé" }, runner := { timeoutSecs := 16 } } ∧
    (∃ s, s = (Search.new (fun _ => .ok ()) 4).withSettings {} ∧ s.parallel = 4 ∧
      IsFirstSeen s.candidates.names Syscall.commonCandidates ∧ s.candidates.names ≠ []) ∧
    ∃ (text : String) (failure : SettingsFailure),
      IsDocument { parallel := some 0, timeoutSecs := some 0 } maxDepth maxDepth text ∧
      Settings.ofText text = .error failure ∧
      failure.message = "max_parallel_probes must be >= 1" := by
  obtain ⟨hread, hwritten, hvalid⟩ := settings_of_documents
  have hdocument : assignedByHand.IsDocument maxDepth maxDepth byHand :=
    ⟨_, document_byHand, isSetBy_byHand⟩
  have hbyHand := (hread _ _ hdocument).1.mpr ⟨by decide, by decide, by decide⟩
  obtain ⟨hseen, hnames, hparallel, -⟩ :=
    (hvalid _ _ hbyHand).2 (fun _ => .ok ()) 4 _ (by decide) rfl
  obtain ⟨text, hbroken⟩ := hwritten { parallel := some 0, timeoutSecs := some 0 }
    ⟨by simp, by simp⟩
  obtain ⟨failure, hfailure, hmessage⟩ := (hread _ _ hbroken).2 _ rfl
  exact ⟨hdocument, hbyHand, ⟨_, rfl, hparallel, hseen, hnames⟩, text, failure, hbroken, hfailure,
    hmessage⟩

/-! ### A value that nests too deep -/

/-- Brackets in one another, closed again. -/
def nested (depth : ℕ) : List Char :=
  List.replicate depth '[' ++ List.replicate depth ']'

/-- They are an array that nests to this depth. -/
theorem spells_nested (width depth : ℕ) :
    ∃ value, Toml.Spells width (depth + 1) (nested (depth + 1)) value := by
  have hbrackets : ∀ depth, nested (depth + 1) = '[' :: (nested depth ++ [']']) := by
    intro depth
    rw [nested, nested, List.replicate_succ, List.replicate_succ', List.cons_append,
      List.append_assoc]
  induction depth with
  | zero => exact ⟨.array [], .array (.none .nil)⟩
  | succ depth ih =>
    obtain ⟨value, hvalue⟩ := ih
    have hitems := Toml.SpellsItems.last .nil hvalue .nil
    rw [List.append_nil, List.nil_append] at hitems
    rw [hbrackets]
    exact ⟨_, .array hitems⟩

/-- The grammar lets values nest to any depth, and nothing is said about the key of this one.
But eighty brackets are one more than the reader follows, and so it refuses the document. -/
theorem nested_value_refused :
    ({} : Assignment).IsDocument 1 80 (String.ofList ("x = ".toList ++ nested 80)) ∧
    ({} : Assignment).complaint? = none ∧
    Settings.ofText (String.ofList ("x = ".toList ++ nested 80)) = .error .malformed := by
  obtain ⟨value, hvalue⟩ := spells_nested 1 79
  have hpair : Toml.SpellsPair 1 80 ("x".toList ++ [' '] ++ '=' :: ([' '] ++ nested 80))
      ⟨[], "x", value⟩ := spellsPair_bare le_rfl "x" (by decide) (by decide) hvalue
  have hlines := Toml.SpellsLines.last
    (.full Toml.isBlanks_nil (.pair hpair) Toml.isBlanks_nil (.inl rfl))
  have hset : ({} : Assignment).IsSetBy [⟨[], "x", value⟩] [] :=
    { sections :=
        { top_ne := by simp [Toml.Pair.first, SettingsKey.groups]
          tables := fun name _ =>
            ⟨by simp, by simp, List.Pairwise.nil, by simp [Toml.pairsOf]⟩
          others := rfl }
      plain := by simp [Toml.pairsOf]
      name_notMem := by simp [Toml.namesBelow]
      mem_iff := by
        intro key value
        cases key <;> simp [Toml.pairsOf, value?] }
  have hread : (Toml.read? ("x = ".toList ++ nested 80)).isNone = true := by decide +kernel
  refine ⟨⟨_, ⟨_, .inl (by rw [String.toList_ofList]; simp [nested]), hlines⟩, hset⟩, rfl, ?_⟩
  rw [Settings.ofText, String.toList_ofList, Option.isNone_iff_eq_none.mp hread]
  rfl

end Assignment

end SyscallPolicy

import Mathlib.Data.List.TakeWhile
import SyscallPolicy.Proofs.Toml.Spelling

/-!
# Reading the words of TOML

Blanks, comments, line ends, strings and keys.  Each lemma says that the reader takes
exactly the word that is spelled and leaves what follows.  What follows must not go on with
the word: a blank behind blanks, a quote behind a string, or a letter behind a key.
-/

namespace SyscallPolicy.Toml

open Lexeme

variable {text content rest : List Char}

/-! ## Runs of characters -/

section Runs

variable {p : Char → Bool} (hall : ∀ c ∈ text, p c = true)
  (hover : ∀ c, rest.head? = some c → p c = false)
include hall hover

theorem takeWhile_append_rest : (text ++ rest).takeWhile p = text := by
  rw [List.takeWhile_append_of_pos hall]
  cases rest with
  | nil => simp
  | cons c rest => simp [hover c rfl]

theorem dropWhile_append_rest : (text ++ rest).dropWhile p = rest := by
  rw [List.dropWhile_append_of_pos hall]
  cases rest with
  | nil => rfl
  | cons c rest => simp [hover c rfl]

end Runs

/-! ## Blanks, line ends and comments -/

theorem isBlanks_nil : IsBlanks [] := by simp [IsBlanks]

theorem isBlanks_space : IsBlanks [' '] := by simp [IsBlanks, isBlank]

theorem skipBlanks_append {blanks : List Char} (hblanks : IsBlanks blanks) (rest : List Char) :
    skipBlanks (blanks ++ rest) = skipBlanks rest :=
  List.dropWhile_append_of_pos hblanks

theorem skipBlanks_cons {c : Char} (hc : isBlank c = false) (rest : List Char) :
    skipBlanks (c :: rest) = c :: rest := by
  rw [skipBlanks, List.dropWhile_cons_of_neg]
  simp [hc]

theorem skipBlanks_append_cons {blanks : List Char} (hblanks : IsBlanks blanks) {c : Char}
    (hc : isBlank c = false) (rest : List Char) :
    skipBlanks (blanks ++ c :: rest) = c :: rest := by
  rw [skipBlanks_append hblanks, skipBlanks_cons hc]

theorem lineFeed?_append {feed : List Char} (hfeed : IsFeed feed) (rest : List Char) :
    lineFeed? (feed ++ rest) = some rest := by
  rcases hfeed with rfl | rfl <;> rfl

theorem IsFeed.exists_cons {feed : List Char} (hfeed : IsFeed feed) :
    ∃ c others, feed = c :: others ∧ isText c = false ∧ isBlank c = false ∧ c ≠ '#' := by
  rcases hfeed with rfl | rfl
  · exact ⟨'\n', [], rfl, by decide, by decide, by decide⟩
  · exact ⟨'\r', ['\n'], rfl, by decide, by decide, by decide⟩

/-- Whether a line is over where a text begins, and what stands behind its end. -/
def EndsLine (rest next : List Char) : Prop :=
  (rest = [] ∧ next = []) ∨ ∃ feed, IsFeed feed ∧ rest = feed ++ next

theorem EndsLine.head {next : List Char} {c : Char} (hends : EndsLine rest next)
    (hc : rest.head? = some c) : isText c = false ∧ isBlank c = false ∧ c ≠ '#' := by
  rcases hends with ⟨rfl, -⟩ | ⟨feed, hfeed, rfl⟩
  · simp at hc
  · obtain ⟨d, more, rfl, hd⟩ := hfeed.exists_cons
    cases hc
    exact hd

/-- A comment is skipped with all of its characters. -/
theorem skipComment_append {remark next : List Char} (hremark : IsRemark remark)
    (hends : EndsLine rest next) : skipComment (remark ++ rest) = rest := by
  rcases hremark with rfl | ⟨inside, rfl, hinside⟩
  · rw [List.nil_append, skipComment.eq_def]
    split
    · exact absurd rfl (hends.head rfl).2.2
    · rfl
  · rw [List.cons_append, skipComment]
    exact dropWhile_append_rest hinside fun c hc => (hends.head hc).1

/-- Blanks in front of a comment or a line end are skipped, and no more. -/
theorem skipBlanks_remark {blanks remark next : List Char} (hblanks : IsBlanks blanks)
    (hremark : IsRemark remark) (hends : EndsLine rest next) :
    skipBlanks (blanks ++ (remark ++ rest)) = remark ++ rest := by
  rw [skipBlanks_append hblanks]
  rcases hremark with rfl | ⟨inside, rfl, -⟩
  · cases rest with
    | nil => rfl
    | cons c rest => exact skipBlanks_cons (hends.head rfl).2.1 rest
  · exact skipBlanks_cons (by decide) _

/-- The rest of a line without a statement is skipped with its end. -/
theorem endOfLine?_append {blanks remark next : List Char} (hblanks : IsBlanks blanks)
    (hremark : IsRemark remark) (hends : EndsLine rest next) :
    endOfLine? (blanks ++ (remark ++ rest)) = some next := by
  rw [endOfLine?, skipBlanks_remark hblanks hremark hends, skipComment_append hremark hends]
  rcases hends with ⟨rfl, rfl⟩ | ⟨feed, rfl | rfl, rfl⟩ <;> rfl

theorem skipLines_blank {c : Char} (hc : isBlank c = true) (rest : List Char) :
    skipLines (c :: rest) = skipLines rest := by
  rw [skipLines]
  · simp [hc]
  · rintro others rfl
    simp [isBlank] at hc

theorem skipLines_feed {feed : List Char} (hfeed : IsFeed feed) (rest : List Char) :
    skipLines (feed ++ rest) = skipLines rest := by
  rcases hfeed with rfl | rfl
  · rw [List.singleton_append, skipLines]
    · simp
    · simp
  · rw [List.cons_append, List.singleton_append, skipLines]

/-- A character at which blanks and line ends are over. -/
def IsSolid (c : Char) : Prop :=
  isBlank c = false ∧ c ≠ '\n' ∧ c ≠ '\r'

theorem skipLines_cons {c : Char} (hc : IsSolid c) (rest : List Char) :
    skipLines (c :: rest) = c :: rest := by
  rw [skipLines]
  · simp [hc.1, hc.2.1]
  · rintro others rfl
    exact absurd rfl hc.2.2

theorem skipLines_append {space : List Char} (hspace : IsVoid space)
    (hover : ∀ c, rest.head? = some c → IsSolid c) : skipLines (space ++ rest) = rest := by
  induction hspace with
  | nil =>
    cases rest with
    | nil => rfl
    | cons c rest => exact skipLines_cons (hover c rfl) rest
  | blank hblank _ ih => rw [List.cons_append, skipLines_blank hblank, ih]
  | feed hfeed _ ih => rw [List.append_assoc, skipLines_feed hfeed, ih]

theorem skipSpace_congr {fuel : ℕ} {s t : List Char} (hskip : skipLines s = skipLines t) :
    Reader.skipSpace (fuel + 1) s = Reader.skipSpace (fuel + 1) t := by
  rw [Reader.skipSpace, Reader.skipSpace, hskip]

/-- Blanks, comments and line ends are skipped together. -/
theorem skipSpace_append {space : List Char} (hspace : IsSpace space) {c : Char} (hc : IsSolid c)
    (hne : c ≠ '#') {fuel : ℕ} (hfuel : space.length < fuel) (rest : List Char) :
    Reader.skipSpace fuel (space ++ c :: rest) = c :: rest := by
  induction hspace generalizing fuel with
  | nil =>
    obtain ⟨fuel, rfl⟩ := Nat.exists_eq_add_one_of_ne_zero (Nat.ne_zero_of_lt hfuel)
    rw [List.nil_append, Reader.skipSpace, skipLines_cons hc]
    split
    · rename_i heq
      exact absurd (List.cons.inj heq).1 hne
    · rfl
  | blank hblank _ ih =>
    rw [List.length_cons] at hfuel
    obtain ⟨fuel, rfl⟩ := Nat.exists_eq_add_one_of_ne_zero (show fuel ≠ 0 by omega)
    rw [List.cons_append, skipSpace_congr (skipLines_blank hblank _)]
    exact ih (by omega)
  | @line remark feed others hremark hfeed _ ih =>
    simp only [List.length_append] at hfuel
    obtain ⟨fuel, rfl⟩ := Nat.exists_eq_add_one_of_ne_zero (show fuel ≠ 0 by omega)
    have hends : EndsLine (feed ++ (others ++ c :: rest)) (others ++ c :: rest) :=
      Or.inr ⟨feed, hfeed, rfl⟩
    rw [List.append_assoc, List.append_assoc]
    rcases hremark with rfl | ⟨inside, rfl, hinside⟩
    · rw [List.nil_append, skipSpace_congr (skipLines_feed hfeed _)]
      exact ih (by simp at hfuel; omega)
    · have hsolid : IsSolid '#' := ⟨by decide, by decide, by decide⟩
      have hcomment := skipComment_append (Or.inr ⟨inside, rfl, hinside⟩) hends
      rw [List.cons_append] at hcomment
      rw [List.cons_append, Reader.skipSpace, skipLines_cons hsolid]
      simp only [hcomment, lineFeed?_append hfeed]
      exact ih (by simp at hfuel; omega)

/-! ## Strings -/

theorem escape?_append {escape : List Char} {c : Char} (hescape : SpellsEscape escape c)
    (rest : List Char) : escape? (escape ++ rest) = some (c, rest) := by
  cases hescape with
  | @short letter c hnamed =>
    have hletter : letter ≠ 'u' ∧ letter ≠ 'U' := by
      constructor
      all_goals
        rintro rfl
        simp [shortEscape?] at hnamed
    rw [List.singleton_append, escape?, if_neg hletter.1, if_neg hletter.2, hnamed]
    rfl
  | @four digits c hlength hnumbered =>
    have hlong : ¬ (digits ++ rest).length < 4 := by simp; omega
    rw [List.cons_append, escape?, if_pos rfl, if_neg hlong, ← hlength, List.take_left,
      List.drop_left, hnumbered]
    rfl
  | @eight digits c hlength hnumbered =>
    have hlong : ¬ (digits ++ rest).length < 8 := by simp; omega
    rw [List.cons_append, escape?, if_neg (by decide), if_pos rfl, if_neg hlong, ← hlength,
      List.take_left, List.drop_left, hnumbered]
    rfl

/-- The inside of a basic string is read up to the quote that closes it. -/
theorem basic_append (hspells : SpellsBasic text content) {fuel : ℕ} (hfuel : text.length < fuel)
    (rest : List Char) : basic fuel (text ++ '"' :: rest) = some (content, rest) := by
  induction hspells generalizing fuel with
  | nil =>
    obtain ⟨fuel, rfl⟩ := Nat.exists_eq_add_one_of_ne_zero (Nat.ne_zero_of_lt hfuel)
    simp [basic]
  | plain htext hquote hslash _ ih =>
    rw [List.length_cons] at hfuel
    obtain ⟨fuel, rfl⟩ := Nat.exists_eq_add_one_of_ne_zero (show fuel ≠ 0 by omega)
    rw [List.cons_append, basic, if_neg hquote, if_neg hslash, if_pos htext, ih (by omega)]
    rfl
  | escape hescape _ ih =>
    rw [List.length_cons, List.length_append] at hfuel
    obtain ⟨fuel, rfl⟩ := Nat.exists_eq_add_one_of_ne_zero (show fuel ≠ 0 by omega)
    rw [List.cons_append, List.append_assoc, basic, if_neg (by decide), if_pos rfl,
      escape?_append hescape]
    simp only [ih (show _ < fuel by omega)]
    rfl

/-- A literal string is read up to the quote that closes it. -/
theorem literal_append (hliteral : IsLiteral text) (rest : List Char) :
    literal (text ++ '\'' :: rest) = some (text, rest) := by
  induction text with
  | nil => simp [literal]
  | cons c text ih =>
    obtain ⟨⟨htext, hquote⟩, hothers⟩ := List.forall_mem_cons.mp hliteral
    rw [List.cons_append, literal, if_neg hquote, if_pos htext, ih hothers]
    rfl

/-! ## Strings of several lines -/

theorem closing?_eq_none {quote : Char} {s : List Char} (hfew : ¬ [quote, quote, quote] <+: s) :
    closing? quote s = none := by
  have hlt : (s.takeWhile (· == quote)).length < 3 := by
    by_contra hlong
    apply hfew
    have hall : s.takeWhile (· == quote) =
        List.replicate (s.takeWhile (· == quote)).length quote :=
      List.eq_replicate_iff.mpr ⟨rfl, fun c hc => by simpa using List.mem_takeWhile_imp hc⟩
    refine List.IsPrefix.trans ?_ (List.takeWhile_prefix (· == quote))
    rw [hall]
    exact ⟨List.replicate ((s.takeWhile (· == quote)).length - 3) quote, by
      rw [show [quote, quote, quote] = List.replicate 3 quote from rfl,
        List.replicate_append_replicate]
      congr 1
      omega⟩
  rw [closing?, if_pos hlt]

theorem closing?_replicate {quote : Char} {count : ℕ} (hfew : count ≤ 2)
    (hrest : rest.head? ≠ some quote) :
    closing? quote (List.replicate (count + 3) quote ++ rest) =
      some (List.replicate count quote, rest) := by
  have htake : (List.replicate (count + 3) quote ++ rest).takeWhile (· == quote) =
      List.replicate (count + 3) quote := by
    rw [List.takeWhile_append_of_pos (by simp)]
    cases rest with
    | nil => simp
    | cons c rest =>
      have hc : c ≠ quote := fun heq => hrest (by rw [heq]; rfl)
      simp [hc]
  have hinside : min (count + 3 - 3) 2 = count := by omega
  simp only [closing?, htake, List.length_replicate, if_neg (show ¬ count + 3 < 3 by omega),
    hinside]
  rw [List.drop_left' (by simp)]

theorem lineFeed?_cons {c : Char} (hc : isText c = true) (rest : List Char) :
    lineFeed? (c :: rest) = none := by
  rw [lineFeed?.eq_def]
  split
  · rename_i heq
    rw [(List.cons.inj heq).1] at hc
    exact absurd hc (by decide)
  · rename_i heq
    rw [(List.cons.inj heq).1] at hc
    exact absurd hc (by decide)
  · rfl

/-- A string of several lines ends with its quotes. -/
theorem SpellsLong.three_le_length {quote : Char} (hspells : SpellsLong quote text content) :
    3 ≤ text.length := by
  induction hspells with
  | close => simp
  | quote _ _ ih | feed _ _ ih | plain _ _ _ _ ih | escape _ _ _ ih | fold _ _ _ _ _ _ ih =>
    simp only [List.length_cons, List.length_append]
    omega

/-- Quotes that are too few to close a string stay too few whatever follows the string. -/
theorem not_prefix_append {quote : Char} {s : List Char} (hlength : 3 ≤ s.length)
    (hfew : ¬ [quote, quote, quote] <+: s) (rest : List Char) :
    ¬ [quote, quote, quote] <+: s ++ rest := fun hprefix =>
  hfew (List.prefix_of_prefix_length_le hprefix (List.prefix_append s rest) hlength)

theorem not_prefix_cons {quote c : Char} (hc : c ≠ quote) (s : List Char) :
    ¬ [quote, quote, quote] <+: c :: s := by
  simp [List.cons_prefix_cons, Ne.symm hc]

/-- How a reader of strings of several lines goes on, by what stands in front of it. -/
structure ReadsLong (quote : Char) (read : ℕ → List Char → Option (List Char × List Char)) :
    Prop where
  close {fuel : ℕ} {c : Char} {s : List Char} {closed : List Char × List Char}
    (closing : closing? quote (c :: s) = some closed) : read (fuel + 1) (c :: s) = some closed
  feed {fuel : ℕ} {c : Char} {s others : List Char} (closing : closing? quote (c :: s) = none)
    (line : lineFeed? (c :: s) = some others) :
    read (fuel + 1) (c :: s) = (read fuel others).map (push '\n')
  plain {fuel : ℕ} {c : Char} {s : List Char} (closing : closing? quote (c :: s) = none)
    (isText : isText c = true) (ne_slash : quote = '"' → c ≠ '\\') :
    read (fuel + 1) (c :: s) = (read fuel s).map (push c)
  escape {fuel : ℕ} {c : Char} {s others : List Char} (isBasic : quote = '"')
    (escaped : escape? s = some (c, others)) :
    read (fuel + 1) ('\\' :: s) = (read fuel others).map (push c)
  fold {fuel : ℕ} {s others : List Char} (isBasic : quote = '"') (escaped : escape? s = none)
    (line : lineFeed? (skipBlanks s) = some others) :
    read (fuel + 1) ('\\' :: s) = read fuel (skipLines others)

theorem readsLong_literalLines : ReadsLong '\'' literalLines where
  close hclosing := by rw [literalLines, hclosing]
  feed hclosing hline := by rw [literalLines, hclosing, hline]
  plain hclosing htext _ := by
    rw [literalLines, hclosing, lineFeed?_cons htext]
    simp only [if_pos htext]
  escape hbasic := absurd hbasic (by decide)
  fold hbasic := absurd hbasic (by decide)

theorem readsLong_basicLines : ReadsLong '"' basicLines where
  close hclosing := by rw [basicLines, hclosing]
  feed hclosing hline := by rw [basicLines, hclosing, hline]
  plain hclosing htext hslash := by
    rw [basicLines, hclosing, lineFeed?_cons htext]
    simp only [if_neg (hslash rfl), if_pos htext]
  escape _ hescape := by
    rw [basicLines, closing?_eq_none (not_prefix_cons (by decide) _), lineFeed?_cons (by decide)]
    simp only [if_pos, hescape]
  fold _ hescape hline := by
    rw [basicLines, closing?_eq_none (not_prefix_cons (by decide) _), lineFeed?_cons (by decide)]
    simp only [if_pos, hescape, hline]

theorem escape?_eq_none_of_blank {c : Char} (hc : isBlank c = true) (s : List Char) :
    escape? (c :: s) = none := by
  simp only [isBlank, Bool.or_eq_true, beq_iff_eq] at hc
  rcases hc with rfl | rfl <;> rfl

theorem escape?_eq_none_of_fold {blanks feed : List Char} (hblanks : IsBlanks blanks)
    (hfeed : IsFeed feed) (s : List Char) : escape? (blanks ++ (feed ++ s)) = none := by
  cases blanks with
  | nil => rcases hfeed with rfl | rfl <;> rfl
  | cons c blanks => exact escape?_eq_none_of_blank (hblanks c List.mem_cons_self) _

theorem skipBlanks_feed {blanks feed : List Char} (hblanks : IsBlanks blanks)
    (hfeed : IsFeed feed) (s : List Char) :
    skipBlanks (blanks ++ (feed ++ s)) = feed ++ s := by
  obtain ⟨c, others, rfl, -, hc, -⟩ := hfeed.exists_cons
  exact skipBlanks_append_cons hblanks hc _

/-- A string of several lines is read up to its closing quotes, of which no more may follow. -/
theorem ReadsLong.append {quote : Char} {read : ℕ → List Char → Option (List Char × List Char)}
    (hread : ReadsLong quote read) (hquote : isText quote = true ∧ quote ≠ '\\')
    (hspells : SpellsLong quote text content) {fuel : ℕ} (hfuel : text.length < fuel)
    (hrest : rest.head? ≠ some quote) : read fuel (text ++ rest) = some (content, rest) := by
  obtain ⟨fuel, rfl⟩ := Nat.exists_eq_add_one_of_ne_zero (show fuel ≠ 0 by omega)
  induction hspells generalizing fuel with
  | @close count hfew =>
    have hclosing := closing?_replicate hfew hrest
    rw [List.replicate_succ, List.cons_append] at hclosing ⊢
    exact hread.close hclosing
  | @quote text content hfew hothers ih =>
    rw [List.length_cons] at hfuel
    have hlength := hothers.three_le_length
    have hopen := closing?_eq_none (not_prefix_append (by simp; omega) hfew rest)
    rw [List.cons_append] at hopen ⊢
    rw [hread.plain hopen hquote.1 fun _ => hquote.2]
    obtain ⟨fuel, rfl⟩ := Nat.exists_eq_add_one_of_ne_zero (show fuel ≠ 0 by omega)
    rw [ih fuel (by omega)]
    rfl
  | @feed feed text content hfeed hothers ih =>
    have hline := lineFeed?_append hfeed (text ++ rest)
    obtain ⟨c, others, rfl, hc, -⟩ := hfeed.exists_cons
    have hopen : closing? quote (c :: (others ++ (text ++ rest))) = none := by
      apply closing?_eq_none
      refine not_prefix_cons ?_ _
      rintro rfl
      simp [hc] at hquote
    rw [List.length_append, List.length_cons] at hfuel
    rw [List.append_assoc, List.cons_append, hread.feed hopen hline]
    obtain ⟨fuel, rfl⟩ := Nat.exists_eq_add_one_of_ne_zero (show fuel ≠ 0 by omega)
    rw [ih fuel (by omega)]
    rfl
  | @plain c text content htext hne hslash hothers ih =>
    rw [List.length_cons] at hfuel
    rw [List.cons_append, hread.plain (closing?_eq_none (not_prefix_cons hne _)) htext hslash]
    obtain ⟨fuel, rfl⟩ := Nat.exists_eq_add_one_of_ne_zero (show fuel ≠ 0 by omega)
    rw [ih fuel (by omega)]
    rfl
  | @escape escape text content c hbasic hescape hothers ih =>
    rw [List.length_cons, List.length_append] at hfuel
    rw [List.cons_append, List.append_assoc, hread.escape hbasic (escape?_append hescape _)]
    obtain ⟨fuel, rfl⟩ := Nat.exists_eq_add_one_of_ne_zero (show fuel ≠ 0 by omega)
    rw [ih fuel (by omega)]
    rfl
  | @fold blanks feed space text content hbasic hblanks hfeed hspace hover hothers ih =>
    simp only [List.length_cons, List.length_append] at hfuel
    have hline : lineFeed? (skipBlanks (blanks ++ (feed ++ (space ++ (text ++ rest))))) =
        some (space ++ (text ++ rest)) := by
      rw [skipBlanks_feed hblanks hfeed, lineFeed?_append hfeed]
    have hhead : ∀ c, (text ++ rest).head? = some c → IsSolid c := by
      have hlength := hothers.three_le_length
      cases text with
      | nil => simp at hlength
      | cons d text => exact hover
    simp only [List.cons_append, List.append_assoc]
    rw [hread.fold hbasic (escape?_eq_none_of_fold hblanks hfeed _) hline,
      skipLines_append hspace hhead]
    obtain ⟨fuel, rfl⟩ := Nat.exists_eq_add_one_of_ne_zero (show fuel ≠ 0 by omega)
    exact ih fuel (by omega)

theorem lineFeed?_append_of_none (hlength : 2 ≤ text.length) (hnone : lineFeed? text = none)
    (rest : List Char) : lineFeed? (text ++ rest) = none := by
  match text with
  | [] => simp at hlength
  | [_] => simp at hlength
  | c :: d :: text =>
    simp only [List.cons_append]
    rw [lineFeed?.eq_def] at hnone ⊢
    split at hnone
    case h_3 hfeed hreturn =>
      split
      · rename_i heq
        exact absurd (by rw [(List.cons.inj heq).1]) (hfeed (d :: text))
      · rename_i heq
        obtain ⟨rfl, htail⟩ := List.cons.inj heq
        exact absurd (by rw [(List.cons.inj htail).1]) (hreturn text)
      · rfl
    all_goals cases hnone

theorem SpellsBasic.head_ne (hspells : SpellsBasic text content) : text.head? ≠ some '"' := by
  cases hspells with
  | nil => simp
  | plain _ hquote _ _ => simpa using hquote
  | escape => simp

/-- A string of any kind is read whole when no quote follows it. -/
theorem string_append (hspells : SpellsString text content)
    (hrest : rest.head? ≠ some '"' ∧ rest.head? ≠ some '\'') :
    Lexeme.string (text ++ rest) = some (content, rest) := by
  cases hspells with
  | @basic text content hinside =>
    have hread : basic ((text ++ '"' :: rest).length + 1) (text ++ '"' :: rest) =
        some (content, rest) := basic_append hinside (by rw [List.length_append]; omega) rest
    simp only [List.cons_append, List.append_assoc, List.nil_append]
    rw [Lexeme.string]
    · exact hread
    · -- An empty string shows two quotes, and no third one follows them.
      intro others heq
      cases text with
      | nil => exact hrest.1 (by rw [(List.cons.inj heq).2]; rfl)
      | cons c text => exact hinside.head_ne (by rw [(List.cons.inj heq).1]; rfl)
  | literal hliteral =>
    simp only [List.cons_append, List.append_assoc, List.nil_append]
    rw [Lexeme.string]
    · exact literal_append hliteral rest
    · intro others heq
      cases content with
      | nil => exact hrest.2 (by rw [(List.cons.inj heq).2]; rfl)
      | cons c content => exact (hliteral c List.mem_cons_self).2 (List.cons.inj heq).1
  | @long quote feed text content hquote hopening hlong =>
    have hskip : skipLineFeed (feed ++ (text ++ rest)) = text ++ rest := by
      rcases hopening with hfeed | ⟨rfl, hnone⟩
      · rw [skipLineFeed, lineFeed?_append hfeed, Option.getD_some]
      · have hlength := hlong.three_le_length
        rw [List.nil_append, skipLineFeed, lineFeed?_append_of_none (by omega) hnone,
          Option.getD_none]
    have hfuel : text.length < (feed ++ (text ++ rest)).length + 1 := by simp; omega
    simp only [List.cons_append, List.append_assoc]
    rcases hquote with rfl | rfl
    · rw [Lexeme.string, hskip]
      exact readsLong_basicLines.append (by decide) hlong hfuel hrest.1
    · rw [Lexeme.string, hskip]
      exact readsLong_literalLines.append (by decide) hlong hfuel hrest.2

/-! ## Keys -/

/-- Whether a key is over where this text begins. -/
def EndsKey (rest : List Char) : Prop :=
  ∃ c others, rest = c :: others ∧ (c = '=' ∨ c = ']')

theorem not_isBare_of_isBlank {c : Char} (hc : isBlank c = true) : isBare c = false := by
  simp only [isBlank, Bool.or_eq_true, beq_iff_eq] at hc
  rcases hc with rfl | rfl <;> decide

/-- Behind the blanks that follow a part of a key stands no more of this part. -/
theorem isBare_head_eq_false {blanks : List Char} (hblanks : IsBlanks blanks) {c d : Char}
    (hc : isBare c = false) (hd : (blanks ++ c :: rest).head? = some d) : isBare d = false := by
  cases blanks with
  | nil =>
    cases hd
    exact hc
  | cons e blanks =>
    cases hd
    exact not_isBare_of_isBlank (hblanks d List.mem_cons_self)

theorem SpellsPart.exists_cons {part : String} (hspells : SpellsPart text part) :
    ∃ c others, text = c :: others ∧ (isBare c = true ∨ c = '"' ∨ c = '\'') := by
  cases hspells with
  | bare hne hplain =>
    obtain ⟨c, others, rfl⟩ := List.exists_cons_of_ne_nil hne
    exact ⟨c, others, rfl, Or.inl (hplain c List.mem_cons_self)⟩
  | basic => exact ⟨'"', _, rfl, by simp⟩
  | literal => exact ⟨'\'', _, rfl, by simp⟩

theorem simpleKey_append {part : String} (hspells : SpellsPart text part)
    (hrest : ∀ c, rest.head? = some c → isBare c = false) :
    ∃ key, simpleKey (text ++ rest) = some (key, rest) ∧ String.ofList key = part := by
  cases hspells with
  | bare hne hplain =>
    refine ⟨text, ?_, rfl⟩
    have htake := takeWhile_append_rest hplain hrest
    have hdrop := dropWhile_append_rest hplain hrest
    obtain ⟨c, others, rfl⟩ := List.exists_cons_of_ne_nil hne
    have hc := hplain c List.mem_cons_self
    rw [List.cons_append] at htake hdrop ⊢
    rw [simpleKey, htake, hdrop]
    · rintro tail heq
      rw [(List.cons.inj heq).1] at hc
      exact absurd hc (by decide)
    · rintro tail heq
      rw [(List.cons.inj heq).1] at hc
      exact absurd hc (by decide)
  | @basic text content hinside =>
    refine ⟨content, ?_, rfl⟩
    simp only [List.cons_append, List.append_assoc, List.nil_append, simpleKey]
    exact basic_append hinside (by rw [List.length_append]; omega) rest
  | @literal text hliteral =>
    refine ⟨text, ?_, rfl⟩
    simp only [List.cons_append, List.append_assoc, List.nil_append, simpleKey]
    exact literal_append hliteral rest

theorem isBlank_eq_false_of_isBare {c : Char} (hc : isBare c = true) : isBlank c = false := by
  by_contra hblank
  rw [not_isBare_of_isBlank (by simpa using hblank)] at hc
  cases hc

theorem SpellsPart.skipBlanks_append {part : String} (hspells : SpellsPart text part)
    (rest : List Char) : skipBlanks (text ++ rest) = text ++ rest := by
  obtain ⟨c, others, rfl, hbare | rfl | rfl⟩ := hspells.exists_cons
  · exact skipBlanks_cons (isBlank_eq_false_of_isBare hbare) _
  · exact skipBlanks_cons (by decide) _
  · exact skipBlanks_cons (by decide) _

theorem SpellsKey.exists_part {parts : List String} (hspells : SpellsKey text parts) :
    ∃ first others part, text = first ++ others ∧ SpellsPart first part := by
  cases hspells with
  | last hpart => exact ⟨_, _, _, rfl, hpart⟩
  | more hpart => exact ⟨_, _, _, rfl, hpart⟩

theorem SpellsKey.skipBlanks_append {parts : List String} (hspells : SpellsKey text parts)
    (rest : List Char) : skipBlanks (text ++ rest) = text ++ rest := by
  obtain ⟨first, others, part, rfl, hpart⟩ := hspells.exists_part
  rw [List.append_assoc]
  exact hpart.skipBlanks_append _

/-- A key is read with all of its parts and the blanks behind it. -/
theorem keyParts_append {parts : List String} (hspells : SpellsKey text parts) {blanks : List Char}
    (hblanks : IsBlanks blanks) (hends : EndsKey rest) {fuel : ℕ} (hfuel : text.length < fuel) :
    keyParts fuel (blanks ++ (text ++ rest)) = some (parts, rest) := by
  obtain ⟨c, tail, rfl, hc⟩ := hends
  have hbare : isBare c = false ∧ isBlank c = false ∧ c ≠ '.' := by
    rcases hc with rfl | rfl <;> decide
  obtain ⟨fuel, rfl⟩ := Nat.exists_eq_add_one_of_ne_zero (show fuel ≠ 0 by omega)
  induction hspells generalizing fuel blanks with
  | @last text after part hpart hafter =>
    obtain ⟨key, hread, rfl⟩ :=
      simpleKey_append hpart (fun d hd => isBare_head_eq_false hafter hbare.1 hd)
    rw [keyParts, Toml.skipBlanks_append hblanks, List.append_assoc, hpart.skipBlanks_append, hread]
    simp only [Option.bind_eq_bind, Option.bind_some, skipBlanks_append_cons hafter hbare.2.1]
    split
    · rename_i heq
      exact absurd (List.cons.inj heq).1 hbare.2.2
    · rfl
  | @more text after before others part parts hpart hafter hbefore _ ih =>
    obtain ⟨key, hread, rfl⟩ := simpleKey_append hpart
      (fun d hd => isBare_head_eq_false hafter (by decide : isBare '.' = false) hd)
    simp only [List.length_append, List.length_cons] at hfuel
    obtain ⟨fuel, rfl⟩ := Nat.exists_eq_add_one_of_ne_zero (show fuel ≠ 0 by omega)
    have hothers := ih hbefore fuel (by omega)
    simp only [List.append_assoc, List.cons_append]
    rw [keyParts, Toml.skipBlanks_append hblanks, hpart.skipBlanks_append, hread]
    simp only [Option.bind_eq_bind, Option.bind_some,
      skipBlanks_append_cons hafter (by decide : isBlank '.' = false), hothers]
    rfl

end SyscallPolicy.Toml

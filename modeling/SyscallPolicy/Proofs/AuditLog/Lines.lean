import SyscallPolicy.ByteStream
import SyscallPolicy.Proofs.Text.Utf8

/-!
# What the lines of a stream are

`Line.IsCut` says what it is to be the lines of some bytes, without a word
on how to find them: put together they are the bytes, none is empty, a line
feed stands at most at the end of a line, and at the end of every line but
the last.  `isCut_iff` says that `Line.split` finds these lines and that
there are no others.  So a stream of whole lines has these lines
(`lines_ofLines`).
-/

namespace SyscallPolicy

namespace Line

/-- Whether these are the lines of the bytes. -/
structure IsCut (bytes : List UInt8) (lines : List Line) : Prop where
  flatten_eq : lines.flatten = bytes
  ne_nil : ∀ line ∈ lines, line ≠ []
  feed_last : ∀ line ∈ lines, feed ∉ line.dropLast
  terminated : ∀ line ∈ lines.dropLast, line.isTerminated = true

variable {bytes rest : List UInt8} {b : UInt8} {line : Line} {lines : List Line}

theorem isCut_nil : IsCut [] [] :=
  ⟨rfl, by simp, by simp, by simp⟩

/-- The first line can be taken off: what is left are the lines of what
follows it. -/
theorem isCut_cons_iff : IsCut bytes (line :: lines) ↔
    (∃ rest, bytes = line ++ rest ∧ IsCut rest lines) ∧ line ≠ [] ∧ feed ∉ line.dropLast ∧
      (lines ≠ [] → line.isTerminated = true) := by
  constructor
  · rintro ⟨hflatten, hne, hlast, hterminated⟩
    refine ⟨⟨lines.flatten, ?_, rfl, ?_, ?_, ?_⟩, hne line List.mem_cons_self,
      hlast line List.mem_cons_self, fun hlines => hterminated line ?_⟩
    · rw [← hflatten, List.flatten_cons]
    · exact fun other hother => hne other (List.mem_cons_of_mem _ hother)
    · exact fun other hother => hlast other (List.mem_cons_of_mem _ hother)
    · intro other hother
      have hlines : lines ≠ [] := List.ne_nil_of_mem (List.dropLast_subset _ hother)
      refine hterminated other ?_
      rw [List.dropLast_cons_of_ne_nil hlines]
      exact List.mem_cons_of_mem _ hother
    · rw [List.dropLast_cons_of_ne_nil hlines]
      exact List.mem_cons_self
  · rintro ⟨⟨rest, rfl, hcut⟩, hne, hlast, hterminated⟩
    refine ⟨?_, ?_, ?_, ?_⟩
    · rw [List.flatten_cons, hcut.flatten_eq]
    · exact List.forall_mem_cons.mpr ⟨hne, hcut.ne_nil⟩
    · exact List.forall_mem_cons.mpr ⟨hlast, hcut.feed_last⟩
    · by_cases hlines : lines = []
      · simp [hlines]
      · rw [List.dropLast_cons_of_ne_nil hlines]
        exact List.forall_mem_cons.mpr ⟨hterminated hlines, hcut.terminated⟩

theorem isCut_nil_iff : IsCut [] lines ↔ lines = [] := by
  refine ⟨fun hcut => ?_, fun hlines => hlines ▸ isCut_nil⟩
  cases lines with
  | nil => rfl
  | cons line lines =>
    obtain ⟨⟨rest, hbytes, -⟩, hne, -⟩ := isCut_cons_iff.mp hcut
    exact absurd (List.append_eq_nil_iff.mp hbytes.symm).1 hne

/-- The first byte is the first of the first line. -/
theorem exists_line_of_isCut_cons (hcut : IsCut (b :: rest) lines) :
    ∃ line more, lines = (b :: line) :: more := by
  obtain _ | ⟨_ | ⟨c, line⟩, more⟩ := lines
  · exact absurd hcut.flatten_eq (by simp)
  · exact absurd rfl (hcut.ne_nil [] List.mem_cons_self)
  · have hbytes := hcut.flatten_eq
    rw [List.flatten_cons, List.cons_append] at hbytes
    exact ⟨line, more, by rw [(List.cons.inj hbytes).1]⟩

/-- A line feed at the front is a line of its own. -/
theorem isCut_feed_cons_iff :
    IsCut (feed :: rest) lines ↔ ∃ more, lines = [feed] :: more ∧ IsCut rest more := by
  constructor
  · intro hcut
    obtain ⟨line, more, rfl⟩ := exists_line_of_isCut_cons hcut
    obtain ⟨⟨after, hbytes, hafter⟩, -, hlast, -⟩ := isCut_cons_iff.mp hcut
    cases line with
    | nil =>
      obtain ⟨-, rfl⟩ := List.cons.inj hbytes
      exact ⟨more, rfl, hafter⟩
    | cons c line =>
      rw [List.dropLast_cons_of_ne_nil (List.cons_ne_nil c line)] at hlast
      exact absurd List.mem_cons_self hlast
  · rintro ⟨more, rfl, hcut⟩
    exact isCut_cons_iff.mpr ⟨⟨rest, rfl, hcut⟩, by simp, by simp, fun _ => by simp [isTerminated]⟩

/-- Any other byte goes to the line behind it, or is the last. -/
theorem isCut_cons_iff_of_ne (hb : b ≠ feed) : IsCut (b :: rest) lines ↔
    rest = [] ∧ lines = [[b]] ∨
      ∃ line more, lines = (b :: line) :: more ∧ IsCut rest (line :: more) := by
  constructor
  · intro hcut
    obtain ⟨line, more, rfl⟩ := exists_line_of_isCut_cons hcut
    obtain ⟨⟨after, hbytes, hafter⟩, -, hlast, hterminated⟩ := isCut_cons_iff.mp hcut
    obtain ⟨-, rfl⟩ := List.cons.inj hbytes
    cases line with
    | nil =>
      cases more with
      | nil => exact .inl ⟨hafter.flatten_eq.symm, rfl⟩
      | cons next more => exact absurd (hterminated (by simp)) (by simp [isTerminated, hb])
    | cons c line =>
      refine .inr ⟨c :: line, more, rfl, isCut_cons_iff.mpr
        ⟨⟨after, rfl, hafter⟩, by simp, fun hmem => hlast ?_, fun hmore => ?_⟩⟩
      · rw [List.dropLast_cons_of_ne_nil (List.cons_ne_nil c line)]
        exact List.mem_cons_of_mem _ hmem
      · simpa [isTerminated, List.getLast?_cons_cons] using hterminated hmore
  · rintro (⟨rfl, rfl⟩ | ⟨line, more, rfl, hcut⟩)
    · exact isCut_cons_iff.mpr ⟨⟨[], rfl, isCut_nil⟩, by simp, by simp, by simp⟩
    · obtain ⟨⟨after, rfl, hafter⟩, hne, hlast, hterminated⟩ := isCut_cons_iff.mp hcut
      refine isCut_cons_iff.mpr ⟨⟨after, rfl, hafter⟩, by simp, ?_, fun hmore => ?_⟩
      · rw [List.dropLast_cons_of_ne_nil hne]
        simpa [hb.symm] using hlast
      · obtain ⟨c, line, rfl⟩ := List.exists_cons_of_ne_nil hne
        simpa [isTerminated, List.getLast?_cons_cons] using hterminated hmore

/-- The cut finds the lines of the bytes, and there are no others. -/
theorem isCut_iff : IsCut bytes lines ↔ lines = split bytes := by
  induction bytes generalizing lines with
  | nil => exact isCut_nil_iff
  | cons b rest ih =>
    by_cases hb : b = feed
    · subst hb
      rw [isCut_feed_cons_iff, split, if_pos rfl]
      simp only [ih, exists_eq_right]
    · have hnone : rest = [] ↔ split rest = [] := by
        rw [eq_comm (a := split rest), ← ih]
        exact ⟨fun hrest => hrest ▸ isCut_nil, fun hcut => hcut.flatten_eq.symm⟩
      rw [isCut_cons_iff_of_ne hb, split, if_neg hb]
      cases hsplit : split rest with
      | nil => simp [ih, hnone, hsplit]
      | cons line more => simp [ih, hnone, hsplit]

/-- Whether a line feed ends the line and stands nowhere else. -/
def IsWhole (line : Line) : Prop :=
  ∃ content, line = content ++ [feed] ∧ feed ∉ content

theorem isCut_flatten (hwhole : ∀ line ∈ lines, line.IsWhole) : IsCut lines.flatten lines where
  flatten_eq := rfl
  ne_nil line hline := by
    obtain ⟨content, rfl, -⟩ := hwhole line hline
    exact List.append_ne_nil_of_right_ne_nil content (List.cons_ne_nil feed [])
  feed_last line hline := by
    obtain ⟨content, rfl, hfeed⟩ := hwhole line hline
    rwa [List.dropLast_concat]
  terminated line hline := by
    obtain ⟨content, rfl, -⟩ := hwhole line (List.dropLast_subset _ hline)
    simp [isTerminated]

end Line

/-! ## Streams of lines -/

theorem ByteStream.lines_ofLines {lines : List Line} (hwhole : ∀ line ∈ lines, line.IsWhole) :
    (ByteStream.ofLines lines).lines = lines := by
  have hcut := Line.isCut_iff.mp (Line.isCut_flatten hwhole)
  simp only [ByteStream.lines, ByteStream.ofLines, toList_toByteArray]
  exact hcut.symm

end SyscallPolicy

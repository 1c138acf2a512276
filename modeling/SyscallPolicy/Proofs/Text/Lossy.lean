import Mathlib.Data.List.Basic
import SyscallPolicy.Proofs.Text.Utf8
import SyscallPolicy.Text.Lossy

/-!
# ASCII in text that may be damaged

A reader of damaged bytes keeps what is ASCII.  An ASCII byte goes on with no
character, so it ends whatever the reader is inside of and stands for itself
(`decodeFrom_append_ascii`).  And no other byte brings an ASCII character
about, on its own or with others (`decodeFrom_eq_append_ascii`).  So an ASCII
text stands in the decoded bytes where its bytes stand, and nowhere else
(`decodeLossy_append_ascii`, `infix_of_infix_decodeLossy`).

`Utf8State.IsSound` is the invariant of the reader that carries the second
half: inside of a character only such bytes may follow that the character
comes to be a scalar value, and no ASCII one.  `nextByte_cases` is the step
lemma; what is read of several bytes follows from it alone.
-/

namespace SyscallPolicy.Text

variable {state : Utf8State} {b : UInt8} {bytes front rest : List UInt8}
  {text before after : List Char} {c : Char}

/-! ## What the reader is inside of -/

/-- Whether the character that the reader is inside of will be a character,
and not an ASCII one.  The bounds are those of the values that it may come to
have; they get closer from byte to byte. -/
def Utf8State.IsSound : Utf8State → Prop
  | .start => True
  | .within missing low high value =>
    1 ≤ missing ∧ missing ≤ 3 ∧ 0x80 ≤ low.toNat ∧ high.toNat ≤ 0xBF ∧
      0x80 ≤ (value * 64 + (low.toNat - 0x80)) * 64 ^ (missing - 1) ∧
      ((value * 64 + (high.toNat - 0x80) + 1) * 64 ^ (missing - 1) ≤ 0xD800 ∨
        0xE000 ≤ (value * 64 + (low.toNat - 0x80)) * 64 ^ (missing - 1) ∧
          (value * 64 + (high.toNat - 0x80) + 1) * 64 ^ (missing - 1) ≤ 0x110000)

theorem toNat_ofNat_of_isValidChar {v : Nat} (hv : v < 0xD800 ∨ 0xE000 ≤ v ∧ v < 0x110000) :
    (Char.ofNat v).toNat = v := by
  have hvalid : v.isValidChar := by
    unfold Nat.isValidChar
    omega
  unfold Char.ofNat
  rw [dif_pos hvalid]
  exact UInt32.toNat_ofNatLT

/-! ## One byte -/

/-- What a byte gives that is not ASCII, and where it leads: to no ASCII, and
inside of a character if it gives nothing. -/
structure IsDamageOrPart (read : List Char × Utf8State) : Prop where
  not_ascii : ∀ c ∈ read.1, 0x80 ≤ c.toNat
  sound : read.2.IsSound
  inside : read.1 = [] → read.2 ≠ .start

theorem isDamageOrPart_replacement : IsDamageOrPart ([replacement], .start) :=
  ⟨List.forall_mem_singleton.mpr (by decide), trivial, by simp⟩

theorem isDamageOrPart_within {missing value : Nat} {low high : UInt8}
    (hsound : (Utf8State.within missing low high value).IsSound) :
    IsDamageOrPart ([], .within missing low high value) :=
  ⟨by simp, hsound, by simp⟩

theorem firstByte_ascii (hb : b < 0x80) : firstByte b = ([Char.ofNat b.toNat], .start) := by
  rw [firstByte, if_pos hb]

theorem isDamageOrPart_firstByte (hb : ¬b < 0x80) : IsDamageOrPart (firstByte b) := by
  have hbyte := b.toNat_lt
  unfold firstByte
  rw [if_neg hb]
  split_ifs
  on_goal 1 => exact isDamageOrPart_replacement
  on_goal 8 => exact isDamageOrPart_replacement
  all_goals
    apply isDamageOrPart_within
    simp only [UInt8.lt_iff_toNat_lt, ← UInt8.toNat_inj, UInt8.reduceToNat] at *
    simp [Utf8State.IsSound] <;> omega

/-- A byte inside of a character that goes on with it. -/
theorem isDamageOrPart_of_within {missing value : Nat} {low high : UInt8}
    (hstate : (Utf8State.within missing low high value).IsSound) (hin : low ≤ b ∧ b ≤ high) :
    IsDamageOrPart (nextByte (.within missing low high value) b) := by
  obtain ⟨hpos, hle, hlow, hhigh, hfirst, hlast⟩ := hstate
  have hlower : low.toNat ≤ b.toNat := hin.1
  have hupper : b.toNat ≤ high.toNat := hin.2
  rw [nextByte, if_pos hin]
  have hmissing : missing = 1 ∨ missing = 2 ∨ missing = 3 := by omega
  rcases hmissing with rfl | rfl | rfl
  · simp only [Nat.sub_self, Nat.pow_zero, Nat.mul_one] at hfirst hlast
    have hvalue : (Char.ofNat (value * 64 + (b.toNat - 128))).toNat =
        value * 64 + (b.toNat - 128) := toNat_ofNat_of_isValidChar (by omega)
    refine ⟨List.forall_mem_singleton.mpr ?_, trivial, by simp⟩
    show 128 ≤ (Char.ofNat (value * 64 + (b.toNat - 128))).toNat
    omega
  · apply isDamageOrPart_within
    simp [Utf8State.IsSound] at hfirst hlast ⊢
    omega
  · apply isDamageOrPart_within
    simp [Utf8State.IsSound] at hfirst hlast ⊢
    omega

/-- An ASCII byte ends what the reader is inside of, and any other byte gives
no ASCII. -/
theorem nextByte_cases (hstate : state.IsSound) (b : UInt8) :
    b < 0x80 ∧ nextByte state b = (decodeFrom state [] ++ [Char.ofNat b.toNat], .start) ∨
      ¬b < 0x80 ∧ IsDamageOrPart (nextByte state b) := by
  by_cases hb : b < 0x80
  · refine .inl ⟨hb, ?_⟩
    cases state with
    | start => exact firstByte_ascii hb
    | within missing low high value =>
      have hlow : 128 ≤ low.toNat := hstate.2.2.1
      have hlt : b.toNat < 128 := hb
      have hout : ¬(low ≤ b ∧ b ≤ high) := by
        intro hin
        have hle : low.toNat ≤ b.toNat := hin.1
        omega
      rw [nextByte, if_neg hout, firstByte_ascii hb]
      rfl
  · refine .inr ⟨hb, ?_⟩
    cases state with
    | start => exact isDamageOrPart_firstByte hb
    | within missing low high value =>
      by_cases hin : low ≤ b ∧ b ≤ high
      · exact isDamageOrPart_of_within hstate hin
      · have hfirst := isDamageOrPart_firstByte hb
        rw [nextByte, if_neg hin]
        refine ⟨List.forall_mem_cons.mpr ⟨?_, hfirst.not_ascii⟩, hfirst.sound, by simp⟩
        decide

theorem isSound_nextByte (hstate : state.IsSound) (b : UInt8) : (nextByte state b).2.IsSound := by
  rcases nextByte_cases hstate b with ⟨-, hread⟩ | ⟨-, hread⟩
  · rw [hread]
    trivial
  · exact hread.sound

/-! ## Several bytes -/

theorem decodeFrom_cons (state : Utf8State) (b : UInt8) (rest : List UInt8) :
    decodeFrom state (b :: rest) =
      (nextByte state b).1 ++ decodeFrom (nextByte state b).2 rest := by
  cases state <;> rfl

theorem decodeFrom_cons_ascii (hstate : state.IsSound) (hb : b < 0x80) :
    decodeFrom state (b :: rest) =
      decodeFrom state [] ++ Char.ofNat b.toNat :: decodeLossy rest := by
  rcases nextByte_cases hstate b with ⟨-, hread⟩ | ⟨hnot, -⟩
  · rw [decodeFrom_cons, hread, List.append_assoc]
    rfl
  · exact absurd hb hnot

/-- Bytes in front of an ASCII byte are read as if they were all, and bytes
behind it as if they were the first. -/
theorem decodeFrom_append_ascii (hstate : state.IsSound) (hb : b < 0x80) :
    decodeFrom state (front ++ b :: rest) =
      decodeFrom state front ++ Char.ofNat b.toNat :: decodeLossy rest := by
  induction front generalizing state with
  | nil => exact decodeFrom_cons_ascii hstate hb
  | cons a front ih =>
    rw [List.cons_append, decodeFrom_cons, ih (isSound_nextByte hstate a), decodeFrom_cons,
      List.append_assoc]

/-- The reader says something of all bytes that it gets to see. -/
theorem decodeFrom_ne_nil (hstate : state.IsSound) (hsome : bytes = [] → state ≠ .start) :
    decodeFrom state bytes ≠ [] := by
  induction bytes generalizing state with
  | nil =>
    cases state with
    | start => exact absurd rfl (hsome rfl)
    | within => exact List.cons_ne_nil _ _
  | cons b rest ih =>
    rcases nextByte_cases hstate b with ⟨hb, -⟩ | ⟨-, hread⟩
    · rw [decodeFrom_cons_ascii hstate hb]
      simp
    · rw [decodeFrom_cons]
      intro hnil
      obtain ⟨hnone, hrest⟩ := List.append_eq_nil_iff.mp hnil
      exact ih hread.sound (fun _ => hread.inside hnone) hrest

/-- What begins with characters other than this one goes on behind them. -/
theorem exists_more_of_not_mem {read more : List Char} (hc : c ∉ read)
    (heq : read ++ more = before ++ c :: after) :
    ∃ front, before = read ++ front ∧ more = front ++ c :: after := by
  rcases List.append_eq_append_iff.mp heq with ⟨front, hbefore, hmore⟩ | ⟨front, hread, hmore⟩
  · exact ⟨front, hbefore, hmore⟩
  · cases front with
    | nil => exact ⟨[], by simpa using hread.symm, hmore.symm⟩
    | cons d front =>
      obtain ⟨rfl, -⟩ := List.cons.inj hmore
      exact absurd (by simp [hread]) hc

theorem not_mem_decodeFrom_nil (hc : c.toNat < 0x80) : c ∉ decodeFrom state [] := by
  intro hmem
  cases state with
  | start => exact List.not_mem_nil hmem
  | within =>
    obtain rfl := List.mem_singleton.mp hmem
    exact absurd hc (by decide)

theorem toUInt8_ofNat_of_ascii (hb : b < 0x80) : (Char.ofNat b.toNat).toUInt8 = b := by
  have hlt : b.toNat < 128 := hb
  have hvalue : (Char.ofNat b.toNat).toNat = b.toNat := toNat_ofNat_of_isValidChar (by omega)
  show UInt8.ofNat (Char.ofNat b.toNat).toNat = b
  rw [hvalue, UInt8.ofNat_toNat]

/-- An ASCII character comes from its own byte. -/
theorem decodeFrom_eq_append_ascii (hstate : state.IsSound) (hc : c.toNat < 0x80)
    (hread : decodeFrom state bytes = before ++ c :: after) :
    ∃ front rest, bytes = front ++ c.toUInt8 :: rest ∧ decodeFrom state front = before ∧
      decodeLossy rest = after := by
  induction bytes generalizing state before with
  | nil => exact absurd (by simp [hread]) (@not_mem_decodeFrom_nil state c hc)
  | cons b rest ih =>
    rcases nextByte_cases hstate b with ⟨hb, -⟩ | ⟨-, hnext⟩
    · rw [decodeFrom_cons_ascii hstate hb] at hread
      obtain ⟨passed, rfl, hmore⟩ := exists_more_of_not_mem (not_mem_decodeFrom_nil hc) hread
      cases passed with
      | nil =>
        obtain ⟨rfl, hafter⟩ := List.cons.inj hmore
        refine ⟨[], rest, ?_, (List.append_nil _).symm, hafter⟩
        rw [toUInt8_ofNat_of_ascii hb, List.nil_append]
      | cons d passed =>
        obtain ⟨rfl, hrest⟩ := List.cons.inj hmore
        obtain ⟨front, rest', rfl, hpassed, hafter⟩ := @ih .start passed trivial hrest
        refine ⟨b :: front, rest', rfl, ?_, hafter⟩
        rw [decodeFrom_cons_ascii hstate hb, ← hpassed]
        rfl
    · have hnone : c ∉ (nextByte state b).1 := by
        intro hmem
        have hle := hnext.not_ascii c hmem
        omega
      rw [decodeFrom_cons] at hread
      obtain ⟨passed, rfl, hmore⟩ := exists_more_of_not_mem hnone hread
      obtain ⟨front, rest', rfl, rfl, hafter⟩ := ih hnext.sound hmore
      exact ⟨b :: front, rest', rfl, decodeFrom_cons state b front, hafter⟩

theorem head?_decodeLossy (hb : b < 0x80) (hhead : bytes.head? = some b) :
    (decodeLossy bytes).head? = some (Char.ofNat b.toNat) := by
  obtain ⟨rest, rfl⟩ := List.head?_eq_some_iff.mp hhead
  have hread := @decodeFrom_cons_ascii .start b rest trivial hb
  rw [decodeLossy, hread]
  rfl

theorem getLast?_decodeLossy (hb : b < 0x80) (hlast : bytes.getLast? = some b) :
    (decodeLossy bytes).getLast? = some (Char.ofNat b.toNat) := by
  obtain ⟨front, rfl⟩ := List.getLast?_eq_some_iff.mp hlast
  have hread := @decodeFrom_append_ascii .start b front [] trivial hb
  rw [decodeLossy, hread]
  exact List.getLast?_concat

/-! ## ASCII texts -/

/-- Whether a text is ASCII. -/
def IsAscii (text : List Char) : Prop :=
  ∀ c ∈ text, c.toNat < 0x80

-- There are finitely many characters, but the text is the one to go through.
instance (text : List Char) : Decidable (IsAscii text) :=
  List.decidableBAll (fun c : Char => c.toNat < 0x80) text

theorem isAscii_append {text more : List Char} (htext : IsAscii text) (hmore : IsAscii more) :
    IsAscii (text ++ more) :=
  List.forall_mem_append.mpr ⟨htext, hmore⟩

theorem isAscii_toString (n : Nat) : IsAscii (toString n).toList := by
  intro c hc
  have hdigit : c.isDigit = true := by
    rw [show (toString n).toList = Nat.toDigits 10 n from Nat.toList_repr] at hc
    exact Nat.isDigit_of_mem_toDigits (by decide) (by decide) hc
  have hle : c.toNat ≤ 57 := by
    simp only [Char.isDigit, Bool.and_eq_true, decide_eq_true_eq] at hdigit
    exact hdigit.2
  omega

theorem toNat_toUInt8_of_ascii (hc : c.toNat < 0x80) : c.toUInt8.toNat = c.toNat := by
  show (UInt8.ofNat c.toNat).toNat = c.toNat
  rw [UInt8.toNat_ofNat']
  omega

theorem toUInt8_lt_of_ascii (hc : c.toNat < 0x80) : c.toUInt8 < 0x80 := by
  show c.toUInt8.toNat < 128
  rw [toNat_toUInt8_of_ascii hc]
  exact hc

theorem decodeLossy_append_cons (hc : c.toNat < 0x80) :
    decodeLossy (front ++ c.toUInt8 :: rest) = decodeLossy front ++ c :: decodeLossy rest := by
  have hread := @decodeFrom_append_ascii .start _ front rest trivial (toUInt8_lt_of_ascii hc)
  rwa [toNat_toUInt8_of_ascii hc, Char.ofNat_toNat] at hread

theorem utf8EncodeChar_of_ascii (hc : c.toNat < 0x80) :
    String.utf8EncodeChar c = [c.toUInt8] := by
  have hle : c.val.toNat ≤ 127 := Nat.le_of_lt_succ hc
  simp only [String.utf8EncodeChar, if_pos hle]
  rfl

theorem toList_toUTF8_of_isAscii {text : String} (htext : IsAscii text.toList) :
    text.toUTF8.toList = text.toList.map Char.toUInt8 := by
  rw [toList_toUTF8, List.map_eq_flatMap]
  exact List.flatMap_congr fun c hc => utf8EncodeChar_of_ascii (htext c hc)

theorem decodeLossy_ascii_append (htext : IsAscii text) :
    decodeLossy (text.map Char.toUInt8 ++ rest) = text ++ decodeLossy rest := by
  induction text with
  | nil => rfl
  | cons c text ih =>
    obtain ⟨hc, htext⟩ := List.forall_mem_cons.mp htext
    have hread := @decodeLossy_append_cons [] (text.map Char.toUInt8 ++ rest) c hc
    rw [ih htext] at hread
    exact hread

/-- ASCII text in the bytes stands in what they are read as. -/
theorem decodeLossy_append_ascii (htext : IsAscii text) (hne : text ≠ []) :
    decodeLossy (front ++ text.map Char.toUInt8 ++ rest) =
      decodeLossy front ++ text ++ decodeLossy rest := by
  obtain ⟨c, text, rfl⟩ := List.exists_cons_of_ne_nil hne
  obtain ⟨hc, htext⟩ := List.forall_mem_cons.mp htext
  rw [List.map_cons, List.append_assoc, List.cons_append, decodeLossy_append_cons hc,
    decodeLossy_ascii_append htext, List.append_assoc, List.cons_append]

/-- The bytes of an ASCII text are read as the text wherever they stand. -/
theorem decodeLossy_append_text {text : String} {front rest : List UInt8}
    (htext : IsAscii text.toList) (hne : text.toList ≠ []) :
    decodeLossy (front ++ (text.toUTF8.toList ++ rest)) =
      decodeLossy front ++ (text.toList ++ decodeLossy rest) := by
  rw [← List.append_assoc, toList_toUTF8_of_isAscii htext,
    decodeLossy_append_ascii htext hne, List.append_assoc]

theorem prefix_of_prefix_decodeLossy (htext : IsAscii text) (hbegins : text <+: decodeLossy bytes) :
    text.map Char.toUInt8 <+: bytes := by
  induction text generalizing bytes with
  | nil => exact List.nil_prefix
  | cons c text ih =>
    obtain ⟨hc, htext⟩ := List.forall_mem_cons.mp htext
    obtain ⟨after, hread⟩ := hbegins
    obtain ⟨front, rest, rfl, hfront, hrest⟩ :=
      @decodeFrom_eq_append_ascii .start bytes [] (text ++ after) c trivial hc hread.symm
    have hnone : front = [] := by
      by_contra hne
      exact @decodeFrom_ne_nil .start front trivial (fun h => absurd h hne) hfront
    rw [hnone, List.nil_append, List.map_cons]
    exact List.cons_prefix_cons.mpr ⟨rfl, ih htext ⟨after, hrest.symm⟩⟩

/-- ASCII text in what bytes are read as stands in the bytes. -/
theorem infix_of_infix_decodeLossy (htext : IsAscii text) (hinside : text <:+: decodeLossy bytes) :
    text.map Char.toUInt8 <:+: bytes := by
  cases text with
  | nil => exact List.nil_infix
  | cons c text =>
    obtain ⟨hc, htext⟩ := List.forall_mem_cons.mp htext
    obtain ⟨before, after, hread⟩ := hinside
    rw [List.append_assoc] at hread
    obtain ⟨front, rest, rfl, -, hrest⟩ :=
      @decodeFrom_eq_append_ascii .start bytes before (text ++ after) c trivial hc hread.symm
    obtain ⟨more, rfl⟩ := prefix_of_prefix_decodeLossy htext ⟨after, hrest.symm⟩
    exact ⟨front, more, by simp⟩

end SyscallPolicy.Text

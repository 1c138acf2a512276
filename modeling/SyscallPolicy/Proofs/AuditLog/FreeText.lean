import Mathlib.Data.Nat.Find
import SyscallPolicy.Proofs.AuditLog.Processes
import SyscallPolicy.Proofs.Text.Lossy

/-!
# Records between free text

Most of a line of the audit system is free text: names of commands and files
that a process may choose.  Such text may look like a field, and it need not
be well formed.  A record is found all the same if something that is no word
character stands on either side of its fields, and no further system call
behind them.

* `isRecord_of_parts` says this of characters.  The text in front of the field
  of the process may hold marks and fields of processes, and the text in front
  of the system call may hold system calls: the last one counts.
* `decodeLossy_recordLine` cuts the decoded line at its fields, which are ASCII,
  so that `lineId?_recordLine` says it of bytes.
* `exists_query_of_record` and `query_of_obstacle` say what comes of a log with
  such a line.
-/

namespace SyscallPolicy.AuditLog

open Text (IsAscii decodeLossy decodeLossy_append_text isAscii_append isAscii_toString isWord)

/-! ## Fields between other characters -/

section Characters

variable {label text line s w x y z process digits : List Char} {place : Nat}
  {processes : List (List Char)}

theorem exists_standsFirstAt (hplace : StandsAt line text place) :
    ∃ first ≤ place, StandsFirstAt line text first := by
  classical
  have hsome : ∃ place, StandsAt line text place := ⟨place, hplace⟩
  exact ⟨Nat.find hsome, Nat.find_min' hsome hplace, Nat.find_spec hsome,
    fun earlier => Nat.find_min hsome⟩

theorem fields_eq_nil_of_not_infix (hlabel : ¬label <:+: s) : fields label s = [] := by
  refine List.eq_nil_iff_forall_not_mem.mpr fun field hfield => hlabel ?_
  obtain ⟨⟨before, hs, -⟩, -⟩ := mem_fields_iff.mp hfield
  exact ⟨before, field.1 ++ field.2, by rw [hs]; simp⟩

/-- A system call with no other one behind it is the last. -/
theorem lastSyscallAt_of_parts (hdigits : IsDigits digits)
    (hfront : ∃ c ∈ w.getLast?, isWord c = false) (hend : endsWord z = true)
    (hlast : ¬syscallLabel <:+: z) :
    LastSyscallAt (w ++ (syscallLabel ++ digits ++ z)) digits w.length := by
  obtain ⟨c, hc, hword⟩ := hfront
  obtain ⟨front, rfl⟩ := List.getLast?_eq_some_iff.mp hc
  have hfield : fieldAt? syscallLabel (syscallLabel ++ digits ++ z) = some (digits, z) :=
    fieldAt?_eq_some_iff.mpr ⟨rfl, hdigits, hend⟩
  have hbehind : fields syscallLabel (syscallLabel ++ digits ++ z) = [] := by
    rw [fields_append_field isLabel_syscallLabel isLabel_syscallLabel hdigits]
    exact fields_eq_nil_of_not_infix hlast
  have honly : fields syscallLabel (c :: (syscallLabel ++ digits ++ z)) = [(digits, z)] := by
    rw [fields_cons_of_some hfield hword, hbehind]
  have hfound : (fields syscallLabel (c :: (syscallLabel ++ digits ++ z))).getLast? =
      some (digits, z) := by
    rw [honly]
    rfl
  refine lastSyscallAt_iff.mpr ⟨z, ?_, ?_⟩
  · rw [List.append_assoc, List.singleton_append]
    exact (getLast?_fields_append_iff.mp hfound).1
  · simp only [lengthFrom, List.length_append]

/-- Fields that stand apart from what is around them make a record. -/
theorem isRecord_of_parts (hmem : process ∈ processes) (hdigits : IsDigits digits)
    (hx : ∃ c ∈ x.getLast?, isWord c = false) (hstart : ∃ c ∈ y.head?, isWord c = false)
    (hy : ∃ c ∈ y.getLast?, isWord c = false) (hend : endsWord z = true)
    (hlast : ¬syscallLabel <:+: z) :
    IsRecord processes
      (w ++ mark ++ (x ++ (processLabel ++ process) ++ (y ++ (syscallLabel ++ digits) ++ z)))
      digits := by
  obtain ⟨c, hc, hxword⟩ := hx
  obtain ⟨d, hd, hyword⟩ := hstart
  obtain ⟨e, he, heword⟩ := hy
  have hxpos : 0 < x.length := List.length_pos_of_mem (List.mem_of_getLast? hc)
  have hypos : 0 < y.length := List.length_pos_of_mem (List.mem_of_getLast? he)
  have hcall := @lastSyscallAt_of_parts (w ++ mark ++ x ++ processLabel ++ process ++ y) z digits
    hdigits ⟨e, List.mem_getLast?_append_of_mem_getLast? he, heword⟩ hend hlast
  have hmark : StandsAt (w ++ mark ++
      (x ++ (processLabel ++ process) ++ (y ++ (syscallLabel ++ digits) ++ z))) mark w.length :=
    ⟨w, _, rfl, rfl⟩
  obtain ⟨marked, hle, hfirst⟩ := exists_standsFirstAt hmark
  have hafter : ∀ c ∈ (y ++ (syscallLabel ++ digits) ++ z).head?, isWord c = false := by
    obtain ⟨rest, rfl⟩ := List.head?_eq_some_iff.mp hd
    exact fun c hc => Option.some.inj hc ▸ hyword
  refine ⟨process, hmem, (w ++ mark ++ x).length,
    (w ++ mark ++ x ++ processLabel ++ process ++ y).length,
    ⟨⟨w ++ mark ++ x, y ++ (syscallLabel ++ digits) ++ z, ?_, rfl, ?_, hafter⟩, marked, hfirst, ?_⟩,
    ?_, ?_⟩
  · simp only [List.append_assoc]
  · exact ⟨c, List.mem_getLast?_append_of_mem_getLast? hc, hxword⟩
  · simp only [List.length_append]
    omega
  · simpa only [List.append_assoc] using hcall
  · simp only [List.length_append]
    omega

end Characters

/-! ## Fields between other bytes -/

/-- Whether a byte is ASCII and no word character. -/
def IsSeparator (b : UInt8) : Prop :=
  b < 0x80 ∧ isWord (Char.ofNat b.toNat) = false

/-- What the bytes around the fields of a line have to be for the fields to
stand apart from them; nothing else is asked of these bytes. -/
structure KeepsApart (X Y Z : List UInt8) : Prop where
  /-- Something stands between the mark and the process, … -/
  before_process : ∃ b ∈ X.getLast?, IsSeparator b
  /-- … between the process and the system call … -/
  behind_process : ∃ b ∈ Y.head?, IsSeparator b
  before_syscall : ∃ b ∈ Y.getLast?, IsSeparator b
  /-- … and behind that, unless it ends the line. -/
  behind_syscall : ∀ b ∈ Z.head?, IsSeparator b
  /-- No other system call is labelled behind it. -/
  last_syscall : ¬"syscall=".toUTF8.toList <:+: Z

/-- A line with a mark and the fields of a process and of a system call, with
any bytes around them. -/
def recordLine (pid id : Nat) (W X Y Z : List UInt8) : Line :=
  W ++ "audit:".toUTF8.toList ++ X ++ ("pid=" ++ toString pid).toUTF8.toList ++ Y ++
    ("syscall=" ++ toString id).toUTF8.toList ++ Z

section Bytes

variable {pid id : Nat} {W X Y Z bytes : List UInt8}

theorem isDigits_toString (n : Nat) : IsDigits (toString n).toList :=
  @isDigits_of_mem_processTexts [(n : Int)] (by simp) _ List.mem_cons_self

theorem isWord_head?_decodeLossy {b : UInt8} (hhead : b ∈ bytes.head?) (hb : IsSeparator b) :
    ∃ c ∈ (decodeLossy bytes).head?, isWord c = false :=
  ⟨_, Text.head?_decodeLossy hb.1 hhead, hb.2⟩

theorem isWord_getLast?_decodeLossy {b : UInt8} (hlast : b ∈ bytes.getLast?)
    (hb : IsSeparator b) : ∃ c ∈ (decodeLossy bytes).getLast?, isWord c = false :=
  ⟨_, Text.getLast?_decodeLossy hb.1 hlast, hb.2⟩

theorem endsWord_decodeLossy (hhead : ∀ b ∈ bytes.head?, IsSeparator b) :
    endsWord (decodeLossy bytes) = true := by
  cases bytes with
  | nil => rfl
  | cons b bytes =>
    obtain ⟨hb, hword⟩ := hhead b rfl
    rw [endsWord_iff, Text.head?_decodeLossy hb rfl]
    exact fun c hc => Option.some.inj hc ▸ hword

/-- The decoded line, cut at its fields. -/
theorem decodeLossy_recordLine (pid id : Nat) (W X Y Z : List UInt8) :
    decodeLossy (recordLine pid id W X Y Z) =
      decodeLossy W ++ mark ++ (decodeLossy X ++ (processLabel ++ (toString pid).toList) ++
        (decodeLossy Y ++ (syscallLabel ++ (toString id).toList) ++ decodeLossy Z)) := by
  have hmark : "audit:".toList = mark := by decide
  have hprocess : ("pid=" ++ toString pid).toList = processLabel ++ (toString pid).toList := by
    rw [String.toList_append]
    rfl
  have hsyscall : ("syscall=" ++ toString id).toList = syscallLabel ++ (toString id).toList := by
    rw [String.toList_append]
    rfl
  have hpid : IsAscii (processLabel ++ (toString pid).toList) :=
    isAscii_append (by decide) (isAscii_toString pid)
  have hid : IsAscii (syscallLabel ++ (toString id).toList) :=
    isAscii_append (by decide) (isAscii_toString id)
  unfold recordLine
  simp only [List.append_assoc]
  rw [decodeLossy_append_text (by rw [hmark]; decide) (by rw [hmark]; decide),
    decodeLossy_append_text (hprocess ▸ hpid) (by rw [hprocess]; exact List.cons_ne_nil _ _),
    decodeLossy_append_text (hsyscall ▸ hid) (by rw [hsyscall]; exact List.cons_ne_nil _ _),
    hmark, hprocess, hsyscall]
  simp only [List.append_assoc]

/-- A line feed at the end changes nothing about the bytes at the end. -/
theorem KeepsApart.concat_feed (hapart : KeepsApart X Y Z) :
    KeepsApart X Y (Z ++ [Line.feed]) := by
  refine { hapart with behind_syscall := ?_, last_syscall := ?_ }
  · cases Z with
    | nil =>
      rintro b hb
      obtain rfl := Option.some.inj hb
      exact ⟨by decide, by decide +kernel⟩
    | cons b Z => exact hapart.behind_syscall
  · intro hinside
    rcases List.infix_concat_iff.mp hinside with hsuffix | hinside
    · have hlast := hsuffix.getLast (by decide +kernel)
      have hlabel : "syscall=".toUTF8.toList.getLast (by decide +kernel) ≠ Line.feed := by
        decide +kernel
      rw [List.getLast_concat] at hlast
      exact hlabel hlast
    · exact hapart.last_syscall hinside

theorem concat_feed_recordLine (pid id : Nat) (W X Y Z : List UInt8) :
    recordLine pid id W X Y Z ++ [Line.feed] = recordLine pid id W X Y (Z ++ [Line.feed]) := by
  unfold recordLine
  exact List.append_assoc _ _ _

/-- Nothing around its fields hides a record. -/
theorem lineId?_recordLine {pids : List Int} (hpids : ∀ pid ∈ pids, 0 ≤ pid)
    (hmem : (pid : Int) ∈ pids) (hid : id < 2 ^ 32) (hapart : KeepsApart X Y Z) :
    lineId? pids (recordLine pid id W X Y Z) = some id := by
  obtain ⟨x, hx, hxsep⟩ := hapart.before_process
  obtain ⟨d, hd, hdsep⟩ := hapart.behind_process
  obtain ⟨y, hy, hysep⟩ := hapart.before_syscall
  have hdigits : (toString id).toList = Nat.toDigits 10 id := Nat.toList_repr
  have hnumber : callNumber? (toString id).toList = some id := by
    rw [hdigits]
    exact callNumber?_zeros_append 0 hid
  refine (lineId?_eq_some_iff hpids).mpr ⟨(toString id).toList, ?_, hnumber⟩
  rw [decodeLossy_recordLine]
  have hprocess : (toString pid).toList ∈ processTexts pids :=
    List.mem_map.mpr ⟨pid, hmem, rfl⟩
  apply isRecord_of_parts hprocess
  · exact isDigits_toString id
  · exact isWord_getLast?_decodeLossy hx hxsep
  · exact isWord_head?_decodeLossy hd hdsep
  · exact isWord_getLast?_decodeLossy hy hysep
  · exact endsWord_decodeLossy hapart.behind_syscall
  · intro hinside
    have hbytes : "syscall=".toUTF8.toList = syscallLabel.map Char.toUInt8 := by decide +kernel
    apply hapart.last_syscall
    rw [hbytes]
    exact Text.infix_of_infix_decodeLossy (by decide) hinside

end Bytes

/-! ## Logs with a record -/

section Logs

variable {pids : List Int} {line : Line} {before after : List Line} {fault : Option String}
  {id : Nat} {name : String}

/-- The first line with a number that no call has ends the query. -/
theorem query_of_obstacle (hpids : isSearchable pids = true)
    (hbefore : ¬HasObstacle pids before) (hline : lineId? pids line = some id)
    (hname : Syscall.nameOf? id = none) :
    (AuditLog.mk (before ++ line :: after) fault pids).query.1 =
      .error (.unsupportedSyscall id) := by
  rw [query_eq hpids, answerAt, obstacles_of_obstacle (not_hasObstacle_iff.mp hbefore)
    (obstacle?_eq_some_iff.mpr ⟨hline, hname⟩)]
  rfl

/-- A record of a call is found among lines whose numbers are those of calls. -/
theorem exists_query_of_record (hpids : isSearchable pids = true)
    (hclear : ¬HasObstacle pids (before ++ after)) (hline : lineId? pids line = some id)
    (hname : Syscall.nameOf? id = some name) :
    ∃ names, (AuditLog.mk (before ++ line :: after) none pids).query.1 =
      .ok (some (.allow names)) ∧ name ∈ names := by
  have hmem : name ∈ namesIn pids [] (before ++ line :: after) :=
    mem_namesIn_iff.mpr ⟨line, by simp, id, hline, hname⟩
  have hnone : ¬HasObstacle pids (before ++ line :: after) := by
    rintro ⟨other, hother, number, hnumber, hunnamed⟩
    rcases List.mem_append.mp hother with hin | hin
    · exact hclear ⟨other, List.mem_append_left _ hin, number, hnumber, hunnamed⟩
    · rcases List.mem_cons.mp hin with rfl | hin
      · rw [hline] at hnumber
        obtain rfl := Option.some.inj hnumber
        rw [hname] at hunnamed
        cases hunnamed
      · exact hclear ⟨other, List.mem_append_right _ hin, number, hnumber, hunnamed⟩
  refine ⟨_, ?_, hmem⟩
  rw [query_of_clear hpids hnone, discovery_eq, if_pos (List.ne_nil_of_mem hmem)]

end Logs

end SyscallPolicy.AuditLog

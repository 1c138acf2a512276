import SyscallPolicy.Proofs.Profile.Audit
import SyscallPolicy.Proofs.Profile.Spelled

/-!
# No document begins another one

A document of a profile is over with the bracket or brace that closes it.
So a document that is cut short is no document, and neither is one with
anything but blanks behind it.

* `Json.spells_prefix_unique`: a value that is no number is over where it is
  over, whatever follows;
* `Json.document_append`: so what goes on behind a document is blank, if the
  whole is a document too;
* `Profile.ofText?_append` says the same of profiles, and
  `Profile.ofStream?_eq_none_of_cut` of written profiles byte by byte.
-/

namespace SyscallPolicy

namespace Json

variable {text more : List Char} {found value : Json}

/-- A value that ends by itself. -/
def IsClosed (found : Json) : Prop :=
  ∀ literal, found ≠ .number literal

/-- A text does not begin with two values that end by themselves. -/
theorem spells_prefix_unique (hfound : found.IsClosed) (hvalue : value.IsClosed)
    {inside other rest left : List Char} (hspells : Spells inside found)
    (hother : Spells other value) (htext : inside ++ rest = other ++ left) :
    found = value ∧ rest = left := by
  have hfirst : Json.value (2 * (inside.length + other.length)) (inside ++ rest) =
      some (found, rest) :=
    value_of_spells hspells (by omega) fun literal hnumber => absurd hnumber (hfound literal)
  have hsecond : Json.value (2 * (inside.length + other.length)) (other ++ left) =
      some (value, left) :=
    value_of_spells hother (by omega) fun literal hnumber => absurd hnumber (hvalue literal)
  rw [htext, hsecond, Option.some.injEq, Prod.mk.injEq] at hfirst
  exact ⟨hfirst.1.symm, hfirst.2.symm⟩

theorem not_isBlanks_of_mem (hmore : ∃ c ∈ more, isBlank c = false) : ¬IsBlanks more := by
  obtain ⟨c, hc, hprinted⟩ := hmore
  intro hblank
  rw [hblank c hc] at hprinted
  cases hprinted

theorem document_append (hfound : found.IsClosed) (hvalue : value.IsClosed)
    (hdocument : Document text found) (hlonger : Document (text ++ more) value) :
    found = value ∧ IsBlanks more := by
  obtain ⟨before, inside, after, rfl, hbefore, hspells, -⟩ := hdocument
  obtain ⟨before', other, after', htext, hbefore', hother, hafter'⟩ := hlonger
  have hskip := congrArg skipBlanks htext
  simp only [List.append_assoc, skipBlanks_append hbefore, skipBlanks_append hbefore',
    skipBlanks_spells hspells, skipBlanks_spells hother] at hskip
  obtain ⟨heq, hrest⟩ := spells_prefix_unique hfound hvalue hspells hother hskip
  exact ⟨heq, fun c hc => hafter' c (hrest ▸ List.mem_append_right after hc)⟩

end Json

namespace Profile

variable {text more : String} {p q : Profile}

/-- What stands for a profile ends by itself. -/
theorem isClosed_of_isValue {value : Json} (hvalue : IsValue value p) : value.IsClosed := by
  rintro literal rfl
  cases hvalue

/-- What goes on behind a document of a profile is blank, if the whole is
such a document too, and then nothing has changed. -/
theorem ofText?_append (hread : ofText? text = some p) (hlonger : ofText? (text ++ more) = some q) :
    Json.IsBlanks more.toList ∧ p = q := by
  obtain ⟨found, hdocument, hfound⟩ := ofText?_eq_some_iff.mp hread
  obtain ⟨value, hother, hvalue⟩ := ofText?_eq_some_iff.mp hlonger
  rw [String.toList_append] at hother
  obtain ⟨rfl, hblank⟩ := Json.document_append (isClosed_of_isValue hfound)
    (isClosed_of_isValue hvalue) hdocument hother
  have hsame : some p = some q :=
    (ofJson?_eq_some_iff.mpr hfound).symm.trans (ofJson?_eq_some_iff.mpr hvalue)
  exact ⟨hblank, Option.some.inj hsame⟩

/-! ## Written profiles that are cut short -/

theorem exists_write_eq (layout : Json.Layout) (p : Profile) :
    ∃ inside, (p.write layout).toList = inside ++ ['\x7d'] := by
  simp only [write, toJson, Json.write, Json.member, Json.render, String.toList_ofList]
  exact ⟨'\x7b' :: _, rfl⟩

/-- The text of a profile goes on behind no document. -/
theorem eq_nil_of_write_append {layout : Json.Layout} (hblank : layout.IsBlank)
    (hread : ofText? text = some q) (htext : p.write layout = text ++ more) : more.toList = [] := by
  have hwritten := ofText?_write hblank p
  rw [htext] at hwritten
  obtain ⟨hmore, -⟩ := ofText?_append hread hwritten
  obtain ⟨inside, hinside⟩ := exists_write_eq layout p
  rw [htext, String.toList_append] at hinside
  rcases List.eq_nil_or_concat' more.toList with hnil | ⟨others, last, hlast⟩
  · exact hnil
  · rw [hlast, ← List.append_assoc] at hinside
    obtain ⟨-, hbrace⟩ := List.append_inj' hinside rfl
    have hclosing : Json.isBlank '\x7d' = true :=
      hmore '\x7d' (hlast ▸ hbrace ▸ List.mem_append_right _ List.mem_cons_self)
    cases hclosing

/-- Bytes that are cut off inside of a character are no text at all, and
others are a text that the whole goes on with. -/
theorem ofStream?_eq_none_of_cut {layout : Json.Layout} (hblank : layout.IsBlank)
    {stream : ByteStream} {rest : ByteArray}
    (hbytes : (p.write layout).toUTF8 = stream.bytes ++ rest) (hrest : rest ≠ .empty) :
    ofStream? stream = none := by
  refine Option.eq_none_iff_forall_ne_some.mpr fun q hread => hrest ?_
  obtain ⟨-, hvalid, hread⟩ := ofStream?_eq_some_iff.mp hread
  have hcut : (String.fromUTF8 stream.bytes hvalid).toList.utf8Encode = stream.bytes :=
    String.utf8Encode_toList
  have hwhole : (p.write layout).toList.utf8Encode = (p.write layout).toUTF8 :=
    String.utf8Encode_toList
  obtain ⟨more, hmore⟩ := List.isPrefix_of_utf8Encode_append_eq_utf8Encode rest
    (hcut.symm ▸ hbytes.symm.trans hwhole.symm)
  have htext : p.write layout = String.fromUTF8 stream.bytes hvalid ++ String.ofList more := by
    rw [← String.toList_inj, String.toList_append, String.toList_ofList, hmore]
  have hnil := eq_nil_of_write_append hblank hread htext
  rw [String.toList_ofList] at hnil
  rw [hnil, List.append_nil] at hmore
  rw [← hwhole, ← hmore, hcut] at hbytes
  exact (ByteArray.append_right_inj stream.bytes).mp
    (hbytes.symm.trans ByteArray.append_empty.symm)

/-- A document of a profile that is cut short is not read, nor is one with
more than blanks behind it: two documents of which one begins the other
differ by blanks at the end and stand for the same profile.  Hence no audit
accepts the text of a profile before it is delivered to its last byte. -/
theorem no_document_begins_another :
    (∀ (text more : String) (p : Profile), ofText? text = some p →
      (∃ c ∈ more.toList, Json.isBlank c = false) → ofText? (text ++ more) = none) ∧
    (∀ (text more : String) (p : Profile), ofText? (text ++ more) = some p →
      (∃ c ∈ more.toList, Json.isBlank c = false) → ofText? text = none) ∧
    (∀ (text more : String) (p q : Profile), ofText? text = some p →
      ofText? (text ++ more) = some q → Json.IsBlanks more.toList ∧ p = q) ∧
    ∀ p : Profile, ∀ text ∈ [p.compactText, p.prettyText], ∀ bytes rest : ByteArray,
      text.toUTF8 = bytes ++ rest → rest ≠ .empty →
        ∀ fault, audit ⟨bytes, fault⟩ = .error .invalidProfile := by
  refine ⟨fun text more p hread hmore => ?longer, fun text more p hread hmore => ?shorter,
    fun text more p q => ofText?_append, fun p text htext bytes rest hbytes hrest fault => ?cut⟩
  case longer =>
    refine Option.eq_none_iff_forall_ne_some.mpr fun q hlonger => ?_
    exact Json.not_isBlanks_of_mem hmore (ofText?_append hread hlonger).1
  case shorter =>
    refine Option.eq_none_iff_forall_ne_some.mpr fun q hshorter => ?_
    exact Json.not_isBlanks_of_mem hmore (ofText?_append hshorter hread).1
  case cut =>
    obtain ⟨layout, hblank, rfl⟩ := exists_layout_of_mem_texts htext
    exact audit_eq_error_iff.mpr ⟨ofStream?_eq_none_of_cut hblank hbytes hrest, rfl⟩

/-- A bracket behind a profile, and a text that is cut off inside of its only
character of two bytes. -/
theorem cut_inside_of_character : ∃ bytes cut rest : ByteArray,
    bytes = (Profile.mk .errno [.other "é"] []).compactText.toUTF8 ∧
    bytes = cut ++ rest ∧ rest ≠ .empty ∧ audit ⟨cut, none⟩ = .error .invalidProfile ∧
    ofText? "\x7b\x7d" = some ⟨.errno, [], []⟩ ∧ ofText? ("\x7b\x7d" ++ "\n]") = none := by
  have hbytes : (Profile.mk .errno [.other "é"] []).compactText.toUTF8 =
      ((Profile.mk .errno [.other "é"] []).compactText.toUTF8).extract 0 53 ++
        ((Profile.mk .errno [.other "é"] []).compactText.toUTF8).extract 53 57 := by
    decide +kernel
  have hrest : ((Profile.mk .errno [.other "é"] []).compactText.toUTF8).extract 53 57 ≠ .empty := by
    decide +kernel
  have hread : ofText? "\x7b\x7d" = some ⟨.errno, [], []⟩ := by decide +kernel
  exact ⟨_, _, _, rfl, hbytes, hrest,
    no_document_begins_another.2.2.2 _ _ List.mem_cons_self _ _ hbytes hrest none, hread,
    no_document_begins_another.1 _ _ _ hread ⟨']', by decide, by decide⟩⟩

end Profile

end SyscallPolicy

import Mathlib.Data.Nat.Notation
import Mathlib.Data.String.Basic
import Mathlib.Order.Basic

/-!
# Texts and their bytes

The order of texts compares code points, and the encoding keeps it: texts
are in order as their bytes are (`toUTF8_lt_toUTF8_iff`).

All characters are encoded in one way (`Utf8.code`); only the byte that leads
and the number of bytes behind it differ.  Among codes of one form the larger
number has the larger code (`Utf8.precedes_code`), and from form to form the
leading bytes grow (`Utf8.formOf_eq_or_le`).  In each case the first byte that
differs decides, so whatever follows the characters does not matter;
`Utf8.Precedes` says this of two lists of bytes.
-/

namespace SyscallPolicy

/-! ## Arrays of bytes -/

/-- The bytes of an array, read one after the other from a place on. -/
theorem toList_loop_eq (bytes : ByteArray) (place : Nat) (passed : List UInt8) :
    ByteArray.toList.loop bytes place passed =
      passed.reverse ++ bytes.data.toList.drop place := by
  induction place, passed using ByteArray.toList.loop.induct bytes with
  | case1 place passed hplace ih =>
    have hlength : place < bytes.data.toList.length := hplace
    have hbyte : bytes.get! place = bytes.data.toList[place] :=
      getElem!_pos bytes.data place hplace
    rw [ByteArray.toList.loop, if_pos hplace, ih, List.drop_eq_getElem_cons hlength, hbyte,
      List.reverse_cons, List.append_assoc, List.singleton_append]
  | case2 place passed hplace =>
    have hlength : bytes.data.toList.length ≤ place := Nat.le_of_not_lt hplace
    rw [ByteArray.toList.loop, if_neg hplace, List.drop_eq_nil_of_le hlength, List.append_nil]

theorem toList_toByteArray (bytes : List UInt8) : bytes.toByteArray.toList = bytes := by
  rw [ByteArray.toList, toList_loop_eq, List.data_toByteArray]
  rfl

theorem toList_toUTF8 (text : String) :
    text.toUTF8.toList = text.toList.flatMap String.utf8EncodeChar := by
  have hbytes : text.toUTF8 = (text.toList.flatMap String.utf8EncodeChar).toByteArray :=
    String.utf8Encode_toList.symm
  rw [hbytes, toList_toByteArray]

namespace Utf8

/-! ## Codes that decide the order -/

/-- Whether bytes come before others, whatever follows them on either side. -/
def Precedes (bytes others : List UInt8) : Prop :=
  ∀ rest more, bytes ++ rest < others ++ more

theorem precedes_of_lt {b c : UInt8} (hlt : b < c) (bytes others : List UInt8) :
    Precedes (b :: bytes) (c :: others) :=
  fun _ _ => List.cons_lt_cons_iff.mpr (.inl hlt)

theorem Precedes.append {bytes others : List UInt8} (h : Precedes bytes others)
    (rest more : List UInt8) : Precedes (bytes ++ rest) (others ++ more) := by
  intro rest' more'
  rw [List.append_assoc, List.append_assoc]
  exact h _ _

theorem Precedes.append_left {bytes others : List UInt8} (h : Precedes bytes others)
    (front : List UInt8) : Precedes (front ++ bytes) (front ++ others) := by
  intro rest more
  rw [List.append_assoc, List.append_assoc]
  exact List.append_left_lt (h rest more)

/-! ## Forms -/

/-- The bytes that lead the codes of one length. -/
structure Lead where
  first : Nat
  count : Nat
  pos : 0 < count
  isByte : first + count ≤ 256

/-- The code of a number: six bits in each byte behind the leading one, and
the others in that one. -/
def code (lead : Lead) : Nat → Nat → List UInt8
  | 0, v => [UInt8.ofNat (v % lead.count + lead.first)]
  | more + 1, v => code lead more (v / 64) ++ [UInt8.ofNat (v % 64 + 128)]

/-- How the code of a character is led, and how many bytes follow. -/
def formOf (v : Nat) : Lead × Nat :=
  if v ≤ 127 then (⟨0, 128, by decide, by decide⟩, 0)
  else if v ≤ 2047 then (⟨192, 32, by decide, by decide⟩, 1)
  else if v ≤ 65535 then (⟨224, 16, by decide, by decide⟩, 2)
  else (⟨240, 8, by decide, by decide⟩, 3)

theorem utf8EncodeChar_eq (c : Char) :
    String.utf8EncodeChar c = code (formOf c.toNat).1 (formOf c.toNat).2 c.toNat := by
  have hthree : c.toNat / 64 / 64 = c.toNat / 4096 := Nat.div_div_eq_div_mul _ _ _
  have hfour : c.toNat / 4096 / 64 = c.toNat / 262144 := Nat.div_div_eq_div_mul _ _ _
  have hval : c.val.toNat = c.toNat := rfl
  unfold String.utf8EncodeChar formOf
  simp only [hval]
  split_ifs with hone
  · rw [code, Nat.mod_eq_of_lt (Nat.lt_succ_of_le hone), Nat.add_zero]
  · rfl
  · rw [code, code, code, hthree]
    rfl
  · rw [code, code, code, code, hthree, hfour]
    rfl

variable {lead : Lead}

theorem ofNat_lt_ofNat {a b : Nat} (hlt : a < b) (hb : b < 256) : UInt8.ofNat a < UInt8.ofNat b :=
  (UInt8.ofNat_lt_iff_lt (hlt.trans hb) hb).mpr hlt

/-- Codes that are led alike and equally long are in the order of the numbers. -/
theorem precedes_code {more m n : Nat} (hlt : m < n) (hn : n < lead.count * 64 ^ more) :
    Precedes (code lead more m) (code lead more n) := by
  have hbyte := lead.isByte
  induction more generalizing m n with
  | zero =>
    have hn : n < lead.count := by simpa using hn
    rw [code, code, Nat.mod_eq_of_lt (hlt.trans hn), Nat.mod_eq_of_lt hn]
    exact precedes_of_lt (ofNat_lt_ofNat (by omega) (by omega)) _ _
  | succ more ih =>
    rw [code, code]
    have hfront : n / 64 < lead.count * 64 ^ more := by
      rw [Nat.div_lt_iff_lt_mul (by decide), mul_assoc, ← pow_succ]
      exact hn
    rcases Nat.lt_or_ge (m / 64) (n / 64) with hfirst | hlast
    · exact (ih hfirst hfront).append _ _
    · have heq : m / 64 = n / 64 := by omega
      rw [heq]
      exact (precedes_of_lt (ofNat_lt_ofNat (by omega) (by omega)) _ _).append_left _

theorem exists_code_eq_cons (lead : Lead) (more v : Nat) :
    ∃ first rest, code lead more v = UInt8.ofNat first :: rest ∧
      lead.first ≤ first ∧ first < lead.first + lead.count := by
  induction more generalizing v with
  | zero =>
    have hmod := Nat.mod_lt v lead.pos
    exact ⟨_, [], rfl, by omega, by omega⟩
  | succ more ih =>
    obtain ⟨first, rest, hcode, hfirst⟩ := ih (v / 64)
    exact ⟨first, _, by rw [code, hcode, List.cons_append], hfirst⟩

/-- The leading bytes decide between codes that are led differently. -/
theorem precedes_code_of_le {next : Lead} (hle : lead.first + lead.count ≤ next.first)
    (more others m n : Nat) : Precedes (code lead more m) (code next others n) := by
  obtain ⟨first, rest, hcode, -, hfirst⟩ := exists_code_eq_cons lead more m
  obtain ⟨second, rest', hcode', hsecond, hbyte⟩ := exists_code_eq_cons next others n
  rw [hcode, hcode']
  exact precedes_of_lt (ofNat_lt_ofNat (by omega) (by have := next.isByte; omega)) _ _

theorem lt_formOf {v : Nat} (hv : v < 0x110000) : v < (formOf v).1.count * 64 ^ (formOf v).2 := by
  unfold formOf
  split_ifs <;> simp <;> omega

theorem formOf_eq_or_le {m n : Nat} (hle : m ≤ n) :
    formOf m = formOf n ∨ (formOf m).1.first + (formOf m).1.count ≤ (formOf n).1.first := by
  unfold formOf
  split_ifs <;> first | omega | simp

/-! ## Characters and texts -/

theorem precedes_utf8EncodeChar {c d : Char} (hlt : c < d) :
    Precedes (String.utf8EncodeChar c) (String.utf8EncodeChar d) := by
  have hlt : c.toNat < d.toNat := hlt
  have hvalid : d.toNat < 0x110000 := by
    rcases d.valid with hlow | hhigh
    · exact Nat.lt_trans hlow (by decide)
    · exact hhigh.2
  rw [utf8EncodeChar_eq, utf8EncodeChar_eq]
  rcases formOf_eq_or_le hlt.le with heq | hle
  · rw [heq]
    exact precedes_code hlt (lt_formOf hvalid)
  · exact precedes_code_of_le hle _ _ _ _

theorem flatMap_utf8EncodeChar_lt {cs ds : List Char} (hlt : cs < ds) :
    cs.flatMap String.utf8EncodeChar < ds.flatMap String.utf8EncodeChar := by
  induction cs generalizing ds with
  | nil =>
    cases ds with
    | nil => exact absurd hlt (List.lt_irrefl [])
    | cons d ds =>
      obtain ⟨first, rest, hcode, -⟩ :=
        exists_code_eq_cons (formOf d.toNat).1 (formOf d.toNat).2 d.toNat
      rw [List.flatMap_cons, utf8EncodeChar_eq, hcode]
      exact List.nil_lt_cons _ _
  | cons c cs ih =>
    cases ds with
    | nil => exact absurd hlt (List.not_lt_nil _)
    | cons d ds =>
      rw [List.flatMap_cons, List.flatMap_cons]
      rcases List.cons_lt_cons_iff.mp hlt with hfirst | ⟨rfl, hrest⟩
      · exact precedes_utf8EncodeChar hfirst _ _
      · exact List.append_left_lt (ih hrest)

end Utf8

/-- Texts are in order as their bytes are. -/
theorem toUTF8_lt_toUTF8_iff {text other : String} :
    text.toUTF8.toList < other.toUTF8.toList ↔ text < other := by
  have hmono {text other : String} (hlt : text < other) :
      text.toUTF8.toList < other.toUTF8.toList := by
    rw [toList_toUTF8, toList_toUTF8]
    exact Utf8.flatMap_utf8EncodeChar_lt (String.lt_iff_toList_lt.mp hlt)
  refine ⟨fun hbytes => ?_, hmono⟩
  rcases lt_trichotomy text other with hlt | rfl | hgt
  · exact hlt
  · exact absurd hbytes (List.lt_irrefl _)
  · exact absurd hbytes (List.lt_asymm (hmono hgt))

end SyscallPolicy

import SyscallPolicy.Profile.Audit
import SyscallPolicy.Proofs.Profile.RoundTrip

/-!
# Audits of documents and audits of profiles

An audit of stored bytes finds what the analysis of the profile finds that
they stand for, and so do the audits of the two texts in which that profile
is written again.

`ofStream?_eq_some_iff` says which streams stand for a profile, and
`audit_eq_ok_iff` and `audit_eq_error_iff` read the outcome of an audit off
that.  The texts of a profile may give back another profile, with the
disguises of its architectures taken off; `verify_recognized` says why that
does not matter here.
-/

namespace SyscallPolicy.Profile

variable {stream : ByteStream} {text : String} {p : Profile}

/-! ## Streams that stand for a profile -/

theorem ofStream?_eq_some_iff :
    ofStream? stream = some p ↔ stream.fault = none ∧
      ∃ hvalid : stream.bytes.IsValidUTF8, ofText? (.fromUTF8 stream.bytes hvalid) = some p := by
  unfold ofStream?
  cases stream.fault with
  | some reason => simp
  | none =>
    by_cases hvalid : stream.bytes.IsValidUTF8
    · simp [String.fromUTF8?, hvalid]
    · simp [String.fromUTF8?, hvalid]

/-- A stored text stands for the profile that is read from it. -/
theorem ofStream?_ofText (text : String) : ofStream? (.ofText text) = ofText? text := by
  refine Option.ext fun p => ?_
  rw [ofStream?_eq_some_iff]
  exact ⟨fun ⟨_, _, hread⟩ => hread, fun hread => ⟨rfl, text.isValidUTF8, hread⟩⟩

/-! ## The outcome of an audit -/

theorem audit_of_ofStream? (hread : ofStream? stream = some p) : audit stream = .ok p.verify := by
  rw [audit, hread]

theorem audit_eq_ok_iff {v : Verification} :
    audit stream = .ok v ↔ ∃ p, ofStream? stream = some p ∧ v = p.verify := by
  unfold audit
  cases ofStream? stream with
  | none => simp
  | some p => simp [eq_comm]

theorem audit_eq_error_iff {failure : Failure} :
    audit stream = .error failure ↔ ofStream? stream = none ∧ failure = .invalidProfile := by
  unfold audit
  cases ofStream? stream with
  | none => simp [eq_comm]
  | some p => simp

/-! ## Audits of written profiles -/

/-- The analysis does not look at architectures. -/
theorem verify_recognized (p : Profile) : p.recognized.verify = p.verify := rfl

theorem ofStream?_write {layout : Json.Layout} (hblank : layout.IsBlank) (p : Profile) :
    ofStream? (.ofText (p.write layout)) = some p.recognized := by
  rw [ofStream?_ofText, ofText?_write hblank]

theorem audit_write {layout : Json.Layout} (hblank : layout.IsBlank) (p : Profile) :
    audit (.ofText (p.write layout)) = .ok p.verify := by
  rw [audit_of_ofStream? (ofStream?_write hblank p), verify_recognized]

/-- Both texts of a profile are audited as the profile itself. -/
theorem audit_texts (p : Profile) :
    ∀ text ∈ [p.compactText, p.prettyText], audit (.ofText text) = .ok p.verify := by
  intro text htext
  obtain ⟨layout, hblank, rfl⟩ := exists_layout_of_mem_texts htext
  exact audit_write hblank p

/-- An audit of stored bytes succeeds exactly if they are delivered to the
end and are the text of a profile, and finds what the analysis of that
profile finds.  Writing the profile again changes nothing about that, and an
audit fails in one way only. -/
theorem audit_agrees_with_verify :
    (∀ p : Profile, ∀ text ∈ [p.compactText, p.prettyText],
      audit (.ofText text) = .ok p.verify) ∧
    (∀ (stream : ByteStream) (v : Verification), audit stream = .ok v ↔
      stream.fault = none ∧ ∃ hvalid : stream.bytes.IsValidUTF8, ∃ p,
        ofText? (.fromUTF8 stream.bytes hvalid) = some p ∧ v = p.verify) ∧
    (∀ (stream : ByteStream) (v : Verification) (hvalid : stream.bytes.IsValidUTF8) (p : Profile),
      audit stream = .ok v → ofText? (.fromUTF8 stream.bytes hvalid) = some p →
      ∀ text ∈ [p.compactText, p.prettyText], audit (.ofText text) = .ok v) ∧
    ∀ (stream : ByteStream) (failure : Failure), audit stream = .error failure →
      failure = .invalidProfile := by
  refine ⟨audit_texts, fun stream v => ?_, ?_, fun stream failure hfailure => ?_⟩
  · simp only [audit_eq_ok_iff, ofStream?_eq_some_iff]
    refine ⟨?_, ?_⟩
    · rintro ⟨p, ⟨hfault, hvalid, hread⟩, hv⟩
      exact ⟨hfault, hvalid, p, hread, hv⟩
    · rintro ⟨hfault, hvalid, p, hread, hv⟩
      exact ⟨p, ⟨hfault, hvalid, hread⟩, hv⟩
  · intro stream v hvalid p hok hread text htext
    obtain ⟨q, hstream, rfl⟩ := audit_eq_ok_iff.mp hok
    obtain ⟨-, _, hsame⟩ := ofStream?_eq_some_iff.mp hstream
    obtain rfl := Option.some.inj (hread.symm.trans hsame)
    exact audit_texts p text htext
  · exact (audit_eq_error_iff.mp hfailure).2

/-- A profile that is read from an array with escapes is written in another
way, and audited with the same finding. -/
theorem audit_of_escaped_document :
    audit (.ofText (Profile.mk .errno [.x86] [⟨["ptrace"], .allow⟩]).prettyText) =
      .ok (Profile.mk .errno [.x86] [⟨["ptrace"], .allow⟩]).verify := by
  have hread : ofText? ("[\"SCMP_ACT_ERRNO\",[\"SCMP_ARCH_X\\u00386\"]," ++
      "[[[\"\\u0070trace\"],\"SCMP_ACT_ALLOW\"]]]") =
      some ⟨.errno, [.x86], [⟨["ptrace"], .allow⟩]⟩ := by
    decide +kernel
  exact audit_agrees_with_verify.2.2.1 (.ofText _) _ (String.isValidUTF8 _) _
    (audit_of_ofStream? ((ofStream?_ofText _).trans hread)) hread _ (by simp)

end SyscallPolicy.Profile

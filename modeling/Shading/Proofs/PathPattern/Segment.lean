import Shading.Proofs.PathPattern.Globs

set_option autoImplicit false

namespace Shading

namespace Glob

inductive SegmentMatches : Text → Bytes → Prop where
  | finish : SegmentMatches [] []
  | anyBytes (rest : Text) (skipped bytes : Bytes) (later : SegmentMatches rest bytes) :
      SegmentMatches ('*' :: rest) (skipped ++ bytes)
  | anyByte (rest : Text) (b : UInt8) (bytes : Bytes) (later : SegmentMatches rest bytes) :
      SegmentMatches ('?' :: rest) (b :: bytes)
  | char (c : Char) (rest : Text) (bytes : Bytes) (star : c ≠ '*') (mark : c ≠ '?')
      (later : SegmentMatches rest bytes) : SegmentMatches (c :: rest) (String.utf8EncodeChar c ++ bytes)

theorem matches_nil (name : Bytes) : SegmentMatches [] name ↔ name = [] := by
  constructor
  · rintro ⟨⟩
    rfl
  · rintro rfl
    exact .finish

theorem matches_any_bytes (rest : Text) (name : Bytes) : SegmentMatches ('*' :: rest) name ↔
    ∃ skipped bytes, name = skipped ++ bytes ∧ SegmentMatches rest bytes := by
  constructor
  · intro matched
    cases matched with
    | anyBytes _ skipped bytes later => exact ⟨skipped, bytes, rfl, later⟩
    | char _ _ _ star => exact absurd rfl star
  · rintro ⟨skipped, bytes, rfl, later⟩
    exact .anyBytes rest skipped bytes later

theorem matches_any_byte (rest : Text) (name : Bytes) :
    SegmentMatches ('?' :: rest) name ↔ ∃ b bytes, name = b :: bytes ∧ SegmentMatches rest bytes := by
  constructor
  · intro matched
    cases matched with
    | anyByte _ b bytes later => exact ⟨b, bytes, rfl, later⟩
    | char _ _ _ _ mark => exact absurd rfl mark
  · rintro ⟨b, bytes, rfl, later⟩
    exact .anyByte rest b bytes later

theorem matches_char (c : Char) (rest : Text) (name : Bytes) (star : c ≠ '*') (mark : c ≠ '?') :
    SegmentMatches (c :: rest) name ↔
      ∃ bytes, name = String.utf8EncodeChar c ++ bytes ∧ SegmentMatches rest bytes := by
  constructor
  · intro matched
    cases matched with
    | anyBytes => exact absurd rfl star
    | anyByte => exact absurd rfl mark
    | char _ _ bytes _ _ later => exact ⟨bytes, rfl, later⟩
  · rintro ⟨bytes, rfl, later⟩
    exact .char c rest bytes star mark later

theorem matches_stars (rest : Text) (name : Bytes) :
    SegmentMatches ('*' :: '*' :: rest) name ↔ SegmentMatches ('*' :: rest) name := by
  simp only [matches_any_bytes]
  constructor
  · rintro ⟨first, _, rfl, second, bytes, rfl, later⟩
    exact ⟨first ++ second, bytes, (List.append_assoc _ _ _).symm, later⟩
  · rintro ⟨skipped, bytes, rfl, later⟩
    exact ⟨[], _, rfl, skipped, bytes, rfl, later⟩

theorem byte_char_value (b : UInt8) : (byteChar b).toNat = b.toNat := by
  have small := b.toNat_lt
  have valid : b.toNat.isValidChar := .inl (by omega)
  rw [byteChar, Char.ofNat, dif_pos valid]
  rfl

theorem byte_char_injective : Function.Injective byteChar := fun a b same =>
  UInt8.toNat_inj.mp (by rw [← byte_char_value a, same, byte_char_value])

-- In UTF-8 the byte of the slash is nothing but a slash.
theorem slash_of_encoded (c : Char) (member : (47 : UInt8) ∈ String.utf8EncodeChar c) : c = '/' := by
  have value (k : Nat) : (47 : UInt8) = UInt8.ofNat k ↔ 47 = k % 256 := by
    rw [← UInt8.toNat_inj]
    rfl
  refine Char.toNat_inj.mp (show c.val.toNat = 47 from ?_)
  unfold String.utf8EncodeChar at member
  dsimp only at member
  split_ifs at member <;> simp only [List.mem_cons, List.not_mem_nil, or_false, value] at member <;> omega

theorem octets_append (a b : Text) : octets (a ++ b) = octets a ++ octets b := by
  rw [octets, Text.utf8, List.flatMap_append, List.map_append]
  rfl

theorem slash_not_mem_octets (s : Text) (plain : '/' ∉ s) : '/' ∉ octets s := by
  intro member
  obtain ⟨b, inside, same⟩ := List.mem_map.mp member
  obtain ⟨c, listed, encoded⟩ := List.mem_flatMap.mp inside
  have byte : b = 47 := byte_char_injective (same.trans (by decide))
  rw [byte] at encoded
  rw [slash_of_encoded c encoded] at listed
  exact plain listed

theorem cut_into_cons (part : Part) (parts : List Part) (text : List Char) : CutInto (part :: parts) text ↔
    ∃ span behind, text = span ++ behind ∧ part.Stands span ∧ CutInto parts behind := Iff.rfl

variable {name : Bytes}

def Plain (name : Bytes) : Prop := '/' ∉ name.map byteChar

theorem plain_append (front behind : Bytes) : Plain (front ++ behind) ↔ Plain front ∧ Plain behind := by
  simp [Plain, not_or]

-- If the parts stand for what a pattern matches, then so they do after `*`.
theorem cut_any_bytes (parts : List Part) (rest : Text)
    (later : ∀ bytes, Plain bytes → (CutInto parts (bytes.map byteChar) ↔ SegmentMatches rest bytes))
    (plain : Plain name) :
    CutInto (.anyBytes :: parts) (name.map byteChar) ↔ SegmentMatches ('*' :: rest) name := by
  rw [cut_into_cons, matches_any_bytes]
  constructor
  · rintro ⟨_, _, whole, _, cut⟩
    obtain ⟨skipped, bytes, rfl, rfl, rfl⟩ := List.map_eq_append_iff.mp whole
    obtain ⟨_, free⟩ := (plain_append _ _).mp plain
    exact ⟨skipped, bytes, rfl, (later bytes free).mp cut⟩
  · rintro ⟨skipped, bytes, rfl, matched⟩
    obtain ⟨free, free'⟩ := (plain_append _ _).mp plain
    exact ⟨_, _, List.map_append, free, (later bytes free').mpr matched⟩

theorem cut_any_byte (parts : List Part) (rest : Text)
    (later : ∀ bytes, Plain bytes → (CutInto parts (bytes.map byteChar) ↔ SegmentMatches rest bytes))
    (plain : Plain name) :
    CutInto (.anyByte :: parts) (name.map byteChar) ↔ SegmentMatches ('?' :: rest) name := by
  rw [cut_into_cons, matches_any_byte]
  constructor
  · rintro ⟨_, _, whole, ⟨b, rfl, _⟩, cut⟩
    obtain ⟨byte, bytes, rfl, rfl, rfl⟩ := List.map_eq_cons_iff.mp whole
    obtain ⟨_, free⟩ := (plain_append [byte] bytes).mp plain
    exact ⟨byte, bytes, rfl, (later bytes free).mp cut⟩
  · rintro ⟨b, bytes, rfl, matched⟩
    obtain ⟨free, free'⟩ := (plain_append [b] bytes).mp plain
    exact ⟨[byteChar b], _, rfl, ⟨_, rfl, fun same => free (by simp [same])⟩, (later bytes free').mpr matched⟩

theorem cut_literal (c : Char) (star : c ≠ '*') (mark : c ≠ '?') (parts : List Part) (rest : Text)
    (later : ∀ bytes, Plain bytes → (CutInto parts (bytes.map byteChar) ↔ SegmentMatches rest bytes))
    (plain : Plain name) :
    CutInto (.literal c :: parts) (name.map byteChar) ↔ SegmentMatches (c :: rest) name := by
  have single : octets [c] = (String.utf8EncodeChar c).map byteChar := by
    rw [octets, Text.utf8, List.flatMap_singleton]
  rw [cut_into_cons, matches_char c rest name star mark]
  constructor
  · rintro ⟨_, _, whole, rfl, cut⟩
    obtain ⟨first, bytes, rfl, same, rfl⟩ := List.map_eq_append_iff.mp whole
    obtain ⟨_, free⟩ := (plain_append _ _).mp plain
    rw [List.map_injective_iff.mpr byte_char_injective (same.trans single)]
    exact ⟨bytes, rfl, (later bytes free).mp cut⟩
  · rintro ⟨bytes, rfl, matched⟩
    obtain ⟨_, free⟩ := (plain_append _ _).mp plain
    exact ⟨_, _, List.map_append, single.symm, (later bytes free).mpr matched⟩

-- The second half is about what is left of a segment after a star.
theorem cut_segment_parts (segment : Text) :
    (∀ name, Plain name →
      (CutInto (segmentParts false segment) (name.map byteChar) ↔ SegmentMatches segment name)) ∧
    ∀ name, Plain name →
      (CutInto (.anyBytes :: segmentParts true segment) (name.map byteChar) ↔ SegmentMatches ('*' :: segment) name) := by
  induction segment with
  | nil =>
      have finish (bytes : Bytes) : CutInto [] (bytes.map byteChar) ↔ SegmentMatches [] bytes := by
        rw [matches_nil]
        exact List.map_eq_nil_iff
      exact ⟨fun name _ => finish name, fun name => cut_any_bytes [] [] fun bytes _ => finish bytes⟩
  | cons c rest ih =>
      obtain ⟨begun, afterStar⟩ := ih
      by_cases star : c = '*'
      · subst star
        refine ⟨afterStar, fun name plain => ?_⟩
        rw [matches_stars]
        exact afterStar name plain
      · have first (name : Bytes) (plain : Plain name) :
            CutInto (segmentParts false (c :: rest)) (name.map byteChar) ↔ SegmentMatches (c :: rest) name := by
          rw [segmentParts, if_neg star]
          by_cases mark : c = '?'
          · subst mark
            exact cut_any_byte _ rest begun plain
          · rw [if_neg mark]
            exact cut_literal c star mark _ rest begun plain
        have same : segmentParts true (c :: rest) = segmentParts false (c :: rest) := by
          rw [segmentParts, segmentParts, if_neg star, if_neg star]
        rw [same]
        exact ⟨first, fun name plain => cut_any_bytes _ (c :: rest) first plain⟩

theorem cut_segment (segment : Text) (plain : Plain name) :
    CutInto (segmentParts false segment) (name.map byteChar) ↔ SegmentMatches segment name :=
  (cut_segment_parts segment).1 name plain

theorem no_slash_in_segment (afterStar : Bool) (segment : Text) (plain : '/' ∉ segment) (text : List Char)
    (cut : CutInto (segmentParts afterStar segment) text) : '/' ∉ text := by
  induction segment generalizing afterStar text with
  | nil =>
      rw [show text = [] from cut]
      exact List.not_mem_nil
  | cons c rest ih =>
      obtain ⟨other, plain⟩ := not_or.mp (List.mem_cons.not.mp plain)
      rw [segmentParts] at cut
      split_ifs at cut with star again mark
      · exact ih true plain text cut
      · obtain ⟨span, later, rfl, free, cut⟩ := cut
        exact List.not_mem_append free (ih true plain later cut)
      · obtain ⟨_, later, rfl, ⟨b, rfl, free⟩, cut⟩ := cut
        exact List.not_mem_append (by simp [free.symm]) (ih false plain later cut)
      · obtain ⟨_, later, rfl, rfl, cut⟩ := cut
        refine List.not_mem_append (slash_not_mem_octets [c] ?_) (ih false plain later cut)
        exact fun member => other (List.mem_singleton.mp member)

end Glob

end Shading

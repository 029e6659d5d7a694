import Mathlib.Data.String.Basic
import Pactline.Model.Artifact

/-!
# Text artifacts are shown up to a limit

`inspectText` reads one byte more than it keeps and asks for valid UTF-8 before it cuts. So a file
is refused whose text is valid, when the cut behind that byte goes through a character.
-/

set_option autoImplicit false

namespace Pactline.Artifact

/-- The content is the trimmed text of a prefix of the file that fits the limit, and the flag tells
whether the prefix is all of it. -/
def TextDigest.Shows (digest : TextDigest) (file : ByteArray) : Prop :=
  digest.content.utf8ByteSize ≤ maxTextOutputBytes ∧
    ∃ (n : Nat) (text : String), n ≤ file.size ∧ text.toByteArray = file.extract 0 n ∧
      digest.content = trimSpace text ∧ (digest.truncated = true ↔ n < file.size)

theorem fromUTF8?_eq_some {b} {text : String} :
    String.fromUTF8? b = some text ↔ text.toByteArray = b := by
  unfold String.fromUTF8?
  constructor
  · intro h
    split at h
    · cases h
      rfl
    · cases h
  · rintro rfl
    rw [dif_pos text.isValidUTF8]
    rfl

theorem validText_toByteArray (encoded : ByteArray) (n : Nat) :
    ∃ m ≤ n, (validText encoded n).toByteArray = encoded.extract 0 m := by
  induction n with
  | zero => exact ⟨0, Nat.le_refl _, by simp [validText]⟩
  | succ n ih =>
    unfold validText
    cases h : String.fromUTF8? (encoded.extract 0 (n + 1)) with
    | none =>
      obtain ⟨m, hm, heq⟩ := ih
      exact ⟨m, by omega, heq⟩
    | some text => exact ⟨n + 1, Nat.le_refl _, fromUTF8?_eq_some.mp h⟩

theorem utf8ByteSize_trimSpace (s : String) : (trimSpace s).utf8ByteSize ≤ s.utf8ByteSize := by
  have hsub :
      ((s.toList.dropWhile isSpace).reverse.dropWhile isSpace).reverse.Sublist s.toList := by
    have hright := (List.dropWhile_sublist isSpace
      (l := (s.toList.dropWhile isSpace).reverse)).reverse
    rw [List.reverse_reverse] at hright
    exact hright.trans (List.dropWhile_sublist isSpace)
  have hlen := String.utf8Len_le_of_sublist hsub
  rwa [← String.utf8ByteSize_ofList, ← String.utf8ByteSize_ofList, String.ofList_toList] at hlen

/-- The first bytes of a text are one themselves if they end where a character does. -/
theorem isValidUTF8_extract_iff {s : String} {n} (h : n < s.utf8ByteSize) :
    (s.toByteArray.extract 0 n).IsValidUTF8 ↔ (s.getUTF8Byte ⟨n⟩ h).IsUTF8FirstByte := by
  have hend : (⟨n⟩ : String.Pos.Raw) ≠ s.rawEndPos := by
    intro heq
    have hidx := congrArg String.Pos.Raw.byteIdx heq
    exact absurd hidx (Nat.ne_of_lt h)
  have hle : (⟨n⟩ : String.Pos.Raw) ≤ s.rawEndPos := String.Pos.Raw.le_iff.mpr (Nat.le_of_lt h)
  have hvalid := String.Pos.Raw.isValid_iff_isValidUTF8_extract_zero (s := s) (p := ⟨n⟩)
  rw [String.Pos.Raw.isValid_iff_isUTF8FirstByte, or_iff_right hend, and_iff_right hle] at hvalid
  rw [← hvalid]
  exact ⟨fun hfirst => hfirst.2, fun hfirst => ⟨h, hfirst⟩⟩

theorem extract_of_size_le {b : ByteArray} {n} (h : b.size ≤ n) : b.extract 0 n = b := by
  have hmax := ByteArray.extract_zero_max_size (a := b) (i := n)
  rwa [Nat.max_eq_left h] at hmax

/-- The text ends with the last byte that is read, or a character does. -/
def Aligned (s : String) : Prop :=
  ∀ h : maxTextBytes + 1 < s.utf8ByteSize, (s.getUTF8Byte ⟨maxTextBytes + 1⟩ h).IsUTF8FirstByte

theorem fromUTF8?_read {s : String} (h : Aligned s) :
    ∃ whole, String.fromUTF8? (s.toByteArray.extract 0 (maxTextBytes + 1)) = some whole := by
  have hvalid : (s.toByteArray.extract 0 (maxTextBytes + 1)).IsValidUTF8 := by
    by_cases hlt : maxTextBytes + 1 < s.utf8ByteSize
    · exact (isValidUTF8_extract_iff hlt).mpr (h hlt)
    · rw [extract_of_size_le (Nat.not_lt.mp hlt)]
      exact s.isValidUTF8
  exact ⟨_, dif_pos hvalid⟩

/-- The first cut leaves what fits the first limit. -/
theorem cut_eq (b : ByteArray) :
    (if maxTextBytes < (b.extract 0 (maxTextBytes + 1)).size then
        (b.extract 0 (maxTextBytes + 1)).extract 0 maxTextBytes
      else b.extract 0 (maxTextBytes + 1)) = b.extract 0 maxTextBytes := by
  split
  case isTrue => simp [ByteArray.extract_extract]
  case isFalse h =>
    rw [ByteArray.size_extract] at h
    rw [extract_of_size_le (by omega), extract_of_size_le (by omega)]

theorem shows_of_prefix {digest : TextDigest} {file : ByteArray} {text : String} {n}
    (hn : n ≤ file.size) (hfits : n ≤ maxTextOutputBytes)
    (htext : text.toByteArray = file.extract 0 n)
    (hcontent : digest.content = trimSpace text) (hflag : digest.truncated = true ↔ n < file.size) :
    digest.Shows file := by
  have hsize := congrArg ByteArray.size htext
  rw [String.size_toByteArray, ByteArray.size_extract] at hsize
  have htrim := utf8ByteSize_trimSpace text
  rw [← hcontent] at htrim
  exact ⟨by omega, n, text, hn, htext, hcontent, hflag⟩

theorem inspectText_of_invalid {file : ByteArray} {markdown}
    (h : ¬ (file.extract 0 (maxTextBytes + 1)).IsValidUTF8) : inspectText file markdown =
      .error "conversation artifact type is unsupported: text artifact is not UTF-8" := by
  have hread : String.fromUTF8? (file.extract 0 (maxTextBytes + 1)) = none := dif_neg h
  unfold inspectText
  simp only [hread]

/-- **A text file is shown up to the limit** exactly if the byte behind those that are read starts a
character, or there is none. -/
theorem text_shown_iff (s : String) (markdown : Bool) :
    (∃ digest, inspectText s.toByteArray markdown = .ok digest ∧ digest.Shows s.toByteArray) ↔
      Aligned s := by
  constructor
  · rintro ⟨digest, hok, -⟩ hlt
    rw [← isValidUTF8_extract_iff hlt]
    by_contra hinvalid
    rw [inspectText_of_invalid hinvalid] at hok
    cases hok
  · intro h
    obtain ⟨whole, hread⟩ := fromUTF8?_read h
    have hwhole := fromUTF8?_eq_some.mp hread
    have hlimits : maxTextOutputBytes < maxTextBytes := by decide
    have hcut : maxTextOutputBytes < (s.toByteArray.extract 0 maxTextBytes).size ↔
        maxTextOutputBytes < s.toByteArray.size := by
      rw [ByteArray.size_extract]
      omega
    unfold inspectText
    simp only [hread, decide_eq_true_eq, cut_eq, hcut]
    refine ⟨_, rfl, ?_⟩
    by_cases hlong : maxTextOutputBytes < s.toByteArray.size
    · obtain ⟨n, hn, htext⟩ :=
        validText_toByteArray (s.toByteArray.extract 0 maxTextBytes) maxTextOutputBytes
      rw [ByteArray.extract_extract, Nat.zero_add, Nat.zero_add,
        Nat.min_eq_left (by omega)] at htext
      have hflag : n < s.toByteArray.size := by omega
      refine shows_of_prefix (by omega) hn htext ?_ ?_
      · rw [if_pos hlong]
      · simp only [Bool.or_eq_true, decide_eq_true_eq, hlong, hflag, or_true]
    · rw [extract_of_size_le (by omega)] at hwhole
      refine shows_of_prefix (Nat.le_refl _) (by omega)
        (hwhole.trans ByteArray.extract_zero_size.symm) ?_ ?_
      · rw [if_neg hlong]
      · simp only [Bool.or_eq_true, decide_eq_true_eq, hlong, or_false, ByteArray.size_extract]
        omega

/-- A file of letters that take one byte each, with an `é` at the end. -/
def accented (n : Nat) : String := String.ofList (List.replicate n 'a') ++ "é"

theorem utf8ByteSize_letters (n : Nat) :
    (String.ofList (List.replicate n 'a')).utf8ByteSize = n := by
  rw [String.utf8ByteSize_ofList]
  induction n with
  | zero => rfl
  | succ n ih => rw [List.replicate_succ, String.utf8Len_cons, ih]; rfl

theorem utf8ByteSize_accented (n : Nat) : (accented n).utf8ByteSize = n + 2 := by
  rw [accented, String.utf8ByteSize_append, utf8ByteSize_letters]
  rfl

theorem not_isValidUTF8_accented (n : Nat) :
    ¬ ((accented n).toByteArray.extract 0 (n + 1)).IsValidUTF8 := by
  have hlt : n + 1 < (accented n).utf8ByteSize := by
    rw [utf8ByteSize_accented]
    omega
  rw [isValidUTF8_extract_iff hlt]
  have hbyte : (accented n).getUTF8Byte ⟨n + 1⟩ hlt = 0xA9 := by
    have hsize : (String.ofList (List.replicate n 'a')).toByteArray.size = n := by
      rw [String.size_toByteArray, utf8ByteSize_letters]
    unfold String.getUTF8Byte
    simp only [accented, String.toByteArray_append]
    rw [ByteArray.getElem_append_right (by omega)]
    simp only [hsize, Nat.add_sub_cancel_left]
    rfl
  rw [hbyte]
  decide

/-- **A file below the limit whose text is valid** is refused: the last byte that is read is the
first one of the `é`. -/
theorem accented_file_refused :
    (accented maxTextBytes).utf8ByteSize ≤ maxFileSize ∧
      inspectText (accented maxTextBytes).toByteArray false =
        .error "conversation artifact type is unsupported: text artifact is not UTF-8" := by
  constructor
  · rw [utf8ByteSize_accented]
    decide
  · exact inspectText_of_invalid (not_isValidUTF8_accented maxTextBytes)

end Pactline.Artifact

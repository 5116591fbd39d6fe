import SheetIntake.Batch.Result
import SheetIntake.Proofs.Text.Trim

/-! # Shortened messages

    The message of a failed row is trimmed, and cut if it is too long.  A cut message still starts
    with what the trimmed one starts with, and it ends in points, so neither of its ends is blank
    (`hasFullEnds_truncated`).  Hence a message with something in it stays one.  As it is no longer
    than the limit, to shorten it once more is to leave it as it is (`shortened_truncated`). -/

namespace SheetIntake

section
variable {message : String}

theorem Text.length_trim (s : String) :
    (Text.trim s).length = (Text.trimChars s.toList).length := by
  rw [Text.trim, String.length_ofList]

/-- A message that is not too long is trimmed and nothing else. -/
theorem truncated_of_le (h : (Text.trim message).length ≤ messageLimit) :
    truncated message = Text.trim message := by
  rw [Text.length_trim] at h
  exact if_pos h

theorem truncated_of_lt (h : messageLimit < (Text.trim message).length) :
    truncated message =
      String.ofList ((Text.trim message).toList.take (messageLimit - ellipsis.length)) ++
        ellipsis := by
  rw [Text.length_trim] at h
  rw [Text.trim, String.toList_ofList]
  exact if_neg (by omega)

theorem length_truncated_le (message : String) : (truncated message).length ≤ messageLimit := by
  rcases Nat.lt_or_ge messageLimit (Text.trim message).length with hlong | hshort
  · rw [truncated_of_lt hlong, String.length_append, String.length_ofList, List.length_take]
    have hroom : ellipsis.length ≤ messageLimit := by decide
    omega
  · rw [truncated_of_le hshort]
    exact hshort

/-- Neither end of a shortened message is blank. -/
theorem hasFullEnds_truncated (message : String) :
    Text.HasFullEnds (truncated message).toList := by
  have hends : Text.HasFullEnds (Text.trim message).toList := by
    rw [Text.trim, String.toList_ofList]
    exact Text.hasFullEnds_trimChars _
  rcases Nat.lt_or_ge messageLimit (Text.trim message).length with hlong | hshort
  · rw [truncated_of_lt hlong, String.toList_append, String.toList_ofList]
    constructor
    · -- The front is that of the trimmed message, as more than nothing of it is kept.
      intro c hc
      obtain ⟨d, ds, hds⟩ : ∃ d ds, (Text.trim message).toList = d :: ds :=
        List.exists_cons_of_length_pos (by rw [String.length_toList]; omega)
      rw [hds] at hc
      obtain rfl : d = c := Option.some.inj hc
      exact hends.front d (by rw [hds]; rfl)
    · intro c hc
      rw [List.getLast?_append_of_ne_nil _ (by decide)] at hc
      obtain rfl : '.' = c := Option.some.inj hc
      rfl
  · rw [truncated_of_le hshort]
    exact hends

theorem trim_truncated (message : String) : Text.trim (truncated message) = truncated message := by
  rw [Text.trim, Text.trimChars_of_fullEnds (hasFullEnds_truncated message), String.ofList_toList]

/-- Shortening is done once and for all. -/
theorem truncated_truncated (message : String) :
    truncated (truncated message) = truncated message := by
  have hlength := length_truncated_le message
  rw [← trim_truncated message] at hlength
  rw [truncated_of_le hlength, trim_truncated]

/-- Something is left of a message with something in it. -/
theorem clean_truncated (h : Text.isBlank message = false) : Text.Clean (truncated message) := by
  refine Text.clean_iff.2 ⟨?_, hasFullEnds_truncated message⟩
  have hclean := Text.clean_trim h
  rcases Nat.lt_or_ge messageLimit (Text.trim message).length with hlong | hshort
  · rw [truncated_of_lt hlong, String.toList_append]
    exact List.append_ne_nil_of_right_ne_nil _ (by decide)
  · rw [truncated_of_le hshort]
    exact (Text.clean_iff.1 hclean).1

end

/-! ## What is left of a message -/

/-- The text is what is left of a full message. -/
structure Shortened (full text : String) : Prop where
  /-- There is something in it, and no white space around it. -/
  clean : Text.Clean text
  bounded : text.length ≤ 200
  whole : (Text.trim full).length ≤ 200 → text = Text.trim full
  cut : 200 < (Text.trim full).length →
    text = String.ofList ((Text.trim full).toList.take 197) ++ "..."
  /-- To shorten it once more is to leave it as it is. -/
  again : truncated text = text

theorem shortened_truncated {full : String} (h : Text.isBlank full = false) :
    Shortened full (truncated full) where
  clean := clean_truncated h
  bounded := length_truncated_le full
  whole := truncated_of_le
  cut := truncated_of_lt
  again := truncated_truncated full

/-- The row has failed: its result has no record id, and its error is what is left of the full
message. -/
def RowResult.FailsWith (r : RowResult) (row : Nat) (full : String) : Prop :=
  ∃ text, r = { row, outcome := .failed text } ∧
    r.toJson = .obj [("row_index", .int row), ("status", .str "failure"), ("error", .str text)] ∧
    Shortened full text

theorem RowResult.failsWith_of_failed (row : Nat) {full : String}
    (h : Text.isBlank full = false) : (RowResult.of row (.failed full)).FailsWith row full :=
  ⟨truncated full, rfl, rfl, shortened_truncated h⟩

end SheetIntake

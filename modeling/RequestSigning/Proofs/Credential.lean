import RequestSigning.Credential

/-!
# Trimmed credentials

Only blanks at the ends are taken away, so a text that keeps its length is the same text and
`trimmed_eq`: whether or not anything has to be trimmed, the keys and the token are the trimmed ones.
-/

namespace RequestSigning

namespace Text

theorem trimBlanks_sublist (cs : List Char) : (trimBlanks cs).Sublist cs := by
  have front : (cs.dropWhile isBlank).Sublist cs := List.dropWhile_sublist isBlank
  have back : ((cs.dropWhile isBlank).reverse.dropWhile isBlank).Sublist
      (cs.dropWhile isBlank).reverse := List.dropWhile_sublist isBlank
  have both : (trimBlanks cs).Sublist (cs.dropWhile isBlank) := by
    simpa [trimBlanks] using back.reverse
  exact both.trans front

end Text

namespace Credential

theorem trim_of_not_isPadded {s : String} (bare : isPadded s = false) : Text.trim s = s := by
  have length : (Text.trimBlanks s.toList).length = s.toList.length := by
    simpa [isPadded, Text.trim, ← String.length_toList] using bare
  rw [Text.trim, (Text.trimBlanks_sublist s.toList).eq_of_length length, String.ofList_toList]

theorem trimmed_eq (c : Credential) :
    c.trimmed = { c with
      accessKey := Text.trim c.accessKey
      secretKey := Text.trim c.secretKey
      sessionToken := c.sessionToken.map Text.trim } := by
  unfold trimmed
  split
  · rfl
  · rename_i bare
    simp only [needsTrim, Bool.or_eq_true, not_or, Bool.not_eq_true] at bare
    obtain ⟨⟨access, secret⟩, token⟩ := bare
    have kept : c.sessionToken.map Text.trim = c.sessionToken := by
      cases present : c.sessionToken with
      | none => rfl
      | some text =>
        rw [present, Option.any_some] at token
        rw [Option.map_some, trim_of_not_isPadded token]
    rw [trim_of_not_isPadded access, trim_of_not_isPadded secret, kept]

theorem isAnonymous_trimmed {c : Credential} :
    c.trimmed.isAnonymous = true ↔ Text.trim c.accessKey = "" := by
  rw [trimmed_eq, isAnonymous, beq_iff_eq]

theorem isAnonymous_trimmed_eq_false {c : Credential} :
    c.trimmed.isAnonymous = false ↔ Text.trim c.accessKey ≠ "" := by
  rw [← Bool.not_eq_true, isAnonymous_trimmed]

end Credential

end RequestSigning

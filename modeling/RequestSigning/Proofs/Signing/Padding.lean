import Mathlib.Data.List.Flatten
import Mathlib.Data.List.TakeWhile
import RequestSigning.Proofs.Credential
import RequestSigning.Proofs.Signing.Fields
import RequestSigning.Signing.Head

/-!
# Blanks around keys

A signature is made with the trimmed keys and the trimmed token only, so credentials that differ in
the blanks around them sign alike: `sign_ignores_blanks`.
-/

namespace RequestSigning

namespace Text

theorem trimBlanks_eq_nil_iff {cs : List Char} :
    trimBlanks cs = [] ↔ ∀ c ∈ cs, isBlank c = true := by
  rw [trimBlanks, List.reverse_eq_nil_iff, List.dropWhile_eq_nil_iff]
  simp only [List.mem_reverse]
  constructor
  · intro behind c member
    rw [← List.takeWhile_append_dropWhile (p := isBlank) (l := cs), List.mem_append] at member
    obtain front | rest := member
    · exact List.mem_takeWhile_imp front
    · exact behind c rest
  · exact fun blank c member => blank c ((List.dropWhile_sublist isBlank).subset member)

theorem trim_eq_empty_iff {s : String} : trim s = "" ↔ s.toList.all isBlank = true := by
  rw [trim, ← String.toList_eq_nil_iff, String.toList_ofList, trimBlanks_eq_nil_iff,
    List.all_eq_true]

/-- No octet is lost exactly where no character is. -/
theorem length_encode_trim_iff {s : String} :
    (Utf8.encode (trim s)).length = (Utf8.encode s).length ↔ trim s = s := by
  constructor
  · intro length
    have part : (Utf8.encode (trim s)).Sublist (Utf8.encode s) := by
      rw [trim, Utf8.encode_ofList]
      exact (trimBlanks_sublist s.toList).flatMap _
    exact Utf8.encode_injective (part.eq_of_length length)
  · exact fun same => congrArg (fun t => (Utf8.encode t).length) same

end Text

namespace Credential

/-- Whether trimming takes octets away. -/
def losesOctets (s : String) : Bool := (Utf8.encode (Text.trim s)).length != (Utf8.encode s).length

/-- Characters or octets, a text that keeps its length is not padded. -/
theorem isPadded_eq (s : String) : isPadded s = losesOctets s := by
  have characters : isPadded s = false ↔ Text.trim s = s := by
    refine ⟨trim_of_not_isPadded, fun same => ?_⟩
    rw [isPadded, same, bne_self_eq_false]
  have octets : losesOctets s = false ↔ Text.trim s = s := by
    rw [losesOctets, bne_eq_false_iff_eq, Text.length_encode_trim_iff]
  rw [← Bool.not_inj_iff, Bool.eq_iff_iff]
  simp only [Bool.not_eq_true', characters, octets]

/-- The keys and the token of both are the same but for the blanks around them. -/
structure SameTrimmed (c d : Credential) : Prop where
  accessKey : Text.trim c.accessKey = Text.trim d.accessKey
  secretKey : Text.trim c.secretKey = Text.trim d.secretKey
  sessionToken : c.sessionToken.map Text.trim = d.sessionToken.map Text.trim

/-- Once trimmed, such credentials differ in the end of their validity at most. -/
theorem SameTrimmed.trimmed_eq {c d : Credential} (same : c.SameTrimmed d) :
    c.trimmed = { d.trimmed with expires := c.expires } := by
  rw [c.trimmed_eq, d.trimmed_eq, same.accessKey, same.secretKey, same.sessionToken]

theorem isAnonymous_expires (cred : Credential) (expires : Option Instant) :
    ({ cred with expires := expires } : Credential).isAnonymous = cred.isAnonymous := rfl

end Credential

namespace SigningProfile

variable (p : SigningProfile) {c d : Credential} (terms : SigningTerms)

/-- Nothing that signs looks at the end of the validity. -/
theorem signWith_expires (cred : Credential) (expires : Option Instant) :
    p.signWith { cred with expires := expires } terms = p.signWith cred terms := rfl

theorem presignWith_expires (cred : Credential) (expires : Option Instant) :
    p.presignWith { cred with expires := expires } terms = p.presignWith cred terms := rfl

theorem sign_eq_of_sameTrimmed (same : c.SameTrimmed d) : p.sign c terms = p.sign d terms := by
  rw [sign, sign, same.trimmed_eq, Credential.isAnonymous_expires, signWith_expires]

theorem presign_eq_of_sameTrimmed (same : c.SameTrimmed d) :
    p.presign c terms = p.presign d terms := by
  rw [presign, presign, same.trimmed_eq, Credential.isAnonymous_expires, presignWith_expires]

theorem signHead_eq_of_sameTrimmed (same : c.SameTrimmed d) (inQuery : Bool) (head : Http.Head)
    (payload : Payload) (cache : KeyCache) :
    p.signHead inQuery head payload (some c) terms cache =
      p.signHead inQuery head payload (some d) terms cache := by
  have either : p.signEither inQuery c terms = p.signEither inQuery d terms := by
    rw [signEither, signEither, p.sign_eq_of_sameTrimmed terms same,
      p.presign_eq_of_sameTrimmed terms same]
  simp only [signHead, either]

/-- Whatever is signed, and wherever the signature goes, blanks around keys and token change nothing:
neither the result nor the request, the log, the cache or the calls of the hook.  A credential is
trimmed the same whether or not it is found to need it, which is told by lengths, and signs nothing
exactly where its access key is all blank. -/
theorem sign_ignores_blanks (same : c.SameTrimmed d) :
    (∀ s : Session, (p.sign c terms).perform s = (p.sign d terms).perform s ∧
      (p.presign c terms).perform s = (p.presign d terms).perform s) ∧
    (∀ inQuery head payload cache, p.signHead inQuery head payload (some c) terms cache =
      p.signHead inQuery head payload (some d) terms cache) ∧
    (∀ now head expiresIn cache, p.signAt now head (some c) expiresIn cache =
      p.signAt now head (some d) expiresIn cache) ∧
    ∀ e : Credential,
      e.needsTrim = (Credential.losesOctets e.accessKey || Credential.losesOctets e.secretKey ||
        e.sessionToken.any Credential.losesOctets) ∧
      e.trimmed = { e with
        accessKey := Text.trim e.accessKey
        secretKey := Text.trim e.secretKey
        sessionToken := e.sessionToken.map Text.trim } ∧
      e.trimmed.isAnonymous = e.accessKey.toList.all Text.isBlank := by
  refine ⟨fun s => ⟨?_, ?_⟩, fun _ head payload cache => ?_, fun _ head _ cache => ?_,
    fun e => ⟨?_, e.trimmed_eq, ?_⟩⟩
  · rw [p.sign_eq_of_sameTrimmed terms same]
  · rw [p.presign_eq_of_sameTrimmed terms same]
  · exact p.signHead_eq_of_sameTrimmed terms same _ head payload cache
  · exact p.signHead_eq_of_sameTrimmed _ same _ _ _ cache
  · simp only [Credential.needsTrim, funext Credential.isPadded_eq]
  · rw [Bool.eq_iff_iff, Credential.isAnonymous_trimmed, Text.trim_eq_empty_iff]

/-- Keys between an ideographic space, a no-break space and a line end, and other blanks. -/
def wideCredential : Credential :=
  ⟨"\u3000AKIDEXAMPLE\u00A0", "secret\n", some "\u2003token", none⟩

def narrowCredential : Credential := ⟨"AKIDEXAMPLE", "\tsecret ", some "token\u0085", some .epoch⟩

theorem sign_ignores_blanks_wide :
    wideCredential.SameTrimmed narrowCredential ∧ wideCredential.needsTrim = true ∧
      (storeProfile.sign wideCredential (storeProfile.terms .epoch none)).perform upload =
        (storeProfile.sign narrowCredential (storeProfile.terms .epoch none)).perform upload := by
  have same : wideCredential.SameTrimmed narrowCredential :=
    ⟨by decide +kernel, by decide +kernel, by decide +kernel⟩
  exact ⟨same, by decide +kernel,
    ((storeProfile.sign_ignores_blanks (storeProfile.terms .epoch none) same).1 upload).1⟩

end SigningProfile

end RequestSigning

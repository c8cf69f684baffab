import ServerConfig.Proofs.Consistency
import ServerConfig.Proofs.Url.Reassembly
import ServerConfig.Report

/-!
# The published URL for downloads

Clients are told the text that the settings give for the URL of downloads, and
the server uses the URL that validation read from it.  Validation removes the
solidi at the end of the text before it reads the URL, and reading it drops
blanks only then.  Main statement: the two are the same, without a solidus at
the end, exactly if the text is verbatim.
-/

namespace ServerConfig

/-- The value of a member of an object. -/
def Json.member? (name : String) : Json → Option Json
  | .object members => members.lookup name
  | _ => none

namespace Validation

variable {configuration : Configuration}

theorem downloadDomain_validated
    (valid : (validate configuration).result = .ok ()) :
    (validate configuration).configuration.settings.downloadDomain =
      Text.dropTrailingSlashes configuration.settings.downloadDomain := by
  obtain ⟨found, accepts⟩ := validate_ok_iff.mp valid
  rw [accepts.validate_eq]
  exact settle_downloadDomain configuration.settings found

/-- Something is left of a text for the URL of downloads. -/
theorem downloadDomain_left
    (valid : (validate configuration).result = .ok ())
    (named : configuration.settings.downloadDomain ≠ "") :
    Text.dropTrailingSlashes configuration.settings.downloadDomain ≠ "" := by
  obtain ⟨found, accepts⟩ := validate_ok_iff.mp valid
  have nonempty := accepts.download.ne_empty
  simp only [Settings.reading, if_neg named] at nonempty
  exact fun empty => nonempty (congrArg some empty)

/-- The URL for downloads is written as it was given exactly if its text,
without solidi at the end, is verbatim. -/
theorem downloadUrl_toText_iff
    (valid : (validate configuration).result = .ok ())
    (named : configuration.settings.downloadDomain ≠ "") :
    let validated := (validate configuration).configuration
    (validated.downloadUrl.toText = validated.settings.downloadDomain ∧
        validated.publicView.member? "downloadDomain" =
          some (.string validated.downloadUrl.toText) ∧
        validated.downloadUrl.toText.toList.getLast? ≠ some '/') ↔
      Url.Verbatim (Text.dropTrailingSlashes
        configuration.settings.downloadDomain).toList := by
  intro validated
  have kept : validated.settings.downloadDomain =
      Text.dropTrailingSlashes configuration.settings.downloadDomain :=
    downloadDomain_validated valid
  have consistent : validated.Consistent := validate_consistent valid
  have read := consistent.downloadUrl
    (kept ▸ downloadDomain_left valid named)
  have published : validated.publicView.member? "downloadDomain" =
      some (.string validated.settings.downloadDomain) :=
    rfl
  rw [← kept, ← Url.toText_eq_iff read]
  constructor
  · exact fun same => same.1
  · intro same
    refine ⟨same, ?_, ?_⟩
    · rw [published, same]
    · rw [same]
      exact consistent.downloadEnd

/-- A URL for downloads that has solidi at its end, and marks in its query. -/
def queriedDownload : Configuration :=
  .ofSettings { downloadDomain := "https://dl.example.com:8443/files?a=?/b//" }

theorem queried_download_kept :
    (validate queriedDownload).result = .ok () ∧
      queriedDownload.settings.downloadDomain ≠ "" ∧
      let validated := (validate queriedDownload).configuration
      validated.downloadUrl.toText = validated.settings.downloadDomain ∧
        validated.publicView.member? "downloadDomain" =
          some (.string validated.downloadUrl.toText) ∧
        validated.downloadUrl.toText.toList.getLast? ≠ some '/' := by
  have valid : (validate queriedDownload).result = .ok () := by
    decide +kernel
  have named : queriedDownload.settings.downloadDomain ≠ "" := by
    decide
  have text : (Text.dropTrailingSlashes
      queriedDownload.settings.downloadDomain).toList =
        "https://dl.example.com:8443/files?a=?/b".toList := by
    decide +kernel
  have verbatim : Url.Verbatim (Text.dropTrailingSlashes
      queriedDownload.settings.downloadDomain).toList := by
    rw [text]
    constructor
    case start =>
      rintro c head
      cases head
      decide
    case stop =>
      rintro c last
      cases last
      rfl
    case noiseless =>
      have plain : ("https://dl.example.com:8443/files?a=?/b".toList.all
          (!Url.isLineNoise ·)) = true := by
        decide
      simpa using plain
    case lower =>
      have name : (Text.cutFirst ':'
          "https://dl.example.com:8443/files?a=?/b".toList).1 =
            "https".toList := by
        decide
      have small : ("https".toList.all fun c => c.toLower == c) = true := by
        decide
      rw [name]
      intro c member
      exact eq_of_beq (List.all_eq_true.mp small c member)
    case query => decide
    case fragment => decide
  exact ⟨valid, named, (downloadUrl_toText_iff valid named).mpr verbatim⟩

/-- A blank behind the last solidus saves the solidus from being removed, and is
dropped when the URL is read. -/
theorem padded_download_differs :
    let padded := Configuration.ofSettings
      { downloadDomain := "https://dl.example.com/ " }
    (validate padded).result = .ok () ∧
      (validate padded).configuration.settings.downloadDomain =
        "https://dl.example.com/ " ∧
      (validate padded).configuration.downloadUrl.toText =
        "https://dl.example.com/" ∧
      ¬ ∀ configuration, (validate configuration).result = .ok () →
        configuration.settings.downloadDomain ≠ "" →
        let validated := (validate configuration).configuration
        validated.downloadUrl.toText = validated.settings.downloadDomain ∧
          validated.downloadUrl.toText.toList.getLast? ≠ some '/' := by
  intro padded
  have valid : (validate padded).result = .ok () := by
    decide +kernel
  have given : (validate padded).configuration.settings.downloadDomain =
      "https://dl.example.com/ " := by
    decide +kernel
  have written : (validate padded).configuration.downloadUrl.toText =
      "https://dl.example.com/" := by
    decide +kernel
  refine ⟨valid, given, written, fun kept => ?_⟩
  obtain ⟨same, _⟩ := kept padded valid (by decide)
  rw [given, written] at same
  exact absurd same (by decide)

end Validation

end ServerConfig

import ServerConfig.Proofs.SessionHistory
import ServerConfig.Proofs.Url.Composition

/-!
# The URLs of a configuration

The URLs that a configuration answers come from its settings, from its last
successful validation, or from nowhere, and settings may hold any text and any
number when they are asked for.  `ServesAt` and `DownloadsFrom` say which URL
that is by the history of a session.  Every URL that is answered without being
empty was read as an absolute one at some time, and is one still.
-/

namespace ServerConfig

namespace Text

private theorem lowerAfter_ne_nil (before : List Char) {text : List Char}
    (nonempty : text ≠ []) : lowerAfter before text ≠ [] := by
  cases text with
  | nil => exact (nonempty rfl).elim
  | cons c rest =>
      rw [lowerAfter]
      split
      · exact List.cons_ne_nil _ _
      · split <;> exact List.cons_ne_nil _ _

end Text

namespace Url

/-- A URL with a scheme, a host that is no empty text, and a port that is absent
or a number of 16 bits. -/
structure WellFormed (url : Url) : Prop where
  scheme : url.scheme ≠ ""
  host : ∃ host, url.host? = some host ∧ host ≠ ""
  port : url.port = .ok none ∨ ∃ n, url.port = .ok (some n) ∧ n ≤ 65535

private theorem lowerHost_ne_nil {host : List Char} (nonempty : host ≠ []) :
    lowerHost host ≠ [] := by
  rw [lowerHost]
  rcases Text.cutFirst_cases '%' host with
    ⟨_, uncut⟩ | ⟨before, after, _, _, cut⟩
  · rw [uncut]
    exact Text.lowerAfter_ne_nil [] nonempty
  · rw [cut]
    exact List.append_ne_nil_of_right_ne_nil _ (List.cons_ne_nil _ _)

private theorem ne_empty_of_host? {url : Url} {host : String}
    (found : url.host? = some host) : host ≠ "" := by
  rw [host?] at found
  split at found
  · cases found
  · rename_i named
    have nonempty : (hostAndPort url.authority.toList).1 ≠ [] := by
      simpa using named
    rintro rfl
    have nothing := congrArg String.toList (Option.some.inj found)
    rw [String.toList_ofList] at nothing
    exact lowerHost_ne_nil nonempty nothing

theorem Absolute.wellFormed {url : Url} (absolute : url.Absolute) :
    url.WellFormed := by
  constructor
  case scheme => exact absolute.scheme
  case host =>
    obtain ⟨host, found⟩ := absolute.host
    exact ⟨host, found, ne_empty_of_host? found⟩
  case port =>
    obtain ⟨number, readable⟩ := absolute.port
    cases number with
    | none => exact .inl readable
    | some n => exact .inr ⟨n, readable, le_of_readPort readable⟩

end Url

namespace Session

open Validation

variable {history : History} {configuration : Configuration}
  {settings : Settings} {url : Url}

/-- The URL at which a server is reached that has these settings now: the one
that they compose to, or else the one of the last successful validation, or
else the empty one. -/
inductive ServesAt (history : History) (settings : Settings) : Url → Prop where
  | current {url : Url} :
      settings.serverUrl = .ok url → ServesAt history settings url
  | validated {cause : Url.ServerError} {before : Settings} {url : Url} :
      settings.serverUrl = .error cause →
      history.validated = some before → before.serverUrl = .ok url →
      ServesAt history settings url
  | nowhere {cause : Url.ServerError} :
      settings.serverUrl = .error cause → history.validated = none →
      ServesAt history settings Url.empty

/-- The URL that downloads are served from: the one that the last successful
validation was given, or else the one of the server. -/
inductive DownloadsFrom (history : History) (settings : Settings) :
    Url → Prop where
  | named {before : Settings} {url : Url} :
      history.validated = some before → before.downloadDomain ≠ "" →
      Url.parseAbsolute before.downloadDomain = .ok url →
      DownloadsFrom history settings url
  | server {url : Url} :
      (∀ before, history.validated = some before →
        before.downloadDomain = "") →
      ServesAt history settings url → DownloadsFrom history settings url

theorem servesAt_serverUrl (explains : history.Explains configuration) :
    ServesAt history configuration.settings configuration.serverUrl := by
  rw [Configuration.serverUrl]
  cases composed : configuration.settings.serverUrl with
  | ok url => exact .current composed
  | error cause =>
      cases validated : history.validated with
      | none =>
          rw [explains.nothing validated]
          exact .nowhere composed validated
      | some before =>
          obtain ⟨url, composedBefore, stored⟩ :=
            (explains.derived before validated).serverUrl
          rw [stored]
          exact .validated composed validated composedBefore

theorem downloadsFrom_downloadUrl (explains : history.Explains configuration) :
    DownloadsFrom history configuration.settings configuration.downloadUrl := by
  rw [Configuration.downloadUrl]
  cases validated : history.validated with
  | none =>
      rw [explains.nothing validated]
      refine .server ?_ (servesAt_serverUrl explains)
      intro before validatedToo
      cases validated.symm.trans validatedToo
  | some before =>
      have stems := explains.derived before validated
      by_cases absent : before.downloadDomain = ""
      · rw [stems.noDownloadUrl absent]
        refine .server ?_ (servesAt_serverUrl explains)
        intro other validatedToo
        cases validated.symm.trans validatedToo
        exact absent
      · obtain ⟨url, parsed, stored⟩ := stems.downloadUrl absent
        rw [stored]
        exact .named validated absent parsed

theorem wellFormed_of_serverUrl (composed : settings.serverUrl = .ok url) :
    url.WellFormed :=
  (Url.located_of_ofServer composed).2.wellFormed

theorem ServesAt.wellFormed (serves : ServesAt history settings url)
    (nonempty : url ≠ Url.empty) : url.WellFormed := by
  cases serves with
  | current composed => exact wellFormed_of_serverUrl composed
  | validated _ _ composed => exact wellFormed_of_serverUrl composed
  | nowhere _ _ => exact (nonempty rfl).elim

theorem DownloadsFrom.wellFormed (downloads : DownloadsFrom history settings url)
    (nonempty : url ≠ Url.empty) : url.WellFormed := by
  cases downloads with
  | named _ _ parsed =>
      exact (Url.parseAbsolute_ok_iff.mp parsed).2.wellFormed
  | server _ serves => exact serves.wellFormed nonempty

/-- In every session both URLs are answered.  The history says which ones they
are, and those that are not empty are well formed; the scheme of the URL of the
server is the one of the settings that it was composed from. -/
theorem url_accessors_answer (operations : List Operation) :
    let configuration := run .initial operations
    ∃ server download,
      (step configuration .serverUrl).result = .ok (.url server) ∧
      (step configuration .downloadUrl).result = .ok (.url download) ∧
      ServesAt (.ofSession operations) configuration.settings server ∧
      DownloadsFrom (.ofSession operations) configuration.settings download ∧
      (server ≠ Url.empty → server.WellFormed ∧
        ∀ settings : Settings, settings.serverUrl = .ok server →
          server.scheme = if settings.sslEnabled then "https" else "http") ∧
      (download ≠ Url.empty → download.WellFormed) := by
  intro configuration
  have explains : (History.ofSession operations).Explains configuration :=
    (History.explains_fresh Settings.defaults).follow operations
  have serves := servesAt_serverUrl explains
  have downloads := downloadsFrom_downloadUrl explains
  refine ⟨configuration.serverUrl, configuration.downloadUrl, rfl, rfl, serves,
    downloads, ?_, downloads.wellFormed⟩
  intro nonempty
  refine ⟨serves.wellFormed nonempty, ?_⟩
  intro settings composed
  exact Url.schemeFor_eq_of_ofServer composed

/-- A server over TLS that loses its port and TLS after it was validated. -/
def portlessSession : List Operation :=
  [.put .sslEnabled true, .put .downloadDomain "http://dl.example.com/",
   .validate, .put .sslEnabled false, .put .listenPort (-1 : Int), .validate]

/-- Where settings do not compose, the URL of the settings validated before is
answered. -/
theorem portless_server_answers :
    ∃ server,
      (step (run .initial portlessSession) .serverUrl).result =
        .ok (.url server) ∧
      server ≠ Url.empty ∧ server.WellFormed ∧ server.scheme = "https" := by
  obtain ⟨server, _, answered, _, _, _, sound, _⟩ :=
    url_accessors_answer portlessSession
  have stored : (run .initial portlessSession).serverUrl =
      { scheme := "https", authority := "127.0.0.1:8080" } := by
    decide +kernel
  have same : (run .initial portlessSession).serverUrl = server :=
    Answer.url.inj (Except.ok.inj answered)
  have nonempty : server ≠ Url.empty := by
    rw [← same, stored]
    decide
  have composed : ({ sslEnabled := true } : Settings).serverUrl =
      .ok server := by
    rw [← same, stored]
    decide +kernel
  obtain ⟨wellFormed, scheme⟩ := sound nonempty
  exact ⟨server, answered, nonempty, wellFormed, scheme _ composed⟩

end Session

end ServerConfig

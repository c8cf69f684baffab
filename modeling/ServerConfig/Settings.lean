import ServerConfig.Json
import ServerConfig.VariableName

/-!
# Settings

The settings of the server are a record with defaults.  Each of them is also a
`Field`, with the names by which sources and the environment know it and the
kind of its values, so that reading, overriding and reporting can go through
all fields in order.
-/

namespace ServerConfig

/-- The kinds of values that settings have. -/
inductive Kind where
  | flag
  | number
  | text
  | texts
  | mapping
deriving DecidableEq, Repr

/-- The values of a kind. -/
abbrev Kind.Carrier : Kind → Type
  | .flag => Bool
  | .number => Int
  | .text => String
  | .texts => List String
  | .mapping => Json.Members

/-- What a variable of the environment has to hold for a setting of a kind. -/
def Kind.expectation : Kind → String
  | .flag => "bool"
  | .number => "int"
  | .text => "str"
  | .texts => "JSON array of strings"
  | .mapping => "JSON object"

/-- A value of a setting as a JSON value. -/
def Kind.toJson : (kind : Kind) → kind.Carrier → Json
  | .flag, value => .bool value
  | .number, value => .integer value
  | .text, value => .string value
  | .texts, value => .array (value.map .string)
  | .mapping, value => .object value

/-- The settings of the server, with their defaults. -/
structure Settings where
  /-- Log debugging messages. -/
  debug : Bool := false
  /-- Log requests and responses. -/
  debugRequests : Bool := false
  /-- The least level of the messages that are logged. -/
  logLevel : String := "INFO"
  /-- The address to listen on. -/
  listenAddress : String := "127.0.0.1"
  /-- The port to listen on. -/
  listenPort : Int := 8080
  /-- The path below which everything is served. -/
  path : String := ""
  /-- Serve over TLS. -/
  sslEnabled : Bool := false
  /-- The certificate file. -/
  sslCert : String := "plik.crt"
  /-- The file of the private key. -/
  sslKey : String := "plik.key"
  /-- Serve no web interface. -/
  noWebInterface : Bool := false
  /-- The URL that downloads are served from, if it is another one. -/
  downloadDomain : String := ""
  /-- Send additional security headers. -/
  enhancedWebSecurity : Bool := false
  /-- The header in which a proxy passes the address of a client. -/
  sourceIpHeader : String := ""
  /-- The addresses and networks from which uploads are allowed. -/
  uploadWhitelist : List String := []
  /-- The greatest size of a file in bytes. -/
  maxFileSize : Int := 10737418240
  /-- The greatest size of a file as text. -/
  maxFileSizeText : String := ""
  /-- The most files of an upload. -/
  maxFilesPerUpload : Int := 1000
  /-- The lifetime of an upload that asks for none. -/
  defaultLifetime : Int := 2592000
  /-- The greatest lifetime of an upload. -/
  maxLifetime : Int := 2592000
  /-- The lifetime of an upload that asks for none, as text. -/
  defaultLifetimeText : String := ""
  /-- The greatest lifetime of an upload as text. -/
  maxLifetimeText : String := ""
  /-- Allow uploads that are removed after one download. -/
  oneShot : Bool := true
  /-- Allow uploads that anybody can remove. -/
  removable : Bool := true
  /-- Allow uploads that are streamed to the downloader. -/
  stream : Bool := true
  /-- Allow uploads that are protected by a password. -/
  protectedByPassword : Bool := true
  /-- Let users sign in. -/
  authentication : Bool := false
  /-- Refuse uploads of users who have not signed in. -/
  noAnonymousUploads : Bool := false
  /-- Let users sign in with Google. -/
  googleAuthentication : Bool := false
  /-- The client ID of the Google API. -/
  googleClientId : String := ""
  /-- The secret of the Google API. -/
  googleSecret : String := ""
  /-- The mail domains whose users may sign in with Google. -/
  googleDomains : List String := []
  /-- Let users sign in with OVH. -/
  ovhAuthentication : Bool := false
  /-- The key of the OVH API. -/
  ovhKey : String := ""
  /-- The secret of the OVH API. -/
  ovhSecret : String := ""
  /-- The URL of the OVH API. -/
  ovhEndpoint : String := "https://eu.api.ovh.com/1.0"
  /-- The name of the metadata backend. -/
  metadataBackend : String := "bolt"
  /-- The settings of the metadata backend. -/
  metadataBackendConfig : Json.Members := []
  /-- The name of the data backend. -/
  dataBackend : String := "file"
  /-- The settings of the data backend. -/
  dataBackendConfig : Json.Members := []
  /-- Where abuse is to be reported. -/
  abuseContact : String := ""
deriving Repr, Inhabited

inductive Field where
  | debug
  | debugRequests
  | logLevel
  | listenAddress
  | listenPort
  | path
  | sslEnabled
  | sslCert
  | sslKey
  | noWebInterface
  | downloadDomain
  | enhancedWebSecurity
  | sourceIpHeader
  | uploadWhitelist
  | maxFileSize
  | maxFileSizeText
  | maxFilesPerUpload
  | defaultLifetime
  | maxLifetime
  | defaultLifetimeText
  | maxLifetimeText
  | oneShot
  | removable
  | stream
  | protectedByPassword
  | authentication
  | noAnonymousUploads
  | googleAuthentication
  | googleClientId
  | googleSecret
  | googleDomains
  | ovhAuthentication
  | ovhKey
  | ovhSecret
  | ovhEndpoint
  | metadataBackend
  | metadataBackendConfig
  | dataBackend
  | dataBackendConfig
  | abuseContact
deriving DecidableEq, Repr

namespace Field

def all : List Field :=
  [.debug, .debugRequests, .logLevel, .listenAddress, .listenPort, .path, .sslEnabled,
   .sslCert, .sslKey, .noWebInterface, .downloadDomain, .enhancedWebSecurity, .sourceIpHeader,
   .uploadWhitelist, .maxFileSize, .maxFileSizeText, .maxFilesPerUpload, .defaultLifetime,
   .maxLifetime, .defaultLifetimeText, .maxLifetimeText, .oneShot, .removable, .stream,
   .protectedByPassword, .authentication, .noAnonymousUploads, .googleAuthentication,
   .googleClientId, .googleSecret, .googleDomains, .ovhAuthentication, .ovhKey, .ovhSecret,
   .ovhEndpoint, .metadataBackend, .metadataBackendConfig, .dataBackend, .dataBackendConfig,
   .abuseContact]

def kind : Field → Kind
  | .debug => .flag
  | .debugRequests => .flag
  | .logLevel => .text
  | .listenAddress => .text
  | .listenPort => .number
  | .path => .text
  | .sslEnabled => .flag
  | .sslCert => .text
  | .sslKey => .text
  | .noWebInterface => .flag
  | .downloadDomain => .text
  | .enhancedWebSecurity => .flag
  | .sourceIpHeader => .text
  | .uploadWhitelist => .texts
  | .maxFileSize => .number
  | .maxFileSizeText => .text
  | .maxFilesPerUpload => .number
  | .defaultLifetime => .number
  | .maxLifetime => .number
  | .defaultLifetimeText => .text
  | .maxLifetimeText => .text
  | .oneShot => .flag
  | .removable => .flag
  | .stream => .flag
  | .protectedByPassword => .flag
  | .authentication => .flag
  | .noAnonymousUploads => .flag
  | .googleAuthentication => .flag
  | .googleClientId => .text
  | .googleSecret => .text
  | .googleDomains => .texts
  | .ovhAuthentication => .flag
  | .ovhKey => .text
  | .ovhSecret => .text
  | .ovhEndpoint => .text
  | .metadataBackend => .text
  | .metadataBackendConfig => .mapping
  | .dataBackend => .text
  | .dataBackendConfig => .mapping
  | .abuseContact => .text

/-- The key of a setting in configuration sources. -/
def key : Field → String
  | .debug => "Debug"
  | .debugRequests => "DebugRequests"
  | .logLevel => "LogLevel"
  | .listenAddress => "ListenAddress"
  | .listenPort => "ListenPort"
  | .path => "Path"
  | .sslEnabled => "SslEnabled"
  | .sslCert => "SslCert"
  | .sslKey => "SslKey"
  | .noWebInterface => "NoWebInterface"
  | .downloadDomain => "DownloadDomain"
  | .enhancedWebSecurity => "EnhancedWebSecurity"
  | .sourceIpHeader => "SourceIPHeader"
  | .uploadWhitelist => "UploadWhitelist"
  | .maxFileSize => "MaxFileSize"
  | .maxFileSizeText => "MaxFileSizeStr"
  | .maxFilesPerUpload => "MaxFilePerUpload"
  | .defaultLifetime => "DefaultTTL"
  | .maxLifetime => "MaxTTL"
  | .defaultLifetimeText => "DefaultTTLStr"
  | .maxLifetimeText => "MaxTTLStr"
  | .oneShot => "OneShot"
  | .removable => "Removable"
  | .stream => "Stream"
  | .protectedByPassword => "ProtectedByPassword"
  | .authentication => "Authentication"
  | .noAnonymousUploads => "NoAnonymousUploads"
  | .googleAuthentication => "GoogleAuthentication"
  | .googleClientId => "GoogleAPIClientID"
  | .googleSecret => "GoogleAPISecret"
  | .googleDomains => "GoogleValidDomains"
  | .ovhAuthentication => "OvhAuthentication"
  | .ovhKey => "OvhAPIKey"
  | .ovhSecret => "OvhAPISecret"
  | .ovhEndpoint => "OvhAPIEndpoint"
  | .metadataBackend => "MetadataBackend"
  | .metadataBackendConfig => "MetadataBackendConfig"
  | .dataBackend => "DataBackend"
  | .dataBackendConfig => "DataBackendConfig"
  | .abuseContact => "AbuseContact"

/-- The name of a setting in reports, which sources may use as a second key. -/
def name : Field → String
  | .debug => "debug"
  | .debugRequests => "debug_requests"
  | .logLevel => "log_level"
  | .listenAddress => "listen_address"
  | .listenPort => "listen_port"
  | .path => "path"
  | .sslEnabled => "ssl_enabled"
  | .sslCert => "ssl_cert"
  | .sslKey => "ssl_key"
  | .noWebInterface => "no_web_interface"
  | .downloadDomain => "download_domain"
  | .enhancedWebSecurity => "enhanced_web_security"
  | .sourceIpHeader => "source_ip_header"
  | .uploadWhitelist => "upload_whitelist"
  | .maxFileSize => "max_file_size"
  | .maxFileSizeText => "max_file_size_str"
  | .maxFilesPerUpload => "max_file_per_upload"
  | .defaultLifetime => "default_ttl"
  | .maxLifetime => "max_ttl"
  | .defaultLifetimeText => "default_ttl_str"
  | .maxLifetimeText => "max_ttl_str"
  | .oneShot => "one_shot"
  | .removable => "removable"
  | .stream => "stream"
  | .protectedByPassword => "protected_by_password"
  | .authentication => "authentication"
  | .noAnonymousUploads => "no_anonymous_uploads"
  | .googleAuthentication => "google_authentication"
  | .googleClientId => "google_api_client_id"
  | .googleSecret => "google_api_secret"
  | .googleDomains => "google_valid_domains"
  | .ovhAuthentication => "ovh_authentication"
  | .ovhKey => "ovh_api_key"
  | .ovhSecret => "ovh_api_secret"
  | .ovhEndpoint => "ovh_api_endpoint"
  | .metadataBackend => "metadata_backend"
  | .metadataBackendConfig => "metadata_backend_config"
  | .dataBackend => "data_backend"
  | .dataBackendConfig => "data_backend_config"
  | .abuseContact => "abuse_contact"

/-- The variable of the environment that overrides a setting. -/
def variableName (field : Field) : String :=
  VariableName.ofIdentifier field.key

def ofName? (name : String) : Option Field :=
  all.find? (·.name == name)

/-- Settings that reports leave out. -/
def isSecret : Field → Bool
  | .googleSecret => true
  | .ovhSecret => true
  | _ => false

end Field

namespace Settings

def get (settings : Settings) : (field : Field) → field.kind.Carrier
  | .debug => settings.debug
  | .debugRequests => settings.debugRequests
  | .logLevel => settings.logLevel
  | .listenAddress => settings.listenAddress
  | .listenPort => settings.listenPort
  | .path => settings.path
  | .sslEnabled => settings.sslEnabled
  | .sslCert => settings.sslCert
  | .sslKey => settings.sslKey
  | .noWebInterface => settings.noWebInterface
  | .downloadDomain => settings.downloadDomain
  | .enhancedWebSecurity => settings.enhancedWebSecurity
  | .sourceIpHeader => settings.sourceIpHeader
  | .uploadWhitelist => settings.uploadWhitelist
  | .maxFileSize => settings.maxFileSize
  | .maxFileSizeText => settings.maxFileSizeText
  | .maxFilesPerUpload => settings.maxFilesPerUpload
  | .defaultLifetime => settings.defaultLifetime
  | .maxLifetime => settings.maxLifetime
  | .defaultLifetimeText => settings.defaultLifetimeText
  | .maxLifetimeText => settings.maxLifetimeText
  | .oneShot => settings.oneShot
  | .removable => settings.removable
  | .stream => settings.stream
  | .protectedByPassword => settings.protectedByPassword
  | .authentication => settings.authentication
  | .noAnonymousUploads => settings.noAnonymousUploads
  | .googleAuthentication => settings.googleAuthentication
  | .googleClientId => settings.googleClientId
  | .googleSecret => settings.googleSecret
  | .googleDomains => settings.googleDomains
  | .ovhAuthentication => settings.ovhAuthentication
  | .ovhKey => settings.ovhKey
  | .ovhSecret => settings.ovhSecret
  | .ovhEndpoint => settings.ovhEndpoint
  | .metadataBackend => settings.metadataBackend
  | .metadataBackendConfig => settings.metadataBackendConfig
  | .dataBackend => settings.dataBackend
  | .dataBackendConfig => settings.dataBackendConfig
  | .abuseContact => settings.abuseContact

/-- Replace the value of a setting. -/
def put (settings : Settings) : (field : Field) → field.kind.Carrier → Settings
  | .debug, value => { settings with debug := value }
  | .debugRequests, value => { settings with debugRequests := value }
  | .logLevel, value => { settings with logLevel := value }
  | .listenAddress, value => { settings with listenAddress := value }
  | .listenPort, value => { settings with listenPort := value }
  | .path, value => { settings with path := value }
  | .sslEnabled, value => { settings with sslEnabled := value }
  | .sslCert, value => { settings with sslCert := value }
  | .sslKey, value => { settings with sslKey := value }
  | .noWebInterface, value => { settings with noWebInterface := value }
  | .downloadDomain, value => { settings with downloadDomain := value }
  | .enhancedWebSecurity, value => { settings with enhancedWebSecurity := value }
  | .sourceIpHeader, value => { settings with sourceIpHeader := value }
  | .uploadWhitelist, value => { settings with uploadWhitelist := value }
  | .maxFileSize, value => { settings with maxFileSize := value }
  | .maxFileSizeText, value => { settings with maxFileSizeText := value }
  | .maxFilesPerUpload, value => { settings with maxFilesPerUpload := value }
  | .defaultLifetime, value => { settings with defaultLifetime := value }
  | .maxLifetime, value => { settings with maxLifetime := value }
  | .defaultLifetimeText, value => { settings with defaultLifetimeText := value }
  | .maxLifetimeText, value => { settings with maxLifetimeText := value }
  | .oneShot, value => { settings with oneShot := value }
  | .removable, value => { settings with removable := value }
  | .stream, value => { settings with stream := value }
  | .protectedByPassword, value => { settings with protectedByPassword := value }
  | .authentication, value => { settings with authentication := value }
  | .noAnonymousUploads, value => { settings with noAnonymousUploads := value }
  | .googleAuthentication, value => { settings with googleAuthentication := value }
  | .googleClientId, value => { settings with googleClientId := value }
  | .googleSecret, value => { settings with googleSecret := value }
  | .googleDomains, value => { settings with googleDomains := value }
  | .ovhAuthentication, value => { settings with ovhAuthentication := value }
  | .ovhKey, value => { settings with ovhKey := value }
  | .ovhSecret, value => { settings with ovhSecret := value }
  | .ovhEndpoint, value => { settings with ovhEndpoint := value }
  | .metadataBackend, value => { settings with metadataBackend := value }
  | .metadataBackendConfig, value => { settings with metadataBackendConfig := value }
  | .dataBackend, value => { settings with dataBackend := value }
  | .dataBackendConfig, value => { settings with dataBackendConfig := value }
  | .abuseContact, value => { settings with abuseContact := value }

/-- The settings with their defaults. -/
def defaults : Settings := {}

/-- The value of a setting as a JSON value. -/
def toJson (settings : Settings) (field : Field) : Json :=
  field.kind.toJson (settings.get field)

theorem put_get (settings : Settings) (field : Field) :
    settings.put field (settings.get field) = settings := by
  cases field <;> rfl

theorem get_put_self (settings : Settings) (field : Field) (value : field.kind.Carrier) :
    (settings.put field value).get field = value := by
  cases field <;> rfl

theorem get_put_of_ne (settings : Settings) {field other : Field} (distinct : other ≠ field)
    (value : field.kind.Carrier) :
    (settings.put field value).get other = settings.get other := by
  cases field <;> cases other <;> (try rfl) <;> exact absurd rfl distinct

end Settings

end ServerConfig

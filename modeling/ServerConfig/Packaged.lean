/-!
# The packaged configuration

The configuration that is used when none is chosen.
-/

namespace ServerConfig.Packaged

def lines : List String :=
  ["Debug               = false         # Enable debug mode",
   "DebugRequests       = false         # Log requests and responses",
   "LogLevel            = \"INFO\"        # Other levels: DEBUG, WARNING, ERROR",
   "",
   "ListenAddress       = \"0.0.0.0\"",
   "ListenPort          = 8080",
   "Path                = \"\"            # Path below which everything is served",
   "SslEnabled          = false",
   "SslCert             = \"plik.crt\"    # Certificate file",
   "SslKey              = \"plik.key\"    # Private key file of the certificate",
   "NoWebInterface      = false         # Disable the web interface",
   "DownloadDomain      = \"\"            # Enforce a download domain",
   "EnhancedWebSecurity = false         # Enable additional security headers",
   "SourceIPHeader      = \"\"            # Set behind a reverse proxy (X-FORWARDED-FOR)",
   "UploadWhitelist     = []            # Restrict uploads to addresses and networks",
   "AbuseContact        = \"\"            # Abuse contact shown in the web interface",
   "",
   "MaxFileSizeStr      = \"10GB\"",
   "MaxFilePerUpload    = 1000",
   "DefaultTTLStr       = \"30d\"         # 30 days",
   "MaxTTLStr           = \"30d\"         # 30 days, -1 is unlimited",
   "",
   "OneShot             = true          # Allow uploads with a single download",
   "Removable           = true          # Allow uploads that anybody can remove",
   "Stream              = true          # Allow streaming",
   "ProtectedByPassword = true          # Allow passwords for downloads",
   "",
   "Authentication      = false         # Enable authentication",
   "NoAnonymousUploads  = false         # Prevent uploads without authentication",
   "GoogleAPIClientID   = \"\"            # Google API client ID",
   "GoogleAPISecret     = \"\"            # Google API client secret",
   "GoogleValidDomains  = []            # Mail domains of acceptable users",
   "OvhAPIKey           = \"\"            # OVH API application key",
   "OvhAPISecret        = \"\"            # OVH API application secret",
   "OvhAPIEndpoint      = \"https://eu.api.ovh.com/1.0\"",
   "",
   "MetadataBackend     = \"bolt\"",
   "DataBackend         = \"file\"",
   "",
   "[MetadataBackendConfig]",
   "    Path = \"plik.db\"",
   "",
   "[DataBackendConfig]",
   "    Directory = \"files\"",
   ""]

def document : String := "\n".intercalate lines

/-- How the packaged configuration is called in messages. -/
def name : String := "<default>"

end ServerConfig.Packaged

/-!
# Settings

What a server can be told, in four sections, with what it does when it is told
nothing.
-/

set_option autoImplicit false

namespace DocRoot

structure ServerSettings where
  host : String
  port : UInt16
  workers : Option UInt64
  deriving DecidableEq, Repr

structure LoggingSettings where
  accessLog : Bool
  accessLogFormat : String
  accessLogFile : Option String
  errorLogFile : Option String
  deriving DecidableEq, Repr

structure PerformanceSettings where
  keepAlive : Bool
  headerReadTimeout : UInt64
  maxConnections : Option UInt64
  deriving DecidableEq, Repr

structure ServeSettings where
  indexFiles : List String
  directoryListing : Bool
  deriving DecidableEq, Repr

structure Settings where
  server : ServerSettings
  logging : LoggingSettings
  performance : PerformanceSettings
  serve : ServeSettings
  deriving DecidableEq, Repr

namespace Settings

def defaultHost : String := "0.0.0.0"
def defaultPort : UInt16 := 8080

def defaults : Settings where
  server := ⟨defaultHost, defaultPort, none⟩
  logging := ⟨true, "common", none, none⟩
  performance := ⟨true, 30, none⟩
  serve := ⟨["index.html", "index.htm"], true⟩

/-- The name of a settings file, without its extension. -/
def fileStem : String := "fileserver"

def fileExtensions : List String := ["toml", "json", "yaml", "yml", "ini", "ron", "json5"]

def fileNames : List String := fileExtensions.map fun e => fileStem ++ "." ++ e

end Settings

end DocRoot

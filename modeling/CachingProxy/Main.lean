import CachingProxy.Settings

namespace CachingProxy

def settingsPath : IO String := do
  return (← IO.getEnv "RINGCACHE_CONFIG").getD "config/ringcache.toml"

/-- What is in the file; a file that is not there counts as nothing. -/
def findSettings (path : String) : IO Settings.Found := do
  try
    return .file (← IO.FS.readBinFile path).toList
  catch
    | .noFileOrDirectory .. => return .nothing
    | e => throw e

def report (path : String) : Except Failure (Settings × Bool) → IO UInt32
  | .ok (s, found) => do
    IO.println (if found then "Loaded configuration from " ++ path
      else "No config file found, using default configuration")
    IO.println ("Listening on http://" ++ s.address)
    return 0
  | .error f => do
    IO.eprintln ("Error: " ++ f.message)
    return 1

end CachingProxy

def main : IO UInt32 := do
  let path ← CachingProxy.settingsPath
  CachingProxy.report path (CachingProxy.Settings.locate (← CachingProxy.findSettings path))

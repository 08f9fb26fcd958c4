import DomainModels.Cli.Validator
/-! The `model-validator` executable: the validator run against the disk, the process's
working directory and environment, the wall clock and random bytes for unseeded sampling. -/
namespace DomainModels.Disk

open Files

/-- The report of a failed operation of the system, by its error number, which may come
negated, and its description, with a capital first letter. -/
def ioError (e : IO.Error) : IoError :=
  let coded (code : UInt32) (details : String) : IoError :=
    let n := code.toNat
    match if n ≥ 2147483648 then 4294967296 - n else n with
    | 2 => .notFound
    | 20 => .notDirectory
    | 21 => .isDirectory
    | n => .other n (String.ofList (match details.toList with
      | c :: cs => c.toUpper :: cs
      | [] => []))
  match e with
  | .alreadyExists _ c d | .otherError c d | .resourceBusy c d | .resourceVanished c d
  | .unsupportedOperation c d | .hardwareFault c d | .unsatisfiedConstraints c d | .illegalOperation c d
  | .protocolError c d | .timeExpired c d | .interrupted _ c d | .noFileOrDirectory _ c d
  | .invalidArgument _ c d | .permissionDenied _ c d | .resourceExhausted _ c d | .inappropriateType _ c d
  | .noSuchThing _ c d => coded c d
  | .unexpectedEof => .other 0 "unexpected end of file"
  | .userError m => .other 0 m

/-- The disk as a file system. -/
instance : FileAccess IO where
  kind p := do
    let here ← IO.currentDir
    try
      let md ← ({ here with toString := p }).metadata
      pure (match md.type with
        | .dir => some Kind.directory
        | _ => some Kind.file)
    catch _ => pure none
  children p := do
    let here ← IO.currentDir
    try
      let entries ← ({ here with toString := p }).readDir
      pure (entries.toList.map (·.fileName))
    catch _ => pure []
  read p := do
    try pure (.ok (← IO.FS.readBinFile p))
    catch e => pure (.error (ioError e))
  write p bytes := do
    try pure (.ok (← IO.FS.writeBinFile p bytes))
    catch e => pure (.error (ioError e))

/-- The text of a file, or nothing. -/
def readOr (path : String) : IO String := do
  match ← (FileAccess.read path : IO _) with
  | .ok bytes => pure ((String.fromUTF8? bytes).getD "")
  | .error _ => pure ""

/-- The process's environment, from the system's record of it. -/
def environment : IO (List (String × String)) := do
  let text ← readOr "/proc/self/environ"
  pure ((text.splitOn (String.singleton (Char.ofNat 0))).filterMap fun entry =>
    match entry.splitOn "=" with
    | name :: rest => if name.isEmpty then none else some (name, "=".intercalate rest)
    | [] => none)

/-- The wall clock: the boot time the system records plus the time since boot. -/
def wallClock : IO Time.DateTime := do
  let stat ← readOr "/proc/stat"
  let uptime ← readOr "/proc/uptime"
  let boot := ((stat.splitOn "\n").findSome? fun line =>
    if line.startsWith "btime " then (line.drop 6).trimAscii.toString.toNat? else none).getD 0
  let up := ((uptime.splitOn " ").head?).getD "0"
  let (whole, fraction) := match up.splitOn "." with
    | [w, f] => (w.toNat?.getD 0, f)
    | parts => ((parts.head?.bind String.toNat?).getD 0, "")
  let nanos := ((String.ofList ((fraction.toList ++ List.replicate 9 '0').take 9)).toNat?).getD 0
  pure { seconds := boot + whole, nanos, offset := 0 }

/-- A random seed. -/
def entropy : IO Nat := do
  let bytes ← IO.getRandomBytes 8
  pure (bytes.toList.foldl (fun acc b => acc * 256 + b.toNat) 0)

end DomainModels.Disk

open DomainModels in
/-- Run the validator and exit with its status. -/
def main (args : List String) : IO UInt32 := do
  let cwd := (← IO.currentDir).toString
  let vars ← Disk.environment
  let now ← Disk.wallClock
  let seed ← Disk.entropy
  let exit ← Cli.runValidator { cwd, vars } now seed args
  let out ← IO.getStdout
  let err ← IO.getStderr
  out.putStr exit.out
  out.flush
  err.putStr exit.err
  err.flush
  pure exit.code.toUInt32

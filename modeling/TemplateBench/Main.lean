import Std.Time.Format
import TemplateBench.Command.Apply
import TemplateBench.Command.Verify

/-!
The program: it copies the files that a command looks at from the disk into a tree, performs the
command on the tree, and prints and writes what the command leaves behind.
-/
namespace TemplateBench.Main
open Command

/-! ## Reading the disk -/

private def ofBytes (bytes : ByteArray) : Node := .file (String.fromUTF8? bytes)

/-- What is at a place on the disk; of a folder so many levels. -/
def load : Nat → IO.FS.DirEntry → IO Node
  | depth, entry => do
    let path := entry.path
    if ← path.isDir then
      match depth with
      | 0 => return .folder []
      | depth + 1 => do
        let entries ← path.readDir
        return .folder (← entries.toList.mapM fun e => do return (e.fileName, ← load depth e))
    else return ofBytes (← IO.FS.readBinFile path)

private def names (t : FileTree) (p : Path) : List String :=
  (t.steps p).foldl (fun names step =>
    if Path.isIdle step then names
    else if step = ['.', '.'] then names.dropLast
    else names ++ [String.ofList step]) []

/-- Copies what is at a path, unless the tree has it or the disk does not. -/
def copy (t : FileTree) (depth : Nat) (p : Path) : IO FileTree := do
  if p.text = "" || (t.node p).isOk then return t
  try return t.put (names t p) (← load depth ⟨t.current.text, p.text⟩)
  catch _ => return t

def copyAll (t : FileTree) (depth : Nat) (ps : List Path) : IO FileTree :=
  ps.foldlM (copy · depth ·) t

/-! ## Performing -/

def evaluate (b : Bench) (t : FileTree) (file : TemplateFile) : IO Bench.Evaluation := do
  match b.prepare t file with
  | .settled fixture outcome => return ⟨⟨file, fixture, outcome, none⟩, none⟩
  | .ready fixture source template => do
    let start ← IO.monoNanosNow
    let reply ← IO.lazyPure fun _ => b.engine.apply source template
    let stop ← IO.monoNanosNow
    return b.conclude t file fixture reply (Float.ofNat (stop - start) / 1000000.0)

private def chunks (size : Nat) (files : List TemplateFile) : List (List TemplateFile) :=
  (List.range (files.length / size + 1)).map fun i => (files.drop (i * size)).take size

/-- A pool takes as many templates at a time as it has workers. -/
def measured : Verify.Evaluator IO := fun b t execution workers files =>
  match execution with
  | .sequential => files.mapM (evaluate b t)
  | .pooled => do
    let done ← (chunks (max workers 1) files).mapM fun chunk => do
      let tasks ← chunk.mapM fun file => IO.asTask (evaluate b t file)
      tasks.mapM fun task => IO.ofExcept task.get
    return done.flatten

private def now : IO String := do
  let time := Std.Time.DateTime.ofTimestamp (← Std.Time.Timestamp.now) .UTC
  return time.format "uuuu-MM-dd'T'HH:mm:ss.SSSSSSSSS'Z'"

/-- The processors that the machine lists, or one if it lists none. -/
private def processors : IO Nat := do
  try
    let listed ← IO.FS.lines "/proc/cpuinfo"
    return max 1 (listed.filter (·.startsWith "processor")).size
  catch _ => return 1

/-- The settings decide which files are looked at besides the settings files themselves. -/
def verify (t : FileTree) (args : List String) : IO Transcript := do
  let request := Verify.Request.read args
  let named := match request with
    | .ok r => r.settingsFile.toList
    | .error _ => []
  let t ← copyAll t 0 (named ++ t.current.ancestors.map (·.join ⟨Settings.fileName⟩))
  let t ← match request with
    | .error _ => pure t
    | .ok r =>
      match r.settings t with
      | .error _ => pure t
      | .ok s => do
        let t ← copyAll t 2 [s.vendorFolder]
        let t ← match r.task with
          | .locate command => copyAll t 1 [s.vendorFolder.join ⟨command⟩]
          | _ => pure t
        let t ← copyAll t 1 [s.templateFolder]
        let output := match r.task with
          | .run _ _ _ _ output => output.or s.output
          | _ => none
        copyAll t 0 (output.toList.flatMap Path.ancestors)
  Verify.perform measured ⟨t, ← processors, ← now⟩ args

def apply (t : FileTree) (args : List String) : IO Transcript := do
  let t ← match Apply.Request.read args with
    | .ok (.render _ source template _) => copyAll t 0 [source, template]
    | _ => pure t
  return Apply.perform t args

def save (path : Path) (content : String) : IO Unit := do
  match path.parent? with
  | some folder => if folder.text != "" then IO.FS.createDirAll folder.text
  | none => pure ()
  IO.FS.writeFile path.text content

end TemplateBench.Main

open TemplateBench TemplateBench.Main

/-- The commands that apply one template come first; all others verify a suite. -/
def main (args : List String) : IO UInt32 := do
  let t : FileTree := { current := ⟨(← IO.currentDir).toString⟩ }
  let result ← match args with
    | command :: _ => if (Apply.options.lookup command).isSome then apply t args else verify t args
    | [] => verify t args
  IO.print result.output
  if let some (path, content) := result.saved then save path content
  IO.eprint result.errors
  return result.code.toUInt32

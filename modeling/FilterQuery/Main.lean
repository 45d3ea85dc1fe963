import FilterQuery.Session.Command

/-!
# The command line

Reads files, standard input and arguments, and prints what the session answers.
-/

namespace FilterQuery.Main

open Session (Content ReadFailure)

/-- Why the system refuses a file. -/
def failureOf : IO.Error → ReadFailure
  | .noFileOrDirectory .. => .notFound
  | .inappropriateType _ 21 _ => .isFolder
  | .inappropriateType .. => .notFolder
  | .invalidArgument .. => .nameTooLong
  | error => .other (toString error)

/-- The text of the file at a path. -/
def readContent (path : String) : IO Content := do
  if let some fault := Session.pathFault? path then return .error fault
  try
    match String.fromUTF8? (← IO.FS.readBinFile path) with
    | some text => return .ok text
    | none => return .error .notText
  catch error => return .error (failureOf error)

/-- The files that a command reads. -/
def filesFor (command : Session.Command) : IO Session.Files := do
  match command with
  | .load path => do
    let content ← readContent path
    return fun _ ↦ content
  | _ => return fun _ ↦ .error .notFound

/-- Answers lines until one ends the session or the input ends. -/
partial def answerLines (compiler : Session.SessionCompiler) (input : IO.FS.Stream) : IO Unit := do
  let line :: _ := Session.linesOf (← input.getLine) | return
  let command := Session.Command.ofLine line
  if command = .quit then return
  IO.print (Session.reply compiler (← filesFor command) line)
  answerLines compiler input

end FilterQuery.Main

open FilterQuery in
def main (arguments : List String) : IO UInt32 := do
  let path := Configuration.defaultPath
  let configuration := Configuration.load path (← Main.readContent path)
  let compiler := Session.compilerOf configuration
  IO.print (Session.opening configuration)
  match arguments with
  | path :: _ =>
    match Session.compileFile compiler path (← Main.readContent path) with
    | .ok text => IO.print text; return 0
    | .error failure => IO.eprint failure.report; return 1
  | [] =>
    IO.print ("\n" ++ Session.help)
    Main.answerLines compiler (← IO.getStdin)
    return 0

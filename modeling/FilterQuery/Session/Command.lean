import FilterQuery.Filter.Reader
import FilterQuery.Session.Configuration
import FilterQuery.Text.Backspace
import FilterQuery.Text.Lines

/-!
# A session at the command line

A session opens with a report on the configuration. With a file as its argument it compiles the tree
in that file, and a failure ends it. Without one it takes commands line by line: a line is a tree
unless its first word is a command, and a line that fails reports its failure and ends nothing.
Backspaces in a line have taken effect before it is read.
-/

namespace FilterQuery.Session

/-! ## What is printed -/

def banner : String := "--- Datalog Query Builder: 过滤树到 Datalog 编译器 ---\n"

def help : String :=
  "输入一行 JSON 过滤树, 例如:\n" ++
  "  \x7b\"matchMode\": \"all\", " ++
  "\"children\": [\x7b\"kind\": \"tags\", \"value\": \"work\"\x7d]\x7d\n" ++
  "命令:\n" ++
  "  :load <文件>   从文件读取过滤树\n" ++
  "  :help          显示帮助\n" ++
  "  :quit          退出\n"

/-- A property of the configuration, with its attribute and type. -/
def schemaLine (entry : String × PropertySchema) : String :=
  "  " ++ entry.1 ++ " -> " ++ entry.2.ident ++ " (" ++ entry.2.valueType.title ++ ")\n"

def configurationReport : Except ConfigurationError Configuration → String
  | .ok configuration =>
    "✅ 成功从JSON配置文件加载配置: " ++ Configuration.defaultPath ++ "\n" ++
    "✅ 加载了 " ++ toString configuration.properties.length ++ " 个属性 schema\n" ++
    String.join (configuration.properties.map schemaLine)
  | .error error => "⚠️ 无法加载JSON配置文件 (" ++ error.message ++ "), 使用默认配置\n"

/-- What a session prints before anything else. -/
def opening (configuration : Except ConfigurationError Configuration) : String :=
  banner ++ "\n[配置信息]:\n" ++ configurationReport configuration

def queryReport : Option Datalog.Query → String
  | some query =>
    "\n[可复制的查询]:\n" ++ query.wrapped ++ "\n" ++ "\n[原始查询]:\n" ++ query.raw ++ "\n"
  | none => "没有有效的过滤条件, 无法生成查询。\n"

/-- What failed, and why. -/
structure Failure where
  context : String
  cause : String
deriving DecidableEq, Repr

/-- A failure that does not end the session. -/
def Failure.line (failure : Failure) : String :=
  "✗ " ++ failure.context ++ ": " ++ failure.cause ++ "\n"

/-- A failure that ends the session. -/
def Failure.report (failure : Failure) : String :=
  "Error: " ++ failure.context ++ "\n\nCaused by:\n    " ++ failure.cause ++ "\n"

/-! ## Compiling -/

/-- A session looks schemas up in its configuration only, and asks nobody. -/
abbrev SessionCompiler := Compiler Empty

/-- The compiler of a configuration; without one, that of the standard configuration. -/
def compilerOf (configuration : Except ConfigurationError Configuration) : SessionCompiler :=
  (configuration.toOption.getD .standard).toCompiler

/-- What is printed for the text of a tree. -/
def compileText (compiler : SessionCompiler) (source : String) : Except Failure String :=
  match Node.parse source with
  | .ok node => .ok (queryReport (compiler.compile node).value)
  | .error error => .error ⟨"无法解析过滤树 JSON", error.message⟩

/-- What is printed for the file at a path. -/
def compileFile (compiler : SessionCompiler) (path : String) (content : Content) :
    Except Failure String :=
  match content with
  | .ok source => compileText compiler source
  | .error failure => .error ⟨"无法读取文件 " ++ path, failure.message⟩

/-! ## Commands -/

inductive Command
  | nothing
  | quit
  | help
  | load (path : String)
  | tree (source : String)
deriving DecidableEq, Repr

namespace Command

/-- The command of a line; blanks at its ends do not count. -/
def ofLine (line : String) : Command :=
  let line := Text.trim line
  if line = "" then .nothing
  else
    let (word, rest) := Text.splitWord line
    if word = ":quit" ∨ word = ":q" then .quit
    else if word = ":help" then .help
    else if word = ":load" then .load (Text.trim rest)
    else .tree line

/-- What is printed for a command. -/
def output (compiler : SessionCompiler) (files : Files) : Command → Except Failure String
  | .nothing => .ok ""
  | .quit => .ok ""
  | .help => .ok Session.help
  | .load path => compileFile compiler path (files path)
  | .tree source => compileText compiler source

end Command

/-- What a line makes the session print. -/
def reply (compiler : SessionCompiler) (files : Files) (line : String) : String :=
  match (Command.ofLine line).output compiler files with
  | .ok text => text
  | .error failure => failure.line

/-- What a row of lines makes the session print, up to the line that ends it. -/
def transcript (compiler : SessionCompiler) (files : Files) : List String → String
  | [] => ""
  | line :: lines =>
    if Command.ofLine line = .quit then ""
    else reply compiler files line ++ transcript compiler files lines

/-! ## The whole session -/

/-- What a line of the input says: without its end, and with its backspaces in effect. -/
def typed (line : List Char) : String :=
  let line := if line.getLast? = some '\r' then line.dropLast else line
  String.ofList (Text.applyBackspaces line)

/-- The lines of an input. -/
def linesOf (input : String) : List String := (Text.lines input.toList).map typed

structure Outcome where
  stdout : String
  stderr : String
  exitCode : Nat
deriving DecidableEq, Repr

/-- A session with the given arguments, files and input. -/
def run (files : Files) (arguments : List String) (input : String) : Outcome :=
  let configuration :=
    Configuration.load Configuration.defaultPath (files Configuration.defaultPath)
  let compiler := compilerOf configuration
  match arguments with
  | path :: _ =>
    match compileFile compiler path (files path) with
    | .ok text => ⟨opening configuration ++ text, "", 0⟩
    | .error failure => ⟨opening configuration, failure.report, 1⟩
  | [] =>
    ⟨opening configuration ++ "\n" ++ help ++ transcript compiler files (linesOf input), "", 0⟩

end FilterQuery.Session

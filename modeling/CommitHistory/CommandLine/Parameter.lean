/-
# Parameters of the command line

A parameter is given by its name after two dashes, and most also by a letter after
one. Some take a value; the others are given or not.

## Main definitions

* `CommandLine.Parameter` — the parameters.
* `Parameter.ofName?`, `Parameter.ofLetter?` — which one is meant.
* `CommandLine.helpText` — the list of all parameters, for people.
-/

namespace CommitHistory.CommandLine

/-- What can be given on the command line. -/
inductive Parameter where
  | repository
  | pageSize
  | pages
  | all
  | format
  | noColor
  | settingsFile
  | logLevel
  | changes
  | mergeBase
  | help
  | version
deriving DecidableEq, Repr

namespace Parameter

/-- All parameters, in the order in which they are listed. -/
def every : List Parameter :=
  [.repository, .pageSize, .pages, .all, .format, .noColor, .settingsFile, .logLevel, .changes,
    .mergeBase, .help, .version]

/-- The name after two dashes. -/
def name : Parameter → String
  | .repository => "repo"
  | .pageSize => "page-size"
  | .pages => "pages"
  | .all => "all"
  | .format => "format"
  | .noColor => "no-color"
  | .settingsFile => "config"
  | .logLevel => "log-level"
  | .changes => "changes"
  | .mergeBase => "merge-base"
  | .help => "help"
  | .version => "version"

/-- The letter after one dash. -/
def letter? : Parameter → Option Char
  | .repository => some 'C'
  | .pageSize => some 'n'
  | .all => some 'a'
  | .format => some 'f'
  | .settingsFile => some 'c'
  | .help => some 'h'
  | .version => some 'V'
  | _ => none

/-- The word that stands for the value, if a parameter takes one. -/
def placeholder? : Parameter → Option String
  | .repository => some "PATH"
  | .pageSize => some "N"
  | .pages => some "N"
  | .format => some "FORMAT"
  | .settingsFile => some "FILE"
  | .logLevel => some "LEVEL"
  | .changes => some "COMMIT"
  | _ => none

/-- Whether a parameter takes a value. -/
def takesValue (parameter : Parameter) : Bool := parameter.placeholder?.isSome

/-- The value of a parameter that is not given, where there is a word for it. -/
def default? : Parameter → Option String
  | .repository => some "."
  | .pages => some "1"
  | .format => some "text"
  | _ => none

/-- What a parameter is for. -/
def purpose : Parameter → String
  | .repository => "仓库路径（可以是仓库内任意子目录）"
  | .pageSize => "每页提交数量（1-1000），覆盖配置文件"
  | .pages => "加载的页数"
  | .all => "显示所有引用的历史，而不仅是当前分支谱系"
  | .format => "输出格式 (text, json)"
  | .noColor => "禁用彩色输出"
  | .settingsFile => "配置文件路径（toml / yaml / json）"
  | .logLevel => "日志级别 (trace, debug, info, warn, error)"
  | .changes => "显示指定提交相对第一个父提交的文件变更"
  | .mergeBase => "输出当前分支与其上游、基准分支的共同祖先"
  | .help => "Print help"
  | .version => "Print version"

/-- The parameter with a name. -/
def ofName? (name : List Char) : Option Parameter :=
  every.find? fun parameter => parameter.name.toList = name

/-- The parameter with a letter. -/
def ofLetter? (letter : Char) : Option Parameter :=
  every.find? fun parameter => parameter.letter? = some letter

/-- How a parameter is given. -/
def usage (parameter : Parameter) : String :=
  let short := match parameter.letter? with
    | some letter => "-" ++ String.singleton letter ++ ", "
    | none => "    "
  let value := match parameter.placeholder? with
    | some word => " <" ++ word ++ ">"
    | none => ""
  short ++ "--" ++ parameter.name ++ value

end Parameter

/-- The name of the program. -/
def programName : String := "scm-history"

/-- The answer to the question for the version. -/
def versionText : String := programName ++ " 0.1.0\n"

/-- How the program is called. -/
def usageText : String := "Usage: " ++ programName ++ " [OPTIONS]\n"

/-- The program in one sentence. -/
def summary : String := "源代码管理历史视图 - 分页查看提交图、引用标签和提交变更"

/-- The program in two sentences. -/
def description : String :=
  "scm-history 按页获取当前分支（及其上游和基准分支）的提交历史，计算提交图的泳道与颜色，并以文本或 JSON 输出。" ++
    "支持查看单个提交的文件变更以及解析分支的共同祖先。"

/-- So many blanks. -/
def blanks (count : Nat) : String := String.ofList (List.replicate count ' ')

/-- The column in which the purposes begin in the short list. -/
def purposeColumn : Nat :=
  (Parameter.every.foldl (fun widest parameter => max widest parameter.usage.length) 0) + 4

/-- A parameter in one line. The line for help points to the long list. -/
def shortEntry (parameter : Parameter) : String :=
  let given := "  " ++ parameter.usage
  let purpose := if parameter = .help then
    parameter.purpose ++ " (see more with '--help')" else parameter.purpose
  let standard := match parameter.default? with
    | some value => " [default: " ++ value ++ "]"
    | none => ""
  given ++ blanks (purposeColumn - given.length) ++ purpose ++ standard ++ "\n"

/-- A parameter in several lines. The line for help points to the short list. -/
def longEntry (parameter : Parameter) : String :=
  let margin := blanks 10
  let purpose := if parameter = .help then
    parameter.purpose ++ " (see a summary with '-h')" else parameter.purpose
  let standard := match parameter.default? with
    | some value => "\n" ++ margin ++ "\n" ++ margin ++ "[default: " ++ value ++ "]"
    | none => ""
  "  " ++ parameter.usage ++ "\n" ++ margin ++ purpose ++ standard ++ "\n"

/-- The list of all parameters, in full or with one line for each. -/
def helpText (full : Bool) : String :=
  if full then
    description ++ "\n\n" ++ usageText ++ "\nOptions:\n" ++
      String.intercalate "\n" (Parameter.every.map longEntry)
  else
    summary ++ "\n\n" ++ usageText ++ "\nOptions:\n" ++
      String.join (Parameter.every.map shortEntry)

end CommitHistory.CommandLine

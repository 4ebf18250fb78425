/-
# Faults

Everything that can go wrong is one of six faults. A fault has a wording for
people (`Fault.message`) and belongs to a category (`Fault.category`).
-/

namespace CommitHistory

/-- What went wrong. -/
inductive Fault where
  /-- A setting or an option value cannot be used. -/
  | configuration (detail : String)
  /-- A file cannot be read, written or opened. -/
  | files (detail : String) (path : Option String)
  /-- A run of git could not start, failed or was killed; a killed run has no exit code. -/
  | git (command detail : String) (exitCode : Option Int)
  /-- A text does not have the form that its content type asks for. -/
  | unreadable (detail contentType : String)
  /-- A source of history refused to answer. -/
  | source (name detail : String)
  /-- A repository is not tracked. -/
  | unknownRepository (repository : String)
deriving DecidableEq, Repr

/-- The four groups of faults. -/
inductive Fault.Category where
  | configuration
  | files
  | externalService
  | data
deriving DecidableEq, Repr

/-- The group of a fault. -/
def Fault.category : Fault → Fault.Category
  | .configuration _ => .configuration
  | .files _ _ => .files
  | .git _ _ _ => .externalService
  | .unreadable _ _ => .data
  | .source _ _ => .externalService
  | .unknownRepository _ => .data

/-- The wording of a fault. -/
def Fault.message : Fault → String
  | .configuration detail => "配置错误: " ++ detail
  | .files detail _ => "文件系统错误: " ++ detail
  | .git command detail _ => "Git 命令失败: git " ++ command ++ " - " ++ detail
  | .unreadable detail _ => "解析错误: " ++ detail
  | .source name detail => "历史提供者错误: " ++ name ++ " - " ++ detail
  | .unknownRepository repository => "仓库不存在: " ++ repository

end CommitHistory

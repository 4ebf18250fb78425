/-
# Log filters

A filter is a list of directives. The more specific directives come first, and of two
about the same the later one counts. Directives on spans are listed after the plain
ones.

## Main definitions

* `LogFilter.add` — adding a directive in its place.
* `LogFilter.parse?`, `LogFilter.readable` — the filter that a text describes, as a whole or
  as far as it can be read.
* `LogSettings.filter` — the filter that settings ask for.
-/

import CommitHistory.Settings
import CommitHistory.Settings.LogFilter.Directive

namespace CommitHistory

namespace LogFilter

/-- Adds a directive in its place, instead of one about the same. -/
def insert (directive : Directive) : List Directive → List Directive
  | [] => [directive]
  | known :: rest =>
    match directive.order known with
    | .gt => directive :: known :: rest
    | .eq => directive :: rest
    | .lt => known :: insert directive rest

end LogFilter

/-- A filter: plain directives, and directives on spans. -/
structure LogFilter where
  plain : List LogFilter.Directive
  spans : List LogFilter.Directive
deriving DecidableEq, Repr

namespace LogFilter

open Text

/-- The filter of directives. A directive on a field without a value counts as a plain one too. -/
def ofDirectives (directives : List Directive) : LogFilter :=
  let about := directives.filter Directive.isAboutSpans
  let others := directives.filter fun directive => !directive.isAboutSpans
  -- Directives on spans are added to the plain ones last, so they win over earlier ones.
  { plain := (others ++ about.filterMap Directive.plain?).foldl (fun known d => insert d known) []
    spans := about.foldl (fun known d => insert d known) [] }

/-- Adds one directive. -/
def add (filter : LogFilter) (directive : Directive) : LogFilter :=
  match directive.plain? with
  | some plain => { filter with plain := insert plain filter.plain }
  | none => { filter with spans := insert directive filter.spans }

/-- The texts of directives, which stand between commas. -/
def pieces (text : List Char) : List (List Char) :=
  (splitOn ',' text).filter fun piece => !piece.isEmpty

/-- The filter that a text describes. -/
def parse? (text : List Char) : Option LogFilter :=
  ((pieces text).mapM Directive.parse?).map ofDirectives

/-- The directive that lets errors through. -/
def errorsOnly : Directive := { Directive.everything with threshold := some .error }

/-- The filter of those directives in a text that can be read. Without any, errors are let
through. -/
def readable (text : List Char) : LogFilter :=
  let filter := ofDirectives ((pieces text).filterMap Directive.parse?)
  if filter.plain.isEmpty && filter.spans.isEmpty then filter.add errorsOnly else filter

/-- The text of a filter. -/
def text (filter : LogFilter) : List Char :=
  (((filter.plain ++ filter.spans).map Directive.text).intersperse [',']).flatten

/-- The target of this program's own log lines. -/
def ownTarget : List Char := "scm_history".toList

end LogFilter

/-- The filter that settings ask for: their directives if there are any, and otherwise the level
for this program, on top of the directives of the environment. -/
def LogSettings.filter (settings : LogSettings) (fromEnvironment : Option String) :
    Except Fault LogFilter :=
  match settings.directives with
  | some directives =>
    match LogFilter.parse? directives.toList with
    | some filter => .ok filter
    | none => .error (.configuration "无效的日志过滤器")
  | none => do
    let level ← settings.levelOrFault
    let base := LogFilter.readable (fromEnvironment.getD "").toList
    .ok (base.add
      { LogFilter.Directive.everything with
        target := some LogFilter.ownTarget, threshold := some level })

end CommitHistory

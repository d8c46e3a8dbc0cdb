/-
This file holds what an invocation relies on and does not do by itself. How XML
is parsed, how patterns are read and searched for, how two samples are tested and
which backend is preferred depends on the host. What is not given is done by this
library.
-/

import ColdStart.Backend
import ColdStart.Report.RankSum
import ColdStart.Selection
import ColdStart.Xml.Reader

namespace ColdStart

/-- What an invocation relies on. -/
structure Host where
  /-- Parses documents. -/
  parser : XmlParser := .plain
  /-- Reads patterns and searches for them. -/
  engine : PatternEngine := .plain
  /-- Tests whether the times of two modes differ. -/
  test : RankTest := .plain
  /-- The backend of invocations that name none. -/
  preferred : Backend := .docker

end ColdStart
